import RocketSim.Core.Ops
import RocketSim.Numeric.Exact

/-!
# Means of numbers

The arithmetic mean of a list of numbers is computed exactly and rounded once: integers
and binary64 numbers are summed as rationals, the sum is divided by the count, and the
result is an integer when every item is an integer and the mean is whole, otherwise the
nearest binary64 number.  A list with an infinity or a NaN has the mean its binary64 sum
gives.  An empty list has no mean.
-/

namespace RocketSim
namespace Stats

/-- The statistics fault of an empty list. -/
def emptyFault : Fault := Fault.bare (.other "StatisticsError")

/-- The exact value of a number, if it is finite. -/
def exactValue (v : Value) : Sim (Option Rat) :=
  match v with
  | .bool b => pure (some (if b then 1 else 0))
  | .int n => pure (some (n : Rat))
  | .float x | .arrayScalar x => pure (Binary64.toRat? x)
  | _ => Sim.fail Fault.typeMismatch

/-- The arithmetic mean of a list of numbers, rounded once. -/
def mean (xs : List Value) : Sim Value := do
  if xs.isEmpty then Sim.fail emptyFault
  let exact ← xs.mapM exactValue
  let allInts := xs.all fun v => match v with
    | .int _ | .bool _ => true
    | _ => false
  if exact.all Option.isSome then
    let total := (exact.filterMap id).foldl (· + ·) 0
    let m := total / (xs.length : Rat)
    if allInts && m.den == 1 then pure (.int m.num)
    else pure (.float (Binary64.ofRat m))
  else
    let floats ← xs.mapM Ops.real
    pure (.float (floats.foldl (· + ·) 0.0 / xs.length.toFloat))

end Stats
end RocketSim
