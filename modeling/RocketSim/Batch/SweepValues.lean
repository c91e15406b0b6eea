import RocketSim.Definition.Sampling
import RocketSim.Core.Show

/-!
# Values of a parameter sweep

A regression case that sweeps a parameter lists the values as text: either values separated
by commas (each kept as written, blanks included), or a range `first:count:last` of `count`
evenly spaced values from `first` to `last`.  The ends of a range are numbers when both
read as numbers and vectors otherwise; a vector range spaces each component on its own.
The values of a range are written back as the display text of each number or vector.

Evenly spaced values are `first + i · step` with `step = (last - first) / (count - 1)`, the
last one exactly `last`; when the step rounds to zero each value is computed as
`first + (i / (count - 1)) · (last - first)` instead, and a range of one value holds
`first + 0 · (last - first)`.
-/

namespace RocketSim
namespace Batch

/-- `count` evenly spaced values from `first` to `last`, both included. -/
def evenlySpaced (first last : Float) (count : Nat) : List Float :=
  let delta := last - first
  match count with
  | 0 => []
  | 1 => [0.0 * delta + first]
  | n + 2 =>
    let div := (n + 1).toFloat
    let step := delta / div
    let inner := (List.range (n + 1)).map fun i =>
      if step == 0.0 then i.toFloat / div * delta + first else i.toFloat * step + first
    inner ++ [last]

/-- The values of a range `first:count:last`, as display text.  A range whose first end
reads as a number is a number range, and its last end must read as one too; a negative
count is refused. -/
def rangeValues (firstText countText lastText : String) : Sim (List Value) := do
  let some count := FloatText.parseInt countText | Sim.fail Fault.badValue
  let n := count.toNat
  match FloatText.parse firstText with
  | some a =>
    let some b := FloatText.parse lastText | Sim.fail Fault.noAttribute
    if count < 0 then Sim.fail Fault.noAttribute
    (evenlySpaced a b n).mapM fun x => do pure (.str (← Sim.lift (Show.str (.float x))))
  | none =>
    let a ← Sim.lift (Definition.vectorOf (.str firstText))
    let b ← Sim.lift (Definition.vectorOf (.str lastText))
    if count < 0 then Sim.fail Fault.badValue
    let xs := evenlySpaced a.x b.x n
    let ys := evenlySpaced a.y b.y n
    let zs := evenlySpaced a.z b.z n
    ((xs.zip (ys.zip zs)).map fun (x, y, z) => Value.vec ⟨x, y, z⟩).mapM fun v => do
      pure (.str (← Sim.lift (Show.str v)))

/-- The values of a sweep's text: a range when it holds a colon, otherwise the pieces
between commas. -/
def sweepValues (text : String) : Sim (List Value) := do
  if Str.containsStr text ":" then
    match Str.splitOn text ":" with
    | [a, n, b] => rangeValues a n b
    | _ => Sim.fail Fault.badValue
  else pure ((Str.splitOn text ",").map Value.str)

end Batch
end RocketSim
