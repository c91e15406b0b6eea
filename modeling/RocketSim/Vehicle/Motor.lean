import RocketSim.Vehicle.Mounting
import RocketSim.Tables.Interpolation
import RocketSim.Tables.NumberTable

/-!
# Tabulated motors

A motor is described by a text file: comments start with `#`, blank lines are ignored; four
lines give the axial positions of the oxidizer's and the fuel's centres of gravity at
ignition and at burnout (the second word of each line, measured from the top of the stage),
and every further line gives a time, the thrust, the oxidizer and fuel flow rates and, in
parentheses, the moments of inertia of the oxidizer and of the fuel.

The thrust is scaled by an impulse factor and the time axis by a burn-time factor, keeping
the thrust curve's shape (so the thrust is divided by the burn-time factor too).  The file's
last time, unscaled, is kept as the motor's raw burnout time.  The
propellant masses left at each tabulated time are the trapezoid-rule integrals of the flow
rates from that time to burnout, which matches the linear interpolation used everywhere
else.  Between tabulated times, masses and moments of inertia are interpolated linearly and
each propellant's centre of gravity moves with the fraction burnt.

A motor ignites at time zero, except in an upper stage, which waits for the separation of
the stage below; its thrust is zero after burnout.
-/

namespace RocketSim
namespace Vehicle

/-- A tabulated motor. -/
structure Motor where
  classType : Value
  ignitionTime : Value
  impulseAdjust : Float
  burnTimeAdjust : Float
  initOxCG : Float
  finalOxCG : Float
  initFuelCG : Float
  finalFuelCG : Float
  times : List Float
  thrustLevels : List Float
  oxWeights : List Value
  fuelWeights : List Value
  oxMOIs : List Value
  fuelMOIs : List Value
  initialOx : Value
  initialFuel : Value
  rawBurnout : Value
  deriving Inhabited

namespace Motor

/-! ## The thrust curve

The thrust curve's arithmetic is written over any numbers: the simulator runs it over binary64
values, and over the reals it is exact. -/

section Curve

variable {α : Type} [Scalar α]

/-- A thrust curve adjusted by an impulse factor `a` and a burn-time factor `k`: the times
stretched by `k` and every thrust level scaled by `a` and divided by `k`, keeping the curve's
shape; fails when `k` is zero. -/
def adjustCurve (a k : α) (times thrusts : List α) : Outcome (List α × List α) := do
  let thrusts ← thrusts.mapM fun f => Real.div (f * a) k
  pure (times.map (· * k), thrusts)

/-- The trapezoid-rule integral of values tabulated at `times`, from the first time to the
last; zero for fewer than two points. -/
def trapezoid (times values : List α) : α :=
  (List.range' 1 (times.length - 1)).foldl (fun total i =>
    total + (times.getD i 0.0 - times.getD (i - 1) 0.0) *
      (values.getD (i - 1) 0.0 + values.getD i 0.0) / 2.0) 0.0

end Curve

/-- A number of a motor file as a binary64 value. -/
def number (word : String) : Sim Float :=
  match FloatText.parse word with
  | some x => pure x
  | none => Sim.fail Fault.badValue

/-- The word at a position of a line of a motor file. -/
def word (words : List String) (i : Nat) : Sim String :=
  match words[i]? with
  | some w => pure w
  | none => Sim.fail Fault.badIndex

/-- The text from the first occurrence of a character at or after a position. -/
def findFrom (line : String) (c : Char) (start : Nat) : Sim Nat :=
  match ((line.toList.drop start).findIdx? (· == c)) with
  | some i => pure (start + i)
  | none => Sim.fail Fault.badValue

/-- The two parenthesised vectors of a data line. -/
def vectorsOf (line : String) : Sim (Value × Value) := do
  let a ← findFrom line '(' 0
  let b := (← findFrom line ')' a) + 1
  let c ← findFrom line '(' b
  let d := (← findFrom line ')' c) + 1
  let slice (i j : Nat) : String := Str.take (Str.drop line i) (j - i)
  let ox ← Sim.lift (Construct.vector [.str (slice a b)])
  let fuel ← Sim.lift (Construct.vector [.str (slice c d)])
  pure (ox, fuel)

/-- The remaining masses of a propellant at each tabulated time: the trapezoid-rule
integral of its flow rate to the last time (integer zero there). -/
def remaining (times rates : List Value) : Sim (List Value × Value) := do
  let n := times.length
  (List.range (n - 1)).reverse.foldlM (fun (acc : List Value × Value) j => do
    let (ws, total) := acc
    let i := j + 1
    let dt ← Ops.sub (times.getD i .null) (times.getD j .null)
    let sum ← Ops.add (rates.getD j .null) (rates.getD i .null)
    let total ← Ops.add total (← Ops.div (← Ops.mul dt sum) (.int 2))
    pure (total :: ws, total)) ([.int 0], .int 0)

/-- A motor read from its file, for a stage at a height, with impulse and burn-time
factors. -/
def load (text : String) (stageZ : Float) (classType : Value) (impulseAdjust burnTimeAdjust : Float) :
    Sim Motor := do
  let lines := (Str.splitOn text "\n").map NumberTable.uncommented
  let lines := lines.filter fun l => !(Str.strip l).isEmpty
  let cgOf (i : Nat) : Sim Float := do
    let line ← match lines[i]? with
      | some l => pure l
      | none => Sim.fail Fault.badIndex
    pure ((← number (← word (Str.splitWs line) 1)) + stageZ)
  let initOxCG ← cgOf 0
  let finalOxCG ← cgOf 1
  let initFuelCG ← cgOf 2
  let finalFuelCG ← cgOf 3
  let rows ← (lines.drop 4).mapM fun line => do
    let ws := Str.splitWs line
    let t ← number (← word ws 0)
    let thrust ← number (← word ws 1)
    let ox ← number (← word ws 2)
    let fuel ← number (← word ws 3)
    let (oxMOI, fuelMOI) ← vectorsOf line
    pure (t, thrust, ox, fuel, oxMOI, fuelMOI)
  let rawTimes := rows.map (·.1)
  let rawBurnout ← match rawTimes.getLast? with
    | some t => pure (Value.float t)
    | none => Sim.fail Fault.badIndex
  let (times, thrustLevels) ←
    Sim.lift (adjustCurve impulseAdjust burnTimeAdjust rawTimes (rows.map (·.2.1)))
  let (oxWeights, initialOx) ← remaining (times.map .float) (rows.map fun r => .float r.2.2.1)
  let (fuelWeights, initialFuel) ←
    remaining (times.map .float) (rows.map fun r => .float r.2.2.2.1)
  pure { classType, ignitionTime := .int 0, impulseAdjust, burnTimeAdjust, initOxCG, finalOxCG,
         initFuelCG, finalFuelCG, times, thrustLevels, oxWeights, fuelWeights,
         oxMOIs := rows.map (·.2.2.2.2.1), fuelMOIs := rows.map (·.2.2.2.2.2),
         initialOx, initialFuel, rawBurnout }

/-- The time since ignition, never negative (the integer zero before ignition). -/
def sinceIgnition (m : Motor) (time : Value) : Sim Value := do
  let d ← Ops.sub time m.ignitionTime
  if ← Ops.gt d (.int 0) then pure d else pure (.int 0)

/-- The mass properties of one propellant at a time since ignition. -/
def propellant (m : Motor) (initial : Value) (weights mois : List Value) (initCG finalCG : Float)
    (t : Value) : Sim Value := do
  if ← Ops.eq initial (.int 0) then return zeroInertia
  let w ← Interpolation.linear (m.times.map .float) weights t
  let burnt ← Ops.sub (.int 1) (← Ops.div w initial)
  let z ← Ops.add (← Ops.mul (.float initCG) (← Ops.sub (.int 1) burnt))
    (← Ops.mul (.float finalCG) burnt)
  let cg ← Sim.lift (Construct.vector [.int 0, .int 0, z])
  let moi ← Interpolation.linear (m.times.map .float) mois t
  pure (Construct.inertia moi cg w none)

/-- The mass properties of the propellant left at a time. -/
def inertiaAt (m : Motor) (time : Value) : Sim Value := do
  let t ← m.sinceIgnition time
  let ox ← m.propellant m.initialOx m.oxWeights m.oxMOIs m.initOxCG m.finalOxCG t
  let fuel ← m.propellant m.initialFuel m.fuelWeights m.fuelMOIs m.initFuelCG m.finalFuelCG t
  Ops.add ox fuel

/-- The thrust at a time: the integer zero before ignition and once the time since ignition
is past the last tabulated time, the interpolated thrust level in between. -/
def thrustAt (m : Motor) (time : Value) : Sim Value := do
  let t ← m.sinceIgnition time
  let last ← Interpolation.itemAt (m.times.map .float) (-1)
  if (← Ops.lt t (.int 0)) || (← Ops.gt t last) then pure (.int 0)
  else Interpolation.linear (m.times.map .float) (m.thrustLevels.map .float) t

/-- The thrust at a time, along the rocket's axis. -/
def force (m : Motor) (time : Value) : Sim Value := do
  let thrust ← m.thrustAt time
  pure (Construct.forceMoment (← Sim.lift (Construct.vector [.int 0, .int 0, thrust])) none none)

/-- The total impulse, integrating the thrust curve by the trapezoid rule; the integer zero
for a curve of one point. -/
def totalImpulse (m : Motor) : Value :=
  if m.times.length < 2 then .int 0 else .float (trapezoid m.times m.thrustLevels)

/-- The time of burnout for an ignition time. -/
def burnoutAfter (m : Motor) (ignition : Value) : Sim Value := do
  Ops.add ignition (← Interpolation.itemAt (m.times.map .float) (-1))

end Motor

end Vehicle
end RocketSim
