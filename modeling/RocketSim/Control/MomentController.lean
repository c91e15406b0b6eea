import RocketSim.Control.Pid
import RocketSim.Core.Methods

/-!
# Moment controllers

A moment controller turns the gap between a vehicle's orientation and its target
orientation into the moments it asks its actuators for.  The gap is the rotation vector of
the quotient of the target by the current orientation; a PID controller works on its three
components at once, with one set of gains for pitch and yaw (the first two axes) and another
for roll.
-/

namespace RocketSim

/-- The numeric array of some numbers: integers when all of them are, binary64 numbers
otherwise. -/
def numericArray (xs : List Value) : Sim Value := do
  let allInts := xs.all fun x => match x with
    | .int _ | .bool _ => true
    | _ => false
  if allInts then
    pure (.array (xs.map fun x => match x with
      | .bool b => .int (if b then 1 else 0)
      | other => other))
  else
    (.array ·) <$> xs.mapM fun x => do pure (.float (← Ops.real x))

/-- The per-axis gains of a pitch-and-yaw value and a roll value. -/
def axisGains (pitchYaw roll : Value) : Sim Value := numericArray [pitchYaw, pitchYaw, roll]

/-- The orientation error of a state with respect to a target orientation, as a numeric
array: the rotation vector of `target / orientation`. -/
def orientationError (state target : Value) : Sim Value := do
  let q ← Ops.div target (← Ops.attr state "orientation")
  let (v, _) ← Sim.lift (Methods.call q "toRotationVector" [] [])
  numericArray (← Sim.lift (Arith.iterItems v))

namespace Pid

/-- A controller with constant gains, pitch-and-yaw gains first, then roll gains. -/
def momentController (pxy ixy dxy pz iz dz : Value) : Sim Pid := do
  let c ← Pid.make (.int 0) (.int 0) (.int 0)
  c.retune (← axisGains pxy pz) (← axisGains ixy iz) (← axisGains dxy dz)

/-- The moments that steer a state towards a target orientation, `dt` after the last
control step; returns the controller with its error history updated. -/
def desiredMoments (c : Pid) (state target dt : Value) : Sim (Value × Pid) := do
  c.step (← orientationError state target) dt

end Pid
end RocketSim
