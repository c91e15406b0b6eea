import RocketSim.Core.Ops
import RocketSim.Core.Methods

/-!
# Launch rails

A launch rail is a straight guide of a given length from an initial position along an
initial direction, both fixed to the earth's surface and so turning with the earth about
the global `z` axis.  While a vehicle is on the rail only the component of the applied
force along the rail acts, with no moment, and a vehicle that would slide off the bottom
is held at the bottom, moving with the rail.
-/

namespace RocketSim

/-- A launch rail: its initial position and unit direction in the global frame, its length
and the earth's rotation rate. -/
structure LaunchRail where
  initialPosition : Value
  initialDirection : Value
  length : Value
  earthRotationRate : Value
  deriving Inhabited

namespace LaunchRail

/-- Calls a method of a value for its result. -/
def call (v : Value) (name : String) (args : List Value) : Sim Value := do
  let (r, _) ← Sim.lift (Methods.call v name args [])
  pure r

/-- A rail from a position, a direction (normalized here), a length and a rotation rate. -/
def make (position direction length rate : Value) : Sim LaunchRail := do
  pure { initialPosition := position, initialDirection := ← call direction "normalize" [],
         length, earthRotationRate := rate }

/-- The rotation of the earth after a time. -/
def rotationAt (r : LaunchRail) (time : Value) : Sim Value := do
  Sim.lift (Construct.quaternion (.vec ⟨0.0, 0.0, 1.0⟩) (← Ops.mul r.earthRotationRate time)
    .null .null)

/-- The position of the rail's bottom at a time. -/
def position (r : LaunchRail) (time : Value) : Sim Value := do
  call (← r.rotationAt time) "rotate" [r.initialPosition]

/-- The rail's direction at a time. -/
def direction (r : LaunchRail) (time : Value) : Sim Value := do
  call (← r.rotationAt time) "rotate" [r.initialDirection]

/-- The velocity of the rail's bottom at a time. -/
def velocity (r : LaunchRail) (time : Value) : Sim Value := do
  let pos ← r.position time
  let w ← Sim.lift (Construct.angularVelocity (.int 0) (.int 0) r.earthRotationRate)
  call w "crossProduct" [pos]

/-- The force on a vehicle in a state: along the rail and without moment while the vehicle
is within the rail's length of its bottom, unchanged afterwards. -/
def constrainForce (r : LaunchRail) (state time force : Value) : Sim Value := do
  let offset ← Ops.sub (← Ops.attr state "position") (← r.position time)
  let travelled ← call offset "length" []
  if ← Ops.lt travelled r.length then
    let along ← Ops.mul (← Ops.attr force "force") (← r.direction time)
    let f ← Ops.mul r.initialDirection along
    pure (Construct.forceMoment f none none)
  else pure force

/-- Holds a vehicle on the rail: whether it is still on the rail, and its state, moved back
to the bottom of the rail (moving with it) when it has slid below it. -/
def constrainMotion (r : LaunchRail) (state time : Value) : Sim (Bool × Value) := do
  let pos ← r.position time
  let dir ← r.direction time
  let travelled ← Ops.mul (← Ops.sub (← Ops.attr state "position") pos) dir
  if ← Ops.lt travelled r.length then
    if ← Ops.le travelled (.int 0) then
      let state ← Sim.lift (Arith.setAttr Arith.depth state "position" pos)
      let along ← Ops.mul (← Ops.attr state "velocity") dir
      if ← Ops.lt along (.int 0) then
        let v ← r.velocity time
        let state ← Sim.lift (Arith.setAttr Arith.depth state "velocity" v)
        return (true, state)
      return (true, state)
    return (true, state)
  else return (false, state)

end LaunchRail
end RocketSim
