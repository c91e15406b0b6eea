import RocketSim.Core.Ops
import RocketSim.Core.Methods
import RocketSim.Motion.Construct

/-!
# Stabilizing navigation

A stabilizer keeps a vehicle pointed along a fixed flight direction: its target orientation
is the rotation of the vertical onto that direction, about the axis perpendicular to both.
-/

namespace RocketSim

/-- The orientation that turns the vertical onto a direction. -/
def orientationAlong (direction : Value) : Sim Value := do
  let up : Value := .vec ⟨0.0, 0.0, 1.0⟩
  let (dir, _) ← Sim.lift (Methods.call direction "normalize" [] [])
  let (angle, _) ← Sim.lift (Methods.call up "angle" [dir] [])
  let (axis, _) ← Sim.lift (Methods.call up "crossProduct" [dir] [])
  Sim.lift (Construct.quaternion axis angle .null .null)

/-- A stabilizer: its target orientation. -/
structure Stabilizer where
  target : Value
  deriving Inhabited

namespace Stabilizer

/-- The stabilizer of a desired flight direction. -/
def make (direction : Value) : Sim Stabilizer := do
  pure { target := ← orientationAlong direction }

end Stabilizer
end RocketSim
