import RocketSim.Aero.Functions
import RocketSim.Definition.Reader

/-!
# Mounting parts on a rocket

Every part of a rocket is read from one dictionary of the simulation definition, named
after the dictionary.  A part with a fixed mass gives its mass, its position relative to the
top of its stage and the position of its centre of gravity relative to itself; its moments
of inertia default to one hundredth of its mass about each axis, so that no part is a
point mass.

Parts compute their forces from the rocket's state and the air around it, and some of them
need to know about the rocket as a whole: its reference area (the cross section of its
widest body tube), its fineness ratio, whether boundary layers are taken as fully turbulent,
the burn of their stage's motor and the rocket's current mass properties.  `Airframe`
carries these.
-/

namespace RocketSim
namespace Vehicle

/-- What a part needs to know about the rocket carrying it to compute its force: the
reference area, the fineness ratio (absent without body parts), whether boundary layers are
fully turbulent, the engine shut-off time and the ignition time of the motor of its stage
(none without a motor), and the rocket's mass properties at a time and state. -/
structure Airframe where
  refArea : Float
  finenessRatio : Value
  fullyTurbulent : Bool
  stageShutOff : Value
  stageIgnition : Option Value
  rocketInertia : Value → Value → Sim Value

/-- Mass properties of nothing: zero moments at the origin and the integer mass zero. -/
def zeroInertia : Value := Construct.inertia (.vec Vec3.zero) (.vec Vec3.zero) (.int 0) none

/-- No force at all, at the origin. -/
def zeroForce : Value := Construct.forceMoment (.vec Vec3.zero) none none

/-- The mass properties and position of a part of fixed mass, read from its dictionary: the
position is taken from the top of the stage, the centre of gravity from the part's position,
and missing or unreadable moments of inertia default to a hundredth of the mass about each
axis. -/
def readFixedMass (r : Reader) (stagePosition : Vec3) : Config (Vec3 × Value) := do
  let mass ← r.getFloat "mass"
  let position := (← r.getVector "position").add stagePosition
  let cg := (← r.getVector "cg").add position
  let moi ← tryCatch (r.getVector "MOI") fun _ =>
    pure ⟨mass * 0.01, mass * 0.01, mass * 0.01⟩
  pure (position, Construct.inertia (.vec moi) (.vec cg) (.float mass) none)

/-- The value of π in binary64. -/
def pi : Float := 3.141592653589793

/-- A number raised to a power, with the faults of the number algebra. -/
def powF (x y : Float) : Sim Float := Sim.lift (Real.pow x y)

/-- A quotient, failing on division by zero. -/
def divF (x y : Float) : Sim Float := Sim.lift (Real.div x y)

end Vehicle
end RocketSim
