import RocketSim.Environment.Atmosphere
import RocketSim.Environment.Earth
import RocketSim.Environment.MeanWindModel
import RocketSim.Environment.Turbulence
import RocketSim.Environment.LaunchRail

/-!
# The environment

The environment of a flight ties together the models of mean wind, turbulence,
atmosphere and earth, the launch site (elevation, latitude and longitude) and, when the
launch site has a rail of positive length, the launch rail, aligned with the rocket's
initial orientation and placed in the global frame.

It answers a vehicle's questions in the global frame:

* the air conditions at a position: the altitude above sea level, the atmosphere's
  properties there, and the wind (mean wind at the altitude above ground plus the surface
  speed of the rotating earth, and turbulence), rotated from the local east-north-up frame
  into the global frame;
* gravity, as a force at the centre of gravity in the vehicle's frame;
* the rail's constraints on force and motion; the rail is dropped once the vehicle has
  left it.
-/

namespace RocketSim

/-- The environment of a flight. -/
structure Environment where
  meanWind : MeanWindModel
  turbulence : Option TurbulenceModel
  atmosphere : AtmosphereModel
  earth : EarthModel
  elevation : Value
  latitude : Value
  longitude : Value
  launchRail : Option LaunchRail
  deriving Inhabited

namespace Environment

/-- Calls a method of a value, keeping the receiver as the call leaves it. -/
def callOn (v : Value) (name : String) (args : List Value) : Sim (Value × Value) :=
  Sim.lift (Methods.call v name args [])

/-- The launch rail of the settings, for a rail of the given length: aligned with the
rocket's initial orientation (a rotation axis and angle, or the rotation from vertical to
its initial direction) at its initial position above the launch site. -/
def configureRail (r : Reader) (earth : EarthModel) (elevation latitude longitude : Value)
    (length : Float) : Config LaunchRail := do
  let position ← r.getVector "Rocket.position"
  let orientation ← match ← r.tryGetVector "Rocket.rotationAxis" with
    | some axis => do
      let angle := Number.radians (← r.getFloat "Rocket.rotationAngle")
      Config.sim (Sim.lift (Construct.quaternion (.vec axis) (.float angle) .null .null))
    | none => do
      let dir := (← r.getVector "Rocket.initialDirection").normalize
      let up : Value := .vec ⟨0.0, 0.0, 1.0⟩
      let (angle, _) ← Config.sim (callOn up "angle" [.vec dir])
      let (axis, _) ← Config.sim (callOn up "crossProduct" [.vec dir])
      Config.sim (Sim.lift (Construct.quaternion axis angle .null .null))
  Config.sim do
    let lift ← Sim.lift (Construct.vector [.int 0, .int 0, elevation])
    let start ← Ops.add (.vec position) lift
    let launchState := Construct.rigidBodyState (some start) none (some orientation) none
    let global ← earth.toGlobal launchState latitude longitude
    let (towerDirection, _) ← callOn (← Ops.attr global "orientation") "rotate"
      [.vec ⟨0.0, 0.0, 1.0⟩]
    LaunchRail.make (← Ops.attr global "position") towerDirection (.float length)
      earth.rotationRate

/-- The environment the definition's `Environment` settings describe. -/
def configure : Config Environment := do
  let r : Reader := { path := "Environment" }
  let meanWind ← MeanWindModel.configure r
  let turbulence ← TurbulenceModel.configure r
  let atmosphere ← AtmosphereModel.configure r
  let earth ← EarthModel.configure r
  let opt (k : String) : Config Value := do
    pure (((← r.tryGetFloat k).map Value.float).getD .null)
  let elevation ← opt "LaunchSite.elevation"
  let latitude ← opt "LaunchSite.latitude"
  let longitude ← opt "LaunchSite.longitude"
  let railLength ← r.getFloat "LaunchSite.railLength"
  let launchRail ← if railLength > 0.0 then
      some <$> configureRail r earth elevation latitude longitude railLength
    else pure none
  pure { meanWind, turbulence := some turbulence, atmosphere, earth, elevation, latitude,
         longitude, launchRail }

/-- The environment of the default settings, without a definition: no turbulence. -/
def byDefault : Sim Environment := do
  let meanWind ← MeanWindModel.byDefault
  let atmosphere ← AtmosphereModel.byDefault
  let number (k : String) : Sim Value := do
    match (Definition.defaultValues.find? (·.1 == k)).map (·.2) with
    | some t => match FloatText.parse t with
      | some x => pure (.float x)
      | none => Sim.fail Fault.badValue
    | none => Sim.fail (Fault.missingKey k)
  pure { meanWind, turbulence := none, atmosphere, earth := .flat,
         elevation := ← number "Environment.LaunchSite.elevation",
         latitude := ← number "Environment.LaunchSite.latitude",
         longitude := ← number "Environment.LaunchSite.longitude", launchRail := none }

/-- The components of a position. -/
def coordinates (position : Value) : Sim (Value × Value × Value) :=
  match position.items? with
  | some [x, y, z] => pure (x, y, z)
  | _ => Sim.fail Fault.typeMismatch

/-- Converts a launch-tower-frame state into the global frame: its height is first measured
from sea level, and on a rail its angular velocity is zeroed. -/
def toGlobal (e : Environment) (state : Value) : Sim Value := do
  let pos ← Ops.add (← Ops.attr state "position")
    (← Sim.lift (Construct.vector [.int 0, .int 0, e.elevation]))
  let state ← Sim.lift (Arith.setAttr Arith.depth state "position" pos)
  let state ← if e.launchRail.isSome then
      Sim.lift (Arith.setAttr Arith.depth state "angularVelocity" (.angVel Vec3.zero))
    else pure state
  e.earth.toGlobal state e.latitude e.longitude

/-- Converts a global-frame state into the local east-north-up frame under the vehicle (its
position reduced to the altitude). -/
def toEnu (e : Environment) (state : Value) : Sim Value := do
  let (x, y, z) ← coordinates (← Ops.attr state "position")
  let altitude ← e.earth.altitude x y z
  let position ← Sim.lift (Construct.vector [.int 0, .int 0, altitude])
  let toEnu ← e.earth.toEnu x y z
  let (toGlobalRot, _) ← callOn toEnu "conjugate" []
  let (velocity, toGlobalRot) ← callOn toGlobalRot "rotate" [← Ops.attr state "velocity"]
  match state with
  | .state _ _ orientation angularVelocity => do
    let o ← Ops.mul toGlobalRot orientation
    let (w, _) ← callOn toGlobalRot "rotate" [angularVelocity]
    pure (.state position velocity o w)
  | _ => pure (.pointState position velocity)

/-- The mean and turbulent wind at an altitude above ground, in the east-north-up frame;
returns the environment as the turbulence draw leaves it. -/
def wind (e : Environment) (agl time : Value) : Sim ((Value × Value) × Environment) := do
  let mean ← e.meanWind.meanWind agl
  match e.turbulence with
  | some t => do
    let (turb, t) ← t.velocity agl mean time
    pure ((mean, turb), { e with turbulence := some t })
  | none => pure ((mean, .vec Vec3.zero), e)

/-- The air conditions at a position of the global frame. -/
def conditions (e : Environment) (position time : Value) : Sim (Value × Environment) := do
  let (x, y, z) ← coordinates position
  let asl ← e.earth.altitude x y z
  let agl ← Ops.sub asl e.elevation
  let ((mean, turb), e) ← e.wind agl time
  let px ← Ops.attr position "X"
  let py ← Ops.attr position "Y"
  let d ← Sim.lift (Real.sqrt (← Ops.real (← Ops.add (← Ops.pow px (.int 2)) (← Ops.pow py (.int 2)))))
  let speed ← Ops.mul e.earth.rotationRate (.float d)
  let mean ← Ops.add mean (← Sim.lift (Construct.vector [speed, .int 0, .int 0]))
  let rot ← e.earth.toEnu x y z
  let (mean, rot) ← callOn rot "rotate" [mean]
  let (turb, _) ← callOn rot "rotate" [turb]
  let total ← Ops.add mean turb
  let props ← e.atmosphere.properties asl
  let props ← match props.items? with
    | some [a, b, c, d] => pure [a, b, c, d]
    | _ => Sim.fail Fault.typeMismatch
  pure (.conditions ([asl] ++ props ++ [total, mean, turb]), e)

/-- Applies the rail's motion constraint to a state; the rail is dropped once left. -/
def constrainMotion (e : Environment) (state time : Value) : Sim (Value × Environment) := do
  match e.launchRail with
  | none => pure (state, e)
  | some rail => do
    let (onRail, state) ← rail.constrainMotion state time
    pure (state, if onRail then e else { e with launchRail := none })

/-- Applies the rail's force constraint. -/
def constrainForce (e : Environment) (state time force : Value) : Sim Value := do
  match e.launchRail with
  | none => pure force
  | some rail => rail.constrainForce state time force

/-- The gravity force on a body, in its own frame when it has an orientation, acting at its
centre of gravity. -/
def gravity (e : Environment) (inertia state : Value) : Sim Value := do
  let g ← e.earth.gravity inertia state
  let inBody ← tryCatch (do
      let o ← Ops.attr state "orientation"
      let (c, _) ← callOn o "conjugate" []
      let (r, _) ← callOn c "rotate" [g]
      pure r)
    fun f => if f.kind == .attributeError then pure g else throw f
  pure (Construct.forceMoment inBody (some (← Ops.attr inertia "CG")) none)

end Environment
end RocketSim
