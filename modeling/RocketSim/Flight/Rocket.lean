import RocketSim.Flight.Parts
import RocketSim.Control.System
import RocketSim.Motion.RigidBody
import RocketSim.Environment.Basic
import RocketSim.Logs.Flight

/-!
# Rockets in flight

A rocket is one rigid body made of stages, top to bottom.  Besides its stages it carries its
motion (a rigid body with its integrator), the events it watches, its control system, its
logs, and what it knows about itself: its reference area (that of its widest body tube,
fixed for the whole flight so that coefficients stay comparable), its fineness ratio, the
time its engines shut off, and whether it hangs under a parachute.

Every rocket of a simulation (the launched rocket, and each dropped stage flying on as a
rocket of its own) lives in one `World`, with the definition, the environment they share,
and the bookkeeping of the simulation: each rocket's time step, end condition and flight
record, and how many stages have been dropped.  Work on a rocket runs in `Mission`, which
carries the world along, and names the rocket by its place in the world.

The mass properties of a rocket combine those of its stages; its force is the sum of its
stages' forces moved to its centre of gravity, plus gravity, with the launch rail holding it
while it is on the rail.  Under a parachute only the parachute's drag and gravity act.
-/

namespace RocketSim
namespace Flight

open Vehicle

/-- A rocket, or a dropped stage flying on its own. -/
structure Rocket where
  uid : Nat
  name : Value
  dropped : Option Int
  stages : List Stage
  recovery : Option (Nat × Nat) := none
  body : RigidBody
  extras : List String := []
  underChute : Bool := false
  mainChuteDeployTime : Value := .null
  engineShutOff : Value := .null
  turbulenceOffUnderChute : Bool
  maxDiameter : Value
  refArea : Float
  events : List Subscription := []
  lastCheck : Option (Value × Value) := none
  eventTimeStep : Float
  addBoatTails : Bool
  fullyTurbulent : Bool
  roughness : Float
  finenessRatio : Value := .null
  loggingLevel : Int
  stepLog : Option Log := none
  forceLog : Option Log := none
  componentColumns : Bool := true
  control : Option ControlSystem := none
  deriving Inhabited

/-- When a rocket's flight ends: past apogee, at or above an altitude (for a rocket starting
below it), at or below an altitude above ground, or at a time. -/
inductive Ending where
  | apogee
  | above (altitude : Float)
  | below (altitude : Float)
  | timeReached (time : Float)
  deriving Inhabited

/-- A simulation: its definition, the shared environment, and for each rocket flying (the
launched one first) its time step, its end condition and its flight record; the number of
stages dropped so far (absent for a simulation that has not launched a rocket), whether
dropped stages fly on, the logging level, the console output so far, and whether a failed
step ends the simulation as a crash (logs written, then an exit) rather than with its own
fault. -/
structure World where
  definition : Definition
  environment : Environment
  rockets : List Rocket := []
  dts : List Value := []
  endings : List Ending := []
  flights : List FlightRecord := []
  stagingIndex : Value := .null
  dropPaths : Bool
  loggingLevel : Int
  console : List String := []
  crashExits : Bool := true
  deriving Inhabited

/-- Work on a simulation. -/
abbrev Mission := StateT World Sim

namespace Mission

/-- Lifts a session computation. -/
def sim {α : Type} (m : Sim α) : Mission α := StateT.lift m

/-- Fails with a fault. -/
def fail {α : Type} (f : Fault) : Mission α := sim (Sim.fail f)

/-- Runs a reading of the definition against the world's definition. -/
def config {α : Type} (m : Config α) : Mission α := do
  let w ← get
  let (a, d) ← sim (m.run w.definition)
  modify fun w => { w with definition := d }
  pure a

/-- A line of console output. -/
def print (line : String) : Mission Unit :=
  modify fun w => { w with console := w.console ++ [line] }

/-- The rocket at a place of the world. -/
def rocket (i : Nat) : Mission Rocket := do
  match (← get).rockets[i]? with
  | some r => pure r
  | none => fail Fault.badIndex

/-- Replaces the rocket at a place of the world. -/
def setRocket (i : Nat) (r : Rocket) : Mission Unit :=
  modify fun w => { w with rockets := w.rockets.set i r }

/-- Changes the rocket at a place of the world. -/
def modifyRocket (i : Nat) (f : Rocket → Rocket) : Mission Unit := do
  setRocket i (f (← rocket i))

/-- Runs a computation on the shared environment, keeping the environment it leaves. -/
def withEnvironment {α : Type} (f : Environment → Sim (α × Environment)) : Mission α := do
  let (a, e) ← sim (f (← get).environment)
  modify fun w => { w with environment := e }
  pure a

end Mission

namespace Rocket

/-- What the components of a stage of this rocket need to know of it. -/
def airframe (r : Rocket) : Airframe :=
  { refArea := r.refArea, finenessRatio := r.finenessRatio, fullyTurbulent := r.fullyTurbulent,
    stageShutOff := .null, stageIgnition := none,
    rocketInertia := fun t s => Sim.memoized inertiaMemo [objectKey r.uid, t, s] (do
      let parts ← r.stages.mapM (·.inertiaAt t s)
      let (combined, _) ← Sim.lift (Arith.combineInertias Arith.depth zeroInertia
        (zeroInertia :: parts))
      pure combined) }

/-- The rocket's mass properties at a time and state: its stages' combined. -/
def inertiaAt (r : Rocket) (t state : Value) : Sim Value := r.airframe.rocketInertia t state

/-- The rocket's mass at a time and state: the sum of its stages' masses, each read from the
stage's mass properties. -/
def massAt (r : Rocket) (t state : Value) : Sim Value :=
  r.stages.foldlM (fun total s => do
    tryCatch (discard (s.massAt t state)) fun f =>
      if f.kind == .attributeError then pure () else throw f
    Ops.add total (← Ops.attr (← s.inertiaAt t state) "mass")) (.int 0)

/-- The length of the rocket: the sum of its stages' lengths (stages without body parts
count nothing). -/
def length (r : Rocket) : Sim Value :=
  r.stages.foldlM (fun total s => do
    match ← s.length with
    | .null => pure total
    | l => Ops.add total l) (.int 0)

/-- The rocket's fineness ratio: its length over the largest diameter of its stages' body
parts, or absent when it has no body parts. -/
def updateFinenessRatio (r : Rocket) : Sim Rocket := do
  let len ← r.length
  let ds ← r.stages.mapM (·.maxDiameter)
  let biggest ← match ds with
    | [] => Sim.fail Fault.badValue
    | d :: rest => rest.foldlM (fun m x => Ops.max m x) d
  if ← Ops.eq biggest (.int 0) then pure { r with finenessRatio := .null }
  else pure { r with finenessRatio := ← Ops.div len biggest }

/-- The stage of the rocket with a number, and its place. -/
def stageOf? (r : Rocket) (uid : Nat) : Option (Nat × Stage) :=
  (r.stages.zipIdx.find? fun (s, _) => s.uid == uid).map fun (s, i) => (i, s)

/-- The rocket's recovery system. -/
def recoverySystem? (r : Rocket) : Option Recovery := do
  let (stageUid, uid) ← r.recovery
  let (_, s) ← r.stageOf? stageUid
  let c ← s.component? uid
  match c.part with
  | .recovery rec => some rec
  | _ => none

/-- Replaces a component of a stage of the rocket. -/
def setComponent (r : Rocket) (stageUid : Nat) (c : Component) : Rocket :=
  { r with stages := r.stages.map fun s =>
      if s.uid == stageUid then
        { s with components := s.components.map fun d => if d.uid == c.uid then c else d }
      else s }

/-- Appends a value to a column of the force log, if the rocket keeps one. -/
def logForce (r : Rocket) (name : String) (v : Value) : Sim Rocket := do
  match r.forceLog with
  | none => pure r
  | some log => pure { r with forceLog := some (← Sim.lift (log.logValue name v)) }

/-- Opens a row of the force log at a time, if the rocket keeps one. -/
def newForceRow (r : Rocket) (t : Value) : Sim Rocket := do
  match r.forceLog with
  | none => pure r
  | some log => pure { r with forceLog := some (← log.newRow t) }

/-- The sum of the forces on the rocket's stages at its centre of gravity, remembered for
the last arguments; the rocket as the computation leaves its stages, with the components'
forces logged. -/
def componentForces (r : Rocket) (state t env cg : Value) : Sim (Value × Rocket) := do
  let air := r.airframe
  let (v, effects) ← Sim.memoizedWith forceMemo [objectKey r.uid, state, t, env, cg] do
    let start := Construct.forceMoment (.vec Vec3.zero) (some cg) none
    r.stages.foldlM (fun (acc : Value × List Stage × List ForceEntry) s => do
      let (total, stages, log) := acc
      let (f, effect) ← s.force air state t env cg
      let (s, entries) := match effect with
        | some (s, entries) => (s, entries)
        | none => (s, [])
      pure (← Ops.add total f, stages ++ [s], log ++ entries)) (start, [], [])
  match effects with
  | none => pure (v, r)
  | some (stages, entries) =>
    let r := { r with stages }
    if !r.componentColumns then return (v, r)
    let r ← entries.foldlM (fun r (name, force, moment) => do
      let r ← r.logForce (name ++ "F(N)") force
      r.logForce (name ++ "M(Nm)") moment) r
    pure (v, r)

end Rocket

namespace Mission

/-- The air conditions a rocket meets at a time and state; under a parachute, the wind may
be taken without its turbulence. -/
def conditions (i : Nat) (t state : Value) : Mission Value := do
  let position ← sim (Ops.attr state "position")
  let env ← withEnvironment fun e => e.conditions position t
  let r ← rocket i
  if r.underChute && r.turbulenceOffUnderChute then
    match env with
    | .conditions [asl, temp, pressure, density, viscosity, _, mean, _] =>
      pure (.conditions [asl, temp, pressure, density, viscosity, mean, mean, .vec Vec3.zero])
    | _ => fail Fault.typeMismatch
  else pure env

/-- The total force on a rocket at a time and state, as its motion is integrated: the
components' forces (or the parachute's drag) at the centre of gravity, plus gravity, held by
the launch rail; logged when the rocket logs its force evaluations. -/
def appliedForce (i : Nat) (t state : Value) : Mission Value := do
  let env ← conditions i t state
  let r ← rocket i
  let inertia ← sim (r.inertiaAt t state)
  let cg ← sim (Ops.attr inertia "CG")
  let r ← sim (r.newForceRow t)
  let r ← sim (r.logForce "Position(m)" (← sim (Ops.attr state "position")))
  let r ← sim (r.logForce "Velocity(m/s)" (← sim (Ops.attr state "velocity")))
  setRocket i r
  let forces ← if !r.underChute then do
      let mach ← sim (Aero.machNumber [state, env] state env)
      let unitRe ← sim (Aero.reynoldsNumber [state, env, .float 1.0] state env (.float 1.0))
      let aoa ← sim (Aero.totalAOA [state, env] state env)
      let roll ← sim (Aero.rollAngle [state, env] state env)
      let r ← rocket i
      let r ← sim do
        if r.forceLog.isNone then pure r else
        let r ← r.logForce "Mach" mach
        let r ← r.logForce "UnitRe" unitRe
        let r ← r.logForce "AOA(deg)" (.float (Number.degrees (← Ops.real aoa)))
        let r ← r.logForce "RollAngle(deg)" roll
        let r ← r.logForce "OrientationQuaternion" (← Ops.attr state "orientation")
        r.logForce "AngularVelocity(rad/s)" (← Ops.attr state "angularVelocity")
      let (forces, r) ← sim (r.componentForces state t env cg)
      setRocket i r
      pure forces
    else do
      let r ← rocket i
      let some rec := r.recoverySystem? | fail Fault.noAttribute
      let forces ← sim (rec.force state env)
      match r.recovery with
      | some (_, uid) =>
        match (r.stages.findSome? fun s => s.component? uid) with
        | some c => do
          if r.componentColumns then
            let r ← sim (r.logForce (c.logName ++ "F(N)") (← sim (Ops.attr forces "force")))
            let r ← sim (r.logForce (c.logName ++ "M(Nm)") (← sim (Ops.attr forces "moment")))
            setRocket i r
        | none => pure ()
      | none => pure ()
      pure forces
  let (forces, _) ← sim (Sim.lift (Methods.call forces "getAt" [cg] []))
  let gravity ← withEnvironment fun e => do pure (← e.gravity inertia state, e)
  let total ← sim (Ops.add forces gravity)
  let total ← withEnvironment fun e => do pure (← e.constrainForce state t total, e)
  let r ← rocket i
  if r.forceLog.isSome then
    let r ← sim do
      let r ← r.logForce "Wind(m/s)" (← Ops.attr env "Wind")
      let r ← r.logForce "AirDensity(kg/m^3)" (← Ops.attr env "Density")
      let r ← r.logForce "CG(m)" cg
      let r ← r.logForce "MOI(kg*m^2)" (← Ops.attr inertia "MOI")
      let r ← r.logForce "Mass(kg)" (← Ops.attr inertia "mass")
      let r ← r.logForce "CPZ(m)" (← Aero.centerOfPressureZ forces)
      let r ← r.logForce "AeroF(N)" (← Ops.attr forces "force")
      let r ← r.logForce "AeroM(Nm)" (← Ops.attr forces "moment")
      let r ← r.logForce "GravityF(N)" (← Ops.attr gravity "force")
      r.logForce "TotalF(N)" (← Ops.attr total "force")
    setRocket i r
  pure total

/-- The rocket's mass properties at a time and state. -/
def inertia (i : Nat) (t state : Value) : Mission Value := do
  sim ((← rocket i).inertiaAt t state)

/-- The rocket's mass at a time and state. -/
def mass (i : Nat) (t state : Value) : Mission Value := do
  sim ((← rocket i).massAt t state)

end Mission

end Flight
end RocketSim
