import RocketSim.Vehicle.Stage
import RocketSim.Flight.Events
import RocketSim.Logs.Log

/-!
# Reading the parts of a rocket

A rocket's stages are the dictionaries directly inside `Rocket` (apart from its control
system, hardware and aerodynamics settings), and a stage's components are the dictionaries
directly inside the stage's, each naming its kind in its `class` entry.  Body parts (nose
cones, body tubes, transitions and boat tails) are read before the other components of a
stage, so that parts mounted on the body can ask for its radius; within each group, by the
dictionaries' names.

Reading a component may tell the rocket something: a motor sets its stage's motor and the
time its engine shuts off, and moves the rocket's engine shut-off time to the latest of its
motors'; a recovery system becomes the rocket's recovery system and subscribes its first
parachute's trigger; and when the rocket logs the forces of every evaluation, each
component gets a force and a moment column.  These notes are kept in an `Assembly`, which
reading threads along.
-/

namespace RocketSim
namespace Flight

open Vehicle

/-- What the rocket learns while its parts are read. -/
structure Assembly where
  roughness : Float
  engineShutOff : Value := .null
  recovery : Option (Nat × Nat) := none
  events : List Subscription := []
  forceLog : Option Log := none

/-- Reading parts: a reading of the definition that keeps an assembly. -/
abbrev Assembling := StateT Assembly Config

namespace Assembling

/-- Lifts a reading of the definition. -/
def config {α : Type} (m : Config α) : Assembling α := StateT.lift m

/-- Lifts a session computation. -/
def sim {α : Type} (m : Sim α) : Assembling α := config (Config.sim m)

/-- Fails with a fault. -/
def fail {α : Type} (f : Fault) : Assembling α := sim (Sim.fail f)

end Assembling

/-- Subscribes a watched event. -/
def Assembly.subscribe (a : Assembly) (s : Subscription) : Assembly :=
  { a with events := a.events ++ [s] }

/-- The subscription of a recovery system's next parachute: its trigger, the trigger's
value and the delay, as the system's settings for that parachute give them. -/
def recoveryTrigger (r : Recovery) (stageUid uid : Nat) : Sim Subscription := do
  let next := r.currentStage + 1
  let trigger ← Interpolation.itemAt r.triggers next
  let value ← Interpolation.itemAt r.triggerValues next
  let delay ← Interpolation.itemAt r.delays next
  let condition ← Condition.ofTrigger trigger
  pure { reaction := .deployRecovery stageUid uid, value, condition, delay }

/-- A column for a component's force or moment, filled with zero vectors. -/
def addForceColumn (log : Log) (name : String) : Sim Log := do
  let (log, _) ← Sim.lift (log.addColumn name (.vec Vec3.zero))
  pure log

/-- Adds the force and moment columns of a component known by a path (its name after the
path's first part) to the force log, if the rocket keeps one. -/
def logForcesOf (path : String) : Assembling Unit := do
  let a ← get
  match a.forceLog with
  | none => pure ()
  | some log =>
    let name ← match Str.findStr path "." with
      | some i => pure (Str.drop path (i + 1))
      | none => Assembling.fail Fault.badValue
    let log ← Assembling.sim (addForceColumn log (name ++ "F(N)"))
    let log ← Assembling.sim (addForceColumn log (name ++ "M(Nm)"))
    set { a with forceLog := some log }

/-- The kind and data of a component read from its dictionary, with its position and fixed
mass properties, for a stage at a position. -/
def readPart (r : Reader) (cls : Value) (stageUid uid : Nat) (stagePosition : Vec3) :
    Assembling (Option Value × Value × Part) := do
  let a ← get
  let fixedMass : Assembling (Vec3 × Value) :=
    Assembling.config (readFixedMass r stagePosition)
  let roughness : Assembling Float := do
    pure ((← Assembling.config (r.tryGetFloat "surfaceRoughness")).getD a.roughness)
  match cls with
  | .str "Mass" => do
    let (p, i) ← fixedMass
    pure (some (.vec p), i, .mass)
  | .str "Nosecone" => do
    let (p, i) ← fixedMass
    let aspectRatio ← Assembling.config (r.getFloat "aspectRatio")
    let baseDiameter ← Assembling.config (r.getFloat "baseDiameter")
    let shape ← Assembling.config (r.getString "shape")
    let rough ← roughness
    let n ← Assembling.sim (NoseCone.make shape aspectRatio baseDiameter rough)
    pure (some (.vec p), i, .noseCone n)
  | .str "Bodytube" => do
    let (p, i) ← fixedMass
    let length ← Assembling.config (r.getFloat "length")
    let d ← Assembling.config (r.getFloat "outerDiameter")
    let rough ← roughness
    pure (some (.vec p), i, .bodyTube (← Assembling.sim (BodyTube.make p length d rough)))
  | .str "Transition" | .str "BoatTail" => do
    let boatTail := match cls with
      | .str "BoatTail" => true
      | _ => false
    let (p, i) ← fixedMass
    let length ← Assembling.config (r.getFloat "length")
    let start ← Assembling.config (r.getFloat "startDiameter")
    let finish ← Assembling.config (r.getFloat "endDiameter")
    let rough ← roughness
    let t ← Assembling.sim (Transition.make boatTail (.vec p) start finish
      (.float length) rough)
    pure (some (.vec p), i, .transition t)
  | .str "FinSet" => do
    let (p, i) ← fixedMass
    let f ← Assembling.config (FinSet.read r a.roughness)
    pure (some (.vec p), i, .finSet f)
  | .str "Motor" => do
    let impulse ← Assembling.config (r.getFloat "impulseAdjustFactor")
    let burn ← Assembling.config (r.getFloat "burnTimeAdjustFactor")
    let path ← Assembling.config (r.getString "path")
    let text ← Assembling.sim (Paths.readText (← Assembling.sim (Ops.text path)))
    let m ← Assembling.sim (Motor.load text stagePosition.z cls impulse burn)
    let a ← get
    let shutOff ← match a.engineShutOff with
      | .null => pure m.rawBurnout
      | t => Assembling.sim (Ops.max t m.rawBurnout)
    set { a with engineShutOff := shutOff }
    let initial ← Assembling.sim (m.inertiaAt (.int 0))
    pure (some (← Assembling.sim (Ops.attr initial "CG")), zeroInertia, .motor m)
  | .str "RecoverySystem" => do
    let (p, i) ← fixedMass
    let rec0 ← Assembling.config (Recovery.read r)
    let rec0 := { rec0 with currentStage := 0 }
    let a ← get
    set { a with recovery := some (stageUid, uid) }
    if rec0.numStages == 0 then Assembling.fail Fault.noAttribute
    if 0 < rec0.numStages then
      let s ← Assembling.sim (recoveryTrigger rec0 stageUid uid)
      modify (·.subscribe s)
    pure (some (.vec p), i, .recovery rec0)
  | .str "Force" => do
    let force ← Assembling.config (r.getVector "force")
    let location ← Assembling.config (r.getVector "position")
    let moment ← Assembling.config (r.getVector "moment")
    pure (none, zeroInertia,
      .fixedForce (Construct.forceMoment (.vec force) (some (.vec location)) (some (.vec moment))))
  | .str "AeroForce" => do
    let position ← Assembling.config (r.getVector "position")
    let refArea ← Assembling.config (r.getFloat "Aref")
    let refLength ← Assembling.config (r.getFloat "Lref")
    let cd ← Assembling.config (r.getFloat "Cd")
    let cl ← Assembling.config (r.getFloat "Cl")
    let m ← Assembling.config (r.getVector "momentCoeffs")
    let coefficients : List Value := [.float cd, .float cl, .float m.x, .float m.y, .float m.z]
    let a : AeroCoefficients := { position, refArea, refLength, coefficients }
    pure (some (.vec position), zeroInertia, .aeroForce a)
  | .str "AeroDamping" => do
    let refArea ← Assembling.config (r.getFloat "Aref")
    let refLength ← Assembling.config (r.getFloat "Lref")
    let z ← Assembling.config (r.getVector "zDampingCoeffs")
    let y ← Assembling.config (r.getVector "yDampingCoeffs")
    let x ← Assembling.config (r.getVector "xDampingCoeffs")
    pure (some (.vec Vec3.zero), zeroInertia, .damping { refArea, refLength, x, y, z })
  | .str "TabulatedAeroForce" => do
    let position ← Assembling.config (r.getVector "position")
    let refArea ← Assembling.config (r.getFloat "Aref")
    let refLength ← Assembling.config (r.getFloat "Lref")
    let path ← Assembling.sim (Ops.text (← Assembling.config (r.getString "filePath")))
    let t ← Assembling.sim (AeroTable.load path position refArea refLength)
    pure (some (.vec position), zeroInertia, .aeroTable t)
  | .str "TabulatedInertia" => do
    let path ← Assembling.sim (Ops.text (← Assembling.config (r.getString "filePath")))
    pure (none, zeroInertia, .inertiaTable (← Assembling.sim (InertiaTable.load path)))
  | .str "FractionalJetDamping" => do
    let fraction ← Assembling.config (r.getFloat "fraction")
    pure (none, zeroInertia, .jetDamping fraction)
  | .str "StatefulSample" => pure (none, zeroInertia, .tank)
  | _ => Assembling.fail (Fault.bare .keyError)

/-- A component read from its dictionary, for a stage (known by its number) at a
position. -/
def readComponent (path : String) (stageUid : Nat) (stagePosition : Vec3) :
    Assembling Component := do
  let r : Reader := { path }
  let cls ← Assembling.config (r.getString "class")
  let uid ← Assembling.sim Sim.freshObject
  let (position, inertia, part) ← readPart r cls stageUid uid stagePosition
  logForcesOf path
  pure { uid, name := r.dictName, path := some path, position, inertia, part }

/-- Sorts paths stably by a key, body parts first. -/
def bodyPartsFirst (keyed : List (Bool × String)) : List String :=
  let body := keyed.filter (·.1)
  let other := keyed.filter (!·.1)
  let sortPaths (xs : List (Bool × String)) : List String :=
    (xs.map (·.2)).mergeSort fun a b => decide (a ≤ b)
  sortPaths body ++ sortPaths other

/-- A stage read from its dictionary, with its components. -/
def readStage (path : String) : Assembling Stage := do
  let r : Reader := { path }
  let uid ← Assembling.sim Sim.freshObject
  let stageNumber ← Assembling.config (r.getInt "stageNumber")
  let position ← Assembling.config (r.getVector "position")
  let separationType ← Assembling.config (r.getString "separationTriggerType")
  let separationDelay ← Assembling.config (r.getFloat "separationDelay")
  let separationValue ← Assembling.config (r.getFloat "separationTriggerValue")
  let dicts ← Assembling.config r.immediateSubDicts
  let keyed ← dicts.mapM fun p => do
    let cls ← Assembling.config (r.getString (p ++ ".class"))
    let isBody ← match cls with
      | .str c => match Part.classIsBody? c with
        | some b => pure b
        | none => Assembling.fail (Fault.bare .keyError)
      | _ => Assembling.fail (Fault.bare .keyError)
    pure (isBody, p)
  let stage : Stage :=
    { uid, name := r.dictName, path, stageNumber, position, separationType, separationDelay,
      separationValue, components := [] }
  let stage ← (bodyPartsFirst keyed).foldlM (fun (s : Stage) p => do
    let c ← readComponent p uid position
    let s := { s with components := s.components ++ [c] }
    match c.part with
    | .motor m => pure { s with motor := some c.uid, engineShutOff := m.rawBurnout }
    | _ => pure s) stage
  let cg ← Assembling.config (r.tryGetVector "constCG")
  let mass ← Assembling.config (r.tryGetFloat "constMass")
  let moi ← Assembling.config (r.tryGetVector "constMOI")
  let stage := { stage with cgOverride := cg.map fun (v : Vec3) => .vec (v.add position),
                            massOverride := mass.map Value.float,
                            moiOverride := moi.map Value.vec }
  Assembling.sim stage.recomputeFixed

end Flight
end RocketSim
