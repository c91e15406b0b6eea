import RocketSim.Flight.Step
import RocketSim.Console.Objects

/-!
# Whole rockets on request

A rocket request reads a definition (as a definition request does, less the keys it
removes, with logging and plots off and the values it sets), starts a simulation of it and
builds its rocket (or, for a stage number, that dropped stage alone), with the bookkeeping a
simulation keeps for every rocket flying: its time step, end condition and flight record.
It then runs a list of actions against the rocket: reading its mass properties, air
conditions, aerodynamic parameters and forces; stepping it, checking its events, running
its control loop and checking its end; reading and calling its components, its stages and
itself.

Each action fails on its own and leaves the simulation as it was before it, except that a
stepping action keeps the steps taken before the one that failed.  Actions that take a time
and a state use the rocket's own unless given.
-/

namespace RocketSim
namespace Console
namespace Rockets

open Flight Vehicle

/-- The definition a rocket request describes: the keys it removes gone, logging and plots
off, and the values it sets. -/
def definitionFor (req : Json) : Sim Definition := do
  let kwargs ← Sim.lift (readKwargs req)
  let d ← definitionOf req kwargs
  let removed := ((req.get? "remove").bind Json.getArr?).getD []
  let d := removed.foldl (fun d k => match k with
    | .str key => (d.removeKey key).2
    | _ => d) d
  let d := d.setValue "SimControl.loggingLevel" (.str "0")
  let d := d.setValue "SimControl.plot" (.str "None")
  let d := d.setValue "SimControl.RocketPlot" (.str "Off")
  let sets ← match req.get? "set" with
    | some (.obj kvs) => kvs.mapM fun (k, v) => do pure (k, ← Sim.lift (readValue v))
    | _ => pure []
  pure (sets.foldl (fun d (k, v) => d.setValue k v) d)

/-- A value of an action, if it gives one. -/
def given? (a : Json) (key : String) : Mission (Option Value) :=
  match a.get? key with
  | some j => (some ·) <$> Mission.sim (Sim.lift (readValue j))
  | none => pure none

/-- The time an action names, or the rocket's own. -/
def timeOf (a : Json) (r : Rocket) : Mission Value := do
  pure ((← given? a "t").getD r.body.time)

/-- The state an action names, or the rocket's own. -/
def stateOf (a : Json) (r : Rocket) : Mission Value := do
  pure ((← given? a "state").getD r.body.state)

/-- The stage an action names by its place (the first unless named). -/
def stageOf (a : Json) (r : Rocket) : Mission Stage := do
  let i : Int := match a.get? "stage" with
    | some (.int i) => i
    | _ => 0
  Mission.sim (Objects.itemAt r.stages i)

/-- Runs an action's computation, answering its fault instead of failing. -/
def guardedM (m : Mission Json) : Mission Json :=
  tryCatch m fun f => pure (encodeFault f)

/-- Follows the rest of a dotted path from a value. -/
def follow (v : Value) (rest : List String) : Sim Value := do
  let m ← rest.foldlM Objects.step (Member.value v)
  pure m.asValue

/-- The argument at a position of a call. -/
def argAt (args : List Value) (i : Nat) : Mission Value :=
  match args[i]? with
  | some v => pure v
  | none => Mission.fail Fault.typeMismatch

/-- A component's kind and name, as listed by the rocket's descriptions. -/
def componentEntry (c : Component) : Json :=
  .obj [("class", .str c.className), ("name", .str c.name)]

/-- The components of a stage, found by name or by place. -/
def componentOf (s : Stage) (key : Json) : Mission Component :=
  match key with
  | .int i => Mission.sim (Objects.itemAt s.components i)
  | .str name => match s.components.find? (·.name == name) with
    | some c => pure c
    | none => Mission.fail (Fault.bare .keyError)
  | _ => Mission.fail Fault.typeMismatch

/-- The value at a dotted path of a component. -/
def componentValue (c : Component) (path : String) : Sim Value := do
  match path.splitOn "." with
  | first :: rest => follow (← c.attr first) rest
  | [] => Sim.fail Fault.noAttribute

/-- The header of a fin set's columns in the force log. -/
def finLogHeader (name : String) (f : FinSet) : String :=
  let forces := [" ", "FX(N) ", "FY(N) ", "FZ(N) ", "MX(Nm) ", "MY(Nm) "].foldl
    (fun acc part => acc ++ part ++ name) "" ++ "MZ(Nm)"
  if f.actuators.isSome then
    (List.range f.numFins.toNat).foldl (fun acc k =>
      acc ++ " " ++ name ++ "Fin" ++ toString (k + 1) ++ "Angle(deg)") forces
  else forces

/-- Calls a method of a component of the rocket. -/
def componentMethod (r : Rocket) (s : Stage) (c : Component) (method : String)
    (args : List Value) : Mission Value := do
  match method, c.part with
  | "getTotalImpulse", .motor m => pure m.totalImpulse
  | "getLogHeader", .finSet f => pure (.str (finLogHeader c.name f))
  | "getRadius", _ => Mission.sim (c.radiusAt (← argAt args 0))
  | "_getCd_Pressure", .noseCone n => Mission.sim (n.pressureDrag (← argAt args 0) r.refArea)
  | "getMaxDiameter", _ => match c.maxDiameter? with
    | some d => pure d
    | none => Mission.fail Fault.noAttribute
  | "getInertia", _ => Mission.sim (c.inertiaAt (← argAt args 0) (← argAt args 1))
  | "getTopInterfaceLocation", _ => pure c.topInterface
  | "getBottomInterfaceLocation", _ => Mission.sim c.bottomInterface
  | "getAppliedForce", _ => do
    let (v, c) ← Mission.sim (c.force (s.airframe r.airframe) (← argAt args 0) (← argAt args 1)
      (← argAt args 2) (← argAt args 3))
    Mission.modifyRocket 0 (·.setComponent s.uid c)
    pure v
  | _, _ => Mission.fail Fault.noAttribute

/-- An attribute of a stage. -/
def stageAttr (s : Stage) (name : String) : Sim Value :=
  match name with
  | "name" => pure (.str s.name)
  | "stageNumber" => pure (.int s.stageNumber)
  | "position" => pure (.vec s.position)
  | "engineShutOffTime" => pure s.engineShutOff
  | "separationDelay" => pure (.float s.separationDelay)
  | "components" => pure (.list (s.components.map fun c => .str c.name))
  | _ => Sim.fail Fault.noAttribute

/-- The value at a dotted path of a stage. -/
def stageValue (s : Stage) (path : String) : Sim Value := do
  match path.splitOn "." with
  | first :: rest => follow (← stageAttr s first) rest
  | [] => Sim.fail Fault.noAttribute

/-- Calls a method of a stage of the rocket. -/
def stageMethod (s : Stage) (method : String) (args : List Value) : Mission Value := do
  match method with
  | "getTopInterfaceLocation" => Mission.sim s.topInterface
  | "getBottomInterfaceLocation" => Mission.sim s.bottomInterface
  | "getLength" => Mission.sim s.length
  | "getMaxDiameter" => Mission.sim s.maxDiameter
  | "getRadius" => Mission.sim (s.radiusAt (← argAt args 0))
  | "getInertia" => Mission.sim (s.inertiaAt (← argAt args 0) (← argAt args 1))
  | "getMass" => Mission.sim (s.massAt (← argAt args 0) (← argAt args 1))
  | _ => Mission.fail Fault.noAttribute

/-- An attribute of the rocket's control system. -/
def controlValue (cs : ControlSystem) (parts : List String) : Sim Value :=
  match parts with
  | "lastControlLoopRunTime" :: rest => follow cs.lastRun rest
  | "updateRate" :: rest => follow (.float cs.updateRate) rest
  | "controlTimeStep" :: rest => follow cs.controlTimeStep rest
  | "timeSteppingModified" :: rest => follow (.bool cs.timeSteppingModified) rest
  | "navigator" :: "targetOrientation" :: rest => follow cs.navigator.target rest
  | "log" :: rest => match cs.log with
    | some l => follow l.columnsValue rest
    | none => follow .null rest
  | _ => Sim.fail Fault.noAttribute

/-- The value at the parts of a dotted path of the rocket. -/
def rocketValue (r : Rocket) (parts : List String) : Sim Value :=
  match parts with
  | "rigidBody" :: "integrate" :: "method" :: rest => follow (.str r.body.integrator.method) rest
  | "rigidBody" :: "state" :: rest => follow r.body.state rest
  | "rigidBody" :: "time" :: rest => follow r.body.time rest
  | "recoverySystem" :: name :: rest => do
    match r.recovery with
    | some (stageUid, uid) => match r.stageOf? stageUid with
      | some (_, s) => match s.component? uid with
        | some c => follow (← c.attr name) rest
        | none => Sim.fail Fault.noAttribute
      | none => Sim.fail Fault.noAttribute
    | none => Sim.fail Fault.noAttribute
  | "controlSystem" :: rest => match r.control with
    | some cs => controlValue cs rest
    | none => Sim.fail Fault.noAttribute
  | "stages" :: i :: name :: rest => match i.toInt? with
    | some k => do
      let s ← Objects.itemAt r.stages k
      follow (← stageAttr s name) rest
    | none => Sim.fail Fault.typeMismatch
  | "isUnderChute" :: rest => follow (.bool r.underChute) rest
  | "mainChuteDeployTime" :: rest => follow r.mainChuteDeployTime rest
  | "engineShutOffTime" :: rest => follow r.engineShutOff rest
  | "name" :: rest => follow r.name rest
  | "Aref" :: rest => follow (.float r.refArea) rest
  | "maxDiameter" :: rest => follow r.maxDiameter rest
  | "finenessRatio" :: rest => follow r.finenessRatio rest
  | "eventTimeStep" :: rest => follow (.float r.eventTimeStep) rest
  | "surfaceRoughness" :: rest => follow (.float r.roughness) rest
  | "fullyTurbulentBL" :: rest => follow (.bool r.fullyTurbulent) rest
  | "addZeroLengthBoatTailsToAccountForBaseDrag" :: rest => follow (.bool r.addBoatTails) rest
  | "turbulenceOffWhenUnderChute" :: rest => follow (.bool r.turbulenceOffUnderChute) rest
  | "loggingLevel" :: rest => follow (.int r.loggingLevel) rest
  | _ => Sim.fail Fault.noAttribute

/-- Reads the attributes an action asks for, each on its own, by a reading of one path. -/
def attributesBy (a : Json) (read : String → Sim Value) : Mission (List (String × Json)) := do
  match a.get? "get" with
  | some (.arr paths) =>
    let kvs ← paths.filterMapM fun p => match p with
      | .str path => do
        pure (some (path, ← guardedM (do pure (encode (← Mission.sim (read path))))))
      | _ => pure none
    pure [("attrs", .obj kvs)]
  | _ => pure []

/-- Calls a method of the rocket. -/
def rocketMethod (method : String) (args : List Value) : Mission Value := do
  let r ← Mission.rocket 0
  match method with
  | "getLength" => Mission.sim r.length
  | "_getStageSubDicts" => pure (textList (← Mission.config stagePaths))
  | "recomputeFixedMassInertia" => pure .null
  | "_updateFinenessRatio" => do
    Mission.setRocket 0 (← Mission.sim r.updateFinenessRatio)
    pure .null
  | "_getEnvironmentalConditions" => Mission.conditions 0 (← argAt args 0) (← argAt args 1)
  | "getInertia" => Mission.inertia 0 (← argAt args 0) (← argAt args 1)
  | "getMass" => Mission.mass 0 (← argAt args 0) (← argAt args 1)
  | "getCG" => do Mission.sim (Ops.attr (← Mission.inertia 0 (← argAt args 0) (← argAt args 1)) "CG")
  | "_getAppliedForce" => Mission.appliedForce 0 (← argAt args 0) (← argAt args 1)
  | "timeStep" => Mission.timeStep 0 (← argAt args 0)
  | _ => Mission.fail Fault.noAttribute

/-- A description of the rocket, its stages and its motion. -/
def info : Mission Json := do
  let r ← Mission.rocket 0
  let length ← Mission.sim r.length
  let stages ← r.stages.mapM fun s => do
    let maxDiameter ← Mission.sim s.maxDiameter
    let stageLength ← Mission.sim s.length
    pure (Json.obj [("name", .str s.name), ("stageNumber", .int s.stageNumber),
      ("position", encode (.vec s.position)),
      ("components", .arr (s.components.map componentEntry)),
      ("maxDiameter", encode maxDiameter), ("length", encode stageLength),
      ("engineShutOffTime", encode s.engineShutOff)])
  pure (.obj [("name", encode r.name), ("Aref", encodeFloat r.refArea),
    ("maxDiameter", encode r.maxDiameter), ("finenessRatio", encode r.finenessRatio),
    ("length", encode length), ("engineShutOffTime", encode r.engineShutOff),
    ("stages", .arr stages), ("time", encode r.body.time), ("state", encode r.body.state),
    ("rigidBody", .str r.body.kind.className), ("integrator", .str r.body.integrator.method),
    ("controlSystem", .bool r.control.isSome), ("recoverySystem", .bool r.recovery.isSome),
    ("isUnderChute", .bool r.underChute)])

/-- The air conditions an action names, or those around the rocket. -/
def conditionsOf (a : Json) (t state : Value) : Mission Value := do
  match ← given? a "env" with
  | some env => pure env
  | none => Mission.conditions 0 t state

/-- The aerodynamic parameters of the rocket, each computed on its own, in the order of
their names (the angles of attack and sideslip change the remembered air velocity the later
ones start from). -/
def aero (a : Json) : Mission Json := do
  let r ← Mission.rocket 0
  let t ← timeOf a r
  let state ← stateOf a r
  let env ← conditionsOf a t state
  let names := Aero.Parameter.names.mergeSort fun a b => decide (a ≤ b)
  let entries ← names.filterMapM fun name =>
    match Aero.Parameter.ofName? name with
    | some p => do
      let value ← guardedM (encode <$> Mission.sim (p.eval state env (.float 1.0)))
      pure (some (name, value))
    | none => pure none
  pure (.obj entries)

/-- The force on each component of the rocket (each computed on its own) and, unless the
air conditions are given, the force on the whole rocket. -/
def forces (a : Json) : Mission Json := do
  let r ← Mission.rocket 0
  let t ← timeOf a r
  let state ← stateOf a r
  let givenEnv ← given? a "env"
  let env ← match givenEnv with
    | some env => pure env
    | none => Mission.conditions 0 t state
  let cg ← Mission.sim (Ops.attr (← Mission.inertia 0 t state) "CG")
  let r ← Mission.rocket 0
  let mut components : List Json := []
  for s in r.stages do
    for c in s.components do
      let answer ← guardedM do
        let r ← Mission.rocket 0
        let (v, c) ← Mission.sim (c.force (s.airframe r.airframe) state t env cg)
        Mission.setRocket 0 (r.setComponent s.uid c)
        pure (encode v)
      components := components ++ [Json.arr [.str s.name, .str c.name, .str c.className, answer]]
  match givenEnv with
  | some _ => pure (.obj [("components", .arr components)])
  | none =>
    let total ← guardedM (encode <$> Mission.appliedForce 0 t state)
    pure (.obj [("components", .arr components), ("total", total)])

/-- One time step of the rocket: its answer and the length the integrator suggests for the
next step (the length taken, times the factor it suggests). -/
def stepOnce (dt : Value) : Mission (Json × Value) := do
  let result ← Mission.timeStep 0 dt
  let r ← Mission.rocket 0
  let field (name : String) : Mission Value := Mission.sim (Ops.attr result name)
  let factor ← field "timeStepAdaptationFactor"
  let taken ← field "dt"
  pure (.obj [("time", encode r.body.time), ("dt", encode taken),
    ("factor", encode factor), ("error", encode (← field "errorMagEstimate")),
    ("state", encode (← field "newValue"))], ← Mission.sim (Ops.mul taken factor))

/-- Takes time steps of the rocket (adapting their length when asked); the simulation keeps
the steps taken before one that fails. -/
def steps (a : Json) (w : World) : Sim (Json × World) := do
  let dt ← Sim.lift (readValue ((a.get? "dt").getD .null))
  let n : Nat := match a.get? "n" with
    | some (.int k) => k.toNat
    | _ => 1
  let adapt := match a.get? "adapt" with
    | some (.bool b) => b
    | _ => false
  let mut dt := dt
  let mut w := w
  let mut answers : List Json := []
  for _ in List.range n do
    let r ← tryCatch (do pure (Except.ok (← (stepOnce dt).run w))) fun f => pure (.error f)
    match r with
    | .error f => return (encodeFault f, w)
    | .ok ((answer, suggested), w') =>
      w := w'
      answers := answers ++ [answer]
      if adapt then dt := suggested
  pure (.arr answers, w)

/-- The rocket's logs, as mappings from column names to their values. -/
def logs : Mission Json := do
  let r ← Mission.rocket 0
  let logJson (l : Option Log) : Json := match l with
    | some l => .obj [("Log", .obj (l.columns.map fun (k, vs) => (k, .arr (vs.map encode))))]
    | none => .null
  pure (.obj [("timeStepLog", logJson r.stepLog), ("derivativeEvaluationLog", logJson r.forceLog),
    ("controlSystemLog", logJson (r.control.bind (·.log)))])

/-- The rockets of the simulation: how many fly, how many stages have been dropped, and
each one's name, time, state and components. -/
def rockets : Mission Json := do
  let w ← get
  let entries := w.rockets.map fun r =>
    Json.obj [("name", encode r.name), ("time", encode r.body.time),
      ("state", encode r.body.state),
      ("components", .arr (r.stages.flatMap fun s => s.components.map componentEntry))]
  pure (.obj [("n", .int w.rockets.length), ("stagingIndex", encode w.stagingIndex),
    ("stages", .arr entries)])

/-- Answers one action other than stepping. -/
def action (a : Json) : Mission Json := do
  let r ← Mission.rocket 0
  match ((a.get? "do").bind Json.getStr?).getD "" with
  | "info" => info
  | "inertia" => encode <$> Mission.inertia 0 (← timeOf a r) (← stateOf a r)
  | "mass" => encode <$> Mission.mass 0 (← timeOf a r) (← stateOf a r)
  | "env" => encode <$> Mission.conditions 0 (← timeOf a r) (← stateOf a r)
  | "aero" => aero a
  | "forces" => forces a
  | "setState" => do
    let state ← stateOf a r
    let time ← timeOf a r
    Mission.setRocket 0 { r with body := { r.body with state, time } }
    pure (.bool true)
  | "events" => do
    let (estimate, exact) ← Mission.triggerEvents 0
    pure (.arr [encode estimate, .bool exact])
  | "control" => do
    if r.control.isNone then Mission.fail Fault.noAttribute
    let t ← timeOf a r
    let state ← stateOf a r
    let env ← Mission.conditions 0 t state
    match ← Mission.tryControl 0 t state env (a.get? "state").isNone with
    | .ok targets => pure (encode targets)
    | .error f => pure (encodeFault f)
  | "component" => do
    let s ← stageOf a r
    let c ← componentOf s ((a.get? "component").getD .null)
    match (a.get? "method").bind Json.getStr? with
    | some method =>
      let args ← Mission.sim (Sim.lift (readArgs a))
      let v ← componentMethod r s c method args
      let r ← Mission.rocket 0
      let c := ((r.stageOf? s.uid).bind fun (_, s) => s.component? c.uid).getD c
      pure (.obj ([("r", encode v)] ++ (← attributesBy a (componentValue c))))
    | none =>
      let attrs ← attributesBy a (componentValue c)
      pure (.obj (if attrs.isEmpty then [("attrs", .obj [])] else attrs))
  | "stageRadius" => do
    let s ← stageOf a r
    encode <$> Mission.sim (s.radiusAt ((← given? a "d").getD .null))
  | "get" => do
    let paths := ((a.get? "paths").bind Json.getArr?).getD []
    let kvs ← paths.filterMapM fun p => match p with
      | .str path => do
        pure (some (path, ← guardedM (do
          let r ← Mission.rocket 0
          pure (encode (← Mission.sim (rocketValue r (path.splitOn ".")))))))
      | _ => pure none
    pure (.obj kvs)
  | "stages" => rockets
  | "endCheck" => do
    let k ← match a.get? "index" with
      | some (.int i) => do
        let n : Int := (← get).endings.length
        let j := if i < 0 then i + n else i
        if j < 0 then Mission.fail Fault.badIndex else pure j.toNat
      | _ => pure 0
    let (ended, dt) ← Mission.endCheck k ((← given? a "dt").getD .null)
    pure (.arr [.bool ended, encode (dt.getD .null)])
  | "simdefValue" => do
    let key := ((a.get? "key").bind Json.getStr?).getD ""
    encode <$> Mission.config (Config.getValue key)
  | "call" => do
    let method := ((a.get? "method").bind Json.getStr?).getD ""
    let args ← Mission.sim (Sim.lift (readArgs a))
    match a.get? "stage" with
    | some _ =>
      let s ← stageOf a r
      let v ← stageMethod s method args
      let r ← Mission.rocket 0
      let s := ((r.stageOf? s.uid).map (·.2)).getD s
      pure (.obj ([("r", encode v)] ++ (← attributesBy a (stageValue s))))
    | none =>
      let v ← rocketMethod method args
      let r ← Mission.rocket 0
      pure (.obj ([("r", encode v)] ++ (← attributesBy a fun p => rocketValue r (p.splitOn "."))))
  | "logs" => logs
  | _ => Mission.fail (Fault.bare (.other "UnsupportedOperation"))

/-- Runs one action against a simulation: its answer and the simulation afterwards (as it
was, when the action fails). -/
def runAction (a : Json) (w : World) : Sim (Json × World) := do
  match (a.get? "do").bind Json.getStr? with
  | some "step" => tryCatch (steps a w) fun f => pure (encodeFault f, w)
  | _ => tryCatch ((action a).run w) fun f => pure (encodeFault f, w)

/-- Answers a rocket request. -/
def answer (req : Json) : Sim Json := do
  let d ← definitionFor req
  let w ← World.start d
  let dropped : Option Int := match req.get? "stage" with
    | some (.int i) => some i
    | _ => none
  let ((), w) ← (Mission.launch dropped).run w
  let actions := ((req.get? "actions").bind Json.getArr?).getD []
  let (answers, _) ← actions.foldlM (fun (acc, w) a => do
    let (j, w) ← runAction a w
    pure (acc ++ [j], w)) ([], w)
  pure (.obj [("actions", .arr answers)])

end Rockets
end Console
end RocketSim
