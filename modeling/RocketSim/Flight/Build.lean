import RocketSim.Flight.Rocket
import RocketSim.Motion.IntegratorSettings

/-!
# Putting a rocket together

A rocket is built from the `Rocket` dictionary of a definition, in this order:

1. its own settings: name, reference area (from the widest body tube the definition lists),
   event timing accuracy, boat tail and boundary-layer options, default surface roughness,
   and its logs when the logging level asks for them;
2. its stages (or, for a dropped stage, only the stage with that place among the sorted
   stage numbers), with their components;
3. its motion: the initial position, velocity, orientation and angular velocity in the
   launch tower's frame, moved to the global frame, and the integrator the definition names
   (a body with further state variables when a component asks for them);
4. the order of its parts: components and stages top to bottom, and a zero-length boat tail
   below the bottom stage when its base drag would otherwise be missed;
5. its staging: each stage's separation event, and upper-stage motors held until their
   stage separates (a dropped stage's motor is long burnt out);
6. what fin sets work out once the body is known;
7. its fineness ratio, and its position moved from the nose tip to its centre of gravity;
8. its control system, when it has one and is not a dropped stage.
-/

namespace RocketSim
namespace Flight

open Vehicle

/-- The reader of the rocket's dictionary. -/
def rocketReader : Reader := { path := "Rocket" }

/-- The dictionaries of the rocket's stages. -/
def stagePaths : Config (List String) := do
  let dicts ← rocketReader.immediateSubDicts
  pure (dicts.filter fun d =>
    !(["Rocket.ControlSystem", "Rocket.HIL", "Rocket.Aero"].contains d))

/-- The largest outer diameter of the body tubes the definition lists (the integer zero
without any). -/
def maxBodyTubeDiameter : Config Value := do
  (← stagePaths).foldlM (fun m stage => do
    (← rocketReader.immediateSubDicts (some stage)).foldlM (fun m comp => do
      let cls ← rocketReader.getString (comp ++ ".class")
      if cls.isText "Bodytube" then
        let d ← rocketReader.getFloat (comp ++ ".outerDiameter")
        Config.sim (Ops.max m (.float d))
      else pure m) m) (.int 0)

/-- The stage number of a dropped rocket's stage: the stage at a place (counted from the end
when negative) among the sorted stage numbers of the paths, which must differ; none for a whole
rocket. -/
def wantedStageNumber (paths : List String) (dropped : Option Int) : Assembling (Option Float) :=
  match dropped with
  | none => pure none
  | some i => do
    let numbers ← paths.mapM fun p =>
      Assembling.config (rocketReader.getFloat (p ++ ".stageNumber"))
    if numbers.eraseDups.length != numbers.length then
      Assembling.fail (Fault.raise .valueError ("For multi-stage rockets, each stage must " ++
        "have a unique stage number. Set the Rocket.StageName.stageNumber value for each " ++
        "stage. 0 for first stage, 1 for second, etc..."))
    let sorted := numbers.mergeSort fun a b => a ≤ b
    let n : Int := sorted.length
    let j := if i < 0 then i + n else i
    if j < 0 || j ≥ n then Assembling.fail Fault.badIndex
    pure (sorted[j.toNat]?)

/-- The stages read so far, and the stage of a path when its number is the wanted one (or
when no number is wanted). -/
def readWantedStage (wanted : Option Float) (stages : List Stage) (p : String) :
    Assembling (List Stage) := do
  let number ← Assembling.config (({ path := p } : Reader).getFloat "stageNumber")
  match wanted with
  | some w => if number == w then pure (stages ++ [← readStage p]) else pure stages
  | none => pure (stages ++ [← readStage p])

/-- The stages of the rocket, or the one stage of a dropped rocket. -/
def readStages (dropped : Option Int) : Assembling (List Stage) := do
  let paths ← Assembling.config stagePaths
  let wanted ← wantedStageNumber paths dropped
  paths.foldlM (readWantedStage wanted) []

/-- The orientation that turns the vertical onto a direction. -/
def orientationTowards (dir : Vec3) : Sim Value := do
  let up : Value := .vec ⟨0.0, 0.0, 1.0⟩
  let (angle, _) ← Sim.lift (Methods.call up "angle" [.vec dir] [])
  let (axis, _) ← Sim.lift (Methods.call up "crossProduct" [.vec dir] [])
  Sim.lift (Construct.quaternion axis angle .null .null)

/-- The rocket's initial state in the launch tower's frame. -/
def initialState : Config Value := do
  let r := rocketReader
  let position ← r.getVector "position"
  let velocity ← r.getVector "velocity"
  let orientation ← match ← r.tryGetVector "rotationAxis" with
    | some axis => do
      let angle := Number.radians (← r.getFloat "rotationAngle")
      Config.sim (Sim.lift (Construct.quaternion (.vec axis) (.float angle) .null .null))
    | none => do
      let dir := (← r.getVector "initialDirection").normalize
      Config.sim (orientationTowards dir)
  let w ← r.getVector "angularVelocity"
  pure (Construct.rigidBodyState (some (.vec position)) (some (.vec velocity)) (some orientation)
    (some (.angVel w)))

/-- The integrator the definition names. -/
def namedIntegrator : Config Integrator := do
  let method ← rocketReader.getString "SimControl.timeDiscretization"
  Integrator.configure (← Config.sim (Ops.text method))

/-- Sorts items by decreasing key, keeping the order of items with equal keys. -/
def sortDescending {α : Type} (items : List (α × Value)) : Sim (List α) := do
  let insert (sorted : List (α × Value)) (x : α × Value) : Sim (List (α × Value)) := do
    let rec go (ys : List (α × Value)) : Sim (List (α × Value)) := do
      match ys with
      | [] => pure [x]
      | y :: rest => if ← Ops.lt y.2 x.2 then pure (x :: y :: rest) else pure (y :: (← go rest))
    go sorted
  let sorted ← items.foldlM insert []
  pure (sorted.map (·.1))

/-- The height a component is sorted by: its position's, or else its centre of gravity's at
time zero. -/
def sortHeight (state : Value) (c : Component) : Sim Value := do
  match c.position with
  | some p => Ops.attr p "Z"
  | none => Ops.attr (← Ops.attr (← c.inertiaAt (.int 0) state) "CG") "Z"

namespace Rocket

/-- Sorts each stage's components and the stages top to bottom. -/
def sortParts (r : Rocket) : Sim Rocket := do
  let stages ← r.stages.mapM fun s => do
    let keyed ← s.components.mapM fun c => do pure (c, ← sortHeight r.body.state c)
    pure { s with components := ← sortDescending keyed }
  let stages ← sortDescending (stages.map fun s => (s, .float s.position.z))
  pure { r with stages }

/-- Adds a zero-length boat tail below the bottom stage when its last body part is not a
boat tail (and the rocket is set to add them), so that the base drag is counted. -/
def ensureBaseDrag (r : Rocket) : Sim Rocket := do
  let some bottom := r.stages.getLast? | Sim.fail Fault.badIndex
  let last := bottom.components.reverse.find? (·.part.isBody)
  let hasBoatTail := match last with
    | some c => match c.part with
      | .transition t => t.boatTail
      | _ => false
    | none => false
  if hasBoatTail || !r.addBoatTails then return r
  let d ← Ops.real r.maxDiameter
  let position ← bottom.bottomInterface
  let t ← Transition.make true position d d (.int 0) r.roughness
  let uid ← Sim.freshObject
  let name := "Auto-AddedZeroLengthBoatTail"
  let c : Component :=
    { uid, name, path := none, position := if position.isNull then none else some position,
      inertia := zeroInertia, part := .transition t }
  let forceLog ← match r.forceLog with
    | some log => do
      let log ← addForceColumn log (name ++ "F(N)")
      pure (some (← addForceColumn log (name ++ "M(Nm)")))
    | none => pure none
  let bottom := { bottom with components := bottom.components ++ [c] }
  pure { r with forceLog, stages := r.stages.dropLast ++ [bottom] }

end Rocket

/-- Sets the ignition time of a stage's motor. -/
def setIgnition (s : Stage) (t : Value) : Sim Stage := do
  let some uid := s.motor | Sim.fail Fault.noAttribute
  pure { s with components := s.components.map fun c =>
    if c.uid == uid then
      match c.part with
      | .motor m => { c with part := .motor { m with ignitionTime := t } }
      | _ => c
    else c }

namespace Rocket

/-- Subscribes each stage's separation event and holds upper-stage motors; a dropped stage's
motor is set long burnt out. -/
def stagingTriggers (r : Rocket) : Sim Rocket := do
  match r.dropped with
  | none =>
    let n := r.stages.length
    let (stages, events) ← r.stages.zipIdx.foldlM (fun (acc : List Stage × List Subscription)
        (s, i) => do
      let (stages, events) := acc
      let events ← if !s.separationType.isText "None" then do
          let condition ← Condition.ofSetting s.separationType
          pure (events ++ [{ reaction := .separateStage, value := .float s.separationValue,
                             condition, delay := .float s.separationDelay }])
        else pure events
      let s ← if i + 1 != n then setIgnition s (.int 1000000000) else pure s
      pure (stages ++ [s], events)) ([], r.events)
    pure { r with stages, events }
  | some _ =>
    match r.stages with
    | first :: rest => pure { r with stages := (← setIgnition first (.int (-1000000000))) :: rest }
    | [] => Sim.fail Fault.badIndex

/-- Moves the state's position from the nose tip to the centre of gravity. -/
def moveToCG (r : Rocket) : Sim Rocket := do
  let state := r.body.state
  let inertia ← r.inertiaAt (.int 0) state
  let (offset, state) ← RigidBody.rotateByOrientation state (← Ops.attr inertia "CG")
  let position ← Ops.add (← Ops.attr state "position") offset
  let state ← Sim.lift (Arith.setAttr Arith.depth state "position" position)
  pure { r with body := { r.body with state } }

end Rocket

/-- The number of fins a set's interference factor is tabulated for, as the factor; none for
five to eight fins, whose table cannot be reached. -/
def countInterference (n : Int) : Option Float :=
  if n ≤ 4 then some 1.0 else if n ≤ 8 then none else some 0.75

/-- The aerodynamic data of a fin set with a planform and a fin count's interference factor:
its mean aerodynamic chord, slices, thickness drag constant (from the skin friction at Mach 1
and the air at the rocket's initial position), centre of pressure polynomial and fins. -/
def finAero (r : Rocket) (f : FinSet) (p : FinPlanform) (count : Float) : Mission FinAero := do
  let (macLength, macY, macLeadingEdge) ← Mission.sim (f.meanChord p)
  let slices ← Mission.sim (f.slicesOf p)
  let state := r.body.state
  match state with
  | .stateList .. => Mission.fail Arith.recursionFault
  | _ => pure ()
  let sonic ← Mission.sim (Arith.setAttr Arith.depth state "velocity" (.vec ⟨0.0, 0.0, 340.3⟩) |> Sim.lift)
  let position0 ← Mission.sim (Ops.attr state "position")
  let env ← Mission.withEnvironment fun e => e.conditions position0 (.int 0)
  let cf ← Mission.sim (Aero.skinFriction [sonic, env, .float macLength, .float 1.0,
    .float f.roughness, .bool r.fullyTurbulent] sonic env (.float macLength) 1.0 f.roughness
    r.fullyTurbulent)
  let k ← Mission.sim (f.thicknessConstant p cf)
  let cp ← Mission.sim (FinSet.cpPolynomialOf p.aspectRatio)
  let fins ← Mission.sim (f.finsOf p macY)
  pure { countInterference := count, macLength, macY, macLeadingEdge, slices, thicknessK := k,
         cpPolynomial := cp, fins }

/-- What a fin set works out once its rocket is assembled: its planform with the body
radius at its station, then, unless its fin count has no interference factor, its aerodynamic
data. -/
def precomputeFinSet (r : Rocket) (s : Stage) (c : Component) (f : FinSet) : Mission FinSet := do
  let position ← Mission.sim (Ops.attr (c.position.getD .null) "Z")
  let p ← Mission.sim (f.planformOf (do s.radiusAt (← Ops.sub (.float s.position.z) position)))
  let f := { f with planform := some p }
  let some count := countInterference f.numFins | pure f
  pure { f with aero := some (← finAero r f p count) }

namespace Rocket

/-- Runs what the rocket's fin sets work out once it is assembled. -/
def precompute (r : Rocket) : Mission Rocket := do
  let stages ← r.stages.mapM fun s => do
    let comps ← s.components.mapM fun c => do
      match c.part with
      | .finSet f => pure { c with part := .finSet (← precomputeFinSet r s c f) }
      | _ => pure c
    pure { s with components := comps }
  pure { r with stages }

end Rocket

/-- The actuators and deflection table of a controlled fin set, read from its
dictionary. -/
def initializeActuators (path : String) (f : FinSet) : Config FinSet := do
  let r : Reader := { path }
  let actuators ← (List.range f.numFins.toNat).mapM fun _ => do
    let model ← r.getString "Actuators.responseModel"
    if model.isText "FirstOrder" then
      let responseTime ← r.getFloat "Actuators.responseTime"
      let maxD ← r.tryGetFloat "Actuators.maxDeflection"
      let minD ← r.tryGetFloat "Actuators.minDeflection"
      pure (FirstOrderActuator.make (.float responseTime) (.int 0)
        ((maxD.map Value.float).getD .null) ((minD.map Value.float).getD .null))
    else
      let text ← Config.sim (Sim.lift (Show.str model))
      Config.fail (Fault.raise .valueError ("Actuator response model " ++ text ++
        " not implemented. Try 'FirstOrder'"))
  let controller ← r.getString "Actuators.controller"
  if !controller.isText "TableInterpolating" then
    Config.fail (Fault.raise .valueError
      "Actuator controller: \x7b\x7d not implemented. Try TableInterpolating.")
  let tablePath ← Config.sim (Ops.text (← r.getString "Actuators.deflectionTablePath"))
  let keyColumns := Str.splitWs (← Config.sim (Ops.text (← r.getString "Actuators.deflectionKeyColumns")))
  let plain := keyColumns.takeWhile fun k => !Str.containsStr k "Desired"
  if (keyColumns.drop plain.length).any fun k => !Str.containsStr k "Desired" then
    Config.fail (Fault.raise .valueError
      "'Desired' columns such as DesiredMx must come last in deflectionKeyColumns")
  let parameters ← plain.mapM fun k => match Aero.Parameter.ofName? k with
    | some p => pure p
    | none => Config.fail (Fault.bare .keyError)
  let rows ← Config.sim (NumberTable.load tablePath 1)
  let n := keyColumns.length
  let columns := ((rows.headD []).drop n).length
  if actuators.length != columns then
    Config.fail (Fault.raise .valueError ("Number of actuators: " ++ toString actuators.length ++
      ", must match number of actuator deflection columns in deflection table: " ++
      toString columns))
  pure { f with actuators := some actuators,
                deflections := some { parameters,
                                      table := ← Config.sim (Sim.lift (ScatteredTable.ofColumns rows n)) } }

/-- The reader of the control system's dictionary. -/
def controlReader : Reader := { path := "Rocket.ControlSystem" }

/-- The moment control law of the kind a control system's dictionary names. -/
def momentLaw (kind : Value) : Mission MomentLaw := do
  let c := controlReader
  match kind with
  | .str "ConstantGainPIDRocket" => do
    let g (k : String) : Mission Value := do
      pure (.float (← Mission.config (c.getFloat ("MomentController." ++ k))))
    let pxy ← g "Pxy"
    let ixy ← g "Ixy"
    let dxy ← g "Dxy"
    let pz ← g "Pz"
    let iz ← g "Iz"
    let dz ← g "Dz"
    pure (MomentLaw.constantGain (← Mission.sim (Pid.momentController pxy ixy dxy pz iz dz)))
  | .str "ScheduledGainPIDRocket" => do
    let path ← Mission.sim (Ops.text (← Mission.config (c.getString "MomentController.gainTableFilePath")))
    let names ← Mission.sim (Ops.text (← Mission.config (c.getString "MomentController.scheduledBy")))
    pure (MomentLaw.scheduledGain (← Mission.sim (ScheduledPid.load path (Str.splitWs names))))
  | .str "IdealMomentController" => pure .ideal
  | other => do
    let text ← Mission.sim (Sim.lift (Show.str other))
    Mission.fail (Fault.raise .valueError ("Moment Controller Type: " ++ text ++
      " not implemented. Try ScheduledGainPIDRocket or IdealMomentController"))

/-- The stage and component numbers of the component a dictionary path names: in each stage
the first component with that dictionary, the last stage with one winning; every component
looked at must have a dictionary. -/
def findControlled (stages : List Stage) (path : Value) : Mission (Option (Nat × Nat)) := do
  let mut found : Option (Nat × Nat) := none
  for s in stages do
    for comp in s.components do
      let some p := comp.path | Mission.fail Fault.noAttribute
      if path.isText p then
        found := some (s.uid, comp.uid)
        break
  pure found

/-- The fin set a control system commands, with its actuators set up: the rocket with it, and
the fin set's stage and component numbers. -/
def attachControlled (r : Rocket) : Mission (Rocket × Nat × Nat) := do
  let path ← Mission.config (controlReader.getString "controlledSystem")
  let some (stageUid, uid) ← findControlled r.stages path | do
    let text ← Mission.sim (Sim.lift (Show.str path))
    let file := (← get).definition.fileText
    Mission.fail (Fault.raise .valueError ("Rocket Component: " ++ text ++ " not found in " ++
      file))
  let some (_, s) := r.stageOf? stageUid | Mission.fail Fault.badIndex
  let some comp := s.component? uid | Mission.fail Fault.badIndex
  let .finSet f := comp.part | Mission.fail Fault.noAttribute
  let f ← Mission.config (initializeActuators (comp.path.getD "") f)
  pure (r.setComponent stageUid { comp with part := .finSet f }, stageUid, uid)

/-- Fits the time stepping to a fixed control update rate: an adaptive method gives way to the
classical fourth-order one, and a time step that does not divide the control step evenly is
replaced in the definition by the control step over the rounded ratio (at least one).  Returns
the rocket, whether the time stepping was changed, the time step found and the control
step. -/
def fitTimeStepping (r : Rocket) (updateRate : Float) :
    Mission (Rocket × Bool × Option Float × Value) := do
  let method ← Mission.config (controlReader.getString "SimControl.timeDiscretization")
  let adaptive := Str.containsStr (← Mission.sim (Ops.text method)) "Adaptive"
  let r ← (if adaptive then do
      let rk4 ← Mission.sim (ClassicalIntegrator.make "RK4")
      pure { r with body := { r.body with integrator := .classical rk4 } }
    else pure r)
  let step := 1.0 / updateRate
  let timeStep ← Mission.config (controlReader.getFloat "SimControl.timeStep")
  let ratio := step / timeStep
  let rounded := Number.roundHalfEven ratio
  let refit := ratio != rounded
  let () ← (if refit then do
      let divisor := if rounded > 1.0 then rounded else 1.0
      let text ← Mission.sim (Sim.lift (Show.str (.float (step / divisor))))
      modify fun w => { w with definition := w.definition.setValue "SimControl.timeStep" (.str text) }
    else pure ())
  pure (r, adaptive || refit, some timeStep, .float step)

/-- The control system's log, kept from logging level four on: the pitch, yaw and roll errors
and, with a controlled fin set, each actuator's target and actual deflection. -/
def controlLog (r : Rocket) (controlled : Option (Nat × Nat)) : Mission (Option Log) := do
  if r.loggingLevel > 3 then
    let log ← Mission.sim (Sim.lift (Log.make [] (.int 0)))
    let names := ["PitchError", "YawError", "RollError"]
    let actuators := match controlled with
      | some (stageUid, uid) => match r.stageOf? stageUid with
        | some (_, s) => match s.component? uid with
          | some { part := .finSet f, .. } => (f.actuators.getD []).length
          | _ => 0
        | none => 0
      | none => 0
    let names := if controlled.isSome then
        names ++ (List.range actuators).map (fun i => "Actuator_" ++ toString i ++ "_TargetDeflection") ++
          (List.range actuators).map (fun i => "Actuator_" ++ toString i ++ "_Deflection")
      else names
    let log ← names.foldlM (fun (l : Log) n => do
      let (l, _) ← Mission.sim (Sim.lift (l.addColumn n))
      pure l) log
    pure (some log)
  else pure none

/-- The rocket's control system, read from `Rocket.ControlSystem`: its navigator, moment
controller, update rate and controlled fin set (whose actuators it sets up), with the time
stepping made to fit a fixed update rate. -/
def createControlSystem (r : Rocket) : Mission Rocket := do
  let c := controlReader
  let dir ← Mission.config (c.getVector "desiredFlightDirection")
  let navigator ← Mission.sim (Stabilizer.make (.vec dir))
  let kind ← Mission.config (c.getString "MomentController.Type")
  let law ← momentLaw kind
  let ideal := kind.isText "IdealMomentController"
  let updateRate ← (if ideal then pure 0.0 else Mission.config (c.getFloat "updateRate"))
  let (r, controlled) ← (if ideal then pure (r, none) else do
    let (r, ids) ← attachControlled r
    pure (r, some ids))
  let (r, modified, original, controlStep) ←
    (if updateRate > 0.0 then fitTimeStepping r updateRate else pure (r, false, none, .int 0))
  let log ← controlLog r controlled
  let system : ControlSystem :=
    { navigator, law, updateRate, controlTimeStep := controlStep, controlled,
      timeSteppingModified := modified, originalTimeStep := original, log }
  pure { r with control := some system }

/-- Builds the rocket the definition describes, or the dropped stage at a place among the
stages. -/
def createRocket (dropped : Option Int) : Mission Rocket := do
  let r := rocketReader
  let name ← Mission.config (r.getString "name")
  let turbulenceOff ← Mission.config (r.getBool "Environment.turbulenceOffWhenUnderChute")
  let maxDiameter ← Mission.config maxBodyTubeDiameter
  let refArea ← Mission.sim do
    Ops.real (← Ops.div (← Ops.mul (.float pi) (← Ops.pow maxDiameter (.int 2))) (.int 4))
  let eventTimeStep ← Mission.config (r.getFloat "SimControl.TimeStepAdaptation.eventTimingAccuracy")
  let addBoatTails ← Mission.config (r.getBool "Aero.addZeroLengthBoatTailsToAccountForBaseDrag")
  let fullyTurbulent ← Mission.config (r.getBool "Aero.fullyTurbulentBL")
  let roughness ← Mission.config (r.getFloat "Aero.surfaceRoughness")
  let _ ← Mission.config r.immediateSubDicts
  let level ← Mission.config do
    Config.sim (Sim.lift (Value.toIntSetting (← Config.getValue "SimControl.loggingLevel")))
  let zero : Value := .vec Vec3.zero
  let addAll (l : Log) (cols : List (String × Value)) : Mission Log :=
    cols.foldlM (fun l (n, fill) => do
      let (l, _) ← Mission.sim (Sim.lift (l.addColumn n fill))
      pure l) l
  let stepLog ← (if level > 0 then do
      let l ← Mission.sim (Sim.lift (Log.make [] (.int 0) true))
      let l ← addAll l [("Position(m)", zero), ("Velocity(m/s)", zero),
        ("OrientationQuaternion", .quat ⟨0.0, 0.0, 0.0, 0.0⟩), ("EulerAngle(rad)", zero),
        ("AngularVelocity(rad/s)", zero)]
      let method ← Mission.config (Config.getValue "SimControl.timeDiscretization")
      let adaptive := match method with
        | .str m => Str.containsStr m "Adapt"
        | _ => false
      if adaptive then pure (some (← addAll l [("EstimatedIntegrationError", .int 0)]))
      else pure (some l)
    else pure none)
  let forceLog ← (if level > 1 then do
      let l ← Mission.sim (Sim.lift (Log.make [] (.int 0)))
      pure (some (← addAll l [("Position(m)", zero), ("Velocity(m/s)", zero),
        ("OrientationQuaternion", .quat ⟨0.0, 0.0, 0.0, 0.0⟩), ("AngularVelocity(rad/s)", zero),
        ("CG(m)", zero), ("MOI(kg*m^2)", zero), ("Mass(kg)", .int 0), ("Wind(m/s)", zero),
        ("AirDensity(kg/m^3)", .int 0), ("Mach", .int 0), ("UnitRe", .int 0),
        ("AOA(deg)", .int 0), ("RollAngle(deg)", .int 0), ("CPZ(m)", .int 0),
        ("AeroF(N)", zero), ("AeroM(Nm)", zero), ("GravityF(N)", zero), ("TotalF(N)", zero)]))
    else pure none)
  let assembly : Assembly := { roughness, forceLog }
  let (stages, assembly) ← Mission.config ((readStages dropped).run assembly)
  let state ← Mission.config initialState
  let state ← Mission.withEnvironment fun e => do pure (← e.toGlobal state, e)
  let integrator ← Mission.config namedIntegrator
  let body ← Mission.sim (RigidBody.make .rigid state (.int 0) integrator)
  let extras := stages.flatMap fun s => s.components.flatMap (·.extraVariables)
  let body ← (if extras.isEmpty then pure body else do
    let integrator ← Mission.config namedIntegrator
    let b ← Mission.sim (RigidBody.make .stateful body.state (.int 0) integrator)
    extras.foldlM (fun b (n, v) => Mission.sim (b.addVariable n v)) b)
  let uid ← Mission.sim Sim.freshObject
  let rocket : Rocket :=
    { uid, name, dropped, stages, recovery := assembly.recovery, body,
      extras := extras.map (·.1), engineShutOff := assembly.engineShutOff,
      turbulenceOffUnderChute := turbulenceOff, maxDiameter, refArea,
      events := assembly.events, eventTimeStep, addBoatTails, fullyTurbulent, roughness,
      loggingLevel := level, stepLog, forceLog := assembly.forceLog }
  let rocket ← Mission.sim rocket.sortParts
  let rocket ← (if ← Mission.sim (Ops.gt maxDiameter (.int 0)) then
      Mission.sim rocket.ensureBaseDrag
    else pure rocket)
  let rocket ← Mission.sim rocket.stagingTriggers
  let rocket ← rocket.precompute
  let rocket ← Mission.sim rocket.updateFinenessRatio
  let rocket ← Mission.sim rocket.moveToCG
  let controlled ← Mission.config (rocketReader.tryGetString "ControlSystem.controlledSystem")
  let wantsControl ← (if controlled.isSome then pure true else do
    let kind ← Mission.config (rocketReader.tryGetString "ControlSystem.MomentController.Type")
    pure ((kind.map (·.isText "IdealMomentController")).getD false))
  if wantsControl && dropped.isNone then createControlSystem rocket else pure rocket

end Flight
end RocketSim
