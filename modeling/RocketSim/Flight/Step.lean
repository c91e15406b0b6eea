import RocketSim.Flight.Build
import RocketSim.Vehicle.Loads

/-!
# Flying a rocket

A time step of a rocket runs in a fixed order: the launch rail holds the rocket back from
sliding off its bottom; the events that came true during the last step are triggered (and
with adaptive integration, a step is shortened to land just past an upcoming event); the
control system runs when its time has come; the state is logged; and the motion is
integrated over the step.

Events react on the rocket: a stage separation drops the bottom stage (which, when dropped
stages fly on, becomes a rocket of its own in the world), ignites the next motor and adds a
boat tail below the new bottom stage if needed; a recovery deployment opens the next
parachute, switching the rocket to point-mass motion at the first one and subscribing the
next parachute's trigger.

Each rocket of the world has an end condition, which also shortens the last step of a
flight that ends at a fixed time, and a flight record of the states it passed through.
-/

namespace RocketSim
namespace Flight

open Vehicle

namespace Mission

/-- Throws away the force log rows of a discarded integration step, in every rocket of the
world: one row per derivative evaluation of the rocket's integrator. -/
def discardForceRows (i : Nat) : Mission Unit := do
  let w ← get
  if w.loggingLevel < 2 then return
  let r ← rocket i
  let n := match r.body.integrator with
    | .adaptive a => if a.method == "RK12Adaptive" then 2 else a.tableau.length - 1
    | .classical c => match c.tableau with
      | some t => t.length - 1
      | none => 0
  for _ in List.range n do
    let rockets ← (← get).rockets.mapM fun r => do
      match r.forceLog with
      | some log => pure { r with forceLog := some log.deleteLastRow }
      | none => fail Fault.noAttribute
    modify fun w => { w with rockets }

/-- The derivative of a rocket's state, from its forces and mass properties (its mass alone
for point-mass motion) and the rates of its further state variables. -/
def derivativeOf (i : Nat) (r : Rocket) : DerivativeIn Mission :=
  let force : StateFunction Mission := fun t y => appliedForce i t y
  let inertiaFn : StateFunction Mission := match r.body.kind with
    | .pointMass => fun t y => mass i t y
    | _ => fun t y => inertia i t y
  let extras : List (StateFunction Mission) :=
    r.extras.map fun _ => fun _ y => sim (tankRate y)
  RigidBody.derivative r.body.kind force inertiaFn extras

/-- The state of a rocket in the east-north-up frame under it. -/
def enuState (i : Nat) : Mission Value := do
  let r ← rocket i
  withEnvironment fun e => do pure (← e.toEnu r.body.state, e)

/-- Switches a rocket to point-mass motion, keeping its position, velocity and time, with
the integrator the definition names. -/
def switchToPointMass (i : Nat) : Mission Unit := do
  print "Switching to 3DoF simulation"
  let r ← rocket i
  let position ← sim (Ops.attr r.body.state "position")
  let velocity ← sim (Ops.attr r.body.state "velocity")
  let integrator ← config namedIntegrator
  let body ← sim (RigidBody.make .pointMass (.pointState position velocity) r.body.time integrator)
  modifyRocket i fun r => { r with body }

/-- Deploys the next parachute of a recovery system of a rocket. -/
def deployRecovery (i : Nat) (stageUid uid : Nat) : Mission Unit := do
  let r ← rocket i
  let some (_, s) := r.stageOf? stageUid | fail Fault.noAttribute
  let some c := s.component? uid | fail Fault.noAttribute
  let rec0 ← match c.part with
    | .recovery rec0 => pure rec0
    | _ => fail Fault.noAttribute
  let rec0 := { rec0 with currentStage := rec0.currentStage + 1 }
  setRocket i (r.setComponent stageUid { c with part := .recovery rec0 })
  if rec0.currentStage > 0 then
    print ("Deployed Recovery Stage " ++ toString rec0.currentStage)
  if rec0.currentStage == 1 then
    modifyRocket i fun r => { r with underChute := true }
    switchToPointMass i
  if rec0.currentStage == rec0.numStages then
    modifyRocket i fun r => { r with mainChuteDeployTime := r.body.time }
  if rec0.currentStage < rec0.numStages then
    let s ← sim (recoveryTrigger rec0 stageUid uid)
    modifyRocket i fun r => { r with events := r.events ++ [s] }

/-- The end condition of a rocket, from the definition's end condition for the launched
rocket or for dropped stages. -/
def endingFor (r : Rocket) (droppedStage : Bool) : Mission Ending := do
  let (conditionKey, valueKey) := if droppedStage then
      ("SimControl.StageDropPaths.endCondition", "SimControl.StageDropPaths.endConditionValue")
    else ("SimControl.EndCondition", "SimControl.EndConditionValue")
  let condition ← config (Config.getValue conditionKey)
  let value ← config do Config.sim (Sim.lift (Definition.numberOf (← Config.getValue valueKey)))
  if condition.isText "Apogee" then return .apogee
  if condition.isText "Altitude" then
    let z ← sim (Ops.realAttr (← sim (Ops.attr r.body.state "position")) "Z")
    return (if z < value then .above value else .below value)
  pure (.timeReached value)

/-- The flight record of a rocket as it starts: its time and state, with a deflection
history for each actuator of a controlled fin set. -/
def startFlight (r : Rocket) : FlightRecord :=
  let actuators := match r.control with
    | some { controlled := some (stageUid, uid), .. } =>
      match r.stageOf? stageUid with
      | some (_, s) => match s.component? uid with
        | some { part := .finSet f, .. } => some (f.actuators.getD []).length
        | _ => none
      | none => none
    | _ => none
  let zeros : Value := match actuators with
    | some n => .list (List.replicate n (.list [.int 0]))
    | none => .null
  { times := .list [r.body.time], states := .list [r.body.state],
    actuatorDefls := zeros, actuatorTargetDefls := zeros }

/-- Starts a dropped stage as a rocket of its own, when dropped stages fly on: it takes the
launched rocket's state and time, the end condition for dropped stages, the launched
rocket's time step and a copy of its flight record so far (without deflections). -/
def detachStage : Mission Unit := do
  let w ← get
  if !w.dropPaths then return
  let index ← match w.stagingIndex with
    | .int n => pure n
    | _ => fail Fault.typeMismatch
  let dropped ← createRocket (some index)
  let top ← rocket 0
  match top.body.state with
  | .stateList .. => fail Arith.recursionFault
  | _ => pure ()
  let dropped := { dropped with body := { dropped.body with state := top.body.state,
                                                            time := top.body.time } }
  modify fun w => { w with rockets := w.rockets ++ [dropped] }
  let ending ← endingFor dropped true
  let w ← get
  let dt0 ← match w.dts with
    | d :: _ => pure d
    | [] => fail Fault.badIndex
  let flight0 ← match w.flights with
    | f :: _ => pure f
    | [] => fail Fault.badIndex
  set { w with endings := w.endings ++ [ending], dts := w.dts ++ [dt0],
               flights := w.flights ++ [{ flight0 with actuatorDefls := .null }],
               stagingIndex := .int (index + 1) }

/-- Drops the bottom stage of a rocket, summing its stages' fixed masses anew; a control
system whose fin set was on the dropped stage is switched off. -/
def dropStage (i : Nat) : Mission Unit := do
  let r ← rocket i
  let some dropped := r.stages.getLast? | fail Fault.badIndex
  let stages ← sim (r.stages.dropLast.mapM (·.recomputeFixed))
  setRocket i { r with stages }
  match r.control with
  | some cs =>
    match cs.controlled with
    | some (stageUid, _) =>
      if stageUid == dropped.uid then
        print "Rocket's controlled system was on the dropped stage. Deactivating control system."
        if cs.timeSteppingModified then fail Fault.noAttribute
        modifyRocket i fun r => { r with control := none }
    | none => pure ()
  | none => pure ()

/-- Separates a rocket's bottom stage: the stage is dropped (flying on as a rocket of its own
when dropped stages do), the next motor ignites now, and the new bottom stage gets a boat
tail if it needs one. -/
def separateStage (i : Nat) : Mission Unit := do
  let w ← get
  let index ← sim (Ops.add w.stagingIndex (.int 1))
  print ("Stage " ++ (← sim (Sim.lift (Show.str index))) ++ " Separation")
  detachStage
  dropStage i
  let r ← rocket i
  let now := r.body.time
  let (first, rest) ← match r.stages with
    | s :: rest => pure (s, rest)
    | [] => fail Fault.badIndex
  let first ← sim (setIgnition first now)
  let some m := first.motorPart? | fail Fault.noAttribute
  let burnout ← sim (m.burnoutAfter now)
  let shutOff ← match r.engineShutOff with
    | .null => fail Fault.typeMismatch
    | t => sim (Ops.max t burnout)
  let r := { r with stages := { first with engineShutOff := burnout } :: rest,
                    engineShutOff := shutOff }
  let r ← sim r.ensureBaseDrag
  let r ← sim r.updateFinenessRatio
  setRocket i r

/-- Runs the reaction to an event of a rocket. -/
def react (i : Nat) (reaction : Reaction) : Mission Unit :=
  match reaction with
  | .separateStage => separateStage i
  | .deployRecovery stageUid uid => deployRecovery i stageUid uid

/-- What a rocket's conditions are checked against: its state in the east-north-up frame
(taken once, before the events are checked), its time, its last check and the engine
shut-off time of its bottom stage. -/
def observation (enu : Value) (r : Rocket) : Observation :=
  { enuState := enu, time := r.body.time, lastCheck := r.lastCheck,
    bottomShutOff := match r.stages.getLast? with
      | some s => pure s.engineShutOff
      | none => Sim.fail Fault.badIndex }

/-- Checks the condition of a subscription of a rocket, against the rocket as it is now. -/
def checkEvent (i : Nat) (enu : Value) (sub : Subscription) : Mission Check := do
  let r ← rocket i
  sim (sub.condition.check sub.value (observation enu r))

/-- Answers an event that occurred: its reaction runs at once, or, with a delay, a
subscription waiting for the time the delay runs out (from the rocket's time now) is
added. -/
def answerEvent (act : Reaction → Mission Unit) (i : Nat) (sub : Subscription) :
    Mission Unit := do
  if ← sim (Ops.eq sub.delay (.int 0)) then
    act sub.reaction
  else
    let r ← rocket i
    let at_ ← sim (Ops.add r.body.time sub.delay)
    let s : Subscription :=
      { reaction := sub.reaction, value := at_, condition := .timeReached, delay := .int 0 }
    setRocket i { r with events := r.events ++ [s] }

/-- Checks a subscription, takes its check into the estimate and answers it if it occurred;
returns whether it occurred, with the new estimate. -/
def visitEvent (act : Reaction → Mission Unit) (i : Nat) (enu : Value) (e : Estimate)
    (sub : Subscription) : Mission (Bool × Estimate) := do
  let c ← checkEvent i enu sub
  let e ← sim (e.note c)
  if c.occurred then answerEvent act i sub
  pure (c.occurred, e)

/-- Visits the subscription at place `k` of a rocket's events; the places of the
subscriptions that occurred are collected, to be forgotten once all are checked. -/
def scanEvent (act : Reaction → Mission Unit) (i : Nat) (enu : Value)
    (acc : Estimate × List Nat) (k : Nat) : Mission (Estimate × List Nat) := do
  let some sub := (← rocket i).events[k]? | fail Fault.badIndex
  let (occurred, e) ← visitEvent act i enu acc.1 sub
  pure (e, if occurred then acc.2 ++ [k] else acc.2)

/-- Checks a rocket's events, answering those that came true with `act` and forgetting
them; returns the estimated time to the nearest event still waited for, and whether that
estimate is exact.  Only the subscriptions there when the check starts are checked: those
added while it runs wait for the next check. -/
def triggerEventsWith (act : Reaction → Mission Unit) (i : Nat) : Mission (Value × Bool) := do
  let enu ← enuState i
  let n := (← rocket i).events.length
  let (e, done) ← (List.range n).foldlM (scanEvent act i enu) (Estimate.none, [])
  let r ← rocket i
  let events := r.events.zipIdx.filterMap fun (s, k) => if done.contains k then none else some s
  let vz ← sim (Ops.attr (← sim (Ops.attr enu "velocity")) "Z")
  setRocket i { r with events, lastCheck := some (vz, r.body.time) }
  pure (e.time, e.exact)

/-- Checks a rocket's events: runs (or, with a delay, schedules) the reactions of those that
came true and forgets them; returns the estimated time to the nearest event still waited
for, and whether that estimate is exact. -/
def triggerEvents (i : Nat) : Mission (Value × Bool) := triggerEventsWith (react i) i

/-- The orientation error of a state against a target: the rotation vector of the
quotient, as pitch, yaw and roll errors. -/
def angularError (orientation target : Value) : Sim (List Value) := do
  let q ← Ops.div target orientation
  let (v, _) ← Sim.lift (Methods.call q "toRotationVector" [] [])
  Sim.lift (Arith.iterItems v)

/-- Runs a rocket's control loop at a time, state and air conditions, if a control time
step has passed since the last run: the moments wanted to hold the target orientation become
actuator targets (an ideal controller sets the orientation itself, on the rocket's own state,
which is the given state when `ownState` holds).  Returns the actuator targets, or false
when the loop did not run.

The moment law's controller keeps its new gains and errors once the moments are known, so a
failure while the actuators are commanded leaves it stepped (though the loop does not count
as run): that failure comes back as a value, with the rocket as the loop left it. -/
def tryControl (i : Nat) (t state env : Value) (ownState : Bool) :
    Mission (Except Fault Value) := do
  let r ← rocket i
  let some cs := r.control | fail Fault.noAttribute
  let since ← sim (Ops.sub t cs.lastRun)
  if !(← sim (Ops.ge (← sim (Ops.add since (.float 0.0000000001))) cs.controlTimeStep)) then
    return .ok (.bool false)
  let target := cs.navigator.target
  let (law, state, moments) ← match cs.law with
    | .constantGain c => do
      let (m, c) ← sim (c.desiredMoments state target since)
      pure (MomentLaw.constantGain c, state, m)
    | .scheduledGain g => do
      let (m, g) ← sim (g.desiredMoments state env target since)
      pure (MomentLaw.scheduledGain g, state, m)
    | .ideal => do
      let body := r.body
      let s ← sim (Sim.lift (Arith.setAttr Arith.depth body.state "orientation" target))
      let s ← sim (Sim.lift (Arith.setAttr Arith.depth s "angularVelocity" (.angVel Vec3.zero)))
      setRocket i { r with body := { body with state := s } }
      let state ← if ownState then pure s else pure state
      pure (MomentLaw.ideal, state, Value.null)
  let r ← rocket i
  setRocket i { r with control := some { cs with law } }
  let command : Mission Value := match cs.controlled with
    | some (stageUid, uid) => do
      let r ← rocket i
      let some (_, stage) := r.stageOf? stageUid | fail Fault.noAttribute
      let some comp := stage.component? uid | fail Fault.noAttribute
      let .finSet f := comp.part | fail Fault.noAttribute
      let some table := f.deflections | fail Fault.noAttribute
      let params ← table.parameters.mapM fun p => sim (p.eval state env (.int 1))
      let key := params ++ (← sim (Sim.lift (Arith.iterItems moments)))
      let (targets, acts) ← sim (commandFromTable table.table key (f.actuators.getD []) t)
      setRocket i (r.setComponent stageUid { comp with part := .finSet { f with actuators := some acts } })
      pure (Value.list targets)
    | none => pure (Value.list [.int 0])
  let targets ← match ← tryCatch (Except.ok <$> command) fun f => pure (.error f) with
    | .ok targets => pure targets
    | .error f => return .error f
  let r ← rocket i
  setRocket i { r with control := some { cs with law, lastRun := t } }
  let errors ← sim (angularError (← sim (Ops.attr state "orientation")) target)
  match cs.log with
  | some log => do
    let log ← sim (log.newRow t)
    let log ← sim (Sim.lift (do
      let log ← log.logValue "PitchError" (errors.getD 0 .null)
      let log ← log.logValue "YawError" (errors.getD 1 .null)
      log.logValue "RollError" (errors.getD 2 .null)))
    let r ← rocket i
    match r.control with
    | some cs => setRocket i { r with control := some { cs with log := some log } }
    | none => pure ()
  | none => pure ()
  pure (.ok targets)

/-- Runs a rocket's control loop as `tryControl` does, failing when the actuators cannot be
commanded. -/
def runControl (i : Nat) (t state env : Value) (ownState : Bool) : Mission Value := do
  match ← tryControl i t state env ownState with
  | .ok targets => pure targets
  | .error f => fail f

/-- Logs a rocket's state at the start of a time step, and prints its time and altitude. -/
def logState (i : Nat) : Mission Unit := do
  let r ← rocket i
  let state := r.body.state
  let time := r.body.time
  match r.stepLog with
  | some log => do
    let log ← sim (log.newRow time)
    let log ← sim (Sim.lift (log.logValue "Position(m)" (← sim (Ops.attr state "position"))))
    let log ← sim (Sim.lift (log.logValue "Velocity(m/s)" (← sim (Ops.attr state "velocity"))))
    let sixDof : Mission Log := do
      let o ← sim (Ops.attr state "orientation")
      let log ← sim (Sim.lift (log.logValue "OrientationQuaternion" o))
      let log ← sim (Sim.lift (log.logValue "AngularVelocity(rad/s)"
        (← sim (Ops.attr state "angularVelocity"))))
      let (x, y, z) ← sim (Environment.coordinates (← sim (Ops.attr state "position")))
      let ned ← withEnvironment fun e => do pure (← e.earth.toNed x y z, e)
      let (conj, _) ← sim (Sim.lift (Methods.call ned "conjugate" [] []))
      let relative ← sim (Ops.mul conj o)
      let (euler, _) ← sim (Sim.lift (Methods.call relative "toEulerAngles" [] []))
      sim (Sim.lift (log.logValue "EulerAngle(rad)" euler))
    let log ← tryCatch sixDof fun f => if f.kind == .attributeError then pure log else throw f
    modifyRocket i fun r => { r with stepLog := some log }
  | none => pure ()
  let (x, y, z) ← sim (Environment.coordinates (← sim (Ops.attr state "position")))
  let altitude ← withEnvironment fun e => do pure (← e.earth.altitude x y z, e)
  let t ← sim (Sim.lift (Show.format time "<8.4f"))
  let a ← sim (Sim.lift (Show.format altitude ">6.5f"))
  print (t ++ " " ++ a)

/-- One time step of a rocket of (about) `dt`; returns the integration result. -/
def timeStep (i : Nat) (dt : Value) : Mission Value := do
  let r ← rocket i
  let state ← withEnvironment fun e => e.constrainMotion r.body.state r.body.time
  setRocket i { r with body := { r.body with state } }
  let (estimate, exact) ← triggerEvents i
  let r ← rocket i
  let adaptive := Str.containsStr r.body.integrator.method "Adapt"
  let mut dt := dt
  if adaptive then
    if ← sim (Ops.lt estimate dt) then
      if exact then
        let newDt ← sim (Ops.add estimate (.float 1e-5))
        print ("Rocket + SimEventDetector overriding time step from " ++
          (← sim (Sim.lift (Show.str dt))) ++ " to " ++ (← sim (Sim.lift (Show.str newDt))) ++
          " to accurately trigger resolve time-deterministic event.")
        dt := newDt
      else
        let newDt ← sim (Ops.max (← sim (Ops.div estimate (.float 1.5))) (.float r.eventTimeStep))
        let at_ ← sim (Ops.add r.body.time estimate)
        print ("Rocket + SimEventDetector overriding time step from " ++
          (← sim (Sim.lift (Show.str dt))) ++ " to " ++ (← sim (Sim.lift (Show.str newDt))) ++
          " to accurately resolve upcoming event. Estimated occurence at: " ++
          (← sim (Sim.lift (Show.str at_))))
        dt := newDt
  let r ← rocket i
  if r.control.isSome && !r.underChute then
    let env ← conditions i r.body.time r.body.state
    discard (runControl i r.body.time r.body.state env true)
  logState i
  let r ← rocket i
  let (result, body) ← r.body.timeStep (derivativeOf i r) dt (discardForceRows i)
  let r ← rocket i
  setRocket i { r with body }
  let r ← rocket i
  if Str.containsStr r.body.integrator.method "Adapt" then
    match r.stepLog with
    | some log =>
      let log ← sim (Sim.lift (log.logValue "EstimatedIntegrationError"
        (← sim (Ops.attr result "errorMagEstimate"))))
      setRocket i { r with stepLog := some log }
    | none => pure ()
  pure result

/-- The arithmetic of the end of a flight at a time, in a monad. -/
structure TimeOps (m : Type → Type) (α : Type) where
  add : α → α → m α
  sub : α → α → m α
  lt : α → α → m Bool
  ge : α → α → m Bool

/-- The end rule of a flight that ends at time `c`, at time `now` before a step `dt`: a step
from before `c` that would reach it is replaced by the step to `last` (just past `c`), and
the flight has ended once `now` is at or past `c`.  Whether the step reaches `c` is only
asked from before `c`. -/
def timeEnd {m : Type → Type} [Monad m] {α : Type} (O : TimeOps m α) (c last now dt : α) :
    m (Bool × Option α) := do
  let reaches ← if ← O.lt now c then O.ge (← O.add now dt) c else pure false
  if reaches then pure (false, some (← O.sub last now))
  else if ← O.ge now c then pure (true, none)
  else pure (false, none)

/-- The arithmetic of values, for the end rule. -/
def valueTimeOps : TimeOps Mission Value where
  add a b := sim (Ops.add a b)
  sub a b := sim (Ops.sub a b)
  lt a b := sim (Ops.lt a b)
  ge a b := sim (Ops.ge a b)

/-- Whether a rocket's flight has ended, with the last time step to take to end it exactly
(for a flight that ends at a time: the step to `1e-14` past it). -/
def endCheck (k : Nat) (dt : Value) : Mission (Bool × Option Value) := do
  let w ← get
  let some ending := w.endings[k]? | fail Fault.badIndex
  let r ← rocket k
  let state := r.body.state
  match ending with
  | .apogee =>
    let vz ← sim (Ops.attr (← sim (Ops.attr state "velocity")) "Z")
    if ← sim (Ops.le vz (.int 0)) then
      pure (← sim (Ops.gt r.body.time (.float 1.0)), none)
    else pure (false, none)
  | .above v =>
    let z ← sim (Ops.attr (← sim (Ops.attr state "position")) "Z")
    pure (← sim (Ops.ge z (.float v)), none)
  | .below v =>
    let (x, y, z) ← sim (Environment.coordinates (← sim (Ops.attr state "position")))
    let altitude ← withEnvironment fun e => do pure (← e.earth.altitude x y z, e)
    pure (← sim (Ops.le altitude (.float v)), none)
  | .timeReached v => timeEnd valueTimeOps (.float v) (.float (v + 1e-14)) r.body.time dt

/-- Adds a rocket's time and state (and its actuators' deflections and targets) to its
flight record. -/
def cacheState (k : Nat) : Mission Unit := do
  let r ← rocket k
  let w ← get
  let some f := w.flights[k]? | fail Fault.badIndex
  let times ← sim (FlightRecord.itemsOf f.times)
  let states ← sim (FlightRecord.itemsOf f.states)
  let f := { f with times := .list (times ++ [r.body.time]),
                    states := .list (states ++ [r.body.state]) }
  let f ← match r.control with
    | some { controlled := some (stageUid, uid), .. } =>
      match r.stageOf? stageUid with
      | some (_, s) => match s.component? uid with
        | some { part := .finSet fs, .. } =>
          let acts := fs.actuators.getD []
          let defls ← sim (FlightRecord.itemsOf f.actuatorDefls)
          let targets ← sim (FlightRecord.itemsOf f.actuatorTargetDefls)
          let defls ← (acts.zip defls).mapM fun (a, d) => do
            pure (Value.list ((← sim (FlightRecord.itemsOf d)) ++ [← sim (a.deflection r.body.time)]))
          let targets ← (acts.zip targets).mapM fun (a, d) => do
            pure (Value.list ((← sim (FlightRecord.itemsOf d)) ++ [a.targetDeflection]))
          pure { f with actuatorDefls := .list defls, actuatorTargetDefls := .list targets }
        | _ => pure f
      | none => pure f
    | _ => pure f
  modify fun w => { w with flights := w.flights.set k f }

end Mission

/-- A simulation of a definition, before any rocket is built: the environment, the logging
level and whether dropped stages fly on. -/
def World.start (d : Definition) : Sim World := do
  let (environment, d) ← Environment.configure.run d
  let (level, d) ← (do
    Config.sim (Sim.lift (Value.toIntSetting (← Config.getValue "SimControl.loggingLevel")))).run d
  let (dropPaths, d) ← (do
    let v ← Config.getValue "SimControl.StageDropPaths.compute"
    match v with
    | .str _ => Config.sim (Sim.lift (Value.toBoolSetting v))
    | _ => Config.fail Fault.noAttribute).run d
  pure { definition := d, environment, dropPaths, loggingLevel := level }

namespace Mission

/-- Builds the rocket to fly (or a dropped stage), and sets up the simulation's bookkeeping
for it: the time step, end condition and flight record. -/
def launch (dropped : Option Int) : Mission Unit := do
  let r ← createRocket dropped
  if dropped.isNone then modify fun w => { w with stagingIndex := .int 0 }
  modify fun w => { w with rockets := [r] }
  let dt ← config do Config.sim (Sim.lift (Definition.numberOf
    (← Config.getValue "SimControl.timeStep")))
  modify fun w => { w with dts := [.float dt] }
  let ending ← endingFor r false
  modify fun w => { w with endings := [ending], flights := [startFlight r] }

end Mission

end Flight
end RocketSim
