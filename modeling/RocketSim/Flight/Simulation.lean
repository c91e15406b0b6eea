import RocketSim.Flight.Step
import RocketSim.Logs.Coefficients

/-!
# Whole simulations

A simulation flies every rocket of its world in turn, the launched rocket first: each one
steps until its end condition holds (the last step shortened to end exactly at an end time),
its time step set after every step to the length the integrator took times the factor it
suggests, and its state added to its flight record.  Stages dropped on the way join the
world as rockets of their own and fly after it.  Each finished flight logs its last state.

Afterwards, at a logging level above zero, the logs of every rocket are written as CSV files
into a new numbered results folder beside the definition file (`main_Run1`, `main_Run2`, …);
at a level above two the force log is also widened by its aerodynamic coefficients.  The
flight records then take each rocket's engine shut-off and main parachute times.

Flights are bounded: a rocket takes at most `stepLimit` steps, and at most `rocketLimit`
rockets fly.
-/

namespace RocketSim
namespace Flight
namespace Mission

open Vehicle

/-- The most steps one flight takes. -/
def stepLimit : Nat := 10000000

/-- The most rockets one simulation flies. -/
def rocketLimit : Nat := 1000

/-- The fault of a flight that does not end within its step limit. -/
def tooManySteps : Fault := Fault.raise .runtimeError "Simulation did not end within its step limit"

/-- The time step of a rocket of the world. -/
def dtAt (k : Nat) : Mission Value := do
  match (← get).dts[k]? with
  | some d => pure d
  | none => fail Fault.badIndex

/-- Sets the time step of a rocket of the world. -/
def setDt (k : Nat) (dt : Value) : Mission Unit :=
  modify fun w => { w with dts := w.dts.set k dt }

/-- The display text of a value. -/
def textOf (v : Value) : Mission String := sim (Sim.lift (Show.str v))

/-- Prints the defaults the definition used, if any. -/
def reportDefaults : Mission Unit := do
  let d := (← get).definition
  if d.defaultsUsed.isEmpty then return
  print "\nWarning: The following default values were used in this simulation:"
  for key in d.defaultsUsed.mergeSort (fun a b => decide (a ≤ b)) do
    let value := ((d.defaults.find? (·.1 == key)).map (·.2)).getD ""
    print (Str.padRight (key ++ ":") 45 ' ' ++ value)
  print ("\nIf this was not intended, override the default values by adding the above " ++
    "information to your simulation definition file.\n")

/-- Prints the keys of the definition that were never read, if any. -/
def reportUnread : Mission Unit := do
  let d := (← get).definition
  if d.unaccessed.isEmpty then return
  print ("\nWarning: The following keys were loaded from: " ++ d.fileText ++
    " but never accessed:")
  for key in d.unaccessed.mergeSort (fun a b => decide (a ≤ b)) do
    let value ← textOf ((d.find? key).getD .null)
    print (Str.padRight (key ++ ":") 45 ' ' ++ value)
  print ""

/-- The first of `base1`, `base2`, … that names nothing yet. -/
def nextFreeName (base : String) : Nat → Nat → Mission String
  | 0, _ => fail (Fault.raise .valueError
      ("Repeated error (50x): unable to create a results folder: " ++ base ++ "."))
  | fuel + 1, n => do
    let candidate := base ++ toString n
    if ← sim (Paths.exists? candidate) then nextFreeName base fuel (n + 1) else pure candidate

/-- Writes a log as CSV into a file, when it has rows; says so. -/
def writeLog (l : Log) (path : String) : Mission (Bool × Log) := do
  let (written, l) ← sim (l.writeCsv path)
  if written then print ("Writing log file: " ++ path)
  pure (written, l)

/-- Widens a written force log by its aerodynamic coefficients into a file beside it;
returns that file's path. -/
def expandForceLog (path : String) (refArea refLength : Float) : Mission String := do
  print ("Post Processing (Calculating aerodynamic coefficients) log file: " ++ path)
  let text ← sim (Paths.readText path)
  let wide ← sim (Sim.lift (Coefficients.expand text refArea refLength))
  let widePath := Str.replace path ".csv" "_expanded.csv"
  sim (Paths.writeText widePath wide)
  print ("Writing expanded level 3 log to: " ++ widePath)
  pure widePath

/-- Writes the logs of a rocket into a directory, named after its top stage: the time-step
log, the force log (widened at a logging level above two) and the control system's log;
returns the paths reported. -/
def writeLogs (k : Nat) (dir : String) : Mission (List String) := do
  let r ← rocket k
  let some stepLog := r.stepLog | return []
  let some top := r.stages.head? | fail Fault.badIndex
  let mut paths : List String := []
  let path := dir ++ "/" ++ top.name ++ "_timeStepLog.csv"
  let (written, stepLog) ← writeLog stepLog path
  modifyRocket k fun r => { r with stepLog := some stepLog }
  if written then paths := paths ++ [path]
  match r.forceLog with
  | some forceLog =>
    let path := dir ++ "/" ++ top.name ++ "_derivativeEvaluationLog.csv"
    let (written, forceLog) ← writeLog forceLog path
    modifyRocket k fun r => { r with forceLog := some forceLog }
    if written then
      paths := paths ++ [path]
      if r.loggingLevel > 2 then
        paths := paths ++ [← expandForceLog path r.refArea (← sim (Ops.real r.maxDiameter))]
  | none => pure ()
  match r.control with
  | some cs =>
    match cs.log with
    | some log =>
      let path := dir ++ "/Rocket_ControlSystem_Log.csv"
      let (_, log) ← writeLog log path
      modifyRocket k fun r => { r with control := some { cs with log := some log } }
      paths := paths ++ [path]
    | none => pure ()
  | none => pure ()
  pure paths

/-- Writes the logs of every rocket into a new results folder beside the definition file,
with the console output so far; returns the paths of the logs, or none when the logging
level is zero. -/
def writeResults : Mission (Option (List String)) := do
  let w ← get
  if w.loggingLevel ≤ 0 then return none
  let some fileName := w.definition.fileName | fail Fault.noAttribute
  let stem := match Str.rfindStr fileName "." with
    | some i => Str.take fileName i
    | none => Str.take fileName (fileName.length - 1)
  let folder ← nextFreeName (stem ++ "_Run") 100000 1
  let mut paths : List String := []
  for k in List.range w.rockets.length do
    paths := paths ++ (← writeLogs k folder)
  let consolePath := folder ++ "/consoleOutput.txt"
  print ("Writing log file: " ++ consolePath)
  sim (Paths.writeText consolePath (String.join ((← get).console.map (· ++ "\n"))))
  pure (some paths)

/-- Finishes a simulation: reports the defaults used, writes the logs, hands each rocket's
engine shut-off and main parachute times to its flight record, and reports the keys never
read; returns the paths of the logs written. -/
def finish : Mission (Option (List String)) := do
  reportDefaults
  let paths ← writeResults
  let w ← get
  let flights := (w.flights.zip w.rockets).map fun (f, r) =>
    { f with engineOffTime := r.engineShutOff, mainChuteDeployTime := r.mainChuteDeployTime }
  set { w with flights := flights ++ w.flights.drop w.rockets.length }
  reportUnread
  pure paths

/-- Handles a step that failed: reports the crash, finishes the simulation as far as it
got (its logs written), and exits. -/
def crash {α : Type} : Mission α := do
  print "ERROR: Simulation Crashed, Aborting"
  print "Attempting to save log files and show plots"
  discard finish
  print "Attempting to show stack trace"
  print "Exiting"
  fail (Fault.bare .systemExit)

/-- What flying a stage needs, in a monad: its time step and a way to change it, the end
check at a step length (with the last step to take, when the end is at a time), the notice
of the runner shortening a step, a step of about a given length (giving the length taken
and the integrator's factor for the next), the product of two step numbers, the record of
the state reached, and the failure of a flight that does not end. -/
structure StageOps (m : Type → Type) (α : Type) where
  dt : m α
  setDt : α → m Unit
  endCheck : α → m (Bool × Option α)
  shortening : α → m Unit
  step : α → m (α × α)
  mul : α → α → m α
  record : m Unit
  outOfSteps : m Unit

/-- Flies a stage until its end condition holds, taking at most `fuel` steps: before each
step the end condition may shorten it to end exactly; after it the next step is the length
taken times the integrator's factor, and the state is recorded. -/
def StageOps.fly {m : Type → Type} [Monad m] {α : Type} (F : StageOps m α) : Nat → m Unit
  | 0 => F.outOfSteps
  | fuel + 1 => do
    let (ended, last) ← F.endCheck (← F.dt)
    if ended then return
    if let some d := last then
      F.shortening d
      F.setDt d
    let (taken, factor) ← F.step (← F.dt)
    F.setDt (← F.mul taken factor)
    F.record
    F.fly fuel

/-- Flying a rocket of the world: a failed step crashes the simulation when a crash
exits. -/
def stageOps (k : Nat) : StageOps Mission Value where
  dt := dtAt k
  setDt := setDt k
  endCheck := endCheck k
  shortening d := do
    print ("Simulation Runner overriding time step from " ++ (← textOf (← dtAt k)) ++ " to " ++
      (← textOf d) ++ " to accurately meet end condition")
  step d := do
    let result ← tryCatch (timeStep k d) fun f => do
      if (← get).crashExits then crash else throw f
    let taken ← sim (Ops.attr result "dt")
    pure (taken, ← sim (Ops.attr result "timeStepAdaptationFactor"))
  mul a b := sim (Ops.mul a b)
  record := cacheState k
  outOfSteps := fail tooManySteps

/-- Flies one rocket of the world until its end condition holds, taking at most `fuel`
steps. -/
def fly (k : Nat) (fuel : Nat) : Mission Unit := (stageOps k).fly fuel

/-- Flies the rockets of the world from the `k`-th on, each to its end, logging each one's
last state; stages dropped meanwhile join the world and fly in their turn. -/
def flyFrom (k : Nat) : Nat → Mission Unit
  | 0 => pure ()
  | fuel + 1 => do
    if k < (← get).rockets.length then
      if k > 0 then print ("Computing stage " ++ toString k ++ " drop path")
      fly k stepLimit
      logState k
      flyFrom (k + 1) fuel

/-- Runs a whole simulation of the world's definition: builds and launches the rocket,
flies it and every stage it drops, and finishes; returns the paths of the logs written. -/
def simulate : Mission (Option (List String)) := do
  launch none
  let condition ← config (Config.getValue "SimControl.EndCondition")
  if condition.isText "Time" then
    discard (config do Config.sim (Sim.lift (Definition.numberOf
      (← Config.getValue "SimControl.EndConditionValue"))))
  flyFrom 0 rocketLimit
  print "Simulation Complete"
  finish

end Mission
end Flight
end RocketSim
