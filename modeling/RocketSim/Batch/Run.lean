import RocketSim.Batch.Columns
import RocketSim.Batch.SweepValues
import RocketSim.Flight.Sweep
import RocketSim.Definition.Writer

/-!
# Regression batches

A batch definition holds regression cases, one top-level dictionary each.  A case names the
simulation definition it runs (`simDefinitionFile`) and may override keys of it
(`ParameterOverrides`).  Plots are always off, and the logging level is raised to at least
3 so that the logs the checks read are written.

A full-flight case runs the whole simulation and checks the last value of each column named
under `ExpectedFinalValues`: a number is compared with the logged value, `Record` records
the logged value into the batch definition, and anything else is a warning.  With no
expected values at all, the position and velocity columns are marked for recording in a
later run.  A parameter-sweep case (one with a `ParameterSweep` dictionary) runs a wind
tunnel sweep and compares, or records, whole columns of its force log.

A logged value passes when it is within the percentage tolerance of the expected value, or
within the absolute tolerance of it; a NaN disagreement fails.  A simulation that fails
counts as an error and a failed comparison of its case.

The batch definition stays the batch's shared record: recorded values go into it, and when
any were recorded it is written back beside the batch file.  Cases whose own checks fail
with a fault are reported as that fault and are not counted in the summary.
-/

namespace RocketSim
namespace Batch

open Flight

/-- The settings of a batch run. -/
structure Settings where
  /-- Record every checked value instead of comparing it. -/
  recordAll : Bool := false
  /-- Only cases whose names contain this text. -/
  including : Option String := none
  /-- Only cases whose names do not contain this text. -/
  excluding : Option String := none
  /-- The tolerated disagreement, in percent. -/
  percentTolerance : Value := .float 0.2
  /-- The tolerated absolute disagreement. -/
  absoluteTolerance : Value := .float 1e-9
  /-- A result to validate against comparison data. -/
  validate : Option Value := none

/-- The outcome of one case: its comparisons passed and failed, its errors, and what it
printed. -/
structure CaseResult where
  name : String
  passed : Nat := 0
  failed : Nat := 0
  errors : Nat := 0
  console : String := ""

/-- The state of a batch run: the batch definition, the settings, the warnings so far, the
cases with newly recorded values (each once, in the order first recorded), the cases
finished, and the case running. -/
structure BatchRun where
  definition : Definition
  settings : Settings := {}
  warnings : Nat := 0
  recorded : List String := []
  finished : List CaseResult := []
  current : CaseResult := { name := "" }

/-- Work of a batch run.  A fault ends it, but the run's state up to the fault is kept:
what a failing case recorded and warned about still counts. -/
abbrev Runner := ExceptT Fault (StateT BatchRun (StateM Session))

namespace Runner

/-- Lifts a session computation. -/
def sim {α : Type} (m : Sim α) : Runner α := ExceptT.mk (StateT.lift (ExceptT.run m))

/-- Fails with a fault. -/
def fail {α : Type} (f : Fault) : Runner α := throw f

/-- Runs a read of the batch definition. -/
def config {α : Type} (m : Config α) : Runner α := do
  let (a, d) ← sim (m.run (← get).definition)
  modify fun b => { b with definition := d }
  pure a

/-- Updates the running case's outcome. -/
def tally (f : CaseResult → CaseResult) : Runner Unit :=
  modify fun b => { b with current := f b.current }

/-- Prints a line to the running case's console. -/
def say (line : String) : Runner Unit :=
  tally fun c => { c with console := c.console ++ line ++ "\n" }

/-- Prints a warning to the running case's console and counts it. -/
def warn (line : String) : Runner Unit := do
  modify fun b => { b with warnings := b.warnings + 1 }
  say line

/-- Notes that a case recorded new values. -/
def noteRecorded (name : String) : Runner Unit :=
  modify fun b => { b with
    recorded := if b.recorded.contains name then b.recorded else b.recorded ++ [name] }

/-- Sets a key of the batch definition. -/
def setValue (key text : String) : Runner Unit :=
  modify fun b => { b with definition := b.definition.setValue key (.str text) }

/-- Formats a value under a specification. -/
def format (v : Value) (spec : String) : Runner String := sim (Sim.lift (Show.format v spec))

/-- A tolerance setting as a number. -/
def tolerance (v : Value) : Runner Float :=
  match v.toFloat? with
  | some x => pure x
  | none => fail Fault.typeMismatch

end Runner

open Runner

/-- The column label of a result line: the name and a colon, left-aligned in 25 places; a
missing name cannot be labelled. -/
def label (column : Option String) : Runner String := do
  let some c := column | Runner.fail Fault.typeMismatch
  Runner.format (.str (c ++ ":")) "<25"

/-- A logged value in a result line, right-aligned in 15 places with 7 significant digits;
a missing value cannot be shown. -/
def shown (x : Option Float) : Runner String := do
  let some v := x | Runner.fail Fault.typeMismatch
  Runner.format (.float v) ">15.7"

/-- A logged value as it is recorded: its shortest text, or `None` when it is missing. -/
def recordedText (x : Option Float) : String :=
  match x with
  | some v => FloatText.repr v
  | none => "None"

/-- Compares a logged value with the expected one and prints the verdict; a missing logged
value fails silently. -/
def checkResult (column : Option String) (observed : Option Float) (expected : Value) :
    Runner Unit := do
  let some obs := observed | tally fun c => { c with failed := c.failed + 1 }
  let .float exp := expected | Runner.fail Fault.typeMismatch
  let error := Float.abs (exp - obs)
  let percent : Value :=
    if exp != 0.0 then .float (Float.abs (error * 100.0 / exp))
    else .int (if exp == obs then 0 else 100)
  let percentValue := percent.toFloat?.getD 0.0
  let s := (← get).settings
  let tol ← Runner.tolerance s.percentTolerance
  let absTol ← Runner.tolerance s.absoluteTolerance
  if (percentValue > tol && error > absTol) || percentValue.isNaN then
    say ("  " ++ (← label column) ++ " FAIL     " ++ (← shown (some obs)) ++ ", Expected: " ++
      (← shown (some exp)) ++ ", Disagreement: " ++ (← Runner.format percent ">10.2f") ++ " %")
    tally fun c => { c with failed := c.failed + 1 }
  else
    say ("  " ++ (← label column) ++ " ok       " ++ (← shown (some exp)))
    tally fun c => { c with passed := c.passed + 1 }

/-- The names of columns as a list literal. -/
def namesText (cols : List (String × List Float)) : Runner String :=
  Runner.sim (Sim.lift (Show.repr (.list (cols.map fun (n, _) => .str n))))

/-- The last value of the one column that matches a specification, from the first log
that has a matching column, with the column's name.  A log with several matching columns
is a warning (the value is missing, the specification stands for the name); no match in
any log is a warning too (both missing). -/
def singleResult (paths : Option (List String)) (spec : String) :
    Runner (Option Float × Option String) := do
  let some paths := paths | Runner.fail Fault.typeMismatch
  for path in paths do
    let cols ← Runner.sim (logColumns path spec)
    if cols.length > 1 then
      warn ("  ERROR: Column Spec '" ++ spec ++ "' matched more than one column: " ++
        (← namesText cols) ++ " in log file: '" ++ path ++ "'")
      return (none, some spec)
    if let [(name, data)] := cols then
      let some last := data.getLast? | Runner.fail Fault.badIndex
      return (some last, some name)
  warn ("  ERROR: Column Spec " ++ spec ++ " did not match any columns")
  pure (none, none)

/-- Records the logged value of an expected final value marked `Record` (or of any, when
recording everything); other text is a warning. -/
def recordFinal (name key spec : String) (paths : Option (List String)) : Runner Unit := do
  let r : Reader := { path := name }
  let expected ← config (r.getText key)
  if Str.lower expected == "record" || (← get).settings.recordAll then
    let (obs, col) ← singleResult paths spec
    Runner.setValue key (recordedText obs)
    say ("  " ++ (← label col) ++ " Recorded " ++ (← shown obs))
    noteRecorded name
  else
    warn ("  ERROR: Expected value: " ++ expected ++ " for parameter: " ++ key ++
      " not numeric or 'Record'")

/-- Checks one expected final value: its number against the last logged value of the column
its key's last part names.  Anything that is not a number, and every value when recording
everything, goes to recording instead. -/
def checkFinalValue (name key : String) (paths : Option (List String)) : Runner Unit := do
  let spec := Definition.lastPart key
  let r : Reader := { path := name }
  let compare : Runner Unit := do
    if (← get).settings.recordAll then Runner.fail Fault.badValue
    let expected ← config (r.getFloat key)
    let (obs, col) ← singleResult paths spec
    checkResult col obs (.float expected)
  tryCatch compare fun f =>
    if f.kind == .valueError then recordFinal name key spec paths else throw f

/-- The columns recorded when a case expects nothing. -/
def defaultRecordedColumns : List String :=
  ["PositionX", "PositionY", "PositionZ", "VelocityX", "VelocityY", "VelocityZ"]

/-- Marks the position and velocity columns of a case for recording, with a warning. -/
def recordDefaults (name : String) : Runner Unit := do
  warn "  WARNING: No expected parameter values provided. Recording Position & Velocity values."
  for c in defaultRecordedColumns do
    Runner.setValue (name ++ ".ExpectedFinalValues." ++ c) "Record"

/-- Counts a simulation that failed: an error and a failed comparison. -/
def crashed : Runner Unit :=
  tally fun c => { c with errors := c.errors + 1, failed := c.failed + 1 }

/-- Runs a session computation that may fail as a whole: its result, or none after
counting the failure. -/
def attempt {α : Type} (m : Sim α) : Runner (Option α) := do
  match ← Runner.sim (tryCatch (some <$> m) fun _ => pure none) with
  | some a => pure (some a)
  | none => crashed; pure none

/-- Runs a full-flight case and checks its expected final values; returns the paths of the
logs written (none without logging, empty after a failed simulation). -/
def fullFlight (name : String) (d : Definition) : Runner (Option (List String)) := do
  say "  Full Flight Case"
  let flight : Sim (Option (List String)) := do
    let w ← World.start d
    let (paths, _) ← Mission.simulate.run w
    pure paths
  let some paths ← attempt flight | pure (some [])
  let r : Reader := { path := name }
  let keys ← config (r.subKeys (some "ExpectedFinalValues"))
  if keys.isEmpty then recordDefaults name
  for key in keys do checkFinalValue name key paths
  pure paths

/-- The columns matching a specification in the first log that has any. -/
def firstMatching (paths : List String) (spec : String) : Runner (List (String × List Float)) := do
  let mut cols := []
  for path in paths do
    cols ← Runner.sim (logColumns path spec)
    if !cols.isEmpty then return cols
  pure cols

/-- The rounded quotient of two naturals, ties to even. -/
def roundedRatio (n d : Nat) : Nat :=
  let q := n / d
  let r := n % d
  if 2 * r > d then q + 1 else if 2 * r < d then q else if q % 2 == 0 then q else q + 1

/-- The comparisons of a sweep's logged values, `count` of them, with the expected ones at
every `step`-th value: each the index of a logged value and the value expected there.
Several expected values are compared in turn; a single one with as many values as the
rounded quotient of the count by the step. -/
def sweepComparisons (expected : List Value) (count step : Nat) : List (Nat × Value) :=
  if expected.length > 1 then expected.zipIdx.map fun (e, i) => (i * step, e)
  else (List.range (roundedRatio count step)).map fun i => (i * step, expected.headD .null)

/-- Compares the logged values of a column at the comparisons' indices with the values
expected there, in turn; an index past the end of the log is a fault. -/
def compareSweep (col : String) (data : List Float) (comparisons : List (Nat × Value)) :
    Runner Unit :=
  comparisons.forM fun (i, e) => do
    let some obs := data[i]? | Runner.fail Fault.badIndex
    checkResult (some col) (some obs) e

/-- Checks (or records) one results dictionary of a sweep: the column it names against its
expected values.  Several expected values are compared with every condition given (every
tenth value of a smoothed sweep), a single one with every such value. -/
def checkSweepResults (name dict : String) (paths : Option (List String)) (smooth : Value) :
    Runner Unit := do
  let r : Reader := { path := name }
  let col ← config (r.getText (dict ++ ".column"))
  let parts := Str.splitOn (← config (r.getText (dict ++ ".expectedValues"))) ","
  let expected : List Value := match parts.mapM FloatText.parse with
    | some xs => xs.map .float
    | none => parts.map .str
  let some paths := paths | Runner.fail Fault.typeMismatch
  if paths.isEmpty then Runner.fail (Fault.bare .unboundLocalError)
  let [(_, data)] ← firstMatching paths col | Runner.fail Fault.typeMismatch
  let isRecord := match expected with
    | [.str s] => Str.lower s == "record"
    | _ => false
  if isRecord || (← get).settings.recordAll then
    Runner.setValue (dict ++ ".expectedValues") (", ".intercalate (data.map FloatText.repr))
    noteRecorded name
    for v in data do
      say ("  " ++ (← label (some col)) ++ " Recorded " ++ (← shown (some v)))
  else
    let step := if ← Runner.sim (Sim.lift (Value.toBoolSetting smooth)) then 10 else 1
    compareSweep col data (sweepComparisons expected data.length step)

/-- Runs a parameter-sweep case and checks its results dictionaries (those whose paths
contain `Results`; the other dictionaries are the sweeps). -/
def sweepCase (name : String) (d : Definition) : Runner (Option (List String)) := do
  say "  Parameter Sweep Case"
  let r : Reader := { path := name }
  let dicts ← config (r.immediateSubDicts (some (name ++ ".ParameterSweep")))
  let results := dicts.filter (Str.containsStr · "Results")
  let sweeps := dicts.filter fun p => !Str.containsStr p "Results"
  let read ← sweeps.mapM fun p => do
    let key ← config (r.getText (p ++ ".sweptParameter"))
    let text ← config (r.getText (p ++ ".parameterValues"))
    pure (key, text)
  let values ← read.mapM fun (_, text) => Runner.sim (sweepValues text)
  let smoothDefault := if values.length < 25 then "True" else "False"
  let smooth := (← config (r.tryGetString "ParameterSweep.smoothLine")).getD (.str smoothDefault)
  let s : Sweep := { parameters := read.map (·.1), values, smoothLine := smooth }
  let sweepRun : Sim (Option (List String)) := do
    Sim.lift s.check
    let w ← World.start d
    let ((_, paths), _) ← (Mission.sweep s).run w
    pure paths
  let some paths ← attempt sweepRun | pure (some [])
  for dict in results do checkSweepResults name dict paths smooth
  pure paths

/-- Applies a case's overrides to its simulation definition: plots off, the logging level
raised to 3, and each key under the case's `ParameterOverrides`. -/
def applyOverrides (name : String) (d : Definition) : Runner Definition := do
  let d := d.setValue "SimControl.plot" (.str "None")
  let (level, d) ← Runner.sim (Sim.lift (d.getValue "SimControl.loggingLevel"))
  let n ← Runner.sim (Sim.lift (Value.toIntSetting level))
  let d := if n < 3 then d.setValue "SimControl.loggingLevel" (.str "3") else d
  let d := d.setValue "SimControl.RocketPlot" (.str "Off")
  let overridePath := name ++ ".ParameterOverrides"
  let keys := (← get).definition.subKeys overridePath
  keys.foldlM (fun d k => do
    let v ← config (Config.getValue k)
    pure (d.setValue (Str.replace k (overridePath ++ ".") "") v)) d

/-- Runs one case: loads its simulation definition, applies its overrides, and runs it as a
sweep or a full flight. -/
def runCase (name : String) : Runner CaseResult := do
  modify fun b => { b with current := { name } }
  say ("\nRunning Case: " ++ name)
  let r : Reader := { path := name }
  let file ← config (r.getText "simDefinitionFile")
  let d ← Runner.sim (Definition.load file)
  let d ← applyOverrides name d
  let subDicts ← config (r.immediateSubDicts none)
  let paths ← if subDicts.contains (name ++ ".ParameterSweep") then sweepCase name d
    else fullFlight name d
  if paths.isNone then Runner.fail Fault.typeMismatch
  let c := (← get).current
  modify fun b => { b with finished := b.finished ++ [c] }
  pure c

/-- The cases to run, in sorted order: every top-level dictionary, or those whose names
contain the included text and not the excluded text. -/
def casesToRun : Runner (List String) := do
  let b ← get
  let all := b.definition.immediateSubDicts ""
  let s := b.settings
  let chosen :=
    if s.including.isNone && s.excluding.isNone then all
    else all.filter fun c =>
      (match s.including with
        | some i => Str.containsStr c i
        | none => true) &&
      (match s.excluding with
        | some e => !Str.containsStr c e
        | none => true)
  pure (chosen.mergeSort fun a b => decide (a ≤ b))

/-- Adds a line to a text. -/
def line (text s : String) : String := text ++ s ++ "\n"

/-- The summary of a batch run and its exit code (0 when no counted case failed), with the
text of the rewritten batch definition when values were recorded. -/
def summary : Runner (String × Nat × Option String) := do
  let b ← get
  let failedNames := (b.finished.filter fun c => c.failed > 0 || c.errors > 0).map (·.name)
  let passed := (b.finished.map (·.passed)).foldr (· + ·) 0
  let failed := (b.finished.map (·.failed)).foldr (· + ·) 0
  let n := b.finished.length
  let mut out := line "" ("\n" ++ Str.rep 70 '-')
  out := line out "BATCH RUN RESULTS"
  out := line out ("Ran " ++ toString n ++ " Case(s)")
  if let some v := b.settings.validate then
    let vt ← Runner.sim (Sim.lift (Show.str v))
    modify fun b => { b with warnings := b.warnings + 1 }
    out := line out ("\nERROR: No comparison/validation data for " ++ vt ++
      " found. Make sure there is a plot of " ++ vt ++ " and some comparison data, and that " ++
      vt ++ " is included in the name of those plotting dictionaries\n")
  let warnings := (← get).warnings
  if warnings > 0 then out := line out ("Errors/Warnings: " ++ toString warnings)
  let mut recordedText := none
  if !b.recorded.isEmpty then
    out := line out ("New expected results were recorded for the following cases: " ++
      ", ".intercalate (KeySet.listing b.recorded))
    let d := (← get).definition
    let path := Str.replace (d.fileText) ".mapleaf" "_newExpectedResultsRecorded.mapleaf"
    out := line out ("Writing new testDefinition file to: " ++ path)
    out := line out "  If desired, use this file (or values from this file) to replace/update testDefinitions.mapleaf\n"
    let text ← Runner.sim (Sim.lift (d.writtenText path false))
    Runner.sim (Paths.writeText path text)
    recordedText := some text
  if failedNames.isEmpty then
    out := line out (toString n ++ " Case(s) ok")
    out := line out ""
    out := line out (if warnings == 0 then "OK" else "WARNING")
    pure (out, 0, recordedText)
  else
    out := line out (toString failedNames.length ++ "/" ++ toString n ++ " Case(s) Failed, " ++
      toString failed ++ "/" ++ toString (failed + passed) ++ " Parameter Comparison(s) Failed")
    out := line out ""
    out := line out "Failed Cases:"
    for c in failedNames do out := line out c
    out := line out ""
    out := line out "FAIL"
    pure (out, 1, recordedText)

/-- Runs a batch computation from a state, as a session computation with the final state. -/
def Runner.exec {α : Type} (m : Runner α) (b : BatchRun) : Sim (α × BatchRun) :=
  ExceptT.mk do
    let (r, b') ← (ExceptT.run m).run b
    pure (r.map fun a => (a, b'))

end Batch
end RocketSim
