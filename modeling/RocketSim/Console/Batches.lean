import RocketSim.Batch.Run
import RocketSim.Console.Definitions

/-!
# Regression batches on request

A batch request supplies the files of a batch and names its batch definition (`main`,
`batch.mapleaf` unless given), read without defaults.  Its keyword arguments are the run's
settings: `recordAll`, `printStackTraces`, `include`, `exclude`, `percentErrorTolerance`,
`absoluteErrorTolerance` and `resultToValidate`; any other is refused.

The answer lists the cases run (sorted), each case's outcome or the fault that ended it,
the summary and exit code, the number of warnings, and the rewritten batch definition when
values were recorded.
-/

namespace RocketSim
namespace Console
namespace Batches

open Batch

/-- The settings named by keyword arguments. -/
def settingsOf (kwargs : List (String × Value)) : Sim Settings :=
  kwargs.foldlM (fun s (k, v) => do
    let text : Sim (Option String) := match v with
      | .null => pure none
      | .str t => pure (some t)
      | _ => Sim.fail Fault.typeMismatch
    match k with
    | "recordAll" => pure { s with recordAll := v.truthy }
    | "printStackTraces" => pure s
    | "include" => pure { s with including := ← text }
    | "exclude" => pure { s with excluding := ← text }
    | "percentErrorTolerance" => pure { s with percentTolerance := v }
    | "absoluteErrorTolerance" => pure { s with absoluteTolerance := v }
    | "resultToValidate" => pure { s with validate := match v with
      | .null => none
      | _ => some v }
    | _ => Sim.fail Fault.typeMismatch) {}

/-- The outcome of a case as a JSON document. -/
def caseJson (c : CaseResult) : Json :=
  .obj [("name", .str c.name), ("testsPassed", .int c.passed), ("testsFailed", .int c.failed),
    ("totalErrors", .int c.errors), ("plotPaths", .arr []), ("console", .str c.console)]

/-- Runs every case, each failing on its own, then the summary. -/
def runAll : Runner (List String × List Json × String × Nat × Option String) := do
  let cases ← casesToRun
  let results ← cases.mapM fun c =>
    tryCatch (caseJson <$> runCase c) fun f => pure (encodeFault f)
  let (text, code, recorded) ← summary
  pure (cases, results, text, code, recorded)

/-- Answers a batch request. -/
def answer (req : Json) : Sim Json := do
  let kwargs ← Sim.lift (readKwargs req)
  let settings ← settingsOf kwargs
  writeFiles req
  let main := ((req.get? "main").bind Json.getStr?).getD "batch.mapleaf"
  let d ← Definition.loadWithDefaults (Paths.workingDirectory ++ "/" ++ main) []
  let ((cases, results, text, code, recorded), b) ← runAll.exec { definition := d, settings }
  let fields : List (String × Json) := [("cases", .arr (cases.map Json.str)),
    ("results", .arr results), ("exitCode", .int code), ("summary", .str text),
    ("warningCount", .int b.warnings)]
  pure (.obj (match recorded with
    | some t => fields ++ [("recordedFile", .str t)]
    | none => fields))

end Batches
end Console
end RocketSim
