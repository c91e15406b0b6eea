import RocketSim.Optimize.Swarm
import RocketSim.Optimize.Minimizer
import RocketSim.Console.Rockets

/-!
# Optimizations on request

An optimization request reads a definition as a rocket request does and reads its
optimization problem.  The answer describes the problem: the search's kind, the cost
function, the independent variables (keys, names, bounds), the dependent variables, any
carried-over best, and the search's own settings.

On request it also applies trials to copies of the definition (`update`: each trial's
values by variable name and the values the variables' keys then hold), values lists of
trials (`evaluate`), and runs the search (`run`: its cost, point, recorded costs for a
minimizer, and the continuation file it writes).  Each trial, list and run fails on its
own.
-/

namespace RocketSim
namespace Console
namespace Optimizations

open Flight Optimize

/-- Numbers as a numeric array. -/
def numbers (xs : List Float) : Value := .array (xs.map .float)

/-- A truth setting as read (`0` or `1`), or its default. -/
def truthSetting (b : Option Bool) (default : Bool) : Json :=
  match b with
  | some b => .int (if b then 1 else 0)
  | none => .bool default

/-- The answer describing a problem. -/
def describe (p : Problem) : List (String × Json) :=
  let common := [
    ("costFunctionDefinition", Json.str p.costFunction),
    ("varKeys", .arr (p.independents.map (.str ·.key))),
    ("varNames", .arr (p.independents.map (.str ·.name))),
    ("minVals", .arr (p.independents.map (encode <| .float ·.low))),
    ("maxVals", .arr (p.independents.map (encode <| .float ·.high))),
    ("dependentVars", .arr (p.dependents.map (.str ·.key))),
    ("dependentVarDefinitions", .arr (p.dependents.map (.str ·.definition))),
    ("bestPosition", (p.bestPosition.map (encode ∘ numbers)).getD .null),
    ("bestCost", (p.bestCost.map (encode ∘ .float)).getD .null),
    ("nSimDefinitions", .int 1)]
  match p.method with
  | .swarm s => ("class", .str "PSORunner") :: common ++ [
      ("initPositions", encode (.array (s.positions.map numbers))),
      ("nIterations", .int s.iterations),
      ("showConvergence", truthSetting s.showConvergence false)]
  | .minimize name shown => ("class", .str "ScipyMinimizeRunner") :: common ++ [
      ("minimizeMethod", .str name),
      ("showConvergence", truthSetting shown true)]

/-- The trials of a request field: lists of numbers. -/
def trialsOf (j : Json) : Sim (List (List Value)) := do
  let some xss := j.getArr? | Sim.fail Fault.typeMismatch
  xss.mapM fun xs => do
    let some ys := xs.getArr? | Sim.fail Fault.typeMismatch
    ys.mapM fun y => Sim.lift (readValue y)

/-- Applies a trial to a copy of the definition: the trial's values by name and the values
the variables' keys then hold. -/
def update (p : Problem) (trial : List Value) : Sim Json := do
  let (d, named) ← p.trialDefinition trial
  let keys := p.independents.map (·.key) ++ p.dependents.map (·.key)
  let values ← keys.mapM fun k => do
    let (v, _) ← Sim.lift (d.getValue k)
    pure (k, encode v)
  pure (.obj [("indVars", encode (.dict (named.map fun (k, v) => (.str k, v)))),
    ("values", .obj values)])

/-- Runs the search of a problem. -/
def run (p : Problem) : Sim Json := do
  match p.method with
  | .swarm s =>
    let (cost, best, positions) ← swarmSearch p s
    let text ← swarmContinuation p best cost positions
    pure (.obj [("cost", encode (.float cost)), ("position", encode (numbers best)),
      ("continuationFile", .str text)])
  | .minimize name _ =>
    let (cost, x, history, text) ← minimizerSearch p name
    pure (.obj [("cost", encode cost), ("position", encode (numbers x)),
      ("costHistory", .arr (history.map encode)), ("continuationFile", .str text)])

/-- Answers an optimization request. -/
def answer (req : Json) : Sim Json := do
  let p ← Optimize.read (← Rockets.definitionFor req)
  let updates ← match req.get? "update" with
    | some j => do
      let trials ← trialsOf j
      trials.mapM fun t => tryCatch (update p t) fun e => pure (encodeFault e)
    | none => pure []
  let costs ← match req.get? "evaluate" with
    | some j => do
      let some items := j.getArr? | Sim.fail Fault.typeMismatch
      let lists ← items.mapM trialsOf
      lists.mapM fun ts => tryCatch (do pure (Json.arr ((← p.costs ts).map encode)))
        fun e => pure (encodeFault e)
    | none => pure []
  let ran ← match req.get? "run" with
    | some (.bool true) => do pure [("run", ← tryCatch (run p) fun e => pure (encodeFault e))]
    | _ => pure []
  pure (.obj (describe p ++ [("updates", .arr updates), ("costs", .arr costs)] ++ ran))

end Optimizations
end Console
end RocketSim
