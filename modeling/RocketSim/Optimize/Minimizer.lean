import RocketSim.Optimize.Problem
import RocketSim.Optimize.Simplex
import RocketSim.Optimize.Powell
import RocketSim.Optimize.QuasiNewton

/-!
# Minimizers of an optimization problem

A minimizer searches from the middle of the variables' ranges, with the tolerance
`ScipyMinimize.tolerance` (default `0.01`) and at most `ScipyMinimize.maxIterations`
iterations (default `50`).  The minimizers are named as in `scipy.optimize.minimize`, in
any case: `Nelder-Mead` (the downhill simplex method), `Powell` (line searches along a
changing set of directions) and `BFGS` (a quasi-Newton method).

Every cost a minimizer asks for is recorded, in order.  A trial that fails (its simulation
crashes, say) is given a high cost instead: the highest recorded so far once more than five
are recorded, that times 1.1 while fewer are, and the failure itself for the very first
trial.
-/

namespace RocketSim
namespace Optimize

open Flight

/-- Work of a minimizer: trials against the session, the costs recorded so far alongside. -/
abbrev Trials := StateT (List Value) Sim

/-- The highest of the recorded costs, the first of equals. -/
def highest (costs : List Value) : Sim Value := do
  let some first := costs.head? | Sim.fail Fault.badValue
  costs.tail.foldlM (fun m c => do if ← Ops.gt c m then pure c else pure m) first

/-- The cost of a trial for a minimizer, recorded; a failed trial costs the high cost. -/
def trialCost (p : Problem) (x : List Float) : Trials Float := do
  let history ← get
  let result ← tryCatch (StateT.lift (p.cost (x.map .float))) fun e => do
    if history.length > 5 then StateT.lift (highest history)
    else if history.length > 0 then StateT.lift (do Ops.mul (← highest history) (.float 1.1))
    else throw e
  set (history ++ [result])
  StateT.lift (Sim.lift (Formula.realOf result))

/-- Minimizes a problem's cost with the named minimizer: the best point and its cost. -/
def minimizeWith (p : Problem) (name : String) (tolerance : Float) (limit : Int) :
    Trials (List Float × Value) := do
  let f := trialCost p
  match Str.lower name with
  | "nelder-mead" =>
    let (x, fx) ← Simplex.minimize f p.center tolerance tolerance limit
    pure (x, .float fx)
  | "powell" =>
    let (x, fx) ← Powell.minimize f p.center tolerance tolerance limit
    pure (x, .arrayScalar fx)
  | "bfgs" =>
    let (x, fx) ← QuasiNewton.minimize f p.center tolerance limit
    pure (x, .float fx)
  | _ => throw Fault.badValue

/-- The continuation file of a minimizer: the definition with each variable's range
narrowed to within `1e-12` of the point found. -/
def minimizerContinuation (p : Problem) (x : List Float) : Sim String := do
  let d := (p.independents.zip x).foldl (fun d (v, xi) =>
    d.setValue ("Optimization.IndependentVariables." ++ v.name)
      (.str (numberText (xi - 1e-12) ++ " < " ++ v.key ++ " < " ++ numberText (xi + 1e-12))))
    p.definition
  p.writeContinuation d

/-- Runs a minimizer on a problem: its cost and point, the costs recorded, and the text of
the continuation file. -/
def minimizerSearch (p : Problem) (name : String) :
    Sim (Value × List Float × List Value × String) := do
  let settings : Config (Float × Int) := do
    let tolerance := (← reader.tryGetFloat "ScipyMinimize.tolerance").getD 0.01
    let limit := (← reader.tryGetInt "ScipyMinimize.maxIterations").getD 50
    discard (reader.tryGetBool "ScipyMinimize.printStatus")
    pure (tolerance, limit)
  let ((tolerance, limit), _) ← settings.run p.definition
  let ((x, cost), history) ← (minimizeWith p name tolerance limit).run []
  let text ← minimizerContinuation p x
  pure (cost, x, history, text)

end Optimize
end RocketSim
