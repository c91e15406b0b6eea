import RocketSim.Analysis.GridConvergence
import RocketSim.Numeric.Spline
import RocketSim.Console.Binding

/-!
# Analysis functions by name

The grid convergence functions.  The uncertainty rule of a convergence check is a function
value, applied through `Apply`.
-/

namespace RocketSim
namespace Console
namespace Calls

/-- The uncertainty rules by name. -/
def uncertaintyRule? (name : String) : Option GridConvergence.UncertaintyRule :=
  match name with
  | "uncertainty_FS" => some GridConvergence.uncertaintyFactorOfSafety
  | "uncertainty_GCIOR" => some GridConvergence.uncertaintyOrderRange
  | "uncertainty_GCI2g" => some GridConvergence.uncertaintyTwoGrid
  | "uncertainty_GCIglb" => some GridConvergence.uncertaintyGlobal
  | _ => none

/-- The cubic interpolating spline through points, continued outside them, as a function:
the points are sorted by abscissa first (a stable sort), at least four are needed, and a
NaN among them makes every value NaN. -/
def cubicThrough (xs ys : Array Float) : Sim (Float → Float) := do
  if xs.size != ys.size || xs.size < 4 then Sim.fail Fault.badValue
  let pairs := (xs.toList.zip ys.toList).mergeSort fun a b => decide (a.1 ≤ b.1)
  if pairs.any fun (x, y) => x.isNaN || y.isNaN then return fun _ => Binary64.nan
  let s ← Sim.lift (Spline.interpolate (pairs.map (·.1)).toArray (pairs.map (·.2)).toArray)
  pure s.eval

/-- The grid convergence functions. -/
def gridConvergence (apply : Apply) (name : String) (args : List Value)
    (kwargs : List (String × Value)) : Option (Sim Value) :=
  match uncertaintyRule? name with
  | some rule => some <| do
    let [p, f, m, r, formal] ← bindParams [req "order", req "fineVal", req "medVal",
        req "meshRatio", opt "formalOrder" (.int 2)] args kwargs
      | Sim.fail Fault.typeMismatch
    rule p f m r formal
  | none =>
  match name with
  | "orderOfConvergence" => some <| do
    let [c, m, f, r, lo, hi] ← bindParams [req "coarseVal", req "medVal", req "fineVal",
        req "gridRefinementRatio", opt "minOrder" (.float 0.5), opt "maxOrder" (.int 2)] args kwargs
      | Sim.fail Fault.typeMismatch
    GridConvergence.observedOrderWith GridConvergence.valueOps c m f r lo hi
  | "relError" => some <| do
    let [c, f] ← bindParams [req "coarserVal", req "finerVal"] args kwargs
      | Sim.fail Fault.typeMismatch
    Ops.div (← Ops.sub c f) f
  | "GCI" => some <| do
    let [c, f, r, p, fs, norm] ← bindParams [req "coarserVal", req "finerVal",
        req "gridRefinementRatio", req "observedOrderOfConvergence", opt "factorOfSafety" (.int 3),
        opt "normalizationConstant" .null] args kwargs
      | Sim.fail Fault.typeMismatch
    GridConvergence.gciWith GridConvergence.valueOps c f r p fs
      (if norm matches .null then f else norm)
  | "asymptoticCheck" => some <| do
    let [g1, g2, r, p] ← bindParams [req "GCIFiner", req "GCICoarser", req "refinementRatio",
        req "observedOrderOfConvergence"] args kwargs
      | Sim.fail Fault.typeMismatch
    GridConvergence.asymptoticRatioWith GridConvergence.valueOps g1 g2 r p
  | "richardsonExtrap" => some <| do
    let [f, c, r, p] ← bindParams [req "finerVal", req "coarserVal", req "refinementRatio",
        opt "orderOfConvergence" (.int 2)] args kwargs
      | Sim.fail Fault.typeMismatch
    GridConvergence.richardsonWith GridConvergence.valueOps f c r p
  | "errorEstimate" => some <| do
    let [p, f, m, r] ← bindParams [req "order", req "fineVal", req "medVal", req "meshRatio"]
        args kwargs
      | Sim.fail Fault.typeMismatch
    GridConvergence.errorEstimateWith GridConvergence.valueOps p f m r
  | "interpolateDataToCoarseMesh" => some <| do
    let [coarse, mx, my, fx, fy] ← bindParams [req "coarseX", req "medX", req "medY",
        req "fineX", req "fineY"] args kwargs
      | Sim.fail Fault.typeMismatch
    let numbers (v : Value) : Sim (Array Float) := do
      let some xs := v.items? | Sim.fail Fault.typeMismatch
      pure (← xs.mapM Ops.real).toArray
    let med ← cubicThrough (← numbers mx) (← numbers my)
    let fine ← cubicThrough (← numbers fx) (← numbers fy)
    let points ← numbers coarse
    pure (.list [.list (points.toList.map fun x => .arrayScalar (med x)),
      .list (points.toList.map fun x => .arrayScalar (fine x))])
  | "checkConvergence" => some <| do
    let [c, m, f, r, lo, hi, tol, asym, theo, _, est, avg, _] ← bindParams [req "coarseVals",
        req "medVals", req "fineVals", req "gridRefinementRatio",
        opt "minConvergOrder" (.float 0.5), opt "maxConvergOrder" (.int 2),
        opt "orderTolerance" (.float 0.2), opt "asympTolerance" (.float 0.05),
        opt "theoreticalOrderOfConvergence" (.int 2), opt "GCINormalizationConstant" .null,
        opt "uncertaintyEstimator" (.func "gridConvergence.uncertainty_GCI2g" .null),
        opt "useAvgOrderOfConvergence" (.bool false), opt "writeSummaryToConsole" (.bool false)]
        args kwargs
      | Sim.fail Fault.typeMismatch
    let settings : GridConvergence.Settings Value :=
      { refinementRatio := r
        minOrder := lo
        maxOrder := hi
        orderTolerance := tol
        asymptoticTolerance := asym
        theoreticalOrder := theo
        useAverageOrder := avg.truthy }
    let rule : GridConvergence.UncertaintyRule := fun p f m r formal => apply est [p, f, m, r, formal]
    GridConvergence.check settings rule c m f
  | _ => none

end Calls
end Console
end RocketSim
