import RocketSim.Core.Statistics

/-!
# Grid convergence

Results computed on three grids (or with three time steps), each finer than the last by a
fixed refinement ratio, show how fast a numerical result converges and how far it still is
from the limit.  From coarse, medium and fine values this module computes Roache's
observed order of convergence (limited to a range), the grid convergence indices of the
two finer pairs, the asymptotic-range check, the Richardson extrapolation of the limit,
and an uncertainty estimate by one of several published rules.

When the observed order is close to the theoretical one and the results are in the
asymptotic range, the grid convergence indices use the safety factor 1.25 instead of 3.

Every formula is written once over the operations it uses (`GridOps`): the simulator runs
them on its values, and the same text over the reals is their exact meaning.
-/

namespace RocketSim
namespace GridConvergence

/-- The operations grid convergence is worked out in, over numbers `α` in a monad `m`. -/
structure GridOps (m : Type → Type) (α : Type) where
  add : α → α → m α
  sub : α → α → m α
  mul : α → α → m α
  div : α → α → m α
  pow : α → α → m α
  abs : α → m α
  log : α → m α
  /-- The larger of two numbers, the first on a tie. -/
  max : α → α → m α
  /-- The smaller of two numbers, the first on a tie. -/
  min : α → α → m α
  lt : α → α → m Bool
  le : α → α → m Bool
  gt : α → α → m Bool
  /-- The arithmetic mean of a list of numbers. -/
  mean : List α → m α
  int : Int → α
  /-- The decimal fraction `n · 10^-e`. -/
  dec : Nat → Nat → α
  /-- The failure of a rule that leaves its result unset. -/
  unset : m α

/-- Settings of a convergence check. -/
structure Settings (α : Type) where
  refinementRatio : α
  minOrder : α
  maxOrder : α
  orderTolerance : α
  asymptoticTolerance : α
  theoreticalOrder : α
  useAverageOrder : Bool

/-- An uncertainty rule: from the order, the fine and medium values, the refinement ratio
and the formal order, the uncertainty of the fine value. -/
abbrev Rule (m : Type → Type) (α : Type) := α → α → α → α → α → m α

/-- The results of the check of one point: the grid convergence indices of the fine and the
medium grid, the asymptotic check, the extrapolated value and the uncertainty. -/
structure PointCheck (α : Type) where
  gciFine : α
  gciMedium : α
  asymptotic : α
  extrapolated : α
  uncertainty : α

/-- The results of a convergence check: the observed order of each point, and the check of
each point. -/
structure Convergence (α : Type) where
  orders : List α
  points : List (PointCheck α)

section Formulas

variable {m : Type → Type} [Monad m] {α : Type} (O : GridOps m α)

/-- The customary settings for a refinement ratio: orders limited to `[0.5, 2]`, theoretical
order 2 within 0.2, asymptotic within 0.05, local orders. -/
def Settings.standard (r : α) : Settings α where
  refinementRatio := r
  minOrder := O.dec 5 1
  maxOrder := O.int 2
  orderTolerance := O.dec 2 1
  asymptoticTolerance := O.dec 5 2
  theoreticalOrder := O.int 2
  useAverageOrder := false

/-- The observed order of convergence `log((c - m)/(m - f)) / log r`, limited to
`[minOrder, maxOrder]`; a non-positive ratio gives the lower limit. -/
def observedOrderWith (c med f r minOrder maxOrder : α) : m α := do
  let body ← O.div (← O.sub c med) (← O.sub med f)
  if ← O.le body (O.int 0) then pure minOrder
  else
    let num ← O.log body
    let den ← O.log r
    let p ← O.div num den
    let p ← O.max minOrder p
    O.min maxOrder p

/-- The grid convergence index, in percent: the safety factor times the change between the
two values relative to `norm` (the finer one unless given), over `r^p - 1`. -/
def gciWith (coarser finer r p safety norm : α) : m α := do
  let rel ← O.abs (← O.div (← O.sub coarser finer) norm)
  let num ← O.mul safety rel
  let den ← O.sub (← O.pow r p) (O.int 1)
  O.mul (← O.abs (← O.div num den)) (O.int 100)

/-- The asymptotic-range check `GCI₂₃ / (GCI₁₂ · r^p)`, near one in the asymptotic range. -/
def asymptoticRatioWith (gciFine gciCoarse r p : α) : m α := do
  O.div gciCoarse (← O.mul gciFine (← O.pow r p))

/-- Richardson's extrapolation of the limit from the two finest values. -/
def richardsonWith (finer coarser r p : α) : m α := do
  O.add finer (← O.div (← O.sub finer coarser) (← O.sub (← O.pow r p) (O.int 1)))

/-- The error estimate `|f - m| / (r^p - 1)`. -/
def errorEstimateWith (p fine med r : α) : m α := do
  O.div (← O.abs (← O.sub fine med)) (← O.sub (← O.pow r p) (O.int 1))

/-- The factor-of-safety rule of Xing and Stern; the factor is undefined for a
non-positive order ratio. -/
def factorOfSafetyWith : Rule m α := fun p fine med r formal => do
  let ratio ← O.div p formal
  let fs ←
    if (← O.gt ratio (O.int 0)) && (← O.le ratio (O.int 1)) then
      O.add (← O.mul (O.dec 16 1) ratio) (← O.mul (O.dec 245 2) (← O.sub (O.int 1) ratio))
    else if ← O.gt ratio (O.int 1) then
      O.add (← O.mul (O.dec 16 1) ratio) (← O.mul (O.dec 148 1) (← O.sub ratio (O.int 1)))
    else O.unset
  O.mul fs (← errorEstimateWith O p fine med r)

/-- The GCI-OR rule: safety factor 1.25 for an order within `(1.8, 2.2)`, otherwise 3. -/
def orderRangeWith : Rule m α := fun p fine med r _ => do
  let inRange := (← O.gt p (O.dec 18 1)) && (← O.lt p (O.dec 22 1))
  O.mul (if inRange then O.dec 125 2 else O.int 3) (← errorEstimateWith O p fine med r)

/-- The two-grid GCI rule: safety factor 3 at the formal order. -/
def twoGridWith : Rule m α := fun _ fine med r formal => do
  O.mul (O.int 3) (← errorEstimateWith O formal fine med r)

/-- The global GCI rule: safety factor 1.25 at the observed order. -/
def globalWith : Rule m α := fun p fine med r _ => do
  O.mul (O.dec 125 2) (← errorEstimateWith O p fine med r)

/-- The check of one point at an order: both grid convergence indices, the asymptotic check,
the extrapolated value and the uncertainty. -/
def checkPointWith (s : Settings α) (rule : Rule m α) (c med f p : α) : m (PointCheck α) := do
  let r := s.refinementRatio
  let g12 ← gciWith O med f r p (O.int 3) f
  let g23 ← gciWith O c med r p (O.int 3) med
  let asym ← asymptoticRatioWith O g12 g23 r p
  let orderMatches ← do
    if ← O.lt p (← O.add s.theoreticalOrder s.orderTolerance) then
      O.gt p (← O.sub s.theoreticalOrder s.orderTolerance)
    else pure false
  let isAsymptotic ← O.lt (← O.abs (← O.sub asym (O.int 1))) s.asymptoticTolerance
  let (g12, g23) ←
    if orderMatches && isAsymptotic then
      pure (← gciWith O med f r p (O.dec 125 2) f, ← gciWith O c med r p (O.dec 125 2) med)
    else pure (g12, g23)
  let rv ← richardsonWith O f med r p
  let u ← rule p f med r s.theoreticalOrder
  pure ⟨g12, g23, asym, rv, u⟩

/-- The convergence results of matching lists of coarse, medium and fine values: the local
orders, their mean, and the check of each point at its local order or at the mean. -/
def convergenceWith (s : Settings α) (rule : Rule m α) (cs ms fs : List α) :
    m (Convergence α) := do
  let points := cs.zip (ms.zip fs)
  let orders ← points.mapM fun (c, med, f) =>
    observedOrderWith O c med f s.refinementRatio s.minOrder s.maxOrder
  let avg ← O.mean orders
  let checks ← (points.zip orders).mapM fun ((c, med, f), p) =>
    checkPointWith O s rule c med f (if s.useAverageOrder then avg else p)
  pure ⟨orders, checks⟩

end Formulas

/-! ## Over the simulator's values -/

/-- Grid convergence is worked out in the simulator's values. -/
def valueOps : GridOps Sim Value where
  add := Ops.add
  sub := Ops.sub
  mul := Ops.mul
  div := Ops.div
  pow := Ops.pow
  abs := Ops.abs
  log x := do pure (.float (← Sim.lift (Real.log (← Ops.real x))))
  max := Ops.max
  min := Ops.min
  lt := Ops.lt
  le := Ops.le
  gt := Ops.gt
  mean := Stats.mean
  int := .int
  dec n e := .float (OfScientific.ofScientific n true e)
  unset := Sim.fail (Fault.bare .unboundLocalError)

/-- An uncertainty rule over values. -/
abbrev UncertaintyRule := Rule Sim Value

/-- The factor-of-safety rule over values. -/
def uncertaintyFactorOfSafety : UncertaintyRule := factorOfSafetyWith valueOps

/-- The GCI-OR rule over values. -/
def uncertaintyOrderRange : UncertaintyRule := orderRangeWith valueOps

/-- The two-grid GCI rule over values. -/
def uncertaintyTwoGrid : UncertaintyRule := twoGridWith valueOps

/-- The global GCI rule over values. -/
def uncertaintyGlobal : UncertaintyRule := globalWith valueOps

/-- The convergence results of matching lists of coarse, medium and fine values (single
values count as one-item lists): the orders, the grid convergence indices of the fine and
the medium grid, the asymptotic checks, the extrapolated values and the uncertainties,
each a list, or a single value when there is one point. -/
def check (s : Settings Value) (rule : UncertaintyRule) (coarse med fine : Value) :
    Sim Value := do
  let (cs, ms, fs) ← match coarse.items?, med.items?, fine.items? with
    | some cs, some ms, some fs => pure (cs, ms, fs)
    | _, _, _ => pure ([coarse], [med], [fine])
  let result ← convergenceWith valueOps s rule cs ms fs
  let columns := result.orders :: [result.points.map (·.gciFine),
    result.points.map (·.gciMedium), result.points.map (·.asymptotic),
    result.points.map (·.extrapolated), result.points.map (·.uncertainty)]
  if result.orders.length == 1 then pure (.list (columns.map fun col => col.headD .null))
  else pure (.list (columns.map Value.list))

end GridConvergence
end RocketSim
