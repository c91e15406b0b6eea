import Mathlib
import RocketSim.Proofs.QuaternionRotations
import RocketSim.Analysis.GridConvergence
import RocketSim.Proofs.SimRuns

/-!
# Grid convergence of power-law results

A numerical result that converges as a power of the grid spacing, `f(h) = f* + C·h^p`, takes the
values `f = f(h)`, `m = f(rh)` and `c = f(r²h)` on three grids, each `r` times coarser than the
last.  Then `c - m = r^p·(m - f)`, so Roache's observed order `log((c - m)/(m - f)) / log r` is
`p`, and Richardson's extrapolation `f + (f - m)/(r^p - 1)` is the limit `f*`.

In exact arithmetic (`exactOps`) the convergence check finds both for every point, at the local
orders and at their mean alike, with two exceptions: the mean of no orders is a statistics fault,
and the grid convergence indices are relative to the fine and to the medium value, so a point
where either is zero makes the check divide by zero.

* `observedOrderWith_powerLaw`, `richardson_powerLaw`: one point.
* `checkPointWith_exact`, `checkPointWith_of_zero`: the check of a point succeeds exactly when
  its fine and medium values are not zero; `checkPointWith_powerLaw`: a point of a power law
  then extrapolates to its limit.
* `powerLawCheck_recoversOrderAndLimit`: the whole check.
-/

open Real

namespace RocketSim

theorem throw_bind_outcome {α β : Type} (e : Fault) (f : α → Outcome β) :
    (throw e : Outcome α) >>= f = throw e := rfl

/-- A list mapped by a computation that succeeds on each item succeeds, with results that answer
their items as each computation promises. -/
theorem mapM_eq_pure_of_forall {α β γ : Type} {f : α → Outcome β} (g : β → γ) (k : α → γ) :
    ∀ {xs : List α}, (∀ x ∈ xs, ∃ y, f x = pure y ∧ g y = k x) →
      ∃ ys, xs.mapM f = pure ys ∧ ys.map g = xs.map k
  | [], _ => ⟨[], rfl, rfl⟩
  | x :: xs, h => by
    obtain ⟨y, hy, hgy⟩ := h x List.mem_cons_self
    obtain ⟨ys, hys, hgys⟩ :=
      mapM_eq_pure_of_forall g k fun x' hx' => h x' (List.mem_cons_of_mem x hx')
    refine ⟨y :: ys, ?_, by simp [hgy, hgys]⟩
    rw [List.mapM_cons, hy, pure_bind, hys, pure_bind]

/-- A list mapped by a computation that fails with `e` on one item, and on each other item fails
with `e` or succeeds, fails with `e`. -/
theorem mapM_eq_throw_of_exists {α β : Type} {f : α → Outcome β} {e : Fault} :
    ∀ {xs : List α}, (∀ x ∈ xs, f x = throw e ∨ ∃ y, f x = pure y) →
      (∃ x ∈ xs, f x = throw e) → xs.mapM f = throw e
  | [], _, ⟨_, hx, _⟩ => absurd hx List.not_mem_nil
  | x :: xs, h, ⟨x', hx', hfx'⟩ => by
    rw [List.mapM_cons]
    rcases h x List.mem_cons_self with hx | ⟨y, hy⟩
    · rw [hx]
      rfl
    · rw [hy, pure_bind]
      rcases List.mem_cons.1 hx' with rfl | hmem
      · rw [hy] at hfx'
        cases hfx'
      · rw [mapM_eq_throw_of_exists (fun z hz => h z (List.mem_cons_of_mem x hz)) ⟨x', hmem, hfx'⟩]
        rfl

namespace GridConvergence

/-- Grid convergence in exact arithmetic: real numbers, real powers and natural logarithms; a
division by zero, the logarithm of a number that is not positive and the mean of no numbers are
faults, as in the simulator. -/
@[simps]
noncomputable def exactOps : GridOps Outcome ℝ where
  add a b := pure (a + b)
  sub a b := pure (a - b)
  mul a b := pure (a * b)
  div a b := if b = 0 then throw Fault.zeroDivision else pure (a / b)
  pow a b := pure (a ^ b)
  abs a := pure |a|
  log a := if a ≤ 0 then throw Real.domainFault else pure (log a)
  max a b := pure (max a b)
  min a b := pure (min a b)
  lt a b := pure (decide (a < b))
  le a b := pure (decide (a ≤ b))
  gt a b := pure (decide (b < a))
  mean xs := if xs = [] then throw Stats.emptyFault else pure (xs.sum / xs.length)
  int n := n
  dec n e := n / 10 ^ e
  unset := throw (Fault.bare .unboundLocalError)

/-! ## One point -/

/-- A result converging as a power of the grid spacing, `f* + C·h^p`, with the spacing `h` of the
finest grid. -/
structure PowerLaw where
  limit : ℝ
  coeff : ℝ
  spacing : ℝ

namespace PowerLaw

variable (pt : PowerLaw) (p r : ℝ)

/-- The value at the grid spacing `h`. -/
noncomputable def valueAt (h : ℝ) : ℝ := pt.limit + pt.coeff * h ^ p

/-- The value on the finest grid. -/
noncomputable def fine : ℝ := pt.valueAt p pt.spacing

/-- The value on the grid `r` times coarser. -/
noncomputable def medium : ℝ := pt.valueAt p (r * pt.spacing)

/-- The value on the grid `r²` times coarser. -/
noncomputable def coarse : ℝ := pt.valueAt p (r ^ 2 * pt.spacing)

variable {pt p r}

theorem medium_sub_fine (hr : 0 < r) (hh : 0 < pt.spacing) :
    pt.medium p r - pt.fine p = pt.coeff * pt.spacing ^ p * (r ^ p - 1) := by
  simp only [medium, fine, valueAt, mul_rpow hr.le hh.le]
  ring

theorem coarse_sub_medium (hr : 0 < r) (hh : 0 < pt.spacing) :
    pt.coarse p r - pt.medium p r = r ^ p * (pt.medium p r - pt.fine p) := by
  rw [medium_sub_fine hr hh]
  simp only [coarse, medium, valueAt, mul_rpow (pow_nonneg hr.le 2) hh.le, mul_rpow hr.le hh.le,
    ← rpow_pow_comm hr.le]
  ring

end PowerLaw

/-- On grids that do get coarser, `r^p` is `1` only at the order zero. -/
theorem rpow_sub_one_ne_zero {r p : ℝ} (hr : 1 < r) (hp : p ≠ 0) : r ^ p - 1 ≠ 0 := by
  intro h
  have hlog := log_rpow (zero_lt_one.trans hr) p
  rw [sub_eq_zero.1 h, log_one] at hlog
  exact mul_ne_zero hp (log_pos hr).ne' hlog.symm

section Point

variable {pt : PowerLaw} {p r : ℝ}

theorem medium_sub_fine_ne_zero (hr : 1 < r) (hp : p ≠ 0) (hC : pt.coeff ≠ 0)
    (hh : 0 < pt.spacing) : pt.medium p r - pt.fine p ≠ 0 := by
  rw [PowerLaw.medium_sub_fine (zero_lt_one.trans hr) hh]
  exact mul_ne_zero (mul_ne_zero hC (rpow_pos_of_pos hh p).ne') (rpow_sub_one_ne_zero hr hp)

/-- The observed order of a power-law point is its order, when the limits let it be. -/
theorem observedOrderWith_powerLaw {lo hi : ℝ} (hr : 1 < r) (hp : lo ≤ p ∧ p ≤ hi) (hp0 : p ≠ 0)
    (hC : pt.coeff ≠ 0) (hh : 0 < pt.spacing) :
    observedOrderWith exactOps (pt.coarse p r) (pt.medium p r) (pt.fine p) r lo hi = pure p := by
  have hr0 : 0 < r := zero_lt_one.trans hr
  have hmf := medium_sub_fine_ne_zero hr hp0 hC hh
  -- the ratio of the two changes is `r^p`, whose logarithm is `p·log r`
  have hratio : (pt.coarse p r - pt.medium p r) / (pt.medium p r - pt.fine p) = r ^ p := by
    rw [PowerLaw.coarse_sub_medium hr0 hh, mul_div_cancel_right₀ _ hmf]
  have hpos : 0 < r ^ p := rpow_pos_of_pos hr0 p
  have horder : log (r ^ p) / log r = p := by
    rw [log_rpow hr0, mul_div_cancel_right₀ _ (log_pos hr).ne']
  simp [observedOrderWith, hmf, hratio, hpos.not_ge, hr0.not_ge, (log_pos hr).ne', horder,
    max_eq_right hp.1, min_eq_right hp.2]

/-- Richardson's extrapolation of a power-law point is its limit. -/
theorem richardson_powerLaw (hr : 1 < r) (hp : p ≠ 0) (hh : 0 < pt.spacing) :
    pt.fine p + (pt.fine p - pt.medium p r) / (r ^ p - 1) = pt.limit := by
  have hfm : pt.fine p - pt.medium p r = -(pt.coeff * pt.spacing ^ p * (r ^ p - 1)) := by
    rw [← PowerLaw.medium_sub_fine (zero_lt_one.trans hr) hh]
    ring
  rw [hfm, neg_div, mul_div_cancel_right₀ _ (rpow_sub_one_ne_zero hr hp)]
  simp [PowerLaw.fine, PowerLaw.valueAt]

end Point

/-! ## The check of a point -/

section Check

variable {coarser finer c m f r p safety norm : ℝ}

theorem gciWith_exact (hnorm : norm ≠ 0) (hden : r ^ p - 1 ≠ 0) :
    gciWith exactOps coarser finer r p safety norm =
      pure (|safety * |(coarser - finer) / norm| / (r ^ p - 1)| * 100) := by
  simp [gciWith, hnorm, hden]

theorem gciWith_zeroNorm : gciWith exactOps coarser finer r p safety 0 = throw Fault.zeroDivision := by
  simp [gciWith, throw_bind_outcome]

theorem richardsonWith_exact (hden : r ^ p - 1 ≠ 0) :
    richardsonWith exactOps finer coarser r p = pure (finer + (finer - coarser) / (r ^ p - 1)) := by
  simp [richardsonWith, hden]

theorem errorEstimateWith_exact (hden : r ^ p - 1 ≠ 0) :
    errorEstimateWith exactOps p f m r = pure (|f - m| / (r ^ p - 1)) := by
  simp [errorEstimateWith, hden]

/-- The two-grid rule answers at every point when the formal order is not zero. -/
theorem twoGridWith_exact {formal : ℝ} (hden : r ^ formal - 1 ≠ 0) :
    twoGridWith exactOps p f m r formal = pure (3 * (|f - m| / (r ^ formal - 1))) := by
  simp [twoGridWith, errorEstimateWith_exact hden]

variable (s : Settings ℝ) (rule : Rule Outcome ℝ)

/-- The check of a point whose fine and medium values are not zero and differ succeeds, with
Richardson's extrapolation and the rule's uncertainty. -/
theorem checkPointWith_exact {u : ℝ} (hr : 0 < s.refinementRatio)
    (hden : s.refinementRatio ^ p - 1 ≠ 0) (hf : f ≠ 0) (hm : m ≠ 0) (hmf : m - f ≠ 0)
    (hu : rule p f m s.refinementRatio s.theoreticalOrder = pure u) :
    ∃ pc, checkPointWith exactOps s rule c m f p = pure pc ∧
      pc.extrapolated = f + (f - m) / (s.refinementRatio ^ p - 1) ∧ pc.uncertainty = u := by
  -- the asymptotic check divides by the fine index, which is not zero
  have hasym : |3 * |(m - f) / f| / (s.refinementRatio ^ p - 1)| * 100 * s.refinementRatio ^ p ≠ 0 :=
    mul_ne_zero (mul_ne_zero (abs_ne_zero.2 (div_ne_zero (mul_ne_zero three_ne_zero
      (abs_ne_zero.2 (div_ne_zero hmf hf))) hden)) (by norm_num)) (rpow_pos_of_pos hr p).ne'
  simp only [checkPointWith, exactOps_int, Int.cast_ofNat, gciWith_exact hf hden,
    gciWith_exact hm hden, richardsonWith_exact hden, hu, asymptoticRatioWith, exactOps_add,
    exactOps_sub, exactOps_mul, exactOps_pow, exactOps_div, exactOps_abs, exactOps_lt,
    exactOps_gt, hasym, if_false, pure_bind]
  split_ifs <;> exact ⟨_, rfl, rfl, rfl⟩

theorem checkPointWith_zeroFine : checkPointWith exactOps s rule c m 0 p = throw Fault.zeroDivision := by
  simp [checkPointWith, gciWith_zeroNorm, throw_bind_outcome]

theorem checkPointWith_zeroMedium (hden : s.refinementRatio ^ p - 1 ≠ 0) (hf : f ≠ 0) :
    checkPointWith exactOps s rule c 0 f p = throw Fault.zeroDivision := by
  simp [checkPointWith, gciWith_exact hf hden, gciWith_zeroNorm, throw_bind_outcome]

/-- A point whose fine or medium value is zero divides by zero. -/
theorem checkPointWith_of_zero (hden : s.refinementRatio ^ p - 1 ≠ 0) (hz : f = 0 ∨ m = 0) :
    checkPointWith exactOps s rule c m f p = throw Fault.zeroDivision := by
  by_cases hf : f = 0
  · exact hf ▸ checkPointWith_zeroFine s rule
  · exact hz.resolve_left hf ▸ checkPointWith_zeroMedium s rule hden hf

end Check

/-- A point of a power law, checked at its own order, passes and extrapolates to its limit when
its fine and medium values are not zero and the rule answers. -/
theorem checkPointWith_powerLaw (s : Settings ℝ) (rule : Rule Outcome ℝ) {p : ℝ} {pt : PowerLaw}
    (hr : 1 < s.refinementRatio) (hp0 : p ≠ 0) (hC : pt.coeff ≠ 0) (hh : 0 < pt.spacing)
    (hf : pt.fine p ≠ 0) (hm : pt.medium p s.refinementRatio ≠ 0)
    (hrule : ∃ u, rule p (pt.fine p) (pt.medium p s.refinementRatio) s.refinementRatio
      s.theoreticalOrder = pure u) :
    ∃ pc, checkPointWith exactOps s rule (pt.coarse p s.refinementRatio)
        (pt.medium p s.refinementRatio) (pt.fine p) p = pure pc ∧ pc.extrapolated = pt.limit := by
  obtain ⟨u, hu⟩ := hrule
  obtain ⟨pc, hpc, hext, -⟩ := checkPointWith_exact s rule (zero_lt_one.trans hr)
    (rpow_sub_one_ne_zero hr hp0) hf hm (medium_sub_fine_ne_zero hr hp0 hC hh) hu
  exact ⟨pc, hpc, hext.trans (richardson_powerLaw hr hp0 hh)⟩

/-! ## The whole check -/

/-- The convergence check of results that converge as powers of the grid spacing, on grids each
`r` times coarser than the last. -/
noncomputable def checkPowerLaw (s : Settings ℝ) (rule : Rule Outcome ℝ) (p : ℝ)
    (pts : List PowerLaw) : Outcome (Convergence ℝ) :=
  convergenceWith exactOps s rule (pts.map (·.coarse p s.refinementRatio))
    (pts.map (·.medium p s.refinementRatio)) (pts.map (·.fine p))

section Whole

variable (s : Settings ℝ) (rule : Rule Outcome ℝ) {p : ℝ} (pts : List PowerLaw)

/-- With the order of every point found, the check is the mean of the orders, then the check of
each point at its order or at the mean. -/
theorem checkPowerLaw_eq
    (hord : ∀ pt ∈ pts, observedOrderWith exactOps (pt.coarse p s.refinementRatio)
      (pt.medium p s.refinementRatio) (pt.fine p) s.refinementRatio s.minOrder s.maxOrder =
        pure p) :
    checkPowerLaw s rule p pts = exactOps.mean (pts.map fun _ => p) >>= fun avg =>
      pts.mapM (fun pt => checkPointWith exactOps s rule (pt.coarse p s.refinementRatio)
        (pt.medium p s.refinementRatio) (pt.fine p) (if s.useAverageOrder then avg else p)) >>=
      fun checks => pure ⟨pts.map fun _ => p, checks⟩ := by
  simp only [checkPowerLaw, convergenceWith, List.zip_map', List.mapM_map, Function.comp_def]
  rw [mapM_eq_pure_map _ (fun _ => p) pts fun pt hpt => hord pt hpt, pure_bind]
  simp only [List.zip_map', List.mapM_map, Function.comp_def]

theorem mean_const {pts : List PowerLaw} (hne : pts ≠ []) :
    exactOps.mean (pts.map fun _ => p) = pure p := by
  have hlen : (pts.length : ℝ) ≠ 0 := Nat.cast_ne_zero.2 (List.length_pos_iff.2 hne).ne'
  simp [hne, List.map_const', hlen]

end Whole

/-- **Grid convergence recovers the order and the limit of a power law.**  For results
`f* + C·h^p` with `C ≠ 0` and `h > 0` on grids refined by a ratio `r > 1`, at an order `p ≠ 0`
within the limits and with an uncertainty rule that answers, the convergence check of a nonempty
list of points whose fine and medium values are not zero finds the order `p` and extrapolates
to `f*` at every point, at local and at averaged orders alike.  An empty list is a statistics
fault, and a zero fine or medium value a division by zero. -/
theorem powerLawCheck_recoversOrderAndLimit (s : Settings ℝ) (rule : Rule Outcome ℝ) {p : ℝ}
    (pts : List PowerLaw) (hr : 1 < s.refinementRatio) (hp : s.minOrder ≤ p ∧ p ≤ s.maxOrder)
    (hp0 : p ≠ 0) (hpts : ∀ pt ∈ pts, pt.coeff ≠ 0 ∧ 0 < pt.spacing)
    (hrule : ∀ f m, ∃ u, rule p f m s.refinementRatio s.theoreticalOrder = pure u) :
    (pts ≠ [] → (∀ pt ∈ pts, pt.fine p ≠ 0 ∧ pt.medium p s.refinementRatio ≠ 0) →
      ∃ checks, checkPowerLaw s rule p pts = pure ⟨pts.map fun _ => p, checks⟩ ∧
        checks.map (·.extrapolated) = pts.map (·.limit)) ∧
    (pts = [] → checkPowerLaw s rule p pts = throw Stats.emptyFault) ∧
    ((∃ pt ∈ pts, pt.fine p = 0 ∨ pt.medium p s.refinementRatio = 0) →
      checkPowerLaw s rule p pts = throw Fault.zeroDivision) := by
  have hden := rpow_sub_one_ne_zero hr hp0
  have heq := checkPowerLaw_eq s rule pts fun pt hpt =>
    observedOrderWith_powerLaw hr hp hp0 (hpts pt hpt).1 (hpts pt hpt).2
  refine ⟨fun hne hnz => ?_, fun hnil => ?_, fun ⟨pt₀, hpt₀, hzero⟩ => ?_⟩
  · -- every point is checked at the order `p` and extrapolates to its limit
    obtain ⟨checks, hchecks, hext⟩ := mapM_eq_pure_of_forall (f := fun pt : PowerLaw =>
        checkPointWith exactOps s rule (pt.coarse p s.refinementRatio)
          (pt.medium p s.refinementRatio) (pt.fine p) p)
      (fun pc : PointCheck ℝ => pc.extrapolated) (fun pt : PowerLaw => pt.limit) fun pt hpt =>
        checkPointWith_powerLaw s rule hr hp0 (hpts pt hpt).1 (hpts pt hpt).2 (hnz pt hpt).1
          (hnz pt hpt).2 (hrule _ _)
    refine ⟨checks, ?_, hext⟩
    rw [heq, mean_const hne, pure_bind, ite_self, hchecks, pure_bind]
  · subst hnil
    rw [heq]
    simp only [List.map_nil, exactOps_mean, ↓reduceIte, throw_bind_outcome]
  · -- each point either divides by zero or passes, and one does divide by zero
    rw [heq, mean_const (List.ne_nil_of_mem hpt₀), pure_bind, ite_self,
      mapM_eq_throw_of_exists (fun pt hpt => ?_) ⟨pt₀, hpt₀, checkPointWith_of_zero s rule hden hzero⟩]
    · rfl
    by_cases hz : pt.fine p = 0 ∨ pt.medium p s.refinementRatio = 0
    · exact .inl (checkPointWith_of_zero s rule hden hz)
    · obtain ⟨hf, hm⟩ := not_or.1 hz
      obtain ⟨pc, hpc, -⟩ := checkPointWith_powerLaw s rule hr hp0 (hpts pt hpt).1 (hpts pt hpt).2
        hf hm (hrule _ _)
      exact .inr ⟨pc, hpc⟩

/-- At order one on grids refined by two, with the customary settings and the two-grid rule: two
points extrapolate to their limits `1` and `2`, and the point `-1 + h`, whose values `3`, `1` and
`0` end at zero, divides by zero. -/
theorem powerLawCheck_recoversOrderAndLimit_orderOne :
    (∃ checks, checkPowerLaw (Settings.standard exactOps 2) (twoGridWith exactOps) 1
        [⟨1, 1, 1⟩, ⟨2, -1, 1 / 2⟩] = pure ⟨[1, 1], checks⟩ ∧
      checks.map (·.extrapolated) = [1, 2]) ∧
    checkPowerLaw (Settings.standard exactOps 2) (twoGridWith exactOps) 1 [⟨-1, 1, 1⟩] =
      throw Fault.zeroDivision := by
  have hr : 1 < (Settings.standard exactOps (2 : ℝ)).refinementRatio := by
    norm_num [Settings.standard]
  have hp : (Settings.standard exactOps (2 : ℝ)).minOrder ≤ 1 ∧
      1 ≤ (Settings.standard exactOps (2 : ℝ)).maxOrder := by
    norm_num [Settings.standard]
  have hrule (f m : ℝ) : ∃ u, twoGridWith exactOps 1 f m
      (Settings.standard exactOps (2 : ℝ)).refinementRatio
      (Settings.standard exactOps (2 : ℝ)).theoreticalOrder = pure u :=
    ⟨_, twoGridWith_exact (by norm_num [Settings.standard])⟩
  constructor
  · have h := (powerLawCheck_recoversOrderAndLimit _ _ [⟨1, 1, 1⟩, ⟨2, -1, 1 / 2⟩] hr hp one_ne_zero
      (by norm_num) hrule).1 (by simp)
      (by norm_num [PowerLaw.fine, PowerLaw.medium, PowerLaw.valueAt, Settings.standard])
    simpa using h
  · exact (powerLawCheck_recoversOrderAndLimit _ _ [⟨-1, 1, 1⟩] hr hp one_ne_zero (by norm_num)
      hrule).2.2 ⟨_, List.mem_singleton_self _, .inl (by norm_num [PowerLaw.fine, PowerLaw.valueAt])⟩

end GridConvergence
end RocketSim
