import Mathlib
import RocketSim.Proofs.QuaternionRotations
import RocketSim.Environment.Atmosphere

/-!
# The standard atmosphere in exact arithmetic

The standard atmosphere (`Atmosphere.standardAt`) is written over any numbers with the
elementary functions; over the reals (`realScalar`, `realElementary`) it is exact.  An altitude
`z` above sea level becomes the geopotential altitude `H = R z / (R + z)`, held at the ceiling
of 86 km; the layer is one less than the number of base altitudes at or below `H`; and the
layer's base temperature `T` and pressure `P`, recorded when the atmosphere was set up, give
`T + r (H - h)` and the hydrostatic pressure `P · pressureFactor` at the height `H - h` above
the base `h`, for the layer's lapse rate `r`.

The bases are built layer by layer (`nextBase`): each is the layer below evaluated at its top
(`Chain`).  So the profile is continuous across every base, and since the temperature is
positive at every base it is positive in every layer, where the pressure falls strictly.

Below the lowest base the layer index is `-1`, which counts from the end: the top layer,
isothermal at its base temperature, extrapolated down.

**Results.**
* `layerBases_chain`: the bases of one set-up are a chain at the documented temperatures.
* `inLayer_recorded`, `inLayer_recorded_below`: the layer an altitude is evaluated in, with
  the bases of any number of set-ups recorded.
* `profile_continuousOn`, `profile_strictAntiOn`: the profile from the lowest base to the
  ceiling is continuous and its pressure falls strictly.
* `standardAt_profile`: the standard atmosphere over the altitudes above sea level.
-/

open Real Set

namespace RocketSim

open Classical in
/-- The exponential and the power function over the reals, with the power function's faults:
zero to a negative power, and a negative base with an exponent that is no integer. -/
noncomputable instance realElementary : Elementary ℝ where
  exp x := pure (exp x)
  pow x y :=
    if x = 0 ∧ y < 0 then throw Fault.zeroDivision
    else if x < 0 ∧ ∀ n : ℤ, y ≠ n then throw Fault.badValue
    else pure (x ^ y)

theorem real_exp_eq (x : ℝ) : Elementary.exp x = pure (exp x) := rfl

theorem real_pow_eq {x : ℝ} (hx : 0 < x) (y : ℝ) : Elementary.pow x y = pure (x ^ y) := by
  simp [Elementary.pow, hx.ne', not_lt.mpr hx.le]

namespace Atmosphere

/-! ## The constants -/

@[simp] theorem heights_real :
    (heights : List ℝ) = [-2000, 11000, 20000, 32000, 47000, 51000, 71000, 84852] := by
  norm_num [heights]

@[simp] theorem rates_real :
    (rates : List ℝ) = [-13 / 2000, 0, 1 / 1000, 7 / 2500, 0, -7 / 2500, -1 / 500, 0] := by
  norm_num [rates]

theorem gravity_mul_pos : 0 < (gravity * molecularWeight : ℝ) := by
  norm_num [gravity, molecularWeight]

theorem gasConstant_pos : 0 < (gasConstant : ℝ) := by
  norm_num [gasConstant]

/-! ## One layer -/

/-- The exact pressure ratio across a height `dh` of a layer with base temperature `tb` and
lapse rate `rate`. -/
noncomputable def pressureFactor (tb rate dh : ℝ) : ℝ :=
  if rate = 0 then exp (-gravity * molecularWeight * dh / (gasConstant * tb * 1000.0))
  else ((tb + rate * dh) / tb) ^ (-gravity * molecularWeight / (gasConstant * rate * 1000.0))

section Layer

variable {tb rate dh : ℝ}

theorem pressureRatio_eq (htb : 0 < tb) (hT : 0 < tb + rate * dh) :
    pressureRatio tb rate dh = pure (pressureFactor tb rate dh) := by
  unfold pressureRatio pressureFactor
  by_cases h0 : rate = 0
  · simp [h0, real_exp_eq]
  · simp only [real_beq, real_zero_point, h0, decide_false, Bool.false_eq_true, if_false]
    exact real_pow_eq (div_pos hT htb) _

/-- Within a layer whose temperature stays positive, the temperature changes along the lapse
rate and the pressure by the exact factor. -/
theorem withinLayer_eq (pb : ℝ) (htb : 0 < tb) (hT : 0 < tb + rate * dh) :
    withinLayer tb pb rate dh = pure (tb + rate * dh, pressureFactor tb rate dh * pb) := by
  simp only [withinLayer, pressureRatio_eq htb hT, pure_bind]

theorem pressureFactor_zero (htb : tb ≠ 0) : pressureFactor tb rate 0 = 1 := by
  unfold pressureFactor
  split_ifs <;> simp [htb]

theorem pressureFactor_pos (htb : 0 < tb) (hT : 0 < tb + rate * dh) :
    0 < pressureFactor tb rate dh := by
  unfold pressureFactor
  split_ifs
  · exact exp_pos _
  · exact rpow_pos_of_pos (div_pos hT htb) _

/-- The heights above the base at which the layer's temperature is positive. -/
def warm (tb rate : ℝ) : Set ℝ := {dh | 0 < tb + rate * dh}

theorem continuousOn_pressureFactor (htb : 0 < tb) :
    ContinuousOn (pressureFactor tb rate) (warm tb rate) := by
  unfold pressureFactor
  by_cases h0 : rate = 0
  · simp only [h0, if_true]
    exact (by fun_prop : Continuous _).continuousOn
  · simp only [h0, if_false]
    refine ContinuousOn.rpow_const (by fun_prop) fun dh hdh => Or.inl ?_
    exact (div_pos hdh htb).ne'

/-- The pressure falls strictly with height wherever the temperature is positive: in an
isothermal layer as an exponential, otherwise as a power of the temperature ratio whose
exponent has the sign opposite to the lapse rate. -/
theorem strictAntiOn_pressureFactor (htb : 0 < tb) :
    StrictAntiOn (pressureFactor tb rate) (warm tb rate) := by
  intro a ha b hb hab
  have hg := gravity_mul_pos
  have hR := gasConstant_pos
  unfold pressureFactor
  rcases lt_trichotomy rate 0 with hneg | h0 | hpos
  · -- the temperature falls: a positive power of a falling ratio
    simp only [hneg.ne, if_false]
    have hexp : 0 < -gravity * molecularWeight / (gasConstant * rate * 1000.0) := by
      apply div_pos_of_neg_of_neg <;> norm_num <;> nlinarith
    apply rpow_lt_rpow (div_pos hb htb).le _ hexp
    exact div_lt_div_of_pos_right (by nlinarith) htb
  · -- isothermal: an exponential of a falling argument
    simp only [h0, if_true]
    apply exp_lt_exp.mpr
    apply div_lt_div_of_pos_right _ (by norm_num; nlinarith)
    nlinarith
  · -- the temperature rises: a negative power of a rising ratio
    simp only [hpos.ne', if_false]
    have hexp : -gravity * molecularWeight / (gasConstant * rate * 1000.0) < 0 := by
      apply div_neg_of_neg_of_pos <;> norm_num <;> nlinarith
    apply rpow_lt_rpow_of_neg (div_pos ha htb) _ hexp
    exact div_lt_div_of_pos_right (by nlinarith) htb

end Layer

/-- An affine function positive at both ends of an interval is positive on it. -/
theorem affine_pos_of_ends {a b D x : ℝ} (ha : 0 < a) (hD : 0 < a + b * D) (hx0 : 0 ≤ x)
    (hxD : x ≤ D) : 0 < a + b * x := by
  rcases le_or_gt 0 b with hb | hb
  · nlinarith
  · nlinarith

/-! ## The layer bases -/

/-- The base altitude of layer `i` (m, geopotential). -/
noncomputable def baseHeight (i : ℕ) : ℝ := (heights : List ℝ).getD i 0

/-- The lapse rate of layer `i` (K/m). -/
noncomputable def lapse (i : ℕ) : ℝ := (rates : List ℝ).getD i 0

/-- The temperatures at the layer bases (K), as the standard atmosphere documents them. -/
noncomputable def baseTemps : List ℝ := [301.15, 216.65, 216.65, 228.65, 270.65, 270.65, 214.65, 186.946]

/-- Each documented base temperature is the one below it changed along the lapse rate across
the layer. -/
theorem baseTemps_next : ∀ j < 7,
    baseTemps.getD j 0 + lapse j * (baseHeight (j + 1) - baseHeight j) =
      baseTemps.getD (j + 1) 0 := by
  intro j hj
  interval_cases j <;> norm_num [baseTemps, lapse, baseHeight]

theorem baseTemps_pos : ∀ j < 8, 0 < baseTemps.getD j 0 := by
  intro j hj
  interval_cases j <;> norm_num [baseTemps]

/-- Layer bases built from the lowest one up: at the first documented temperatures, with
positive pressures, and each base the layer below it evaluated at its top. -/
structure Chain (C : List (ℝ × ℝ)) : Prop where
  temps : C.map Prod.fst = baseTemps.take C.length
  pressure_pos : ∀ b ∈ C, 0 < b.2
  next : ∀ j, j + 1 < C.length →
    withinLayer (C.getD j (0, 0)).1 (C.getD j (0, 0)).2 (lapse j)
      (baseHeight (j + 1) - baseHeight j) = pure (C.getD (j + 1) (0, 0))

theorem Chain.temp_eq {C : List (ℝ × ℝ)} (hC : Chain C) {j : ℕ} (hj : j < C.length) :
    (C.getD j (0, 0)).1 = baseTemps.getD j 0 := by
  have h := congrArg (fun l => l.getD j 0) hC.temps
  simp only [List.getD_eq_getElem?_getD, List.getElem?_map, List.getElem?_take, hj,
    if_true] at h
  simpa [List.getD_eq_getElem?_getD, List.getElem?_eq_getElem hj] using h

theorem nextBase_eq (bs : List (ℝ × ℝ)) (t p : ℝ) (k : ℕ) :
    nextBase (bs, t, p) (1 + k) =
      withinLayer t p (lapse k) (baseHeight (k + 1) - baseHeight k) >>=
        fun next => pure (bs ++ [next], next) := by
  simp [nextBase, lapse, baseHeight, Nat.add_comm 1 k]

/-- A chain of `k + 1` bases grows by one layer: its last base `(t, p)`, evaluated at the top
of layer `k`, is the next base, and the bases with it still form a chain. -/
theorem Chain.append_top {C : List (ℝ × ℝ)} (hC : Chain C) {k : ℕ} (hk : k < 7)
    (hlen : C.length = k + 1) {t p : ℝ} (hlast : C.getD k (0, 0) = (t, p)) :
    withinLayer t p (lapse k) (baseHeight (k + 1) - baseHeight k) =
        pure (t + lapse k * (baseHeight (k + 1) - baseHeight k),
          pressureFactor t (lapse k) (baseHeight (k + 1) - baseHeight k) * p) ∧
      Chain (C ++ [(t + lapse k * (baseHeight (k + 1) - baseHeight k),
          pressureFactor t (lapse k) (baseHeight (k + 1) - baseHeight k) * p)]) := by
  -- the last base is at its documented temperature and a positive pressure
  have ht : t = baseTemps.getD k 0 := by
    have h := hC.temp_eq (j := k) (by omega)
    rwa [hlast] at h
  have hp : 0 < p := by
    have hmem : C.getD k (0, 0) ∈ C := by
      rw [List.getD_eq_getElem _ _ (by omega)]
      exact List.getElem_mem _
    have h := hC.pressure_pos _ hmem
    rwa [hlast] at h
  have htop := baseTemps_next k hk
  have hwarm : 0 < t + lapse k * (baseHeight (k + 1) - baseHeight k) := by
    rw [ht, htop]
    exact baseTemps_pos (k + 1) (by omega)
  have hstep := withinLayer_eq p (ht ▸ baseTemps_pos k (by omega)) hwarm
  refine ⟨hstep, ⟨?_, ?_, ?_⟩⟩
  · have hk8 : k + 1 < baseTemps.length := by simp [baseTemps]; omega
    have htake : baseTemps.take (k + 1 + 1) =
        baseTemps.take (k + 1) ++ [baseTemps.getD (k + 1) 0] := by
      rw [List.take_add_one, List.getElem?_eq_getElem hk8, List.getD_eq_getElem _ _ hk8]
      rfl
    rw [List.map_append, hC.temps, List.length_append, List.length_singleton, hlen, htake]
    simp only [List.map_cons, List.map_nil, ht, htop]
  · intro b hb
    rcases List.mem_append.mp hb with hb | hb
    · exact hC.pressure_pos b hb
    · simp only [List.mem_singleton] at hb
      subst hb
      exact mul_pos (pressureFactor_pos (ht ▸ baseTemps_pos k (by omega)) hwarm) hp
  · intro j hj
    simp only [List.length_append, List.length_singleton, hlen] at hj
    rcases Nat.lt_or_ge (j + 1) (k + 1) with hjk | hjk
    · rw [List.getD_append _ _ _ _ (by omega), List.getD_append _ _ _ _ (by omega)]
      exact hC.next j (by omega)
    · obtain rfl : j = k := by omega
      rw [List.getD_append _ _ _ _ (by omega), hlast, hstep,
        List.getD_append_right _ _ _ _ (by omega)]
      simp [hlen]

/-- The loop that builds the bases keeps them a chain: after `k` layers, `k + 1` bases. -/
theorem foldlM_nextBase (b0 : ℝ × ℝ) (h0 : b0.1 = baseTemps.getD 0 0) (hp : 0 < b0.2) :
    ∀ k ≤ 7, ∃ C : List (ℝ × ℝ),
      (List.range' 1 k).foldlM nextBase ([b0], b0) = pure (C, C.getD k (0, 0)) ∧
        C.length = k + 1 ∧ Chain C := by
  intro k hk
  induction k with
  | zero =>
    refine ⟨[b0], rfl, rfl, ⟨?_, by simpa using hp, fun j hj => by simp at hj⟩⟩
    simp [h0, baseTemps]
  | succ k ih =>
    obtain ⟨C, hrun, hlen, hC⟩ := ih (by omega)
    -- one more pass of the loop appends the base the chain's last one reaches
    rcases hlast : C.getD k (0, 0) with ⟨t, p⟩
    obtain ⟨hstep, hC'⟩ := hC.append_top (by omega) hlen hlast
    refine ⟨_, ?_, by simp [hlen], hC'⟩
    rw [List.range'_concat, Nat.one_mul, List.foldlM_append, hrun, pure_bind, hlast,
      List.foldlM_cons, nextBase_eq, hstep, pure_bind, pure_bind, List.foldlM_nil]
    simp [hlen]

/-- A set-up of the standard atmosphere succeeds, with eight bases that form a chain. -/
theorem layerBases_chain :
    ∃ B : List (ℝ × ℝ), layerBases = pure B ∧ B.length = 8 ∧ Chain B := by
  -- the lowest base: sea level carried down to its altitude along the lowest lapse rate
  have hratio : (0 : ℝ) < (seaLevelTemp + (rates : List ℝ).getD 0 0.0 *
      (heights : List ℝ).getD 0 0.0) / seaLevelTemp := by
    norm_num [seaLevelTemp]
  have hfirst : (seaLevelTemp + (rates : List ℝ).getD 0 0.0 * (heights : List ℝ).getD 0 0.0)
      = baseTemps.getD 0 0 := by
    norm_num [seaLevelTemp, baseTemps]
  have hp : (0 : ℝ) < ((seaLevelTemp + (rates : List ℝ).getD 0 0.0 *
      (heights : List ℝ).getD 0 0.0) / seaLevelTemp) ^ (-gravity * molecularWeight /
      (gasConstant * (rates : List ℝ).getD 0 0.0 * 1000.0)) * seaLevelPressure :=
    mul_pos (rpow_pos_of_pos hratio _) (by norm_num [seaLevelPressure])
  obtain ⟨C, hrun, hlen, hC⟩ := foldlM_nextBase (_, _) hfirst hp 7 le_rfl
  refine ⟨C, ?_, hlen, hC⟩
  have h7 : (heights : List ℝ).length - 1 = 7 := by simp
  simp only [layerBases, real_pow_eq hratio, pure_bind, h7, hrun]

/-! ## The layer of an altitude -/

/-- In a strictly increasing list, the entries at or below `x` are the first `i + 1` when the
`i`-th is at or below `x` and the next one, if any, above it. -/
theorem countP_sorted {l : List ℝ} (hl : l.Pairwise (· < ·)) {p : ℝ → Bool} {x : ℝ}
    (hp : ∀ k, p k = true ↔ k ≤ x) {i : ℕ} (hi : i < l.length) (hle : l[i] ≤ x)
    (hlt : ∀ h : i + 1 < l.length, x < l[i + 1]) : l.countP p = i + 1 := by
  induction l generalizing i with
  | nil => simp at hi
  | cons a t ih =>
    rw [List.pairwise_cons] at hl
    cases i with
    | zero =>
      -- the head is the last entry at or below `x`: every later one is above it
      have hall : ∀ b ∈ t, x < b := by
        cases t with
        | nil => simp
        | cons c t' =>
          have hc : x < c := hlt (by simp)
          intro b hb
          rcases List.mem_cons.mp hb with rfl | hb
          · exact hc
          · exact hc.trans (List.rel_of_pairwise_cons hl.2 hb)
      have ht : t.countP p = 0 :=
        List.countP_eq_zero.mpr fun b hb => by simp [hp, hall b hb]
      have ha : p a = true := (hp a).mpr hle
      simp [ht, ha]
    | succ j =>
      have hj : j < t.length := by simpa using hi
      have ha : p a = true := (hp a).mpr ((hl.1 _ (List.getElem_mem hj)).le.trans hle)
      rw [List.countP_cons, ih hl.2 hj hle (fun h => hlt (by simpa using h))]
      simp [ha]

/-- In a strictly increasing list, no entry is at or below a number below the first. -/
theorem countP_sorted_below {l : List ℝ} (hl : l.Pairwise (· < ·)) {p : ℝ → Bool} {x : ℝ}
    (hp : ∀ k, p k = true ↔ k ≤ x) (hx : ∀ h : 0 < l.length, x < l[0]) : l.countP p = 0 := by
  cases l with
  | nil => rfl
  | cons a t =>
    have ha : x < a := hx (by simp)
    refine List.countP_eq_zero.mpr fun b hb => ?_
    have hab : a ≤ b := by
      rcases List.mem_cons.mp hb with rfl | hb
      · exact le_rfl
      · exact (List.rel_of_pairwise_cons hl hb).le
    simpa [hp] using ha.trans_le hab

theorem heights_increasing : (heights : List ℝ).Pairwise (· < ·) := by
  simp only [heights_real, List.pairwise_cons, List.mem_cons, List.not_mem_nil]
  norm_num

theorem heights_getElem {i : ℕ} (h : i < (heights : List ℝ).length) :
    (heights : List ℝ)[i] = baseHeight i := by
  rw [baseHeight, List.getD_eq_getElem _ _ h]

/-- An altitude at or above base `i` and below the next is in layer `i`. -/
theorem layerOf_eq {i : ℕ} {H : ℝ} (hi : i < 8) (hlo : baseHeight i ≤ H)
    (hhi : i < 7 → H < baseHeight (i + 1)) : layerOf H = i := by
  have hlen : (heights : List ℝ).length = 8 := by simp
  unfold layerOf
  rw [countP_sorted heights_increasing (x := H) (i := i) (fun k => by simp) (by omega)
    (by rwa [heights_getElem]) (fun h => by rw [heights_getElem]; exact hhi (by omega))]
  push_cast
  ring

/-- An altitude below the lowest base is in layer `-1`. -/
theorem layerOf_below {H : ℝ} (hH : H < baseHeight 0) : layerOf H = -1 := by
  unfold layerOf
  rw [countP_sorted_below heights_increasing (x := H) (fun k => by simp)
    (fun h => by rwa [heights_getElem])]
  rfl

theorem itemAt_natCast {β : Type} (xs : List β) {i : ℕ} (h : i < xs.length) :
    itemAt xs (i : ℤ) = pure xs[i] := by
  have h0 : ¬ (i : ℤ) < 0 := by omega
  simp [itemAt, h0, h]

theorem itemAt_neg_one {β : Type} (xs : List β) (h : xs ≠ []) :
    itemAt xs (-1) = pure (xs.getLast h) := by
  have hlen : 0 < xs.length := List.length_pos_of_ne_nil h
  have hj : ((-1 + (xs.length : ℤ)).toNat) = xs.length - 1 := by omega
  simp only [itemAt, show (-1 : ℤ) < 0 by norm_num, if_true,
    show ¬ (-1 + (xs.length : ℤ) < 0) by omega, if_false, hj]
  rw [List.getElem?_eq_getElem (by omega), List.getLast_eq_getElem]

/-- The bases recorded after `n + 1` set-ups of the standard atmosphere, each appending the
bases `B` of one set-up. -/
def recorded (B : List (ℝ × ℝ)) (n : ℕ) : List (ℝ × ℝ) := (List.replicate (n + 1) B).flatten

theorem itemAt_recorded {B : List (ℝ × ℝ)} (n : ℕ) {i : ℕ} (h : i < B.length) :
    itemAt (recorded B n) i = pure (B.getD i (0, 0)) := by
  have hsplit : recorded B n = B ++ (List.replicate n B).flatten := by
    simp [recorded, List.replicate_succ]
  rw [itemAt_natCast _ (by rw [hsplit, List.length_append]; omega)]
  simp [hsplit, List.getElem_append_left h, List.getElem?_eq_getElem h]

theorem itemAt_recorded_last {B : List (ℝ × ℝ)} (n : ℕ) (h : B ≠ []) :
    itemAt (recorded B n) (-1) = pure (B.getLast h) := by
  have hsplit : recorded B n = (List.replicate n B).flatten ++ B := by
    simp [recorded, List.replicate_succ']
  have hne : recorded B n ≠ [] := by simp [hsplit, h]
  rw [itemAt_neg_one _ hne]
  simp only [hsplit, List.getLast_append_of_ne_nil _ h]

section Recorded

variable {B : List (ℝ × ℝ)}

/-- **The layer an altitude is evaluated in.**  At or above base `i` and below the next base,
the standard atmosphere evaluates layer `i` of the recorded bases. -/
theorem inLayer_eq (hlen : B.length = 8) (n : ℕ) {i : ℕ} {H : ℝ} (hi : i < 8)
    (hlo : baseHeight i ≤ H) (hhi : i < 7 → H < baseHeight (i + 1)) :
    inLayer (recorded B n) H =
      withinLayer (B.getD i (0, 0)).1 (B.getD i (0, 0)).2 (lapse i) (H - baseHeight i) := by
  have hh : i < (heights : List ℝ).length := by simp; omega
  have hr : i < (rates : List ℝ).length := by simp; omega
  have hrate : (rates : List ℝ)[i] = lapse i := by rw [lapse, List.getD_eq_getElem _ _ hr]
  rcases hb : B.getD i (0, 0) with ⟨tb, pb⟩
  simp only [inLayer, layerOf_eq hi hlo hhi, itemAt_natCast _ hh, itemAt_natCast _ hr,
    itemAt_recorded n (hlen ▸ hi), hb, pure_bind, heights_getElem, hrate]

/-- Below the lowest base the layer index counts from the end: the standard atmosphere
evaluates the top layer, isothermal, at the altitude's height above the top base. -/
theorem inLayer_below (hlen : B.length = 8) (n : ℕ) {H : ℝ} (hH : H < baseHeight 0) :
    inLayer (recorded B n) H =
      withinLayer (B.getD 7 (0, 0)).1 (B.getD 7 (0, 0)).2 (lapse 7) (H - baseHeight 7) := by
  have hne : B ≠ [] := by rintro rfl; simp at hlen
  have hlast : B.getLast hne = B.getD 7 (0, 0) := by
    rw [List.getLast_eq_getElem, List.getD_eq_getElem _ _ (by omega)]
    simp [hlen]
  have hh : (heights : List ℝ) ≠ [] := by simp
  have hr : (rates : List ℝ) ≠ [] := by simp
  have htop : (heights : List ℝ).getLast hh = baseHeight 7 := by simp [baseHeight]
  have hrate : (rates : List ℝ).getLast hr = lapse 7 := by simp [lapse]
  rcases hb : B.getD 7 (0, 0) with ⟨tb, pb⟩
  simp only [inLayer, layerOf_below hH, itemAt_neg_one _ hh, itemAt_neg_one _ hr,
    itemAt_recorded_last n hne, hlast, hb, pure_bind, htop, hrate]

end Recorded

/-! ## The air at a geopotential altitude -/

/-- The temperature and pressure an outcome of the standard atmosphere reads: the first two
entries of its result, zero for a fault. -/
def readings : Outcome (List ℝ) → ℝ × ℝ
  | .ok (t :: p :: _) => (t, p)
  | _ => (0, 0)

/-- Up to the ceiling the air is the temperature and pressure of the layer evaluation, with a
density and a viscosity, when the temperature is positive. -/
theorem airAt_of_inLayer {bases : List (ℝ × ℝ)} {H T P : ℝ} (hcap : H ≤ ceiling) (hT : 0 < T)
    (h : inLayer bases H = pure (T, P)) : ∃ ρ μ, airAt bases H = pure [T, P, ρ, μ] := by
  have harg : (if (ceiling < H || ceiling == H) = true then ceiling else H) = H := by
    by_cases hc : ceiling = H
    · simp [hc]
    · simp [not_lt.mpr hcap, hc]
  simp only [airAt, harg, h, pure_bind, real_pow_eq hT]
  exact ⟨_, _, rfl⟩

/-! ## The geopotential altitude -/

/-- The exact geopotential altitude of an altitude `z` above sea level. -/
noncomputable def geopotentialOf (z : ℝ) : ℝ := earthRadius * z / (earthRadius + z)

theorem earthRadius_pos : (0 : ℝ) < earthRadius := by norm_num [earthRadius]

theorem geopotential_eq {z : ℝ} (hz : -earthRadius < z) :
    geopotential z = pure (geopotentialOf z) := by
  have hne : earthRadius + z ≠ 0 := by linarith
  simp [geopotential, geopotentialOf, hne]

theorem standardAt_eq (bases : List (ℝ × ℝ)) {z : ℝ} (hz : -earthRadius < z) :
    standardAt bases z = airAt bases (geopotentialOf z) := by
  simp only [standardAt, geopotential_eq hz, pure_bind]

theorem geopotentialOf_continuousOn : ContinuousOn geopotentialOf (Ioi (-earthRadius)) := by
  unfold geopotentialOf
  refine ContinuousOn.div (by fun_prop) (by fun_prop) fun z hz => ?_
  have : -earthRadius < z := hz
  linarith

/-- Above the antipode of the centre the geopotential altitude grows with the altitude. -/
theorem geopotentialOf_strictMonoOn : StrictMonoOn geopotentialOf (Ioi (-earthRadius)) := by
  intro a ha b hb hab
  have hR := earthRadius_pos
  have ha' : 0 < earthRadius + a := by have : -earthRadius < a := ha; linarith
  have hb' : 0 < earthRadius + b := by have : -earthRadius < b := hb; linarith
  unfold geopotentialOf
  rw [div_lt_div_iff₀ ha' hb']
  nlinarith [mul_pos hR hR]

/-! ## The profile layer by layer -/

/-- The top of layer `i`: the next base, or the ceiling above the top layer. -/
noncomputable def top (i : ℕ) : ℝ := if i < 7 then baseHeight (i + 1) else ceiling

/-- The temperature and pressure of layer `i` of the bases `B` at a geopotential altitude. -/
noncomputable def layerValue (B : List (ℝ × ℝ)) (i : ℕ) (H : ℝ) : ℝ × ℝ :=
  ((B.getD i (0, 0)).1 + lapse i * (H - baseHeight i),
    pressureFactor (B.getD i (0, 0)).1 (lapse i) (H - baseHeight i) * (B.getD i (0, 0)).2)

/-- The temperature is positive at the top of every layer. -/
theorem topTemp_pos : ∀ i < 8, 0 < baseTemps.getD i 0 + lapse i * (top i - baseHeight i) := by
  intro i hi
  interval_cases i <;> norm_num [baseTemps, lapse, top, baseHeight, ceiling]

theorem baseHeight_lt_top : ∀ i < 8, baseHeight i < top i := by
  intro i hi
  interval_cases i <;> norm_num [top, baseHeight, ceiling]

theorem baseHeight_zero_le_top : ∀ i < 8, baseHeight 0 ≤ top i := by
  intro i hi
  interval_cases i <;> norm_num [top, baseHeight, ceiling]

theorem top_eq {i : ℕ} (hi : i < 7) : top i = baseHeight (i + 1) := if_pos hi

theorem top_le_ceiling : ∀ i < 8, top i ≤ ceiling := by
  intro i hi
  interval_cases i <;> norm_num [top, baseHeight, ceiling]

section Layers

variable {B : List (ℝ × ℝ)} (hC : Chain B) (hlen : B.length = 8)
include hC hlen

theorem base_temp_pos {i : ℕ} (hi : i < 8) : 0 < (B.getD i (0, 0)).1 := by
  rw [hC.temp_eq (by omega)]
  exact baseTemps_pos i hi

theorem base_pressure_pos {i : ℕ} (hi : i < 8) : 0 < (B.getD i (0, 0)).2 := by
  apply hC.pressure_pos
  rw [List.getD_eq_getElem _ _ (by omega)]
  exact List.getElem_mem _

/-- Within a layer, from its base to its top, the temperature is positive. -/
theorem layer_warm {i : ℕ} (hi : i < 8) {H : ℝ} (hH : H ∈ Icc (baseHeight i) (top i)) :
    H - baseHeight i ∈ warm (B.getD i (0, 0)).1 (lapse i) := by
  have hb := base_temp_pos hC hlen hi
  have ht := topTemp_pos i hi
  rw [← hC.temp_eq (by omega)] at ht
  exact affine_pos_of_ends hb ht (by linarith [hH.1]) (by linarith [hH.2])

theorem withinLayer_layerValue {i : ℕ} (hi : i < 8) {H : ℝ}
    (hH : H ∈ Icc (baseHeight i) (top i)) :
    withinLayer (B.getD i (0, 0)).1 (B.getD i (0, 0)).2 (lapse i) (H - baseHeight i) =
      pure (layerValue B i H) :=
  withinLayer_eq _ (base_temp_pos hC hlen hi) (layer_warm hC hlen hi hH)

/-- The base of the next layer is this layer at its top. -/
theorem layerValue_top {i : ℕ} (hi : i < 7) : layerValue B i (top i) = B.getD (i + 1) (0, 0) := by
  have h := hC.next i (by omega)
  rw [← top_eq hi, withinLayer_layerValue hC hlen (by omega)
    ⟨(baseHeight_lt_top i (by omega)).le, le_rfl⟩] at h
  exact Except.ok.inj h

theorem layerValue_base {i : ℕ} (hi : i < 8) : layerValue B i (baseHeight i) = B.getD i (0, 0) := by
  have hb := base_temp_pos hC hlen hi
  simp only [layerValue, sub_self, mul_zero, add_zero, pressureFactor_zero hb.ne', one_mul]

/-- **The layer evaluation within a layer.**  From the base of layer `i` to its top the
standard atmosphere evaluates layer `i`; at a top below the ceiling it evaluates the next layer
at its base, which is the same. -/
theorem inLayer_recorded (n : ℕ) {i : ℕ} (hi : i < 8) {H : ℝ}
    (hH : H ∈ Icc (baseHeight i) (top i)) :
    inLayer (recorded B n) H = pure (layerValue B i H) := by
  rcases eq_or_lt_of_le hH.2 with htop | hlt
  · by_cases h7 : i < 7
    · have hbase : H = baseHeight (i + 1) := htop.trans (top_eq h7)
      have hnext : H ∈ Icc (baseHeight (i + 1)) (top (i + 1)) :=
        ⟨hbase.ge, hbase.le.trans (baseHeight_lt_top (i + 1) (by omega)).le⟩
      have hsame : layerValue B (i + 1) H = layerValue B i H := by
        rw [hbase, layerValue_base hC hlen (by omega), ← top_eq h7, layerValue_top hC hlen h7]
      rw [inLayer_eq hlen n (by omega) hnext.1
        (fun h => hbase.trans_lt (baseHeight_lt_top (i + 1) (by omega) |>.trans_eq (top_eq h))),
        withinLayer_layerValue hC hlen (by omega) hnext, hsame]
    · rw [inLayer_eq hlen n hi hH.1 (fun h => absurd h h7)]
      exact withinLayer_layerValue hC hlen hi hH
  · rw [inLayer_eq hlen n hi hH.1 (fun h => top_eq h ▸ hlt)]
    exact withinLayer_layerValue hC hlen hi hH

/-- The air within a layer reads the layer's temperature and pressure. -/
theorem readings_airAt (n : ℕ) {i : ℕ} (hi : i < 8) {H : ℝ}
    (hH : H ∈ Icc (baseHeight i) (top i)) :
    readings (airAt (recorded B n) H) = layerValue B i H := by
  obtain ⟨ρ, μ, hair⟩ := airAt_of_inLayer (hH.2.trans (top_le_ceiling i hi))
    (layer_warm hC hlen hi hH) (inLayer_recorded hC hlen n hi hH)
  rw [hair]
  rfl

theorem layerValue_continuousOn {i : ℕ} (hi : i < 8) :
    ContinuousOn (layerValue B i) (Icc (baseHeight i) (top i)) := by
  have hb := base_temp_pos hC hlen hi
  refine ContinuousOn.prodMk (by fun_prop) (ContinuousOn.mul ?_ continuousOn_const)
  exact (continuousOn_pressureFactor hb).comp (by fun_prop) fun _ hH => layer_warm hC hlen hi hH

theorem layerValue_strictAntiOn {i : ℕ} (hi : i < 8) :
    StrictAntiOn (fun H => (layerValue B i H).2) (Icc (baseHeight i) (top i)) := by
  intro a ha b hb hab
  exact mul_lt_mul_of_pos_right
    (strictAntiOn_pressureFactor (base_temp_pos hC hlen hi) (layer_warm hC hlen hi ha)
      (layer_warm hC hlen hi hb) (by linarith)) (base_pressure_pos hC hlen hi)

theorem profile_continuousOn_layer (n : ℕ) {i : ℕ} (hi : i < 8) :
    ContinuousOn (fun H => readings (airAt (recorded B n) H)) (Icc (baseHeight i) (top i)) :=
  (layerValue_continuousOn hC hlen hi).congr fun _ hH => readings_airAt hC hlen n hi hH

theorem profile_strictAntiOn_layer (n : ℕ) {i : ℕ} (hi : i < 8) :
    StrictAntiOn (fun H => (readings (airAt (recorded B n) H)).2)
      (Icc (baseHeight i) (top i)) :=
  (layerValue_strictAntiOn hC hlen hi).congr fun _ hH => by rw [readings_airAt hC hlen n hi hH]

end Layers

/-! ## From the lowest base to the ceiling -/

/-- The span from the lowest base to the top of layer `k + 1` is the span to its base and the
layer. -/
theorem span_succ {k : ℕ} (hk : k < 7) :
    Icc (baseHeight 0) (top (k + 1)) =
      Icc (baseHeight 0) (top k) ∪ Icc (baseHeight (k + 1)) (top (k + 1)) := by
  have hlow : baseHeight 0 ≤ baseHeight (k + 1) := top_eq hk ▸ baseHeight_zero_le_top k (by omega)
  rw [top_eq hk]
  exact (Icc_union_Icc_eq_Icc hlow (baseHeight_lt_top (k + 1) (by omega)).le).symm

theorem top_seven : top 7 = ceiling := if_neg (by omega)

/-- Every geopotential altitude from the lowest base to the ceiling is in some layer. -/
theorem exists_layer {H : ℝ} (hH : H ∈ Icc (baseHeight 0) ceiling) :
    ∃ i < 8, H ∈ Icc (baseHeight i) (top i) := by
  have h : ∀ k < 8, H ∈ Icc (baseHeight 0) (top k) → ∃ i < 8, H ∈ Icc (baseHeight i) (top i) := by
    intro k hk
    induction k with
    | zero => exact fun h => ⟨0, hk, h⟩
    | succ k ih =>
      rw [span_succ (by omega)]
      rintro (h | h)
      · exact ih (by omega) h
      · exact ⟨k + 1, hk, h⟩
  exact h 7 (by omega) (top_seven ▸ hH)

section Span

variable {B : List (ℝ × ℝ)} (hC : Chain B) (hlen : B.length = 8)
include hC hlen

/-- The profile is continuous from the lowest base to the ceiling: layer by layer from the
lowest, each layer closed and meeting the span below it at its base. -/
theorem profile_continuousOn (n : ℕ) :
    ContinuousOn (fun H => readings (airAt (recorded B n) H)) (Icc (baseHeight 0) ceiling) := by
  have h : ∀ k < 8, ContinuousOn (fun H => readings (airAt (recorded B n) H))
      (Icc (baseHeight 0) (top k)) := by
    intro k hk
    induction k with
    | zero => exact profile_continuousOn_layer hC hlen n hk
    | succ k ih =>
      rw [span_succ (by omega)]
      exact (ih (by omega)).union_of_isClosed (profile_continuousOn_layer hC hlen n hk)
        isClosed_Icc isClosed_Icc
  exact top_seven ▸ h 7 (by omega)

/-- The pressure falls strictly from the lowest base to the ceiling: layer by layer from the
lowest, each layer starting where the span below it ends. -/
theorem profile_strictAntiOn (n : ℕ) :
    StrictAntiOn (fun H => (readings (airAt (recorded B n) H)).2)
      (Icc (baseHeight 0) ceiling) := by
  have h : ∀ k < 8, StrictAntiOn (fun H => (readings (airAt (recorded B n) H)).2)
      (Icc (baseHeight 0) (top k)) := by
    intro k hk
    induction k with
    | zero => exact profile_strictAntiOn_layer hC hlen n hk
    | succ k ih =>
      have hjoin : top k = baseHeight (k + 1) := top_eq (by omega)
      have hgreatest : IsGreatest (Icc (baseHeight 0) (top k)) (top k) :=
        isGreatest_Icc (baseHeight_zero_le_top k (by omega))
      have hleast : IsLeast (Icc (baseHeight (k + 1)) (top (k + 1))) (top k) := by
        rw [hjoin]
        exact isLeast_Icc (baseHeight_lt_top (k + 1) hk).le
      rw [span_succ (by omega)]
      exact (ih (by omega)).union (profile_strictAntiOn_layer hC hlen n hk) hgreatest hleast
  exact top_seven ▸ h 7 (by omega)

/-- Below the lowest base the top layer is evaluated: isothermal at its base temperature, the
pressure extrapolated down from its base. -/
theorem inLayer_recorded_below (n : ℕ) {H : ℝ} (hH : H < baseHeight 0) :
    inLayer (recorded B n) H = pure (baseTemps.getD 7 0,
      pressureFactor (baseTemps.getD 7 0) 0 (H - baseHeight 7) * (B.getD 7 (0, 0)).2) := by
  have h7 : (B.getD 7 (0, 0)).1 = baseTemps.getD 7 0 := hC.temp_eq (by omega)
  have hl : lapse 7 = 0 := by simp [lapse]
  have hb := base_temp_pos hC hlen (i := 7) (by omega)
  rw [inLayer_below hlen n hH, withinLayer_eq _ hb (by rw [hl, zero_mul, add_zero]; exact hb),
    hl, zero_mul, add_zero, h7]

end Span

/-! ## Over the altitudes above sea level -/

/-- The altitudes above sea level whose geopotential altitude lies from the lowest base to the
ceiling. -/
def modelled : Set ℝ := {z | -earthRadius < z ∧ geopotentialOf z ∈ Icc (baseHeight 0) ceiling}

/-- What the standard atmosphere with the recorded bases `bases` gives at the altitudes above
sea level, for the bases `B` of one set-up. -/
structure Profile (B bases : List (ℝ × ℝ)) : Prop where
  /-- From the base of layer `i` to its top, the temperature and pressure of layer `i`. -/
  layered : ∀ z, -earthRadius < z → ∀ i < 8, geopotentialOf z ∈ Icc (baseHeight i) (top i) →
    ∃ ρ μ, standardAt bases z = pure [(layerValue B i (geopotentialOf z)).1,
      (layerValue B i (geopotentialOf z)).2, ρ, μ]
  /-- At the base of layer `i`, the base recorded for it. -/
  atBase : ∀ z, -earthRadius < z → ∀ i < 8, geopotentialOf z = baseHeight i →
    ∃ ρ μ, standardAt bases z = pure [(B.getD i (0, 0)).1, (B.getD i (0, 0)).2, ρ, μ]
  /-- Below the lowest base, the top layer: isothermal at its base temperature. -/
  belowLowest : ∀ z, -earthRadius < z → geopotentialOf z < baseHeight 0 →
    ∃ ρ μ, standardAt bases z = pure [baseTemps.getD 7 0,
      pressureFactor (baseTemps.getD 7 0) 0 (geopotentialOf z - baseHeight 7) *
        (B.getD 7 (0, 0)).2, ρ, μ]
  /-- Up to the ceiling, temperature and pressure are positive. -/
  positive : ∀ z, -earthRadius < z → geopotentialOf z ≤ ceiling →
    0 < (readings (standardAt bases z)).1 ∧ 0 < (readings (standardAt bases z)).2
  /-- From the lowest base to the ceiling, temperature and pressure are continuous. -/
  continuous : ContinuousOn (fun z => readings (standardAt bases z)) modelled
  /-- From the lowest base to the ceiling, the pressure falls strictly with altitude. -/
  decreasing : StrictAntiOn (fun z => (readings (standardAt bases z)).2) modelled

section Altitude

variable {B : List (ℝ × ℝ)} (hC : Chain B) (hlen : B.length = 8)
include hC hlen

theorem standardAt_layered (n : ℕ) {z : ℝ} (hz : -earthRadius < z) {i : ℕ} (hi : i < 8)
    (hH : geopotentialOf z ∈ Icc (baseHeight i) (top i)) :
    ∃ ρ μ, standardAt (recorded B n) z = pure [(layerValue B i (geopotentialOf z)).1,
      (layerValue B i (geopotentialOf z)).2, ρ, μ] := by
  rw [standardAt_eq _ hz]
  exact airAt_of_inLayer (hH.2.trans (top_le_ceiling i hi)) (layer_warm hC hlen hi hH)
    (inLayer_recorded hC hlen n hi hH)

theorem standardAt_below (n : ℕ) {z : ℝ} (hz : -earthRadius < z)
    (hH : geopotentialOf z < baseHeight 0) :
    ∃ ρ μ, standardAt (recorded B n) z = pure [baseTemps.getD 7 0,
      pressureFactor (baseTemps.getD 7 0) 0 (geopotentialOf z - baseHeight 7) *
        (B.getD 7 (0, 0)).2, ρ, μ] := by
  have hcap : geopotentialOf z ≤ ceiling :=
    (hH.trans_le (baseHeight_zero_le_top 7 (by omega))).le.trans (top_le_ceiling 7 (by omega))
  rw [standardAt_eq _ hz]
  exact airAt_of_inLayer hcap (baseTemps_pos 7 (by omega)) (inLayer_recorded_below hC hlen n hH)

theorem standardAt_positive (n : ℕ) {z : ℝ} (hz : -earthRadius < z)
    (hcap : geopotentialOf z ≤ ceiling) :
    0 < (readings (standardAt (recorded B n) z)).1 ∧
      0 < (readings (standardAt (recorded B n) z)).2 := by
  rcases lt_or_ge (geopotentialOf z) (baseHeight 0) with hlow | hlow
  · obtain ⟨ρ, μ, h⟩ := standardAt_below hC hlen n hz hlow
    have hb := baseTemps_pos 7 (by omega)
    rw [h]
    exact ⟨hb, mul_pos (pressureFactor_pos hb (by simpa using hb))
      (base_pressure_pos hC hlen (by omega))⟩
  · obtain ⟨i, hi, hH⟩ := exists_layer ⟨hlow, hcap⟩
    obtain ⟨ρ, μ, h⟩ := standardAt_layered hC hlen n hz hi hH
    have hb := base_temp_pos hC hlen hi
    have hwarm := layer_warm hC hlen hi hH
    rw [h]
    exact ⟨hwarm, mul_pos (pressureFactor_pos hb hwarm) (base_pressure_pos hC hlen hi)⟩

theorem standardAt_continuousOn (n : ℕ) :
    ContinuousOn (fun z => readings (standardAt (recorded B n) z)) modelled := by
  have h := (profile_continuousOn hC hlen n).comp
    (geopotentialOf_continuousOn.mono fun (_ : ℝ) (hz : _ ∈ modelled) => hz.1)
    fun (_ : ℝ) (hz : _ ∈ modelled) => hz.2
  exact h.congr fun z hz => by simp only [Function.comp_apply, standardAt_eq _ hz.1]

theorem standardAt_strictAntiOn (n : ℕ) :
    StrictAntiOn (fun z => (readings (standardAt (recorded B n) z)).2) modelled := by
  have h := (profile_strictAntiOn hC hlen n).comp_strictMonoOn
    (geopotentialOf_strictMonoOn.mono fun (_ : ℝ) (hz : _ ∈ modelled) => hz.1)
    fun (_ : ℝ) (hz : _ ∈ modelled) => hz.2
  exact h.congr fun z hz => by simp only [Function.comp_apply, standardAt_eq _ hz.1]

theorem profile_recorded (n : ℕ) : Profile B (recorded B n) where
  layered _ hz _ hi hH := standardAt_layered hC hlen n hz hi hH
  atBase z hz i hi hH := by
    have hmem : geopotentialOf z ∈ Icc (baseHeight i) (top i) := by
      rw [hH]
      exact ⟨le_rfl, (baseHeight_lt_top i hi).le⟩
    obtain ⟨ρ, μ, h⟩ := standardAt_layered hC hlen n hz hi hmem
    rw [hH, layerValue_base hC hlen hi] at h
    exact ⟨ρ, μ, h⟩
  belowLowest _ hz hH := standardAt_below hC hlen n hz hH
  positive _ hz hcap := standardAt_positive hC hlen n hz hcap
  continuous := standardAt_continuousOn hC hlen n
  decreasing := standardAt_strictAntiOn hC hlen n

end Altitude

/-- **The standard atmosphere.**  A set-up succeeds, with bases at the documented
temperatures; and after any number `n + 1` of set-ups have recorded their bases, the standard
atmosphere evaluates the layer of every altitude (the top layer below the lowest base), gives
the recorded base at each base, and from the lowest base to the ceiling is continuous,
positive, and strictly falling in pressure. -/
theorem standardAt_profile (n : ℕ) :
    ∃ B : List (ℝ × ℝ), layerBases = pure B ∧ B.map Prod.fst = baseTemps ∧
      Profile B (recorded B n) := by
  obtain ⟨B, hB, hlen, hC⟩ := layerBases_chain
  have htemps : B.map Prod.fst = baseTemps := by
    rw [hC.temps, hlen]
    rfl
  exact ⟨B, hB, htemps, profile_recorded hC hlen n⟩


end Atmosphere
end RocketSim
