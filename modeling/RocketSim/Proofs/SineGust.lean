import Mathlib
import RocketSim.Environment.Turbulence
import RocketSim.Proofs.RotationAngles

/-!
# The sine gust in exact arithmetic

A sine gust starts at the altitude `s`, rises over the blending distance `B` along half a
cosine to the magnitude `M`, holds it over the thickness `T`, and falls back over `B` along
half a cosine to nothing at `s + 2B + T`, all along its direction `u`.  The code assembles this
from four half-open branches and two cosine arcs with opposite phases; here the speed is
declared as one formula, `M · rise(⌊(h - s)/B⌉) · rise(⌊(s + 2B + T - h)/B⌉)` with `rise` half a
cosine from `0` to `1` and `⌊·⌉` held to `[0, 1]` (`gustSpeed`), which is continuous and
monotone on each blend by construction.

* `gustWith_exact`: over the reals the code computes `u` scaled by `gustSpeed`, branch by
  branch.
* `sineGust_continuousBump`: the velocity is continuous, zero outside the gust, `M·u` on the
  plateau, of magnitude in `[0, M]`, rising over the lower blend and falling over the upper.
-/

open Real Set

namespace RocketSim
namespace TurbulenceModel

/-- Exact arithmetic for the sine gust: velocities are real vectors, and a division by zero is
a fault, as in the simulator. -/
noncomputable def exactGustOps : GustOps Outcome ℝ (Vec3 ℝ) where
  gt a b := pure (decide (b < a))
  lt a b := pure (decide (a < b))
  add a b := pure (a + b)
  sub a b := pure (a - b)
  mul a b := pure (a * b)
  div a b := if b = 0 then throw Fault.zeroDivision else pure (a / b)
  cos x := pure (cos x)
  int n := n
  one := 1
  pi := π
  scale v t := pure (v.scale t)
  zero := ⟨0, 0, 0⟩

/-! ## Half a cosine -/

/-- Half a cosine, rising from `0` at `0` to `1` at `1`. -/
noncomputable def rise (x : ℝ) : ℝ := (1 - cos (π * x)) / (2 : ℕ)

/-- A number held to `[0, 1]`. -/
noncomputable def unitClamp (x : ℝ) : ℝ := max 0 (min x 1)

theorem rise_eq (x : ℝ) : rise x = (1 - cos (π * x)) / 2 := by
  rw [rise, Nat.cast_ofNat]

@[simp] theorem rise_zero : rise 0 = 0 := by simp [rise_eq]

@[simp] theorem rise_one : rise 1 = 1 := by norm_num [rise_eq]

theorem rise_mem (x : ℝ) : rise x ∈ Icc 0 1 := by
  have h1 := neg_one_le_cos (π * x)
  have h2 := cos_le_one (π * x)
  constructor <;> simp only [rise_eq] <;> linarith

theorem rise_monotoneOn : MonotoneOn rise (Icc 0 1) := by
  intro a ha b hb hab
  have hcos : cos (π * b) ≤ cos (π * a) :=
    cos_le_cos_of_nonneg_of_le_pi (mul_nonneg pi_pos.le ha.1)
      (mul_le_of_le_one_right pi_pos.le hb.2) (mul_le_mul_of_nonneg_left hab pi_pos.le)
  simp only [rise_eq]
  linarith

theorem unitClamp_of_nonpos {x : ℝ} (hx : x ≤ 0) : unitClamp x = 0 := by
  simp only [unitClamp]
  exact max_eq_left ((min_le_left x 1).trans hx)

theorem unitClamp_of_one_le {x : ℝ} (hx : 1 ≤ x) : unitClamp x = 1 := by
  simp [unitClamp, min_eq_right hx]

theorem unitClamp_of_mem {x : ℝ} (hx : x ∈ Icc 0 1) : unitClamp x = x := by
  rw [unitClamp, min_eq_left hx.2, max_eq_right hx.1]

theorem continuous_unitClamp : Continuous unitClamp := by
  unfold unitClamp; fun_prop

theorem continuous_rise : Continuous rise := by
  unfold rise; fun_prop

/-! ## The gust speed -/

/-- The speed of a gust from `s`, blending over `B` into a plateau of thickness `T` at the speed
`M`: half a cosine up from the start and half a cosine down to the end `s + B + T + B`, where
the code puts it. -/
noncomputable def gustSpeed (s B T M h : ℝ) : ℝ :=
  M * rise (unitClamp ((h - s) / B)) * rise (unitClamp ((s + B + T + B - h) / B))

theorem gustSpeed_eq (s B T M h : ℝ) : gustSpeed s B T M h =
    M * rise (unitClamp ((h - s) / B)) * rise (unitClamp ((s + 2 * B + T - h) / B)) := by
  rw [gustSpeed, show s + B + T + B = s + 2 * B + T by ring]

section Speed

variable {s B T M h : ℝ}

theorem gustSpeed_of_le_start (hB : 0 < B) (hh : h ≤ s) : gustSpeed s B T M h = 0 := by
  rw [gustSpeed_eq, unitClamp_of_nonpos (div_nonpos_of_nonpos_of_nonneg (by linarith) hB.le)]
  simp

theorem gustSpeed_of_end_le (hB : 0 < B) (hh : s + 2 * B + T ≤ h) : gustSpeed s B T M h = 0 := by
  have hend : (s + 2 * B + T - h) / B ≤ 0 := div_nonpos_of_nonpos_of_nonneg (by linarith) hB.le
  rw [gustSpeed_eq, unitClamp_of_nonpos hend]
  simp

/-- Over the lower blend the speed rises along half a cosine. -/
theorem gustSpeed_lower (hB : 0 < B) (hT : 0 ≤ T) (h₀ : s ≤ h) (h₁ : h ≤ s + B) :
    gustSpeed s B T M h = M * rise ((h - s) / B) := by
  have hmem : (h - s) / B ∈ Icc 0 1 :=
    ⟨div_nonneg (by linarith) hB.le, (div_le_one hB).2 (by linarith)⟩
  have hupper : 1 ≤ (s + 2 * B + T - h) / B := (one_le_div hB).2 (by linarith)
  rw [gustSpeed_eq, unitClamp_of_mem hmem, unitClamp_of_one_le hupper, rise_one, mul_one]

/-- Over the upper blend the speed falls along the mirror image of the lower blend. -/
theorem gustSpeed_upper (hB : 0 < B) (hT : 0 ≤ T) (h₀ : s + B + T ≤ h)
    (h₁ : h ≤ s + 2 * B + T) : gustSpeed s B T M h = M * rise ((s + 2 * B + T - h) / B) := by
  have hmem : (s + 2 * B + T - h) / B ∈ Icc 0 1 :=
    ⟨div_nonneg (by linarith) hB.le, (div_le_one hB).2 (by linarith)⟩
  have hlower : 1 ≤ (h - s) / B := (one_le_div hB).2 (by linarith)
  rw [gustSpeed_eq, unitClamp_of_mem hmem, unitClamp_of_one_le hlower, rise_one, mul_one]

theorem gustSpeed_plateau (hB : 0 < B) (h₀ : s + B ≤ h) (h₁ : h ≤ s + B + T) :
    gustSpeed s B T M h = M := by
  have hlower : 1 ≤ (h - s) / B := (one_le_div hB).2 (by linarith)
  have hupper : 1 ≤ (s + 2 * B + T - h) / B := (one_le_div hB).2 (by linarith)
  rw [gustSpeed_eq, unitClamp_of_one_le hlower, unitClamp_of_one_le hupper]
  simp

theorem gustSpeed_mem (hM : 0 ≤ M) : gustSpeed s B T M h ∈ Icc 0 M := by
  obtain ⟨h0, h1⟩ := rise_mem (unitClamp ((h - s) / B))
  obtain ⟨h0', h1'⟩ := rise_mem (unitClamp ((s + 2 * B + T - h) / B))
  rw [gustSpeed_eq, mul_assoc]
  exact ⟨mul_nonneg hM (mul_nonneg h0 h0'), mul_le_of_le_one_right hM (mul_le_one₀ h1 h0' h1')⟩

theorem continuous_gustSpeed : Continuous (gustSpeed s B T M) := by
  have hc := continuous_rise.comp continuous_unitClamp
  unfold gustSpeed
  exact (continuous_const.mul (hc.comp (by fun_prop))).mul (hc.comp (by fun_prop))

/-- The speed grows over the lower blend: half a cosine composed with an increasing map. -/
theorem gustSpeed_monotoneOn (hB : 0 < B) (hT : 0 ≤ T) (hM : 0 ≤ M) :
    MonotoneOn (gustSpeed s B T M) (Icc s (s + B)) := by
  intro a ha b hb hab
  rw [gustSpeed_lower hB hT ha.1 ha.2, gustSpeed_lower hB hT hb.1 hb.2]
  have hmem (x : ℝ) (hx : x ∈ Icc s (s + B)) : (x - s) / B ∈ Icc 0 1 :=
    ⟨div_nonneg (by linarith [hx.1]) hB.le, (div_le_one hB).2 (by linarith [hx.2])⟩
  exact mul_le_mul_of_nonneg_left (rise_monotoneOn (hmem a ha) (hmem b hb)
    (div_le_div_of_nonneg_right (by linarith) hB.le)) hM

/-- The speed shrinks over the upper blend: half a cosine composed with a decreasing map. -/
theorem gustSpeed_antitoneOn (hB : 0 < B) (hT : 0 ≤ T) (hM : 0 ≤ M) :
    AntitoneOn (gustSpeed s B T M) (Icc (s + B + T) (s + 2 * B + T)) := by
  intro a ha b hb hab
  rw [gustSpeed_upper hB hT ha.1 ha.2, gustSpeed_upper hB hT hb.1 hb.2]
  have hmem (x : ℝ) (hx : x ∈ Icc (s + B + T) (s + 2 * B + T)) :
      (s + 2 * B + T - x) / B ∈ Icc 0 1 :=
    ⟨div_nonneg (by linarith [hx.2]) hB.le, (div_le_one hB).2 (by linarith [hx.1])⟩
  exact mul_le_mul_of_nonneg_left (rise_monotoneOn (hmem b hb) (hmem a ha)
    (div_le_div_of_nonneg_right (by linarith) hB.le)) hM

end Speed

/-! ## The code over the reals -/

theorem gustBoundsWith_exact (s B T : ℝ) :
    gustBoundsWith exactGustOps s B T = pure [s, s + B, s + B + T, s + B + T + B] := rfl

/-- Over the reals the gust's velocity is its direction scaled by `gustSpeed`: the code's four
branches and its two cosine arcs give the declared speed on each piece. -/
theorem gustWith_exact {s B T M : ℝ} (u : Vec3 ℝ) (hB : 0 < B) (hT : 0 ≤ T) (h : ℝ) :
    gustWith exactGustOps s B M u [s, s + B, s + B + T, s + B + T + B] h =
      pure (u.scale (gustSpeed s B T M h)) := by
  have hB0 : B ≠ 0 := hB.ne'
  have two : ((2 : ℤ) : ℝ) ≠ 0 := by norm_num
  rcases le_or_gt h s with hs | hs
  · rw [gustSpeed_of_le_start hB hs, Vec3.scale_zero]
    simp [gustWith, exactGustOps, not_lt.2 hs]
  rcases lt_or_ge h (s + B) with h₁ | h₁
  · -- the lower blend: the arc `1 - cos(π (h - s) / B)`
    rw [gustSpeed_lower hB hT hs.le h₁.le]
    simp only [gustWith, exactGustOps, hs, h₁, two, hB0, decide_true, Bool.not_true,
      Bool.false_eq_true, if_false, if_true, pure_bind, List.getD_cons_succ, List.getD_cons_zero]
    congr 2
    rw [rise_eq, mul_div_assoc]
    ring
  rcases lt_or_ge h (s + B + T) with h₂ | h₂
  · rw [gustSpeed_plateau hB h₁ h₂.le]
    simp [gustWith, exactGustOps, hs, not_lt.2 h₁, h₂]
  rcases lt_or_ge h (s + B + T + B) with h₃ | h₃
  · -- the upper blend: the arc of the lower one, run backwards from the end
    rw [gustSpeed_upper hB hT h₂ (by linarith)]
    simp only [gustWith, exactGustOps, hs, not_lt.2 h₁, not_lt.2 h₂, h₃, two, hB0,
      decide_true, decide_false, Bool.not_true, Bool.false_eq_true, if_false, if_true, pure_bind,
      List.getD_cons_succ, List.getD_cons_zero]
    have harg : π * (h - s - (s + B + T + B - s)) / B = -(π * ((s + 2 * B + T - h) / B)) := by
      field_simp
      ring
    rw [harg, cos_neg, rise_eq]
    congr 2
    ring
  · rw [gustSpeed_of_end_le hB (by linarith), Vec3.scale_zero]
    simp [gustWith, exactGustOps, hs, not_lt.2 h₁, not_lt.2 h₂, not_lt.2 h₃]

/-- **A custom sine gust is a continuous, bounded bump.**  With a positive blending distance, a
nonnegative thickness and magnitude `M` and a unit direction `u`, the gust made at `s` answers at
every altitude `u` scaled by `gustSpeed`; the velocity is continuous in the altitude, zero up to
the start and from the end `s + 2B + T` on, `M·u` over the plateau, of magnitude in `[0, M]`,
rising over the lower blend and falling over the upper one. -/
theorem sineGust_continuousBump {s B T M : ℝ} {u : Vec3 ℝ} (hB : 0 < B) (hT : 0 ≤ T)
    (hM : 0 ≤ M) (hu : u.length = 1) :
    (∀ h, (gustBoundsWith exactGustOps s B T >>= fun bounds =>
        gustWith exactGustOps s B M u bounds h) = pure (u.scale (gustSpeed s B T M h))) ∧
    Continuous (fun h => ((u.scale (gustSpeed s B T M h)).x,
      (u.scale (gustSpeed s B T M h)).y, (u.scale (gustSpeed s B T M h)).z)) ∧
    (∀ h, h ≤ s ∨ s + 2 * B + T ≤ h → u.scale (gustSpeed s B T M h) = ⟨0, 0, 0⟩) ∧
    (∀ h ∈ Icc (s + B) (s + B + T), u.scale (gustSpeed s B T M h) = u.scale M) ∧
    (∀ h, (u.scale (gustSpeed s B T M h)).length = gustSpeed s B T M h ∧
      gustSpeed s B T M h ∈ Icc 0 M) ∧
    MonotoneOn (gustSpeed s B T M) (Icc s (s + B)) ∧
    AntitoneOn (gustSpeed s B T M) (Icc (s + B + T) (s + 2 * B + T)) := by
  refine ⟨fun h => ?_, ?_, fun h hout => ?_, fun h hh => ?_, fun h => ?_,
    gustSpeed_monotoneOn hB hT hM, gustSpeed_antitoneOn hB hT hM⟩
  · rw [gustBoundsWith_exact, pure_bind, gustWith_exact u hB hT]
  · have hg := continuous_gustSpeed (s := s) (B := B) (T := T) (M := M)
    simp only [Vec3.scale]
    fun_prop
  · rcases hout with hs | he
    · rw [gustSpeed_of_le_start hB hs, Vec3.scale_zero]
    · rw [gustSpeed_of_end_le hB he, Vec3.scale_zero]
  · rw [gustSpeed_plateau hB hh.1 hh.2]
  · have hmem := gustSpeed_mem (s := s) (B := B) (T := T) (h := h) hM
    refine ⟨?_, hmem⟩
    rw [Vec3.length_scale, hu, one_mul, abs_of_nonneg hmem.1]

/-- A gust from `100 m` blending over `10 m` into a `5 m` plateau of `3 m/s` along `x`. -/
theorem sineGust_continuousBump_alongX :
    ((0 : ℝ) < 10 ∧ (0 : ℝ) ≤ 5 ∧ (0 : ℝ) ≤ 3 ∧ Vec3.length (⟨1, 0, 0⟩ : Vec3 ℝ) = 1) ∧
      ∀ h ∈ Icc (110 : ℝ) 115,
        Vec3.scale (⟨1, 0, 0⟩ : Vec3 ℝ) (gustSpeed 100 10 5 3 h) = Vec3.scale ⟨1, 0, 0⟩ 3 :=
  have hu : Vec3.length (⟨1, 0, 0⟩ : Vec3 ℝ) = 1 := by simp [Vec3.length]
  have hB : (0 : ℝ) < 10 := by norm_num
  have hT : (0 : ℝ) ≤ 5 := by norm_num
  have hM : (0 : ℝ) ≤ 3 := by norm_num
  ⟨⟨hB, hT, hM, hu⟩, fun h hh => by
    have hplateau := (sineGust_continuousBump (s := 100) hB hT hM hu).2.2.2.1 h
    norm_num at hplateau
    exact hplateau hh.1 hh.2⟩

end TurbulenceModel
end RocketSim
