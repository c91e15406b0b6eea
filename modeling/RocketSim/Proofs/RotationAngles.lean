import Mathlib
import RocketSim.Proofs.QuaternionRotations

/-!
# Rotation angles, rotation vectors and interpolation

A unit quaternion `q = (q₀, v)` is the rotation by `θ = 2·atan2(|v|, q₀)` about `v / |v|`.
`rotationAngle`, `rotationAxis` and `toRotationVector` read that angle and axis off the
quaternion as it is given, computing `|v|` as `√(1 - q₀²)`.  Over the reals `atan2(|v|, q₀)` is
the argument of `q₀ + |v|·i` (`halfAngle`), a point of the unit circle in the closed upper half
plane: its cosine is `q₀` and its sine `|v|`, and no other angle of `[0, π]` has that cosine
(`halfAngle_eq_of_cos`).

So the angle lies in `[0, 2π]` and is not a function of the rotation alone: `q` and `-q`
rotate alike, but their half angles are `h` and `π - h` (`halfAngle_neg`), one turn taken the
two ways round the axis.

**Results.**
* `rotationVector_signDependent`: the rotation vectors of `q` and `-q` differ by `2π` times
  the axis; the one of `q` is no longer than `π` exactly when `q₀ ≥ 0`; the identity has the
  zero vector and its negation none (a division by zero); and dividing by `-q` negates the
  quotient by `q`.
* `slerp_shorterArc`: slerp turns by its fraction of the shorter of the two angles between its
  ends; it starts at the first end, and reaches the second when their dot product is not
  negative.  When it is negative, it ends at the inverse of the shorter rotation: the angle is
  shortened but the axis is not reversed.
-/

open Real Quaternion

namespace RocketSim

/-! ## Lengths of real vectors -/

namespace Vec3

theorem length_pos_iff (v : Vec3 ℝ) : 0 < v.length ↔ v ≠ ⟨0, 0, 0⟩ := by
  obtain ⟨x, y, z⟩ := v
  rw [length, real_sqrt, Real.sqrt_pos]
  constructor
  · rintro hpos h
    simp only [mk.injEq] at h
    obtain ⟨rfl, rfl, rfl⟩ := h
    simp at hpos
  · intro h
    by_contra hle
    -- a sum of squares that is not positive has every square zero
    have hx : x * x = 0 := by linarith [mul_self_nonneg x, mul_self_nonneg y, mul_self_nonneg z]
    have hy : y * y = 0 := by linarith [mul_self_nonneg x, mul_self_nonneg y, mul_self_nonneg z]
    have hz : z * z = 0 := by linarith [mul_self_nonneg x, mul_self_nonneg y, mul_self_nonneg z]
    exact h (by rw [mul_self_eq_zero.1 hx, mul_self_eq_zero.1 hy, mul_self_eq_zero.1 hz])

theorem self_dot_nonneg (v : Vec3 ℝ) : 0 ≤ v.x * v.x + v.y * v.y + v.z * v.z :=
  add_nonneg (add_nonneg (mul_self_nonneg _) (mul_self_nonneg _)) (mul_self_nonneg _)

theorem length_neg (v : Vec3 ℝ) : v.neg.length = v.length := by
  simp [length, neg]

/-- Scaling multiplies the length by the absolute value of the factor. -/
theorem length_scale (v : Vec3 ℝ) (t : ℝ) : (v.scale t).length = v.length * |t| := by
  simp only [length, scale, real_sqrt]
  rw [← Real.sqrt_sq_eq_abs, ← Real.sqrt_mul (self_dot_nonneg v)]
  congr 1
  ring

@[simp] theorem scale_zero (v : Vec3 ℝ) : v.scale 0 = ⟨0, 0, 0⟩ := by
  simp [scale]

@[simp] theorem zero_scale (t : ℝ) : (⟨0, 0, 0⟩ : Vec3 ℝ).scale t = ⟨0, 0, 0⟩ := by
  simp [scale]

/-- Normalizing a vector other than zero divides it by its length. -/
theorem normalize_of_length_pos {v : Vec3 ℝ} (h : 0 < v.length) :
    v.normalize = v.scale v.length⁻¹ := by
  simp [normalize, h, scale, div_eq_mul_inv]

theorem length_normalize {v : Vec3 ℝ} (h : 0 < v.length) : v.normalize.length = 1 := by
  rw [normalize_of_length_pos h, length_scale, abs_inv, abs_of_pos h, mul_inv_cancel₀ h.ne']

/-- A vector of length one is its own normalization. -/
theorem normalize_of_length_eq_one {v : Vec3 ℝ} (h : v.length = 1) : v.normalize = v := by
  rw [normalize_of_length_pos (by rw [h]; exact one_pos), h, inv_one]
  simp [scale]

theorem normalize_neg (v : Vec3 ℝ) : v.neg.normalize = v.normalize.neg := by
  by_cases h : 0 < v.length
  · rw [normalize_of_length_pos h, normalize_of_length_pos (by rwa [length_neg]), length_neg]
    simp [scale, neg, neg_mul]
  · have h' : ¬0 < v.neg.length := by rwa [length_neg]
    simp only [normalize, real_zero_point, gt_iff_lt, h, h', if_false]
    simp [neg]

end Vec3

namespace Quat

/-! ## Unit quaternions -/

/-- The vector part. -/
def im (q : Quat ℝ) : Vec3 ℝ := ⟨q.q1, q.q2, q.q3⟩

@[simp] theorem toH_neg (q : Quat ℝ) : q.neg.toH = -q.toH := by
  ext <;> simp [neg]

theorem norm_neg (q : Quat ℝ) : q.neg.norm = q.norm := by
  rw [norm_eq, norm_eq, toH_neg, normSq_neg]

theorem im_neg (q : Quat ℝ) : q.neg.im = q.im.neg := rfl

theorem hamiltonProduct_neg_left (a b : Quat ℝ) : a.neg.mul b = (a.mul b).neg := by
  apply toH_injective
  simp

theorem hamiltonProduct_neg_right (a b : Quat ℝ) : a.mul b.neg = (a.mul b).neg := by
  apply toH_injective
  simp

/-- Dividing by the negation negates the quotient. -/
theorem inverse_neg (q : Quat ℝ) : q.neg.inverse = neg <$> q.inverse := by
  have hconj : q.neg.conj = q.conj.neg := rfl
  simp only [inverse, divScalar, norm_neg, hconj]
  split
  · rfl
  · simp only [scale, neg, Functor.map, Except.map, pure, Except.pure, neg_mul]

section Unit

variable {q : Quat ℝ}

theorem normSq_of_norm_eq_one (hq : q.norm = 1) : normSq q.toH = 1 := by
  rwa [norm_eq, Real.sqrt_eq_one] at hq

/-- On a unit quaternion, `1 - q₀²` is the squared length of the vector part. -/
theorem one_sub_sq_eq (hq : q.norm = 1) :
    1 - q.q0 ^ 2 = q.q1 * q.q1 + q.q2 * q.q2 + q.q3 * q.q3 := by
  have h := normSq_of_norm_eq_one hq
  rw [normSq_def'] at h
  simp only [re_toH, imI_toH, imJ_toH, imK_toH] at h
  linear_combination -h

theorem one_sub_sq_nonneg (hq : q.norm = 1) : 0 ≤ 1 - q.q0 ^ 2 := by
  rw [one_sub_sq_eq hq]
  exact Vec3.self_dot_nonneg q.im

/-- The length of the vector part, as the rotation code computes it. -/
theorem sqrt_one_sub_sq (hq : q.norm = 1) : √(1 - q.q0 ^ 2) = q.im.length := by
  rw [one_sub_sq_eq hq]
  rfl

theorem normalize_of_norm_eq_one (hq : q.norm = 1) : q.normalize = pure q := by
  simp [normalize, hq]

end Unit

/-! ## Half angles -/

/-- Half the rotation angle, `atan2(√(1 - q₀²), q₀)`. -/
noncomputable def halfAngle (q : Quat ℝ) : ℝ := Complex.arg ⟨q.q0, √(1 - q.q0 ^ 2)⟩

theorem halfAngle_nonneg (q : Quat ℝ) : 0 ≤ q.halfAngle :=
  Complex.arg_nonneg_iff.2 (Real.sqrt_nonneg _)

theorem halfAngle_le_pi (q : Quat ℝ) : q.halfAngle ≤ π :=
  Complex.arg_le_pi _

/-- The rotation is by at most a half turn exactly when the scalar part is not negative. -/
theorem halfAngle_le_pi_div_two_iff (q : Quat ℝ) : q.halfAngle ≤ π / 2 ↔ 0 ≤ q.q0 := by
  rw [halfAngle, Complex.arg_le_pi_div_two_iff]
  simp [(Real.sqrt_nonneg _).not_gt]

section Unit

variable {q : Quat ℝ}

theorem norm_halfAnglePoint (hq : q.norm = 1) :
    ‖(⟨q.q0, √(1 - q.q0 ^ 2)⟩ : ℂ)‖ = 1 := by
  rw [Complex.norm_def, Complex.normSq_mk, Real.mul_self_sqrt (one_sub_sq_nonneg hq)]
  simp [← pow_two]

theorem cos_halfAngle (hq : q.norm = 1) : cos q.halfAngle = q.q0 := by
  have hz := norm_halfAnglePoint hq
  rw [halfAngle, Complex.cos_arg (norm_ne_zero_iff.1 (by rw [hz]; exact one_ne_zero)), hz,
    div_one]

theorem sin_halfAngle (hq : q.norm = 1) : sin q.halfAngle = q.im.length := by
  rw [halfAngle, Complex.sin_arg, norm_halfAnglePoint hq, div_one, sqrt_one_sub_sq hq]

/-- The half angle of a unit quaternion is the angle of `[0, π]` whose cosine is the scalar
part. -/
theorem halfAngle_eq_of_cos (hq : q.norm = 1) {t : ℝ} (ht₀ : 0 ≤ t) (ht : t ≤ π)
    (hc : cos t = q.q0) : q.halfAngle = t :=
  injOn_cos ⟨q.halfAngle_nonneg, q.halfAngle_le_pi⟩ ⟨ht₀, ht⟩ (by rw [cos_halfAngle hq, hc])

/-- Negating a unit quaternion turns the other way round: the half angle `h` becomes
`π - h`. -/
theorem halfAngle_neg (hq : q.norm = 1) : q.neg.halfAngle = π - q.halfAngle :=
  halfAngle_eq_of_cos (by rw [norm_neg, hq]) (by linarith [q.halfAngle_le_pi])
    (by linarith [q.halfAngle_nonneg]) (by rw [cos_pi_sub, cos_halfAngle hq]; rfl)

theorem halfAngle_pos (hq : q.norm = 1) (hv : 0 < q.im.length) : 0 < q.halfAngle := by
  refine q.halfAngle_nonneg.lt_of_ne fun h0 => ?_
  have h := sin_halfAngle hq
  rw [← h0, sin_zero] at h
  linarith

theorem rotationAngle_of_norm_eq_one (hq : q.norm = 1) :
    q.rotationAngle = pure (2 * q.halfAngle, q) := by
  simp only [rotationAngle, normalize_of_norm_eq_one hq, pure_bind, real_sqrt, real_atan2, sq,
    real_sq, real_one_point, real_two_point]
  rfl

theorem rotationAxis_of_length_pos (hq : q.norm = 1) (hv : 0 < q.im.length) :
    q.rotationAxis = pure (q.im.normalize, q) := by
  have hangle : 0 < |2 * q.halfAngle| := abs_pos.2 (mul_pos two_pos (halfAngle_pos hq hv)).ne'
  have hn : √(q.norm - q.q0 ^ 2) = q.im.length := by rw [hq, sqrt_one_sub_sq hq]
  simp only [rotationAxis, rotationAngle_of_norm_eq_one hq, pure_bind, real_abs, real_sqrt, sq,
    real_sq, real_zero_point, gt_iff_lt, hangle, if_true, hn, beq_iff_eq, hv.ne', if_false,
    Vec3.normalize_of_length_pos hv]
  simp [Vec3.scale, im, div_eq_mul_inv]

/-! ## Rotation vectors -/

/-- What the rotation vector of a unit quaternion is computed from: the angle `2h`, and the
vector part with its length. -/
theorem toRotationVector_of_norm_eq_one (hq : q.norm = 1) :
    q.toRotationVector =
      if 2 * q.halfAngle = 0 then pure (⟨0, 0, 0⟩, q)
      else if q.im.length = 0 then throw Fault.zeroDivision
      else pure (⟨q.q1 * (2 * q.halfAngle) / q.im.length, q.q2 * (2 * q.halfAngle) / q.im.length,
        q.q3 * (2 * q.halfAngle) / q.im.length⟩, q) := by
  have hθ : Complex.arg ⟨q.q0, √(1 - q.q0 ^ 2)⟩ = q.halfAngle := rfl
  simp only [toRotationVector, normalize_of_norm_eq_one hq, pure_bind, real_sqrt, real_atan2,
    sq, real_sq, real_one_point, real_two_point, real_zero_point, beq_iff_eq, hθ]
  rw [sqrt_one_sub_sq hq]

/-- The rotation vector of a unit quaternion that rotates is its angle, in `(0, 2π)`, times
its axis. -/
theorem toRotationVector_of_length_pos (hq : q.norm = 1) (hv : 0 < q.im.length) :
    q.toRotationVector = pure (q.im.normalize.scale (2 * q.halfAngle), q) := by
  rw [toRotationVector_of_norm_eq_one hq, if_neg (mul_pos two_pos (halfAngle_pos hq hv)).ne',
    if_neg hv.ne', Vec3.normalize_of_length_pos hv]
  simp only [Vec3.scale, im]
  congr 3 <;> ring

/-- A unit quaternion with no vector part has the scalar part `±1`. -/
theorem sq_q0_of_im_eq_zero (hq : q.norm = 1) (hv : q.im = ⟨0, 0, 0⟩) : q.q0 ^ 2 = 1 := by
  have h := one_sub_sq_eq hq
  simp only [im, Vec3.mk.injEq] at hv
  rw [hv.1, hv.2.1, hv.2.2] at h
  linarith

/-- A unit quaternion with no vector part and a positive scalar part is the identity. -/
theorem halfAngle_of_im_eq_zero_of_pos (hq : q.norm = 1) (hv : q.im = ⟨0, 0, 0⟩)
    (h0 : 0 < q.q0) : q.halfAngle = 0 := by
  have h1 : q.q0 = 1 := by nlinarith [sq_q0_of_im_eq_zero hq hv]
  exact halfAngle_eq_of_cos hq le_rfl pi_pos.le (by rw [cos_zero, h1])

theorem toRotationVector_of_im_eq_zero_of_pos (hq : q.norm = 1) (hv : q.im = ⟨0, 0, 0⟩)
    (h0 : 0 < q.q0) : q.toRotationVector = pure (⟨0, 0, 0⟩, q) := by
  rw [toRotationVector_of_norm_eq_one hq, halfAngle_of_im_eq_zero_of_pos hq hv h0, mul_zero,
    if_pos rfl]

/-- The negated identity has no rotation vector: its angle is `2π` and the axis would be
divided by a zero length. -/
theorem toRotationVector_of_im_eq_zero_of_neg (hq : q.norm = 1) (hv : q.im = ⟨0, 0, 0⟩)
    (h0 : q.q0 < 0) : q.toRotationVector = throw Fault.zeroDivision := by
  have hh : q.halfAngle = π := by
    have h1 : q.q0 = -1 := by nlinarith [sq_q0_of_im_eq_zero hq hv]
    exact halfAngle_eq_of_cos hq pi_pos.le le_rfl (by rw [cos_pi, h1])
  have hl : q.im.length = 0 := by
    rw [hv]
    simp [Vec3.length]
  rw [toRotationVector_of_norm_eq_one hq, hh, if_neg (mul_pos two_pos pi_pos).ne', if_pos hl]

end Unit

/-- The rotation vector follows the sign of the quaternion, not only its rotation.  For a
unit quaternion `q` with a vector part, the vectors of `q` and `-q` differ by `2π` times the
axis, and the vector of `q` is no longer than `π` exactly when `q₀ ≥ 0`.  The identity has the
zero vector, and its negation none: a division by zero.  And the quotient by `-q`, as
division computes it, is the negated quotient by `q`. -/
theorem rotationVector_signDependent (q : Quat ℝ) (hq : q.norm = 1) :
    (q.im ≠ ⟨0, 0, 0⟩ → ∃ w w', Prod.fst <$> q.toRotationVector = .ok w ∧
        Prod.fst <$> q.neg.toRotationVector = .ok w' ∧
        w.sub w' = q.im.normalize.scale (2 * π) ∧ (w.length ≤ π ↔ 0 ≤ q.q0)) ∧
    (q.im = ⟨0, 0, 0⟩ → 0 < q.q0 → Prod.fst <$> q.toRotationVector = .ok ⟨0, 0, 0⟩ ∧
        q.neg.toRotationVector = .error Fault.zeroDivision) ∧
    ∀ t : Quat ℝ, (fun p => p.mul t) <$> q.neg.inverse =
      (fun p => (p.mul t).neg) <$> q.inverse := by
  have hnq : q.neg.norm = 1 := by rw [norm_neg, hq]
  refine ⟨fun hv => ?_, fun hv h0 => ?_, fun t => ?_⟩
  · -- both quaternions rotate, about opposite axes, by `2h` and `2π - 2h`
    have hl := (Vec3.length_pos_iff _).2 hv
    have hl' : 0 < q.neg.im.length := by rwa [im_neg, Vec3.length_neg]
    have hu := Vec3.length_normalize hl
    refine ⟨_, _, by rw [toRotationVector_of_length_pos hq hl]; rfl,
      by rw [toRotationVector_of_length_pos hnq hl']; rfl, ?_, ?_⟩
    · rw [halfAngle_neg hq, im_neg, Vec3.normalize_neg]
      simp only [Vec3.sub, Vec3.add, Vec3.neg, Vec3.scale, Vec3.mk.injEq]
      refine ⟨?_, ?_, ?_⟩ <;> ring
    · rw [Vec3.length_scale, hu, one_mul, abs_of_nonneg (by linarith [q.halfAngle_nonneg]),
        ← halfAngle_le_pi_div_two_iff]
      constructor <;> intro h <;> linarith
  · refine ⟨by rw [toRotationVector_of_im_eq_zero_of_pos hq hv h0]; rfl, ?_⟩
    exact toRotationVector_of_im_eq_zero_of_neg hnq (by rw [im_neg, hv]; simp [Vec3.neg])
      (by simp only [neg]; linarith)
  · rw [inverse_neg]
    simp [hamiltonProduct_neg_left]

/-- A turn by about `1.41π` about the first axis, whose negation turns by about `0.59π` the
other way round. -/
theorem rotationVector_signDependent_pastHalfTurn :
    (⟨-3 / 5, 4 / 5, 0, 0⟩ : Quat ℝ).norm = 1 ∧
    ((⟨-3 / 5, 4 / 5, 0, 0⟩ : Quat ℝ).im ≠ ⟨0, 0, 0⟩ → ∃ w w',
        Prod.fst <$> (⟨-3 / 5, 4 / 5, 0, 0⟩ : Quat ℝ).toRotationVector = .ok w ∧
        Prod.fst <$> (⟨-3 / 5, 4 / 5, 0, 0⟩ : Quat ℝ).neg.toRotationVector = .ok w' ∧
        w.sub w' = (⟨-3 / 5, 4 / 5, 0, 0⟩ : Quat ℝ).im.normalize.scale (2 * π) ∧
        (w.length ≤ π ↔ 0 ≤ (-3 / 5 : ℝ))) ∧
    ((⟨-3 / 5, 4 / 5, 0, 0⟩ : Quat ℝ).im = ⟨0, 0, 0⟩ → 0 < (-3 / 5 : ℝ) →
        Prod.fst <$> (⟨-3 / 5, 4 / 5, 0, 0⟩ : Quat ℝ).toRotationVector = .ok ⟨0, 0, 0⟩ ∧
        (⟨-3 / 5, 4 / 5, 0, 0⟩ : Quat ℝ).neg.toRotationVector = .error Fault.zeroDivision) ∧
    ∀ t : Quat ℝ, (fun p => p.mul t) <$> (⟨-3 / 5, 4 / 5, 0, 0⟩ : Quat ℝ).neg.inverse =
      (fun p => (p.mul t).neg) <$> (⟨-3 / 5, 4 / 5, 0, 0⟩ : Quat ℝ).inverse :=
  have h : (⟨-3 / 5, 4 / 5, 0, 0⟩ : Quat ℝ).norm = 1 := by norm_num [norm]
  ⟨h, rotationVector_signDependent _ h⟩

/-! ## Interpolation -/

/-- The shorter of the two ways round, `min(θ, 2π - θ)` for the rotation angle `θ`. -/
noncomputable def shorterAngle (q : Quat ℝ) : ℝ := min (2 * q.halfAngle) (2 * π - 2 * q.halfAngle)

theorem shorterAngle_nonneg (q : Quat ℝ) : 0 ≤ q.shorterAngle :=
  le_min (by linarith [q.halfAngle_nonneg]) (by linarith [q.halfAngle_le_pi])

theorem shorterAngle_le_pi (q : Quat ℝ) : q.shorterAngle ≤ π := by
  rcases le_total q.halfAngle (π / 2) with h | h
  · exact (min_le_left _ _).trans (by linarith)
  · exact (min_le_right _ _).trans (by linarith)

section Unit

variable {q : Quat ℝ}

/-- Up to a quarter turn of half angle, the shorter way is the quaternion's own. -/
theorem half_shorterAngle_of_le (h : q.halfAngle ≤ π / 2) :
    q.shorterAngle / 2 = q.halfAngle := by
  rw [shorterAngle, min_eq_left (by linarith), mul_div_cancel_left₀ _ two_ne_zero]

/-- Past a quarter turn of half angle, the shorter way is the other way round. -/
theorem half_shorterAngle_of_ge (h : π / 2 ≤ q.halfAngle) :
    q.shorterAngle / 2 = π - q.halfAngle := by
  rw [shorterAngle, min_eq_right (by linarith)]
  ring

theorem cos_half_shorterAngle (hq : q.norm = 1) : cos (q.shorterAngle / 2) = |q.q0| := by
  rcases le_or_gt q.halfAngle (π / 2) with h | h
  · rw [half_shorterAngle_of_le h, cos_halfAngle hq,
      abs_of_nonneg ((halfAngle_le_pi_div_two_iff q).1 h)]
  · have hq0 : q.q0 < 0 := by
      rw [← not_le, ← halfAngle_le_pi_div_two_iff]
      exact not_le.2 h
    rw [half_shorterAngle_of_ge h.le, cos_pi_sub, cos_halfAngle hq, abs_of_neg hq0]

theorem sin_half_shorterAngle (q : Quat ℝ) : sin (q.shorterAngle / 2) = sin q.halfAngle := by
  rcases le_total q.halfAngle (π / 2) with h | h
  · rw [half_shorterAngle_of_le h]
  · rw [half_shorterAngle_of_ge h, sin_pi_sub]

/-- A quaternion that turns the shorter way by a positive angle has a vector part. -/
theorem length_im_pos_of_shorterAngle_pos (hq : q.norm = 1) (h : 0 < q.shorterAngle) :
    0 < q.im.length := by
  have h₁ : 0 < q.halfAngle := by
    have := min_le_left (2 * q.halfAngle) (2 * π - 2 * q.halfAngle)
    rw [← shorterAngle] at this
    linarith
  have h₂ : q.halfAngle < π := by
    have := min_le_right (2 * q.halfAngle) (2 * π - 2 * q.halfAngle)
    rw [← shorterAngle] at this
    linarith
  rw [← sin_halfAngle hq]
  exact sin_pos_of_pos_of_lt_pi h₁ h₂

/-- A turn about a unit axis is a unit quaternion. -/
theorem norm_ofUnitAxisHalfAngle {u : Vec3 ℝ} (hu : u.length = 1) (t : ℝ) :
    (ofUnitAxisHalfAngle u t).norm = 1 := by
  have hu2 : u.x * u.x + u.y * u.y + u.z * u.z = 1 := by
    rwa [Vec3.length, real_sqrt, Real.sqrt_eq_one] at hu
  rw [norm, real_sqrt, Real.sqrt_eq_one]
  simp only [ofUnitAxisHalfAngle, real_sin, real_cos]
  linear_combination (sin t) ^ 2 * hu2 + sin_sq_add_cos_sq t

/-- A turn by `2t`, `t ∈ [0, π]`, about a unit axis has the rotation angle `2t`. -/
theorem rotationAngle_ofUnitAxisHalfAngle {u : Vec3 ℝ} (hu : u.length = 1) {t : ℝ}
    (ht₀ : 0 ≤ t) (ht : t ≤ π) :
    (ofUnitAxisHalfAngle u t).rotationAngle = pure (2 * t, ofUnitAxisHalfAngle u t) := by
  have hn := norm_ofUnitAxisHalfAngle hu t
  rw [rotationAngle_of_norm_eq_one hn, halfAngle_eq_of_cos hn ht₀ ht rfl]

/-- The rotation taking one unit quaternion to another is a unit quaternion. -/
theorem norm_conj_mul_of_norm_eq_one {q₁ q₂ : Quat ℝ} (h₁ : q₁.norm = 1) (h₂ : q₂.norm = 1) :
    (q₁.conj.mul q₂).norm = 1 := by
  rw [norm_mul, norm_conj, h₁, h₂, one_mul]

/-- The turn slerp makes between two unit quaternions, `δ = q₁* q₂` the rotation taking the
first to the second: the fraction `f` of the shorter angle of `δ`, about the axis of `δ` (or
about the first axis when it does not turn). -/
theorem slerp_of_norm_eq_one {q₁ q₂ : Quat ℝ} {f : ℝ} (h₁ : q₁.norm = 1) (h₂ : q₂.norm = 1)
    (hf : 0 ≤ f) :
    q₁.slerp q₂ f = pure (ofUnitAxisHalfAngle
      (if 0 < f * (q₁.conj.mul q₂).shorterAngle then (q₁.conj.mul q₂).im.normalize
        else ⟨1, 0, 0⟩) (f * (q₁.conj.mul q₂).shorterAngle / 2), q₁, q₂) := by
  have hδ := norm_conj_mul_of_norm_eq_one h₁ h₂
  -- the choice between `θ` and `2π - θ` is the shorter angle
  have hangle : (if π < 2 * (q₁.conj.mul q₂).halfAngle
      then (2 * π - 2 * (q₁.conj.mul q₂).halfAngle) * f
      else 2 * (q₁.conj.mul q₂).halfAngle * f) = f * (q₁.conj.mul q₂).shorterAngle := by
    unfold shorterAngle
    split_ifs with h
    · rw [min_eq_right (by linarith), mul_comm]
    · rw [min_eq_left (by linarith), mul_comm]
  have hx : (⟨1, 0, 0⟩ : Vec3 ℝ).length = 1 := by simp [Vec3.length]
  simp only [slerp, normalize_of_norm_eq_one h₁, normalize_of_norm_eq_one h₂, pure_bind,
    rotationAngle_of_norm_eq_one hδ, real_pi, real_two_point, real_zero_point,
    real_one_point, gt_iff_lt, hangle]
  by_cases ha : 0 < f * (q₁.conj.mul q₂).shorterAngle
  · have hl := length_im_pos_of_shorterAngle_pos hδ (pos_of_mul_pos_right ha hf)
    simp only [ha, if_true, rotationAxis_of_length_pos hδ hl, pure_bind, ofAxisAngle,
      real_two_point, Vec3.normalize_of_length_eq_one (Vec3.length_normalize hl)]
  · simp only [ha, if_false, ofAxisAngle, real_two_point,
      Vec3.normalize_of_length_eq_one hx]

/-- Turning a unit quaternion's whole shorter angle gives the quaternion with the scalar part
made non-negative and the vector part kept. -/
theorem ofUnitAxisHalfAngle_shorterAngle (hq : q.norm = 1) :
    ofUnitAxisHalfAngle (if 0 < q.shorterAngle then q.im.normalize else ⟨1, 0, 0⟩)
      (q.shorterAngle / 2) = ⟨|q.q0|, q.q1, q.q2, q.q3⟩ := by
  have hsin := sin_half_shorterAngle q
  rw [sin_halfAngle hq] at hsin
  by_cases h : 0 < q.shorterAngle
  · have hl := length_im_pos_of_shorterAngle_pos hq h
    rw [if_pos h, Vec3.normalize_of_length_pos hl]
    simp only [ofUnitAxisHalfAngle, real_cos, real_sin, cos_half_shorterAngle hq, hsin,
      Vec3.scale]
    congr 1 <;> rw [mul_left_comm, mul_inv_cancel₀ hl.ne', mul_one] <;> rfl
  · -- no turn: the vector part is zero, and the scalar part is `±1`
    have h0 : q.shorterAngle = 0 := le_antisymm (not_lt.1 h) q.shorterAngle_nonneg
    have hv : q.im = ⟨0, 0, 0⟩ := by
      rw [h0, zero_div, sin_zero] at hsin
      by_contra hne
      linarith [(Vec3.length_pos_iff _).2 hne]
    have hc := cos_half_shorterAngle hq
    rw [h0, zero_div, cos_zero] at hc
    simp only [im, Vec3.mk.injEq] at hv
    simp [h0, ofUnitAxisHalfAngle, ← hc, hv]

theorem q0_conj_mul (q₁ q₂ : Quat ℝ) : (q₁.conj.mul q₂).q0 = q₁.dot q₂ := by
  simp [conj, mul, dot]

theorem mul_conj_mul {q₁ : Quat ℝ} (h₁ : q₁.norm = 1) (q₂ : Quat ℝ) :
    q₁.mul (q₁.conj.mul q₂) = q₂ := by
  apply toH_injective
  rw [toH_mul, toH_mul, toH_conj, ← mul_assoc, self_mul_star, normSq_of_norm_eq_one h₁,
    Quaternion.coe_one, one_mul]

end Unit

/-- Slerp between unit quaternions turns the shorter way by its fraction of the angle, in
exact arithmetic: for `f ∈ [0, 1]` the interpolating rotation `s` has the angle `f·min(θ, 2π-θ)`
for the angle `θ` of `q₁* q₂`; at `f = 0` it leaves `q₁` in place; at `f = 1` it takes `q₁` to
`q₂` when `q₁·q₂ ≥ 0`, and otherwise it is the inverse of the shorter rotation
`q₁* (-q₂)`. -/
theorem slerp_shorterArc (q₁ q₂ : Quat ℝ) (f : ℝ) (h₁ : q₁.norm = 1) (h₂ : q₂.norm = 1)
    (hf₀ : 0 ≤ f) (hf₁ : f ≤ 1) :
    ∃ s θ, q₁.slerp q₂ f = .ok (s, q₁, q₂) ∧
      Prod.fst <$> (q₁.conj.mul q₂).rotationAngle = .ok θ ∧
      Prod.fst <$> s.rotationAngle = .ok (f * min θ (2 * π - θ)) ∧
      (f = 0 → q₁.mul s = q₁) ∧
      (f = 1 → 0 ≤ q₁.dot q₂ → q₁.mul s = q₂) ∧
      (f = 1 → q₁.dot q₂ < 0 → s = (q₁.conj.mul q₂.neg).conj) := by
  have hδ : (q₁.conj.mul q₂).norm = 1 := by rw [norm_mul, norm_conj, h₁, h₂, one_mul]
  refine ⟨_, 2 * (q₁.conj.mul q₂).halfAngle, slerp_of_norm_eq_one h₁ h₂ hf₀,
    by rw [rotationAngle_of_norm_eq_one hδ]; rfl, ?_, ?_, ?_, ?_⟩
  · -- the turn is about a unit axis, by an angle of `[0, π]`
    have ha₀ := mul_nonneg hf₀ (q₁.conj.mul q₂).shorterAngle_nonneg
    have ha : f * (q₁.conj.mul q₂).shorterAngle ≤ π :=
      (mul_le_of_le_one_left (shorterAngle_nonneg _) hf₁).trans (shorterAngle_le_pi _)
    have hu : (if 0 < f * (q₁.conj.mul q₂).shorterAngle then (q₁.conj.mul q₂).im.normalize
        else ⟨1, 0, 0⟩).length = 1 := by
      split_ifs with h
      · exact Vec3.length_normalize
          (length_im_pos_of_shorterAngle_pos hδ (pos_of_mul_pos_right h hf₀))
      · simp [Vec3.length]
    rw [rotationAngle_ofUnitAxisHalfAngle hu (by linarith) (by linarith), map_pure, shorterAngle]
    show Except.ok _ = Except.ok _
    congr 1
    ring
  · rintro rfl
    simp [ofUnitAxisHalfAngle, mul]
  · rintro rfl hdot
    rw [one_mul, ofUnitAxisHalfAngle_shorterAngle hδ, abs_of_nonneg (by rwa [q0_conj_mul])]
    exact mul_conj_mul h₁ q₂
  · -- the angle is shortened to `2π - θ`, but the axis of `q₁* q₂` is kept
    rintro rfl hdot
    rw [one_mul, ofUnitAxisHalfAngle_shorterAngle hδ, abs_of_neg (by rwa [q0_conj_mul]),
      hamiltonProduct_neg_right]
    simp [conj, neg]

/-- From the identity to a turn past a half turn, the whole way: slerp ends at the inverse of
the shorter rotation. -/
theorem slerp_shorterArc_pastHalfTurn :
    (⟨1, 0, 0, 0⟩ : Quat ℝ).norm = 1 ∧ (⟨-3 / 5, 4 / 5, 0, 0⟩ : Quat ℝ).norm = 1 ∧
    (0 : ℝ) ≤ 1 ∧ (1 : ℝ) ≤ 1 ∧
    ∃ s θ, (⟨1, 0, 0, 0⟩ : Quat ℝ).slerp ⟨-3 / 5, 4 / 5, 0, 0⟩ 1 =
        .ok (s, ⟨1, 0, 0, 0⟩, ⟨-3 / 5, 4 / 5, 0, 0⟩) ∧
      Prod.fst <$> ((⟨1, 0, 0, 0⟩ : Quat ℝ).conj.mul ⟨-3 / 5, 4 / 5, 0, 0⟩).rotationAngle =
        .ok θ ∧
      Prod.fst <$> s.rotationAngle = .ok (1 * min θ (2 * π - θ)) ∧
      ((1 : ℝ) = 0 → (⟨1, 0, 0, 0⟩ : Quat ℝ).mul s = ⟨1, 0, 0, 0⟩) ∧
      ((1 : ℝ) = 1 → 0 ≤ (⟨1, 0, 0, 0⟩ : Quat ℝ).dot ⟨-3 / 5, 4 / 5, 0, 0⟩ →
        (⟨1, 0, 0, 0⟩ : Quat ℝ).mul s = ⟨-3 / 5, 4 / 5, 0, 0⟩) ∧
      ((1 : ℝ) = 1 → (⟨1, 0, 0, 0⟩ : Quat ℝ).dot ⟨-3 / 5, 4 / 5, 0, 0⟩ < 0 →
        s = ((⟨1, 0, 0, 0⟩ : Quat ℝ).conj.mul (Quat.neg ⟨-3 / 5, 4 / 5, 0, 0⟩)).conj) :=
  have h₁ : (⟨1, 0, 0, 0⟩ : Quat ℝ).norm = 1 := by simp [norm]
  have h₂ : (⟨-3 / 5, 4 / 5, 0, 0⟩ : Quat ℝ).norm = 1 := by norm_num [norm]
  ⟨h₁, h₂, zero_le_one, le_rfl, slerp_shorterArc _ _ _ h₁ h₂ zero_le_one le_rfl⟩

end Quat

end RocketSim
