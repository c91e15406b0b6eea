import Mathlib
import RocketSim.Motion.Quat

/-!
# Quaternion rotations in exact arithmetic

The vector and quaternion operations are written over any `Scalar` type; over the reals
(`realScalar`) they are exact.  Here a real quaternion is read as an element of
Mathlib's quaternions `ℍ[ℝ]` (`Quat.toH`): the Hamilton product is their multiplication
(`toH_mul`) and the conjugate their star (`toH_conj`).  A vector is read as the pure
quaternion `(0, v)`.  A rotation normalizes its quaternion `q` to the unit `r = q / |q|`
(`normalize_eq`) and sandwiches the vector, `r · (0, v) · r*` (`rotate_eq`).

From the algebra of `ℍ[ℝ]`: the norm is multiplicative, so the unit of a product is the
product of the units (`unit_mul`); a sandwich by a unit keeps the real part and the norm of
what it sandwiches (`re_sandwich`, `normSq_sandwich`); and the star of a unit undoes it.

**Results.**
* `rotate_mul`: rotating by `q₁ * q₂` rotates by `q₂`, then by `q₁`.
* `length_rotate`: a rotation keeps a vector's length.
* `rotate_conj_rotate`: the conjugate rotates a rotated vector back.
* `hamiltonProduct_assoc`: the Hamilton product is associative.
* `rotation_laws`: the four together.
-/

open Real Quaternion

namespace RocketSim

/-! ## Exact scalars -/

/-- The reals, the exact meaning of the operations: `atan2(y, x)` is the argument of the
complex number `x + y·i`. -/
noncomputable instance realScalar : Scalar ℝ where
  decLt := inferInstance
  sqrt x := √x
  sin := sin
  cos := cos
  atan2 y x := Complex.arg ⟨x, y⟩
  abs x := |x|
  sq x := x ^ 2
  pi := π

@[simp] theorem real_sqrt (x : ℝ) : Scalar.sqrt x = √x := rfl
@[simp] theorem real_sin (x : ℝ) : Scalar.sin x = sin x := rfl
@[simp] theorem real_cos (x : ℝ) : Scalar.cos x = cos x := rfl
@[simp] theorem real_atan2 (y x : ℝ) : Scalar.atan2 y x = Complex.arg ⟨x, y⟩ := rfl
@[simp] theorem real_abs (x : ℝ) : Scalar.abs x = |x| := rfl
@[simp] theorem real_sq (x : ℝ) : Scalar.sq x = x ^ 2 := rfl
@[simp] theorem real_pi : (Scalar.pi : ℝ) = π := rfl

@[simp] theorem real_zero_point : (0.0 : ℝ) = 0 := by norm_num
@[simp] theorem real_one_point : (1.0 : ℝ) = 1 := by norm_num
@[simp] theorem real_two_point : (2.0 : ℝ) = 2 := by norm_num

@[simp] theorem real_beq (a b : ℝ) : (a == b) = decide (a = b) := rfl

/-! ## Real quaternions as elements of `ℍ[ℝ]` -/

namespace Quat

/-- A real quaternion as an element of `ℍ[ℝ]`. -/
def toH (q : Quat ℝ) : ℍ[ℝ] := ⟨q.q0, q.q1, q.q2, q.q3⟩

@[simp] theorem re_toH (q : Quat ℝ) : q.toH.re = q.q0 := rfl
@[simp] theorem imI_toH (q : Quat ℝ) : q.toH.imI = q.q1 := rfl
@[simp] theorem imJ_toH (q : Quat ℝ) : q.toH.imJ = q.q2 := rfl
@[simp] theorem imK_toH (q : Quat ℝ) : q.toH.imK = q.q3 := rfl

theorem toH_injective : Function.Injective toH := by
  rintro ⟨a0, a1, a2, a3⟩ ⟨b0, b1, b2, b3⟩ h
  simp only [toH] at h
  obtain ⟨rfl, rfl, rfl, rfl⟩ := h
  rfl

/-- The Hamilton product is the product of `ℍ[ℝ]`. -/
@[simp] theorem toH_mul (a b : Quat ℝ) : (a.mul b).toH = a.toH * b.toH := by
  ext <;> simp [mul]

@[simp] theorem toH_conj (a : Quat ℝ) : a.conj.toH = star a.toH := by
  ext <;> simp [conj]

@[simp] theorem toH_scale (a : Quat ℝ) (s : ℝ) : (a.scale s).toH = s • a.toH := by
  ext <;> simp [scale, mul_comm]

/-- The norm is the square root of the sum of the squared components. -/
theorem norm_eq (a : Quat ℝ) : a.norm = √(normSq a.toH) := by
  simp [norm, normSq_def', pow_two]

theorem norm_conj (a : Quat ℝ) : a.conj.norm = a.norm := by
  rw [norm_eq, norm_eq, toH_conj, normSq_star]

theorem norm_mul (a b : Quat ℝ) : (a.mul b).norm = a.norm * b.norm := by
  rw [norm_eq, norm_eq, norm_eq, toH_mul, map_mul, Real.sqrt_mul normSq_nonneg]

/-- The unit quaternion in the direction of `a`. -/
noncomputable def unit (a : Quat ℝ) : Quat ℝ := a.scale a.norm⁻¹

/-- Normalizing a quaternion other than zero gives its unit. -/
theorem normalize_eq {a : Quat ℝ} (h : a.norm ≠ 0) : a.normalize = .ok a.unit := by
  by_cases h1 : a.norm = 1
  · have e : a.unit = a := by
      cases a
      simp [unit, scale, h1]
    simp [normalize, h1, e]
    rfl
  · simp [normalize, h1, h, unit, scale, div_eq_mul_inv]
    rfl

/-- A unit has norm one. -/
theorem normSq_unit {a : Quat ℝ} (h : a.norm ≠ 0) : normSq a.unit.toH = 1 := by
  have hsq : a.norm ^ 2 = normSq a.toH := by
    rw [norm_eq, Real.sq_sqrt normSq_nonneg]
  rw [unit, toH_scale, normSq_smul, inv_pow, hsq,
    inv_mul_cancel₀ (by rw [← hsq]; exact pow_ne_zero 2 h)]

theorem unit_conj (a : Quat ℝ) : a.conj.unit.toH = star a.unit.toH := by
  simp [unit, norm_conj]

/-- The unit of a product is the product of the units. -/
theorem unit_mul (a b : Quat ℝ) : (a.mul b).unit.toH = a.unit.toH * b.unit.toH := by
  simp only [unit, toH_scale, toH_mul, norm_mul, mul_inv, smul_mul_smul_comm]

end Quat

/-! ## Sandwiches -/

namespace Vec3

/-- A vector as the pure quaternion `(0, v)`. -/
def toH (v : Vec3 ℝ) : ℍ[ℝ] := ⟨0, v.x, v.y, v.z⟩

/-- The vector part of a quaternion. -/
def ofIm (x : ℍ[ℝ]) : Vec3 ℝ := ⟨x.imI, x.imJ, x.imK⟩

@[simp] theorem re_toH (v : Vec3 ℝ) : v.toH.re = 0 := rfl

@[simp] theorem ofIm_toH (v : Vec3 ℝ) : ofIm v.toH = v := rfl

/-- A pure quaternion is the pure quaternion of its vector part. -/
theorem toH_ofIm {x : ℍ[ℝ]} (h : x.re = 0) : (ofIm x).toH = x := by
  ext <;> simp [toH, ofIm, h]

/-- The length of a vector is the norm of its pure quaternion. -/
theorem length_eq (v : Vec3 ℝ) : v.length = √(normSq v.toH) := by
  rw [length, normSq_def']
  simp [toH, pow_two]

end Vec3

/-- Sandwiching by `r` scales the real part by the squared norm of `r`. -/
theorem re_sandwich (r x : ℍ[ℝ]) : (r * x * star r).re = normSq r * x.re := by
  simp only [re_mul, imI_mul, imJ_mul, imK_mul, re_star, imI_star, imJ_star, imK_star,
    normSq_def']
  ring

/-- Sandwiching by `r` scales the squared norm by the fourth power of the norm of `r`. -/
theorem normSq_sandwich (r x : ℍ[ℝ]) :
    normSq (r * x * star r) = normSq r * normSq x * normSq r := by
  rw [map_mul, map_mul, normSq_star]

namespace Quat

/-- A rotation by a quaternion other than zero sandwiches the vector by the quaternion's
unit, and leaves the unit behind. -/
theorem rotate_eq {q : Quat ℝ} (h : q.norm ≠ 0) (v : Vec3 ℝ) :
    q.rotate v = .ok (Vec3.ofIm (q.unit.toH * v.toH * star q.unit.toH), q.unit) := by
  have e : (mul (mul q.unit ⟨0.0, v.x, v.y, v.z⟩) q.unit.conj).toH =
      q.unit.toH * v.toH * star q.unit.toH := by
    rw [toH_mul, toH_mul, toH_conj]
    congr 2
    ext <;> simp [Vec3.toH]
  rw [rotate, normalize_eq h, ← e]
  rfl

/-- A sandwiched pure quaternion stays pure. -/
theorem re_sandwich_unit (q : Quat ℝ) (v : Vec3 ℝ) :
    (q.unit.toH * v.toH * star q.unit.toH).re = 0 := by
  rw [re_sandwich, Vec3.re_toH, mul_zero]

/-- Rotating by `q₁ * q₂` rotates by `q₂`, then by `q₁`. -/
theorem rotate_mul {q₁ q₂ : Quat ℝ} (h₁ : q₁.norm ≠ 0) (h₂ : q₂.norm ≠ 0) (v : Vec3 ℝ) :
    ∃ w u, Prod.fst <$> q₂.rotate v = .ok w ∧ Prod.fst <$> q₁.rotate w = .ok u ∧
      Prod.fst <$> (q₁.mul q₂).rotate v = .ok u := by
  have h₁₂ : (q₁.mul q₂).norm ≠ 0 := by
    rw [norm_mul]
    exact mul_ne_zero h₁ h₂
  refine ⟨_, _, by rw [rotate_eq h₂]; rfl, by rw [rotate_eq h₁]; rfl, ?_⟩
  rw [rotate_eq h₁₂, Vec3.toH_ofIm (re_sandwich_unit q₂ v), unit_mul, star_mul]
  simp only [Except.map_ok, mul_assoc]

/-- A rotation keeps a vector's length. -/
theorem length_rotate {q : Quat ℝ} (h : q.norm ≠ 0) (v : Vec3 ℝ) :
    ∃ w, Prod.fst <$> q.rotate v = .ok w ∧ w.length = v.length := by
  refine ⟨_, by rw [rotate_eq h]; rfl, ?_⟩
  rw [Vec3.length_eq, Vec3.length_eq, Vec3.toH_ofIm (re_sandwich_unit q v), normSq_sandwich,
    normSq_unit h, one_mul, mul_one]

/-- The conjugate rotates a rotated vector back. -/
theorem rotate_conj_rotate {q : Quat ℝ} (h : q.norm ≠ 0) (v : Vec3 ℝ) :
    ∃ w, Prod.fst <$> q.rotate v = .ok w ∧ Prod.fst <$> q.conj.rotate w = .ok v := by
  have hc : q.conj.norm ≠ 0 := by rwa [norm_conj]
  -- `r* · (r · p · r*) · r = (r* · r) · p · (r* · r)`, and `r* · r = |r|² = 1`
  have hunit : star q.unit.toH * q.unit.toH = 1 := by
    rw [star_mul_self, normSq_unit h, Quaternion.coe_one]
  refine ⟨_, by rw [rotate_eq h]; rfl, ?_⟩
  rw [rotate_eq hc, Vec3.toH_ofIm (re_sandwich_unit q v), unit_conj, star_star]
  have e : star q.unit.toH * (q.unit.toH * v.toH * star q.unit.toH) * q.unit.toH = v.toH := by
    simp only [← mul_assoc, hunit, one_mul]
    rw [mul_assoc, hunit, mul_one]
  simp only [Except.map_ok, e, Vec3.ofIm_toH]

/-- The Hamilton product is associative. -/
theorem hamiltonProduct_assoc (a b c : Quat ℝ) : (a.mul b).mul c = a.mul (b.mul c) := by
  apply toH_injective
  simp only [toH_mul, mul_assoc]

/-- Quaternion products compose rotations, in exact arithmetic: for quaternions `q₁`, `q₂`
other than zero and every vector `v`, rotating by `q₂` and then by `q₁` gives what rotating
by `q₁ * q₂` gives; a rotation keeps a vector's length and the conjugate rotates it back; and
the Hamilton product is associative. -/
theorem rotation_laws (q₁ q₂ : Quat ℝ) (v : Vec3 ℝ) (h₁ : q₁.norm ≠ 0) (h₂ : q₂.norm ≠ 0) :
    (∃ w u, Prod.fst <$> q₂.rotate v = .ok w ∧ Prod.fst <$> q₁.rotate w = .ok u ∧
      Prod.fst <$> (q₁.mul q₂).rotate v = .ok u) ∧
    (∃ w, Prod.fst <$> q₁.rotate v = .ok w ∧ w.length = v.length ∧
      Prod.fst <$> q₁.conj.rotate w = .ok v) ∧
    ∀ a b c : Quat ℝ, (a.mul b).mul c = a.mul (b.mul c) := by
  refine ⟨rotate_mul h₁ h₂ v, ?_, hamiltonProduct_assoc⟩
  obtain ⟨w, hw, hlen⟩ := length_rotate h₁ v
  obtain ⟨w', hw', hback⟩ := rotate_conj_rotate h₁ v
  -- both read the same rotated vector
  obtain rfl : w = w' := Except.ok.inj (hw.symm.trans hw')
  exact ⟨w, hw, hlen, hback⟩

/-- A quarter turn about the first axis, given unnormalized, after a half turn about the
second. -/
theorem rotation_laws_quarterAfterHalfTurn :
    (⟨1, 1, 0, 0⟩ : Quat ℝ).norm ≠ 0 ∧ (⟨0, 0, 1, 0⟩ : Quat ℝ).norm ≠ 0 ∧
    (∃ w u, Prod.fst <$> (⟨0, 0, 1, 0⟩ : Quat ℝ).rotate ⟨1, 2, 3⟩ = .ok w ∧
      Prod.fst <$> (⟨1, 1, 0, 0⟩ : Quat ℝ).rotate w = .ok u ∧
      Prod.fst <$> ((⟨1, 1, 0, 0⟩ : Quat ℝ).mul ⟨0, 0, 1, 0⟩).rotate ⟨1, 2, 3⟩ = .ok u) ∧
    (∃ w, Prod.fst <$> (⟨1, 1, 0, 0⟩ : Quat ℝ).rotate ⟨1, 2, 3⟩ = .ok w ∧
      w.length = (⟨1, 2, 3⟩ : Vec3 ℝ).length ∧
      Prod.fst <$> (⟨1, 1, 0, 0⟩ : Quat ℝ).conj.rotate w = .ok ⟨1, 2, 3⟩) ∧
    ∀ a b c : Quat ℝ, (a.mul b).mul c = a.mul (b.mul c) :=
  have h₁ : (⟨1, 1, 0, 0⟩ : Quat ℝ).norm ≠ 0 := by simp [norm]
  have h₂ : (⟨0, 0, 1, 0⟩ : Quat ℝ).norm ≠ 0 := by simp [norm]
  ⟨h₁, h₂, rotation_laws _ _ _ h₁ h₂⟩

end Quat

end RocketSim
