import Mathlib
import RocketSim.Proofs.RotationAngles
import RocketSim.Environment.Earth

/-!
# The surface frames in exact arithmetic

The rotation from the global frame to the east-north-up frame at a latitude `φ` and longitude
`λ` (`Earth.enuRotation`) is a turn by the colatitude `π/2 - φ` about the global x axis, then a
turn by `λ + π/2` about the polar axis.  A turn by `θ` about a unit axis `u` is Rodrigues'
rotation (`rotate_ofUnitAxisHalfAngle`)

  `v ↦ cos θ · v + sin θ · (u × v) + (1 - cos θ)(u · v) · u`,

so the first turn takes the global y and z axes into the meridian plane of longitude `-π/2`,
and the second swings that plane round to the longitude `λ`.  The composite takes a vector's
components along the global axes to the same components along east, north and up
(`enuRotation_takesAxes`).  The north-east-down rotation first makes the half turn about the
diagonal of east and north, which swaps the first two axes and reverses the third
(`enuToNed_turn`).

On the sphere, the latitude and longitude of a point are the arguments of `(√(x² + y²), z)` and
`(x, y)` (`Earth.sphericalLatLon`), so up is the point's direction: scaled by the distance from
the centre it is the point itself (`sphere_up`).

**Results.**
* `enuRotation_takesAxes`, `nedRotation_takesAxes`: the frames at every latitude and longitude.
* `sphere_up`: up on the sphere points away from the centre.
* `surfaceFrames_oriented`: the two together.
-/

open Real

namespace RocketSim

/-! ## Rotations about an axis -/

namespace Quat

/-- A unit quaternion rotates a vector by sandwiching it. -/
theorem rotate_of_norm_eq_one {q : Quat ℝ} (hq : q.norm = 1) (v : Vec3 ℝ) :
    Prod.fst <$> q.rotate v =
      .ok ⟨(mul (mul q ⟨0.0, v.x, v.y, v.z⟩) q.conj).q1,
        (mul (mul q ⟨0.0, v.x, v.y, v.z⟩) q.conj).q2,
        (mul (mul q ⟨0.0, v.x, v.y, v.z⟩) q.conj).q3⟩ := by
  rw [rotate, normalize_of_norm_eq_one hq]
  rfl

/-- Rodrigues' rotation: `v` turned by `θ` about the unit axis `u`. -/
noncomputable def turn (u : Vec3 ℝ) (θ : ℝ) (v : Vec3 ℝ) : Vec3 ℝ :=
  ((v.scale (cos θ)).add ((u.cross v).scale (sin θ))).add (u.scale ((1 - cos θ) * u.dot v))

/-- **Rodrigues' formula.**  The quaternion of the half angle `t` about a unit axis turns a
vector by `2t` about the axis. -/
theorem rotate_ofUnitAxisHalfAngle {u : Vec3 ℝ} (hu : u.length = 1) (t : ℝ) (v : Vec3 ℝ) :
    Prod.fst <$> (ofUnitAxisHalfAngle u t).rotate v = .ok (turn u (2 * t) v) := by
  have hu2 : u.x * u.x + u.y * u.y + u.z * u.z = 1 := by
    rwa [Vec3.length, real_sqrt, Real.sqrt_eq_one] at hu
  have hpyth := sin_sq_add_cos_sq t
  rw [rotate_of_norm_eq_one (norm_ofUnitAxisHalfAngle hu t)]
  simp only [turn, Vec3.add, Vec3.scale, Vec3.cross, Vec3.dot, mul, conj, ofUnitAxisHalfAngle,
    real_sin, real_cos, real_zero_point, cos_two_mul, sin_two_mul, Except.ok.injEq,
    Vec3.mk.injEq]
  -- the sandwich is `(c² - s²|u|²) v + 2 s² (u · v) u + 2 c s (u × v)`; it differs from the
  -- formula by multiples of `|u|² - 1` and `s² + c² - 1`
  refine ⟨?_, ?_, ?_⟩
  · linear_combination (-(sin t) ^ 2 * v.x) * hu2 +
      (2 * (u.x * v.x + u.y * v.y + u.z * v.z) * u.x - v.x) * hpyth
  · linear_combination (-(sin t) ^ 2 * v.y) * hu2 +
      (2 * (u.x * v.x + u.y * v.y + u.z * v.z) * u.y - v.y) * hpyth
  · linear_combination (-(sin t) ^ 2 * v.z) * hu2 +
      (2 * (u.x * v.x + u.y * v.y + u.z * v.z) * u.z - v.z) * hpyth

/-- A turn by `θ` about an axis other than zero is Rodrigues' rotation about its direction. -/
theorem rotate_ofAxisAngle {a : Vec3 ℝ} (ha : 0 < a.length) (θ : ℝ) (v : Vec3 ℝ) :
    Prod.fst <$> (ofAxisAngle a θ).rotate v = .ok (turn a.normalize θ v) := by
  rw [ofAxisAngle, real_two_point]
  have h := rotate_ofUnitAxisHalfAngle (Vec3.length_normalize ha) (θ / 2) v
  rwa [mul_div_cancel₀ θ two_ne_zero] at h

theorem norm_ofAxisAngle {a : Vec3 ℝ} (ha : 0 < a.length) (θ : ℝ) : (ofAxisAngle a θ).norm = 1 :=
  norm_ofUnitAxisHalfAngle (Vec3.length_normalize ha) _

/-- Rotating by a product rotates by the right factor, then by the left. -/
theorem rotate_mul_of {q₁ q₂ : Quat ℝ} (h₁ : q₁.norm ≠ 0) (h₂ : q₂.norm ≠ 0) {v w u : Vec3 ℝ}
    (hv : Prod.fst <$> q₂.rotate v = .ok w) (hw : Prod.fst <$> q₁.rotate w = .ok u) :
    Prod.fst <$> (q₁.mul q₂).rotate v = .ok u := by
  obtain ⟨w', u', hv', hw', h⟩ := rotate_mul h₁ h₂ v
  obtain rfl : w = w' := Except.ok.inj (hv.symm.trans hv')
  obtain rfl : u = u' := Except.ok.inj (hw.symm.trans hw')
  exact h

end Quat

/-! ## The frames at a latitude and longitude -/

namespace Earth

/-- Local east at a longitude (radians). -/
noncomputable def east (lon : ℝ) : Vec3 ℝ := ⟨-sin lon, cos lon, 0⟩

/-- Local north at a latitude and longitude (radians). -/
noncomputable def north (lat lon : ℝ) : Vec3 ℝ :=
  ⟨-sin lat * cos lon, -sin lat * sin lon, cos lat⟩

/-- Local up at a latitude and longitude (radians). -/
noncomputable def up (lat lon : ℝ) : Vec3 ℝ := ⟨cos lat * cos lon, cos lat * sin lon, sin lat⟩

/-- The vector whose components along the axes `a`, `b`, `c` are those of `v`. -/
noncomputable def along (a b c v : Vec3 ℝ) : Vec3 ℝ := ((a.scale v.x).add (b.scale v.y)).add (c.scale v.z)

/-- The rotation `q` takes the global axes to `a`, `b`, `c`: every vector's components along
the global axes become its components along `a`, `b`, `c`. -/
def TakesAxes (q : Quat ℝ) (a b c : Vec3 ℝ) : Prop :=
  ∀ v : Vec3 ℝ, Prod.fst <$> q.rotate v = .ok (along a b c v)

theorem TakesAxes.axes {q : Quat ℝ} {a b c : Vec3 ℝ} (h : TakesAxes q a b c) :
    Prod.fst <$> q.rotate ⟨1, 0, 0⟩ = .ok a ∧ Prod.fst <$> q.rotate ⟨0, 1, 0⟩ = .ok b ∧
      Prod.fst <$> q.rotate ⟨0, 0, 1⟩ = .ok c := by
  refine ⟨?_, ?_, ?_⟩ <;> rw [h] <;> simp [along, Vec3.add, Vec3.scale]

theorem radians_ninety : Number.radians (90.0 : ℝ) = π / 2 := by
  norm_num [Number.radians]
  ring

theorem radians_add_ninety (x : ℝ) : Number.radians (x + 90.0) = Number.radians x + π / 2 := by
  rw [← radians_ninety, Number.radians, Number.radians, Number.radians, add_mul]

theorem radians_ninety_sub (x : ℝ) : Number.radians (90.0 - x) = π / 2 - Number.radians x := by
  rw [← radians_ninety, Number.radians, Number.radians, Number.radians, sub_mul]

theorem length_zAxis : (⟨0.0, 0.0, 1.0⟩ : Vec3 ℝ).length = 1 := by
  simp [Vec3.length]

theorem length_xAxis : (⟨1.0, 0.0, 0.0⟩ : Vec3 ℝ).length = 1 := by
  simp [Vec3.length]

/-- **The east-north-up frame.**  The rotation at a latitude and longitude (degrees) takes the
global axes to east, north and up there. -/
theorem enuRotation_takesAxes (lat lon : ℝ) :
    TakesAxes (enuRotation lat lon) (east (Number.radians lon))
      (north (Number.radians lat) (Number.radians lon))
      (up (Number.radians lat) (Number.radians lon)) := by
  intro v
  have hz := length_zAxis
  have hx := length_xAxis
  -- the colatitude turn about x, then the quarter turn past the longitude about the pole
  refine Quat.rotate_mul_of (by rw [Quat.norm_ofAxisAngle (by rw [hz]; exact one_pos)]; simp)
    (by rw [Quat.norm_ofAxisAngle (by rw [hx]; exact one_pos)]; simp)
    (Quat.rotate_ofAxisAngle (by rw [hx]; exact one_pos) _ v)
    ((Quat.rotate_ofAxisAngle (by rw [hz]; exact one_pos) _ _).trans ?_)
  rw [Vec3.normalize_of_length_eq_one hz, Vec3.normalize_of_length_eq_one hx,
    radians_add_ninety, radians_ninety_sub]
  simp only [Quat.turn, along, east, north, up, Vec3.add, Vec3.scale, Vec3.cross, Vec3.dot,
    cos_add_pi_div_two, sin_add_pi_div_two, cos_pi_div_two_sub, sin_pi_div_two_sub,
    real_zero_point, real_one_point, Except.ok.injEq, Vec3.mk.injEq]
  refine ⟨?_, ?_, ?_⟩ <;> ring

theorem norm_enuRotation (lat lon : ℝ) : (enuRotation lat lon).norm = 1 := by
  rw [enuRotation, Quat.norm_mul, Quat.norm_ofAxisAngle (by rw [length_zAxis]; exact one_pos),
    Quat.norm_ofAxisAngle (by rw [length_xAxis]; exact one_pos), one_mul]

/-- The half turn to the north-east-down frame swaps the first two axes and reverses the
third. -/
theorem enuToNed_turn (v : Vec3 ℝ) :
    Prod.fst <$> (enuToNed : Quat ℝ).rotate v = .ok ⟨v.y, v.x, -v.z⟩ := by
  have hlen : (⟨1.0, 1.0, 0.0⟩ : Vec3 ℝ).length = √2 := by norm_num [Vec3.length]
  have hpos : 0 < (⟨1.0, 1.0, 0.0⟩ : Vec3 ℝ).length := by rw [hlen]; positivity
  -- the diagonal's direction has components `1/√2`, whose squares are halves
  have hhalf : (√2)⁻¹ * (√2)⁻¹ = (1 / 2 : ℝ) := by
    rw [← mul_inv, Real.mul_self_sqrt zero_le_two, one_div]
  rw [enuToNed, real_pi, Quat.rotate_ofAxisAngle hpos, Vec3.normalize_of_length_pos hpos, hlen]
  simp only [Quat.turn, Vec3.add, Vec3.scale, Vec3.cross, Vec3.dot, cos_pi, sin_pi,
    real_one_point, real_zero_point, Except.ok.injEq, Vec3.mk.injEq]
  refine ⟨?_, ?_, ?_⟩
  · linear_combination (2 * (v.x + v.y)) * hhalf
  · linear_combination (2 * (v.x + v.y)) * hhalf
  · ring

theorem norm_enuToNed : (enuToNed : Quat ℝ).norm = 1 :=
  Quat.norm_ofAxisAngle (by norm_num [Vec3.length]) _

/-- **The north-east-down frame.**  The rotation at a latitude and longitude (degrees) takes
the global axes to north, east and down there. -/
theorem nedRotation_takesAxes (lat lon : ℝ) :
    TakesAxes ((enuRotation lat lon).mul enuToNed)
      (north (Number.radians lat) (Number.radians lon)) (east (Number.radians lon))
      (up (Number.radians lat) (Number.radians lon)).neg := by
  intro v
  refine Quat.rotate_mul_of (by rw [norm_enuRotation]; exact one_ne_zero)
    (by rw [norm_enuToNed]; exact one_ne_zero) (enuToNed_turn v)
    ((enuRotation_takesAxes lat lon _).trans ?_)
  simp only [along, Vec3.add, Vec3.scale, Vec3.neg, Except.ok.injEq, Vec3.mk.injEq]
  refine ⟨?_, ?_, ?_⟩ <;> ring

/-- The frames at a latitude and longitude (degrees) are oriented as documented: the
east-north-up rotation takes the global axes to east, north and up, the north-east-down
rotation to north, east and down. -/
structure SurfaceFrames (lat lon : ℝ) : Prop where
  enu : TakesAxes (enuRotation lat lon) (east (Number.radians lon))
    (north (Number.radians lat) (Number.radians lon)) (up (Number.radians lat) (Number.radians lon))
  ned : TakesAxes ((enuRotation lat lon).mul enuToNed)
    (north (Number.radians lat) (Number.radians lon)) (east (Number.radians lon))
    (up (Number.radians lat) (Number.radians lon)).neg

/-! ## Up on the sphere -/

theorem radians_degrees (x : ℝ) : Number.radians (Number.degrees x) = x := by
  have hπ := pi_pos.ne'
  norm_num [Number.radians, Number.degrees]
  field_simp

/-- **Up on the sphere.**  At the spherical latitude and longitude of a point, up scaled by the
point's distance from the centre is the point. -/
theorem sphere_up (x y z : ℝ) :
    let ll := sphericalLatLon x y z √(x * x + y * y) 0
    (up (Number.radians ll.1) (Number.radians ll.2)).scale √(x * x + y * y + z * z) =
      ⟨x, y, z⟩ := by
  -- the latitude is the argument of `(√(x² + y²), z)`, whose length is the distance from the
  -- centre; the longitude is the argument of `(x, y)`, whose length is `√(x² + y²)`
  have hr : √(x * x + y * y + z * z) = ‖(⟨√(x * x + y * y), z⟩ : ℂ)‖ := by
    rw [Complex.norm_def, Complex.normSq_mk,
      Real.mul_self_sqrt (add_nonneg (mul_self_nonneg x) (mul_self_nonneg y))]
  have hp : √(x * x + y * y) = ‖(⟨x, y⟩ : ℂ)‖ := by rw [Complex.norm_def, Complex.normSq_mk]
  have hcos := Complex.norm_mul_cos_arg ⟨√(x * x + y * y), z⟩
  have hsin := Complex.norm_mul_sin_arg ⟨√(x * x + y * y), z⟩
  have hcos' := Complex.norm_mul_cos_arg ⟨x, y⟩
  have hsin' := Complex.norm_mul_sin_arg ⟨x, y⟩
  rw [← hp] at hcos' hsin'
  dsimp only at hcos hsin hcos' hsin' ⊢
  simp only [sphericalLatLon, real_atan2, sub_zero, radians_degrees, up,
    Vec3.scale, Vec3.mk.injEq, hr]
  refine ⟨?_, ?_, ?_⟩
  · linear_combination cos (Complex.arg ⟨x, y⟩) * hcos + hcos'
  · linear_combination sin (Complex.arg ⟨x, y⟩) * hcos + hsin'
  · linear_combination hsin

/-- **The surface frames.**  At every latitude and longitude the east-north-up and
north-east-down rotations are oriented as documented; and at the spherical latitude and
longitude of a point, the east-north-up rotation takes the polar axis to the point's
direction. -/
theorem surfaceFrames_oriented :
    (∀ lat lon : ℝ, SurfaceFrames lat lon) ∧
      ∀ x y z : ℝ, let ll := sphericalLatLon x y z √(x * x + y * y) 0
        ∃ u : Vec3 ℝ, Prod.fst <$> (enuRotation ll.1 ll.2).rotate ⟨0, 0, 1⟩ = .ok u ∧
          u.scale √(x * x + y * y + z * z) = ⟨x, y, z⟩ :=
  ⟨fun lat lon => ⟨enuRotation_takesAxes lat lon, nedRotation_takesAxes lat lon⟩,
    fun x y z => ⟨_, (enuRotation_takesAxes _ _).axes.2.2, sphere_up x y z⟩⟩

end Earth

end RocketSim
