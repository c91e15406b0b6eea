import Mathlib
import RocketSim.Proofs.SurfaceFrames

/-!
# The sphere's coordinates in exact arithmetic

The spherical earth turns a latitude `φ`, a longitude `λ` (degrees) and a height `h` into the
point at distance `R + h` from the centre, in the direction of latitude `φ` and longitude
`λ + ωτ` after a time offset `τ` (`R` the sphere's radius, `ω` the earth's rotation rate).
Back from a point `(x, y, z)`, the latitude is the argument of `(√(x² + y²), z)`, the longitude
the argument of `(x, y)` turned back by `ωτ`, and the height the distance from the centre less
`R`.

Over the reals the two are inverse up to the wrap of the longitude: the argument of `(x, y)` is
the advanced longitude less a whole number of turns, so the longitude comes back congruent to
itself modulo `360°`; the latitude comes back itself because its cosine is positive strictly
between the poles, and the height because the point is above the centre.  The other way round
every point comes back: a point is its distance from the centre times the direction of its own
latitude and longitude (`sphere_up`), whatever the time offset.

**Results.**
* `sphericalToCartesian_exact`, `cartesianToSpherical_exact`: the two conversions over the reals.
* `arg_polar_sub`: the argument of a point in polar form is its angle less a whole number of
  turns.
* `sphere_roundTrip`: both round trips.
-/

open Real Set

namespace RocketSim
namespace Earth

/-- Real arithmetic for the sphere's conversions: the values are the reals themselves. -/
noncomputable def exactSphereOps : SphereOps Id ℝ ℝ where
  real x := pure x
  ofReal x := x
  add a b := pure (a + b)
  mul a b := pure (a * b)
  sqrt x := pure √x
  sin x := pure (sin x)
  cos x := pure (cos x)

/-- The cartesian coordinates of a latitude, longitude and height after a time offset `τ`. -/
theorem sphericalToCartesian_exact (lat lon h τ : ℝ) :
    Id.run (sphericalToCartesianWith exactSphereOps lat lon h τ) =
      ((sphereRadius + h) * cos (Number.radians lat) *
          cos (Number.radians lon + rotationRate * τ),
        (sphereRadius + h) * cos (Number.radians lat) *
          sin (Number.radians lon + rotationRate * τ),
        (sphereRadius + h) * sin (Number.radians lat)) := rfl

/-- The latitude, longitude and height of a point after a time offset `τ`. -/
theorem cartesianToSpherical_exact (x y z τ : ℝ) :
    Id.run (cartesianToSphericalWith exactSphereOps x y z τ) =
      (Number.degrees (Complex.arg ⟨√(x * x + y * y), z⟩),
        Number.degrees (Complex.arg ⟨x, y⟩ - rotationRate * τ),
        √(x * x + y * y + z * z) - sphereRadius) := rfl

theorem degrees_radians (x : ℝ) : Number.degrees (Number.radians x) = x := by
  have hπ := pi_pos.ne'
  norm_num [Number.radians, Number.degrees]
  field_simp

/-- An angle of `x` degrees and `n` whole turns is `x + 360n` degrees. -/
theorem degrees_add_turns (x : ℝ) (n : ℤ) :
    Number.degrees (Number.radians x + 2 * π * n) = x + 360 * n := by
  have hπ := pi_pos.ne'
  norm_num [Number.degrees, Number.radians]
  field_simp
  ring

/-- The argument of the point at distance `r > 0` and angle `θ` is `θ` less a whole number of
turns. -/
theorem arg_polar_sub {r : ℝ} (hr : 0 < r) (θ : ℝ) :
    ∃ n : ℤ, Complex.arg ⟨r * cos θ, r * sin θ⟩ = θ + 2 * π * n := by
  have hpolar : (⟨r * cos θ, r * sin θ⟩ : ℂ) =
      r * (Complex.cos θ + Complex.sin θ * Complex.I) := by
    apply Complex.ext <;> simp [Complex.cos_ofReal_re, Complex.sin_ofReal_re]
  have hsub := Complex.arg_mul_cos_add_sin_mul_I_sub hr θ
  refine ⟨⌊(π - θ) / (2 * π)⌋, ?_⟩
  rw [hpolar]
  linarith

/-- Strictly between the poles, the argument of the point at distance `r > 0` and latitude
`a` is `a`. -/
theorem arg_polar_latitude {r a : ℝ} (hr : 0 < r) (ha : a ∈ Ioo (-(π / 2)) (π / 2)) :
    Complex.arg ⟨r * cos a, r * sin a⟩ = a := by
  have hpolar : (⟨r * cos a, r * sin a⟩ : ℂ) =
      r * (Complex.cos a + Complex.sin a * Complex.I) := by
    apply Complex.ext <;> simp [Complex.cos_ofReal_re, Complex.sin_ofReal_re]
  rw [hpolar, Complex.arg_mul_cos_add_sin_mul_I hr]
  exact ⟨by linarith [ha.1, pi_pos], by linarith [ha.2, pi_pos]⟩

/-- A latitude strictly between the poles, in radians. -/
theorem radians_mem_Ioo {lat : ℝ} (h : lat ∈ Ioo (-90) 90) :
    Number.radians lat ∈ Ioo (-(π / 2)) (π / 2) := by
  have hπ := pi_pos
  simp only [Number.radians, real_pi, mem_Ioo] at h ⊢
  norm_num
  constructor <;> nlinarith [h.1, h.2]

/-- **Geodetic to cartesian and back.**  Strictly between the poles and above the centre, the
latitude and the height come back, and the longitude up to whole turns. -/
theorem sphere_there_back {lat : ℝ} (hlat : lat ∈ Ioo (-90) 90) (lon : ℝ) {h : ℝ}
    (hh : -sphereRadius < h) (τ : ℝ) :
    ∃ k : ℤ, Id.run (do
        let (x, y, z) ← sphericalToCartesianWith exactSphereOps lat lon h τ
        cartesianToSphericalWith exactSphereOps x y z τ) = (lat, lon + 360 * k, h) := by
  set a := Number.radians lat
  set L := Number.radians lon + rotationRate * τ
  set R : ℝ := sphereRadius + h
  have hR : 0 < R := by linarith
  -- the distance from the polar axis is `R cos a`, positive strictly between the poles
  have hc : 0 < R * cos a := mul_pos hR (cos_pos_of_mem_Ioo (radians_mem_Ioo hlat))
  obtain ⟨n, hn⟩ := arg_polar_sub hc L
  refine ⟨n, ?_⟩
  have hrun : Id.run (do
        let (x, y, z) ← sphericalToCartesianWith exactSphereOps lat lon h τ
        cartesianToSphericalWith exactSphereOps x y z τ) =
      Id.run (cartesianToSphericalWith exactSphereOps (R * cos a * cos L) (R * cos a * sin L)
        (R * sin a) τ) := rfl
  have haxis : √(R * cos a * cos L * (R * cos a * cos L) + R * cos a * sin L * (R * cos a * sin L))
      = R * cos a := by
    rw [show R * cos a * cos L * (R * cos a * cos L) + R * cos a * sin L * (R * cos a * sin L)
      = (R * cos a) ^ 2 by linear_combination (R * cos a) ^ 2 * sin_sq_add_cos_sq L]
    exact sqrt_sq hc.le
  have hcentre : √(R * cos a * cos L * (R * cos a * cos L) + R * cos a * sin L * (R * cos a * sin L)
      + R * sin a * (R * sin a)) = R := by
    rw [show R * cos a * cos L * (R * cos a * cos L) + R * cos a * sin L * (R * cos a * sin L)
      + R * sin a * (R * sin a) = R ^ 2 by
        linear_combination (R * cos a) ^ 2 * sin_sq_add_cos_sq L + R ^ 2 * sin_sq_add_cos_sq a]
    exact sqrt_sq hR.le
  rw [hrun, cartesianToSpherical_exact, haxis, hcentre, arg_polar_latitude hR (radians_mem_Ioo hlat),
    hn, degrees_radians]
  have hlon : L + 2 * π * n - rotationRate * τ = Number.radians lon + 2 * π * n := by ring
  rw [hlon, degrees_add_turns, add_sub_cancel_left]

/-- **Cartesian to geodetic and back.**  Every point comes back, whatever the time offset: the
turn taken off the longitude is put back, and the point is its distance from the centre times
the direction of its own latitude and longitude. -/
theorem sphere_back_there (x y z τ : ℝ) :
    Id.run (do
        let (lat, lon, h) ← cartesianToSphericalWith exactSphereOps x y z τ
        sphericalToCartesianWith exactSphereOps lat lon h τ) = (x, y, z) := by
  have hrun : Id.run (do
        let (lat, lon, h) ← cartesianToSphericalWith exactSphereOps x y z τ
        sphericalToCartesianWith exactSphereOps lat lon h τ) =
      Id.run (sphericalToCartesianWith exactSphereOps
        (Number.degrees (Complex.arg ⟨√(x * x + y * y), z⟩))
        (Number.degrees (Complex.arg ⟨x, y⟩ - rotationRate * τ))
        (√(x * x + y * y + z * z) - sphereRadius) τ) := rfl
  have hup := sphere_up x y z
  simp only [sphericalLatLon, real_atan2, sub_zero, radians_degrees, up, Vec3.scale,
    Vec3.mk.injEq] at hup
  obtain ⟨hx, hy, hz⟩ := hup
  rw [hrun, sphericalToCartesian_exact, radians_degrees, radians_degrees, sub_add_cancel,
    add_sub_cancel]
  refine Prod.ext ?_ (Prod.ext ?_ ?_)
  · linear_combination hx
  · linear_combination hy
  · linear_combination hz

/-- **The sphere's round trips.**  Strictly between the poles and above the centre,
geodetic coordinates converted to cartesian ones and back give the same latitude and height
and the longitude up to whole turns; and every point converted to geodetic coordinates and
back is itself, for every time offset. -/
theorem sphere_roundTrip :
    (∀ lat lon h τ : ℝ, lat ∈ Ioo (-90) 90 → -sphereRadius < h →
      ∃ k : ℤ, Id.run (do
        let (x, y, z) ← sphericalToCartesianWith exactSphereOps lat lon h τ
        cartesianToSphericalWith exactSphereOps x y z τ) = (lat, lon + 360 * k, h)) ∧
    (∀ x y z τ : ℝ, Id.run (do
        let (lat, lon, h) ← cartesianToSphericalWith exactSphereOps x y z τ
        sphericalToCartesianWith exactSphereOps lat lon h τ) = (x, y, z)) :=
  ⟨fun _ lon _ τ hlat hh => sphere_there_back hlat lon hh τ, sphere_back_there⟩

/-- The round trips at latitude `45°`, longitude `200°` and height `100 m`, an hour after the
start. -/
theorem sphere_roundTrip_hourLater :
    (45 : ℝ) ∈ Ioo (-90) 90 ∧ -sphereRadius < (100 : ℝ) ∧
    ∃ k : ℤ, Id.run (do
        let (x, y, z) ← sphericalToCartesianWith exactSphereOps (45 : ℝ) 200 100 3600
        cartesianToSphericalWith exactSphereOps x y z 3600) = ((45 : ℝ), 200 + 360 * (k : ℝ), (100 : ℝ)) :=
  have hlat : (45 : ℝ) ∈ Ioo (-90) 90 := by norm_num
  have hh : -sphereRadius < (100 : ℝ) := by norm_num [sphereRadius]
  ⟨hlat, hh, sphere_roundTrip.1 45 200 100 3600 hlat hh⟩

end Earth
end RocketSim
