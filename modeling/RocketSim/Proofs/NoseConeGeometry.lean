import Mathlib
import RocketSim.Proofs.StandardAtmosphere
import RocketSim.Proofs.MotorAdjustment
import RocketSim.Vehicle.Bodies

/-!
# Nose cone geometry in exact arithmetic

A nose cone of base diameter `d` and aspect ratio `ar` has base radius `r = d / 2` and length
`L = d · ar`.  Its volume (`NoseCone.volumeOf`) and its base area and Barrowman centre of
pressure (`NoseCone.pressureCentre`: at depth `(L·A - V) / A` below the tip, for the base area
`A = π r²`) are written over any numbers; over the reals they are the nose cone's exact
geometry.

A tangent ogive is an arc of radius `ρ = (r² + L²) / (2r)` turned about the axis.  Its arc
angle `θ = arcsin (L / ρ)` has `sin θ = L / ρ` and `cos θ = |ρ - r| / ρ` (`ogive_arc`), and the
volume formula is `π ρ³ (sin θ - sin³ θ / 3 ∓ θ cos θ)`, the sign following whether the ogive
is at least as long as its radius.  It is compared with the cone `π r² L / 3` and the cylinder
`π r² L` on the same base: for a long ogive by how the two differences grow with `θ`
(`gaps_nonneg`), for a short one directly; both use `sin θ ≤ θ` and the chord bound
`θ sin θ ≤ 2 (1 - cos θ)`.  So the centre of pressure of a tangent ogive lies between its tip
and its base.

The cone branch squares the diameter where the cone's volume squares the radius: it computes
four cone volumes, more than the cylinder holds, and the centre of pressure then lies a third
of the length in front of the tip.

**Results.**
* `ogiveVolume_between`: a tangent ogive's volume lies between the cone's and the cylinder's.
* `noseCone_pressureCentre`: the volumes and centres of pressure of both shapes.
-/

open Real Set

namespace RocketSim

/-- The arc sine of the reals, with the domain fault outside `[-1, 1]`. -/
noncomputable instance realArcSine : ArcSine ℝ where
  asin x := if x < -1 ∨ 1 < x then throw Real.domainFault else pure (arcsin x)

theorem real_asin_eq {x : ℝ} (h₀ : -1 ≤ x) (h₁ : x ≤ 1) : ArcSine.asin x = pure (arcsin x) := by
  simp [ArcSine.asin, not_lt.mpr h₀, not_lt.mpr h₁]

@[simp] theorem real_three_point : (3.0 : ℝ) = 3 := by norm_num

@[simp] theorem real_four_point : (4.0 : ℝ) = 4 := by norm_num

theorem real_pow_two_eq {x : ℝ} (hx : 0 < x) : Elementary.pow x 2 = pure (x ^ 2) := by
  rw [real_pow_eq hx, rpow_two]

theorem real_pow_three_eq {x : ℝ} (hx : 0 < x) : Elementary.pow x 3 = pure (x ^ 3) := by
  rw [real_pow_eq hx, show (3 : ℝ) = ((3 : ℕ) : ℝ) by norm_num, rpow_natCast]

namespace Vehicle
namespace NoseCone

/-! ## Two bounds on an arc of at most a quarter turn -/

/-- The chord bound `θ sin θ ≤ 2 (1 - cos θ)`: the half angle is at most its tangent. -/
theorem mul_sin_le_two_mul_one_sub_cos {θ : ℝ} (h₀ : 0 ≤ θ) (h₁ : θ ≤ π / 2) :
    θ * sin θ ≤ 2 * (1 - cos θ) := by
  set φ := θ / 2 with hφ
  have hφ₀ : 0 ≤ φ := by positivity
  have hφ₁ : φ < π / 2 := by linarith [pi_pos]
  have hcos : 0 < cos φ := cos_pos_of_mem_Ioo ⟨by linarith, hφ₁⟩
  have hsin : 0 ≤ sin φ := sin_nonneg_of_nonneg_of_le_pi hφ₀ (by linarith)
  have htan : φ * cos φ ≤ sin φ := by
    rw [← le_div_iff₀ hcos, ← tan_eq_sin_div_cos]
    exact le_tan hφ₀ hφ₁
  have hθ : θ = 2 * φ := by rw [hφ]; ring
  rw [hθ, sin_two_mul, cos_two_mul]
  nlinarith [mul_le_mul_of_nonneg_left htan hsin, sin_sq_add_cos_sq φ]

/-- What a long ogive's volume exceeds the cone's by, over `π ρ³`, at arc angle `θ`. -/
noncomputable def coneGap (θ : ℝ) : ℝ :=
  sin θ - sin θ ^ 3 / (3 : ℕ) - θ * cos θ - (1 - cos θ) ^ 2 * sin θ / (3 : ℕ)

/-- What the cylinder's volume exceeds a long ogive's by, over `π ρ³`, at arc angle `θ`. -/
noncomputable def cylinderGap (θ : ℝ) : ℝ :=
  (1 - cos θ) ^ 2 * sin θ - (sin θ - sin θ ^ 3 / (3 : ℕ) - θ * cos θ)

theorem hasDerivAt_coneGap (θ : ℝ) :
    HasDerivAt coneGap (θ * sin θ - sin θ ^ 2 * cos θ -
      (2 * (1 - cos θ) * sin θ ^ 2 + (1 - cos θ) ^ 2 * cos θ) / 3) θ := by
  have hs := hasDerivAt_sin θ
  have hc := hasDerivAt_cos θ
  have h := ((hs.sub ((hs.pow 3).div_const 3)).sub (hasDerivAt_id θ |>.mul hc)).sub
    ((((hasDerivAt_const θ (1 : ℝ)).sub hc).pow 2 |>.mul hs).div_const 3)
  refine (h.congr_deriv ?_).congr_of_eventuallyEq (Filter.Eventually.of_forall fun x => ?_)
  · simp; ring
  · simp [coneGap]

theorem hasDerivAt_cylinderGap (θ : ℝ) :
    HasDerivAt cylinderGap (2 * (1 - cos θ) * sin θ ^ 2 + (1 - cos θ) ^ 2 * cos θ -
      (θ * sin θ - sin θ ^ 2 * cos θ)) θ := by
  have hs := hasDerivAt_sin θ
  have hc := hasDerivAt_cos θ
  have h := (((hasDerivAt_const θ (1 : ℝ)).sub hc).pow 2 |>.mul hs).sub
    ((hs.sub ((hs.pow 3).div_const 3)).sub (hasDerivAt_id θ |>.mul hc))
  refine (h.congr_deriv ?_).congr_of_eventuallyEq (Filter.Eventually.of_forall fun x => ?_)
  · simp; ring
  · simp [cylinderGap]

/-- Both gaps start at zero and grow over the quarter turn. -/
theorem gaps_nonneg {θ : ℝ} (h₀ : 0 ≤ θ) (h₁ : θ ≤ π / 2) :
    0 ≤ coneGap θ ∧ 0 ≤ cylinderGap θ := by
  have hD : interior (Icc 0 (π / 2)) = Ioo 0 (π / 2) := interior_Icc
  have hmem : θ ∈ Icc 0 (π / 2) := ⟨h₀, h₁⟩
  have hzero : (0 : ℝ) ∈ Icc 0 (π / 2) := ⟨le_rfl, by positivity⟩
  have hbounds : ∀ x ∈ interior (Icc 0 (π / 2)),
      sin x ≤ x ∧ x * sin x ≤ 2 * (1 - cos x) ∧ 0 < cos x ∧ 0 < sin x := by
    intro x hx
    rw [hD] at hx
    exact ⟨sin_le hx.1.le, mul_sin_le_two_mul_one_sub_cos hx.1.le hx.2.le,
      cos_pos_of_mem_Ioo ⟨by linarith [hx.1], hx.2⟩,
      sin_pos_of_pos_of_lt_pi hx.1 (by linarith [hx.2, pi_pos])⟩
  constructor
  · have hmono : MonotoneOn coneGap (Icc 0 (π / 2)) := by
      refine monotoneOn_of_hasDerivWithinAt_nonneg (convex_Icc _ _)
        (fun x _ => (hasDerivAt_coneGap x).continuousAt.continuousWithinAt)
        (fun x _ => (hasDerivAt_coneGap x).hasDerivWithinAt) ?_
      intro x hx
      obtain ⟨hs, -, hc, hpos⟩ := hbounds x hx
      -- with `sin x ≤ x` the derivative is at least `(1 - cos x)² / 3`
      nlinarith [sin_sq_add_cos_sq x, mul_le_mul_of_nonneg_left hs hpos.le]
    simpa [coneGap] using hmono hzero hmem h₀
  · have hmono : MonotoneOn cylinderGap (Icc 0 (π / 2)) := by
      refine monotoneOn_of_hasDerivWithinAt_nonneg (convex_Icc _ _)
        (fun x _ => (hasDerivAt_cylinderGap x).continuousAt.continuousWithinAt)
        (fun x _ => (hasDerivAt_cylinderGap x).hasDerivWithinAt) ?_
      intro x hx
      obtain ⟨-, hts, hc, -⟩ := hbounds x hx
      -- with the chord bound the derivative is at least `2 cos x (1 - cos x)²`
      nlinarith [sin_sq_add_cos_sq x, mul_nonneg hc.le (sq_nonneg (1 - cos x))]
    simpa [cylinderGap] using hmono hzero hmem h₀

/-! ## The tangent ogive between the cone and the cylinder -/

/-- The volume of a tangent ogive of base radius `r` and length `L`, by the formula the nose
cone uses, with `ρ` its radius of curvature. -/
noncomputable def ogiveVolume (r L : ℝ) : ℝ :=
  let ρ := (r ^ 2 + L ^ 2) / ((2 : ℕ) * r)
  π * (L * ρ ^ 2 - L ^ 3 / (3 : ℕ) - (ρ - r) * ρ ^ 2 * arcsin (L / ρ))

/-- An ogive at least as long as its radius: `L = ρ sin θ` and `r = ρ (1 - cos θ)`. -/
theorem longOgive_between {ρ θ r L : ℝ} (hρ : 0 < ρ) (h₀ : 0 ≤ θ) (h₁ : θ ≤ π / 2)
    (hL : L = ρ * sin θ) (hr : r = ρ * (1 - cos θ)) :
    π * r ^ 2 * L / 3 ≤ π * (L * ρ ^ 2 - L ^ 3 / 3 - (ρ - r) * ρ ^ 2 * θ) ∧
      π * (L * ρ ^ 2 - L ^ 3 / 3 - (ρ - r) * ρ ^ 2 * θ) ≤ π * r ^ 2 * L := by
  obtain ⟨hcone, hcyl⟩ := gaps_nonneg h₀ h₁
  have hscale : 0 ≤ π * ρ ^ 3 := by positivity
  subst hL hr
  -- over `π ρ³`: the volume `s - s³/3 - θ c`, the cone `(1 - c)² s / 3`, the cylinder `(1 - c)² s`
  have hcone' : π * (ρ * sin θ * ρ ^ 2 - (ρ * sin θ) ^ 3 / 3 - (ρ - ρ * (1 - cos θ)) * ρ ^ 2 * θ) -
      π * (ρ * (1 - cos θ)) ^ 2 * (ρ * sin θ) / 3 = π * ρ ^ 3 * coneGap θ := by
    unfold coneGap; ring
  have hcyl' : π * (ρ * (1 - cos θ)) ^ 2 * (ρ * sin θ) -
      π * (ρ * sin θ * ρ ^ 2 - (ρ * sin θ) ^ 3 / 3 - (ρ - ρ * (1 - cos θ)) * ρ ^ 2 * θ) =
      π * ρ ^ 3 * cylinderGap θ := by
    unfold cylinderGap; ring
  constructor
  · linarith [mul_nonneg hscale hcone]
  · linarith [mul_nonneg hscale hcyl]

/-- An ogive shorter than its radius: `L = ρ sin θ` and `r = ρ (1 + cos θ)`. -/
theorem shortOgive_between {ρ θ r L : ℝ} (hρ : 0 < ρ) (h₀ : 0 ≤ θ) (h₁ : θ ≤ π / 2)
    (hL : L = ρ * sin θ) (hr : r = ρ * (1 + cos θ)) :
    π * r ^ 2 * L / 3 ≤ π * (L * ρ ^ 2 - L ^ 3 / 3 - (ρ - r) * ρ ^ 2 * θ) ∧
      π * (L * ρ ^ 2 - L ^ 3 / 3 - (ρ - r) * ρ ^ 2 * θ) ≤ π * r ^ 2 * L := by
  have hc : 0 ≤ cos θ := cos_nonneg_of_mem_Icc ⟨by linarith [pi_pos], h₁⟩
  have hs : 0 ≤ sin θ := sin_nonneg_of_nonneg_of_le_pi h₀ (by linarith [pi_pos])
  have hsθ : sin θ ≤ θ := sin_le h₀
  have hchord := mul_sin_le_two_mul_one_sub_cos h₀ h₁
  have hpyth := sin_sq_add_cos_sq θ
  have hscale : 0 ≤ π * ρ ^ 3 := by positivity
  -- over `π ρ³` the volume is `s - s³/3 + θ c` and the cylinder `(1 + c)² s`
  have hlow : (1 + cos θ) ^ 2 * sin θ / 3 ≤ sin θ - sin θ ^ 3 / 3 + θ * cos θ := by
    nlinarith [mul_le_mul_of_nonneg_left hsθ hc]
  have hhigh : sin θ - sin θ ^ 3 / 3 + θ * cos θ ≤ (1 + cos θ) ^ 2 * sin θ := by
    rcases h₀.eq_or_lt with rfl | hθ
    · simp
    · have hpos : 0 < sin θ := sin_pos_of_pos_of_lt_pi hθ (by linarith [pi_pos])
      -- times `s`, the gap is `(1 - c)(1 + c + 8c² + 2c³)/3` less the chord bound's slack
      have hslack := mul_le_mul_of_nonneg_left hchord hc
      have hfactor : 0 ≤ (1 - cos θ) * (1 + cos θ + 8 * cos θ ^ 2 + 2 * cos θ ^ 3) := by
        have : cos θ ≤ 1 := cos_le_one θ
        positivity
      refine le_of_mul_le_mul_left ?_ hpos
      nlinarith
  subst hL hr
  have hvol : π * (ρ * sin θ * ρ ^ 2 - (ρ * sin θ) ^ 3 / 3 - (ρ - ρ * (1 + cos θ)) * ρ ^ 2 * θ) =
      π * ρ ^ 3 * (sin θ - sin θ ^ 3 / 3 + θ * cos θ) := by ring
  have hcone : π * (ρ * (1 + cos θ)) ^ 2 * (ρ * sin θ) / 3 =
      π * ρ ^ 3 * ((1 + cos θ) ^ 2 * sin θ / 3) := by ring
  have hcyl : π * (ρ * (1 + cos θ)) ^ 2 * (ρ * sin θ) =
      π * ρ ^ 3 * ((1 + cos θ) ^ 2 * sin θ) := by ring
  rw [hvol, hcone, hcyl]
  exact ⟨mul_le_mul_of_nonneg_left hlow hscale, mul_le_mul_of_nonneg_left hhigh hscale⟩

/-- The arc of a tangent ogive: its angle's sine is `L / ρ` and its cosine `|ρ - r| / ρ`. -/
theorem ogive_arc {r L : ℝ} (hr : 0 < r) (hL : 0 < L) :
    let ρ := (r ^ 2 + L ^ 2) / (2 * r)
    0 < ρ ∧ 0 ≤ L / ρ ∧ L / ρ ≤ 1 ∧ sin (arcsin (L / ρ)) = L / ρ ∧
      cos (arcsin (L / ρ)) = |ρ - r| / ρ := by
  intro ρ
  have hρ : 0 < ρ := by positivity
  have hρL : L ≤ ρ := by
    rw [le_div_iff₀ (by positivity)]
    nlinarith [sq_nonneg (r - L)]
  have hx₁ : L / ρ ≤ 1 := (div_le_one hρ).mpr hρL
  have hx₀ : 0 ≤ L / ρ := by positivity
  -- `ρ² - L² = (ρ - r)²`, since `2 r ρ = r² + L²`
  have hsq : 1 - (L / ρ) ^ 2 = ((ρ - r) / ρ) ^ 2 := by
    have h2 : 2 * r * ρ = r ^ 2 + L ^ 2 := by
      simp only [ρ]; field_simp
    field_simp
    nlinarith
  refine ⟨hρ, hx₀, hx₁, sin_arcsin (by linarith) hx₁, ?_⟩
  rw [cos_arcsin, hsq, sqrt_sq_eq_abs, abs_div, abs_of_pos hρ]

/-- A tangent ogive's volume lies between the cone's and the cylinder's on its base. -/
theorem ogiveVolume_between {r L : ℝ} (hr : 0 < r) (hL : 0 < L) :
    π * r ^ 2 * L / 3 ≤ ogiveVolume r L ∧ ogiveVolume r L ≤ π * r ^ 2 * L := by
  obtain ⟨hρ, hx₀, hx₁, hsin, hcos⟩ := ogive_arc hr hL
  set ρ := (r ^ 2 + L ^ 2) / (2 * r) with hρdef
  set θ := arcsin (L / ρ)
  have hθ₀ : 0 ≤ θ := arcsin_nonneg.mpr hx₀
  have hθ₁ : θ ≤ π / 2 := arcsin_le_pi_div_two _
  have hLs : L = ρ * sin θ := by rw [hsin]; field_simp
  show _ ≤ π * (L * ρ ^ 2 - L ^ 3 / 3 - (ρ - r) * ρ ^ 2 * θ) ∧
    π * (L * ρ ^ 2 - L ^ 3 / 3 - (ρ - r) * ρ ^ 2 * θ) ≤ _
  rcases le_or_gt r ρ with hle | hlt
  · refine longOgive_between hρ hθ₀ hθ₁ hLs ?_
    rw [hcos, abs_of_nonneg (by linarith)]; field_simp; ring
  · refine shortOgive_between hρ hθ₀ hθ₁ hLs ?_
    rw [hcos, abs_of_neg (by linarith)]; field_simp; ring

/-! ## The nose cone's volume and centre of pressure -/

theorem ogiveRadius_eq {r l : ℝ} (hr : 0 < r) (hl : 0 < l) :
    ogiveRadius r l = pure ((r ^ 2 + l ^ 2) / (2 * r)) := by
  simp only [ogiveRadius, real_two_point, real_pow_two_eq hr, real_pow_two_eq hl, pure_bind]
  exact Motor.real_div_eq _ (by positivity)

/-- The tangent ogive's branch computes `ogiveVolume` of its base radius and length. -/
theorem volumeOf_tangentOgive {d ar : ℝ} (hd : 0 < d) (har : 0 < ar) (len : ℝ) :
    volumeOf (.str "tangentOgive") d ar len = pure (ogiveVolume (d / 2) (d * ar)) := by
  have hr : 0 < d / 2 := by positivity
  have hl : 0 < d * ar := by positivity
  obtain ⟨hρ, hx₀, hx₁, -, -⟩ := ogive_arc hr hl
  simp only [volumeOf, real_two_point, real_three_point, ogiveRadius_eq hr hl, pure_bind,
    Motor.real_div_eq _ hρ.ne', real_asin_eq (by linarith) hx₁, real_pow_two_eq hρ,
    real_pow_three_eq hl, real_pi]
  rfl

/-- The cone's branch squares the diameter: four times the cone's volume `π r² L / 3`. -/
theorem volumeOf_cone {d : ℝ} (hd : 0 < d) (ar len : ℝ) :
    volumeOf (.str "cone") d ar len = pure (4 * (π * (d / 2) ^ 2 * len / 3)) := by
  simp only [volumeOf, real_two_point, real_three_point, real_pow_two_eq hd, pure_bind, real_pi]
  congr 1
  ring

/-- The base area is `π r²`, and the centre of pressure lies on the axis at depth
`L - V / (π r²)` below the tip. -/
theorem pressureCentre_eq {d : ℝ} (hd : 0 < d) (ar volume : ℝ) :
    pressureCentre d ar volume =
      pure (π * (d / 2) ^ 2, ⟨0, 0, -(d * ar - volume / (π * (d / 2) ^ 2))⟩) := by
  have hA : 0 < π * (d / 2) ^ 2 := by positivity
  have harea : d ^ 2 * π / 4 = π * (d / 2) ^ 2 := by ring
  simp only [pressureCentre, real_two_point, real_four_point, real_zero_point, real_pow_two_eq hd,
    pure_bind, real_pi, harea, Aero.barrowmanCP, real_beq, hA.ne, decide_false,
    Bool.false_eq_true, if_false, sub_zero, Motor.real_div_eq _ hA.ne']
  rw [zero_sub, sub_div, mul_div_cancel_right₀ _ hA.ne']

/-- A nose cone of base diameter `d > 0` and aspect ratio `ar > 0`, of base radius `d / 2` and
length `L = d · ar`.  A tangent ogive's volume lies between the cone's `π r² L / 3` and the
cylinder's `π r² L`, and its centre of pressure on the axis between the tip and the base.  The
cone branch computes four times the cone's volume, which puts the centre of pressure `L / 3` in
front of the tip. -/
theorem noseCone_pressureCentre (d ar : ℝ) (hd : 0 < d) (har : 0 < ar) :
    (∃ V z, volumeOf (.str "tangentOgive") d ar (d * ar) = pure V ∧
      pressureCentre d ar V = pure (π * (d / 2) ^ 2, ⟨0, 0, z⟩) ∧
      π * (d / 2) ^ 2 * (d * ar) / 3 ≤ V ∧ V ≤ π * (d / 2) ^ 2 * (d * ar) ∧
      -(d * ar) ≤ z ∧ z ≤ 0) ∧
    (volumeOf (.str "cone") d ar (d * ar) = pure (4 * (π * (d / 2) ^ 2 * (d * ar) / 3)) ∧
      pressureCentre d ar (4 * (π * (d / 2) ^ 2 * (d * ar) / 3)) =
        pure (π * (d / 2) ^ 2, ⟨0, 0, d * ar / 3⟩)) := by
  have hA : 0 < π * (d / 2) ^ 2 := by positivity
  have hL : 0 < d * ar := by positivity
  obtain ⟨hlow, hhigh⟩ := ogiveVolume_between (r := d / 2) (by positivity) hL
  refine ⟨⟨_, _, volumeOf_tangentOgive hd har _, pressureCentre_eq hd ar _, hlow, hhigh, ?_, ?_⟩,
    volumeOf_cone hd ar _, ?_⟩
  · -- the depth `L - V / A` is at most `L`, as `V ≥ 0`
    have : 0 ≤ ogiveVolume (d / 2) (d * ar) / (π * (d / 2) ^ 2) :=
      div_nonneg (by linarith [mul_pos hA hL]) hA.le
    linarith
  · -- and at least `0`, as `V ≤ A L`
    have : ogiveVolume (d / 2) (d * ar) / (π * (d / 2) ^ 2) ≤ d * ar := by
      rw [div_le_iff₀ hA]; linarith
    linarith
  · -- four cone volumes over the base area are four thirds of the length
    have hdepth : 4 * (π * (d / 2) ^ 2 * (d * ar) / 3) / (π * (d / 2) ^ 2) = 4 * (d * ar) / 3 := by
      rw [div_eq_iff hA.ne']; ring
    rw [pressureCentre_eq hd, hdepth]
    congr 3
    ring

theorem noseCone_pressureCentre_unitDiameter :
    (0 : ℝ) < 1 ∧ (0 : ℝ) < 5 ∧
    ((∃ V z, volumeOf (.str "tangentOgive") (1 : ℝ) 5 (1 * 5) = pure V ∧
      pressureCentre (1 : ℝ) 5 V = pure (π * (1 / 2) ^ 2, ⟨0, 0, z⟩) ∧
      π * (1 / 2) ^ 2 * (1 * 5) / 3 ≤ V ∧ V ≤ π * (1 / 2) ^ 2 * (1 * 5) ∧
      -(1 * 5) ≤ z ∧ z ≤ 0) ∧
    (volumeOf (.str "cone") (1 : ℝ) 5 (1 * 5) = pure (4 * (π * (1 / 2) ^ 2 * (1 * 5) / 3)) ∧
      pressureCentre (1 : ℝ) 5 (4 * (π * (1 / 2) ^ 2 * (1 * 5) / 3)) =
        pure (π * (1 / 2) ^ 2, ⟨0, 0, 1 * 5 / 3⟩))) :=
  ⟨one_pos, by norm_num, noseCone_pressureCentre 1 5 one_pos (by norm_num)⟩


end NoseCone
end Vehicle
end RocketSim
