import Mathlib
import RocketSim.Aero.FinSlices
import RocketSim.Proofs.MotorAdjustment
import RocketSim.Proofs.RotationAngles

/-!
# Fin slicing in exact arithmetic

A fin of span `b` is cut into `n` slices of width `b/n`, each described at its middle
`(i + 1/2)·b/n` from the root: its area is its width times the chord there.  The chord of a
trapezoidal fin is affine in the spanwise distance, and the midpoint rule integrates an affine
function exactly (`sum_affine_midpoints`), so the slice areas add up to the planform area
`b·(c_r + c_t)/2` for every number of slices (`sliceTables_areas_sum`).

The subsonic normal force is a fold of one step per slice.  When every slice meets the air at
one angle `a` (without roll no slice moves, so every slice does, `sliceAngleOfAttackWith_noRoll`)
the fold sums `CNα·a·area` (`foldlM_subsonicSliceLoad`), and the force is `CNα·a` times the total
area (`subsonicNormalForceWith_uniform`).

The main statement is `finSlices_integratePlanform`.
-/

open Real

namespace RocketSim
namespace Aero
namespace FinSlices

@[simp] theorem real_ofScientific_nat (i : ℕ) : (OfScientific.ofScientific i false 0 : ℝ) = i := by
  rw [NNRatCast.ofScientific_eq_ite]
  simp

theorem sliceWidth_real (span : ℝ) {n : ℕ} (hn : 0 < n) : sliceWidth span n = pure (span / n) := by
  have hcast : (intAsScalar (n : ℤ) : ℝ) = n := real_ofScientific_nat n
  rw [sliceWidth, hcast]
  exact Vehicle.Motor.real_div_eq span (Nat.cast_ne_zero.2 hn.ne')

/-- The midpoint rule integrates an affine function exactly: over `[0, n]`, its values at the
middles `i + 1/2` add up to its integral `a·n²/2 + b·n`. -/
theorem sum_affine_midpoints (a b : ℝ) (n : ℕ) :
    ((List.range n).map fun i : ℕ => a * ((i : ℝ) + 1 / 2) + b).sum = a * n ^ 2 / 2 + b * n := by
  induction n with
  | zero => simp
  | succ n ih =>
    rw [List.range_succ, List.map_append, List.sum_append, ih]
    simp only [List.map_cons, List.map_nil, List.sum_cons, List.sum_nil, Nat.cast_succ]
    ring

/-! ## The slice tables -/

section Tables

variable (root tip span bodyRadius leadingSlope stallAngle step : ℝ) (n : ℕ)

theorem midpoint_real (i : ℕ) :
    (OfScientific.ofScientific i false 0 : ℝ) * step + step * 0.5 = (i + 1 / 2) * step := by
  have half : (0.5 : ℝ) = 1 / 2 := by norm_num
  rw [real_ofScientific_nat, half]
  ring

theorem sliceTables_radii :
    (sliceTables root tip span bodyRadius leadingSlope stallAngle step n).radii =
      (List.range n).map fun i : ℕ => bodyRadius + (i + 1 / 2) * step := by
  simp only [sliceTables, List.map_map]
  refine List.map_congr_left fun i _ => ?_
  simp only [Function.comp_apply, midpoint_real]
  ring

theorem sliceTables_chords :
    (sliceTables root tip span bodyRadius leadingSlope stallAngle step n).chords =
      (List.range n).map fun i : ℕ => chordAt root tip span ((i + 1 / 2) * step) := by
  simp only [sliceTables, List.map_map]
  exact List.map_congr_left fun i _ => by simp only [Function.comp_apply, midpoint_real]

theorem sliceTables_areas :
    (sliceTables root tip span bodyRadius leadingSlope stallAngle step n).areas =
      (List.range n).map fun i : ℕ => step * chordAt root tip span ((i + 1 / 2) * step) := by
  simp only [sliceTables, List.map_map]
  exact List.map_congr_left fun i _ => by simp only [Function.comp_apply, midpoint_real]

/-- Slices of equal width add up to the planform area: the chord is affine in the spanwise
distance, and the slices are described at their middles. -/
theorem sliceTables_areas_sum (hspan : span ≠ 0) (hn : n ≠ 0) :
    (sliceTables root tip span bodyRadius leadingSlope stallAngle (span / n) n).areas.sum =
      planformArea span root tip := by
  have hn' : (n : ℝ) ≠ 0 := Nat.cast_ne_zero.2 hn
  -- the area of slice `i` is affine in its middle `i + 1/2`
  have haffine (i : ℕ) : span / n * chordAt root tip span ((i + 1 / 2) * (span / n)) =
      span * (tip - root) / n ^ 2 * ((i : ℝ) + 1 / 2) + span * root / n := by
    simp only [chordAt]
    field_simp
  rw [sliceTables_areas, List.map_congr_left fun i _ => haffine i, sum_affine_midpoints]
  simp only [planformArea, real_two_point]
  field_simp
  ring

end Tables

/-! ## The subsonic normal force -/

section Loads

variable (asin : ℝ → ℝ) (airVel tangential normal : Vec3 ℝ) (cp cnAlpha stallAngle a : ℝ)

theorem subsonicSliceLoad_of_angle {acc s : ℝ × ℝ}
    (h : sliceAngleOfAttackWith asin s.2 airVel tangential normal stallAngle = pure a) :
    subsonicSliceLoad asin airVel tangential normal cp cnAlpha stallAngle acc s =
      pure (acc.1 + cnAlpha * a * s.1, acc.2 + cnAlpha * a * s.1 * (cp - s.2)) := by
  rw [subsonicSliceLoad, h]
  rfl

/-- When every slice meets the air at the angle `a`, the fold of the slice loads adds `CNα·a`
times the total area to the force and each slice's load times its arm to the moment. -/
theorem foldlM_subsonicSliceLoad (slices : List (ℝ × ℝ)) (acc : ℝ × ℝ)
    (h : ∀ s ∈ slices, sliceAngleOfAttackWith asin s.2 airVel tangential normal stallAngle =
      pure a) :
    slices.foldlM (subsonicSliceLoad asin airVel tangential normal cp cnAlpha stallAngle) acc =
      pure (acc.1 + cnAlpha * a * (slices.map Prod.fst).sum,
        acc.2 + (slices.map fun s => cnAlpha * a * s.1 * (cp - s.2)).sum) := by
  induction slices generalizing acc with
  | nil => simp
  | cons s slices ih =>
    rw [List.foldlM_cons, subsonicSliceLoad_of_angle asin airVel tangential normal cp cnAlpha
      stallAngle a (h s List.mem_cons_self), pure_bind,
      ih _ fun s' hs' => h s' (List.mem_cons_of_mem s hs')]
    simp only [List.map_cons, List.sum_cons]
    congr 1
    refine Prod.ext ?_ ?_ <;> dsimp only <;> ring

/-- The subsonic normal force of a fin whose slices all meet the air at the angle `a` is `CNα·a`
times the total area of its slices. -/
theorem subsonicNormalForceWith_uniform (fin : FinGeometry ℝ)
    (hlen : fin.areas.length = fin.radii.length)
    (h : ∀ r ∈ fin.radii, sliceAngleOfAttackWith asin r airVel tangential normal fin.stallAngle =
      pure a) :
    subsonicNormalForceWith asin airVel tangential normal cp cnAlpha fin =
      pure (cnAlpha * a * fin.areas.sum,
        ((fin.areas.zip fin.radii).map fun s => cnAlpha * a * s.1 * (cp - s.2)).sum) := by
  have hzip : ∀ s ∈ fin.areas.zip fin.radii,
      sliceAngleOfAttackWith asin s.2 airVel tangential normal fin.stallAngle = pure a :=
    fun s hs => h s.2 (List.of_mem_zip hs).2
  rw [subsonicNormalForceWith, foldlM_subsonicSliceLoad asin airVel tangential normal cp cnAlpha
    fin.stallAngle a _ _ hzip, List.map_fst_zip hlen.le]
  simp

/-- Without roll no slice moves: every slice meets the air at the same angle. -/
theorem sliceAngleOfAttackWith_noRoll (r r' : ℝ) :
    sliceAngleOfAttackWith asin r airVel ⟨0, 0, 0⟩ normal stallAngle =
      sliceAngleOfAttackWith asin r' airVel ⟨0, 0, 0⟩ normal stallAngle := by
  simp only [sliceAngleOfAttackWith, Vec3.zero_scale]

end Loads

/-- **Slicing a fin integrates its planform exactly.**  A fin of positive span cut into `n ≥ 1`
slices has slices of width `span/n`; slice `i` lies `(i + 1/2)·span/n` out from the body and has
the chord there; the slice areas add up to the planform area `span·(root + tip)/2`; and without
roll, where every slice meets the air at the angle `a` of the root, the subsonic normal force is
`CNα·a` times the planform area. -/
theorem finSlices_integratePlanform (span root tip bodyRadius leadingSlope stallAngle : ℝ)
    {n : ℕ} (hspan : 0 < span) (hn : 0 < n) :
    sliceWidth span n = pure (span / n) ∧
    let fin := sliceTables root tip span bodyRadius leadingSlope stallAngle (span / n) n
    fin.areas.sum = planformArea span root tip ∧
    fin.radii = (List.range n).map (fun i : ℕ => bodyRadius + (i + 1 / 2) * (span / n)) ∧
    fin.chords = (List.range n).map (fun i : ℕ => chordAt root tip span ((i + 1 / 2) * (span / n))) ∧
    ∀ (asin : ℝ → ℝ) (airVel normal : Vec3 ℝ) (cp cnAlpha a : ℝ),
      sliceAngleOfAttackWith asin bodyRadius airVel ⟨0, 0, 0⟩ normal stallAngle = pure a →
      ∃ moment, subsonicNormalForceWith asin airVel ⟨0, 0, 0⟩ normal cp cnAlpha fin =
        pure (cnAlpha * a * planformArea span root tip, moment) := by
  have hsum := sliceTables_areas_sum root tip span bodyRadius leadingSlope stallAngle n
    hspan.ne' hn.ne'
  refine ⟨sliceWidth_real span hn, hsum, sliceTables_radii .., sliceTables_chords .., ?_⟩
  intro asin airVel normal cp cnAlpha a ha
  have hlen : (sliceTables root tip span bodyRadius leadingSlope stallAngle (span / n) n).areas.length =
      (sliceTables root tip span bodyRadius leadingSlope stallAngle (span / n) n).radii.length := by
    simp [sliceTables]
  -- every slice sees the angle of the root
  have hall : ∀ r ∈ (sliceTables root tip span bodyRadius leadingSlope stallAngle (span / n) n).radii,
      sliceAngleOfAttackWith asin r airVel ⟨0, 0, 0⟩ normal stallAngle = pure a :=
    fun r _ => (sliceAngleOfAttackWith_noRoll asin airVel normal stallAngle r bodyRadius).trans ha
  rw [subsonicNormalForceWith_uniform asin airVel _ normal cp cnAlpha a _ hlen hall, hsum]
  exact ⟨_, rfl⟩

/-- A fin of span `1 m` with chords `1 m` and `0.5 m`, cut into two slices, in an air flow of
`5 m/s` at `arcsin (3/5)` to its plane. -/
theorem finSlices_integratePlanform_twoSlices :
    (0 : ℝ) < 1 ∧ 0 < 2 ∧
      sliceAngleOfAttackWith arcsin (1 / 10) ⟨3, 4, 0⟩ ⟨0, 0, 0⟩ ⟨1, 0, 0⟩ (π / 2) =
        pure (arcsin (3 / 5)) ∧
      ∃ moment, subsonicNormalForceWith arcsin ⟨3, 4, 0⟩ ⟨0, 0, 0⟩ ⟨1, 0, 0⟩ (1 / 2) 2
          (sliceTables 1 (1 / 2) 1 (1 / 10) 0 (π / 2) (1 / 2) 2) =
        pure (2 * arcsin (3 / 5) * planformArea (1 : ℝ) 1 (1 / 2), moment) := by
  have hspeed : Vec3.length (⟨3, 4, 0⟩ : Vec3 ℝ) = 5 := by
    have hsq : (3 : ℝ) * 3 + 4 * 4 + 0 * 0 = 5 ^ 2 := by norm_num
    simp only [Vec3.length, real_sqrt, hsq]
    exact Real.sqrt_sq (by norm_num)
  have hangle : sliceAngleOfAttackWith arcsin (1 / 10) ⟨3, 4, 0⟩ ⟨0, 0, 0⟩ ⟨1, 0, 0⟩ (π / 2) =
      pure (arcsin (3 / 5)) := by
    have hadd : Vec3.add (⟨3, 4, 0⟩ : Vec3 ℝ) ⟨0, 0, 0⟩ = ⟨3, 4, 0⟩ := by simp [Vec3.add]
    have hbound : ¬ π / 2 < |arcsin (3 / 5)| :=
      not_lt.2 (abs_le.2 ⟨neg_pi_div_two_le_arcsin _, arcsin_le_pi_div_two _⟩)
    simp only [sliceAngleOfAttackWith, Vec3.zero_scale, hadd, hspeed, Vec3.dot]
    norm_num [hbound]
  have hmain := finSlices_integratePlanform 1 1 (1 / 2) (1 / 10) 0 (π / 2) one_pos
    (two_pos : 0 < 2)
  simp only [Nat.cast_ofNat] at hmain
  exact ⟨one_pos, two_pos, hangle, hmain.2.2.2.2 arcsin ⟨3, 4, 0⟩ ⟨1, 0, 0⟩ (1 / 2) 2 _ hangle⟩

end FinSlices
end Aero
end RocketSim
