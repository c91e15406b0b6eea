import Mathlib
import RocketSim.Proofs.QuaternionRotations
import RocketSim.Logs.Flight

/-!
# The landing point in exact arithmetic

A flight's landing point comes from its last two positions `p` and `q`.  With `dz = q.z - p.z`
the last change of altitude, the last position is the answer when `q.z ≤ 2·dz`, that is when
`2·p.z ≤ q.z`; otherwise the line through the two positions is followed to altitude zero, along
the slopes `dx/dz` and `dy/dz`.  So a flight that ends above the ground while descending, or
while climbing by less than its altitude, is extrapolated to the ground as well, and one whose
last segment is level above the ground divides by zero.

Over the reals, with a division by zero a fault as in the simulator:

* `landingFrom_exact`: the landing point, case by case.
* `onGroundLine_slopes`, `OnGroundLine.unique`: the extrapolated point is the one point of
  the line through `p` and `q` at altitude zero, when the line is not level.
* `landingPoint_extrapolatesBelowTwiceLastStep`: the three cases, and the descent through the
  ground as an instance of the second.
-/

namespace RocketSim
namespace FlightRecord

/-- Exact arithmetic for the landing point: positions are real vectors read by coordinate
name, and a division by zero is a fault, as in the simulator. -/
noncomputable def exactLandingOps : LandingOps Outcome (Vec3 ℝ) ℝ where
  coord p name := match name with
    | "X" => pure p.x
    | "Y" => pure p.y
    | "Z" => pure p.z
    | _ => throw Fault.noAttribute
  sub a b := pure (a - b)
  mul a b := pure (a * b)
  div a b := if b = 0 then throw Fault.zeroDivision else pure (a / b)
  add a b := pure (a + b)
  neg a := pure (-a)
  gt a b := pure (decide (b < a))
  int n := n
  ground x y := pure ⟨x, y, 0⟩

/-- `r` is where the line through `p` and `q` meets the ground: a point of the line at altitude
zero. -/
def OnGroundLine (p q r : Vec3 ℝ) : Prop :=
  r.z = 0 ∧ ∃ t : ℝ, r.x = q.x + t * (q.x - p.x) ∧ r.y = q.y + t * (q.y - p.y) ∧
    r.z = q.z + t * (q.z - p.z)

/-- The point the slopes `dx/dz` and `dy/dz` lead to from `q` on the way down by `q.z`. -/
noncomputable def slopePoint (p q : Vec3 ℝ) : Vec3 ℝ :=
  ⟨q.x + (q.x - p.x) / (q.z - p.z) * -q.z, q.y + (q.y - p.y) / (q.z - p.z) * -q.z, 0⟩

/-- The landing point over the reals: the last position unless its altitude is below twice the
last change; then a fault for a level segment, and the slope point otherwise. -/
theorem landingFrom_exact (p q : Vec3 ℝ) :
    landingFrom exactLandingOps p q =
      if (q.z - p.z) * 2 < q.z then
        if q.z - p.z = 0 then throw Fault.zeroDivision else pure (slopePoint p q)
      else pure q := by
  have two : ((2 : ℤ) : ℝ) = 2 := by norm_num
  by_cases hgt : (q.z - p.z) * 2 < q.z
  · have hc : decide ((q.z - p.z) * ((2 : ℤ) : ℝ) < q.z) = true := by
      rw [two]; exact decide_eq_true hgt
    simp only [landingFrom, exactLandingOps, pure_bind, hc, if_true, if_pos hgt]
    by_cases hz : q.z - p.z = 0
    · simp only [if_pos hz]
      rfl
    · simp only [if_neg hz, pure_bind, slopePoint]
  · simp [landingFrom, exactLandingOps, hgt]

/-- Off a level segment, the slope point lies on the line at altitude zero: it is reached from
`q` by `-q.z / dz` times the last step. -/
theorem onGroundLine_slopes {p q : Vec3 ℝ} (hz : q.z - p.z ≠ 0) :
    OnGroundLine p q (slopePoint p q) := by
  refine ⟨rfl, -q.z / (q.z - p.z), ?_, ?_, ?_⟩
  · simp only [slopePoint]; ring
  · simp only [slopePoint]; ring
  · simp only [slopePoint]; field_simp; ring

/-- A line that is not level meets the ground once. -/
theorem OnGroundLine.unique {p q r r' : Vec3 ℝ} (hz : q.z - p.z ≠ 0) (hr : OnGroundLine p q r)
    (hr' : OnGroundLine p q r') : r = r' := by
  obtain ⟨hr0, t, hx, hy, hzr⟩ := hr
  obtain ⟨hr0', t', hx', hy', hzr'⟩ := hr'
  -- both parameters solve `q.z + t·dz = 0`
  have ht : t = t' := mul_right_cancel₀ hz (by linarith)
  cases r
  cases r'
  simp_all

/-- **The landing point extrapolates below twice the last step.**  A flight whose last altitude
is at least twice the one before ends at its last position.  Otherwise its landing point is the
one point where the line through the last two positions meets the ground, also when the flight
ended above it, unless the last segment is level, when the slope divides by zero.  A descent
through the ground is such a case. -/
theorem landingPoint_extrapolatesBelowTwiceLastStep (p q : Vec3 ℝ) :
    (2 * p.z ≤ q.z → landingFrom exactLandingOps p q = pure q) ∧
    (q.z < 2 * p.z → q.z ≠ p.z → ∃ r, landingFrom exactLandingOps p q = pure r ∧
      OnGroundLine p q r ∧ ∀ r', OnGroundLine p q r' → r' = r) ∧
    (q.z < 2 * p.z → q.z = p.z → landingFrom exactLandingOps p q = throw Fault.zeroDivision) ∧
    (0 < p.z → q.z ≤ 0 → ∃ r, landingFrom exactLandingOps p q = pure r ∧ OnGroundLine p q r) := by
  have crossing : q.z < 2 * p.z → q.z ≠ p.z → ∃ r, landingFrom exactLandingOps p q = pure r ∧
      OnGroundLine p q r ∧ ∀ r', OnGroundLine p q r' → r' = r := by
    intro hlt hne
    have hz : q.z - p.z ≠ 0 := sub_ne_zero.2 hne
    refine ⟨slopePoint p q, ?_, onGroundLine_slopes hz,
      fun r' hr' => hr'.unique hz (onGroundLine_slopes hz)⟩
    rw [landingFrom_exact, if_pos (by linarith), if_neg hz]
  refine ⟨fun hle => ?_, crossing, fun hlt heq => ?_, fun hp hq => ?_⟩
  · rw [landingFrom_exact, if_neg (by linarith)]
  · rw [landingFrom_exact, if_pos (by linarith), if_pos (sub_eq_zero.2 heq)]
  · obtain ⟨r, hr, hline, -⟩ := crossing (by linarith) (by linarith)
    exact ⟨r, hr, hline⟩

/-- A flight that ends half a metre above the ground, coming down from ten metres, lands where
its last step points, not where it ended. -/
theorem landingPoint_extrapolatesBelowTwiceLastStep_aboveGround :
    ((1 / 2 : ℝ) < 2 * 10 ∧ (1 / 2 : ℝ) ≠ 10) ∧
      ∃ r, landingFrom exactLandingOps ⟨0, 0, 10⟩ ⟨5, 5, 1 / 2⟩ = pure r ∧
        OnGroundLine ⟨0, 0, 10⟩ ⟨5, 5, 1 / 2⟩ r := by
  have hlt : (1 / 2 : ℝ) < 2 * 10 := by norm_num
  have hne : (1 / 2 : ℝ) ≠ 10 := by norm_num
  obtain ⟨r, hr, hline, -⟩ :=
    (landingPoint_extrapolatesBelowTwiceLastStep ⟨0, 0, 10⟩ ⟨5, 5, 1 / 2⟩).2.1 hlt hne
  exact ⟨⟨hlt, hne⟩, r, hr, hline⟩

end FlightRecord
end RocketSim
