import Mathlib
import RocketSim.Proofs.RailForce
import RocketSim.Proofs.SurfaceFrames

/-!
# The two tests of being on a launch rail

A launch rail decides twice whether a vehicle is still on it.  The force model
(`LaunchRail.constrainForce`) keeps the vehicle on the rail while its *distance* `|p - b|`
from the rail's bottom `b` is below the rail's length; the motion constraint
(`LaunchRail.constrainMotion`) keeps it there while its *travel* `(p - b) · d` along the rail's
direction `d` is.  Both read the same bottom and direction: the rail's initial ones turned
with the earth.

In exact arithmetic the turned direction stays a unit vector, so by Cauchy–Schwarz the travel
never exceeds the distance: whenever the force model holds a vehicle on the rail, so does the
constraint.  The converse fails on every rail, for the vehicles whose travel is below the
length and whose distance is not: below the bottom, or beside the rail.

**Results.**
* `computes_constrainForce_test`, `computes_constrainMotion_test`: what each test compares.
* `dot_le_length`, `length_turned`: the travel along a turned rail is at most the distance;
  `below_bottom`: below the bottom it is the negated distance.
* `railTests_disagree`: the tests, the implication between them, and vehicles below the
  bottom, on which they disagree.
-/

open Real

namespace RocketSim
namespace LaunchRail

open Sim

/-! ## What the tests compare -/

theorem attr_position (p v o w : Value) : Ops.attr (.state p v o w) "position" = pure p := rfl

theorem sub_vec (p b : Vec3) : Ops.sub (.vec p) (.vec b) = pure (.vec (p.sub b)) := rfl

theorem mul_vec (o d : Vec3) : Ops.mul (.vec o) (.vec d) = pure (.float (o.dot d)) := rfl

theorem call_length (o : Vec3) : call (.vec o) "length" [] = pure (.float o.length) := rfl

/-- The rail's bottom at any time is a vector. -/
theorem computes_position_vec (r : LaunchRail) (time : Value) :
    Computes (r.position time) fun v => ∃ b, v = .vec b := by
  unfold position
  refine (computes_rotationAt r time).bind fun _ ⟨q, hq⟩ => ?_
  subst hq
  exact computes_rotate q _

theorem computes_le (a b : Value) : Computes (Ops.le a b) fun _ => True := by
  unfold Ops.le
  split
  · exact (computes_pure _).mono fun _ _ => trivial
  · exact (computes_lift _).mono fun _ _ => trivial

theorem computes_velocity (r : LaunchRail) (time : Value) :
    Computes (r.velocity time) fun _ => True := by
  unfold velocity
  exact (computes_position r time).bind fun _ _ => (computes_lift _).bind fun _ _ =>
    (computes_call _ _ _).mono fun _ _ => trivial

section Tests

variable (b0 n p : Vec3) (len rate time v o w : Value)

/-- The force model's test, read off a result `G` of the rail from `b0` along `n` for a vehicle
at `p` handed the force `F`: with the rail's bottom `b` at the time, `G` is `F` when the
distance `|p - b|` is not below the length `len`, and `F` projected along the rail when it
is. -/
def DistanceTest (F : Vec3) (l m G : Value) : Prop :=
  ∃ b, position ⟨.vec b0, .vec n, len, rate⟩ time = pure (.vec b) ∧
    ∃ t, Ops.lt (.float (p.sub b).length) len = pure t ∧
      (t = false → G = .forceMoment (.vec F) l m) ∧
      (t = true → ∃ d, direction ⟨.vec b0, .vec n, len, rate⟩ time = pure (.vec d) ∧
        G = .forceMoment (.vec (n.scale (F.dot d))) (.vec Vec3.zero) (.vec Vec3.zero))

/-- The motion constraint's test, read off its report `onRail` for the rail from `b0` along
`n` and a vehicle at `p`: with the rail's bottom `b` and direction `d` at the time, `onRail`
is whether the travel `(p - b) · d` is below the length `len`. -/
def TravelTest (onRail : Bool) : Prop :=
  ∃ b d, position ⟨.vec b0, .vec n, len, rate⟩ time = pure (.vec b) ∧
    direction ⟨.vec b0, .vec n, len, rate⟩ time = pure (.vec d) ∧
    Ops.lt (.float ((p.sub b).dot d)) len = pure onRail

/-- **The force model's test.**  The force handed to a rail is projected along it exactly when
the vehicle's distance from the rail's bottom is below the rail's length. -/
theorem computes_constrainForce_test (F : Vec3) (l m : Value) :
    Computes (constrainForce ⟨.vec b0, .vec n, len, rate⟩ (.state (.vec p) v o w) time
      (.forceMoment (.vec F) l m)) (DistanceTest b0 n p len rate time F l m) := by
  unfold constrainForce
  refine (computes_position_vec _ _).self.bind fun _ ⟨hpos, b, hb⟩ => ?_
  subst hb
  simp only [sub_vec, call_length, pure_bind]
  refine (computes_lt _ _).self.bind fun t ⟨ht, _⟩ => ?_
  split
  · -- on the rail: the force along the rail's direction, laid along its initial one
    rename_i hon
    refine (computes_lift _).bind fun _ hF => (computes_direction _ _).self.bind
      fun _ ⟨hdir, d, hd⟩ => ?_
    subst hd
    cases hF
    exact (computes_lift _).bind fun _ h1 => (computes_lift _).bind fun _ h2 =>
      (computes_pure _).mono fun G hG => by
        cases h1
        cases h2
        exact ⟨b, hpos, t, ht, fun hoff => absurd hon (by simp [hoff]), fun _ => ⟨d, hdir, hG⟩⟩
  · rename_i hoff
    exact (computes_pure _).mono fun G hG =>
      ⟨b, hpos, t, ht, fun _ => hG, fun hon => absurd hon hoff⟩

/-- **The motion constraint's test.**  The constraint reports a vehicle on the rail exactly
when its travel along the rail's direction, from the rail's bottom, is below the rail's
length. -/
theorem computes_constrainMotion_test :
    Computes (constrainMotion ⟨.vec b0, .vec n, len, rate⟩ (.state (.vec p) v o w) time)
      fun res => TravelTest b0 n p len rate time res.1 := by
  unfold constrainMotion
  refine (computes_position_vec _ _).self.bind fun _ ⟨hpos, b, hb⟩ => ?_
  refine (computes_direction _ _).self.bind fun _ ⟨hdir, d, hd⟩ => ?_
  subst hb hd
  simp only [attr_position, sub_vec, mul_vec, pure_bind]
  refine (computes_lt _ _).self.bind fun t ⟨ht, _⟩ => ?_
  split
  · rename_i hon
    refine Computes.mono (p := fun res => res.1 = true) ?_
      fun res h1 => ⟨b, d, hpos, hdir, by rw [h1, ← hon]; exact ht⟩
    -- below the length every branch of the hold at the bottom reports the vehicle on the rail,
    -- whatever it does to the state
    refine (computes_le _ _).bind fun _ _ => ?_
    split
    · refine (computes_lift _).bind fun _ _ => (computes_lift _).bind fun _ _ =>
        (computes_lift _).bind fun _ _ => (computes_lt _ _).bind fun _ _ => ?_
      split
      · exact (computes_velocity _ _).bind fun _ _ => (computes_lift _).bind fun _ _ =>
          (computes_pure _).mono fun _ h => h ▸ rfl
      · exact (computes_pure _).mono fun _ h => h ▸ rfl
    · exact (computes_pure _).mono fun _ h => h ▸ rfl
  · rename_i hoff
    exact (computes_pure _).mono fun res h => ⟨b, d, hpos, hdir, by
      rw [h, Bool.not_eq_true] at *
      rw [← hoff]
      exact ht⟩

end Tests

/-! ## The travel along a turned rail -/

/-- Cauchy–Schwarz: the travel along a unit direction is at most the distance. -/
theorem dot_le_length {o d : Vec3 ℝ} (hd : d.length = 1) : o.dot d ≤ o.length := by
  have hd2 : d.x * d.x + d.y * d.y + d.z * d.z = 1 := by
    rwa [Vec3.length, real_sqrt, Real.sqrt_eq_one] at hd
  -- Lagrange's identity: the squared lengths' product exceeds the squared dot product by the
  -- squared length of the cross product
  have lagrange : (o.x * o.x + o.y * o.y + o.z * o.z) * (d.x * d.x + d.y * d.y + d.z * d.z) -
      (o.dot d) ^ 2 = (o.x * d.y - o.y * d.x) ^ 2 + (o.y * d.z - o.z * d.y) ^ 2 +
        (o.z * d.x - o.x * d.z) ^ 2 := by
    simp only [Vec3.dot]
    ring
  rw [hd2, mul_one] at lagrange
  have hsq : (o.dot d) ^ 2 ≤ o.x * o.x + o.y * o.y + o.z * o.z := by
    nlinarith [sq_nonneg (o.x * d.y - o.y * d.x), sq_nonneg (o.y * d.z - o.z * d.y),
      sq_nonneg (o.z * d.x - o.x * d.z)]
  rw [Vec3.length, real_sqrt]
  exact (le_abs_self _).trans (Real.abs_le_sqrt hsq)

/-- As the earth turns a rail, its unit direction stays a unit vector. -/
theorem length_turned {q : Quat ℝ} (hq : q.norm ≠ 0) {n d : Vec3 ℝ} (hn : n.length = 1)
    (hd : Prod.fst <$> q.rotate n = .ok d) : d.length = 1 := by
  obtain ⟨w, hw, hlen⟩ := Quat.length_rotate hq n
  obtain rfl : d = w := Except.ok.inj (hd.symm.trans hw)
  rw [hlen, hn]

/-- A vehicle `k` below the bottom of a rail with unit direction `d` has travelled `-k` and is
`k` from the bottom. -/
theorem below_bottom {d : Vec3 ℝ} (hd : d.length = 1) (k : ℝ) (hk : 0 ≤ k) :
    (d.scale (-k)).dot d = -k ∧ (d.scale (-k)).length = k := by
  have hd2 : d.x * d.x + d.y * d.y + d.z * d.z = 1 := by
    rwa [Vec3.length, real_sqrt, Real.sqrt_eq_one] at hd
  refine ⟨?_, ?_⟩
  · simp only [Vec3.dot, Vec3.scale]
    linear_combination (-k) * hd2
  · rw [Vec3.length_scale, hd, one_mul, abs_neg, abs_of_nonneg hk]

/-- **The two tests of being on a launch rail.**  For a rail whose bottom and direction are
vectors and a rigid-body state at a vector position, the force model projects the force
exactly when the distance from the rail's bottom is below the rail's length, and the motion
constraint reports the vehicle on the rail exactly when its travel along the rail's direction
is.  In exact arithmetic, on a rail whose unit direction is turned by a rotation, the travel
is at most the distance, so the force model's test implies the constraint's; but a vehicle
`k ≥ L` below the bottom of a rail of length `L > 0` has travelled `-k < L` and is `k` from
the bottom: the constraint holds it on the rail, the force model does not. -/
theorem railTests_disagree (q : Quat ℝ) (axis d : Vec3 ℝ) :
    (∀ (b0 n p F : Vec3) (len rate time v o w l m : Value),
      Computes (constrainForce ⟨.vec b0, .vec n, len, rate⟩ (.state (.vec p) v o w) time
        (.forceMoment (.vec F) l m)) (DistanceTest b0 n p len rate time F l m) ∧
      Computes (constrainMotion ⟨.vec b0, .vec n, len, rate⟩ (.state (.vec p) v o w) time)
        fun res => TravelTest b0 n p len rate time res.1) ∧
    (q.norm ≠ 0 → axis.length = 1 → Prod.fst <$> q.rotate axis = .ok d →
      (∀ (o : Vec3 ℝ) (L : ℝ), o.length < L → o.dot d < L) ∧
      ∀ L k : ℝ, 0 < L → L ≤ k → (d.scale (-k)).dot d < L ∧ L ≤ (d.scale (-k)).length) := by
  refine ⟨fun b0 n p F len rate time v o w l m =>
    ⟨computes_constrainForce_test b0 n p len rate time v o w F l m,
      computes_constrainMotion_test b0 n p len rate time v o w⟩, ?_⟩
  intro hq hn hd
  have hunit := length_turned hq hn hd
  refine ⟨fun o L hL => (dot_le_length hunit).trans_lt hL, fun L k hL hk => ?_⟩
  obtain ⟨htravel, hdist⟩ := below_bottom hunit k (hL.le.trans hk)
  rw [htravel, hdist]
  exact ⟨by linarith, hk⟩

/-- The rail of the two tests' disagreement: vertical, five long, unturned, and a vehicle ten
below its bottom, which has travelled `-10` but is `10` from the bottom. -/
theorem railTests_disagree_tenBelow :
    ((⟨1, 0, 0, 0⟩ : Quat ℝ).norm ≠ 0 ∧ (⟨0, 0, 1⟩ : Vec3 ℝ).length = 1 ∧
      Prod.fst <$> (⟨1, 0, 0, 0⟩ : Quat ℝ).rotate ⟨0, 0, 1⟩ = .ok ⟨0, 0, 1⟩) ∧
    ((⟨0, 0, 1⟩ : Vec3 ℝ).scale (-10)).dot ⟨0, 0, 1⟩ < 5 ∧
      5 ≤ ((⟨0, 0, 1⟩ : Vec3 ℝ).scale (-10)).length := by
  have hq : (⟨1, 0, 0, 0⟩ : Quat ℝ).norm = 1 := by simp [Quat.norm]
  have hn : (⟨0, 0, 1⟩ : Vec3 ℝ).length = 1 := by simp [Vec3.length]
  have hd : Prod.fst <$> (⟨1, 0, 0, 0⟩ : Quat ℝ).rotate ⟨0, 0, 1⟩ = .ok ⟨0, 0, 1⟩ := by
    rw [Quat.rotate_of_norm_eq_one hq]
    simp [Quat.mul, Quat.conj]
  exact ⟨⟨by rw [hq]; exact one_ne_zero, hn, hd⟩,
    ((railTests_disagree _ _ _).2 (by rw [hq]; exact one_ne_zero) hn hd).2 5 10
      (by norm_num) (by norm_num)⟩

end LaunchRail
end RocketSim
