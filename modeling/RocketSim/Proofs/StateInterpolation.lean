import Mathlib
import RocketSim.Proofs.RotationAngles
import RocketSim.Motion.Mechanics

/-!
# Interpolation of rigid-body states in exact arithmetic

`States.interpolate` is written over any arithmetic of states (`States.Ops`).  Here it runs over
the reals (`ExactState.exactOps`), where a state is a rigid body with an orientation and an
angular velocity, or a point mass.

Every vector field is the weighted sum `w·s₁ + (1 - w)·s₂` (`mix`), with the weight `w` on the
first state.  The orientation is the first one turned by the slerp step towards the second by
the fraction `w` (`Quat.slerpTurn`), so it moves away from the first state as `w` grows: at
`w = 1` the fields are the first state's and the orientation is the second's (when the two
lie in one hemisphere), and at `w = 0` the reverse.

**Results.**
* `interpolate_rigid`: two rigid states interpolate field by field, and the orientation by the
  slerp step.
* `interpolate_point`: a point mass interpolates its position and velocity only.
* `interpolate_orientationReversed`: the orientation is a unit quaternion, and at the two ends
  of the weight it is the opposite state's while the vector fields are the state's own.
-/

namespace RocketSim

/-! ## The slerp step between unit quaternions -/

namespace Quat

open Real

/-- The turn slerp makes from `q₁` towards `q₂` by the fraction `f`: the fraction of the
shorter angle of `q₁* q₂`, about its axis, or about the first axis when it does not turn. -/
noncomputable def slerpTurn (q₁ q₂ : Quat ℝ) (f : ℝ) : Quat ℝ :=
  ofUnitAxisHalfAngle
    (if 0 < f * (q₁.conj.mul q₂).shorterAngle then (q₁.conj.mul q₂).im.normalize else ⟨1, 0, 0⟩)
    (f * (q₁.conj.mul q₂).shorterAngle / (2 : ℕ))

section Unit

variable {q₁ q₂ : Quat ℝ} (h₁ : q₁.norm = 1) (h₂ : q₂.norm = 1)
include h₁ h₂

theorem slerp_eq_slerpTurn {f : ℝ} (hf : 0 ≤ f) :
    q₁.slerp q₂ f = pure (q₁.slerpTurn q₂ f, q₁, q₂) :=
  slerp_of_norm_eq_one h₁ h₂ hf

/-- The turned orientation stays a unit quaternion. -/
theorem norm_mul_slerpTurn {f : ℝ} (hf : 0 ≤ f) : (q₁.mul (q₁.slerpTurn q₂ f)).norm = 1 := by
  have hδ := norm_conj_mul_of_norm_eq_one h₁ h₂
  -- the axis is the unit vector of `q₁* q₂` when there is a turn, and the first axis otherwise
  have hu : (if 0 < f * (q₁.conj.mul q₂).shorterAngle then (q₁.conj.mul q₂).im.normalize
      else ⟨1, 0, 0⟩).length = 1 := by
    split_ifs with h
    · exact Vec3.length_normalize (length_im_pos_of_shorterAngle_pos hδ (pos_of_mul_pos_right h hf))
    · simp [Vec3.length]
  rw [norm_mul, h₁, slerpTurn, norm_ofUnitAxisHalfAngle hu, one_mul]

/-- By the fraction one, the first orientation is turned onto the second, when the two lie in
one hemisphere. -/
theorem mul_slerpTurn_one (hdot : 0 ≤ q₁.dot q₂) : q₁.mul (q₁.slerpTurn q₂ 1) = q₂ := by
  have hδ := norm_conj_mul_of_norm_eq_one h₁ h₂
  rw [slerpTurn, Nat.cast_ofNat, one_mul, ofUnitAxisHalfAngle_shorterAngle hδ,
    abs_of_nonneg (by rwa [q0_conj_mul])]
  exact mul_conj_mul h₁ q₂

end Unit

/-- By the fraction zero, the first orientation is left in place. -/
theorem mul_slerpTurn_zero (q₁ q₂ : Quat ℝ) : q₁.mul (q₁.slerpTurn q₂ 0) = q₁ := by
  simp [slerpTurn, ofUnitAxisHalfAngle, mul]

end Quat

/-! ## Exact states -/

/-- A state over the reals: a rigid body, or a point mass without orientation. -/
inductive ExactState where
  | rigid (position velocity : Vec3 ℝ) (orientation : Quat ℝ) (angularVelocity : Vec3 ℝ)
  | point (position velocity : Vec3 ℝ)

namespace ExactState

/-- A vector field by name; a point mass has no angular velocity. -/
def field : ExactState → String → Outcome (Vec3 ℝ)
  | rigid p _ _ _, "position" => pure p
  | rigid _ v _ _, "velocity" => pure v
  | rigid _ _ _ w, "angularVelocity" => pure w
  | point p _, "position" => pure p
  | point _ v, "velocity" => pure v
  | _, _ => throw Fault.noAttribute

/-- The orientation; a point mass has none. -/
def orientation : ExactState → Outcome (Quat ℝ)
  | rigid _ _ q _ => pure q
  | point _ _ => throw Fault.noAttribute

/-- Exact arithmetic of states. -/
noncomputable def exactOps : States.Ops Outcome ExactState (Vec3 ℝ) ℝ ℝ where
  field := field
  orientation := orientation
  target := orientation
  weigh v w := pure (v.scale w)
  add a b := pure (a.add b)
  complement w := pure (1 - w)
  fraction := pure
  lift := id
  rigid := rigid
  point := point

/-- The weighted sum of a field of two states, with the weight `w` on the first. -/
noncomputable def mix (a b : Vec3 ℝ) (w : ℝ) : Vec3 ℝ := (a.scale w).add (b.scale (1 - w))

@[simp] theorem mix_one (a b : Vec3 ℝ) : mix a b 1 = a := by
  simp [mix, Vec3.scale, Vec3.add]

@[simp] theorem mix_zero (a b : Vec3 ℝ) : mix a b 0 = b := by
  simp [mix, Vec3.scale, Vec3.add]

theorem lerp_exact (s₁ s₂ : ExactState) (name : String) {a b : Vec3 ℝ} (w : ℝ)
    (ha : field s₁ name = pure a) (hb : field s₂ name = pure b) :
    States.lerp exactOps s₁ s₂ w (1 - w) name = pure (mix a b w) := by
  simp only [States.lerp]
  rw [show exactOps.field = field from rfl, ha, hb]
  rfl

/-! ## Interpolating -/

/-- Two rigid states interpolate field by field with the weight `w` on the first, and the
orientation is the first one turned by the slerp step towards the second. -/
theorem interpolate_rigid {p₁ v₁ ω₁ p₂ v₂ ω₂ : Vec3 ℝ} {q₁ q₂ : Quat ℝ} {w : ℝ}
    (h₁ : q₁.norm = 1) (h₂ : q₂.norm = 1) (hw : 0 ≤ w) :
    States.interpolate exactOps (rigid p₁ v₁ q₁ ω₁) (rigid p₂ v₂ q₂ ω₂) w =
      pure (rigid (mix p₁ p₂ w) (mix v₁ v₂ w) (q₁.mul (q₁.slerpTurn q₂ w)) (mix ω₁ ω₂ w)) := by
  have hslerp : exactOps.lift (q₁.slerp q₂ w) = pure (q₁.slerpTurn q₂ w, q₁, q₂) :=
    Quat.slerp_eq_slerpTurn h₁ h₂ hw
  have hp := lerp_exact (rigid p₁ v₁ q₁ ω₁) (rigid p₂ v₂ q₂ ω₂) "position" w rfl rfl
  have hv := lerp_exact (rigid p₁ v₁ q₁ ω₁) (rigid p₂ v₂ q₂ ω₂) "velocity" w rfl rfl
  have hω := lerp_exact (rigid p₁ v₁ q₁ ω₁) (rigid p₂ v₂ q₂ ω₂) "angularVelocity" w rfl rfl
  simp only [States.interpolate, show exactOps.complement w = pure (1 - w) from rfl, pure_bind,
    hp, hv]
  -- inside the handler: both orientations are there, and slerp runs
  rw [show exactOps.orientation (rigid p₁ v₁ q₁ ω₁) = pure q₁ from rfl,
    show exactOps.target (rigid p₂ v₂ q₂ ω₂) = pure q₂ from rfl,
    show exactOps.fraction w = pure w from rfl, pure_bind, pure_bind, pure_bind, hslerp, pure_bind,
    hω, pure_bind]
  rfl

/-- Two point masses interpolate their positions and velocities. -/
theorem interpolate_point (p₁ v₁ p₂ v₂ : Vec3 ℝ) (w : ℝ) :
    States.interpolate exactOps (point p₁ v₁) (point p₂ v₂) w =
      pure (point (mix p₁ p₂ w) (mix v₁ v₂ w)) := by
  simp only [States.interpolate, show exactOps.complement w = pure (1 - w) from rfl, pure_bind,
    lerp_exact (point p₁ v₁) (point p₂ v₂) "position" w rfl rfl,
    lerp_exact (point p₁ v₁) (point p₂ v₂) "velocity" w rfl rfl]
  rfl

/-- **The orientation is weighted the other way round.**  Interpolating two rigid states with
unit orientations and a weight `w ≥ 0` gives every vector field as `w·s₁ + (1 - w)·s₂` and the
orientation as the first turned by the slerp step towards the second by `w`, a unit
quaternion.  So at `w = 1` the vector fields are the first state's while the orientation is the
second's (when the two lie in one hemisphere), and at `w = 0` the vector fields are the second
state's while the orientation is the first's. -/
theorem interpolate_orientationReversed (p₁ v₁ ω₁ p₂ v₂ ω₂ : Vec3 ℝ) (q₁ q₂ : Quat ℝ) (w : ℝ)
    (h₁ : q₁.norm = 1) (h₂ : q₂.norm = 1) (hw : 0 ≤ w) :
    States.interpolate exactOps (rigid p₁ v₁ q₁ ω₁) (rigid p₂ v₂ q₂ ω₂) w =
      pure (rigid (mix p₁ p₂ w) (mix v₁ v₂ w) (q₁.mul (q₁.slerpTurn q₂ w)) (mix ω₁ ω₂ w)) ∧
    (q₁.mul (q₁.slerpTurn q₂ w)).norm = 1 ∧
    (∀ a b : Vec3 ℝ, mix a b 1 = a ∧ mix a b 0 = b) ∧
    (0 ≤ q₁.dot q₂ → q₁.mul (q₁.slerpTurn q₂ 1) = q₂) ∧
    q₁.mul (q₁.slerpTurn q₂ 0) = q₁ :=
  ⟨interpolate_rigid h₁ h₂ hw, Quat.norm_mul_slerpTurn h₁ h₂ hw,
    fun a b => ⟨mix_one a b, mix_zero a b⟩, Quat.mul_slerpTurn_one h₁ h₂,
    Quat.mul_slerpTurn_zero q₁ q₂⟩

/-- The identity and a turn about the first axis, interpolated with all the weight on the first
state: the fields are the first state's and the orientation is the second's. -/
theorem interpolate_orientationReversed_atOne :
    (⟨1, 0, 0, 0⟩ : Quat ℝ).norm = 1 ∧ (⟨3 / 5, 4 / 5, 0, 0⟩ : Quat ℝ).norm = 1 ∧ (0 : ℝ) ≤ 1 ∧
    States.interpolate exactOps (rigid ⟨1, 2, 3⟩ ⟨4, 5, 6⟩ ⟨1, 0, 0, 0⟩ ⟨0, 0, 1⟩)
        (rigid ⟨-1, 0, 10⟩ ⟨0, 0, -50⟩ ⟨3 / 5, 4 / 5, 0, 0⟩ ⟨0, 0, 5⟩) 1 =
      pure (rigid (mix ⟨1, 2, 3⟩ ⟨-1, 0, 10⟩ 1) (mix ⟨4, 5, 6⟩ ⟨0, 0, -50⟩ 1)
        ((⟨1, 0, 0, 0⟩ : Quat ℝ).mul ((⟨1, 0, 0, 0⟩ : Quat ℝ).slerpTurn ⟨3 / 5, 4 / 5, 0, 0⟩ 1))
        (mix ⟨0, 0, 1⟩ ⟨0, 0, 5⟩ 1)) ∧
    ((⟨1, 0, 0, 0⟩ : Quat ℝ).mul
      ((⟨1, 0, 0, 0⟩ : Quat ℝ).slerpTurn ⟨3 / 5, 4 / 5, 0, 0⟩ 1)).norm = 1 ∧
    (∀ a b : Vec3 ℝ, mix a b 1 = a ∧ mix a b 0 = b) ∧
    (0 ≤ (⟨1, 0, 0, 0⟩ : Quat ℝ).dot ⟨3 / 5, 4 / 5, 0, 0⟩ →
      (⟨1, 0, 0, 0⟩ : Quat ℝ).mul ((⟨1, 0, 0, 0⟩ : Quat ℝ).slerpTurn ⟨3 / 5, 4 / 5, 0, 0⟩ 1) =
        ⟨3 / 5, 4 / 5, 0, 0⟩) ∧
    (⟨1, 0, 0, 0⟩ : Quat ℝ).mul ((⟨1, 0, 0, 0⟩ : Quat ℝ).slerpTurn ⟨3 / 5, 4 / 5, 0, 0⟩ 0) =
      ⟨1, 0, 0, 0⟩ := by
  have h₁ : (⟨1, 0, 0, 0⟩ : Quat ℝ).norm = 1 := by simp [Quat.norm]
  have h₂ : (⟨3 / 5, 4 / 5, 0, 0⟩ : Quat ℝ).norm = 1 := by norm_num [Quat.norm]
  exact ⟨h₁, h₂, zero_le_one,
    interpolate_orientationReversed _ _ _ _ _ _ _ _ 1 h₁ h₂ zero_le_one⟩

end ExactState

end RocketSim
