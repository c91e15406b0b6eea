import Mathlib
import RocketSim.Proofs.QuaternionRotations
import RocketSim.Motion.Integration

/-!
# The step limiter of an adaptive integrator, in exact arithmetic

After an adaptive step of length `dt` the integrator's controller proposes a factor for the
next step, and the limiter bounds it: the factor is kept at least the least factor and
`minStep / dt`, at most the greatest factor and `maxStep / dt`, and is then multiplied by the
safety factor.  The simulation asks for `dt · factor` as its next step.

Over the reals, and for limits that admit every step between their bounds (`Valid`), the
clamp keeps `dt · clamp` between `minStep` and `maxStep` whatever the controller proposed;
the safety factor, applied after the clamp, then scales that step.  So the next step keeps
within the bounds for every proposal exactly when the safety factor is one, as the PID
controller sets it.  With the elementary controller's default safety factor `0.9`, a step at
the floor whose controller asks for a shorter one is followed by a request for
`0.9 · minStep`.

**Results.**
* `mul_limit`: the next step is the safety factor times the proposed step clamped to
  `[lower dt, upper dt]`.
* `mul_limit_atFloor`, `mul_limit_atCeiling`: at the least step a proposal to shrink, and at
  the greatest step a proposal to grow, give the safety factor times that bound.
* `nextStep_safetyScaled`: the next step is the safety factor times a step within the
  bounds; it is itself within the bounds for every proposal and every step between them
  exactly when the safety factor is one.
-/

namespace RocketSim
namespace StepLimits

open Set

/-- Real arithmetic for the limiter. -/
noncomputable def exactOps : LimitOps Id ℝ where
  mul a b := pure (a * b)
  div a b := pure (a / b)
  max a b := pure (max a b)
  min a b := pure (min a b)

/-- Limits that admit every step between their bounds: a positive least step below the
greatest, and a positive least factor at most one below a greatest factor at least one. -/
structure Valid (L : StepLimits ℝ) : Prop where
  minStep_pos : 0 < L.minStep
  minStep_le_maxStep : L.minStep ≤ L.maxStep
  minFactor_pos : 0 < L.minFactor
  minFactor_le_one : L.minFactor ≤ 1
  one_le_maxFactor : 1 ≤ L.maxFactor

variable (L : StepLimits ℝ)

/-- The shortest next step the clamp allows after a step `dt`. -/
noncomputable def lower (dt : ℝ) : ℝ := max L.minStep (dt * L.minFactor)

/-- The longest next step the clamp allows after a step `dt`. -/
noncomputable def upper (dt : ℝ) : ℝ := min L.maxStep (dt * L.maxFactor)

/-- The factor the limiter gives over the reals, for a proposed factor `desired` after a
step `dt`. -/
noncomputable def factor (desired dt : ℝ) : ℝ := (L.limit exactOps desired dt).run

/-- The limiter over the reals: the clamped proposal times the safety factor. -/
theorem factor_eq (desired dt : ℝ) :
    L.factor desired dt =
      L.safety * min (max desired (max (L.minStep / dt) L.minFactor))
        (min (L.maxStep / dt) L.maxFactor) := rfl

/-- The next step `dt · factor`: the proposed next step `dt · desired`, clamped to
`[lower dt, upper dt]`, times the safety factor. -/
theorem mul_limit {dt : ℝ} (hdt : 0 < dt) (desired : ℝ) :
    dt * L.factor desired dt =
      L.safety * min (max (dt * desired) (L.lower dt)) (L.upper dt) := by
  have h₀ : 0 ≤ dt := hdt.le
  rw [factor_eq, lower, upper, mul_left_comm, mul_min_of_nonneg _ _ h₀,
    mul_max_of_nonneg _ _ h₀, mul_max_of_nonneg _ _ h₀, mul_min_of_nonneg _ _ h₀,
    mul_div_cancel₀ _ hdt.ne', mul_div_cancel₀ _ hdt.ne']

variable {L}

/-- After a step between the bounds, the shortest step the clamp allows is between the
least step and that step. -/
theorem lower_mem (hL : L.Valid) {dt : ℝ} (hdt : dt ∈ Icc L.minStep L.maxStep) :
    L.lower dt ∈ Icc L.minStep dt := by
  have hpos : 0 ≤ dt := hL.minStep_pos.le.trans hdt.1
  exact ⟨le_max_left _ _, max_le hdt.1 (mul_le_of_le_one_right hpos hL.minFactor_le_one)⟩

/-- After a step between the bounds, the longest step the clamp allows is between that step
and the greatest step. -/
theorem upper_mem (hL : L.Valid) {dt : ℝ} (hdt : dt ∈ Icc L.minStep L.maxStep) :
    L.upper dt ∈ Icc dt L.maxStep := by
  have hpos : 0 ≤ dt := hL.minStep_pos.le.trans hdt.1
  exact ⟨le_min hdt.2 (le_mul_of_one_le_right hpos hL.one_le_maxFactor), min_le_left _ _⟩

/-- Whatever is proposed, the clamped step is between the bounds. -/
theorem clamp_mem (hL : L.Valid) {dt : ℝ} (hdt : dt ∈ Icc L.minStep L.maxStep) (x : ℝ) :
    min (max x (L.lower dt)) (L.upper dt) ∈ Icc L.minStep L.maxStep := by
  have hlo := lower_mem hL hdt
  have hhi := upper_mem hL hdt
  constructor
  · exact le_min (hlo.1.trans (le_max_right _ _)) (hlo.1.trans (hlo.2.trans hhi.1))
  · exact (min_le_right _ _).trans hhi.2

/-- At the least step, a proposal not to grow gives the safety factor times the least
step. -/
theorem mul_limit_atFloor (hL : L.Valid) {desired : ℝ} (hd : desired ≤ 1) :
    L.minStep * L.factor desired L.minStep = L.safety * L.minStep := by
  have hdt : L.minStep ∈ Icc L.minStep L.maxStep := ⟨le_rfl, hL.minStep_le_maxStep⟩
  have hlo : L.lower L.minStep = L.minStep := le_antisymm (lower_mem hL hdt).2 (lower_mem hL hdt).1
  have hprop : L.minStep * desired ≤ L.minStep :=
    mul_le_of_le_one_right hL.minStep_pos.le hd
  rw [mul_limit L hL.minStep_pos, hlo, max_eq_right hprop,
    min_eq_left (upper_mem hL hdt).1]

/-- At the greatest step, a proposal not to shrink gives the safety factor times the
greatest step. -/
theorem mul_limit_atCeiling (hL : L.Valid) {desired : ℝ} (hd : 1 ≤ desired) :
    L.maxStep * L.factor desired L.maxStep = L.safety * L.maxStep := by
  have hpos : 0 < L.maxStep := hL.minStep_pos.trans_le hL.minStep_le_maxStep
  have hdt : L.maxStep ∈ Icc L.minStep L.maxStep := ⟨hL.minStep_le_maxStep, le_rfl⟩
  have hhi : L.upper L.maxStep = L.maxStep := le_antisymm (upper_mem hL hdt).2 (upper_mem hL hdt).1
  have hprop : L.maxStep ≤ L.maxStep * desired := le_mul_of_one_le_right hpos.le hd
  rw [mul_limit L hpos, hhi,
    min_eq_right (hprop.trans (le_max_left _ _))]

/-- The next step an adaptive integrator asks for, over the reals: after any step between
the bounds and whatever the controller proposes, it is the safety factor times a step
between the bounds; and it is itself between the bounds for every proposal and every such
step exactly when the safety factor is one. -/
theorem nextStep_safetyScaled (hL : L.Valid) :
    (∀ desired dt, dt ∈ Icc L.minStep L.maxStep →
      ∃ c ∈ Icc L.minStep L.maxStep, dt * L.factor desired dt = L.safety * c) ∧
    ((∀ desired dt, dt ∈ Icc L.minStep L.maxStep →
      dt * L.factor desired dt ∈ Icc L.minStep L.maxStep) ↔ L.safety = 1) := by
  have hscaled : ∀ desired dt, dt ∈ Icc L.minStep L.maxStep →
      ∃ c ∈ Icc L.minStep L.maxStep, dt * L.factor desired dt = L.safety * c :=
    fun desired dt hdt => ⟨_, clamp_mem hL hdt (dt * desired),
      mul_limit L (hL.minStep_pos.trans_le hdt.1) desired⟩
  refine ⟨hscaled, ⟨fun hin => ?_, fun hone desired dt hdt => ?_⟩⟩
  · -- the floor and the ceiling each pin the safety factor from one side
    have hmax : 0 < L.maxStep := hL.minStep_pos.trans_le hL.minStep_le_maxStep
    have hfloor := (hin 0 L.minStep ⟨le_rfl, hL.minStep_le_maxStep⟩).1
    have hceil := (hin 1 L.maxStep ⟨hL.minStep_le_maxStep, le_rfl⟩).2
    rw [mul_limit_atFloor hL zero_le_one] at hfloor
    rw [mul_limit_atCeiling hL le_rfl] at hceil
    exact le_antisymm ((mul_le_iff_le_one_left hmax).1 hceil)
      ((le_mul_iff_one_le_left hL.minStep_pos).1 hfloor)
  · obtain ⟨c, hc, hnext⟩ := hscaled desired dt hdt
    rwa [hnext, hone, one_mul]

/-- The limits an adaptive integrator reads by default: safety factor `0.9`, factors
between `0.3` and `1.5`, steps between `0.0001` and `30`. -/
noncomputable def defaults : StepLimits ℝ :=
  { safety := 0.9, minFactor := 0.3, maxFactor := 1.5, minStep := 0.0001, maxStep := 30 }

/-- With the default limits the next step is `0.9` times a step between the bounds, and it
does not always keep within them. -/
theorem nextStep_safetyScaled_defaults :
    defaults.Valid ∧
      ((∀ desired dt, dt ∈ Icc defaults.minStep defaults.maxStep →
        ∃ c ∈ Icc defaults.minStep defaults.maxStep,
          dt * defaults.factor desired dt = defaults.safety * c) ∧
      ((∀ desired dt, dt ∈ Icc defaults.minStep defaults.maxStep →
        dt * defaults.factor desired dt ∈ Icc defaults.minStep defaults.maxStep) ↔
          defaults.safety = 1)) :=
  have hvalid : defaults.Valid := ⟨by norm_num [defaults], by norm_num [defaults],
    by norm_num [defaults], by norm_num [defaults], by norm_num [defaults]⟩
  ⟨hvalid, nextStep_safetyScaled hvalid⟩

end StepLimits
end RocketSim
