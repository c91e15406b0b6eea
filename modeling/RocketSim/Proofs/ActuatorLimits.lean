import Mathlib
import RocketSim.Proofs.LinearInterpolation
import RocketSim.Control.Actuator

/-!
# First-order actuators in exact arithmetic

A first-order actuator answers a query for its deflection at time `t` with

  `δ₀ + (δ* − δ₀)·(1 − e^(−dt/τ))`,   `dt = max (t − t₀) 0`,

from the deflection `δ₀` and time `t₀` of its last command and its target `δ*`; a time more
than `1e-17` before `t₀` is refused with a `ValueError`, before anything is recorded.  With a
positive response time the fraction `1 − e^(−dt/τ)` lies in `[0, 1)`, so every answer lies
between the last recorded deflection and the target (`deflection_mem_uIcc`).  A new command
records the deflection reached and clips the new target to the limits, each of which may be
absent.

The target in force before the first command, however, is the zero the actuator is made with,
never clipped.  So what every answer keeps within is not the limits but the limits taken out
to zero (`Confined`): an actuator made at rest within its limits stays confined through every
sequence of calls (`run_confined`), and its answers keep within its limits only when these
take in zero.

**Results.**
* `position_exact`, `position_early`: one query over the reals, and its refusal.
* `deflection_mem_uIcc`: an answer lies between the last recorded deflection and the target.
* `Confined.apply`: one call keeps an actuator confined; `run_confined`: so does every
  sequence of calls.
* `deflections_confined`: the three together, for every sequence of calls.
-/

open Real Set

namespace RocketSim
namespace FirstOrderActuator

/-- Real arithmetic for actuators, with `text` the text of a time in a fault's message. -/
noncomputable def exactOps (text : ℝ → String) : ActuatorOps Outcome ℝ where
  add a b := pure (a + b)
  sub a b := pure (a - b)
  mul a b := pure (a * b)
  div a b := if b = 0 then throw Fault.zeroDivision else pure (a / b)
  neg a := pure (-a)
  pow a b := pure (a ^ b)
  lt a b := pure (decide (a < b))
  min a b := pure (min a b)
  max a b := pure (max a b)
  text x := pure (text x)
  fail f := throw f
  int n := n
  tolerance := -1e-17
  e := exp 1

variable (text : ℝ → String)

/-- The fault of a query at `t` before the last command at `t₀`. -/
def earlyFault (t t₀ : ℝ) : Fault :=
  Fault.raise .valueError ("Current time (" ++ text t ++ ") must be after lastTime (" ++
    text t₀ ++ ")")

/-- The fraction of the gap to the target closed after a time `dt` (zero when negative). -/
noncomputable def closedFraction (τ dt : ℝ) : ℝ := 1 - exp (-max dt 0 / τ)

variable {text} {τ t t₀ p g : ℝ}

/-- A query at a time not more than the tolerance before the last command: the last position
moved towards the target by the fraction of the gap closed. -/
theorem position_exact (hτ : τ ≠ 0) (ht : -1e-17 ≤ t - t₀) :
    firstOrderPositionWith (exactOps text) τ t t₀ p g = pure (p + (g - p) * closedFraction τ (t - t₀)) := by
  simp [firstOrderPositionWith, exactOps, not_lt.2 ht, hτ, closedFraction, exp_one_rpow]
  -- a time just before the last command counts as no time at all
  split_ifs with h
  · simp [max_eq_right (by linarith : t - t₀ ≤ 0)]
  · rw [max_eq_left (by linarith : 0 ≤ t - t₀), neg_sub]

/-- A query more than the tolerance before the last command is refused. -/
theorem position_early (ht : t - t₀ < -1e-17) :
    firstOrderPositionWith (exactOps text) τ t t₀ p g = throw (earlyFault text t t₀) := by
  simp [firstOrderPositionWith, exactOps, ht, earlyFault]
  rfl

/-- With a positive response time, the fraction of the gap closed is in `[0, 1]`. -/
theorem closedFraction_mem (hτ : 0 < τ) (dt : ℝ) : closedFraction τ dt ∈ Icc 0 1 := by
  have hx : -max dt 0 / τ ≤ 0 :=
    div_nonpos_of_nonpos_of_nonneg (neg_nonpos.2 (le_max_right _ _)) hτ.le
  exact ⟨sub_nonneg.2 (exp_le_one_iff.2 hx), sub_le_self _ (exp_pos _).le⟩

/-! ## Queries and commands -/

variable {a a' : FirstOrderActuator ℝ} {target d : ℝ}

/-- A query not more than the tolerance before the last command: the last recorded deflection
moved towards the target. -/
theorem deflection_exact (hτ : a.responseTime ≠ 0) (ht : -1e-17 ≤ t - a.lastTime) :
    a.deflectionWith (exactOps text) t = pure (a.lastDeflection +
      (a.targetDeflection - a.lastDeflection) * closedFraction a.responseTime (t - a.lastTime)) :=
  position_exact hτ ht

theorem deflection_early (ht : t - a.lastTime < -1e-17) :
    a.deflectionWith (exactOps text) t = throw (earlyFault text t a.lastTime) :=
  position_early ht

/-- **Between the last deflection and the target.**  With a positive response time, every
answer lies between the deflection recorded at the last command and the target. -/
theorem deflection_mem_uIcc (hτ : 0 < a.responseTime)
    (h : a.deflectionWith (exactOps text) t = .ok d) :
    d ∈ uIcc a.lastDeflection a.targetDeflection := by
  by_cases ht : t - a.lastTime < -1e-17
  · rw [deflection_early ht] at h
    cases h
  · rw [deflection_exact hτ.ne' (not_lt.1 ht)] at h
    obtain rfl := Except.ok.inj h
    rw [mul_comm]
    exact Interpolation.add_mul_sub_mem_uIcc (closedFraction_mem hτ _)

/-- A target clipped to the limits: to at most the maximum, then to at least the minimum. -/
noncomputable def clip (mn mx : Option ℝ) (x : ℝ) : ℝ :=
  mn.elim (mx.elim x (min x)) (max (mx.elim x (min x)))

/-- A command records the deflection reached, the time, and the target clipped to the limits. -/
theorem command_of_deflection (h : a.deflectionWith (exactOps text) t = pure d) :
    a.commandWith (exactOps text) target t =
      pure { a with
        lastDeflection := d
        lastTime := t
        targetDeflection := clip a.minDeflection a.maxDeflection target } := by
  obtain ⟨τ, δ, t₀, g, mx, mn⟩ := a
  simp only [commandWith, h, pure_bind]
  cases mx <;> cases mn <;> rfl

/-- A command more than the tolerance before the last one is refused, before anything is
recorded. -/
theorem command_early (ht : t - a.lastTime < -1e-17) :
    a.commandWith (exactOps text) target t = throw (earlyFault text t a.lastTime) := by
  simp only [commandWith, deflection_early ht]
  rfl

/-! ## Limits -/

/-- The deflections within a minimum `mn` and a maximum `mx`, each of which may be absent. -/
def allowed (mn mx : Option ℝ) : Set ℝ := {v | (∀ m ∈ mn, m ≤ v) ∧ (∀ m ∈ mx, v ≤ m)}

/-- The limits taken out to zero: within them, and also between them and zero. -/
def withZero (mn mx : Option ℝ) : Set ℝ := allowed (mn.map (min · 0)) (mx.map (max · 0))

variable {mn mx : Option ℝ}

theorem allowed_ordConnected : (allowed mn mx).OrdConnected :=
  ⟨fun _ hx _ hy _ hv => ⟨fun m hm => (hx.1 m hm).trans hv.1, fun m hm => hv.2.trans (hy.2 m hm)⟩⟩

/-- Clipped between ordered limits, a target is within them. -/
theorem clip_mem (hlim : ∀ l ∈ mn, ∀ u ∈ mx, l ≤ u) (x : ℝ) : clip mn mx x ∈ allowed mn mx := by
  cases mn with
  | none =>
    cases mx with
    | none => simp [clip, allowed]
    | some u => simp [clip, allowed]
  | some l =>
    cases mx with
    | none => simp [clip, allowed]
    | some u => simp [clip, allowed, hlim l rfl u rfl]

theorem allowed_subset_withZero : allowed mn mx ⊆ withZero mn mx := by
  intro v hv
  refine ⟨fun m hm => ?_, fun m hm => ?_⟩
  · obtain ⟨l, hl, rfl⟩ := Option.mem_map.1 hm
    exact (min_le_left _ _).trans (hv.1 l hl)
  · obtain ⟨u, hu, rfl⟩ := Option.mem_map.1 hm
    exact (hv.2 u hu).trans (le_max_left _ _)

theorem zero_mem_withZero : (0 : ℝ) ∈ withZero mn mx := by
  refine ⟨fun m hm => ?_, fun m hm => ?_⟩
  · obtain ⟨l, -, rfl⟩ := Option.mem_map.1 hm
    exact min_le_right _ _
  · obtain ⟨u, -, rfl⟩ := Option.mem_map.1 hm
    exact le_max_right _ _

/-- Limits that take in zero are not widened by it. -/
theorem withZero_subset_allowed (h0 : (0 : ℝ) ∈ allowed mn mx) : withZero mn mx ⊆ allowed mn mx := by
  intro v hv
  refine ⟨fun l hl => ?_, fun u hu => ?_⟩
  · simpa [min_eq_left (h0.1 l hl)] using hv.1 _ (Option.mem_map_of_mem _ hl)
  · simpa [max_eq_left (h0.2 u hu)] using hv.2 _ (Option.mem_map_of_mem _ hu)

/-! ## Confined actuators -/

/-- An actuator whose answers keep within its limits taken out to zero: a positive response
time, ordered limits, and the last recorded deflection and the target within them. -/
structure Confined (a : FirstOrderActuator ℝ) : Prop where
  responseTime_pos : 0 < a.responseTime
  limits_ordered : ∀ l ∈ a.minDeflection, ∀ u ∈ a.maxDeflection, l ≤ u
  lastDeflection_mem : a.lastDeflection ∈ withZero a.minDeflection a.maxDeflection
  target_mem : a.targetDeflection ∈ withZero a.minDeflection a.maxDeflection

/-- A confined actuator answers within its limits taken out to zero. -/
theorem Confined.deflection_mem (hc : Confined a)
    (h : a.deflectionWith (exactOps text) t = .ok d) :
    d ∈ withZero a.minDeflection a.maxDeflection :=
  allowed_ordConnected.uIcc_subset hc.lastDeflection_mem hc.target_mem
    (deflection_mem_uIcc hc.responseTime_pos h)

/-- A command keeps an actuator confined. -/
theorem Confined.command (hc : Confined a) (h : a.commandWith (exactOps text) target t = .ok a') :
    Confined a' := by
  by_cases ht : t - a.lastTime < -1e-17
  · rw [command_early ht] at h
    cases h
  · have hd : a.deflectionWith (exactOps text) t = pure _ :=
      deflection_exact hc.responseTime_pos.ne' (not_lt.1 ht)
    rw [command_of_deflection hd] at h
    obtain rfl := Except.ok.inj h
    exact ⟨hc.responseTime_pos, hc.limits_ordered, hc.deflection_mem hd,
      allowed_subset_withZero (clip_mem hc.limits_ordered target)⟩

/-- A command never changes the limits. -/
theorem command_limits (h : a.commandWith (exactOps text) target t = .ok a') :
    a'.minDeflection = a.minDeflection ∧ a'.maxDeflection = a.maxDeflection := by
  cases hd : a.deflectionWith (exactOps text) t with
  | error f =>
    rw [commandWith, hd] at h
    cases h
  | ok d =>
    rw [command_of_deflection hd] at h
    obtain rfl := Except.ok.inj h
    exact ⟨rfl, rfl⟩

/-! ## Sequences of calls -/

/-- A call on an actuator: a new target at a time, or a query of the deflection at a time. -/
inductive Call where
  | setTarget (target time : ℝ)
  | getDeflection (time : ℝ)

/-- The time a call is made at. -/
def Call.time : Call → ℝ
  | .setTarget _ t => t
  | .getDeflection t => t

variable (text) in
/-- One call: its answer (the deflection for a query, nothing for a command) and the actuator
after it.  A refused call leaves the actuator as it was. -/
noncomputable def Call.apply :
    Call → FirstOrderActuator ℝ → Outcome (Option ℝ) × FirstOrderActuator ℝ
  | .setTarget target t, a =>
    match a.commandWith (exactOps text) target t with
    | .ok a' => (.ok none, a')
    | .error f => (.error f, a)
  | .getDeflection t, a => (some <$> a.deflectionWith (exactOps text) t, a)

variable (text) in
/-- The answers to a sequence of calls, and the actuator after them. -/
noncomputable def run :
    FirstOrderActuator ℝ → List Call → List (Outcome (Option ℝ)) × FirstOrderActuator ℝ
  | a, [] => ([], a)
  | a, c :: cs =>
    let step := c.apply text a
    let rest := run step.2 cs
    (step.1 :: rest.1, rest.2)

/-- A call more than the tolerance before the last command is refused with the early-time
fault, and the actuator is left as it was. -/
theorem Call.apply_early (c : Call) (ht : c.time - a.lastTime < -1e-17) :
    c.apply text a = (throw (earlyFault text c.time a.lastTime), a) := by
  cases c with
  | setTarget target t =>
    simp only [Call.time] at ht ⊢
    simp only [Call.apply, command_early ht]
    rfl
  | getDeflection t =>
    simp only [Call.time] at ht ⊢
    simp only [Call.apply, deflection_early ht]
    rfl

variable (text) in
/-- One call keeps the limits. -/
theorem Call.apply_limits (c : Call) (a : FirstOrderActuator ℝ) :
    (c.apply text a).2.minDeflection = a.minDeflection ∧
      (c.apply text a).2.maxDeflection = a.maxDeflection := by
  cases c with
  | setTarget target t =>
    simp only [Call.apply]
    split
    · exact command_limits (by assumption)
    · exact ⟨rfl, rfl⟩
  | getDeflection t => exact ⟨rfl, rfl⟩

variable (text) in
/-- **One call.**  A confined actuator stays confined through a call, and a deflection it
answers is within its limits taken out to zero. -/
theorem Confined.apply (hc : Confined a) (c : Call) :
    Confined (c.apply text a).2 ∧
      ∀ d, (c.apply text a).1 = .ok (some d) → d ∈ withZero a.minDeflection a.maxDeflection := by
  cases c with
  | setTarget target t =>
    simp only [Call.apply]
    split
    · exact ⟨hc.command (by assumption), by simp⟩
    · exact ⟨hc, by simp⟩
  | getDeflection t =>
    refine ⟨hc, fun d hd => ?_⟩
    cases h : a.deflectionWith (exactOps text) t with
    | error f => simp [Call.apply, h] at hd
    | ok d' =>
      simp only [Call.apply, h] at hd
      obtain rfl : d' = d := Option.some.inj (Except.ok.inj hd)
      exact hc.deflection_mem h

/-- **Every sequence of calls.**  A confined actuator stays confined through every sequence of
calls, and every deflection it answers is within its limits taken out to zero. -/
theorem run_confined (hc : Confined a) (cs : List Call) :
    Confined (run text a cs).2 ∧ ∀ d, .ok (some d) ∈ (run text a cs).1 →
      d ∈ withZero a.minDeflection a.maxDeflection := by
  induction cs generalizing a with
  | nil => exact ⟨hc, by simp [run]⟩
  | cons c cs ih =>
    obtain ⟨hstep, hanswer⟩ := hc.apply text c
    obtain ⟨hmn, hmx⟩ := c.apply_limits text a
    obtain ⟨hrun, hrest⟩ := ih hstep
    refine ⟨hrun, fun d hd => ?_⟩
    rcases List.mem_cons.1 hd with h | h
    · exact hanswer d h.symm
    · simpa only [hmn, hmx] using hrest d h

variable {d₀ : ℝ}

/-- An actuator made with a positive response time, ordered limits and an initial deflection
within them is confined: its target, zero, is within its limits taken out to zero. -/
theorem make_confined (hτ : 0 < τ) (hlim : ∀ l ∈ mn, ∀ u ∈ mx, l ≤ u) (hd₀ : d₀ ∈ allowed mn mx) :
    Confined (makeWith (exactOps text) τ d₀ mx mn) :=
  have h0 : (makeWith (exactOps text) τ d₀ mx mn).targetDeflection = 0 := Int.cast_zero
  ⟨hτ, hlim, allowed_subset_withZero hd₀, h0 ▸ zero_mem_withZero⟩

variable (text) in
/-- **Where a first-order actuator's answers lie.**  With a positive response time every answer
lies between the deflection recorded at the last command and the target; a call more than
`1e-17` before the last command is refused with a `ValueError` and leaves the actuator as it
was; and an actuator made with a positive response time, ordered limits and an initial
deflection within them answers, through every sequence of calls, within its limits taken out to
zero, and within the limits themselves when these take in zero. -/
theorem deflections_confined :
    (∀ (a : FirstOrderActuator ℝ) (t d : ℝ), 0 < a.responseTime →
      a.deflectionWith (exactOps text) t = .ok d → d ∈ uIcc a.lastDeflection a.targetDeflection) ∧
    (∀ (a : FirstOrderActuator ℝ) (c : Call), c.time - a.lastTime < -1e-17 →
      c.apply text a = (throw (earlyFault text c.time a.lastTime), a)) ∧
    (∀ (τ d₀ : ℝ) (mn mx : Option ℝ) (cs : List Call), 0 < τ → (∀ l ∈ mn, ∀ u ∈ mx, l ≤ u) →
      d₀ ∈ allowed mn mx →
      ∀ d, .ok (some d) ∈ (run text (makeWith (exactOps text) τ d₀ mx mn) cs).1 →
        d ∈ withZero mn mx ∧ ((0 : ℝ) ∈ allowed mn mx → d ∈ allowed mn mx)) := by
  refine ⟨fun a t d hτ h => deflection_mem_uIcc hτ h, fun a c ht => c.apply_early ht, ?_⟩
  intro τ d₀ mn mx cs hτ hlim hd₀ d hd
  have hmem := (run_confined (make_confined hτ hlim hd₀) cs).2 d hd
  exact ⟨hmem, fun h0 => withZero_subset_allowed h0 hmem⟩

/-- An actuator at rest at its limits `[1, 1]`, queried a response time later: it answers
`e⁻¹`, drawn towards the unclipped target zero, within its limits taken out to zero but not
within the limits themselves. -/
theorem deflections_confined_restingAtLimit :
    (0 : ℝ) < 1 ∧ (∀ l ∈ some (1 : ℝ), ∀ u ∈ some (1 : ℝ), l ≤ u) ∧
    (1 : ℝ) ∈ allowed (some 1) (some 1) ∧
    (run (fun _ => "") (makeWith (exactOps fun _ => "") 1 1 (some 1) (some 1))
      [.getDeflection 1]).1 = [.ok (some (exp (-1)))] ∧
    exp (-1) ∈ withZero (some 1) (some 1) ∧ exp (-1) ∉ allowed (some 1) (some 1) := by
  have hlim : ∀ l ∈ some (1 : ℝ), ∀ u ∈ some (1 : ℝ), l ≤ u := by simp
  have hd₀ : (1 : ℝ) ∈ allowed (some 1) (some 1) := by simp [allowed]
  have hq : (makeWith (exactOps fun _ => "") 1 1 (some 1) (some 1)).deflectionWith
      (exactOps fun _ => "") 1 = pure (exp (-1)) := by
    rw [deflection_exact one_ne_zero (by norm_num [makeWith, exactOps])]
    norm_num [makeWith, exactOps, closedFraction]
  have hrun : (run (fun _ => "") (makeWith (exactOps fun _ => "") 1 1 (some 1) (some 1))
      [.getDeflection 1]).1 = [.ok (some (exp (-1)))] := by
    simp only [run, Call.apply, hq]
    rfl
  have hconf := (deflections_confined fun _ => "").2.2 1 1 (some 1) (some 1)
    [.getDeflection 1] one_pos hlim hd₀ (exp (-1)) (by simp [hrun])
  refine ⟨one_pos, hlim, hd₀, hrun, hconf.1, fun h => ?_⟩
  have hle : (1 : ℝ) ≤ exp (-1) := h.1 1 rfl
  linarith [exp_lt_one_iff.2 (show (-1 : ℝ) < 0 by norm_num)]

end FirstOrderActuator
end RocketSim
