import Mathlib
import RocketSim.Proofs.QuaternionRotations
import RocketSim.Flight.Simulation

/-!
# Flights that end at a time, in exact arithmetic

Before each step of a stage the runner asks the end check whether the flight is over.  For
a flight that ends at time `c`, a step from before `c` that would reach `c` is replaced by the
step to `c + 10⁻¹⁴`, and the flight ends at the first check at or past `c`.

Here the stage loop runs in exact arithmetic (`exactStage`): a stage is its time, its time
step and the times recorded after each step, and its stepper takes a step of some length
when asked for one of length `d`.  A fixed-step integrator takes exactly the length asked;
an adaptive one may take more, up to its least step, and its event handling may lengthen a
step too.  If no step is ever longer than asked by more than `ε`, a stage that starts before
`c` ends at a time between `c` and `c + 10⁻¹⁴ + ε`, and every time it recorded before its
last is before `c`.  With fixed steps (`ε = 0`) the flight does end, exactly at
`c + 10⁻¹⁴`.

**Results.**
* `timeEnd_reaches`, `timeEnd_past`, `timeEnd_before`: the end rule over the reals.
* `fly_succ_of_le`, `fly_succ_of_lt`: a flight at or past `c` is over; one before `c` takes
  one step (`nextStage`) and goes on.
* `fly_exact_run`: every completed flight of a stage whose steps overshoot by at most `ε`.
* `fly_fixedStep_ends`: with fixed steps the flight ends, at `c + 10⁻¹⁴`.
* `fly_endsAtTime`: the two together, for a stage that starts before `c`.
-/

namespace RocketSim
namespace Flight
namespace Mission

open Set

/-! ## The end rule over the reals -/

/-- A stage flown in exact arithmetic: its time, its time step, and the times recorded after
its steps. -/
structure ExactStage where
  time : ℝ
  dt : ℝ
  times : List ℝ

/-- Flying in exact arithmetic; running out of steps is a failure. -/
abbrev ExactFlight := StateT ExactStage Option

/-- Real arithmetic for the end rule. -/
noncomputable def exactTimeOps : TimeOps ExactFlight ℝ where
  add a b := pure (a + b)
  sub a b := pure (a - b)
  lt a b := pure (decide (a < b))
  ge a b := pure (decide (b ≤ a))

section TimeEnd

variable {c last now dt : ℝ}

/-- A step from before `c` that would reach it is replaced by the step to `last`. -/
theorem timeEnd_reaches (hnow : now < c) (hdt : c ≤ now + dt) :
    timeEnd exactTimeOps c last now dt = pure (false, some (last - now)) := by
  simp [timeEnd, exactTimeOps, hnow, hdt]

/-- At or past `c` the flight is over. -/
theorem timeEnd_past (hnow : c ≤ now) :
    timeEnd exactTimeOps c last now dt = pure (true, none) := by
  simp [timeEnd, exactTimeOps, hnow, not_lt.2 hnow]

/-- A step that stays before `c` is left alone. -/
theorem timeEnd_before (hnow : now < c) (hdt : now + dt < c) :
    timeEnd exactTimeOps c last now dt = pure (false, none) := by
  simp [timeEnd, exactTimeOps, hnow, not_le.2 hdt, not_le.2 hnow]

end TimeEnd

/-! ## The stage loop in exact arithmetic -/

/-- A stage flown in exact arithmetic to the end time `c`, by a stepper that takes a step of
length `take t d` when asked at time `t` for one of length `d`, and suggests the factor
`factor t d` for the next. -/
noncomputable def exactStage (c : ℝ) (take factor : ℝ → ℝ → ℝ) : StageOps ExactFlight ℝ where
  dt := do pure (← get).dt
  setDt d := modify fun s => { s with dt := d }
  endCheck d := do timeEnd exactTimeOps c (c + 1e-14) (← get).time d
  shortening _ := pure ()
  step d := do
    let s ← get
    set { s with time := s.time + take s.time d }
    pure (take s.time d, factor s.time d)
  mul a b := pure (a * b)
  record := modify fun s => { s with times := s.times ++ [s.time] }
  outOfSteps := failure

section Loop

variable {c : ℝ} {take factor : ℝ → ℝ → ℝ}

/-- The step a stage before `c` asks for: to `c + 10⁻¹⁴` when its time step would reach `c`,
its time step otherwise. -/
noncomputable def askedStep (c : ℝ) (s : ExactStage) : ℝ :=
  if c ≤ s.time + s.dt then c + 1e-14 - s.time else s.dt

/-- The stage after one step from before `c`. -/
noncomputable def nextStage (c : ℝ) (take factor : ℝ → ℝ → ℝ) (s : ExactStage) : ExactStage :=
  let d := askedStep c s
  { time := s.time + take s.time d, dt := take s.time d * factor s.time d,
    times := s.times ++ [s.time + take s.time d] }

/-- A flight at or past `c` is over at its first check. -/
theorem fly_succ_of_le {s : ExactStage} (hs : c ≤ s.time) (fuel : ℕ) :
    ((exactStage c take factor).fly (fuel + 1)).run s = some ((), s) := by
  simp [StageOps.fly, exactStage, timeEnd_past hs]

/-- A flight before `c` takes the step it asks for and goes on. -/
theorem fly_succ_of_lt {s : ExactStage} (hs : s.time < c) (fuel : ℕ) :
    ((exactStage c take factor).fly (fuel + 1)).run s =
      ((exactStage c take factor).fly fuel).run (nextStage c take factor s) := by
  by_cases hreach : c ≤ s.time + s.dt
  · simp [StageOps.fly, exactStage, timeEnd_reaches hs hreach, nextStage, askedStep, hreach]
  · simp [StageOps.fly, exactStage, timeEnd_before hs (not_le.1 hreach), nextStage, askedStep,
      hreach]

theorem fly_zero (s : ExactStage) : ((exactStage c take factor).fly 0).run s = none := rfl

variable {ε : ℝ}

/-- The step asked for from before `c` is positive, and ends no later than `c + 10⁻¹⁴`. -/
theorem askedStep_bounds {s : ExactStage} (hs : s.time < c) (hdt : 0 < s.dt) :
    0 < askedStep c s ∧ s.time + askedStep c s ≤ c + 1e-14 := by
  unfold askedStep
  split_ifs with hreach
  · exact ⟨by linarith, by linarith⟩
  · exact ⟨hdt, by linarith⟩

/-- One step from before `c`, by a stepper that overshoots by at most `ε`: the stage keeps a
positive time step, stays within `c + 10⁻¹⁴ + ε`, and records its new time. -/
theorem nextStage_bounds (htake : ∀ t d, 0 < d → 0 < take t d ∧ take t d ≤ d + ε)
    (hfactor : ∀ t d, 0 < factor t d) {s : ExactStage} (hs : s.time < c) (hdt : 0 < s.dt) :
    0 < (nextStage c take factor s).dt ∧ (nextStage c take factor s).time ≤ c + 1e-14 + ε ∧
      (nextStage c take factor s).times = s.times ++ [(nextStage c take factor s).time] := by
  obtain ⟨hpos, hlast⟩ := askedStep_bounds hs hdt
  obtain ⟨htpos, htle⟩ := htake s.time (askedStep c s) hpos
  refine ⟨mul_pos htpos (hfactor _ _), ?_, rfl⟩
  show s.time + take s.time (askedStep c s) ≤ c + 1e-14 + ε
  linarith

/-- Every completed flight of a stage that starts before `c`, by a stepper that overshoots
by at most `ε`, ends between `c` and `c + 10⁻¹⁴ + ε`, and the times it recorded are its last
time behind times before `c`.  By induction on the steps left: each step either lands at or
past `c`, and the next check ends the flight, or lands before `c` and the flight goes on. -/
theorem fly_exact_run (htake : ∀ t d, 0 < d → 0 < take t d ∧ take t d ≤ d + ε)
    (hfactor : ∀ t d, 0 < factor t d) :
    ∀ (fuel : ℕ) (s s' : ExactStage), s.time < c → 0 < s.dt →
      ((exactStage c take factor).fly fuel).run s = some ((), s') →
      s'.time ∈ Icc c (c + 1e-14 + ε) ∧
        ∃ before : List ℝ, s'.times = s.times ++ before ++ [s'.time] ∧ ∀ τ ∈ before, τ < c
  | 0, s, s', _, _, h => by simp [fly_zero] at h
  | fuel + 1, s, s', hs, hdt, h => by
    rw [fly_succ_of_lt hs] at h
    obtain ⟨hdt', hle, htimes⟩ := nextStage_bounds htake hfactor hs hdt
    by_cases hpast : c ≤ (nextStage c take factor s).time
    · -- the step landed at or past `c`: the next check ends the flight there
      cases fuel with
      | zero => simp [fly_zero] at h
      | succ fuel =>
        rw [fly_succ_of_le hpast] at h
        obtain rfl := (Prod.mk.inj (Option.some.inj h)).2
        exact ⟨⟨hpast, hle⟩, [], by simpa using htimes, by simp⟩
    · -- the step landed before `c`: it is one of the times before the last
      obtain ⟨hin, before, hbefore, hlt⟩ :=
        fly_exact_run htake hfactor fuel _ s' (not_le.1 hpast) hdt' h
      refine ⟨hin, (nextStage c take factor s).time :: before, ?_, ?_⟩
      · rw [hbefore, htimes]
        simp
      · intro τ hτ
        rcases List.mem_cons.1 hτ with rfl | hτ
        · exact not_le.1 hpast
        · exact hlt τ hτ

/-- With fixed steps, a stage before `c` that `n` of its time steps bring to `c` ends within
`n + 2` checks, exactly at `c + 10⁻¹⁴`. -/
theorem fly_fixedStep_ends :
    ∀ (n : ℕ) (s : ExactStage), s.time < c → 0 < s.dt → c ≤ s.time + n * s.dt →
      ∃ s', ((exactStage c (fun _ d => d) (fun _ _ => 1)).fly (n + 2)).run s = some ((), s') ∧
        s'.time = c + 1e-14
  | 0, s, hs, _, hn => by
    simp only [Nat.cast_zero, zero_mul, add_zero] at hn
    exact absurd hs (not_lt.2 hn)
  | n + 1, s, hs, hdt, hn => by
    rw [fly_succ_of_lt hs]
    by_cases hreach : c ≤ s.time + s.dt
    · -- the step is replaced by the one to `c + 10⁻¹⁴`, where the next check ends the flight
      have hnext : (nextStage c (fun _ d => d) (fun _ _ => 1) s).time = c + 1e-14 := by
        simp [nextStage, askedStep, hreach]
      refine ⟨_, fly_succ_of_le (by rw [hnext]; linarith) _, hnext⟩
    · -- a whole step, after which `n` more reach `c`
      have hnext : nextStage c (fun _ d => d) (fun _ _ => 1) s =
          { time := s.time + s.dt, dt := s.dt, times := s.times ++ [s.time + s.dt] } := by
        simp [nextStage, askedStep, hreach]
      rw [hnext]
      refine fly_fixedStep_ends n _ (not_le.1 hreach) hdt ?_
      push_cast at hn
      show c ≤ s.time + s.dt + n * s.dt
      linarith

end Loop

/-- In exact arithmetic, a stage that starts before its end time `c` with a positive time
step ends between `c` and `c + 10⁻¹⁴ + ε`, for a stepper that never takes more than `ε`
beyond the step asked, with every time recorded before the last one before `c`; and with
fixed steps the flight does end, exactly at `c + 10⁻¹⁴`. -/
theorem fly_endsAtTime {c : ℝ} {s : ExactStage} (hs : s.time < c) (hdt : 0 < s.dt) :
    (∀ (ε : ℝ) (take factor : ℝ → ℝ → ℝ),
      (∀ t d, 0 < d → 0 < take t d ∧ take t d ≤ d + ε) → (∀ t d, 0 < factor t d) →
      ∀ fuel s', ((exactStage c take factor).fly fuel).run s = some ((), s') →
        s'.time ∈ Icc c (c + 1e-14 + ε) ∧
          ∃ before : List ℝ, s'.times = s.times ++ before ++ [s'.time] ∧ ∀ τ ∈ before, τ < c) ∧
    ∃ fuel s', ((exactStage c (fun _ d => d) (fun _ _ => 1)).fly fuel).run s = some ((), s') ∧
      s'.time = c + 1e-14 := by
  refine ⟨fun ε take factor htake hfactor fuel s' h =>
    fly_exact_run htake hfactor fuel s s' hs hdt h, ?_⟩
  obtain ⟨n, hn⟩ := exists_nat_ge ((c - s.time) / s.dt)
  have hreach : c ≤ s.time + n * s.dt := by
    have := (div_le_iff₀ hdt).1 hn
    linarith
  obtain ⟨s', h, htime⟩ := fly_fixedStep_ends n s hs hdt hreach
  exact ⟨n + 2, s', h, htime⟩

/-- A stage at time zero with steps of `0.01`, flying to `0.015`. -/
theorem fly_endsAtTime_fromZero :
    (0 : ℝ) < 0.015 ∧ (0 : ℝ) < 0.01 ∧
    ((∀ (ε : ℝ) (take factor : ℝ → ℝ → ℝ),
      (∀ t d, 0 < d → 0 < take t d ∧ take t d ≤ d + ε) → (∀ t d, 0 < factor t d) →
      ∀ fuel s', ((exactStage 0.015 take factor).fly fuel).run ⟨0, 0.01, []⟩ = some ((), s') →
        s'.time ∈ Icc 0.015 (0.015 + 1e-14 + ε) ∧
          ∃ before : List ℝ, s'.times = [] ++ before ++ [s'.time] ∧ ∀ τ ∈ before, τ < 0.015) ∧
    ∃ fuel s', ((exactStage 0.015 (fun _ d => d) (fun _ _ => 1)).fly fuel).run ⟨0, 0.01, []⟩ =
        some ((), s') ∧ s'.time = 0.015 + 1e-14) :=
  ⟨by norm_num, by norm_num, fly_endsAtTime (s := ⟨0, 0.01, []⟩) (by norm_num) (by norm_num)⟩

end Mission
end Flight
end RocketSim
