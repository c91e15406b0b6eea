import Mathlib
import RocketSim.Proofs.QuaternionRotations
import RocketSim.Motion.Integration

/-!
# The step-size search of an adaptive step, in exact arithmetic

An adaptive step searches for its step size: it tries the suggested step `dt` first, and
while the error estimate exceeds `20·targetError` it announces that the attempt is
discarded and tries a third of the step, never less than the minimum step `minStep`; it
stops early once the step it tried is close to `minStep`.  The loop is a `while` loop
entered with the error `10000000` standing in for an attempt that never happened.

Here the search runs over the reals, with its attempts and discards recorded.  Round `k`
(from zero) tries the step `max(minStep, dt / 3ᵏ)` (`tried`), so the search reaches the
floor after `⌈log₃(max(dt, minStep) / minStep)⌉` divisions and makes at most one attempt
more than that.

The sentinel error is a real number like any other, and the loop reads it as "no attempt
yet" wherever it appears:
* when `20·targetError` is not below it the loop never runs, and reading its results fails
  (`search_sentinelWithinLimit`);
* an attempt whose error estimate equals it is discarded without the announcement
  (`search_sentinelError_unannounced`).

**Results.**
* `run_loop`: what one round does; `run_loop_stop` and `run_loop_next` read it.
* `loop_rounds`: the rounds from any round on, given the rounds they need.
* `search_boundedRounds`: with a limit below the sentinel and attempts that never report
  it, the search makes at most `⌈log₃(max(dt, minStep) / minStep)⌉ + 1` attempts and one
  discard fewer, returns a step between `minStep` and `max(dt, minStep)`, and an error within
  the limit unless that step is close to `minStep`.
-/

namespace RocketSim
namespace StepSearch

/-! ## Exact semantics -/

/-- What a search does, in order: an attempt at a step, or the announcement that the
attempt before is discarded. -/
inductive Event where
  | attempt (dt : ℝ)
  | discard

/-- Whether an event is an attempt. -/
def Event.isAttempt : Event → Bool
  | .attempt _ => true
  | .discard => false

/-- Whether an event is a discard. -/
def Event.isDiscard : Event → Bool
  | .attempt _ => false
  | .discard => true

/-- Exact computations of a search: they record its events, and fail where reading the
loop's results fails. -/
abbrev Tally := StateT (List Event) Option

/-- Two reals agree up to the relative tolerance `1e-9`, as `math.isclose` decides it. -/
def Close (a b : ℝ) : Prop :=
  a = b ∨ |b - a| ≤ |1e-9 * b| ∨ |b - a| ≤ |1e-9 * a| ∨ |b - a| ≤ 0

noncomputable instance : DecidableRel Close := fun a b =>
  inferInstanceAs (Decidable (a = b ∨ |b - a| ≤ |1e-9 * b| ∨ |b - a| ≤ |1e-9 * a| ∨ |b - a| ≤ 0))

/-- Real arithmetic for the search. -/
noncomputable def exactOps : SearchOps Tally ℝ where
  int n := n
  mul a b := pure (a * b)
  div a b := pure (a / b)
  max a b := pure (if a < b then b else a)
  gt a b := pure (decide (b < a))
  eq a b := pure (decide (a = b))
  isClose a b := pure (decide (Close a b))
  unbound := failure

@[simp] theorem exactOps_int (n : ℤ) : exactOps.int n = n := rfl
@[simp] theorem exactOps_mul (a b : ℝ) : exactOps.mul a b = pure (a * b) := rfl
@[simp] theorem exactOps_div (a b : ℝ) : exactOps.div a b = pure (a / b) := rfl
@[simp] theorem exactOps_gt (a b : ℝ) : exactOps.gt a b = pure (decide (b < a)) := by
  simp [exactOps]
@[simp] theorem exactOps_eq (a b : ℝ) : exactOps.eq a b = pure (decide (a = b)) := by
  simp [exactOps]
@[simp] theorem exactOps_isClose (a b : ℝ) :
    exactOps.isClose a b = pure (decide (Close a b)) := by
  simp [exactOps]
@[simp] theorem exactOps_unbound : exactOps.unbound = failure := rfl

/-- `max(a, b)` keeps `a` unless `b` is greater: the lattice maximum. -/
@[simp] theorem exactOps_max (a b : ℝ) : exactOps.max a b = pure (max a b) := by
  rw [max_def_lt]
  rfl

/-- An attempt with the results `a y dt`, recorded. -/
def tallied (a : ℝ → ℝ → ℝ × ℝ × ℝ × ℝ × ℝ) (y dt : ℝ) : Tally (ℝ × ℝ × ℝ × ℝ × ℝ) := do
  modify (· ++ [.attempt dt])
  pure (a y dt)

/-- The announcement of a discard, recorded. -/
def discarded : Tally Unit := modify (· ++ [.discard])

/-- The results of an attempt as the loop returns them, with the step it tried. -/
def result (o : ℝ × ℝ × ℝ × ℝ × ℝ) (dt : ℝ) : ℝ × ℝ × ℝ × ℝ × ℝ :=
  (o.1, o.2.1, o.2.2.1, o.2.2.2.1, dt)

/-! ## The steps tried -/

section Tried

variable (minStep dt : ℝ)

/-- The step round `k` of a search from `dt` tries. -/
noncomputable def tried (k : ℕ) : ℝ := max minStep (dt / 3 ^ k)

/-- The number of divisions by three that bring `max(dt, minStep)` down to `minStep`. -/
noncomputable def divisions : ℕ := ⌈Real.logb 3 (max dt minStep / minStep)⌉₊

/-- The events of the rounds `j, …, j + n - 1`: every round but the search's first announces
the discard of the attempt before, then tries its step. -/
noncomputable def roundEvents : ℕ → ℕ → List Event
  | _, 0 => []
  | j, n + 1 => (if j = 0 then [] else [.discard]) ++ .attempt (tried minStep dt j) ::
      roundEvents (j + 1) n

variable {minStep dt}

/-- The first round tries the suggested step: the search starts from three times it. -/
theorem tried_zero : tried minStep dt 0 = max minStep (dt * 3 / 3) := by
  simp [tried]

/-- The next round tries a third of the step, never less than `minStep`. -/
theorem tried_succ (hmin : 0 < minStep) (k : ℕ) :
    tried minStep dt (k + 1) = max minStep (tried minStep dt k / 3) := by
  have h : minStep / 3 ≤ minStep := div_le_self hmin.le (by norm_num)
  simp only [tried]
  rw [← max_div_div_right (by norm_num : (0 : ℝ) ≤ 3), ← max_assoc, max_eq_left h, pow_succ,
    div_div]

theorem minStep_le_tried (k : ℕ) : minStep ≤ tried minStep dt k := le_max_left _ _

theorem tried_le (hdt : 0 < dt) (k : ℕ) : tried minStep dt k ≤ max dt minStep := by
  have h : dt / 3 ^ k ≤ dt := div_le_self hdt.le (one_le_pow₀ (by norm_num))
  rw [tried, max_comm dt]
  exact max_le_max le_rfl h

/-- From `divisions` rounds on, the step tried is the floor. -/
theorem tried_of_divisions_le (hmin : 0 < minStep) {k : ℕ} (hk : divisions minStep dt ≤ k) :
    tried minStep dt k = minStep := by
  have hpos : 0 < max dt minStep / minStep := div_pos (lt_max_of_lt_right hmin) hmin
  -- `max dt minStep / minStep ≤ 3 ^ divisions ≤ 3 ^ k`
  have hlog : max dt minStep / minStep ≤ 3 ^ k := by
    have h1 := (Real.logb_le_iff_le_rpow (by norm_num) hpos).1
      ((Nat.le_ceil _).trans (Nat.cast_le.2 hk))
    rwa [Real.rpow_natCast] at h1
  have h3 : 0 < (3 : ℝ) ^ k := by positivity
  have hdiv : dt / 3 ^ k ≤ minStep := by
    rw [div_le_iff₀ h3]
    calc dt ≤ max dt minStep := le_max_left _ _
      _ ≤ 3 ^ k * minStep := (div_le_iff₀ hmin).1 hlog
      _ = minStep * 3 ^ k := mul_comm _ _
  exact max_eq_left hdiv

theorem close_self (x : ℝ) : Close x x := Or.inl rfl

theorem countP_roundEvents (j n : ℕ) :
    (roundEvents minStep dt j n).countP Event.isAttempt = n := by
  induction n generalizing j with
  | zero => rfl
  | succ n ih =>
    by_cases hj : j = 0 <;> simp [roundEvents, List.countP_cons, Event.isAttempt, ih, hj]

theorem countP_discard_roundEvents (n : ℕ) :
    (roundEvents minStep dt 0 (n + 1)).countP Event.isDiscard = n := by
  -- every round after the first announces one discard
  have h : ∀ j n, 0 < j → (roundEvents minStep dt j n).countP Event.isDiscard = n := by
    intro j n hj
    induction n generalizing j with
    | zero => rfl
    | succ n ih =>
      simp [roundEvents, List.countP_cons, Event.isDiscard, hj.ne', ih (j + 1) (Nat.succ_pos j)]
  simp [roundEvents, Event.isDiscard, h 1 n one_pos]

end Tried

/-! ## Rounds -/

section Rounds

variable (a : ℝ → ℝ → ℝ × ℝ × ℝ × ℝ × ℝ) (minStep limit : ℝ)

/-- One round of the search: it announces a discard unless the error before it is the
sentinel, tries a third of the previous step (never less than `minStep`), and stops when
that step is close to `minStep`, when the error is within the limit, or when no round is
left. -/
theorem run_loop (r : ℕ) (lastErr dtIn y : ℝ) (tr : List Event) :
    (loop exactOps (tallied a) discarded minStep limit 10000000 r lastErr dtIn y).run tr =
      let dt := max minStep (dtIn / 3)
      let o := a y dt
      let tr' := tr ++ ((if lastErr = 10000000 then [] else [.discard]) ++ [.attempt dt])
      if Close dt minStep ∨ ¬ limit < o.2.2.1 then some (result o dt, tr')
      else match r with
        | 0 => some (result o dt, tr')
        | r + 1 => (loop exactOps (tallied a) discarded minStep limit 10000000 r o.2.2.1 dt
            o.2.2.2.2).run tr' := by
  rw [loop]
  simp only [exactOps_eq, exactOps_max, exactOps_div, exactOps_int, exactOps_isClose,
    exactOps_gt, pure_bind, tallied, discarded, Int.cast_ofNat]
  -- the three exits of the round; only the one over the limit reads the rounds left
  by_cases hc : Close (max minStep (dtIn / 3)) minStep
  · by_cases he : lastErr = 10000000 <;> simp [he, hc, result]
  · by_cases hl : limit < (a y (max minStep (dtIn / 3))).2.2.1
    · by_cases he : lastErr = 10000000 <;> cases r <;> simp [he, hc, hl, result]
    · by_cases he : lastErr = 10000000 <;> simp [he, hc, hl, result]

variable {a minStep limit} {dt : ℝ}

/-- A round whose step is close to the floor, or whose error is within the limit, ends the
search. -/
theorem run_loop_stop {r j : ℕ} {lastErr dtIn y : ℝ} (tr : List Event)
    (hdt : max minStep (dtIn / 3) = tried minStep dt j) (hlast : lastErr = 10000000 ↔ j = 0)
    (hstop : Close (tried minStep dt j) minStep ∨ (a y (tried minStep dt j)).2.2.1 ≤ limit) :
    (loop exactOps (tallied a) discarded minStep limit 10000000 r lastErr dtIn y).run tr =
      some (result (a y (tried minStep dt j)) (tried minStep dt j),
        tr ++ roundEvents minStep dt j 1) := by
  have hstop' : Close (tried minStep dt j) minStep ∨
      ¬ limit < (a y (tried minStep dt j)).2.2.1 := hstop.imp_right not_lt.2
  rw [run_loop]
  simp only [hdt]
  rw [if_pos hstop']
  simp [roundEvents, hlast]

/-- A round whose step is not close to the floor and whose error exceeds the limit hands its
error, step and state to the next round. -/
theorem run_loop_next {r j : ℕ} {lastErr dtIn y : ℝ} (tr : List Event)
    (hdt : max minStep (dtIn / 3) = tried minStep dt j) (hlast : lastErr = 10000000 ↔ j = 0)
    (hfar : ¬ Close (tried minStep dt j) minStep)
    (hover : limit < (a y (tried minStep dt j)).2.2.1) :
    (loop exactOps (tallied a) discarded minStep limit 10000000 (r + 1) lastErr dtIn y).run tr =
      (loop exactOps (tallied a) discarded minStep limit 10000000 r
        (a y (tried minStep dt j)).2.2.1 (tried minStep dt j)
        (a y (tried minStep dt j)).2.2.2.2).run (tr ++ roundEvents minStep dt j 1) := by
  rw [run_loop, hdt]
  simp [hfar, hover, roundEvents, hlast]

/-- The rounds from round `j` on, entered with the step of the round before (for the first
round, three times the suggested step) and with the sentinel as the error before exactly
for the first round.  Given rounds enough to reach the floor, and attempts that never report
the sentinel, they make `n + 1` attempts, `j + n` not past the floor's round, and end with
the last attempt's step and an error within the limit unless that step is close to the
floor.  By induction on the rounds left. -/
theorem loop_rounds (hmin : 0 < minStep) (hsent : ∀ y s, (a y s).2.2.1 ≠ 10000000) (r : ℕ) :
    ∀ (j : ℕ) (lastErr dtIn y : ℝ) (tr : List Event),
      max minStep (dtIn / 3) = tried minStep dt j → (lastErr = 10000000 ↔ j = 0) →
      j ≤ divisions minStep dt → divisions minStep dt ≤ j + r →
      ∃ n res, j + n ≤ divisions minStep dt ∧
        (loop exactOps (tallied a) discarded minStep limit 10000000 r lastErr dtIn y).run tr =
          some (res, tr ++ roundEvents minStep dt j (n + 1)) ∧
        res.2.2.2.2 = tried minStep dt (j + n) ∧
        (res.2.2.1 ≤ limit ∨ Close res.2.2.2.2 minStep) := by
  induction r with
  | zero =>
    intro j lastErr dtIn y tr hdt hlast hj hr
    -- no round is left, so this one is at the floor
    have hfloor : tried minStep dt j = minStep := tried_of_divisions_le hmin (by omega)
    refine ⟨0, _, by omega, run_loop_stop tr hdt hlast (.inl ?_), rfl, .inr ?_⟩
    · rw [hfloor]
      exact close_self _
    · simp [result, hfloor, close_self]
  | succ r ih =>
    intro j lastErr dtIn y tr hdt hlast hj hr
    by_cases hstop : Close (tried minStep dt j) minStep ∨ (a y (tried minStep dt j)).2.2.1 ≤ limit
    · refine ⟨0, _, by omega, run_loop_stop tr hdt hlast hstop, rfl, ?_⟩
      simpa [result, or_comm] using hstop
    · obtain ⟨hfar, hover⟩ := not_or.1 hstop
      -- a step away from the floor is tried before the floor's round
      have hjlt : j < divisions minStep dt := by
        by_contra h
        exact hfar (by rw [tried_of_divisions_le hmin (by omega)]; exact close_self _)
      obtain ⟨n, res, hn, hrun, hres, herr⟩ := ih (j + 1) (a y (tried minStep dt j)).2.2.1
        (tried minStep dt j) (a y (tried minStep dt j)).2.2.2.2 (tr ++ roundEvents minStep dt j 1)
        (tried_succ hmin j).symm (by simp [hsent]) hjlt (by omega)
      refine ⟨n + 1, res, by omega, ?_, by rw [hres, add_right_comm, add_assoc], herr⟩
      rw [run_loop_next tr hdt hlast hfar (lt_of_not_ge hover), hrun, List.append_assoc]
      simp [roundEvents]

end Rounds

/-! ## The search -/

section Search

variable (a : ℝ → ℝ → ℝ × ℝ × ℝ × ℝ × ℝ)

/-- The search sets the limit to `20·targetError`.  When the sentinel does not exceed it,
reading the loop's results fails; otherwise the loop starts from three times the suggested
step, with the sentinel as its error. -/
theorem run_search (targetError minStep dt y : ℝ) (rounds : ℕ) (tr : List Event) :
    (search exactOps (tallied a) discarded targetError minStep dt y rounds).run tr =
      if 10000000 ≤ 20 * targetError then none
      else (loop exactOps (tallied a) discarded minStep (20 * targetError) 10000000 rounds 10000000
          (dt * 3) y).run tr := by
  by_cases h : (10000000 : ℝ) ≤ 20 * targetError <;> simp [search, h]

/-- A limit `20·targetError` that the sentinel does not exceed makes the search fail before
any attempt. -/
theorem search_sentinelWithinLimit {targetError : ℝ} (minStep dt y : ℝ) (rounds : ℕ)
    (tr : List Event) (h : 10000000 ≤ 20 * targetError) :
    (search exactOps (tallied a) discarded targetError minStep dt y rounds).run tr = none := by
  rw [run_search, if_pos h]

/-- An attempt that reports exactly the sentinel error is discarded without the
announcement: when the first attempt's error is the sentinel (above the limit, at a step away
from the floor) and the second's is within the limit, the search makes two attempts and
announces no discard. -/
theorem search_sentinelError_unannounced {targetError minStep dt y : ℝ} {rounds : ℕ}
    (hmin : 0 < minStep) (hlimit : 20 * targetError < 10000000)
    (hfar : ¬ Close (tried minStep dt 0) minStep)
    (hfirst : (a y (tried minStep dt 0)).2.2.1 = 10000000)
    (hsecond : (a (a y (tried minStep dt 0)).2.2.2.2 (tried minStep dt 1)).2.2.1 ≤
      20 * targetError) :
    (search exactOps (tallied a) discarded targetError minStep dt y (rounds + 1)).run [] =
      some (result (a (a y (tried minStep dt 0)).2.2.2.2 (tried minStep dt 1)) (tried minStep dt 1),
        [.attempt (tried minStep dt 0), .attempt (tried minStep dt 1)]) := by
  have h0 : max minStep (dt * 3 / 3) = tried minStep dt 0 := tried_zero.symm
  have h1 : max minStep (tried minStep dt 0 / 3) = tried minStep dt 1 := (tried_succ hmin 0).symm
  -- the second round reads the sentinel as "no attempt before" and announces nothing
  rw [run_search, if_neg (not_le.2 hlimit), run_loop_next [] h0 (by simp) hfar (hfirst ▸ hlimit),
    hfirst, run_loop]
  simp [h1, not_lt.2 hsecond, roundEvents]

/-- The step-size search in exact arithmetic, with a limit `20·targetError` below the
sentinel and attempts that never report the sentinel error as theirs, given rounds enough to
reach the floor: it makes at most `⌈log₃(max(dt, minStep) / minStep)⌉ + 1` attempts and
announces one discard fewer, and returns a step `dtRet` with
`minStep ≤ dtRet ≤ max(dt, minStep)` and an error within `20·targetError` unless `dtRet` is
close to `minStep`. -/
theorem search_boundedRounds (targetError minStep dt y : ℝ) (rounds : ℕ)
    (hmin : 0 < minStep) (hdt : 0 < dt) (hlimit : 20 * targetError < 10000000)
    (hsent : ∀ y s, (a y s).2.2.1 ≠ 10000000)
    (hrounds : ⌈Real.logb 3 (max dt minStep / minStep)⌉₊ ≤ rounds) :
    ∃ r d e last dtRet events,
      (search exactOps (tallied a) discarded targetError minStep dt y rounds).run [] =
        some ((r, d, e, last, dtRet), events) ∧
      events.countP Event.isAttempt ≤ ⌈Real.logb 3 (max dt minStep / minStep)⌉₊ + 1 ∧
      events.countP Event.isDiscard + 1 = events.countP Event.isAttempt ∧
      minStep ≤ dtRet ∧ dtRet ≤ max dt minStep ∧
      (e ≤ 20 * targetError ∨ Close dtRet minStep) := by
  have h0 : max minStep (dt * 3 / 3) = tried minStep dt 0 := tried_zero.symm
  obtain ⟨n, ⟨r, d, e, last, dtRet⟩, hn, hrun, hres, herr⟩ :=
    @loop_rounds a minStep (20 * targetError) dt hmin hsent rounds 0 10000000 (dt * 3) y [] h0
      (by simp) (Nat.zero_le _) (by simpa [divisions] using hrounds)
  simp only at hres herr
  refine ⟨r, d, e, last, dtRet, roundEvents minStep dt 0 (n + 1), ?_, ?_, ?_, ?_, ?_, herr⟩
  · rw [run_search, if_neg (not_le.2 hlimit), hrun, List.nil_append]
  · rw [countP_roundEvents]
    simpa [divisions] using hn
  · rw [countP_roundEvents, countP_discard_roundEvents]
  · rw [hres]
    exact minStep_le_tried _
  · rw [hres]
    exact tried_le hdt _

/-- From the suggested step `9` down to the floor `1` takes two divisions by three. -/
theorem ceil_logb_nine : ⌈Real.logb 3 (max 9 1 / 1)⌉₊ = 2 := by
  have h : Real.logb 3 9 = 2 := by
    rw [show (9 : ℝ) = 3 ^ 2 by norm_num, Real.logb_pow, Real.logb_self_eq_one (by norm_num)]
    norm_num
  norm_num [h]

/-- A search from the step `9` with the floor `1`, given two rounds after its first, with
attempts that keep the state and report no error. -/
theorem search_boundedRounds_fromNine :
    (0 : ℝ) < 1 ∧ (0 : ℝ) < 9 ∧ 20 * (1 / 1000 : ℝ) < 10000000 ∧
    (∀ y s : ℝ, ((fun y _ => (y, 0, 0, 0, y)) y s : ℝ × ℝ × ℝ × ℝ × ℝ).2.2.1 ≠ 10000000) ∧
    ⌈Real.logb 3 (max 9 1 / 1)⌉₊ ≤ 2 ∧
    ∃ r d e last dtRet events,
      (search exactOps (tallied fun y _ => (y, 0, 0, 0, y)) discarded (1 / 1000) 1 9 1 2).run [] =
        some ((r, d, e, last, dtRet), events) ∧
      events.countP Event.isAttempt ≤ ⌈Real.logb 3 (max 9 1 / 1)⌉₊ + 1 ∧
      events.countP Event.isDiscard + 1 = events.countP Event.isAttempt ∧
      1 ≤ dtRet ∧ dtRet ≤ max 9 1 ∧ (e ≤ 20 * (1 / 1000) ∨ Close dtRet 1) :=
  have hsent : ∀ y s : ℝ, ((fun y _ => (y, 0, 0, 0, y)) y s : ℝ × ℝ × ℝ × ℝ × ℝ).2.2.1 ≠ 10000000 :=
    fun _ _ => by norm_num
  ⟨by norm_num, by norm_num, by norm_num, hsent, ceil_logb_nine.le,
    search_boundedRounds _ (1 / 1000) 1 9 1 2 (by norm_num) (by norm_num) (by norm_num) hsent
      ceil_logb_nine.le⟩

end Search

end StepSearch
end RocketSim
