import Mathlib
import RocketSim.Environment.Turbulence

/-!
# Queries of a pink noise generator

A pink noise generator answers a query at a time by drawing samples of its filter, one per
sampling step of its clock, while the clock is before the time; it answers the sample whose
tick lands on the time, and otherwise the value at the time on the line through its two newest
samples.

The samples are the seed's: whatever the queries, the generator only ever moves along one
sequence of states, `g.ticked n`, the generator after `n` ticks.  What the queries change is
how far along it is.  A query's answer is therefore a function of its time and of the number of
samples drawn before it, not of its time alone: a query at a time the clock has already passed
draws nothing and answers from the two newest samples (`Query.draws_nothing`), extrapolating
from them when the time lies before the older one.

* `Query g t d x`: a query at `t` draws `d` samples from `g` and answers `x`.
* `valueAt_eq`: a query on a well-formed generator does exactly that.
* `queryAll_answers`: a run of queries, each from where the one before left the generator.
* `queries_readSampleStream`: every generator the program builds, with two poles or more,
  answers every run of queries at numeric times so.
-/

namespace RocketSim
namespace PinkNoise

open Arith

/-! ## The sample stream -/

/-- The clock as binary64; it is an integer until the first tick. -/
def clock (g : PinkNoise) : Float := g.lastValTime.toFloat?.getD 0.0

/-- One tick: the next sample of the filter drawn, and the clock moved on by one sampling
step. -/
def tick (g : PinkNoise) : PinkNoise :=
  { g.nextSample.2 with lastValTime := .float (g.clock + g.timeStep) }

/-- The generator `n` ticks on. -/
def ticked (g : PinkNoise) (n : Nat) : PinkNoise := tick^[n] g

@[simp] theorem ticked_zero (g : PinkNoise) : g.ticked 0 = g := rfl

@[simp] theorem ticked_one (g : PinkNoise) : g.ticked 1 = g.tick := rfl

theorem ticked_succ (g : PinkNoise) (n : Nat) : g.ticked (n + 1) = g.tick.ticked n :=
  Function.iterate_succ_apply tick n g

theorem ticked_succ_tick (g : PinkNoise) (n : Nat) : g.ticked (n + 1) = (g.ticked n).tick :=
  Function.iterate_succ_apply' tick n g

theorem ticked_add (g : PinkNoise) (m n : Nat) : (g.ticked m).ticked n = g.ticked (m + n) := by
  simp only [ticked, ← Function.iterate_add_apply, Nat.add_comm]

@[simp] theorem nextSample_lastValTime (g : PinkNoise) :
    g.nextSample.2.lastValTime = g.lastValTime := rfl

@[simp] theorem nextSample_timeStep (g : PinkNoise) : g.nextSample.2.timeStep = g.timeStep := rfl

@[simp] theorem nextSample_poles (g : PinkNoise) : g.nextSample.2.poles = g.poles := rfl

@[simp] theorem nextSample_nextIndex (g : PinkNoise) :
    g.nextSample.2.nextIndex = (g.nextIndex + 1) % g.poles := rfl

@[simp] theorem length_nextSample (g : PinkNoise) :
    g.nextSample.2.lastValues.length = g.lastValues.length := by
  simp [nextSample, normal]

/-! ## The clock -/

/-- A clock that the program's addition moves on as binary64: an integer, as a new generator's
is, or a binary64 value, as it is after a tick. -/
def HasClock (v : Value) : Prop := (∃ k, v = .int k) ∨ ∃ x, v = .float x

theorem HasClock.isNumber {v : Value} (h : HasClock v) : v.isNumber := by
  obtain ⟨k, rfl⟩ | ⟨x, rfl⟩ := h <;> rfl

theorem hasClock_tick (g : PinkNoise) : HasClock g.tick.lastValTime := .inr ⟨_, rfl⟩

theorem add_clock {c : Value} (hc : HasClock c) (h : Float) :
    Ops.add c (.float h) = pure (.float (c.toFloat?.getD 0.0 + h)) := by
  obtain ⟨k, rfl⟩ | ⟨x, rfl⟩ := hc <;> rfl

theorem eq_clock {c : Value} (hc : HasClock c) {t : Value} (ht : t.isNumber) :
    Ops.eq c t = pure (numbersEqual c t) := by
  obtain ⟨k, rfl⟩ | ⟨x, rfl⟩ := hc <;> cases t <;> simp [Value.isNumber] at ht <;> rfl

theorem gt_clock {c : Value} (hc : HasClock c) {t : Value} (ht : t.isNumber) :
    Ops.gt t c = pure (compareNumbers c t == some .lt) := by
  simp [Ops.gt, Ops.lt, hc.isNumber, ht]

theorem real_of_isNumber {v : Value} (h : v.isNumber) : Ops.real v = pure (v.toFloat?.getD 0.0) := by
  cases v <;> simp [Value.isNumber] at h <;> rfl

/-! ## Well-formed generators -/

/-- What every generator with two poles or more that the program builds satisfies: a history
of one sample per pole with the next slot inside it, and a clock. -/
structure Ready (g : PinkNoise) : Prop where
  two_le_poles : 2 ≤ g.poles
  length_lastValues : g.lastValues.length = g.poles
  nextIndex_lt : g.nextIndex < g.poles
  hasClock : HasClock g.lastValTime

theorem Ready.nextSample {g : PinkNoise} (h : Ready g) : Ready g.nextSample.2 where
  two_le_poles := h.two_le_poles
  length_lastValues := by simp [h.length_lastValues]
  nextIndex_lt := by simpa using Nat.mod_lt _ (by have := h.two_le_poles; omega)
  hasClock := h.hasClock

theorem Ready.tick {g : PinkNoise} (h : Ready g) : Ready g.tick :=
  { h.nextSample with hasClock := hasClock_tick g }

theorem Ready.ticked {g : PinkNoise} (h : Ready g) (n : Nat) : Ready (g.ticked n) := by
  induction n with
  | zero => exact h
  | succ n ih => rw [ticked_succ_tick]; exact ih.tick

/-- A Python index from `-n` up to `n` into a list of length `n` is inside it. -/
theorem index_inside {i n : Int} (hlo : -n ≤ i) (hhi : i < n) :
    (decide ((if i < 0 then i + n else i) < 0) || decide ((if i < 0 then i + n else i) ≥ n)) =
      false := by
  split_ifs <;> simp <;> omega

/-- The two newest samples of a well-formed generator are in its history, so the line through
them has a value everywhere. -/
theorem interpolated_ok {g : PinkNoise} (h : Ready g) (x c : Float) :
    ∃ y, g.interpolated x c = .ok y := by
  have h2 := h.two_le_poles
  have hl := h.length_lastValues
  have hi := h.nextIndex_lt
  simp (disch := omega) only [interpolated, index_inside, Bool.false_eq_true, if_false]
  exact ⟨_, rfl⟩

/-! ## Building a generator -/

theorem value_null {g : PinkNoise} (hpoles : g.poles ≠ 0) :
    g.value .null = pure (.ok g.nextSample.1, g.nextSample.2) := by
  have hp : (g.poles == 0) = false := by simpa using hpoles
  simp only [value, hp, Bool.false_eq_true, if_false]

/-- Filling the history draws one normal deviate per slot and changes nothing but the random
source. -/
theorem fill_eq (g : PinkNoise) : ∀ (l : List Nat) (vals : List Float), ∃ ws r,
    l.foldl (fun (acc : List Float × PinkNoise) _ => (acc.1 ++ [acc.2.normal.1], acc.2.normal.2))
      (vals, g) = (vals ++ ws, { g with rng := r }) ∧ ws.length = l.length
  | [], vals => ⟨[], g.rng, by simp, rfl⟩
  | _ :: l, vals => by
    obtain ⟨ws, r, h, hl⟩ := fill_eq g.normal.2 l (vals ++ [g.normal.1])
    refine ⟨g.normal.1 :: ws, r, ?_, by simp [hl]⟩
    rw [List.foldl_cons]
    refine h.trans ?_
    rw [List.append_assoc, List.singleton_append]
    rfl

/-- A generator with `k ≥ 2` poles is well formed, and its clock starts at the integer `0`. -/
theorem make_ready (alpha seed frequency : Value) {k : Int} (hk : 2 ≤ k) :
    SatisfiesM (fun g => Ready g ∧ g.lastValTime = .int 0) (make alpha seed (.int k) frequency) := by
  unfold make
  dsimp only
  have hk' : ¬ k < 0 := by omega
  -- a drawn seed and a given one lead to the same steps
  split
  all_goals
    refine SatisfiesM.bind_pre (SatisfiesM.of_true fun _ => ?_)
    refine SatisfiesM.bind_pre (SatisfiesM.of_true fun rng => ?_)
    simp only [hk', if_false, pure_bind]
    iterate 4 refine SatisfiesM.bind_pre (SatisfiesM.of_true fun _ => ?_)
    obtain ⟨ws, r, hfill, hlen⟩ := fill_eq _ (List.range k.toNat) []
    rw [hfill]
    refine List.satisfiesM_foldlM ⟨⟨?_, ?_, ?_, .inl ⟨0, rfl⟩⟩, rfl⟩ fun g hg _ _ => ?_
    · show 2 ≤ k.toNat
      omega
    · show ([] ++ ws).length = k.toNat
      simp [hlen]
    · show 0 < k.toNat
      omega
    · -- the warm-up draws leave the clock where it is
      have hpoles : g.poles ≠ 0 := by have := hg.1.two_le_poles; omega
      rw [value_null hpoles, pure_bind]
      exact SatisfiesM.pure ⟨hg.1.nextSample, hg.2⟩

/-! ## One query -/

/-- What a query that drew `d` samples found on the way: the last sample drawn, when its tick
landed on the time. -/
def landed (g : PinkNoise) (t : Value) : Nat → Option Float
  | 0 => none
  | d + 1 =>
    if numbersEqual (g.ticked (d + 1)).lastValTime t then some (g.ticked d).nextSample.1 else none

/-- A tick that does not land on the time leaves what the rest of the search finds. -/
theorem landed_succ {g : PinkNoise} {t : Value} (h : numbersEqual g.tick.lastValTime t = false)
    (d : Nat) : g.landed t (d + 1) = g.tick.landed t d := by
  cases d with
  | zero => simp [landed, h]
  | succ d => simp only [landed, ticked_succ g]

/-- The most samples one query at `x` draws: ten more than the whole sampling steps from the
clock to `x`, or one when that count is not a finite number at least `0`. -/
def drawBound (g : PinkNoise) (x : Float) : Nat :=
  let steps := (x - g.clock) / g.timeStep
  if steps.isNaN || steps.isInf || steps < 0.0 then 1 else steps.toUInt64.toNat + 10

/-- A clock that is not before the time stops the search at once. -/
theorem advance_stop {t : Value} (ht : t.isNumber) {g : PinkNoise} (hg : HasClock g.lastValTime)
    (hlt : compareNumbers g.lastValTime t ≠ some .lt) (fuel : Nat) :
    value.advance t fuel g = pure (none, g) := by
  cases fuel with
  | zero => rfl
  | succ fuel =>
    rw [value.advance]
    simp [gt_clock hg ht, hlt]

/-- A clock before the time makes the search tick, and stop if the tick lands on the time. -/
theorem advance_draw {t : Value} (ht : t.isNumber) {g : PinkNoise} (hg : HasClock g.lastValTime)
    (hlt : compareNumbers g.lastValTime t = some .lt) (fuel : Nat) :
    value.advance t (fuel + 1) g = if numbersEqual g.tick.lastValTime t then
      pure (some g.nextSample.1, g.tick) else value.advance t fuel g.tick := by
  rw [value.advance]
  simp only [gt_clock hg ht, hlt, beq_self_eq_true, Bool.not_true, Bool.false_eq_true, if_false,
    nextSample_lastValTime, nextSample_timeStep, add_clock hg, pure_bind]
  rw [eq_clock (.inr ⟨_, rfl⟩) ht, pure_bind]
  rfl

/-- The search of one query draws while the clock is before the time, and stops when a tick
lands on the time, when the clock has passed it, or when its fuel runs out. -/
theorem advance_eq {t : Value} (ht : t.isNumber) : ∀ (fuel : Nat) (g : PinkNoise),
    HasClock g.lastValTime → ∃ d, value.advance t fuel g = pure (g.landed t d, g.ticked d) ∧
      d ≤ fuel ∧ (∀ i < d, compareNumbers (g.ticked i).lastValTime t = some .lt) ∧
      (compareNumbers (g.ticked d).lastValTime t = some .lt → d = fuel)
  | 0, g, _ => ⟨0, rfl, le_rfl, by simp, fun _ => rfl⟩
  | fuel + 1, g, hg => by
    by_cases hlt : compareNumbers g.lastValTime t = some .lt
    case neg => exact ⟨0, advance_stop ht hg hlt _, Nat.zero_le _, by simp, fun h => absurd h hlt⟩
    case pos =>
      rw [advance_draw ht hg hlt]
      by_cases heq : numbersEqual g.tick.lastValTime t
      case pos =>
        refine ⟨1, by simp [heq, landed], by omega, ?_, fun h => ?_⟩
        · intro i hi
          obtain rfl : i = 0 := by omega
          exact hlt
        · -- a clock that landed on the time is not before it
          rw [ticked_one] at h
          simp [numbersEqual, h] at heq
      case neg =>
        obtain ⟨d, hd, hle, hbefore, hstop⟩ := advance_eq ht fuel g.tick (hasClock_tick g)
        refine ⟨d + 1, ?_, by omega, ?_, ?_⟩
        · simp only [heq, Bool.false_eq_true, if_false, hd, ticked_succ,
            landed_succ (Bool.eq_false_iff.mpr heq)]
        · intro i hi
          cases i with
          | zero => exact hlt
          | succ i => rw [ticked_succ]; exact hbefore i (by omega)
        · intro h
          rw [ticked_succ] at h
          rw [hstop h]

theorem value_eq {g : PinkNoise} (hpoles : g.poles ≠ 0) (hg : HasClock g.lastValTime) {t : Value}
    (ht : t.isNumber) : ∃ d, g.value t = pure ((g.landed t d).elim
        ((g.ticked d).interpolated (t.toFloat?.getD 0.0) (g.ticked d).clock) .ok, g.ticked d) ∧
      d ≤ g.drawBound (t.toFloat?.getD 0.0) ∧
      (∀ i < d, compareNumbers (g.ticked i).lastValTime t = some .lt) ∧
      (compareNumbers (g.ticked d).lastValTime t = some .lt →
        d = g.drawBound (t.toFloat?.getD 0.0)) := by
  obtain ⟨d, hd, hle, hbefore, hstop⟩ := advance_eq ht (g.drawBound (t.toFloat?.getD 0.0)) g hg
  refine ⟨d, ?_, hle, hbefore, hstop⟩
  have hp : (g.poles == 0) = false := by simpa using hpoles
  have hclock : HasClock (g.ticked d).lastValTime := by
    cases d with
    | zero => exact hg
    | succ d => rw [ticked_succ_tick]; exact hasClock_tick _
  unfold value
  simp only [hp, Bool.false_eq_true, if_false]
  split
  · simp [Value.isNumber] at ht
  · simp only [real_of_isNumber ht, real_of_isNumber hg.isNumber, pure_bind]
    show value.advance t (g.drawBound (t.toFloat?.getD 0.0)) g >>= _ = _
    rw [hd, pure_bind]
    cases g.landed t d with
    | some s => rfl
    | none => simp only [real_of_isNumber hclock.isNumber, pure_bind]; rfl

/-- A query at time `t` that draws `d` samples from `g` and answers `x`: it draws while the
clock is before `t`, stopping there or when its bound runs out, and answers the last sample
drawn when that sample's tick landed on `t`, else the value at `t` on the line through the two
newest samples. -/
structure Query (g : PinkNoise) (t : Value) (d : Nat) (x : Float) : Prop where
  bounded : d ≤ g.drawBound (t.toFloat?.getD 0.0)
  before : ∀ i < d, compareNumbers (g.ticked i).lastValTime t = some .lt
  reached : compareNumbers (g.ticked d).lastValTime t = some .lt →
    d = g.drawBound (t.toFloat?.getD 0.0)
  answer : g.landed t d = some x ∨ (g.landed t d = none ∧
    (g.ticked d).interpolated (t.toFloat?.getD 0.0) (g.ticked d).clock = .ok x)

/-- A query at a time the clock is not before draws nothing, and answers the value at that
time on the line through the two newest samples, however far before them the time lies. -/
theorem Query.draws_nothing {g : PinkNoise} {t : Value} {d : Nat} {x : Float}
    (hq : Query g t d x) (h : compareNumbers g.lastValTime t ≠ some .lt) :
    d = 0 ∧ g.interpolated (t.toFloat?.getD 0.0) g.clock = .ok x := by
  have hd : d = 0 := by
    by_contra hne
    exact h (hq.before 0 (Nat.pos_of_ne_zero hne))
  subst hd
  rcases hq.answer with h1 | ⟨_, h2⟩
  · simp [landed] at h1
  · exact ⟨rfl, h2⟩

/-- A query at a numeric time on a well-formed generator answers, as `Query` says. -/
theorem valueAt_eq {g : PinkNoise} (hg : Ready g) {t : Value} (ht : t.isNumber) :
    ∃ d x, g.valueAt t = pure (x, g.ticked d) ∧ Query g t d x := by
  have hpoles : g.poles ≠ 0 := by have := hg.two_le_poles; omega
  obtain ⟨d, hd, hle, hbefore, hstop⟩ := value_eq hpoles hg.hasClock ht
  simp only [valueAt, hd, pure_bind]
  cases hl : g.landed t d with
  | some x => exact ⟨d, x, rfl, hle, hbefore, hstop, .inl hl⟩
  | none =>
    obtain ⟨x, hx⟩ := interpolated_ok (hg.ticked d) (t.toFloat?.getD 0.0) (g.ticked d).clock
    refine ⟨d, x, ?_, hle, hbefore, hstop, .inr ⟨hl, hx⟩⟩
    simp only [Option.elim, hx]
    rfl

/-! ## Runs of queries -/

/-- Queries at the given times, one after another, each on the generator the one before
left. -/
def queryAll : PinkNoise → List Value → Sim (List Float × PinkNoise)
  | g, [] => pure ([], g)
  | g, t :: ts => do
    let (x, g) ← g.valueAt t
    let (xs, g) ← queryAll g ts
    pure (x :: xs, g)

/-- Queries at `ts`, one after another from `g`, answer `xs` and draw `n` samples in all; each
query starts where the samples drawn before it left the stream. -/
inductive Answers : PinkNoise → List Value → List Float → Nat → Prop
  | nil (g : PinkNoise) : Answers g [] [] 0
  | cons {g : PinkNoise} {t : Value} {d : Nat} {x : Float} {ts : List Value} {xs : List Float}
      {n : Nat} : Query g t d x → Answers (g.ticked d) ts xs n →
      Answers g (t :: ts) (x :: xs) (d + n)

/-- Every run of queries at numeric times on a well-formed generator answers, moving the
generator along its own stream. -/
theorem queryAll_answers {g : PinkNoise} (hg : Ready g) (ts : List Value)
    (hts : ∀ t ∈ ts, t.isNumber) :
    ∃ xs n, g.queryAll ts = pure (xs, g.ticked n) ∧ Answers g ts xs n := by
  induction ts generalizing g with
  | nil => exact ⟨[], 0, rfl, .nil g⟩
  | cons t ts ih =>
    obtain ⟨d, x, hx, hq⟩ := valueAt_eq hg (hts t List.mem_cons_self)
    obtain ⟨xs, n, hxs, hans⟩ := ih (hg.ticked d) fun t' ht' => hts t' (List.mem_cons_of_mem t ht')
    refine ⟨x :: xs, d + n, ?_, .cons hq hans⟩
    simp only [queryAll, hx, hxs, pure_bind, ticked_add]

/-- **Queries read the seed's stream.**  Every generator built with two poles or more starts its
clock at `0`, and answers every run of queries at numeric times: the queries move it along the
one stream of samples its seed fixes, and each answers from where the queries before it left
that stream. -/
theorem queries_readSampleStream (alpha seed frequency : Value) {k : Int} (hk : 2 ≤ k) :
    SatisfiesM (fun g => g.lastValTime = .int 0 ∧ ∀ ts : List Value, (∀ t ∈ ts, t.isNumber) →
      ∃ xs n, g.queryAll ts = pure (xs, g.ticked n) ∧ Answers g ts xs n)
      (make alpha seed (.int k) frequency) :=
  (make_ready alpha seed frequency hk).imp fun ⟨hg, h0⟩ => ⟨h0, queryAll_answers hg⟩

/-- The turbulence models' generator: spectral exponent `5/3`, two poles, `20 Hz`. -/
theorem queries_readSampleStream_standard : (2 : Int) ≤ 2 ∧
    SatisfiesM (fun g => g.lastValTime = .int 0 ∧ ∀ ts : List Value, (∀ t ∈ ts, t.isNumber) →
      ∃ xs n, g.queryAll ts = pure (xs, g.ticked n) ∧ Answers g ts xs n)
      (make (.float (5.0 / 3.0)) (.int 1) (.int 2) (.int 20)) :=
  ⟨by decide, queries_readSampleStream _ _ _ (by decide)⟩

end PinkNoise
end RocketSim
