import Mathlib
import RocketSim.Proofs.QuaternionRotations
import RocketSim.Proofs.SimRuns
import RocketSim.Batch.Run

/-!
# Smoothed sweeps and the checks of their results

A smoothed sweep fills each interval between two given conditions with nine evenly spaced
ones.  It does so in place, interval after interval: condition `p` of interval `i` is
inserted at `10 i + p`, read off the condition at `10 i` and the one now at `10 i + p`.
Since the `p - 1` conditions inserted before it push the interval's right end to exactly
`10 i + p`, every condition is read off the two given ones, and a list of `n` conditions
becomes `smooth f` of it (`addPointsWith_exact`): `10 (n - 1) + 1` conditions, the given ones at
the multiples of ten and `f a b j` at `10 i + j`.

A parameter-sweep case of a batch then compares the logged values at every tenth place with
its expectations (`sweepComparisons`).  Several expected values are compared with the values
at the given conditions, one each.  A single expected value is compared with as many values
as the rounded tenth of their count, `n - 1` of them: the last given condition is never
checked.  Values recorded in record mode are one per logged value, `10 (n - 1) + 1` of
them, so checking a case against them reads past the end of the log and faults.

**Results.**
* `smooth_length`, `smooth_getElem_ten_mul`, `smooth_getElem_fill`: the smoothed list.
* `partlySmoothed`: a list part way through its smoothing, the invariant of both loops.
* `addPointsWith_exact`: the loops smooth every list.
* `sweepComparisons_several`, `sweepComparisons_constant`, `compareSweep_recorded`: the checks.
* `smoothedSweep_checks`: all of it for values in a real vector space.
-/

namespace RocketSim
namespace Flight
namespace Sweep

section Smooth

variable {β : Type} (f : β → β → ℕ → β)

/-- The nine conditions strictly between `a` and `b`, the `j`-th of them `f a b j`. -/
def fill (a b : β) : List β := (List.range' 1 9).map (f a b)

/-- A list of conditions with the nine conditions of `fill` inserted into each interval. -/
def smooth : List β → List β
  | a :: b :: rest => a :: (fill f a b ++ smooth (b :: rest))
  | xs => xs

@[simp] theorem length_fill (a b : β) : (fill f a b).length = 9 := by simp [fill]

theorem smooth_cons_cons (a b : β) (rest : List β) :
    smooth f (a :: b :: rest) = (a :: fill f a b) ++ smooth f (b :: rest) := rfl

theorem smooth_of_length_le_one : ∀ {xs : List β}, xs.length ≤ 1 → smooth f xs = xs
  | [], _ => rfl
  | [_], _ => rfl

/-- A list of `n ≥ 1` conditions is smoothed to `10 (n - 1) + 1` of them. -/
theorem smooth_length : ∀ (xs : List β), xs ≠ [] → (smooth f xs).length = 10 * (xs.length - 1) + 1
  | [_], _ => rfl
  | a :: b :: rest, _ => by
    have ih := smooth_length (b :: rest) (List.cons_ne_nil _ _)
    simp only [smooth_cons_cons, List.length_append, List.length_cons, length_fill, ih]
    simp only [List.length_cons] at ih ⊢
    omega

/-- The given conditions stand at the multiples of ten. -/
theorem smooth_getElem_ten_mul :
    ∀ (xs : List β) (i : ℕ) (hi : i < xs.length), (smooth f xs)[10 * i]? = some xs[i]
  | [_], 0, _ => rfl
  | a :: b :: rest, 0, _ => rfl
  | a :: b :: rest, i + 1, hi => by
    have ih := smooth_getElem_ten_mul (b :: rest) i (by simpa using hi)
    rw [smooth_cons_cons, List.getElem?_append_right (by simp only [List.length_cons, length_fill]; omega)]
    simpa [show 10 * (i + 1) - 10 = 10 * i by omega] using ih

/-- Between the given conditions `i` and `i + 1` stand the conditions of `fill`. -/
theorem smooth_getElem_fill :
    ∀ (xs : List β) (i j : ℕ) (hi : i + 1 < xs.length), 0 < j → j < 10 →
      (smooth f xs)[10 * i + j]? = some (f xs[i] xs[i + 1] j)
  | a :: b :: rest, 0, j, _, hj0, hj => by
    obtain ⟨k, rfl⟩ : ∃ k, j = k + 1 := ⟨j - 1, by omega⟩
    rw [smooth_cons_cons, List.getElem?_append_left (by simp; omega)]
    simp [fill, show k < 9 by omega, Nat.add_comm]
  | a :: b :: rest, i + 1, j, hi, hj0, hj => by
    have ih := smooth_getElem_fill (b :: rest) i j (by simpa using hi) hj0 hj
    rw [smooth_cons_cons, List.getElem?_append_right (by simp; omega)]
    simpa [show 10 * (i + 1) + j - 10 = 10 * i + j by omega] using ih

/-- Smoothing one more interval at the end: its nine conditions, then its right end. -/
theorem smooth_concat : ∀ (xs : List β) (a b : β),
    smooth f (xs ++ [a, b]) = smooth f (xs ++ [a]) ++ fill f a b ++ [b]
  | [], a, b => by simp [smooth]
  | [x], a, b => by simp [smooth]
  | x :: y :: ys, a, b => by
    simp only [List.cons_append, smooth_cons_cons]
    rw [← List.cons_append, ← List.cons_append, smooth_concat (y :: ys) a b]
    simp

/-- Smoothing the first `k + 2` conditions is smoothing the first `k + 1` and one more
interval. -/
theorem smooth_take_succ {xs : List β} {k : ℕ} (h : k + 1 < xs.length) :
    smooth f (xs.take (k + 2)) =
      smooth f (xs.take (k + 1)) ++ fill f xs[k] xs[k + 1] ++ [xs[k + 1]] := by
  have htake (i : ℕ) (hi : i < xs.length) : xs.take (i + 1) = xs.take i ++ [xs[i]] := by
    rw [List.take_add_one, List.getElem?_eq_getElem hi, Option.toList_some]
  rw [htake (k + 1) h, htake k (by omega), List.append_assoc, List.singleton_append,
    smooth_concat]

end Smooth

/-! ## The smoothing loops -/

section Loops

variable {β : Type} {f : β → β → ℕ → β}

variable (f) in
/-- A list part way through its smoothing: the intervals before `k` filled, and the first
`q` conditions of interval `k` inserted after its left end. -/
def partlySmoothed (k q : ℕ) (xs : List β) : List β :=
  match xs.drop k with
  | a :: b :: rest => smooth f (xs.take (k + 1)) ++ (List.range' 1 q).map (f a b) ++ b :: rest
  | _ => xs

variable (f) in
/-- Conditions computed exactly, by the function `f` of the two ends and the tenth. -/
def exactBetween (a b : β) (p : ℕ) : Outcome β := pure (f a b p)

theorem partlySmoothed_eq {xs : List β} {k : ℕ} (h : k + 1 < xs.length) (q : ℕ) :
    partlySmoothed f k q xs = smooth f (xs.take (k + 1)) ++
      (List.range' 1 q).map (f xs[k] xs[k + 1]) ++ xs.drop (k + 1) := by
  have hk : xs.drop k = xs[k] :: xs[k + 1] :: xs.drop (k + 2) := by
    rw [List.drop_eq_getElem_cons (by omega), List.drop_eq_getElem_cons h]
  simp only [partlySmoothed, hk, List.drop_eq_getElem_cons h]

/-- Before the first insertion a list is itself. -/
theorem partlySmoothed_start {xs : List β} (h : 1 < xs.length) : partlySmoothed f 0 0 xs = xs := by
  rw [partlySmoothed_eq h]
  cases xs with
  | nil => simp at h
  | cons a rest => simp [smooth]

/-- An interval filled is the next one not yet begun. -/
theorem partlySmoothed_next {xs : List β} {k : ℕ} (h : k + 2 < xs.length) :
    partlySmoothed f k 9 xs = partlySmoothed f (k + 1) 0 xs := by
  rw [partlySmoothed_eq (by omega), partlySmoothed_eq h, smooth_take_succ f (by omega),
    List.drop_eq_getElem_cons (by omega : k + 1 < xs.length)]
  simp [fill]

/-- The last interval filled is the smoothed list. -/
theorem partlySmoothed_last {xs : List β} {k : ℕ} (h : xs.length = k + 2) :
    partlySmoothed f k 9 xs = smooth f xs := by
  conv_rhs => rw [← List.take_of_length_le (le_of_eq h), smooth_take_succ f (by omega)]
  rw [partlySmoothed_eq (by omega), List.drop_eq_getElem_cons (by omega : k + 1 < xs.length)]
  simp [fill, show xs.drop (k + 2) = [] by simp [h]]

/-- **One insertion.**  Part way through interval `k`, its left end stands at `10 k` and its
right end just after the conditions inserted so far; inserting the next condition read off
the two is the next stage. -/
theorem partlySmoothed_insert {xs : List β} {k : ℕ} (h : k + 1 < xs.length) (q : ℕ) :
    (partlySmoothed f k q xs)[10 * k]? = some xs[k] ∧
    (partlySmoothed f k q xs)[10 * k + (q + 1)]? = some xs[k + 1] ∧
    insertAt (partlySmoothed f k q xs) (10 * k + (q + 1)) (f xs[k] xs[k + 1] (q + 1)) =
      partlySmoothed f k (q + 1) xs := by
  have htake : (xs.take (k + 1)).length = k + 1 := by simp; omega
  rw [partlySmoothed_eq h, partlySmoothed_eq h]
  set P := smooth f (xs.take (k + 1)) with hPdef
  set M := (List.range' 1 q).map (f xs[k] xs[k + 1]) with hMdef
  have hP : P.length = 10 * k + 1 := by
    rw [hPdef, smooth_length f _ (List.ne_nil_of_length_pos (by omega)), htake]
    omega
  have hPk : P[10 * k]? = some xs[k] := by
    rw [hPdef, smooth_getElem_ten_mul f _ k (by omega)]
    simp
  have hPM : (P ++ M).length = 10 * k + (q + 1) := by
    simp only [List.length_append, hP, hMdef, List.length_map, List.length_range']
    omega
  refine ⟨?_, ?_, ?_⟩
  · rw [List.append_assoc, List.getElem?_append_left (by omega), hPk]
  · rw [List.getElem?_append_right (by omega), hPM, Nat.sub_self, List.getElem?_drop]
    simp
  · rw [insertAt, ← hPM, List.take_left, List.drop_left, hMdef, List.range'_concat]
    simp [Nat.add_comm]

variable {values : List (List β)} {k n : ℕ}

/-- One insertion into every list of values part way through interval `k`. -/
theorem insertBetween_partlySmoothed (hlen : ∀ xs ∈ values, k + 1 < xs.length) (q : ℕ) :
    insertBetweenWith (exactBetween f) k (q + 1) (values.map (partlySmoothed f k q)) =
      pure (values.map (partlySmoothed f k (q + 1))) := by
  rw [insertBetweenWith, List.mapM_map]
  refine mapM_eq_pure_map _ _ values fun xs hxs => ?_
  obtain ⟨h1, h2, h3⟩ := partlySmoothed_insert (f := f) (hlen xs hxs) q
  simp [h1, h2, h3, exactBetween]

/-- **One interval.**  The nine insertions of interval `k` fill it in every list. -/
theorem fillInterval_partlySmoothed (hlen : ∀ xs ∈ values, k + 1 < xs.length) :
    fillIntervalWith (exactBetween f) (values.map (partlySmoothed f k 0)) k =
      pure (values.map (partlySmoothed f k 9)) := by
  -- the inner loop, by induction on the number of insertions made
  have hinner : ∀ q, List.foldlM (fun vs p => insertBetweenWith (exactBetween f) k p vs)
      (values.map (partlySmoothed f k 0)) (List.range' 1 q) =
        pure (values.map (partlySmoothed f k q)) := by
    intro q
    induction q with
    | zero => rfl
    | succ q ih =>
      rw [List.range'_concat, List.foldlM_append, ih, pure_bind, show 1 + 1 * q = q + 1 by omega]
      simp only [List.foldlM_cons, List.foldlM_nil, bind_pure]
      exact insertBetween_partlySmoothed hlen q
  exact hinner 9

/-- **The intervals up to `k`.**  The outer loop over the first `k + 1` intervals leaves every
list of `n` conditions with those intervals filled. -/
theorem foldlM_fillInterval (hlen : ∀ xs ∈ values, xs.length = n) :
    ∀ k, k + 1 < n → List.foldlM (fillIntervalWith (exactBetween f)) values (List.range (k + 1)) =
      pure (values.map (partlySmoothed f k 9))
  | 0, h => by
    have hstart : values.map (partlySmoothed f 0 0) = values := by
      rw [List.map_congr_left fun xs hxs => partlySmoothed_start (by rw [hlen xs hxs]; omega),
        List.map_id']
    nth_rewrite 1 [← hstart]
    simp only [Nat.zero_add, List.range_one, List.foldlM_cons, List.foldlM_nil, bind_pure]
    exact fillInterval_partlySmoothed fun xs hxs => by rw [hlen xs hxs]; omega
  | k + 1, h => by
    rw [List.range_succ, List.foldlM_append, foldlM_fillInterval hlen k (by omega), pure_bind,
      List.map_congr_left fun xs hxs => partlySmoothed_next (by rw [hlen xs hxs]; omega)]
    simp only [List.foldlM_cons, List.foldlM_nil, bind_pure]
    exact fillInterval_partlySmoothed fun xs hxs => by rw [hlen xs hxs]; omega

/-- **Smoothing.**  Lists of conditions all as long as each other are each smoothed. -/
theorem addPointsWith_exact (hne : values ≠ []) (hlen : ∀ xs ∈ values, xs.length = n) :
    addPointsWith (exactBetween f) values = pure (values.map (smooth f)) := by
  obtain ⟨xs₀, rest, rfl⟩ := List.exists_cons_of_ne_nil hne
  have h₀ : xs₀.length = n := hlen xs₀ List.mem_cons_self
  simp only [addPointsWith, List.head?_cons, h₀]
  rcases Nat.lt_or_ge n 2 with hn | hn
  · -- lists of at most one condition have no interval
    rw [show n - 1 = 0 by omega, List.range_zero, List.foldlM_nil,
      List.map_congr_left fun xs hxs => smooth_of_length_le_one f (by rw [hlen xs hxs]; omega),
      List.map_id']
  · obtain ⟨k, rfl⟩ : ∃ k, n = k + 2 := ⟨n - 2, by omega⟩
    rw [show k + 2 - 1 = k + 1 by omega, foldlM_fillInterval hlen k (by omega),
      List.map_congr_left fun xs hxs => partlySmoothed_last (hlen xs hxs)]

end Loops

end Sweep
end Flight

/-! ## The checks of a smoothed sweep -/

namespace Batch

/-- Ten logged values to each interval and one more: the rounded tenth of their count is
the number of intervals. -/
theorem roundedRatio_ten_mul_add_one (m : ℕ) : roundedRatio (10 * m + 1) 10 = m := by
  have hq : (10 * m + 1) / 10 = m := by omega
  have hr : (10 * m + 1) % 10 = 1 := by omega
  simp [roundedRatio, hq, hr]

/-- Several expected values are compared in turn with every `step`-th logged value, each with
its own. -/
theorem sweepComparisons_several {expected : List Value} (h : 1 < expected.length)
    (count step : ℕ) :
    (sweepComparisons expected count step).map Prod.fst =
        (List.range expected.length).map (· * step) ∧
      (sweepComparisons expected count step).map Prod.snd = expected := by
  simp only [sweepComparisons, h, if_true, List.map_map, List.zipIdx_eq_zip_range']
  have hlen : expected.length = (List.range' 0 expected.length).length := by simp
  constructor
  · rw [show (Prod.fst ∘ fun x : Value × ℕ => (x.2 * step, x.1)) = (· * step) ∘ Prod.snd from rfl,
      ← List.map_map, List.map_snd_zip hlen.ge, List.range_eq_range']
  · rw [show (Prod.snd ∘ fun x : Value × ℕ => (x.2 * step, x.1)) = Prod.fst from rfl,
      List.map_fst_zip hlen.le]

/-- A single expected value is compared with every tenth of `10 m + 1` logged values up to
the `m`-th: the last tenth is never compared. -/
theorem sweepComparisons_constant (e : Value) (m : ℕ) :
    sweepComparisons [e] (10 * m + 1) 10 = (List.range m).map fun i => (i * 10, e) := by
  simp [sweepComparisons, roundedRatio_ten_mul_add_one]

/-- A batch computation that ends in a fault, whatever the states of the batch run and the
session it starts from. -/
def Faults {α : Type} (x : Runner α) : Prop :=
  ∀ b s, ∃ f, ((x.run.run b).run s).1.1 = .error f

/-- A batch computation followed by another: the second runs from the states the first
leaves, unless the first faults. -/
theorem runner_run_bind {α β : Type} (x : Runner α) (g : α → Runner β) (b : BatchRun)
    (s : Session) :
    ((x >>= g).run.run b).run s =
      match (x.run.run b).run s with
      | ((.ok a, b'), s') => ((g a).run.run b').run s'
      | ((.error f, b'), s') => ((.error f, b'), s') := by
  simp only [ExceptT.run_bind, StateT.run_bind]
  generalize (x.run.run b).run s = r
  obtain ⟨⟨res, b'⟩, s'⟩ := r
  cases res <;> rfl

theorem Faults.fail {α : Type} (f : Fault) : Faults (Runner.fail f : Runner α) :=
  fun _ _ => ⟨f, rfl⟩

theorem Faults.bind {α β : Type} {x : Runner α} (h : Faults x) (g : α → Runner β) :
    Faults (x >>= g) := by
  intro b s
  obtain ⟨f, hf⟩ := h b s
  refine ⟨f, ?_⟩
  rw [runner_run_bind]
  generalize (x.run.run b).run s = r at hf ⊢
  obtain ⟨⟨res, b'⟩, s'⟩ := r
  obtain rfl : res = .error f := hf
  rfl

theorem Faults.bind_of_forall {α β : Type} {g : α → Runner β} (h : ∀ a, Faults (g a))
    (x : Runner α) : Faults (x >>= g) := by
  intro b s
  rw [runner_run_bind]
  generalize (x.run.run b).run s = r
  obtain ⟨⟨res, b'⟩, s'⟩ := r
  cases res with
  | error f => exact ⟨f, rfl⟩
  | ok a => exact h a b' s'

/-- A loop faults when one of its passes faults: the passes before it either fault or go
on to it. -/
theorem Faults.forM {γ : Type} {l : List γ} {body : γ → Runner Unit} {c : γ} (hc : c ∈ l)
    (h : Faults (body c)) : Faults (l.forM body) := by
  induction l with
  | nil => cases hc
  | cons y l ih =>
    simp only [List.forM]
    rcases List.mem_cons.1 hc with rfl | hc
    · exact h.bind _
    · exact Faults.bind_of_forall (fun _ => ih hc) _

/-- A comparison past the end of the log faults the comparisons. -/
theorem compareSweep_faults {col : String} {data : List Float} {comparisons : List (ℕ × Value)}
    {c : ℕ × Value} (hc : c ∈ comparisons) (hpast : data.length ≤ c.1) :
    Faults (compareSweep col data comparisons) := by
  refine Faults.forM hc ?_
  simp only [List.getElem?_eq_none hpast]
  exact Faults.fail _

/-- **Checking recorded values.**  Values recorded from a smoothed sweep of `m + 1 ≥ 2` given
conditions are one per logged value, `10 m + 1` of them; compared at every tenth logged value
they reach past the end of the log, and the check faults. -/
theorem compareSweep_recorded {col : String} {data : List Float} {expected : List Value}
    {m : ℕ} (hm : 1 ≤ m) (hdata : data.length = 10 * m + 1) (hexp : expected.length = data.length) :
    Faults (compareSweep col data (sweepComparisons expected data.length 10)) := by
  have hmore : 1 < expected.length := by omega
  have hin : (m + 1 < expected.length) := by omega
  -- the comparison of the `(m + 1)`-th recorded value reads the logged value `10 (m + 1)`
  have hc : ((m + 1) * 10, expected[m + 1]) ∈ sweepComparisons expected data.length 10 := by
    simp only [sweepComparisons, hmore, if_true, List.mem_map]
    exact ⟨(expected[m + 1], m + 1), List.mem_zipIdx_iff_getElem?.2 (by simp), rfl⟩
  exact compareSweep_faults hc (by simp only; omega)

/-! ## Smoothed sweeps of real conditions -/

section Real

open Flight Sweep

variable {V : Type} [AddCommGroup V] [Module ℝ V]

/-- The condition `j` tenths of the way from `a` to `b`, as a sweep computes it. -/
noncomputable def tenthsBetween (a b : V) (j : ℕ) : V := ((j : ℝ) / (10 : ℕ)) • (b - a) + a

/-- **Smoothed sweeps and their checks.**  Conditions given as scalars or vectors (any real
vector space), `n` of them to each swept key, are smoothed to `10 (n - 1) + 1` conditions
with the given ones at the multiples of ten and `j/10` of the way between given conditions
`i` and `i + 1` at `10 i + j`.  Several expected values are compared with the logged values
at the given conditions; a single expected value only with those of the first `n - 1`; and
values recorded from the case, one per logged value, fault the check. -/
theorem smoothedSweep_checks :
    (∀ (values : List (List V)) (n : ℕ), values ≠ [] → (∀ xs ∈ values, xs.length = n) →
      addPointsWith (exactBetween tenthsBetween) values =
        .ok (values.map (smooth tenthsBetween))) ∧
    (∀ xs : List V, xs ≠ [] → (smooth tenthsBetween xs).length = 10 * (xs.length - 1) + 1) ∧
    (∀ (xs : List V) (i : ℕ) (hi : i < xs.length), (smooth tenthsBetween xs)[10 * i]? = some xs[i]) ∧
    (∀ (xs : List V) (i j : ℕ) (hi : i + 1 < xs.length), 0 < j → j < 10 →
      (smooth tenthsBetween xs)[10 * i + j]? =
        some (((j : ℝ) / 10) • (xs[i + 1] - xs[i]) + xs[i])) ∧
    (∀ (expected : List Value) (count : ℕ), 1 < expected.length →
      (sweepComparisons expected count 10).map Prod.fst =
          (List.range expected.length).map (· * 10) ∧
        (sweepComparisons expected count 10).map Prod.snd = expected) ∧
    (∀ (e : Value) (n : ℕ),
      sweepComparisons [e] (10 * (n - 1) + 1) 10 = (List.range (n - 1)).map fun i => (i * 10, e)) ∧
    (∀ (col : String) (data : List Float) (expected : List Value) (n : ℕ), 2 ≤ n →
      data.length = 10 * (n - 1) + 1 → expected.length = data.length →
      Faults (compareSweep col data (sweepComparisons expected data.length 10))) := by
  refine ⟨fun values n hne hlen => addPointsWith_exact hne hlen, fun xs hne => smooth_length _ xs hne,
    fun xs i hi => smooth_getElem_ten_mul _ xs i hi,
    fun xs i j hi hj0 hj => smooth_getElem_fill _ xs i j hi hj0 hj,
    fun expected count h => sweepComparisons_several h count 10,
    fun e n => sweepComparisons_constant e (n - 1), ?_⟩
  intro col data expected n hn hdata hexp
  exact compareSweep_recorded (m := n - 1) (by omega) hdata hexp

/-- A sweep of speeds `100` and `200`, smoothed: the eleven speeds in steps of ten; a single
expected value is compared with the first logged value only, and values recorded from the
eleven logged ones fault the check. -/
theorem smoothedSweep_twoSpeeds :
    [[(100 : ℝ), 200]] ≠ [] ∧ (∀ xs ∈ [[(100 : ℝ), 200]], xs.length = 2) ∧
    addPointsWith (exactBetween tenthsBetween) [[(100 : ℝ), 200]] =
      .ok [[100, 110, 120, 130, 140, 150, 160, 170, 180, 190, 200]] ∧
    sweepComparisons [.float 0.5] 11 10 = [(0, .float 0.5)] ∧
    Faults (compareSweep "Mach" (List.replicate 11 0.5)
      (sweepComparisons (List.replicate 11 (.float 0.5)) 11 10)) := by
  have hne : [[(100 : ℝ), 200]] ≠ [] := by simp
  have hlen : ∀ xs ∈ [[(100 : ℝ), 200]], xs.length = 2 := by simp
  refine ⟨hne, hlen, ?_, (smoothedSweep_checks (V := ℝ)).2.2.2.2.2.1 (.float 0.5) 2,
    (smoothedSweep_checks (V := ℝ)).2.2.2.2.2.2 "Mach" _ _ 2 le_rfl (by simp) (by simp)⟩
  rw [(smoothedSweep_checks (V := ℝ)).1 _ 2 hne hlen]
  norm_num [smooth, fill, tenthsBetween, List.range']

end Real

end Batch
end RocketSim
