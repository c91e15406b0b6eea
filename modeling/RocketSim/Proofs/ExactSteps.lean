import Mathlib
import RocketSim.Proofs.QuaternionRotations
import RocketSim.Motion.Integration

/-!
# Runge-Kutta steps in exact arithmetic

The step interpreters of the integrators are written over any arithmetic (`StepOps`).  Here
they run over the reals, in a monad that records every point at which the derivative is
evaluated and that fails on a division by zero or on a tableau entry that is not there.

A tableau is read as stage rows `[c, a₁, …, aᵢ]` followed by one weight row `b` (a
fixed-step method) or two (an embedded pair, the more accurate first).  The stage
derivatives follow the explicit Runge-Kutta recurrence

  `k₁ = f(t, y)`, `kᵢ₊₁ = f(t + cᵢ·dt, y + dt·Σⱼ aᵢⱼ·kⱼ)`,

written `stages` below, and a weight row `b` gives `y + dt·Σ bᵢ·kᵢ`.

**Results.**
* `fixedStep_exact`: the fixed-step interpreter evaluates the derivative at `(t, y)` and at
  the stage points, in order, and returns `y + dt·Σ bᵢ·kᵢ` with the derivative estimate
  `Σ bᵢ·kᵢ`, when `dt` and every tableau entry are nonzero (it divides by them).
* `embeddedFrom_exact`: the embedded interpreter, from a known first derivative, returns
  both predictions' formula, the more accurate one's derivative estimate, the error
  estimate `|y_fine - y_coarse|` and the last stage derivative.
* `embeddedAttempt_run`: an attempt evaluates the derivative at the start only when no
  cached first derivative is given.
-/

namespace RocketSim
namespace Butcher

/-! ## Exact semantics -/

/-- Exact computations: they record the points where the derivative is evaluated, and fail
on a division by zero or a missing entry. -/
abbrev Exact := StateT (List (ℝ × ℝ)) Option

/-- Real arithmetic for the step interpreters; states are real numbers. -/
noncomputable def exactOps : StepOps Exact ℝ where
  add a b := pure (a + b)
  addIn a b := pure (a + b)
  mul a b := pure (a * b)
  div a b := if b = 0 then failure else pure (a / b)
  neg a := pure (-a)
  abs a := pure |a|
  advance y d := pure (y + d, y)
  one := 1
  missing := failure

/-- The derivative function `g`, evaluated with its point recorded; it leaves the state as
it is. -/
def evalAt (g : ℝ → ℝ → ℝ) : ℝ → ℝ → Exact (ℝ × ℝ) := fun t y => do
  modify (· ++ [(t, y)])
  pure (g t y, y)

@[simp] theorem exactOps_add (a b : ℝ) : exactOps.add a b = pure (a + b) := rfl
@[simp] theorem exactOps_addIn (a b : ℝ) : exactOps.addIn a b = pure (a + b) := rfl
@[simp] theorem exactOps_mul (a b : ℝ) : exactOps.mul a b = pure (a * b) := rfl
@[simp] theorem exactOps_neg (a : ℝ) : exactOps.neg a = pure (-a) := rfl
@[simp] theorem exactOps_abs (a : ℝ) : exactOps.abs a = pure |a| := rfl
@[simp] theorem exactOps_advance (y d : ℝ) : exactOps.advance y d = pure (y + d, y) := rfl
@[simp] theorem exactOps_one : exactOps.one = 1 := rfl

theorem exactOps_div_of_ne {a b : ℝ} (h : b ≠ 0) : exactOps.div a b = pure (a / b) := if_neg h

@[simp] theorem evalAt_run (g : ℝ → ℝ → ℝ) (t y : ℝ) (tr : List (ℝ × ℝ)) :
    (evalAt g t y).run tr = some ((g t y, y), tr ++ [(t, y)]) := rfl

@[simp] theorem real_default : (default : ℝ) = 0 := rfl

/-- An entry that is there is read as it is. -/
theorem entry_exact {row : List ℝ} {i : ℕ} (h : i < row.length) :
    entry exactOps row i = pure (row.getD i 0) := by
  simp [entry, List.getElem?_eq_getElem h]

/-- Dividing by the reciprocal of a nonzero weight multiplies by it. -/
theorem weighted_exact (x : ℝ) {w : ℝ} (hw : w ≠ 0) : weighted exactOps x w = pure (x * w) := by
  simp only [weighted, exactOps_one, exactOps_div_of_ne hw, pure_bind,
    exactOps_div_of_ne (one_div_ne_zero hw), div_div_eq_mul_div, div_one]

theorem getD_mem {row : List ℝ} {i : ℕ} (h : i < row.length) : row.getD i 0 ∈ row := by
  rw [List.getD_eq_getElem _ _ h]
  exact List.getElem_mem h

section Rows

variable {m : Type → Type} [Monad m] {α : Type} (A : StepOps m α)

/-- The last row of a fixed-step tableau is its weight row. -/
theorem row_last (l : List (List α)) (b : List α) : row A (l ++ [b]) (-1) = pure b := by
  simp [row]

/-- The second-to-last row of an embedded pair holds the more accurate weights. -/
theorem row_fine (l : List (List α)) (b c : List α) : row A (l ++ [b, c]) (-2) = pure b := by
  simp [row]

/-- The last row of an embedded pair holds the less accurate weights. -/
theorem row_coarse (l : List (List α)) (b c : List α) : row A (l ++ [b, c]) (-1) = pure c := by
  have h : (-1 + ((l.length : ℤ) + 2)).toNat = l.length + 1 := by omega
  simp [row, h]
  intro h'
  omega

end Rows

/-- An index loop that adds `h a` at each index `a` of `[s, s + n)` adds their sum. -/
theorem foldlM_range'_eq_sum {m : Type → Type} [Monad m] [LawfulMonad m] {M : Type}
    [AddCommMonoid M] (body : M → ℕ → m M) (h : ℕ → M) (s n : ℕ) (acc : M)
    (hb : ∀ acc a, s ≤ a → a < s + n → body acc a = pure (acc + h a)) :
    (List.range' s n).foldlM body acc = pure (acc + ∑ i ∈ Finset.range n, h (s + i)) := by
  induction n generalizing s acc with
  | zero => simp
  | succ n ih =>
    rw [List.range'_succ, List.foldlM_cons, hb acc s le_rfl (by omega), pure_bind,
      ih (s + 1) (acc + h s) (fun acc a h1 h2 => hb acc a (by omega) (by omega)),
      Finset.sum_range_succ']
    have e : ∀ i, s + 1 + i = s + (i + 1) := fun i => by omega
    simp only [e, add_zero, add_assoc, add_comm (h s)]

/-! ## The recurrence -/

/-- `Σⱼ wⱼ·kⱼ` over the weights `w`, a missing derivative counting as zero. -/
def dot (w k : List ℝ) : ℝ := ∑ j ∈ Finset.range w.length, w.getD j 0 * k.getD j 0

/-- The point at which the stage row `[c, a₁, …, aᵢ]` evaluates the derivative. -/
def stagePoint (t y dt : ℝ) (ks row : List ℝ) : ℝ × ℝ :=
  (t + dt * row.headD 0, y + dt * dot row.tail ks)

/-- The explicit Runge-Kutta recurrence: from the derivatives `ks` known so far, every stage
row appends the derivative at its stage point.  Returns all derivatives and the stage
points in order. -/
def stages (g : ℝ → ℝ → ℝ) (t y dt : ℝ) : List ℝ → List (List ℝ) → List ℝ × List (ℝ × ℝ)
  | ks, [] => (ks, [])
  | ks, row :: rows =>
    let p := stagePoint t y dt ks row
    let r := stages g t y dt (ks ++ [g p.1 p.2]) rows
    (r.1, p :: r.2)

/-- Stage rows that an explicit method can take in order from `n` known derivatives: each
has a node and at least one weight, and weights only for derivatives already known. -/
def StageRows (n : ℕ) (rows : List (List ℝ)) : Prop :=
  ∀ i (h : i < rows.length), 2 ≤ rows[i].length ∧ rows[i].length ≤ n + i + 1

instance (n : ℕ) (rows : List (List ℝ)) : Decidable (StageRows n rows) := by
  unfold StageRows
  infer_instance

/-- A fixed-step tableau `rows ++ [b]`: stage rows an explicit method can take in order,
and a weight row with a weight for the first derivative and at most one for each other. -/
structure FixedShape (rows : List (List ℝ)) (b : List ℝ) : Prop where
  stageRows : StageRows 1 rows
  weights : 1 ≤ b.length ∧ b.length ≤ rows.length + 1

/-- An embedded pair `rows ++ [bf, bc]`: stage rows as for a fixed-step tableau, and two
weight rows of one length, read together. -/
structure EmbeddedShape (rows : List (List ℝ)) (bf bc : List ℝ) : Prop where
  stageRows : StageRows 1 rows
  sameLength : bf.length = bc.length
  weights : 1 ≤ bc.length ∧ bc.length ≤ rows.length + 1

theorem StageRows.head {n : ℕ} {row : List ℝ} {rows : List (List ℝ)}
    (h : StageRows n (row :: rows)) : 2 ≤ row.length ∧ row.length ≤ n + 1 := by
  have := h 0 (by simp)
  simpa using this

theorem StageRows.tail {n : ℕ} {row : List ℝ} {rows : List (List ℝ)}
    (h : StageRows n (row :: rows)) : StageRows (n + 1) rows := by
  intro i hi
  have := h (i + 1) (by simp; omega)
  simp only [List.getElem_cons_succ] at this
  omega

theorem dot_split (w ks : List ℝ) (hw : 1 ≤ w.length) :
    dot w ks = w.getD 0 0 * ks.getD 0 0 +
      ∑ i ∈ Finset.range (w.length - 1), w.getD (1 + i) 0 * ks.getD (1 + i) 0 := by
  obtain ⟨n, hn⟩ : ∃ n, w.length = n + 1 := ⟨w.length - 1, by omega⟩
  rw [dot, hn, Finset.sum_range_succ', Nat.add_sub_cancel, add_comm]
  simp only [add_comm 1]

/-- The sum a stage row `[c, a₁, …, aᵢ]` forms as the interpreters index it: `a₁` against the
first derivative, then the entry at each index `j ≥ 2` against the derivative at `j - 1`. -/
theorem stageSum_eq_dot {ks row : List ℝ} (hlen : 2 ≤ row.length) :
    ks.headD 0 * row.getD 1 0 +
      ∑ i ∈ Finset.range (row.length - 2), ks.getD (2 + i - 1) 0 * row.getD (2 + i) 0 =
      dot row.tail ks := by
  rw [dot_split row.tail ks (by rw [List.length_tail]; omega), List.length_tail,
    show row.length - 1 - 1 = row.length - 2 by omega]
  congr 1
  · cases ks <;> cases row <;> simp; ring
  · refine Finset.sum_congr rfl fun i _ => ?_
    rw [show 2 + i - 1 = 1 + i by omega, show 2 + i = 1 + i + 1 by omega]
    cases row <;> simp; ring

/-- The recurrence appends one derivative per row and one point per row. -/
theorem stages_length (g : ℝ → ℝ → ℝ) (t y dt : ℝ) :
    ∀ (ks : List ℝ) (rows : List (List ℝ)),
      (stages g t y dt ks rows).1.length = ks.length + rows.length ∧
      (stages g t y dt ks rows).2.length = rows.length
  | ks, [] => by simp [stages]
  | ks, row :: rows => by
    obtain ⟨ih1, ih2⟩ := stages_length g t y dt (ks ++ [g (stagePoint t y dt ks row).1
      (stagePoint t y dt ks row).2]) rows
    refine ⟨?_, ?_⟩
    · simp only [stages, ih1, List.length_append, List.length_cons, List.length_nil]
      omega
    · simp only [stages, List.length_cons, ih2]

theorem stages_single_length (g : ℝ → ℝ → ℝ) (t y dt k : ℝ) (rows : List (List ℝ)) :
    (stages g t y dt [k] rows).1.length = rows.length + 1 := by
  rw [(stages_length g t y dt _ _).1, List.length_singleton, add_comm]

/-- The recurrence keeps the derivatives it starts from. -/
theorem stages_prefix (g : ℝ → ℝ → ℝ) (t y dt : ℝ) :
    ∀ (ks : List ℝ) (rows : List (List ℝ)), ∃ rest, (stages g t y dt ks rows).1 = ks ++ rest
  | ks, [] => ⟨[], by simp [stages]⟩
  | ks, row :: rows => by
    obtain ⟨rest, h⟩ := stages_prefix g t y dt (ks ++ [g (stagePoint t y dt ks row).1
      (stagePoint t y dt ks row).2]) rows
    exact ⟨g (stagePoint t y dt ks row).1 (stagePoint t y dt ks row).2 :: rest,
      by simp [stages, h]⟩

theorem stages_first (g : ℝ → ℝ → ℝ) (t y dt k : ℝ) (rows : List (List ℝ)) :
    (stages g t y dt [k] rows).1.getD 0 0 = k := by
  obtain ⟨rest, h⟩ := stages_prefix g t y dt [k] rows
  simp [h]

/-- A weighted sum as the interpreters form it: the first weight against the known first
derivative, then every other weight against its derivative. -/
theorem first_add_sum_eq_dot {w ks : List ℝ} {k : ℝ} (hk : ks.getD 0 0 = k)
    (hw : 1 ≤ w.length) :
    k * w.getD 0 0 + ∑ i ∈ Finset.range (w.length - 1), ks.getD (1 + i) 0 * w.getD (1 + i) 0 =
      dot w ks := by
  rw [dot_split w ks hw, hk, mul_comm]
  exact congrArg _ (Finset.sum_congr rfl fun i _ => mul_comm _ _)

/-! ## One stage -/

/-- A fixed-step stage evaluates the derivative at its stage point and appends it. -/
theorem fixedStage_exact (g : ℝ → ℝ → ℝ) {t dt y : ℝ} {ks row : List ℝ} (hdt : dt ≠ 0)
    (hlen : 2 ≤ row.length) (hle : row.length ≤ ks.length + 1)
    (hnz : ∀ x ∈ row, x ≠ 0) (tr : List (ℝ × ℝ)) :
    (fixedStage exactOps t dt (evalAt g) (ks, y) row).run tr =
      some ((ks ++ [g (stagePoint t y dt ks row).1 (stagePoint t y dt ks row).2], y),
        tr ++ [stagePoint t y dt ks row]) := by
  have hw : ∀ i, i < row.length → row.getD i 0 * dt ≠ 0 :=
    fun i hi => mul_ne_zero (hnz _ (getD_mem hi)) hdt
  -- the stage divides each derivative by the reciprocal of `aⱼ·dt`
  have hsum : ks.headD default / (1 / (row.getD 1 0 * dt)) +
      ∑ i ∈ Finset.range (row.length - 2), ks.getD (2 + i - 1) 0 / (1 / (row.getD (2 + i) 0 * dt)) =
      dt * dot row.tail ks := by
    rw [← stageSum_eq_dot hlen, mul_add, Finset.mul_sum]
    simp only [one_div, div_inv_eq_mul, real_default]
    congr 1
    · ring
    · exact Finset.sum_congr rfl fun i _ => by ring
  simp only [fixedStage, entry_exact (show 0 < row.length by omega),
    entry_exact (show 1 < row.length by omega), exactOps_mul, exactOps_add, pure_bind,
    exactOps_one, exactOps_div_of_ne (hw 1 (by omega)),
    exactOps_div_of_ne (one_div_ne_zero (hw 1 (by omega)))]
  rw [foldlM_range'_eq_sum _ (fun a => ks.getD (a - 1) 0 / (1 / (row.getD a 0 * dt))), hsum]
  · cases row <;> simp [stagePoint]
  · intro acc a ha1 ha2
    simp only [entry_exact (show a < row.length by omega),
      entry_exact (show a - 1 < ks.length by omega), pure_bind,
      exactOps_div_of_ne (hw a (by omega)), exactOps_div_of_ne (one_div_ne_zero (hw a (by omega)))]

/-- An embedded stage evaluates the derivative at its stage point and appends it. -/
theorem embeddedStage_exact (g : ℝ → ℝ → ℝ) {t dt y : ℝ} {ks row : List ℝ}
    (hlen : 2 ≤ row.length) (hle : row.length ≤ ks.length + 1) (tr : List (ℝ × ℝ)) :
    (embeddedStage exactOps t dt (evalAt g) (ks, y) row).run tr =
      some ((ks ++ [g (stagePoint t y dt ks row).1 (stagePoint t y dt ks row).2], y),
        tr ++ [stagePoint t y dt ks row]) := by
  simp only [embeddedStage, entry_exact (show 0 < row.length by omega),
    entry_exact (show 1 < row.length by omega), exactOps_mul, exactOps_add, pure_bind,
    real_default]
  rw [foldlM_range'_eq_sum _ (fun a => ks.getD (a - 1) 0 * row.getD a 0), stageSum_eq_dot hlen]
  · cases row <;> simp [stagePoint, mul_comm]
  · intro acc a ha1 ha2
    simp only [entry_exact (show a < row.length by omega),
      entry_exact (show a - 1 < ks.length by omega), pure_bind, exactOps_addIn]

/-! ## The stage loop -/

/-- The stage loop of either interpreter follows the recurrence, from a lemma for one
stage: by induction on the rows, each step appending one derivative and one point. -/
theorem stages_run (g : ℝ → ℝ → ℝ) (t y dt : ℝ) (P : List ℝ → Prop)
    (stage : List ℝ × ℝ → List ℝ → Exact (List ℝ × ℝ))
    (hstage : ∀ ks row, 2 ≤ row.length → row.length ≤ ks.length + 1 → P row →
      ∀ tr, (stage (ks, y) row).run tr =
        some ((ks ++ [g (stagePoint t y dt ks row).1 (stagePoint t y dt ks row).2], y),
          tr ++ [stagePoint t y dt ks row])) :
    ∀ (rows : List (List ℝ)) (ks : List ℝ), StageRows ks.length rows →
      (∀ row ∈ rows, P row) → ∀ tr,
      (rows.foldlM stage (ks, y)).run tr =
        some (((stages g t y dt ks rows).1, y), tr ++ (stages g t y dt ks rows).2)
  | [], ks, _, _, tr => by simp [stages]
  | row :: rows, ks, hs, hnz, tr => by
    obtain ⟨h2, hle⟩ := hs.head
    have ih := stages_run g t y dt P stage hstage rows (ks ++ [g (stagePoint t y dt ks row).1
      (stagePoint t y dt ks row).2]) (by simpa using hs.tail)
      (fun r hr => hnz r (List.mem_cons_of_mem _ hr))
    rw [List.foldlM_cons, StateT.run_bind, hstage ks row h2 hle (hnz row List.mem_cons_self)]
    simp [ih, stages]

/-! ## Whole steps -/

/-- **The fixed-step interpreter is the Runge-Kutta scheme** of its tableau: it evaluates the
derivative at `(t, y)` and at every stage point in order, and returns `y + dt·Σ bᵢ·kᵢ` and
the derivative estimate `Σ bᵢ·kᵢ`. -/
theorem fixedStep_exact (g : ℝ → ℝ → ℝ) {t dt y : ℝ} (hdt : dt ≠ 0) {rows : List (List ℝ)}
    {b : List ℝ} (hshape : FixedShape rows b)
    (hnz : ∀ row ∈ rows ++ [b], ∀ x ∈ row, x ≠ 0) (tr : List (ℝ × ℝ)) :
    (fixedStep exactOps (rows ++ [b]) y t (evalAt g) dt).run tr =
      some ((y + dt * dot b (stages g t y dt [g t y] rows).1,
          dot b (stages g t y dt [g t y] rows).1),
        tr ++ (t, y) :: (stages g t y dt [g t y] rows).2) := by
  obtain ⟨hrows, hb⟩ := hshape
  have hlen := stages_single_length g t y dt (g t y) rows
  have hbnz : ∀ i, i < b.length → b.getD i 0 ≠ 0 :=
    fun i hi => hnz b (by simp) _ (getD_mem hi)
  have hstages := stages_run g t y dt (fun row => ∀ x ∈ row, x ≠ 0)
    (fixedStage exactOps t dt (evalAt g))
    (fun ks row h2 hle hr tr => fixedStage_exact g hdt h2 hle hr tr) rows [g t y]
    (by simpa using hrows) (fun r hr => hnz r (List.mem_append_left _ hr))
  have hb0 : entry exactOps b 0 = pure (b.getD 0 0) := entry_exact (by omega)
  simp only [fixedStep, StateT.run_bind, evalAt_run, List.dropLast_concat, Option.bind_eq_bind,
    Option.bind_some, Option.pure_def, hstages, row_last, hb0, StateT.run_pure,
    weighted_exact _ (hbnz 0 (by omega))]
  rw [foldlM_range'_eq_sum _ (fun i => (stages g t y dt [g t y] rows).1.getD i 0 * b.getD i 0),
    first_add_sum_eq_dot (stages_first g t y dt (g t y) rows) hb.1]
  · simp [mul_comm]
  · intro acc i hi1 hi2
    simp only [entry_exact (show i < b.length by omega),
      entry_exact (show i < (stages g t y dt [g t y] rows).1.length by omega),
      pure_bind, weighted_exact _ (hbnz i (by omega)), exactOps_add]

/-- **The embedded interpreter is the Runge-Kutta pair** of its tableau, from a known first
derivative `k₁`: it evaluates the derivative at every stage point in order and returns the
more accurate prediction, its derivative estimate, the error estimate
`|y_fine - y_coarse|`, the last derivative evaluated, and the state. -/
theorem embeddedFrom_exact (g : ℝ → ℝ → ℝ) {t dt y : ℝ} (k₁ : ℝ) {rows : List (List ℝ)}
    {bf bc : List ℝ} (hshape : EmbeddedShape rows bf bc)
    (hbf : ∀ x ∈ bf, x ≠ 0) (hbc : ∀ x ∈ bc, x ≠ 0) (tr : List (ℝ × ℝ)) :
    (embeddedFrom exactOps (rows ++ [bf, bc]) y t (evalAt g) dt k₁).run tr =
      some ((y + dt * dot bf (stages g t y dt [k₁] rows).1,
          dot bf (stages g t y dt [k₁] rows).1,
          |y + dt * dot bf (stages g t y dt [k₁] rows).1 -
            (y + dt * dot bc (stages g t y dt [k₁] rows).1)|,
          (stages g t y dt [k₁] rows).1.getLastD k₁, y),
        tr ++ (stages g t y dt [k₁] rows).2) := by
  obtain ⟨hrows, hlen, hb⟩ := hshape
  have hklen := stages_single_length g t y dt k₁ rows
  have hstages := stages_run g t y dt (fun _ => True) (embeddedStage exactOps t dt (evalAt g))
    (fun ks row h2 hle _ tr => embeddedStage_exact g h2 hle tr) rows [k₁]
    (by simpa using hrows) (fun _ _ => trivial)
  have htake : (rows ++ [bf, bc]).take ((rows ++ [bf, bc]).length - 2) = rows := by simp
  have hf0 : entry exactOps bf 0 = pure (bf.getD 0 0) := entry_exact (by omega)
  have hc0 : entry exactOps bc 0 = pure (bc.getD 0 0) := entry_exact (by omega)
  have hfnz : ∀ i, i < bc.length → bf.getD i 0 ≠ 0 := fun i hi => hbf _ (getD_mem (by omega))
  have hcnz : ∀ i, i < bc.length → bc.getD i 0 ≠ 0 := fun i hi => hbc _ (getD_mem hi)
  -- read the weight rows and first weights before the run is split, while the steps that
  -- follow are still one term
  simp only [embeddedFrom, htake, row_fine, row_coarse, pure_bind, hf0, hc0,
    weighted_exact _ (hfnz 0 (by omega)), weighted_exact _ (hcnz 0 (by omega))]
  simp only [StateT.run_bind, hstages, Option.bind_eq_bind, Option.bind_some, Option.pure_def,
    StateT.run_pure]
  -- both weight rows are summed in one loop over the indices of the less accurate one
  rw [foldlM_range'_eq_sum _ (fun i => ((stages g t y dt [k₁] rows).1.getD i 0 * bf.getD i 0,
    (stages g t y dt [k₁] rows).1.getD i 0 * bc.getD i 0))]
  · have hF := first_add_sum_eq_dot (stages_first g t y dt k₁ rows) (w := bf) (by omega)
    have hC := first_add_sum_eq_dot (stages_first g t y dt k₁ rows) (w := bc) hb.1
    rw [hlen] at hF
    simp only [StateT.run_pure, Option.pure_def, Option.bind_some, exactOps_mul,
      exactOps_advance, exactOps_neg, exactOps_add, exactOps_abs, Prod.fst_add, Prod.snd_add,
      Prod.fst_sum, Prod.snd_sum, hF, hC, neg_add_eq_sub, mul_comm dt]
  · intro acc i hi1 hi2
    simp only [entry_exact (show i < bf.length by omega), entry_exact (show i < bc.length by omega),
      entry_exact (show i < (stages g t y dt [k₁] rows).1.length by omega),
      pure_bind, weighted_exact _ (hfnz i (by omega)), weighted_exact _ (hcnz i (by omega)),
      exactOps_addIn]
    rfl

/-- The points where an attempt evaluates its first derivative: none when it is cached. -/
def firstPoints (t y : ℝ) : Option ℝ → List (ℝ × ℝ)
  | some _ => []
  | none => [(t, y)]

/-- An attempt takes its first derivative from the cache when one is given, and evaluates
it at the start of the step otherwise. -/
theorem embeddedAttempt_run (g : ℝ → ℝ → ℝ) (tab : List (List ℝ)) (y t dt : ℝ)
    (cached : Option ℝ) (tr : List (ℝ × ℝ)) :
    (embeddedAttempt exactOps tab y t (evalAt g) dt cached).run tr =
      (embeddedFrom exactOps tab y t (evalAt g) dt (cached.getD (g t y))).run
        (tr ++ firstPoints t y cached) := by
  cases cached <;> simp [embeddedAttempt, firstPoints]

/-- The two interpreters agree on a tableau they share: on `rows ++ [b]` the fixed-step one,
and on `rows ++ [b, bc]` an attempt that evaluates its first derivative, evaluate the
derivative at the same points and return the same state and derivative estimate. -/
theorem fixedStep_eq_embeddedAttempt (g : ℝ → ℝ → ℝ) {t dt y : ℝ} (hdt : dt ≠ 0)
    {rows : List (List ℝ)} {b bc : List ℝ} (hshape : EmbeddedShape rows b bc)
    (hnz : ∀ row ∈ rows ++ [b, bc], ∀ x ∈ row, x ≠ 0) (tr : List (ℝ × ℝ)) :
    (fixedStep exactOps (rows ++ [b]) y t (evalAt g) dt).run tr =
      Prod.map (fun r => (r.1, r.2.1)) id <$>
        (embeddedAttempt exactOps (rows ++ [b, bc]) y t (evalAt g) dt none).run tr := by
  have hfixed : FixedShape rows b :=
    ⟨hshape.stageRows, by rw [hshape.sameLength]; exact hshape.weights⟩
  have hnzb : ∀ row ∈ rows ++ [b], ∀ x ∈ row, x ≠ 0 := fun row hr =>
    hnz row (by simp only [List.mem_append, List.mem_cons] at hr ⊢; tauto)
  rw [fixedStep_exact g hdt hfixed hnzb, embeddedAttempt_run, Option.getD_none,
    embeddedFrom_exact g (g t y) hshape (hnz b (by simp)) (hnz bc (by simp))]
  simp [firstPoints]

end Butcher
end RocketSim
