import Mathlib
import RocketSim.Logs.Log
import RocketSim.Proofs.NumberOrder
import RocketSim.Proofs.SimRuns

/-!
# Aligned rows of a column log

A log never stores which row a value belongs to: a column is a list, and its values line up
with the times only because the calls keep an order.  Rows are opened by `newRow`; a row takes
at most one value per column (`logValue`) until the next row is opened, when every column still
short is completed with its fill value; `deleteLastRow` removes the last row from the columns
that reach it.

A `Journal` records what the calls meant: the columns, and for each row its time and the values
logged in it.  `Journal.step` is the discipline the calls keep: columns are added before the
first row, times are numbers (not NaN) and never decrease, and a value goes into the open last
row of a column other than the time column, once.  A row that `deleteLastRow` leaves last is
complete and takes no more values: the log has already completed it, so a value logged there
would be one too many (`deleteThenLog_overfills`).

`Journal.render` is the log a journal stands for.  Each call on a log that tracks a journal gives
the log of the journal's step (`Op.apply_of_step`), and so does every run (`applyAll_of_run`);
from the rendering, every column has as many values as there are rows or one fewer, completing
the last row gives each column its logged value or its fill value in every row, a
`deleteLastRow` right after a row and its values gives back the completed log before it, and
the binary search of `valueAt` finds the first row not earlier than the time asked for.

**Results.**
* `rowsAligned`: the four properties of every run that keeps the discipline.
* `deleteThenLog_overfills`: a value logged after `deleteLastRow` overfills its column.
-/

namespace RocketSim
namespace Log

open Arith

/-! ## Calls on a log -/

/-- The calls a simulation makes on a log. -/
inductive Op where
  /-- Adds a column with a fill value (`.null` for the log's default). -/
  | addColumn (name : String) (fill : Value)
  /-- Opens a row at a time. -/
  | newRow (time : Value)
  /-- Appends a value to a column. -/
  | logValue (name : String) (value : Value)
  /-- Removes the last row. -/
  | deleteLastRow

/-- Makes one call on a log. -/
def Op.apply : Op → Log → Sim Log
  | .addColumn name fill, l => do return (← Sim.lift (l.addColumn name fill)).1
  | .newRow time, l => l.newRow time
  | .logValue name value, l => Sim.lift (l.logValue name value)
  | .deleteLastRow, l => pure l.deleteLastRow

/-- Makes calls on a log in order. -/
def applyAll (l : Log) (ops : List Op) : Sim Log := ops.foldlM (fun l op => op.apply l) l

/-! ## Journals -/

/-- A row as the calls made it: its time and the values logged in it, by column. -/
structure Row where
  /-- The time the row was opened at. -/
  time : Value
  /-- The values logged in the row, in the order of the calls. -/
  logged : List (String × Value)

/-- The entry of a column in a completed row: the value logged there, else the fill value. -/
def Row.entry (fill : String → Value) (c : String) (r : Row) : Value :=
  (r.logged.lookup c).getD (fill c)

/-- A log as the calls made it: its columns (the time column among them), its rows, and whether
the last row still takes values. -/
structure Journal where
  /-- The column names in the order they were made. -/
  columns : List String
  /-- The rows in order. -/
  rows : List Row
  /-- Whether the last row was opened by `newRow` and takes values. -/
  isOpen : Bool

namespace Journal

/-- The values a column holds: the time column holds the times; another column holds its entry
in every completed row and, in an open last row, only a value logged there. -/
def column (j : Journal) (fill : String → Value) (c : String) : List Value :=
  if c = timeColumn then j.rows.map (·.time)
  else if j.isOpen then
    j.rows.dropLast.map (Row.entry fill c) ++ (j.rows.getLast?.bind (·.logged.lookup c)).toList
  else j.rows.map (Row.entry fill c)

/-- The columns of the log the journal stands for. -/
def render (j : Journal) (fill : String → Value) : List (String × List Value) :=
  j.columns.map fun c => (c, j.column fill c)

/-- The journal with its last row completed. -/
def close (j : Journal) : Journal := { j with isOpen := false }

/-- A call that keeps the discipline, and the journal after it: columns come before the first
row; a row's time is a number, not NaN, and not before the last row's; a value goes into the open
last row of a column other than the time column, once. -/
def step (j : Journal) : Op → Option Journal
  | .addColumn c _ =>
    if j.rows.isEmpty && !j.columns.contains c then some { j with columns := j.columns ++ [c] }
    else none
  | .newRow t =>
    if atMost t t && j.rows.getLast?.all (atMost ·.time t) then
      some { j with rows := j.rows ++ [⟨t, []⟩], isOpen := true }
    else none
  | .logValue c v =>
    match j.rows.getLast? with
    | some r =>
      if j.isOpen && j.columns.contains c && c != timeColumn && (r.logged.lookup c).isNone then
        some { j with rows := j.rows.dropLast ++ [{ r with logged := r.logged ++ [(c, v)] }] }
      else none
    | none => none
  | .deleteLastRow => some { j with rows := j.rows.dropLast, isOpen := false }

/-- Calls in order, all keeping the discipline. -/
def run (j : Journal) (ops : List Op) : Option Journal := ops.foldlM step j

/-- What every journal reached by the discipline satisfies: the time column is one of its
columns, and the times are numbers, not NaN, that never decrease. -/
structure WF (j : Journal) : Prop where
  time_mem : timeColumn ∈ j.columns
  numbers : ∀ r ∈ j.rows, atMost r.time r.time
  sorted : (j.rows.map (·.time)).Pairwise fun a b => atMost a b

/-! ### The columns of a journal -/

section Columns

variable (j : Journal) (fill : String → Value)

@[simp] theorem column_time : j.column fill timeColumn = j.rows.map (·.time) := by
  simp [column]

theorem column_of_ne {c : String} (hc : c ≠ timeColumn) :
    j.column fill c = if j.isOpen then
      j.rows.dropLast.map (Row.entry fill c) ++ (j.rows.getLast?.bind (·.logged.lookup c)).toList
    else j.rows.map (Row.entry fill c) := by
  simp [column, hc]

/-- Without rows every column is empty, whatever the fill values. -/
theorem column_of_rows_nil (h : j.rows = []) (c : String) : j.column fill c = [] := by
  by_cases hc : c = timeColumn <;> simp [column, h, hc]

/-- A completed column holds an entry for every row. -/
theorem close_column (c : String) :
    j.close.column fill c =
      if c = timeColumn then j.rows.map (·.time) else j.rows.map (Row.entry fill c) := by
  by_cases hc : c = timeColumn <;> simp [column, close, hc]

/-- Completing a column: a column one value short gets its fill value, and any other column
already has a value for every row. -/
theorem close_column_eq (c : String) :
    j.close.column fill c = if (j.column fill c).length = j.rows.length then j.column fill c
      else j.column fill c ++ [fill c] := by
  rw [close_column]
  by_cases hc : c = timeColumn
  · simp [hc]
  rw [column_of_ne j fill hc]
  cases hopen : j.isOpen
  · simp [hc]
  -- an open last row: the column holds its logged value, or nothing yet
  rcases List.eq_nil_or_concat j.rows with hnil | ⟨rs, r, hrs⟩
  · simp [hnil, hc]
  cases hlog : r.logged.lookup c with
  | none => simp [hrs, hlog, hc, Row.entry]
  | some v => simp [hrs, hlog, hc, Row.entry]

/-- A column holds a value for every row or for all rows but the last. -/
theorem length_column (c : String) :
    (j.column fill c).length = j.rows.length ∨ (j.column fill c).length + 1 = j.rows.length := by
  by_cases hc : c = timeColumn
  · simp [hc]
  rw [column_of_ne j fill hc]
  cases j.isOpen
  · simp
  rcases List.eq_nil_or_concat j.rows with hnil | ⟨rs, r, hrs⟩
  · simp [hnil]
  cases hlog : r.logged.lookup c <;> simp [hrs, hlog]

end Columns

end Journal

/-! ## Logs that track a journal -/

/-- A log tracks a journal: the journal is one the discipline reaches, and the log's columns are
its rendering with the log's fill values. -/
structure Tracks (l : Log) (j : Journal) : Prop where
  wf : j.WF
  columns_eq : l.columns = j.render l.fillOf

section Reading

variable {l : Log} {j : Journal}

theorem column?_of_columns_eq (h : l.columns = j.render l.fillOf) (c : String) :
    l.column? c = if c ∈ j.columns then some (j.column l.fillOf c) else none := by
  unfold column?
  rw [h, Journal.render, List.find?_map, Option.map_map]
  simp only [Function.comp_def]
  cases hfind : j.columns.find? (fun k => k == c) with
  | none =>
    have hc : c ∉ j.columns := fun hc => by simpa using List.find?_eq_none.mp hfind c hc
    simp [hc]
  | some k =>
    have hkc : k = c := by simpa using List.find?_some hfind
    subst hkc
    simp [List.mem_of_find?_eq_some hfind]

@[simp] theorem fillOf_withColumns (cols : List (String × List Value)) :
    ({ l with columns := cols } : Log).fillOf = l.fillOf := rfl

theorem times_of_tracks (h : Tracks l j) : l.times = j.rows.map (·.time) := by
  simp [times, column?_of_columns_eq h.columns_eq, h.wf.time_mem]

/-- Setting a column of a log that renders a journal renders a journal with the same columns
that differs in that column only. -/
theorem setColumn_of_columns_eq (h : l.columns = j.render l.fillOf) {j' : Journal}
    (hcols : j'.columns = j.columns) {c : String} (hc : c ∈ j.columns)
    (hother : ∀ k, k ≠ c → j'.column l.fillOf k = j.column l.fillOf k) :
    (l.setColumn c (j'.column l.fillOf c)).columns = j'.render l.fillOf := by
  have hany : l.columns.any (·.1 == c) = true := by
    rw [h, Journal.render]
    exact List.any_eq_true.mpr ⟨_, List.mem_map_of_mem hc, by simp⟩
  rw [setColumn, if_pos hany]
  simp only [h, Journal.render, hcols, List.map_map]
  apply List.map_congr_left
  intro k _
  by_cases hk : k = c
  · subst hk; simp
  · simp [hk, hother k hk]

end Reading

/-! ## The journal after each call -/

namespace Journal

variable {j j' : Journal} (fill : String → Value)

theorem WF.close (h : j.WF) : j.close.WF := ⟨h.time_mem, h.numbers, h.sorted⟩

/-- Every time is at most the last one. -/
theorem WF.atMost_last (h : j.WF) {rs : List Row} {r : Row} (hrs : j.rows = rs ++ [r]) :
    ∀ s ∈ j.rows, atMost s.time r.time := by
  have hsorted := h.sorted
  rw [hrs, List.map_append, List.pairwise_append] at hsorted
  intro s hs
  rw [hrs, List.mem_append, List.mem_singleton] at hs
  rcases hs with hs | rfl
  · exact hsorted.2.2 _ (List.mem_map_of_mem hs) _ (by simp)
  · exact h.numbers s (by simp [hrs])

theorem step_newRow {t : Value} (hs : j.step (.newRow t) = some j') :
    atMost t t ∧ (∀ r ∈ j.rows.getLast?, atMost r.time t) ∧
      j' = { j with rows := j.rows ++ [⟨t, []⟩], isOpen := true } := by
  simp only [step, Bool.and_eq_true, Option.all_eq_true] at hs
  split_ifs at hs with hcond
  · cases hs
    exact ⟨hcond.1, fun r hr => hcond.2 r hr, rfl⟩

theorem WF.newRow (h : j.WF) {t : Value} (hs : j.step (.newRow t) = some j') : j'.WF := by
  obtain ⟨ht, hlast, rfl⟩ := step_newRow hs
  refine ⟨h.time_mem, ?_, ?_⟩
  · intro r hr
    rw [List.mem_append, List.mem_singleton] at hr
    rcases hr with hr | rfl
    · exact h.numbers r hr
    · exact ht
  · -- every earlier time is at most the last, which is at most the new time
    rw [List.map_append, List.pairwise_append]
    refine ⟨h.sorted, by simp, ?_⟩
    intro a ha b hb
    obtain ⟨s, hsr, rfl⟩ := List.mem_map.mp ha
    simp only [List.map_cons, List.map_nil, List.mem_singleton] at hb
    subst hb
    rcases List.eq_nil_or_concat' j.rows with hnil | ⟨rs, r, hrs⟩
    · simp [hnil] at hsr
    · exact atMost_trans (h.atMost_last hrs s hsr) (hlast r (by simp [hrs]))

theorem column_newRow {t : Value} (hs : j.step (.newRow t) = some j') (c : String) :
    j'.column fill c = if c = timeColumn then j.rows.map (·.time) ++ [t]
      else j.close.column fill c := by
  obtain ⟨-, -, rfl⟩ := step_newRow hs
  by_cases hc : c = timeColumn
  · simp [hc]
  · simp [column, close, hc]

theorem step_logValue {c : String} {v : Value} (hs : j.step (.logValue c v) = some j') :
    ∃ r, j.rows.getLast? = some r ∧ j.isOpen ∧ c ∈ j.columns ∧ c ≠ timeColumn ∧
      r.logged.lookup c = none ∧
      j' = { j with rows := j.rows.dropLast ++ [{ r with logged := r.logged ++ [(c, v)] }] } := by
  simp only [step] at hs
  split at hs
  · rename_i r hr
    simp only [Bool.and_eq_true, bne_iff_ne, ne_eq, List.contains_iff_mem,
      Option.isNone_iff_eq_none] at hs
    split_ifs at hs with hcond
    cases hs
    exact ⟨r, hr, hcond.1.1.1, hcond.1.1.2, hcond.1.2, hcond.2, rfl⟩
  · cases hs

/-- Logging a value keeps the rows' times. -/
theorem times_logValue {r : Row} (hr : j.rows.getLast? = some r) (c : String) (v : Value) :
    (j.rows.dropLast ++ [{ r with logged := r.logged ++ [(c, v)] }]).map Row.time =
      j.rows.map Row.time := by
  conv_rhs => rw [← List.dropLast_append_getLast? r hr]
  simp

theorem WF.logValue (h : j.WF) {c : String} {v : Value} (hs : j.step (.logValue c v) = some j') :
    j'.WF := by
  obtain ⟨r, hr, -, -, -, -, rfl⟩ := step_logValue hs
  have hsorted := h.sorted
  rw [← times_logValue hr c v] at hsorted
  refine ⟨h.time_mem, ?_, hsorted⟩
  intro s hs
  rw [List.mem_append, List.mem_singleton] at hs
  rcases hs with hs | rfl
  · exact h.numbers s (List.mem_of_mem_dropLast hs)
  · exact h.numbers r (List.mem_of_getLast? hr)

theorem column_logValue {c : String} {v : Value} (hs : j.step (.logValue c v) = some j')
    (k : String) :
    j'.column fill k = if k = c then j.column fill c ++ [v] else j.column fill k := by
  obtain ⟨r, hr, hopen, -, hc, hnone, rfl⟩ := step_logValue hs
  by_cases hk : k = timeColumn
  · subst hk
    simp only [column_time]
    rw [times_logValue hr c v]
    simp [Ne.symm hc]
  · rw [column_of_ne _ _ hk]
    by_cases hkc : k = c
    · subst hkc
      rw [if_pos rfl, column_of_ne _ _ hk]
      simp [hopen, hr, hnone, List.lookup_append]
    · have hbeq : (k == c) = false := beq_false_of_ne hkc
      rw [if_neg hkc, column_of_ne _ _ hk]
      simp [hopen, hr, List.lookup_append, List.lookup_cons, hbeq]

theorem column_deleteLastRow (hne : j.rows ≠ []) (c : String) :
    (j.step .deleteLastRow).map (·.column fill c) =
      some (if (j.column fill c).length = j.rows.length then (j.column fill c).dropLast
        else j.column fill c) := by
  simp only [step, Option.map_some, Option.some.injEq]
  by_cases hc : c = timeColumn
  · simp [hc, List.map_dropLast]
  rw [column_of_ne _ _ hc, column_of_ne _ _ hc]
  obtain ⟨rs, r, hrs⟩ := (List.eq_nil_or_concat j.rows).resolve_left hne
  cases hopen : j.isOpen
  · simp [hrs]
  · -- a value logged in the last row goes with it; a column still short keeps its values
    cases hlog : r.logged.lookup c <;> simp [hrs, hlog]

theorem WF.deleteLastRow (h : j.WF) (hs : j.step .deleteLastRow = some j') : j'.WF := by
  simp only [step, Option.some.injEq] at hs
  subst hs
  refine ⟨h.time_mem, fun r hr => h.numbers r (List.mem_of_mem_dropLast hr), ?_⟩
  exact h.sorted.sublist ((List.dropLast_sublist _).map _)

theorem step_addColumn {c : String} {f : Value} (hs : j.step (.addColumn c f) = some j') :
    j.rows = [] ∧ c ∉ j.columns ∧ j' = { j with columns := j.columns ++ [c] } := by
  simp only [step] at hs
  split_ifs at hs with hcond
  cases hs
  simp only [Bool.and_eq_true, Bool.not_eq_true', List.isEmpty_iff] at hcond
  exact ⟨hcond.1, by simpa using hcond.2, rfl⟩

theorem WF.step (h : j.WF) {op : Op} (hs : j.step op = some j') : j'.WF := by
  cases op with
  | addColumn c f =>
    obtain ⟨-, -, rfl⟩ := step_addColumn hs
    exact ⟨List.mem_append_left _ h.time_mem, h.numbers, h.sorted⟩
  | newRow t => exact h.newRow hs
  | logValue c v => exact h.logValue hs
  | deleteLastRow => exact h.deleteLastRow hs

end Journal

/-! ## Each call on a log that tracks a journal -/

section Calls

variable {l : Log} {j j' : Journal}

theorem setColumn_of_columns_eq' (h : l.columns = j.render l.fillOf)
    (hcols : j'.columns = j.columns) {c : String} (hc : c ∈ j.columns)
    (hother : ∀ k, k ≠ c → j'.column l.fillOf k = j.column l.fillOf k) :
    l.setColumn c (j'.column l.fillOf c) = { l with columns := j'.render l.fillOf } := by
  rw [← setColumn_of_columns_eq h hcols hc hother]
  simp only [setColumn]
  split_ifs <;> rfl

/-- Completing the last row of a log gives the log of the completed journal. -/
theorem completeLastLine_eq (h : Tracks l j) :
    l.completeLastLine = pure { l with columns := j.close.render l.fillOf } := by
  unfold completeLastLine
  rw [times_of_tracks h, h.columns_eq, Journal.render]
  simp only [List.mapM_map, List.length_map]
  rw [mapM_eq_pure_map _ (fun c => (c, j.close.column l.fillOf c)) j.columns, pure_bind]
  · rfl
  intro c _
  -- a column is full, or one value short and completed with its fill value
  simp only [Function.comp_apply, j.close_column_eq l.fillOf c]
  rcases j.length_column l.fillOf c with hfull | hshort
  · simp [hfull]
  · have hne : (j.column l.fillOf c).length ≠ j.rows.length := by omega
    have hlt : (j.column l.fillOf c).length < j.rows.length := by omega
    simp [hne, hlt]

theorem newRow_eq (h : Tracks l j) {t : Value} (hs : j.step (.newRow t) = some j') :
    l.newRow t = pure { l with columns := j'.render l.fillOf } := by
  obtain ⟨ht, hlast, hj'⟩ := Journal.step_newRow hs
  have hc : Tracks { l with columns := j.close.render l.fillOf } j.close := ⟨h.wf.close, rfl⟩
  unfold newRow
  rw [completeLastLine_eq h, pure_bind, times_of_tracks hc]
  have hfill : ({ l with columns := j.close.render l.fillOf } : Log).fillOf = l.fillOf := rfl
  have hset := setColumn_of_columns_eq' hc.columns_eq
    (show j'.columns = j.close.columns by rw [hj']; rfl) h.wf.time_mem
    (fun k hk => by rw [hfill, Journal.column_newRow _ hs, if_neg hk])
  rw [hfill, Journal.column_newRow _ hs, if_pos rfl] at hset
  dsimp only
  split
  · -- the new time is not before the last one, so the check passes
    next last hl =>
    rw [List.getLast?_map, Option.map_eq_some_iff] at hl
    obtain ⟨r, hr, rfl⟩ := hl
    have hnum := h.wf.numbers r (List.mem_of_getLast? hr)
    have hge := (not_lt_iff_atMost ht hnum).mpr (hlast r hr)
    rw [Ops.lt_of_numbers ht hnum, pure_bind]
    simp only [beq_eq_false_iff_ne.mpr hge, Bool.false_eq_true, if_false]
    exact congrArg pure hset
  · exact congrArg pure hset

theorem logValue_eq (h : Tracks l j) {c : String} {v : Value}
    (hs : j.step (.logValue c v) = some j') :
    l.logValue c v = .ok { l with columns := j'.render l.fillOf } := by
  obtain ⟨r, hr, -, hmem, -, -, hj'⟩ := Journal.step_logValue hs
  have hset := setColumn_of_columns_eq' h.columns_eq
    (show j'.columns = j.columns by rw [hj']) hmem
    (fun k hk => by rw [Journal.column_logValue _ hs, if_neg hk])
  rw [Journal.column_logValue _ hs, if_pos rfl] at hset
  simp only [logValue, column?_of_columns_eq h.columns_eq, hmem, if_true, hset]
  rfl

theorem deleteLastRow_eq (h : Tracks l j) {j' : Journal} (hs : j.step .deleteLastRow = some j') :
    l.deleteLastRow = { l with columns := j'.render l.fillOf } := by
  have hcols : j'.columns = j.columns := by
    simp only [Journal.step, Option.some.injEq] at hs
    rw [← hs]
  unfold deleteLastRow
  rw [times_of_tracks h, List.length_map]
  by_cases hnil : j.rows = []
  · -- without rows nothing is removed
    have hj' : j'.rows = [] := by
      simp only [Journal.step, Option.some.injEq] at hs
      simp [← hs, hnil]
    have hsame : ∀ c, j'.column l.fillOf c = j.column l.fillOf c := fun c => by
      rw [j'.column_of_rows_nil _ hj', j.column_of_rows_nil _ hnil]
    simp only [hnil, List.length_nil, beq_self_eq_true, if_true]
    show l = { l with columns := j'.columns.map fun c => (c, j'.column l.fillOf c) }
    simp only [hcols, hsame]
    rw [← Journal.render, ← h.columns_eq]
  · have hlen : (j.rows.length == 0) = false := by simpa using hnil
    simp only [hlen, Bool.false_eq_true, if_false, h.columns_eq, Journal.render, List.map_map,
      hcols]
    congr 1
    apply List.map_congr_left
    intro k _
    have hk := j.column_deleteLastRow l.fillOf hnil k
    rw [hs, Option.map_some, Option.some.injEq] at hk
    simp only [Function.comp_apply, hk, beq_iff_eq]
    split_ifs <;> rfl

theorem addColumn_eq (h : Tracks l j) {c : String} {fill : Value}
    (hs : j.step (.addColumn c fill) = some j') :
    ∃ l' col, l.addColumn c fill = .ok (l', col) ∧ Tracks l' j' := by
  obtain ⟨hnil, hfresh, hj'⟩ := Journal.step_addColumn hs
  have hany : l.columns.any (·.1 == c) = false := by
    rw [h.columns_eq, Journal.render]
    simpa using fun k hk (hkc : k = c) => hfresh (hkc ▸ hk)
  -- whichever fill value the column takes, there is no row to fill
  have htracks : ∀ l₁ : Log, l₁.columns = l.columns → ∀ v : Value,
      Tracks { l₁ with columns := l₁.columns ++ [(c, List.replicate l₁.times.length v)] } j' := by
    intro l₁ h₁ v
    have htimes : l₁.times = [] := by
      rw [show l₁.times = l.times by simp [times, column?, h₁], times_of_tracks h, hnil]
      rfl
    refine ⟨h.wf.step hs, ?_⟩
    subst hj'
    have hnil' : ({ j with columns := j.columns ++ [c] } : Journal).rows = [] := hnil
    rw [htimes, h₁, h.columns_eq, Journal.render, Journal.render, List.map_append]
    simp only [Journal.column_of_rows_nil _ _ hnil, Journal.column_of_rows_nil _ _ hnil',
      List.map_cons, List.map_nil, List.length_nil, List.replicate_zero]
  unfold addColumn
  simp only [hany, Bool.false_eq_true, if_false]
  -- the fill value decides the fill values only; on each kind of value the choice reduces
  cases fill <;> exact ⟨_, _, rfl, htracks _ (by rfl) _⟩

/-- Each call that keeps the discipline succeeds on a log that tracks the journal, and the log
after it tracks the journal after it. -/
theorem Op.apply_of_step (h : Tracks l j) {op : Op} (hs : j.step op = some j') :
    ∃ l', op.apply l = pure l' ∧ Tracks l' j' := by
  cases op with
  | addColumn c fill =>
    obtain ⟨l', col, hadd, hl'⟩ := addColumn_eq h hs
    exact ⟨l', by rw [Op.apply, hadd]; rfl, hl'⟩
  | newRow t => exact ⟨_, newRow_eq h hs, h.wf.step hs, rfl⟩
  | logValue c v =>
    exact ⟨{ l with columns := j'.render l.fillOf }, by rw [Op.apply, logValue_eq h hs]; rfl,
      h.wf.step hs, rfl⟩
  | deleteLastRow =>
    exact ⟨{ l with columns := j'.render l.fillOf }, by rw [Op.apply, deleteLastRow_eq h hs],
      h.wf.step hs, rfl⟩

/-- A run that keeps the discipline succeeds, and its log tracks the journal of the run: by
induction on the calls, one step at a time. -/
theorem applyAll_of_run (ops : List Op) :
    ∀ {l : Log} {j j' : Journal}, Tracks l j → j.run ops = some j' →
      ∃ l', applyAll l ops = pure l' ∧ Tracks l' j' := by
  induction ops with
  | nil =>
    intro l j j' h hrun
    simp only [Journal.run, List.foldlM_nil, Option.pure_def, Option.some.injEq] at hrun
    exact ⟨l, rfl, hrun ▸ h⟩
  | cons op ops ih =>
    intro l j j' h hrun
    simp only [Journal.run, List.foldlM_cons, Option.bind_eq_bind, Option.bind_eq_some_iff] at hrun
    obtain ⟨j₁, hs, hrest⟩ := hrun
    obtain ⟨l₁, happly, h₁⟩ := Op.apply_of_step h hs
    obtain ⟨l', hall, h'⟩ := ih h₁ hrest
    exact ⟨l', by simp [applyAll, List.foldlM_cons, happly, ← hall], h'⟩

end Calls

/-! ## A new log -/

/-- The journal of a log without rows: its columns, and nothing logged. -/
def Journal.start (l : Log) : Journal :=
  { columns := l.columns.map (·.1), rows := [], isOpen := false }

/-- A log without values tracks the journal of its columns, the time column among them. -/
theorem tracks_start {l : Log} (hempty : ∀ p ∈ l.columns, p.2 = [])
    (htime : timeColumn ∈ l.columns.map (·.1)) : Tracks l (Journal.start l) := by
  refine ⟨⟨htime, by simp [Journal.start], by simp [Journal.start]⟩, ?_⟩
  rw [Journal.render, Journal.start, List.map_map]
  conv_lhs => rw [← List.map_id l.columns]
  apply List.map_congr_left
  intro p hp
  rw [Function.comp_apply, Journal.column_of_rows_nil _ _ rfl, ← hempty p hp]
  rfl

/-- Making a column of a name, or clearing the column of that name, keeps every column
empty. -/
theorem makeColumn_empty {acc : List (String × List Value)} (hacc : ∀ p ∈ acc, p.2 = [])
    (n : String) :
    ∀ p ∈ (if (acc.any fun x => x.1 == n) = true then
        acc.map fun x => if (x.1 == n) = true then (x.1, []) else (x.1, x.2)
      else acc ++ [(n, [])]), p.2 = [] := by
  split_ifs
  · simp only [List.mem_map]
    rintro _ ⟨q, hq, rfl⟩
    split_ifs
    · rfl
    · exact hacc q hq
  · simp only [List.mem_append, List.mem_singleton]
    rintro p (hp | rfl)
    · exact hacc p hp
    · rfl

theorem name_mem_makeColumn (acc : List (String × List Value)) (n : String) :
    n ∈ (if (acc.any fun x => x.1 == n) = true then
        acc.map fun x => if (x.1 == n) = true then (x.1, []) else (x.1, x.2)
      else acc ++ [(n, [])]).map (·.1) := by
  split_ifs with hany
  · obtain ⟨q, hq, hqn⟩ := List.any_eq_true.mp hany
    simp only [List.map_map]
    refine List.mem_map.mpr ⟨q, hq, ?_⟩
    simp only [Function.comp_apply, hqn, if_true]
    simpa using hqn
  · simp

theorem foldl_makeColumn_empty (names : List String) :
    ∀ acc : List (String × List Value), (∀ p ∈ acc, p.2 = []) →
      ∀ p ∈ names.foldl (fun acc n => if (acc.any fun x => x.1 == n) = true then
          acc.map fun x => if (x.1 == n) = true then (x.1, []) else (x.1, x.2)
        else acc ++ [(n, [])]) acc, p.2 = [] := by
  induction names with
  | nil => exact fun acc hacc => hacc
  | cons n names ih => exact fun acc hacc => ih _ (makeColumn_empty hacc n)

/-- A new log tracks the journal of its columns: all empty, the time column among them. -/
theorem tracks_make {names : List String} {fill : Value} {ts : Bool} {l : Log}
    (h : make names fill ts = .ok l) : Tracks l (Journal.start l) := by
  unfold make at h
  -- the loop over the names only checks them; the log is the one built after it
  simp only [bind, Except.bind] at h
  split at h
  · cases h
  · injection h with h
    subst h
    exact tracks_start (makeColumn_empty (foldl_makeColumn_empty names [] (by simp)) _)
      (name_mem_makeColumn _ _)

/-! ## The binary search of `valueAt` -/

/-- Where the comparison of each row's time with `time` tells whether the row lies before row
`m`, the search between `lo ≤ m` and `hi ≥ m` finds `m`, given more fuel than the width of the
interval: by induction on the fuel, each round keeping `m` inside a narrower interval. -/
theorem firstNotBefore_eq {time : Value} {times : List Value} {m : ℕ}
    (hcmp : ∀ k, k < times.length → Ops.lt (times.getD k .null) time = pure (decide (k < m))) :
    ∀ fuel lo hi, lo ≤ m → m ≤ hi → hi ≤ times.length → hi - lo < fuel →
      valueAt.firstNotBefore time times fuel lo hi = pure m := by
  intro fuel
  induction fuel with
  | zero => intro lo hi _ _ _ hfuel; omega
  | succ fuel ih =>
    intro lo hi hlo hhi hn hfuel
    rw [valueAt.firstNotBefore]
    by_cases hlt : lo < hi
    · rw [if_pos hlt]
      dsimp only
      rw [hcmp _ (by omega), pure_bind]
      by_cases hmid : (lo + hi) / 2 < m
      · simp only [decide_eq_true hmid, if_true]
        exact ih _ hi (by omega) hhi hn (by omega)
      · simp only [decide_eq_false hmid, Bool.false_eq_true, if_false]
        exact ih lo _ hlo (by omega) (by omega) (by omega)
    · rw [if_neg hlt]
      congr 1
      omega

section Reading

variable {l : Log} {j : Journal}

/-- The rows before the first one not earlier than `t` are exactly those whose time is below
`t`: the times never decrease. -/
theorem lt_iff_lt_findIdx (h : Tracks l j) {t : Value} (ht : atMost t t) {k : ℕ}
    (hk : k < l.times.length) :
    compareNumbers l.times[k] t = some .lt ↔ k < l.times.findIdx (atMost t ·) := by
  have htimes := times_of_tracks h
  have hnum : ∀ i (hi : i < l.times.length), atMost l.times[i] l.times[i] := by
    intro i hi
    simp only [htimes, List.getElem_map]
    exact h.wf.numbers _ (List.getElem_mem _)
  have hsorted : ∀ i i' (hi : i < l.times.length) (hi' : i' < l.times.length), i ≤ i' →
      atMost l.times[i] l.times[i'] := by
    intro i i' hi hi' hle
    rcases hle.eq_or_lt with rfl | hlt
    · exact hnum i hi
    · have := List.pairwise_iff_getElem.mp h.wf.sorted i i' (by simpa [htimes] using hi)
        (by simpa [htimes] using hi') hlt
      simpa [htimes] using this
  constructor
  · -- a row at or after the first one not before `t` is not before `t` either
    intro hlt
    by_contra hge
    have hfound : l.times.findIdx (atMost t ·) < l.times.length := by omega
    have hfirst := List.findIdx_getElem (w := hfound)
    have := atMost_trans hfirst (hsorted _ k hfound hk (by omega))
    exact (not_lt_iff_atMost (hnum k hk) ht).mpr this hlt
  · intro hlt
    have hbefore := List.not_of_lt_findIdx hlt
    by_contra hne
    exact absurd ((not_lt_iff_atMost (hnum k hk) ht).mp hne) (by simpa using hbefore)

/-- On a log that tracks a journal, `valueAt` at a time (a number, not NaN) reads the first row
whose time is not before it. -/
theorem valueAt_eq (h : Tracks l j) {t : Value} (ht : atMost t t) (c : String) :
    l.valueAt t c = match l.column? c with
      | some vs => match vs[l.times.findIdx (atMost t ·)]? with
        | some v => pure v
        | none => Sim.fail Fault.badIndex
      | none => Sim.fail (Fault.bare .keyError) := by
  have hcmp : ∀ k, k < l.times.length →
      Ops.lt (l.times.getD k .null) t = pure (decide (k < l.times.findIdx (atMost t ·))) := by
    intro k hk
    have hnum : atMost l.times[k] l.times[k] := by
      simp only [times_of_tracks h, List.getElem_map]
      exact h.wf.numbers _ (List.getElem_mem _)
    rw [List.getD_eq_getElem _ _ hk, Ops.lt_of_numbers hnum ht]
    congr 1
    by_cases hlt : k < l.times.findIdx (atMost t ·)
    · simp [hlt, (lt_iff_lt_findIdx h ht hk).mpr hlt]
    · have hne : compareNumbers l.times[k] t ≠ some .lt := fun h' =>
        hlt ((lt_iff_lt_findIdx h ht hk).mp h')
      simp [hlt, hne]
  unfold valueAt
  dsimp only
  refine (congrArg (· >>= _) (firstNotBefore_eq hcmp _ 0 l.times.length (Nat.zero_le _)
    List.findIdx_le_length le_rfl (by omega))).trans ?_
  exact rfl

end Reading

/-! ## A row opened, logged into and deleted -/

section Restore

variable {l : Log} {j : Journal}

/-- Values logged into the open last row change only the log's columns, and keep the journal's
columns and earlier rows: by induction on the calls. -/
theorem applyAll_logValues {logs : List Op} (hlogs : ∀ op ∈ logs, ∃ c v, op = .logValue c v) :
    ∀ {l : Log} {j j' : Journal}, Tracks l j → j.run logs = some j' →
      applyAll l logs = pure { l with columns := j'.render l.fillOf } ∧ Tracks
        { l with columns := j'.render l.fillOf } j' ∧ j'.columns = j.columns ∧
        j'.rows.dropLast = j.rows.dropLast := by
  induction logs with
  | nil =>
    intro l j j' h hrun
    simp only [Journal.run, List.foldlM_nil, Option.pure_def, Option.some.injEq] at hrun
    subst hrun
    rw [← h.columns_eq]
    exact ⟨rfl, h, rfl, rfl⟩
  | cons op logs ih =>
    intro l j j' h hrun
    obtain ⟨c, v, rfl⟩ := hlogs _ List.mem_cons_self
    simp only [Journal.run, List.foldlM_cons, Option.bind_eq_bind, Option.bind_eq_some_iff] at hrun
    obtain ⟨j₁, hs, hrest⟩ := hrun
    have h₁ : Tracks { l with columns := j₁.render l.fillOf } j₁ := ⟨h.wf.step hs, rfl⟩
    obtain ⟨hall, h', hcols, hdrop⟩ := ih (fun op hop => hlogs op (List.mem_cons_of_mem _ hop))
      h₁ hrest
    obtain ⟨r, hr, -, -, -, -, hj₁⟩ := Journal.step_logValue hs
    simp only [fillOf_withColumns] at hall h'
    refine ⟨?_, h', ?_, ?_⟩
    · rw [applyAll, List.foldlM_cons, Op.apply, logValue_eq h hs]
      exact hall
    · rw [hcols, hj₁]
    · rw [hdrop, hj₁]
      simp

/-- Opening a row, logging values into it and deleting it gives back the log before the row,
with its last row completed. -/
theorem applyAll_newRow_deleteLastRow (h : Tracks l j) {t : Value} {logs : List Op}
    (hlogs : ∀ op ∈ logs, ∃ c v, op = .logValue c v) (hrun : (j.run (.newRow t :: logs)).isSome) :
    applyAll l (.newRow t :: logs ++ [.deleteLastRow]) = l.completeLastLine := by
  obtain ⟨j₂, hrun₂⟩ := Option.isSome_iff_exists.mp hrun
  simp only [Journal.run, List.foldlM_cons, Option.bind_eq_bind, Option.bind_eq_some_iff] at hrun₂
  obtain ⟨j₁, hs₁, hlogs₁⟩ := hrun₂
  obtain ⟨-, -, hj₁⟩ := Journal.step_newRow hs₁
  have h₁ : Tracks { l with columns := j₁.render l.fillOf } j₁ := ⟨h.wf.step hs₁, rfl⟩
  obtain ⟨hall, h₂, hcols, hdrop⟩ := applyAll_logValues hlogs h₁ hlogs₁
  -- deleting the row leaves the rows before it, completed
  have hs₃ : j₂.step .deleteLastRow = some j.close := by
    simp only [Journal.step, hdrop, hcols, hj₁, List.dropLast_concat, Journal.close]
  have hdel := deleteLastRow_eq h₂ hs₃
  simp only [fillOf_withColumns] at hall hdel
  rw [completeLastLine_eq h]
  calc applyAll l (.newRow t :: logs ++ [.deleteLastRow])
      = applyAll { l with columns := j₁.render l.fillOf } logs >>=
          fun l₂ => pure l₂.deleteLastRow := by
        simp only [applyAll, List.cons_append, List.foldlM_cons, List.foldlM_append,
          List.foldlM_nil, Op.apply, newRow_eq h hs₁, pure_bind, bind_pure]
    _ = pure { l with columns := j.close.render l.fillOf } := by rw [hall, pure_bind, hdel]

end Restore

/-! ## The alignment of every disciplined run -/

/-- What holds of a log reached by calls that keep the discipline, with the journal of those
calls. -/
structure Aligned (l : Log) (j : Journal) : Prop where
  /-- Every column holds as many values as there are rows, or one fewer. -/
  lengths : ∀ p ∈ l.columns, p.2.length = l.times.length ∨ p.2.length + 1 = l.times.length
  /-- Completing the last row gives every column a value in every row: the value logged there,
  else the column's fill value (its own, else the log's default). -/
  completed : l.completeLastLine = pure { l with columns := l.columns.map fun p =>
    (p.1, if p.1 = timeColumn then l.times else j.rows.map (Row.entry l.fillOf p.1)) }
  /-- Opening a row, logging into it and deleting it gives back the log with its last row
  completed. -/
  restores : ∀ t logs, (∀ op ∈ logs, ∃ c v, op = Op.logValue c v) →
    (j.run (.newRow t :: logs)).isSome →
      applyAll l (.newRow t :: logs ++ [.deleteLastRow]) = l.completeLastLine
  /-- The value of a column at a time (a number, not NaN) is its value in the first row whose
  time is not before it. -/
  valueAt_first : ∀ t c vs, atMost t t → l.column? c = some vs →
    l.valueAt t c = match vs[l.times.findIdx (atMost t ·)]? with
      | some v => pure v
      | none => Sim.fail Fault.badIndex

theorem Tracks.aligned {l : Log} {j : Journal} (h : Tracks l j) : Aligned l j where
  lengths := by
    intro p hp
    rw [h.columns_eq, Journal.render, List.mem_map] at hp
    obtain ⟨c, -, rfl⟩ := hp
    rw [times_of_tracks h, List.length_map]
    exact j.length_column l.fillOf c
  completed := by
    rw [completeLastLine_eq h, h.columns_eq, times_of_tracks h]
    simp only [Journal.render, List.map_map, Journal.close_column]
    rfl
  restores := fun _ _ hlogs hrun => applyAll_newRow_deleteLastRow h hlogs hrun
  valueAt_first := by
    intro t c vs ht hc
    rw [valueAt_eq h ht c, hc]

/-- Every run of calls that keeps the discipline, from a new log, succeeds, and leaves the
log's rows aligned with its times. -/
theorem rowsAligned (names : List String) (fill : Value) (timeSteps : Bool) {l₀ : Log}
    (h₀ : make names fill timeSteps = .ok l₀) (ops : List Op) {j : Journal}
    (hj : (Journal.start l₀).run ops = some j) :
    ∃ l, applyAll l₀ ops = pure l ∧ Aligned l j := by
  obtain ⟨l, hl, ht⟩ := applyAll_of_run ops (tracks_make h₀) hj
  exact ⟨l, hl, ht.aligned⟩

theorem rowsAligned_oneValue :
    make [] (.int 0) false = .ok ⟨[(timeColumn, [])], [("default", .int 0)], false⟩ ∧
    (Journal.start ⟨[(timeColumn, [])], [("default", .int 0)], false⟩).run
        [.addColumn "c" .null, .newRow (.int 0), .logValue "c" (.int 1)] =
      some ⟨[timeColumn, "c"], [⟨.int 0, [("c", .int 1)]⟩], true⟩ ∧
    ∃ l, applyAll ⟨[(timeColumn, [])], [("default", .int 0)], false⟩
        [.addColumn "c" .null, .newRow (.int 0), .logValue "c" (.int 1)] = pure l ∧
      Aligned l ⟨[timeColumn, "c"], [⟨.int 0, [("c", .int 1)]⟩], true⟩ :=
  ⟨rfl, rfl, rowsAligned [] (.int 0) false rfl _ rfl⟩

/-- A value logged right after `deleteLastRow` lands in the row the log has already completed.
The calls add the column first, open rows at increasing times and log one value into the column
between rows, yet the column ends with two values for the one row left. -/
theorem deleteThenLog_overfills :
    applyAll ⟨[(timeColumn, [])], [("default", .int 0)], false⟩
        [.addColumn "c" .null, .newRow (.int 0), .logValue "c" (.int 1), .newRow (.int 1),
          .deleteLastRow, .logValue "c" (.int 2)] =
      pure ⟨[(timeColumn, [.int 0]), ("c", [.int 1, .int 2])], [("default", .int 0)], false⟩ :=
  rfl

end Log
end RocketSim
