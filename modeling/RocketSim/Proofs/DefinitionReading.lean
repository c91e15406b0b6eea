import Mathlib
import RocketSim.Definition.Writer

/-!
# Reading a definition file: which dictionary each line stands in

A definition file is read line by line.  A line `name{` opens a dictionary, a line
`!create name from source{` opens a derived dictionary (whose `!replace` and
`!removeKeysContaining` command lines follow it), `}` closes the innermost open dictionary,
and an entry line `key value words` defines the key inside the dictionaries open at it.

Read on their own, the lines say which dictionaries are open at each of them (`scopeAt`), and
so the full key of each entry line: the names of the dictionaries enclosing it and its first
word, joined by dots (`joinKey`).  The reader agrees with this reading: every key it returns
for an entry line is that line's full key, and a text whose dictionaries are not all closed
at its end is refused.

It does so only until a `}` line that closes no dictionary (`StrayClosing`): such a line ends
the reading of the file at the root, silently, and the lines after it are never read.

**Results.**
* `applyCommands_reads`: the command lines of a derived dictionary are the run of command
  lines after its `!create` line.
* `parseLines_tracks`: the run lemma; from a line whose open dictionaries the reader tracks,
  every key read so far stays, every later entry line before a stray `}` adds its full key,
  and a text with no stray `}` ends with every dictionary closed.
* `parseContentLines_scopes`: the reader's result, from the root.
-/

namespace RocketSim

/-! ## Runs of the simulation monad -/

theorem Sim.satisfiesM_fail {α : Type} (p : α → Prop) (f : Fault) :
    SatisfiesM p (Sim.fail f : Sim α) :=
  ⟨Sim.fail f, by simp [Sim.fail, Sim.lift]; rfl⟩

theorem Sim.satisfiesM_lift {α : Type} {p : α → Prop} {r : Outcome α}
    (h : ∀ a, r = .ok a → p a) : SatisfiesM p (Sim.lift r) := by
  cases r with
  | error e => exact Sim.satisfiesM_fail p e
  | ok a => exact SatisfiesM.pure (h a rfl)

namespace Definition

/-! ## The lines of a definition, read on their own -/

/-- A command line of a derived dictionary: read as shell words, it starts with `!replace`
or `!removeKeysContaining`. -/
def isCommandLine (raw : String) : Bool :=
  match ShellWords.split raw with
  | .ok ("!replace" :: _) => true
  | .ok ("!removeKeysContaining" :: _) => true
  | _ => false

/-- What a line of a definition file is, read on its own. -/
inductive LineKind where
  /-- `!create name from source{`: opens the derived dictionary `name`. -/
  | create (name : String)
  /-- `!include path`: copies another file's keys. -/
  | include
  /-- `name{`: opens the dictionary `name`. -/
  | opening (name : String)
  /-- `}`: closes the innermost open dictionary. -/
  | closing
  /-- `key value words`: defines `key`. -/
  | entry (key : String)
  /-- Anything else, which the reader refuses. -/
  | malformed
  deriving DecidableEq

/-- The kind of a line: its first word decides the commands, a final `{` an opening line, a
lone `}` a closing line, and two words or more an entry. -/
def lineKind (raw : String) : LineKind :=
  let line := Str.strip raw
  let words := Str.splitWs line
  if words.head? == some "!create" then
    match ShellWords.split raw with
    | .ok ws => match ws[1]? with
      | some name => .create name
      | none => .malformed
    | .error _ => .malformed
  else if words.head? == some "!include" then .include
  else if Str.endsWith line "\x7b" then .opening (Str.dropRight line 1)
  else if line == "\x7d" then .closing
  else if words.length > 1 then .entry (words.headD "")
  else .malformed

/-- The dictionaries open at a line, innermost first, and whether command lines of a derived
dictionary may stand there (right after its `!create` line or another command line). -/
structure Scope where
  names : List String
  commands : Bool

/-- The scope after a line of a given kind: an opening line opens its dictionary, a closing
line closes the innermost one, and only a `!create` line lets command lines follow. -/
def Scope.enter (sc : Scope) : LineKind → Scope
  | .create name => ⟨name :: sc.names, true⟩
  | .opening name => ⟨name :: sc.names, false⟩
  | .closing => ⟨sc.names.tail, false⟩
  | _ => ⟨sc.names, false⟩

/-- The scope after a line: a command line of a derived dictionary changes nothing. -/
def Scope.next (sc : Scope) (raw : String) : Scope :=
  if sc.commands && isCommandLine raw then sc else sc.enter (lineKind raw)

/-- The scope at line `i`: the lines before it, read from the root. -/
def scopeAt (lines : Array String) (i : Nat) : Scope :=
  (lines.toList.take i).foldl Scope.next ⟨[], false⟩

/-- The full key of a name inside the dictionaries `path` (outermost first): the names
joined by dots, the root adding nothing. -/
def joinKey (path : List String) : String := path.foldl nested ""

/-- Line `i` is an entry line, not a command line of a derived dictionary, and `key` is its
full key. -/
def EntryKey (lines : Array String) (i : Nat) (key : String) : Prop :=
  ∃ h : i < lines.size, ∃ word,
    ¬((scopeAt lines i).commands = true ∧ isCommandLine lines[i] = true) ∧
    lineKind lines[i] = .entry word ∧ key = joinKey ((scopeAt lines i).names.reverse ++ [word])

/-- Line `i` is a `}` line that closes no dictionary. -/
def StrayClosing (lines : Array String) (i : Nat) : Prop :=
  ∃ h : i < lines.size, lineKind lines[i] = .closing ∧ (scopeAt lines i).names = []

theorem scopeAt_zero (lines : Array String) : scopeAt lines 0 = ⟨[], false⟩ := by
  simp [scopeAt]

theorem scopeAt_succ {lines : Array String} {i : Nat} (h : i < lines.size) :
    scopeAt lines (i + 1) = (scopeAt lines i).next lines[i] := by
  simp [scopeAt, List.take_add_one, getElem?_pos lines i h]

theorem scopeAt_of_size_le {lines : Array String} {i : Nat} (h : lines.size ≤ i) :
    scopeAt lines i = scopeAt lines lines.size := by
  simp only [scopeAt]
  rw [List.take_of_length_le (by simpa using h), List.take_of_length_le (by simp)]

theorem joinKey_append (path : List String) (word : String) :
    joinKey (path ++ [word]) = nested (joinKey path) word := by
  simp [joinKey]

/-- The full names of the open dictionaries, innermost first. -/
def openKeys : List String → List String
  | [] => []
  | name :: outer => joinKey (outer.reverse ++ [name]) :: openKeys outer

/-! ## Command lines -/

/-- Lines `i` to `i + n - 1` are command lines, and line `i + n`, if there is one, is not. -/
def CommandRun (lines : Array String) (i n : Nat) : Prop :=
  (∀ j, i ≤ j → j < i + n → ∃ h : j < lines.size, isCommandLine lines[j] = true) ∧
    ∀ h : i + n < lines.size, isCommandLine lines[i + n] = false

theorem CommandRun.zero_of_size_le {lines : Array String} {i : Nat} (h : lines.size ≤ i) :
    CommandRun lines i 0 :=
  ⟨fun j hij hj => absurd hj (by omega), fun h' => absurd h' (by omega)⟩

theorem CommandRun.succ {lines : Array String} {i n : Nat} (h : i < lines.size)
    (hi : isCommandLine lines[i] = true) (hrun : CommandRun lines (i + 1) n) :
    CommandRun lines i (n + 1) := by
  refine ⟨fun j hij hj => ?_, fun h' => ?_⟩
  · rcases Nat.eq_or_lt_of_le hij with rfl | hlt
    · exact ⟨h, hi⟩
    · exact hrun.1 j hlt (by omega)
  · have := hrun.2 (by omega)
    simpa [Nat.add_right_comm, Nat.add_assoc] using this

/-- The commands after a `!create` line are read up to the first line that is not one. -/
theorem applyCommands_reads (lines : Array String) (i : Nat) (derived : List (String × Value)) :
    SatisfiesM (fun r => CommandRun lines i r.2) (applyCommands lines i derived) := by
  -- the commands read do not depend on the derived keys they rewrite
  suffices hall : ∀ d, SatisfiesM (fun r => CommandRun lines i r.2) (applyCommands lines i d) from
    hall derived
  induction i, derived using applyCommands.induct lines with
  | case1 i _ h ihReplace ihRemove =>
    intro derived
    rw [applyCommands.eq_1, dif_pos h]
    refine SatisfiesM.bind (p := fun ws => ShellWords.split lines[i] = .ok ws)
      (Sim.satisfiesM_lift fun _ h => h) fun ws hws => ?_
    split
    · -- `!replace old new`
      split
      · refine SatisfiesM.bind_pre (SatisfiesM.of_true fun d => ?_)
        exact SatisfiesM.bind (ihReplace [] d) fun r hr => by
          obtain ⟨d', n⟩ := r
          exact SatisfiesM.pure (hr.succ h (by simp [isCommandLine, hws]))
      · exact Sim.satisfiesM_fail _ _
    · -- `!removeKeysContaining text`
      split
      · refine SatisfiesM.bind (ihRemove "" _) fun r hr => ?_
        obtain ⟨d', n⟩ := r
        exact SatisfiesM.pure (hr.succ h (by simp [isCommandLine, hws]))
      · exact Sim.satisfiesM_fail _ _
    · -- any other line ends the commands, or is refused
      rename_i cmd hrep hrem
      split
      · refine SatisfiesM.pure ⟨fun j hij hj => absurd hj (by omega), fun _ => ?_⟩
        simp only [Nat.add_zero, isCommandLine, hws]
        split <;> simp_all
      · exact Sim.satisfiesM_fail _ _
  | case2 i _ h =>
    intro derived
    rw [applyCommands.eq_1, dif_neg h]
    exact SatisfiesM.pure (CommandRun.zero_of_size_le (by omega))

/-- A derived dictionary started at line `i` inside the dictionary `current` is named by the
second shell word of its `!create` line, keeps every key defined before it, and is followed
by the run of its command lines. -/
theorem deriveDictionary_reads (load : String → Sim Definition) (fileName : String)
    (es : List (String × Value)) (lines : Array String) (i : Nat) (current : String) :
    SatisfiesM (fun r : String × List (String × Value) × Nat =>
        (∃ ws name, ShellWords.split (lines.getD i "") = .ok ws ∧ ws[1]? = some name ∧
          r.1 = nested current name) ∧
        (∀ k ∈ es.map Prod.fst, k ∈ r.2.1.map Prod.fst) ∧ CommandRun lines (i + 1) r.2.2)
      (deriveDictionary load fileName es lines i current) := by
  unfold deriveDictionary
  refine SatisfiesM.bind (p := fun ws => ShellWords.split (lines.getD i "") = .ok ws)
    (Sim.satisfiesM_lift fun _ h => h) fun ws hws => ?_
  split
  · rename_i name hname
    simp only []
    split
    · split
      · exact SatisfiesM.bind_pre (Sim.satisfiesM_fail _ _)
      · refine SatisfiesM.bind_pre (SatisfiesM.of_true fun src => ?_)
        split
        · exact SatisfiesM.bind_pre (Sim.satisfiesM_fail _ _)
        · -- the commands are read, and the derived keys come after the old ones
          refine SatisfiesM.bind (applyCommands_reads lines (i + 1) _) fun r hr => ?_
          refine SatisfiesM.bind_pre (SatisfiesM.of_true fun _ => SatisfiesM.pure ?_)
          exact ⟨⟨ws, name, hws, hname, rfl⟩, fun k hk => by simp_all, hr⟩
    · exact Sim.satisfiesM_fail _ _
  · exact Sim.satisfiesM_fail _ _

/-! ## The kind of each line the reader takes apart -/

section Kinds

variable {raw : String}

theorem lineKind_create {ws : List String} {name : String}
    (hc : ((Str.splitWs (Str.strip raw)).head? == some "!create") = true)
    (hws : ShellWords.split raw = .ok ws) (hname : ws[1]? = some name) :
    lineKind raw = .create name := by
  simp only [lineKind, hc, if_true, hws, hname]

theorem lineKind_include
    (hc : ¬((Str.splitWs (Str.strip raw)).head? == some "!create") = true)
    (hi : ((Str.splitWs (Str.strip raw)).head? == some "!include") = true) :
    lineKind raw = .include := by
  simp only [lineKind, hc, hi, if_true, if_false, Bool.false_eq_true]

theorem lineKind_opening
    (hc : ¬((Str.splitWs (Str.strip raw)).head? == some "!create") = true)
    (hi : ¬((Str.splitWs (Str.strip raw)).head? == some "!include") = true)
    (ho : Str.endsWith (Str.strip raw) "\x7b" = true) :
    lineKind raw = .opening (Str.dropRight (Str.strip raw) 1) := by
  simp only [lineKind, hc, hi, ho, if_true, if_false, Bool.false_eq_true]

theorem lineKind_closing
    (hc : ¬((Str.splitWs (Str.strip raw)).head? == some "!create") = true)
    (hi : ¬((Str.splitWs (Str.strip raw)).head? == some "!include") = true)
    (ho : ¬Str.endsWith (Str.strip raw) "\x7b" = true) (hx : (Str.strip raw == "\x7d") = true) :
    lineKind raw = .closing := by
  simp only [lineKind, hc, hi, ho, hx, if_true, if_false, Bool.false_eq_true]

theorem lineKind_entry
    (hc : ¬((Str.splitWs (Str.strip raw)).head? == some "!create") = true)
    (hi : ¬((Str.splitWs (Str.strip raw)).head? == some "!include") = true)
    (ho : ¬Str.endsWith (Str.strip raw) "\x7b" = true) (hx : ¬(Str.strip raw == "\x7d") = true)
    (hw : (Str.splitWs (Str.strip raw)).length > 1) :
    lineKind raw = .entry ((Str.splitWs (Str.strip raw)).headD "") := by
  simp only [lineKind, hc, hi, ho, hx, hw, if_true, if_false, Bool.false_eq_true]

end Kinds

/-! ## The reader tracks the scopes -/

/-- The reader tracks the scope at line `i` with the open dictionaries `opened`: they carry
the full names of the scope's dictionaries, and no command line stands at line `i` where
command lines may. -/
def Tracks (lines : Array String) (i : Nat) (opened : List OpenDict) : Prop :=
  opened.map (·.name) = openKeys (scopeAt lines i).names ∧
    ((scopeAt lines i).commands = true → ∀ h : i < lines.size, isCommandLine lines[i] = false)

theorem tracks_zero (lines : Array String) : Tracks lines 0 [] := by
  simp [Tracks, scopeAt_zero, openKeys]

/-- The innermost open dictionary's full name is the scope's names joined. -/
theorem currentName_eq {opened : List OpenDict} {names : List String}
    (h : opened.map (·.name) = openKeys names) :
    (opened.head?.map (·.name)).getD "" = joinKey names.reverse := by
  cases names with
  | nil =>
    obtain rfl : opened = [] := List.map_eq_nil_iff.1 h
    rfl
  | cons name outer =>
    cases opened with
    | nil => simp [openKeys] at h
    | cons d rest =>
      simp only [List.map_cons, openKeys, List.cons.injEq] at h
      simp [h.1]

/-- At a tracked line, the scope moves on by the line's kind. -/
theorem scopeAt_succ_of_tracks {lines : Array String} {i : Nat} {opened : List OpenDict}
    (ht : Tracks lines i opened) (h : i < lines.size) :
    scopeAt lines (i + 1) = (scopeAt lines i).enter (lineKind lines[i]) := by
  rw [scopeAt_succ h, Scope.next]
  cases hc : (scopeAt lines i).commands
  · simp
  · simp [ht.2 hc h]

/-- Command lines after a `!create` line leave the scope as the `!create` line left it. -/
theorem scopeAt_add_of_commandRun {lines : Array String} {j n : Nat}
    (hrun : CommandRun lines j n) (hc : (scopeAt lines j).commands = true) :
    ∀ m, m ≤ n → scopeAt lines (j + m) = scopeAt lines j
  | 0, _ => rfl
  | m + 1, hm => by
    have ih := scopeAt_add_of_commandRun hrun hc m (by omega)
    obtain ⟨hj, hcmd⟩ := hrun.1 (j + m) (by omega) (by omega)
    rw [← Nat.add_assoc, scopeAt_succ hj, ih, Scope.next, hc, ← ih, hcmd]
    rfl

/-- Setting a key keeps every key in place, and a new key comes last. -/
theorem map_fst_setEntry (es : List (String × Value)) (key : String) (v : Value) :
    (setEntry es key v).map Prod.fst =
      if key ∈ es.map Prod.fst then es.map Prod.fst else es.map Prod.fst ++ [key] := by
  simp only [setEntry, List.any_eq_true, beq_iff_eq, List.mem_map]
  split
  case isTrue hany =>
    rw [List.map_map]
    congr 1
    funext e
    simp only [Function.comp]
    split <;> rfl
  case isFalse hany =>
    rw [List.map_append]
    rfl

theorem setEntry_keys (es : List (String × Value)) (key : String) (v : Value) :
    ∀ k, k ∈ (setEntry es key v).map Prod.fst ↔ k = key ∨ k ∈ es.map Prod.fst := by
  intro k
  rw [map_fst_setEntry]
  split
  case isTrue hkey =>
    constructor
    · exact Or.inr
    · rintro (rfl | hk)
      · exact hkey
      · exact hk
  case isFalse => simp [or_comm]

theorem withIncluded_keys (es : List (String × Value)) (current : String)
    (sub : List (String × Value)) :
    ∀ k ∈ es.map Prod.fst, k ∈ (withIncluded es current sub).map Prod.fst := by
  induction sub generalizing es with
  | nil => simp [withIncluded]
  | cons e sub ih =>
    intro k hk
    exact ih _ k ((setEntry_keys es _ e.2 k).2 (Or.inr hk))

/-- What a reading from line `i` with the entries `es` returns: entries that keep every key
of `es` and hold the full key of every entry line from `i` on with no stray `}` before it;
and, when no stray `}` stands from line `i` on, the text ends with every dictionary closed. -/
def ReadsFrom (lines : Array String) (i : Nat) (es es' : List (String × Value)) : Prop :=
  (∀ k ∈ es.map Prod.fst, k ∈ es'.map Prod.fst) ∧
    (∀ j key, i ≤ j → EntryKey lines j key → (∀ m, i ≤ m → m < j → ¬StrayClosing lines m) →
      key ∈ es'.map Prod.fst) ∧
    ((∀ m, i ≤ m → ¬StrayClosing lines m) → (scopeAt lines lines.size).names = [])

/-- A reading that goes on from a later line, once the entries of the lines skipped are in,
reads from this line too. -/
theorem ReadsFrom.of_later {lines : Array String} {i i' : Nat} {es es₁ es' : List (String × Value)}
    (hle : i ≤ i') (hkeys : ∀ k ∈ es.map Prod.fst, k ∈ es₁.map Prod.fst)
    (hskip : ∀ j key, i ≤ j → j < i' → EntryKey lines j key → key ∈ es₁.map Prod.fst)
    (h : ReadsFrom lines i' es₁ es') : ReadsFrom lines i es es' := by
  refine ⟨fun k hk => h.1 k (hkeys k hk), fun j key hij hj hno => ?_,
    fun hno => h.2.2 fun m hm => hno m (by omega)⟩
  by_cases hji : j < i'
  · exact h.1 key (hskip j key hij hji hj)
  · exact h.2.1 j key (by omega) hj fun m hm hmj => hno m (by omega) hmj


/-- A line that is no entry line adds no key of its own: a reading from the next line reads
from it too. -/
theorem ReadsFrom.of_next {lines : Array String} {i : Nat} {es es₁ es' : List (String × Value)}
    (hkeys : ∀ k ∈ es.map Prod.fst, k ∈ es₁.map Prod.fst)
    (hskip : ∀ key, EntryKey lines i key → key ∈ es₁.map Prod.fst)
    (h : ReadsFrom lines (i + 1) es₁ es') : ReadsFrom lines i es es' :=
  h.of_later (by omega) hkeys fun j key hij hj hentry => by
    obtain rfl : j = i := by omega
    exact hskip key hentry

/-- A line of another kind than an entry line has no full key. -/
theorem not_entryKey {lines : Array String} {i : Nat} {k : LineKind} (h : i < lines.size)
    (hkind : lineKind lines[i] = k) (hk : ∀ w, k ≠ .entry w) (key : String) :
    ¬EntryKey lines i key := by
  rintro ⟨_, w, -, hw, -⟩
  exact hk w (hkind ▸ hw)

/-- With no dictionary open, the tracked scope is the root. -/
theorem Tracks.names_eq_nil {lines : Array String} {i : Nat} (ht : Tracks lines i []) :
    (scopeAt lines i).names = [] := by
  have := ht.1
  simp only [List.map_nil] at this
  cases hn : (scopeAt lines i).names with
  | nil => rfl
  | cons n ns => simp [hn, openKeys] at this

/-- A line that keeps the open dictionaries and lets no command line follow keeps the reader
tracking the scope. -/
theorem Tracks.next_of_names {lines : Array String} {i : Nat} {opened : List OpenDict}
    (ht : Tracks lines i opened)
    (hnext : scopeAt lines (i + 1) = ⟨(scopeAt lines i).names, false⟩) :
    Tracks lines (i + 1) opened :=
  ⟨by rw [hnext]; exact ht.1, fun hf => by rw [hnext] at hf; cases hf⟩

/-- The run lemma: from a line whose scope the reader tracks, every successful reading keeps
the keys read so far, adds the full key of every later entry line that comes before a stray
`}`, and, with no stray `}` left, ends with every dictionary closed. -/
theorem parseLines_tracks (load : String → Sim Definition) (fileName : String)
    (lines : Array String) (i : Nat) (opened : List OpenDict) (es : List (String × Value))
    (ht : Tracks lines i opened) :
    SatisfiesM (ReadsFrom lines i es) (parseLines load fileName lines i opened es) := by
  induction i, opened, es using parseLines.induct lines with
  | case1 i opened es h line words hc ih =>
    -- `!create`: the derived dictionary opens, and its command lines are skipped
    rw [parseLines.eq_def, dif_pos h]
    simp only []
    rw [if_pos hc]
    refine SatisfiesM.bind (deriveDictionary_reads load fileName es lines i _) fun r hr => ?_
    obtain ⟨⟨ws, w, hws, hw, hname⟩, hkeys, hrun⟩ := hr
    rw [Array.getD_eq_getD_getElem?, getElem?_pos lines i h, Option.getD_some] at hws
    have hkind : lineKind lines[i] = .create w := lineKind_create hc hws hw
    have hnext : scopeAt lines (i + 1) = ⟨w :: (scopeAt lines i).names, true⟩ := by
      rw [scopeAt_succ_of_tracks ht h, hkind]
      rfl
    have hcmds : (scopeAt lines (i + 1)).commands = true := by rw [hnext]
    have hstay : ∀ m, m ≤ r.2.2 → scopeAt lines (i + 1 + m) = scopeAt lines (i + 1) :=
      scopeAt_add_of_commandRun hrun hcmds
    have htr : Tracks lines (i + 1 + r.2.2) (⟨r.1, true⟩ :: opened) := by
      refine ⟨?_, fun _ hlt => hrun.2 hlt⟩
      rw [hstay _ le_rfl, hnext, List.map_cons, ht.1, hname, currentName_eq ht.1]
      simp [openKeys, joinKey_append]
    refine (ih r.1 r.2.1 r.2.2 htr).imp fun hread => ?_
    refine hread.of_later (by omega) hkeys fun j key hij hj hentry => absurd hentry ?_
    rcases Nat.eq_or_lt_of_le hij with rfl | hlt
    · exact not_entryKey h hkind (by simp) key
    · -- a command line of the derived dictionary is no entry line
      rintro ⟨hjs, word, hnot, -, -⟩
      have hsj : scopeAt lines j = scopeAt lines (i + 1) := by
        have := hstay (j - (i + 1)) (by omega)
        rwa [show i + 1 + (j - (i + 1)) = j by omega] at this
      obtain ⟨_, hcmd⟩ := hrun.1 j (by omega) (by omega)
      exact hnot ⟨by rw [hsj, hnext], hcmd⟩
  | case2 i opened es h line words current hc hi ih =>
    -- `!include`: the included keys join the entries
    rw [parseLines.eq_def, dif_pos h]
    simp only []
    rw [if_neg hc, if_pos hi]
    have hkind : lineKind lines[i] = .include := lineKind_include hc hi
    have hnext : scopeAt lines (i + 1) = ⟨(scopeAt lines i).names, false⟩ := by
      rw [scopeAt_succ_of_tracks ht h, hkind]
      rfl
    refine SatisfiesM.bind_pre (SatisfiesM.of_true fun path =>
      SatisfiesM.bind_pre (SatisfiesM.of_true fun sub => ?_))
    refine (ih sub (ht.next_of_names hnext)).imp fun hread =>
      hread.of_next (withIncluded_keys es _ _) fun key hk => ?_
    exact absurd hk (not_entryKey h hkind (by simp) key)
  | case3 i opened es h line words current overwrite hc hi ho ih =>
    -- `name{`: the dictionary opens
    rw [parseLines.eq_def, dif_pos h]
    simp only []
    rw [if_neg hc, if_neg hi, if_pos ho]
    have hkind : lineKind lines[i] = .opening (Str.dropRight line 1) := lineKind_opening hc hi ho
    have hnext : scopeAt lines (i + 1) =
        ⟨Str.dropRight line 1 :: (scopeAt lines i).names, false⟩ := by
      rw [scopeAt_succ_of_tracks ht h, hkind]
      rfl
    have htr : Tracks lines (i + 1) (⟨nested current (Str.dropRight line 1), overwrite⟩ :: opened) := by
      refine ⟨?_, fun hf => by rw [hnext] at hf; cases hf⟩
      have hcur : current = joinKey (scopeAt lines i).names.reverse := currentName_eq ht.1
      rw [hnext, List.map_cons, ht.1, hcur]
      simp [openKeys, joinKey_append]
    refine (ih htr).imp fun hread => hread.of_next (fun k hk => hk) fun key hk => ?_
    exact absurd hk (not_entryKey h hkind (by simp) key)
  | case4 i es h line words hc hi ho hx =>
    -- `}` at the root: the reading ends here, at a stray `}`
    rw [parseLines.eq_def, dif_pos h]
    simp only []
    rw [if_neg hc, if_neg hi, if_neg ho, if_pos hx]
    have hkind : lineKind lines[i] = .closing := lineKind_closing hc hi ho hx
    have hstray : StrayClosing lines i := ⟨h, hkind, ht.names_eq_nil⟩
    refine SatisfiesM.pure ⟨fun k hk => hk, fun j key hij hj hno => ?_,
      fun hno => absurd hstray (hno i le_rfl)⟩
    rcases Nat.eq_or_lt_of_le hij with rfl | hlt
    · exact absurd hj (not_entryKey h hkind (by simp) key)
    · exact absurd hstray (hno i le_rfl hlt)
  | case5 i es h line words hc hi ho hx d outer ih =>
    -- `}`: the innermost dictionary closes
    rw [parseLines.eq_def, dif_pos h]
    simp only []
    rw [if_neg hc, if_neg hi, if_neg ho, if_pos hx]
    have hkind : lineKind lines[i] = .closing := lineKind_closing hc hi ho hx
    have hnext : scopeAt lines (i + 1) = ⟨(scopeAt lines i).names.tail, false⟩ := by
      rw [scopeAt_succ_of_tracks ht h, hkind]
      rfl
    have htr : Tracks lines (i + 1) outer := by
      refine ⟨?_, fun hf => by rw [hnext] at hf; cases hf⟩
      have := ht.1
      rw [hnext]
      cases hn : (scopeAt lines i).names with
      | nil => simp [hn, openKeys] at this
      | cons n ns =>
        simp only [hn, List.map_cons, openKeys, List.cons.injEq] at this
        simpa using this.2
    refine (ih htr).imp fun hread => hread.of_next (fun k hk => hk) fun key hk => ?_
    exact absurd hk (not_entryKey h hkind (by simp) key)
  | case6 i opened es h line words current overwrite hc hi ho hx hw key hdup =>
    rw [parseLines.eq_def, dif_pos h]
    simp only []
    rw [if_neg hc, if_neg hi, if_neg ho, if_neg hx, if_pos hw, if_pos hdup]
    exact Sim.satisfiesM_fail _ _
  | case7 i opened es h line words current overwrite hc hi ho hx hw key hdup ih =>
    -- an entry line: its key is set
    rw [parseLines.eq_def, dif_pos h]
    simp only []
    rw [if_neg hc, if_neg hi, if_neg ho, if_neg hx, if_pos hw, if_neg hdup]
    have hkind : lineKind lines[i] = .entry (words.headD "") := lineKind_entry hc hi ho hx hw
    have hnext : scopeAt lines (i + 1) = ⟨(scopeAt lines i).names, false⟩ := by
      rw [scopeAt_succ_of_tracks ht h, hkind]
      rfl
    refine (ih (ht.next_of_names hnext)).imp fun hread => hread.of_next
      (fun k hk => (setEntry_keys es key _ k).2 (Or.inr hk)) fun key' hk => ?_
    obtain ⟨_, word, -, hword, rfl⟩ := hk
    rw [hkind] at hword
    obtain rfl := LineKind.entry.inj hword
    have hcur : current = joinKey (scopeAt lines i).names.reverse := currentName_eq ht.1
    rw [setEntry_keys, joinKey_append, ← hcur]
    exact Or.inl rfl
  | case8 i opened es h line words hc hi ho hx hw =>
    rw [parseLines.eq_def, dif_pos h]
    simp only []
    rw [if_neg hc, if_neg hi, if_neg ho, if_neg hx, if_neg hw]
    exact Sim.satisfiesM_fail _ _
  | case9 i opened es h hempty =>
    -- the lines run out with every dictionary closed
    rw [parseLines.eq_def, dif_neg h, if_pos hempty]
    obtain rfl : opened = [] := List.isEmpty_iff.1 hempty
    refine SatisfiesM.pure ⟨fun k hk => hk, fun j key hij hj _ => ?_, fun _ => ?_⟩
    · obtain ⟨hjs, -⟩ := hj
      omega
    · have hsize : lines.size ≤ i := by omega
      rw [← scopeAt_of_size_le hsize]
      exact ht.names_eq_nil
  | case10 i opened es h hempty =>
    rw [parseLines.eq_def, dif_neg h, if_neg hempty]
    exact Sim.satisfiesM_fail _ _

/-- Making the file names of values absolute rewrites values only. -/
theorem absolutePaths_keys (fileName : String) (es : List (String × Value)) :
    SatisfiesM (fun es' => es'.map Prod.fst = es.map Prod.fst) (absolutePaths fileName es) := by
  unfold absolutePaths
  simp only []
  induction es with
  | nil => exact SatisfiesM.pure rfl
  | cons e es ih =>
    rw [List.mapM_cons]
    refine SatisfiesM.bind (p := fun e' => e'.1 = e.1) ?_ fun e' he' =>
      SatisfiesM.bind ih fun es' hes' => SatisfiesM.pure (by simp [he', hes'])
    obtain ⟨k, v⟩ := e
    split
    · exact SatisfiesM.bind_pre (SatisfiesM.of_true fun _ => SatisfiesM.pure rfl)
    · exact SatisfiesM.pure rfl

/-- Reading the content lines of a definition file: a successful reading holds the full key
of every entry line with no stray `}` before it; and when no stray `}` stands in the file, a
dictionary left open at its end is refused. -/
theorem parseContentLines_scopes (load : String → Sim Definition) (fileName : String)
    (lines : Array String) :
    SatisfiesM (fun es =>
        (∀ i key, EntryKey lines i key → (∀ m, m < i → ¬StrayClosing lines m) →
          key ∈ es.map Prod.fst) ∧
        ((∀ m, ¬StrayClosing lines m) → (scopeAt lines lines.size).names = []))
      (parseContentLines load fileName lines) := by
  unfold parseContentLines
  refine SatisfiesM.bind (parseLines_tracks load fileName lines 0 [] [] (tracks_zero lines))
    fun es hes => (absolutePaths_keys fileName es).imp fun hkeys => ?_
  refine ⟨fun i key hi hno => ?_, fun hno => hes.2.2 fun m _ => hno m⟩
  rw [hkeys]
  exact hes.2.1 i key (Nat.zero_le i) hi fun m _ hm => hno m hm

end Definition
end RocketSim
