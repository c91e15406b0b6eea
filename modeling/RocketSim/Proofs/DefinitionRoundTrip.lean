import Mathlib
import RocketSim.Proofs.DefinitionReading
import RocketSim.Proofs.TextLaws

/-!
# Writing a definition and reading it back

A definition is written as nested dictionaries (`Definition.body`): its keys in sorted
order, each on a line of its own inside the dictionaries of its dotted path.  Between two
keys the writer closes the dictionaries of the first key it leaves and opens those of the
second it enters; it decides how many to keep open (`keptDepth`) by comparing the two paths
from the deepest level up and stopping at the first level whose names agree, without
looking at the levels above it.

When the keys and values are plain (no whitespace, comment sign or command sign in a key's
parts; single-blank-separated words in a value, naming no file), the reader reads the text
back exactly, provided that, sorted, no key slips from the one before it (`NoSlip`): where
two neighbouring paths have the same name at a level, they agree above it too.  The
proviso is needed: after `A.c.x` the writer keeps `A` and `c` open for `B.c.y`, whose `c`
matches, and the text reads back `A.c.y`.

**Results.**
* `parseLines_closing`, `parseLines_opening`, `parseLines_entry`: the reader's step on each
  kind of written line.
* `parseLines_writtenFrom`: the run lemma; the reader adds the written entries one by one.
* `parseText_body`: the round trip.
-/

namespace RocketSim
namespace Definition

open Str (IsWord)

/-! ## Plain keys and values -/

/-- A character a part of a key may hold: no whitespace, comment sign or command sign. -/
def plainChar (c : Char) : Bool := !Str.isSpace c && c != '#' && c != '!'

/-- A part of a key written back as itself: not empty, and of plain characters. -/
def plainName (name : String) : Bool := name != "" && name.toList.all plainChar

/-- A key written back as itself: its parts between dots are plain. -/
def PlainKey (key : String) : Prop := ∀ part ∈ Str.splitOn key ".", plainName part = true

/-- A value that names no file: once a leading `./` is dropped, it is no path relative to the
repository and has no file extension, so that the reader leaves it as it is. -/
def NamesNoFile (v : String) : Prop :=
  Keys.isRepositoryPath (if Str.take v 2 == "./" then Str.drop v 2 else v) = false ∧
    Keys.isFileName (if Str.take v 2 == "./" then Str.drop v 2 else v) = false

/-- A value written back as itself: not empty, its words separated by single blanks, with no
comment sign or line feed, not ending in `{`, and naming no file. -/
def PlainValue (v : String) : Prop :=
  v ≠ "" ∧ " ".intercalate (Str.splitWs v) = v ∧ '#' ∉ v.toList ∧ '\n' ∉ v.toList ∧
    v.toList.getLast? ≠ some '\x7b' ∧ NamesNoFile v

instance : DecidablePred PlainKey := fun key => by unfold PlainKey; infer_instance

instance : DecidablePred NamesNoFile := fun v => by unfold NamesNoFile; infer_instance

instance : DecidablePred PlainValue := fun v => by unfold PlainValue; infer_instance

section Names

variable {name : String} (h : plainName name = true)
include h

theorem plainName_isWord : IsWord name := by
  simp only [plainName, Bool.and_eq_true, bne_iff_ne, ne_eq, List.all_eq_true, plainChar,
    Bool.not_eq_true'] at h
  exact ⟨h.1, fun c hc => (h.2 c hc).1.1⟩

theorem plainName_not_hash : '#' ∉ name.toList := by
  simp only [plainName, Bool.and_eq_true, List.all_eq_true, plainChar] at h
  intro hc
  simpa using h.2 _ hc

theorem plainName_not_bang : '!' ∉ name.toList := by
  simp only [plainName, Bool.and_eq_true, List.all_eq_true, plainChar] at h
  intro hc
  simpa using h.2 _ hc

end Names

section Values

variable {v : String} (hv : PlainValue v)
include hv

theorem PlainValue.words_ne_nil : Str.splitWs v ≠ [] := by
  intro hnil
  have := hv.2.1
  rw [hnil] at this
  exact hv.1 (by simpa using this.symm)

theorem PlainValue.last_not_space : ∀ c ∈ v.toList.getLast?, Str.isSpace c = false := by
  rw [← hv.2.1]
  exact Str.getLast_intercalate_words hv.words_ne_nil (Str.splitWs_isWord v)

end Values

/-! ## Keys and their dictionaries -/

theorem foldl_nested_of_ne {acc : String} (hacc : acc ≠ "") :
    ∀ l : List String, l.foldl nested acc = ".".intercalate (acc :: l)
  | [] => by simp
  | x :: l => by
    have hnest : nested acc x = acc ++ "." ++ x := by simp [nested, hacc]
    have hne : acc ++ "." ++ x ≠ "" := fun h => by simpa using congrArg String.length h
    rw [List.foldl_cons, hnest, foldl_nested_of_ne hne l, String.intercalate_cons_append,
      String.intercalate_cons_cons]

/-- A path whose first name is not empty is joined by dots. -/
theorem joinKey_cons {x : String} (hx : x ≠ "") (l : List String) :
    joinKey (x :: l) = ".".intercalate (x :: l) := by
  rw [joinKey, List.foldl_cons, show nested "" x = x by simp [nested]]
  exact foldl_nested_of_ne hx l

theorem lastPart_eq_getLast (key : String) :
    lastPart key = (Str.splitOn key ".").getLast (Str.splitOn_ne_nil _ _) := by
  rw [lastPart, List.getLast?_eq_some_getLast (Str.splitOn_ne_nil _ _)]
  rfl

section Keys

variable {key : String} (hkey : PlainKey key)
include hkey

theorem PlainKey.dicts_plain : ∀ name ∈ keyDicts key, plainName name = true :=
  fun name h => hkey name (List.mem_of_mem_dropLast h)

theorem PlainKey.last_plain : plainName (lastPart key) = true := by
  rw [lastPart_eq_getLast]
  exact hkey _ (List.getLast_mem _)

/-- A key is read back from its dictionaries and its last part. -/
theorem PlainKey.nested_joinKey : nested (joinKey (keyDicts key)) (lastPart key) = key := by
  have hparts : keyDicts key ++ [lastPart key] = Str.splitOn key "." := by
    rw [lastPart_eq_getLast, keyDicts, List.dropLast_append_getLast]
  obtain ⟨x, l, hxl⟩ := List.exists_cons_of_ne_nil (Str.splitOn_ne_nil key ".")
  have hx : x ≠ "" := by
    have := plainName_isWord (hkey x (by rw [hxl]; exact List.mem_cons_self))
    exact this.1
  rw [← joinKey_append, hparts, hxl, joinKey_cons hx, ← hxl, Str.intercalate_splitOn]

end Keys

/-! ## Comments and lines of a written text -/

/-- Outside a comment, every character other than `#` is kept. -/
theorem foldl_commentStep : ∀ (l : List Char) (p : Char) (acc : List Char), '#' ∉ l →
    ∃ p', l.foldl commentStep (false, p, acc) = (false, p', l.reverse ++ acc)
  | [], p, _, _ => ⟨p, rfl⟩
  | c :: l, _, acc, h => by
    have hc : c ≠ '#' := fun hc => h (hc ▸ List.mem_cons_self)
    obtain ⟨p', hp'⟩ := foldl_commentStep l c (c :: acc) (fun h' => h (List.mem_cons_of_mem c h'))
    refine ⟨p', ?_⟩
    rw [List.foldl_cons, show commentStep (false, _, acc) c = (false, c, c :: acc) by
      simp [commentStep, hc], hp']
    simp

theorem unescape_of_not_mem : ∀ l : List Char, '#' ∉ l → stripComments.unescape l = l := by
  intro l
  fun_induction stripComments.unescape l with
  | case1 => intro; rfl
  | case2 rest ih => intro h; simp at h
  | case3 c rest _ ih => intro h; simp_all

/-- A text without `#` has no comment. -/
theorem stripComments_of_not_mem {text : String} (h : '#' ∉ text.toList) :
    stripComments text = text := by
  obtain ⟨p, hp⟩ := foldl_commentStep text.toList '\n' [] h
  rw [stripComments, hp]
  simp [unescape_of_not_mem _ (by simpa using h)]

/-- Whether a line has something besides whitespace. -/
def nonblank (l : String) : Bool := !(Str.strip l).isEmpty

/-- The content lines of lines each ended by a line feed, with no line feed or `#` in them,
are those lines that are not blank. -/
theorem contentLines_join (ls : List String) (hnl : ∀ l ∈ ls, '\n' ∉ l.toList)
    (hhash : ∀ l ∈ ls, '#' ∉ l.toList) :
    contentLines (String.join (ls.map (· ++ "\n"))) = (ls.filter nonblank).toArray := by
  have htext : '#' ∉ (String.join (ls.map (· ++ "\n"))).toList := by
    intro hmem
    simp only [String.toList_join, List.mem_flatMap, List.mem_map] at hmem
    obtain ⟨_, ⟨l, hl, rfl⟩, hc⟩ := hmem
    exact hhash l hl (by simpa using hc)
  have hblank : nonblank "" = false := by decide
  rw [contentLines, stripComments_of_not_mem htext, Str.splitOn_join rfl ls hnl]
  change ((ls ++ [""]).filter nonblank).toArray = _
  simp [List.filter_append, hblank]

/-! ## The written lines, as the reader sees them -/

theorem head_append_of_isWord {w : String} (hw : IsWord w) (s : String) :
    ∀ c ∈ (w ++ s).toList.head?, Str.isSpace c = false := by
  have hne : w.toList ≠ [] := by simpa using hw.1
  obtain ⟨c, l, hcl⟩ := List.exists_cons_of_ne_nil hne
  intro d hd
  simp only [String.toList_append, hcl, List.cons_append, List.head?_cons, Option.mem_def,
    Option.some.injEq] at hd
  exact hw.2 d (by rw [hcl, hd]; exact List.mem_cons_self)

theorem strip_closingLine (k : Nat) : Str.strip (tabs k ++ "\x7d") = "\x7d" := by
  rw [tabs, Str.strip_rep_append (by decide)]
  decide

theorem strip_openingLine (k : Nat) {name : String} (h : plainName name = true) :
    Str.strip (tabs k ++ name ++ "\x7b") = name ++ "\x7b" := by
  rw [String.append_assoc, tabs, Str.strip_rep_append (by decide)]
  refine Str.strip_eq_self (head_append_of_isWord (plainName_isWord h) _) ?_
  intro c hc
  simp only [String.toList_append, List.getLast?_append] at hc
  simp at hc
  subst hc
  decide

theorem strip_entryLine (k : Nat) {last v : String} (h : plainName last = true)
    (hv : PlainValue v) : Str.strip (tabs k ++ last ++ "\t" ++ v) = last ++ "\t" ++ v := by
  rw [String.append_assoc, String.append_assoc, tabs, Str.strip_rep_append (by decide)]
  conv_rhs => rw [String.append_assoc]
  refine Str.strip_eq_self (head_append_of_isWord (plainName_isWord h) _) ?_
  intro c hc
  have hne : v.toList ≠ [] := by simpa using hv.1
  obtain ⟨d, hd⟩ := Option.ne_none_iff_exists'.1 (mt List.getLast?_eq_none_iff.1 hne)
  rw [String.toList_append, String.toList_append, List.getLast?_append, List.getLast?_append,
    hd] at hc
  simp only [Option.some_or, Option.mem_def, Option.some.injEq] at hc
  subst hc
  exact hv.last_not_space _ hd

/-! ## One line at a time -/

theorem getElem_of_drop_eq_cons {lines : Array String} {i : Nat} {l : String}
    {rest : List String} (hdrop : lines.toList.drop i = l :: rest) :
    ∃ h : i < lines.size, lines[i] = l ∧ lines.toList.drop (i + 1) = rest := by
  have hi : i < lines.toList.length := by
    by_contra hle
    rw [List.drop_eq_nil_of_le (by omega)] at hdrop
    cases hdrop
  rw [List.drop_eq_getElem_cons hi] at hdrop
  obtain ⟨hl, hrest⟩ := List.cons.inj hdrop
  exact ⟨by simpa using hi, by simpa using hl, hrest⟩

theorem toList_openBrace : "\x7b".toList = ['\x7b'] := rfl

/-- A word without `!` is none of the command words. -/
theorem not_command {s : String} (hs : '!' ∉ s.toList) :
    (some s == some "!create") = false ∧ (some s == some "!include") = false := by
  refine ⟨?_, ?_⟩ <;> rw [beq_eq_false_iff_ne] <;> rintro ⟨⟩ <;> exact hs (by decide)

theorem not_bang_append_brace {name : String} (h : plainName name = true) :
    '!' ∉ (name ++ "\x7b").toList := by
  simpa using plainName_not_bang h

section Steps

variable (load : String → Sim Definition) (fileName : String) {lines : Array String} {i : Nat}
  {rest : List String}

/-- A closing line closes the innermost open dictionary. -/
theorem parseLines_closing {k : Nat} (hdrop : lines.toList.drop i = (tabs k ++ "\x7d") :: rest)
    (d : OpenDict) (outer : List OpenDict) (es : List (String × Value)) :
    parseLines load fileName lines i (d :: outer) es =
      parseLines load fileName lines (i + 1) outer es := by
  obtain ⟨h, hl, -⟩ := getElem_of_drop_eq_cons hdrop
  rw [parseLines.eq_def, dif_pos h]
  simp only [hl, strip_closingLine]
  rw [if_neg (by decide), if_neg (by decide), if_neg (by decide), if_pos (by decide)]

/-- An opening line opens a dictionary inside the innermost open one. -/
theorem parseLines_opening {k : Nat} {name : String} (hname : plainName name = true)
    (hdrop : lines.toList.drop i = (tabs k ++ name ++ "\x7b") :: rest)
    (opened : List OpenDict) (es : List (String × Value)) :
    parseLines load fileName lines i opened es =
      parseLines load fileName lines (i + 1)
        (⟨nested ((opened.head?.map (·.name)).getD "") name,
          (opened.head?.map (·.overwrite)).getD false⟩ :: opened) es := by
  obtain ⟨h, hl, -⟩ := getElem_of_drop_eq_cons hdrop
  have hword : IsWord (name ++ "\x7b") := by
    refine ⟨by simp, fun c hc => ?_⟩
    simp only [String.toList_append, List.mem_append] at hc
    rcases hc with hc | hc
    · exact (plainName_isWord hname).2 c hc
    · simp only [show "\x7b".toList = ['\x7b'] from rfl, List.mem_singleton] at hc
      subst hc
      decide
  have hends : Str.endsWith (name ++ "\x7b") "\x7b" = true := by
    rw [Str.endsWith_eq_getLast toList_openBrace]
    simp
  have hdrop1 : Str.dropRight (name ++ "\x7b") 1 = name := Str.dropRight_append name "\x7b"
  rw [parseLines.eq_def, dif_pos h]
  simp only [hl, strip_openingLine k hname, Str.splitWs_word hword, List.head?_cons]
  obtain ⟨hcreate, hinclude⟩ := not_command (not_bang_append_brace hname)
  rw [if_neg (by simp [hcreate]), if_neg (by simp [hinclude]), if_pos hends, hdrop1]

/-- An entry line sets its key, inside the innermost open dictionary, to its value. -/
theorem parseLines_entry {k : Nat} {last v : String} (hlast : plainName last = true)
    (hv : PlainValue v) (hdrop : lines.toList.drop i = (tabs k ++ last ++ "\t" ++ v) :: rest)
    (opened : List OpenDict) (es : List (String × Value))
    (hfresh : nested ((opened.head?.map (·.name)).getD "") last ∉ es.map Prod.fst) :
    parseLines load fileName lines i opened es =
      parseLines load fileName lines (i + 1) opened
        (es ++ [(nested ((opened.head?.map (·.name)).getD "") last, .str v)]) := by
  obtain ⟨h, hl, -⟩ := getElem_of_drop_eq_cons hdrop
  have hne : v.toList ≠ [] := by simpa using hv.1
  have hends : Str.endsWith (last ++ "\t" ++ v) "\x7b" = false := by
    rw [Str.endsWith_eq_getLast toList_openBrace]
    obtain ⟨d, hd⟩ := Option.ne_none_iff_exists'.1 (mt List.getLast?_eq_none_iff.1 hne)
    have hd' : d ≠ '\x7b' := fun heq => hv.2.2.2.2.1 (heq ▸ hd)
    rw [String.toList_append, List.getLast?_append, hd]
    simpa using hd'
  have hclose : (last ++ "\t" ++ v == "\x7d") = false := by
    refine beq_false_of_ne fun heq => ?_
    have htab : '\t' ∈ (last ++ "\t" ++ v).toList := by simp
    rw [heq] at htab
    revert htab
    decide
  have hlen : (last :: Str.splitWs v).length > 1 := by
    simpa [Nat.pos_iff_ne_zero] using hv.words_ne_nil
  have hany : es.any (·.1 == nested ((opened.head?.map (·.name)).getD "") last) = false := by
    rw [List.any_eq_false]
    intro e he heq
    exact hfresh (List.mem_map.2 ⟨e, he, by simpa using heq⟩)
  rw [parseLines.eq_def, dif_pos h]
  simp only [hl, strip_entryLine k hlast hv, Str.splitWs_word_tab (plainName_isWord hlast),
    List.head?_cons]
  obtain ⟨hcreate, hinclude⟩ := not_command (plainName_not_bang hlast)
  rw [if_neg (by simp [hcreate]), if_neg (by simp [hinclude]), if_neg (by simp [hends]),
    if_neg (by simp [hclose]), if_pos hlen]
  rw [List.headD_cons, hany, Bool.false_and, if_neg Bool.false_ne_true, List.drop_one,
    List.tail_cons, hv.2.1, setEntry, hany, if_neg Bool.false_ne_true]

end Steps

/-! ## Runs of lines -/

/-- The reader's open dictionaries once the dictionaries `path` are opened from the root,
innermost first, none of them derived. -/
def openedAt (path : List String) : List OpenDict :=
  path.foldl (fun opened name =>
    ⟨nested ((opened.head?.map (·.name)).getD "") name, false⟩ :: opened) []

theorem openedAt_append (path : List String) (name : String) :
    openedAt (path ++ [name]) =
      ⟨nested (((openedAt path).head?.map (·.name)).getD "") name, false⟩ :: openedAt path := by
  simp [openedAt, List.foldl_append]

theorem currentName_openedAt (path : List String) :
    ((openedAt path).head?.map (·.name)).getD "" = joinKey path := by
  induction path using List.reverseRecOn with
  | nil => rfl
  | append_singleton path name ih => rw [openedAt_append, joinKey_append, ← ih]; rfl

theorem overwrite_openedAt (path : List String) :
    ((openedAt path).head?.map (·.overwrite)).getD false = false := by
  induction path using List.reverseRecOn with
  | nil => rfl
  | append_singleton path name _ => rw [openedAt_append]; rfl

theorem drop_add_of_drop_eq_append {lines : Array String} {i : Nat} {pre post : List String}
    (hdrop : lines.toList.drop i = pre ++ post) : lines.toList.drop (i + pre.length) = post := by
  rw [← List.drop_drop, hdrop, List.drop_left]

theorem take_add_one_eq_append {path : List String} {p : Nat} (hp : p < path.length) :
    path.take (p + 1) = path.take p ++ [path[p]] := by
  rw [List.take_add_one, List.getElem?_eq_getElem hp]
  rfl

section Runs

variable (load : String → Sim Definition) (fileName : String) {lines : Array String}

/-- Closing lines from depth `depth + m - 1` up to depth `depth` close `m` dictionaries. -/
theorem parseLines_closeRun (path : List String) (depth : Nat) :
    ∀ m, depth + m ≤ path.length → ∀ i es rest,
      lines.toList.drop i = ((List.range m).reverse.map fun k => tabs (depth + k) ++ "\x7d") ++ rest →
      parseLines load fileName lines i (openedAt (path.take (depth + m))) es =
        parseLines load fileName lines (i + m) (openedAt (path.take depth)) es
  | 0, _, i, es, rest, _ => rfl
  | m + 1, hm, i, es, rest, hdrop => by
    rw [List.range_succ, List.reverse_append, List.map_append, List.reverse_singleton,
      List.map_singleton, List.append_assoc, List.singleton_append] at hdrop
    obtain ⟨-, -, hnext⟩ := getElem_of_drop_eq_cons hdrop
    rw [← Nat.add_assoc, take_add_one_eq_append (by omega), openedAt_append,
      parseLines_closing load fileName hdrop,
      parseLines_closeRun path depth m (by omega) (i + 1) es rest hnext, Nat.add_right_comm,
      Nat.add_assoc]

/-- Opening lines for the names of `path` from depth `depth` on open `m` dictionaries. -/
theorem parseLines_openRun (path : List String) (hpath : ∀ name ∈ path, plainName name = true)
    (depth : Nat) :
    ∀ m, depth + m ≤ path.length → ∀ i es rest,
      lines.toList.drop i = ((List.range m).map fun k =>
        tabs (depth + k) ++ path.getD (depth + k) "" ++ "\x7b") ++ rest →
      parseLines load fileName lines i (openedAt (path.take depth)) es =
        parseLines load fileName lines (i + m) (openedAt (path.take (depth + m))) es
  | 0, _, i, es, rest, _ => rfl
  | m + 1, hm, i, es, rest, hdrop => by
    rw [List.range_succ, List.map_append, List.map_singleton, List.append_assoc,
      List.singleton_append] at hdrop
    have hnext := drop_add_of_drop_eq_append hdrop
    rw [List.length_map, List.length_range] at hnext
    have hname : plainName (path.getD (depth + m) "") = true := by
      rw [List.getD_eq_getElem _ _ (by omega)]
      exact hpath _ (List.getElem_mem _)
    rw [parseLines_openRun path hpath depth m (by omega) i es _ hdrop,
      parseLines_opening load fileName hname hnext, overwrite_openedAt, ← openedAt_append,
      ← Nat.add_assoc depth m 1, take_add_one_eq_append (by omega),
      List.getD_eq_getElem _ _ (by omega), Nat.add_assoc i m 1]

/-- With no line left and no dictionary open, the reading ends with what it has read. -/
theorem parseLines_end {i : Nat} (hdrop : lines.toList.drop i = []) (es : List (String × Value)) :
    parseLines load fileName lines i [] es = pure es := by
  have h : ¬i < lines.size := by
    intro h
    rw [List.drop_eq_getElem_cons (by simpa using h)] at hdrop
    cases hdrop
  rw [parseLines.eq_def, dif_neg h]
  rfl

end Runs

/-! ## The writer's nesting -/

/-- The dictionaries `next` of a key do not slip from the dictionaries `cur` of the key
written before it: wherever the two paths have the same name at a level, they agree on every
level above it. -/
def AgreeAbove (cur next : List String) : Prop :=
  ∀ p, p < cur.length → p < next.length → cur[p]? = next[p]? → cur.take p = next.take p

/-- The depth the writer keeps is within both paths, and the paths meet at its last level. -/
theorem keptDepth_go_spec (cur next : List String) :
    ∀ m, keptDepth.go cur next m ≤ m ∧ keptDepth.go cur next m ≤ next.length ∧
      ∀ p, keptDepth.go cur next m = p + 1 → cur[p]? = next[p]?
  | 0 => by simp [keptDepth.go]
  | m + 1 => by
    rw [keptDepth.go]
    split
    · obtain ⟨h1, h2, h3⟩ := keptDepth_go_spec cur next m
      exact ⟨by omega, h2, h3⟩
    · next h =>
      simp only [Bool.or_eq_true, decide_eq_true_eq, bne_iff_ne, ne_eq, not_or, not_lt,
        not_not] at h
      exact ⟨le_rfl, h.1, fun p hp => by rw [← Nat.add_right_cancel hp]; exact h.2⟩

theorem keptDepth_le_left (cur next : List String) : keptDepth cur next ≤ cur.length :=
  (keptDepth_go_spec cur next _).1

theorem keptDepth_le_right (cur next : List String) : keptDepth cur next ≤ next.length :=
  (keptDepth_go_spec cur next _).2.1

theorem keptDepth_self (path : List String) : keptDepth path path = path.length := by
  unfold keptDepth
  cases h : path.length with
  | zero => rfl
  | succ m => simp [keptDepth.go, h]

/-- Without a slip, the paths agree down to the depth the writer keeps. -/
theorem take_keptDepth {cur next : List String} (h : AgreeAbove cur next) :
    cur.take (keptDepth cur next) = next.take (keptDepth cur next) := by
  obtain ⟨-, hright, hmeet⟩ := keptDepth_go_spec cur next cur.length
  have hleft := keptDepth_le_left cur next
  unfold keptDepth at hleft ⊢
  cases hd : keptDepth.go cur next cur.length with
  | zero => simp
  | succ p =>
    rw [hd] at hright hleft
    rw [List.take_add_one, List.take_add_one, h p (by omega) (by omega) (hmeet p hd),
      hmeet p hd]

/-- Closing lines for the open dictionaries `cur` deeper than `depth`, innermost first. -/
def closeLines (cur : List String) (depth : Nat) : List String :=
  (List.range (cur.length - depth)).reverse.map fun k => tabs (depth + k) ++ "\x7d"

/-- Opening lines for the dictionaries `next` deeper than `depth`, outermost first. -/
def openLines (next : List String) (depth : Nat) : List String :=
  (List.range (next.length - depth)).map fun k =>
    tabs (depth + k) ++ next.getD (depth + k) "" ++ "\x7b"

theorem nonblank_closingLine (k : Nat) : nonblank (tabs k ++ "\x7d") = true := by
  rw [nonblank, strip_closingLine]
  rfl

theorem nonblank_openingLine (k : Nat) {name : String} (h : plainName name = true) :
    nonblank (tabs k ++ name ++ "\x7b") = true := by
  rw [nonblank, strip_openingLine k h]
  simp

theorem filter_closeLines (cur : List String) (depth : Nat) :
    (closeLines cur depth).filter nonblank = closeLines cur depth := by
  rw [List.filter_eq_self]
  intro l hl
  obtain ⟨k, -, rfl⟩ := List.mem_map.1 hl
  exact nonblank_closingLine _

/-- The lines written before a key, blank lines left out: the dictionaries closed, then the
dictionaries opened. -/
theorem filter_enterLines (cur next : List String) (hnames : ∀ name ∈ next, plainName name = true) :
    (enterLines cur next).filter nonblank =
      closeLines cur (keptDepth cur next) ++ openLines next (keptDepth cur next) := by
  unfold enterLines
  split
  · next heq =>
    subst heq
    simp [closeLines, openLines, keptDepth_self]
  · have hblank : nonblank "" = false := by decide
    have hopen : ∀ k ∈ List.range (next.length - keptDepth cur next),
        ["", tabs (keptDepth cur next + k) ++ next.getD (keptDepth cur next + k) "" ++ "\x7b"].filter
          nonblank = [tabs (keptDepth cur next + k) ++ next.getD (keptDepth cur next + k) "" ++ "\x7b"] := by
      intro k hk
      have hname : plainName (next.getD (keptDepth cur next + k) "") = true := by
        rw [List.getD_eq_getElem _ _ (by simp at hk; omega)]
        exact hnames _ (List.getElem_mem _)
      simp only [List.filter_cons, hblank, nonblank_openingLine _ hname, List.filter_nil,
        Bool.false_eq_true, if_false, if_true]
    change (closeLines cur (keptDepth cur next) ++ _ ++ _).filter nonblank = _
    rw [List.filter_append, List.filter_append, filter_closeLines, List.filter_flatMap,
      List.flatMap_congr hopen, ← List.map_eq_flatMap]
    split <;> simp [openLines, hblank]

/-! ## The lines written for a definition -/

/-- The lines written for the sorted entries `ts`, keys and texts, while the dictionaries
`cur` are open: for each key the lines entering its dictionaries and its own line, then the
closing lines of the dictionaries left open. -/
def writtenFrom : List String → List (String × String) → List String
  | cur, [] => closeLines cur 0
  | cur, (key, value) :: rest =>
    enterLines cur (keyDicts key) ++ [entryLine (keyDicts key).length key value] ++
      writtenFrom (keyDicts key) rest

/-- The writer's fold over entries of texts writes the lines of `writtenFrom`, once the
closing lines of the dictionaries it leaves open follow. -/
theorem foldlM_writeStep : ∀ (ts : List (String × String)) (ls cur : List String), ∃ ls' cur',
    (ts.map fun e => (e.1, Value.str e.2)).foldlM writeStep (ls, cur) = .ok (ls', cur') ∧
      ls' ++ closeLines cur' 0 = ls ++ writtenFrom cur ts
  | [], ls, cur => ⟨ls, cur, rfl, rfl⟩
  | (key, v) :: ts, ls, cur => by
    obtain ⟨ls', cur', hfold, heq⟩ := foldlM_writeStep ts
      (ls ++ enterLines cur (keyDicts key) ++ [entryLine (keyDicts key).length key v]) (keyDicts key)
    refine ⟨ls', cur', ?_, ?_⟩
    · rw [List.map_cons, List.foldlM_cons]
      exact hfold
    · rw [heq, writtenFrom]
      simp

/-- The writer's lines for a definition whose entries, sorted, are the texts `ts`. -/
theorem bodyLines_eq {d : Definition} {ts : List (String × String)}
    (hd : d.entries.mergeSort (fun a b => decide (a.1 ≤ b.1)) = ts.map fun e => (e.1, .str e.2)) :
    d.bodyLines = .ok (writtenFrom [] ts) := by
  obtain ⟨ls', cur', hfold, heq⟩ := foldlM_writeStep ts [] []
  rw [bodyLines, hd, hfold]
  rw [List.nil_append] at heq
  rw [← heq]
  simp [closeLines]

/-! ## What the written lines hold -/

/-- A line with no line feed and no comment sign. -/
def Clean (l : String) : Prop := '\n' ∉ l.toList ∧ '#' ∉ l.toList

instance : DecidablePred Clean := fun l => by unfold Clean; infer_instance

theorem Clean.append {a b : String} (ha : Clean a) (hb : Clean b) : Clean (a ++ b) := by
  simp only [Clean, String.toList_append, List.mem_append, not_or] at *
  exact ⟨⟨ha.1, hb.1⟩, ha.2, hb.2⟩

theorem clean_tabs (k : Nat) : Clean (tabs k) := by
  simp [Clean, tabs, Str.rep, List.mem_replicate]

theorem clean_of_plainName {name : String} (h : plainName name = true) : Clean name :=
  ⟨fun hn => absurd ((plainName_isWord h).2 _ hn) (by decide), plainName_not_hash h⟩

theorem clean_of_plainValue {v : String} (hv : PlainValue v) : Clean v := ⟨hv.2.2.2.1, hv.2.2.1⟩

theorem clean_enterLines (cur next : List String) (hnames : ∀ name ∈ next, plainName name = true) :
    ∀ l ∈ enterLines cur next, Clean l := by
  have hclose : Clean "\x7d" := by decide
  have hopen : Clean "\x7b" := by decide
  have hblank : Clean "" := by decide
  unfold enterLines
  split
  · simp
  · intro l hl
    simp only [List.mem_append, List.mem_map, List.mem_flatMap, List.mem_cons,
      List.not_mem_nil, or_false] at hl
    rcases hl with (⟨k, -, rfl⟩ | ⟨k, hk, rfl | rfl⟩) | hl
    · exact (clean_tabs _).append hclose
    · exact hblank
    · have hname : plainName (next.getD (keptDepth cur next + k) "") = true := by
        rw [List.getD_eq_getElem _ _ (by simp at hk; omega)]
        exact hnames _ (List.getElem_mem _)
      exact ((clean_tabs _).append (clean_of_plainName hname)).append hopen
    · split at hl <;> simp_all

/-- Every line written for plain keys and values is clean. -/
theorem clean_writtenFrom : ∀ (ts : List (String × String)) (cur : List String),
    (∀ e ∈ ts, PlainKey e.1 ∧ PlainValue e.2) → ∀ l ∈ writtenFrom cur ts, Clean l
  | [], cur, _ => by
    have hclose : Clean "\x7d" := by decide
    intro l hl
    obtain ⟨k, -, rfl⟩ := List.mem_map.1 hl
    exact (clean_tabs _).append hclose
  | (key, v) :: ts, cur, hplain => by
    obtain ⟨hkey, hv⟩ := hplain (key, v) List.mem_cons_self
    intro l hl
    rw [writtenFrom, List.mem_append, List.mem_append, List.mem_singleton] at hl
    rcases hl with (hl | rfl) | hl
    · exact clean_enterLines cur _ hkey.dicts_plain l hl
    · exact (((clean_tabs _).append (clean_of_plainName hkey.last_plain)).append
        (by decide : Clean "\t")).append (clean_of_plainValue hv)
    · exact clean_writtenFrom ts _ (fun e he => hplain e (List.mem_cons_of_mem _ he)) l hl

theorem nonblank_entryLine (k : Nat) {key v : String} (hkey : PlainKey key) (hv : PlainValue v) :
    nonblank (entryLine k key v) = true := by
  rw [nonblank, entryLine, strip_entryLine k hkey.last_plain hv]
  simp

/-! ## Reading the written lines back -/

theorem length_closeLines (cur : List String) (depth : Nat) :
    (closeLines cur depth).length = cur.length - depth := by
  simp [closeLines]

theorem length_openLines (next : List String) (depth : Nat) :
    (openLines next depth).length = next.length - depth := by
  simp [openLines]

/-- The non-blank lines written for a key: the dictionaries closed, the dictionaries
opened, the key's own line, then what follows. -/
theorem filter_writtenFrom_cons (cur : List String) {key v : String} (hkey : PlainKey key)
    (hv : PlainValue v) (ts : List (String × String)) :
    (writtenFrom cur ((key, v) :: ts)).filter nonblank =
      closeLines cur (keptDepth cur (keyDicts key)) ++
        (openLines (keyDicts key) (keptDepth cur (keyDicts key)) ++
          (entryLine (keyDicts key).length key v :: (writtenFrom (keyDicts key) ts).filter nonblank)) := by
  rw [writtenFrom, List.filter_append, List.filter_append, filter_enterLines _ _ hkey.dicts_plain,
    List.filter_singleton, nonblank_entryLine _ hkey hv]
  simp

section Reading

variable (load : String → Sim Definition) (fileName : String) {lines : Array String}

/-- The run lemma: from the non-blank lines written for the entries `ts` while the
dictionaries `cur` are open, the reader adds the entries one by one, in order, and ends with
every dictionary closed, provided no key slips from the one before it. -/
theorem parseLines_writtenFrom : ∀ (ts : List (String × String)) (cur : List String) (i : Nat)
    (es : List (String × Value)),
    (∀ e ∈ ts, PlainKey e.1 ∧ PlainValue e.2) →
    (cur :: ts.map fun e => keyDicts e.1).IsChain AgreeAbove →
    (ts.map Prod.fst).Nodup → (∀ e ∈ ts, e.1 ∉ es.map Prod.fst) →
    lines.toList.drop i = (writtenFrom cur ts).filter nonblank →
    parseLines load fileName lines i (openedAt cur) es =
      pure (es ++ ts.map fun e => (e.1, .str e.2))
  | [], cur, i, es, _, _, _, _, hdrop => by
    -- the dictionaries left open are closed, and the lines end
    rw [writtenFrom, filter_closeLines, ← List.append_nil (closeLines cur 0)] at hdrop
    have hend := drop_add_of_drop_eq_append hdrop
    rw [closeLines] at hdrop
    rw [length_closeLines] at hend
    have hrun := parseLines_closeRun load fileName cur 0 (cur.length - 0) (by omega) i es [] hdrop
    rw [Nat.zero_add, Nat.sub_zero, List.take_length, List.take_zero] at hrun
    rw [Nat.sub_zero] at hend
    rw [hrun, show openedAt [] = [] from rfl, parseLines_end load fileName hend, List.map_nil,
      List.append_nil]
  | (key, v) :: ts, cur, i, es, hplain, hchain, hnodup, hfresh, hdrop => by
    obtain ⟨hkey, hv⟩ := hplain (key, v) List.mem_cons_self
    obtain ⟨hagree, hchain'⟩ := List.isChain_cons_cons.1 hchain
    obtain ⟨hnew, hnodup'⟩ := List.nodup_cons.1 hnodup
    have hleft := keptDepth_le_left cur (keyDicts key)
    have hright := keptDepth_le_right cur (keyDicts key)
    rw [filter_writtenFrom_cons cur hkey hv] at hdrop
    -- the dictionaries of the key before are closed down to the depth the writer keeps
    have hopen := drop_add_of_drop_eq_append hdrop
    rw [length_closeLines] at hopen
    have hclose := parseLines_closeRun load fileName cur (keptDepth cur (keyDicts key))
      (cur.length - keptDepth cur (keyDicts key)) (by omega) i es _ hdrop
    rw [Nat.add_sub_cancel' hleft, List.take_length, take_keptDepth hagree] at hclose
    -- the key's own dictionaries are opened
    have hentry := drop_add_of_drop_eq_append hopen
    rw [length_openLines] at hentry
    have hopened := parseLines_openRun load fileName (keyDicts key) hkey.dicts_plain
      (keptDepth cur (keyDicts key)) ((keyDicts key).length - keptDepth cur (keyDicts key))
      (by omega) _ es _ hopen
    rw [Nat.add_sub_cancel' hright, List.take_length] at hopened
    -- the key's line sets it
    have hfresh_key : nested (((openedAt (keyDicts key)).head?.map (·.name)).getD "")
        (lastPart key) ∉ es.map Prod.fst := by
      rw [currentName_openedAt, hkey.nested_joinKey]
      exact hfresh (key, v) List.mem_cons_self
    have hset := parseLines_entry load fileName hkey.last_plain hv hentry (openedAt (keyDicts key)) es
      hfresh_key
    rw [currentName_openedAt, hkey.nested_joinKey] at hset
    -- and the rest of the entries follow
    have hrest := parseLines_writtenFrom ts (keyDicts key) _ (es ++ [(key, .str v)])
      (fun e he => hplain e (List.mem_cons_of_mem _ he)) hchain' hnodup' (fun e he hmem => ?_)
      (getElem_of_drop_eq_cons hentry).2.2
    · rw [hclose, hopened, hset, hrest]
      simp
    · rw [List.map_append, List.mem_append] at hmem
      rcases hmem with hmem | hmem
      · exact hfresh e (List.mem_cons_of_mem _ he) hmem
      · simp only [List.map_cons, List.map_nil, List.mem_singleton] at hmem
        exact hnew (List.mem_map.2 ⟨e, he, hmem⟩)

end Reading

/-! ## The round trip -/

/-- Sorted, the keys never slip: each key's dictionaries agree above every level where they
meet the dictionaries of the key just before it. -/
def NoSlip (keys : List String) : Prop :=
  ∀ k ∈ keys, ∀ k' ∈ keys, k < k' → (∀ k'' ∈ keys, ¬(k < k'' ∧ k'' < k')) →
    AgreeAbove (keyDicts k) (keyDicts k')

instance (cur next : List String) : Decidable (AgreeAbove cur next) := by
  unfold AgreeAbove; infer_instance

instance : DecidablePred NoSlip := fun keys => by unfold NoSlip; infer_instance

/-- Keys in strictly increasing order that never slip form a chain of paths, from the root,
in which no path slips from the one before it. -/
theorem isChain_keyDicts {keys : List String} (hsorted : keys.Pairwise (· < ·))
    (hslip : NoSlip keys) : ([] :: keys.map keyDicts).IsChain AgreeAbove := by
  cases keys with
  | nil => exact List.isChain_singleton _
  | cons k rest =>
    refine List.isChain_cons_cons.2 ⟨fun p hp => absurd hp (Nat.not_lt_zero p), ?_⟩
    rw [← List.map_cons, List.isChain_map, List.isChain_iff_getElem]
    intro i hi
    have hlt : ∀ a b (ha : a < (k :: rest).length) (hb : b < (k :: rest).length), a < b →
        (k :: rest)[a] < (k :: rest)[b] := fun a b ha hb hab =>
      List.pairwise_iff_getElem.1 hsorted a b ha hb hab
    refine hslip _ (List.getElem_mem _) _ (List.getElem_mem _) (hlt i (i + 1) _ hi (by omega)) ?_
    -- no key lies strictly between two neighbours
    rintro k'' hk'' ⟨hlo, hhi⟩
    obtain ⟨j, hj, rfl⟩ := List.mem_iff_getElem.1 hk''
    rcases Nat.lt_or_ge i j with hij | hij
    · rcases Nat.lt_or_ge (i + 1) j with hij' | hij'
      · exact lt_asymm hhi (hlt _ _ hi hj hij')
      · obtain rfl : j = i + 1 := by omega
        exact lt_irrefl _ hhi
    · rcases Nat.lt_or_ge j i with hji | hji
      · exact lt_asymm hlo (hlt _ _ hj (by omega) hji)
      · obtain rfl : j = i := by omega
        exact lt_irrefl _ hlo

theorem absoluteValue_of_namesNoFile (dir : String) {v : String} (hv : NamesNoFile v) :
    absoluteValue dir v = pure (.str v) := by
  obtain ⟨hrepo, hfile⟩ := hv
  simp only [absoluteValue, hrepo, hfile, Bool.false_eq_true, if_false]
  rfl

/-- Values that name no file are kept as they are. -/
theorem absolutePaths_of_namesNoFile (fileName : String) :
    ∀ ts : List (String × String), (∀ e ∈ ts, NamesNoFile e.2) →
      absolutePaths fileName (ts.map fun e => (e.1, .str e.2)) = pure (ts.map fun e => (e.1, .str e.2))
  | [], _ => rfl
  | (key, v) :: ts, h => by
    have hrest := absolutePaths_of_namesNoFile fileName ts fun e he => h e (List.mem_cons_of_mem _ he)
    simp only [absolutePaths, List.map_cons, List.mapM_cons] at hrest ⊢
    rw [absoluteValue_of_namesNoFile _ (h (key, v) List.mem_cons_self), hrest]
    rfl

/-- **Round trip.** A definition of plain keys and text values is written as a text that
reads back, leaving the session as it was, as the same entries (sorted by key), provided that,
sorted, no key slips from the one before it.  Without that proviso the writer can leave a key
inside the dictionaries of the key before it: after `A.c.x`, the key `B.c.y` is written inside
`A` and `c` and read back as `A.c.y`. -/
theorem parseText_body (load : String → Sim Definition) (fileName : String) (d : Definition)
    (ts : List (String × String)) (hd : d.entries = ts.map fun e => (e.1, .str e.2))
    (hkeys : (ts.map Prod.fst).Nodup) (hplain : ∀ e ∈ ts, PlainKey e.1 ∧ PlainValue e.2)
    (hslip : NoSlip (ts.map Prod.fst)) (s : Session) :
    ∃ text es, d.body = .ok text ∧ (parseText load fileName text).run s = (.ok es, s) ∧
      es.Perm d.entries := by
  set sorted := ts.mergeSort fun a b => decide (a.1 ≤ b.1) with hsorted_def
  have hperm : sorted.Perm ts := List.mergeSort_perm ts _
  have hsort : d.entries.mergeSort (fun a b => decide (a.1 ≤ b.1)) =
      sorted.map fun e => (e.1, .str e.2) := by
    rw [hd, hsorted_def]
    exact (List.map_mergeSort (s := fun (a b : String × Value) => decide (a.1 ≤ b.1))
      fun _ _ _ _ => rfl).symm
  have hplain' : ∀ e ∈ sorted, PlainKey e.1 ∧ PlainValue e.2 :=
    fun e he => hplain e (hperm.mem_iff.1 he)
  -- sorted and without repeated keys, the keys are strictly increasing
  have hkeys' : (sorted.map Prod.fst).Nodup := (hperm.map Prod.fst).nodup_iff.2 hkeys
  have hincreasing : (sorted.map Prod.fst).Pairwise (· < ·) := by
    have htrans : ∀ a b c : String × String, decide (a.1 ≤ b.1) = true →
        decide (b.1 ≤ c.1) = true → decide (a.1 ≤ c.1) = true := by
      intro a b c hab hbc
      simp only [decide_eq_true_eq] at *
      exact le_trans hab hbc
    have htotal : ∀ a b : String × String, (decide (a.1 ≤ b.1) || decide (b.1 ≤ a.1)) = true := by
      intro a b
      simpa using le_total a.1 b.1
    have hle : (sorted.map Prod.fst).Pairwise (· ≤ ·) := by
      rw [List.pairwise_map]
      exact (List.pairwise_mergeSort htrans htotal ts).imp of_decide_eq_true
    exact (hle.and (List.nodup_iff_pairwise_ne.1 hkeys')).imp fun h => lt_of_le_of_ne h.1 h.2
  have hslip' : NoSlip (sorted.map Prod.fst) := by
    have hmem : ∀ k, k ∈ sorted.map Prod.fst ↔ k ∈ ts.map Prod.fst := fun k => (hperm.map _).mem_iff
    intro k hk k' hk' hlt hbetween
    exact hslip k ((hmem k).1 hk) k' ((hmem k').1 hk') hlt fun k'' hk'' => hbetween k'' ((hmem k'').2 hk'')
  have hchain : ([] :: sorted.map fun e => keyDicts e.1).IsChain AgreeAbove := by
    have := isChain_keyDicts hincreasing hslip'
    rwa [List.map_map] at this
  -- the text, its content lines, and their reading
  have hclean := clean_writtenFrom sorted [] hplain'
  have hlines : contentLines (String.join ((writtenFrom [] sorted).map (· ++ "\n"))) =
      ((writtenFrom [] sorted).filter nonblank).toArray :=
    contentLines_join _ (fun l hl => (hclean l hl).1) (fun l hl => (hclean l hl).2)
  have hread : parseLines load fileName ((writtenFrom [] sorted).filter nonblank).toArray 0 [] [] =
      pure (sorted.map fun e => (e.1, .str e.2)) :=
    parseLines_writtenFrom load fileName sorted [] 0 [] hplain' hchain hkeys' (by simp) (by simp)
  refine ⟨String.join ((writtenFrom [] sorted).map (· ++ "\n")), sorted.map fun e => (e.1, .str e.2),
    by simp [body, bodyLines_eq hsort], ?_, ?_⟩
  · rw [parseText, hlines, parseContentLines]
    simp only [hread, pure_bind]
    rw [absolutePaths_of_namesNoFile fileName sorted fun e he => (hplain' e he).2.2.2.2.2.2]
    rfl
  · rw [hd]
    exact hperm.map _

/-- A nested definition reads back as itself. -/
theorem parseText_body_nested :
    ∃ text es, ({ entries := [("A.b.x", .str "1"), ("A.y", .str "2 3"), ("C", .str "./4")] } :
        Definition).body = .ok text ∧
      (parseText (fun _ => pure {}) "rocket.mapleaf" text).run default = (.ok es, default) ∧
      es.Perm [("A.b.x", .str "1"), ("A.y", .str "2 3"), ("C", .str "./4")] :=
  parseText_body (fun _ => pure {}) "rocket.mapleaf" _ [("A.b.x", "1"), ("A.y", "2 3"), ("C", "./4")]
    rfl (by decide) (by decide) (by decide) default

end Definition
end RocketSim
