import Mathlib
import RocketSim.Proofs.DefinitionRoundTrip

/-!
# Derived dictionaries

A definition file derives a dictionary from another with a block

```
!create name from path{
}
```

which copies every key inside the dictionary `path` under the new name.  Each copied key is
renamed with a text replacement of `path` by the new name's full key, and the copies are
added after the keys defined so far; a copy whose key is already defined is refused
("Derived dict key … already exists").  A `path` written `file:path` is read from another
file instead.

Renaming by replacement moves a key into the new dictionary when `path` stands only at the
key's start (`PathOnceIn`), and only then: a key such as `A.A.x` derived from `A` into `B`
has both occurrences replaced.  For keys that hold their path once, the block adds exactly
the relocated entries (`relocate`): each key inside `path` with that leading `path` renamed.

**Results.**
* `split_plainWords`: a line of plain words joined by single blanks reads as those words.
* `foldl_rename`: copying and renaming the source keys one after another gives the
  relocated entries.
* `deriveDictionary_relocates`: the derived entries are the relocated ones, or the block
  fails at the first one already defined.
* `createBlock_relocates`: the reader either refuses the block at the first relocated key
  already defined, or reads on after it with exactly the relocated entries added.
* `createBlock_existingKey_refused`: deriving a dictionary under its own name is refused,
  though relocating would change nothing.
-/

namespace RocketSim

/-! ## Lines of plain words -/

namespace ShellWords

/-- A character a shell reads as itself: no whitespace, quote or backslash. -/
def IsPlain (c : Char) : Prop :=
  Str.isSpace c = false ∧ c ≠ '\x27' ∧ c ≠ '"' ∧ c ≠ '\\'

/-- A word a shell reads as itself: plain characters, at least one. -/
def PlainWord (w : String) : Prop := w ≠ "" ∧ ∀ c ∈ w.toList, IsPlain c

instance : DecidablePred IsPlain := fun c =>
  inferInstanceAs (Decidable (Str.isSpace c = false ∧ c ≠ '\x27' ∧ c ≠ '"' ∧ c ≠ '\\'))

instance : DecidablePred PlainWord := fun w =>
  inferInstanceAs (Decidable (w ≠ "" ∧ ∀ c ∈ w.toList, IsPlain c))

theorem isBlank_eq_false {c : Char} (h : Str.isSpace c = false) : isBlank c = false := by
  revert h
  simp only [Str.isSpace, isBlank]
  intro h
  simp_all

/-- Plain characters join the word being read, up to a blank or the end. -/
theorem word_plain : ∀ {l : List Char}, (∀ c ∈ l, IsPlain c) →
    ∀ {rest : List Char}, (∀ b ∈ rest.head?, isBlank b = true) →
      ∀ fuel acc, l.length < fuel → word fuel acc (l ++ rest) = pure (acc ++ l, rest)
  | [], _, rest, hrest, fuel + 1, acc, _ => by
    cases rest with
    | nil => simp [word]
    | cons b r => simp [word, hrest b rfl]
  | c :: l, hl, rest, hrest, fuel + 1, acc, hlen => by
    obtain ⟨hs, hq, hd, hb⟩ := hl c List.mem_cons_self
    have ih := word_plain (fun d hd => hl d (List.mem_cons_of_mem c hd)) hrest fuel (acc ++ [c])
      (by simp at hlen; omega)
    simp only [List.cons_append, word, isBlank_eq_false hs, Bool.false_eq_true, if_false,
      beq_iff_eq, hq, hd, hb, ih]
    simp

/-- Blanks between words are skipped. -/
theorem split_go_blank {b : Char} (hb : isBlank b = true) (fuel : Nat) (cs : List Char) :
    split.go fuel (b :: cs) = split.go fuel cs := by
  cases fuel <;> simp [split.go, hb]

theorem split_go_nil (fuel : Nat) : split.go fuel [] = pure [] := by
  cases fuel <;> rfl

/-- A plain word, followed by a blank or by nothing, is read as one word. -/
theorem split_go_plain {l : List Char} (hne : l ≠ []) (hl : ∀ c ∈ l, IsPlain c)
    {rest : List Char} (hrest : ∀ b ∈ rest.head?, isBlank b = true) (fuel : Nat) :
    split.go (fuel + 1) (l ++ rest) = (String.ofList l :: ·) <$> split.go fuel rest := by
  obtain ⟨c, cs, rfl⟩ := List.exists_cons_of_ne_nil hne
  have hc : isBlank c = false := isBlank_eq_false (hl c List.mem_cons_self).1
  have hword := word_plain hl hrest ((c :: cs ++ rest).length + 1) [] (by simp)
  simp only [List.nil_append] at hword
  simp only [split.go, List.cons_append, List.dropWhile_cons, hc, Bool.false_eq_true, if_false]
  rw [← List.cons_append, hword]
  simp

/-- Plain words joined by single blanks split back into the words, given more fuel than
characters. -/
theorem split_go_words : ∀ {ws : List String}, ws ≠ [] → (∀ w ∈ ws, PlainWord w) →
    ∀ fuel, (" ".intercalate ws).toList.length < fuel →
      split.go fuel (" ".intercalate ws).toList = pure ws
  | [], hne, _, _, _ => absurd rfl hne
  | [w], _, hws, fuel + 1, _ => by
    obtain ⟨hne, hplain⟩ := hws w List.mem_cons_self
    have h : split.go (fuel + 1) (w.toList ++ []) = _ :=
      split_go_plain (by simpa using hne) hplain (by simp) fuel
    rw [List.append_nil] at h
    simp [h, split_go_nil]
  | w :: w' :: rest, _, hws, fuel + 1, hlen => by
    obtain ⟨hne, hplain⟩ := hws w List.mem_cons_self
    have htext : (" ".intercalate (w :: w' :: rest)).toList =
        w.toList ++ ' ' :: (" ".intercalate (w' :: rest)).toList := by
      simp [String.intercalate_cons_cons]
    have hmore : split.go fuel (" ".intercalate (w' :: rest)).toList = pure (w' :: rest) :=
      split_go_words (by simp) (fun v hv => hws v (List.mem_cons_of_mem w hv)) fuel
        (by rw [htext] at hlen; simp only [List.length_append, List.length_cons] at hlen; omega)
    rw [htext, split_go_plain (by simpa using hne) hplain (by simp [isBlank]),
      split_go_blank (by simp [isBlank]), hmore]
    simp

/-- A line of plain words separated by single blanks splits into those words. -/
theorem split_plainWords {ws : List String} (hne : ws ≠ []) (hws : ∀ w ∈ ws, PlainWord w) :
    split (" ".intercalate ws) = pure ws :=
  split_go_words hne hws _ (by rw [String.length_toList]; omega)

end ShellWords

@[simp] theorem Sim.fail_bind {α β : Type} (f : Fault) (k : α → Sim β) :
    (Sim.fail f >>= k) = Sim.fail f := rfl

namespace Definition

/-! ## Relocating the keys of a dictionary -/

/-- The entries a derived dictionary named `name` takes from the dictionary `path`: each key
inside `path`, with its leading `path` renamed to `name`, and that key's value. -/
def relocate (es : List (String × Value)) (path name : String) : List (String × Value) :=
  (es.filter fun e => Keys.isSubKey path e.1).map fun e => (name ++ Str.drop e.1 path.length, e.2)

/-- A key inside a nonempty dictionary path is that path followed by the rest of the key. -/
theorem isSubKey_append {path k : String} (hpath : path ≠ "") (h : Keys.isSubKey path k = true) :
    path ++ Str.drop k path.length = k := by
  have hne : path.isEmpty = false := by simpa using hpath
  simp only [Keys.isSubKey, hne, Bool.false_eq_true, if_false] at h
  split at h
  · simp at h
  · simp only [Bool.and_eq_true, beq_iff_eq] at h
    have htake : k.toList.take path.length = path.toList := by
      simpa [Str.take] using congrArg String.toList h.1
    apply String.toList_injective
    simp [Str.drop, ← htake]

/-- In a dictionary, the first entry of a key is its only one. -/
theorem find?_key_of_mem {es : List (String × Value)} (hdict : (es.map Prod.fst).Nodup)
    {k : String} {v : Value} (h : (k, v) ∈ es) : es.find? (·.1 == k) = some (k, v) := by
  induction es with
  | nil => simp at h
  | cons e rest ih =>
    rw [List.map_cons, List.nodup_cons] at hdict
    rcases List.mem_cons.1 h with rfl | hrest
    · simp
    · have hne : e.1 ≠ k := fun hk => hdict.1 (hk ▸ List.mem_map_of_mem hrest)
      simp [hne, ih hdict.2 hrest]

/-- Setting keys that are not defined yet adds them at the end, in order. -/
theorem foldl_setEntry_fresh {β : Type} (key : β → String) (val : β → Value) :
    ∀ (xs : List β) (acc : List (String × Value)), (acc.map Prod.fst ++ xs.map key).Nodup →
      xs.foldl (fun d x => setEntry d (key x) (val x)) acc = acc ++ xs.map fun x => (key x, val x)
  | [], acc, _ => by simp
  | x :: xs, acc, hnodup => by
    have hfresh : key x ∉ acc.map Prod.fst := by
      intro hx
      exact (List.nodup_append.1 hnodup).2.2 _ hx _ List.mem_cons_self rfl
    have hset : setEntry acc (key x) (val x) = acc ++ [(key x, val x)] := by
      rw [setEntry, if_neg]
      intro hany
      obtain ⟨y, hy, hk⟩ := List.any_eq_true.1 hany
      have hy' : y.1 ∈ acc.map Prod.fst := List.mem_map_of_mem hy
      exact hfresh ((beq_iff_eq.1 hk) ▸ hy')
    rw [List.foldl_cons, hset, foldl_setEntry_fresh key val xs _ (by simpa using hnodup)]
    simp

/-- A key that holds its dictionary path only at its start. -/
def PathOnceIn (path k : String) : Prop := Str.containsStr (Str.drop k path.length) path = false

/-- Renamed with `str.replace`, a key inside `path` that holds `path` only at its start has
just that start renamed. -/
theorem replace_subKey {path k : String} (hpath : path ≠ "") (hk : Keys.isSubKey path k = true)
    (honce : PathOnceIn path k) (name : String) :
    Str.replace k path name = name ++ Str.drop k path.length := by
  conv_lhs => rw [← isSubKey_append hpath hk]
  exact Str.replace_prefix hpath honce

/-- The keys a derived dictionary copies, renamed key by key and set one after another, are
the relocated entries, when every key inside the source path holds the path only at its
start. -/
theorem foldl_rename {es : List (String × Value)} (hdict : (es.map Prod.fst).Nodup)
    {path : String} (hpath : path ≠ "")
    (honce : ∀ k ∈ es.map Prod.fst, Keys.isSubKey path k = true → PathOnceIn path k)
    (name : String) :
    (subKeysOf es path).foldl (fun d k => setEntry d (Str.replace k path name)
      (((es.find? (·.1 == k)).map (·.2)).getD .null)) [] = relocate es path name := by
  set F := es.filter fun e => Keys.isSubKey path e.1 with hF
  have hsub : ∀ e ∈ F, e ∈ es ∧ Keys.isSubKey path e.1 = true := fun e he => by
    simpa [hF] using he
  -- renaming keeps the keys of the source dictionary apart
  have hrename : ∀ e ∈ F, Str.replace e.1 path name = name ++ Str.drop e.1 path.length :=
    fun e he => replace_subKey hpath (hsub e he).2
      (honce e.1 (List.mem_map_of_mem (hsub e he).1) (hsub e he).2) name
  have hvalue : ∀ e ∈ F, ((es.find? (·.1 == e.1)).map (·.2)).getD .null = e.2 :=
    fun e he => by rw [find?_key_of_mem hdict (hsub e he).1]; rfl
  have hinj : ∀ e ∈ F, ∀ e' ∈ F, name ++ Str.drop e.1 path.length = name ++ Str.drop e'.1 path.length →
      e.1 = e'.1 := fun e he e' he' h => by
    rw [← isSubKey_append hpath (hsub e he).2, ← isSubKey_append hpath (hsub e' he').2,
      (String.append_right_inj name).1 h]
  have hnodupF : (F.map Prod.fst).Nodup :=
    hdict.sublist (List.filter_sublist.map Prod.fst)
  have hkeys : (F.map fun e => Str.replace e.1 path name).Nodup := by
    rw [List.map_congr_left hrename]
    exact (hnodupF.of_map _).map_on fun x hx y hy h =>
      List.inj_on_of_nodup_map hnodupF hx hy (hinj x hx y hy h)
  calc (subKeysOf es path).foldl (fun d k => setEntry d (Str.replace k path name)
        (((es.find? (·.1 == k)).map (·.2)).getD .null)) []
      = F.foldl (fun d e => setEntry d (Str.replace e.1 path name)
          (((es.find? (·.1 == e.1)).map (·.2)).getD .null)) [] := by
        simp [subKeysOf, hF, List.foldl_map]
    _ = [] ++ F.map fun e => (Str.replace e.1 path name,
          ((es.find? (·.1 == e.1)).map (·.2)).getD .null) :=
        foldl_setEntry_fresh _ _ F [] (by simpa using hkeys)
    _ = relocate es path name := by
        rw [List.nil_append, relocate, ← hF]
        exact List.map_congr_left fun e he => by rw [hrename e he, hvalue e he]

/-- A dictionary path that holds its sub-keys only at their start is not empty. -/
theorem path_ne_empty {es : List (String × Value)} {path : String}
    (hsub : ∃ k ∈ es.map Prod.fst, Keys.isSubKey path k = true)
    (honce : ∀ k ∈ es.map Prod.fst, Keys.isSubKey path k = true → PathOnceIn path k) :
    path ≠ "" := by
  rintro rfl
  obtain ⟨k, hk, hks⟩ := hsub
  simpa [PathOnceIn, Str.containsStr_empty] using honce k hk hks

/-! ## Reading a derived dictionary -/

/-- A loop that fails at the first item of a kind fails at the first such item, if any. -/
theorem forIn_failFirst {β : Type} (p : β → Bool) (g : β → Fault)
    (body : β → PUnit → Sim (ForInStep PUnit))
    (hbody : ∀ x u, body x u = if p x then Sim.fail (g x) else pure (ForInStep.yield PUnit.unit)) :
    ∀ l : List β, forIn l PUnit.unit body =
      match l.find? p with
      | some x => Sim.fail (g x)
      | none => pure PUnit.unit
  | [] => rfl
  | x :: l => by
    rw [List.forIn_cons, hbody]
    by_cases hx : p x = true
    · simp [hx]
    · simp [hx, forIn_failFirst p g body hbody l]

/-- A `}` right after a `!create` line ends its (empty) run of commands. -/
theorem applyCommands_closing {lines : Array String} {i : Nat} (h : lines[i]? = some "\x7d")
    (derived : List (String × Value)) : applyCommands lines i derived = pure (derived, 0) := by
  obtain ⟨hi, hline⟩ := Array.getElem?_eq_some_iff.1 h
  rw [applyCommands, dif_pos hi]
  simp only [hline]
  rfl

/-- A source path with no `:` names a dictionary of the definition being read. -/
theorem derivationSource_local (load : String → Sim Definition) (es : List (String × Value))
    {path : String} (hlocal : Str.hasChar path ':' = false) :
    derivationSource load es path = pure (es, path) := by
  simp [derivationSource, hlocal]

/-- A `!create name from path{` line followed by `}`, deriving from a dictionary of the
definition being read whose keys hold the path only at their start: the derived dictionary
takes exactly the relocated entries of the source, unless one of them is already defined,
which is refused. -/
theorem deriveDictionary_relocates (load : String → Sim Definition) (fileName : String)
    {es : List (String × Value)} {lines : Array String} {i : Nat} (current : String)
    {name path : String}
    (hwords : ShellWords.split (lines.getD i "") = .ok ["!create", name, "from", path ++ "\x7b"])
    (hlocal : Str.hasChar path ':' = false) (hclose : lines[i + 1]? = some "\x7d")
    (hdict : (es.map Prod.fst).Nodup) (hsub : ∃ k ∈ es.map Prod.fst, Keys.isSubKey path k = true)
    (honce : ∀ k ∈ es.map Prod.fst, Keys.isSubKey path k = true → PathOnceIn path k) :
    deriveDictionary load fileName es lines i current =
      match (relocate es path (nested current name)).find? (fun e => es.any (·.1 == e.1)) with
      | some e => Sim.fail (Fault.raise .valueError ("Derived dict key " ++ e.1 ++ " already exists"))
      | none => pure (nested current name, es ++ relocate es path (nested current name), 0) := by
  have hpath := path_ne_empty hsub honce
  have hlast : Str.dropRight (path ++ "\x7b") 1 = path := Str.dropRight_append path "\x7b"
  have hends : Str.endsWith (path ++ "\x7b") "\x7b" = true := by
    rw [Str.endsWith_eq_getLast (c := '\x7b') rfl]
    simp
  have hkeys : (subKeysOf es path).isEmpty = false := by
    obtain ⟨k, hk, hks⟩ := hsub
    obtain ⟨⟨k, v⟩, hkv, rfl⟩ := List.mem_map.1 hk
    simp only [subKeysOf, List.isEmpty_eq_false_iff, ne_eq, List.map_eq_nil_iff,
      List.filter_eq_nil_iff, not_forall]
    exact ⟨(k, v), hkv, not_not.2 hks⟩
  have hnonempty : (path ++ "\x7b").isEmpty = false := by simp
  unfold deriveDictionary
  simp only [hwords, Sim.lift, pure_bind, List.getElem?_cons_succ, List.getElem?_cons_zero,
    List.getLast?_cons_cons, List.getLast?_singleton, hnonempty, hends, hlast, if_true,
    Bool.false_eq_true, if_false, derivationSource_local load es hlocal, hkeys,
    foldl_rename hdict hpath honce, applyCommands_closing hclose, Sim.fail_bind]
  -- the collision check is a loop that fails at the first relocated key already defined
  rw [forIn_failFirst (fun e : String × Value => es.any (·.1 == e.1))
    (fun e : String × Value =>
      Fault.raise .valueError ("Derived dict key " ++ e.1 ++ " already exists"))
    (fun (x : String × Value) _ => if (es.any fun y => y.1 == x.1) = true then
      Sim.fail (Fault.raise .valueError ("Derived dict key " ++ x.1 ++ " already exists"))
      else pure (ForInStep.yield PUnit.unit)) (fun x u => rfl)]
  cases (relocate es path (nested current name)).find? (fun e => es.any (·.1 == e.1)) <;> rfl

/-! ## The reader at a derived block -/

/-- The name of the innermost open dictionary; the root has the empty name. -/
def innermost (opened : List OpenDict) : String := (opened.head?.map (·.name)).getD ""

/-- At a `!create` line the reader derives the dictionary and reads on after its command
lines, inside it. -/
theorem parseLines_create (load : String → Sim Definition) (fileName : String)
    {lines : Array String} {i : Nat} {line : String} (hi : lines[i]? = some line)
    (hcreate : (Str.splitWs (Str.strip line)).head? = some "!create")
    (opened : List OpenDict) (es : List (String × Value)) :
    parseLines load fileName lines i opened es =
      deriveDictionary load fileName es lines i (innermost opened) >>= fun r =>
        parseLines load fileName lines (i + 1 + r.2.2) (⟨r.1, true⟩ :: opened) r.2.1 := by
  obtain ⟨hlt, hline⟩ := Array.getElem?_eq_some_iff.1 hi
  rw [parseLines.eq_def, dif_pos hlt]
  simp [hline, hcreate, innermost]

/-! ## The block `!create name from path{` `}` -/

/-- A word with an opening brace after it is still a plain word. -/
theorem plainWord_brace {w : String} (hw : ShellWords.PlainWord w) :
    ShellWords.PlainWord (w ++ "\x7b") :=
  ⟨by simp, fun c hc => by
    rcases (by simpa using hc : c ∈ w.toList ∨ c = '\x7b') with hc | rfl
    · exact hw.2 c hc
    · decide⟩

/-- The line `!create name from path{`. -/
def createLine (name path : String) : String := "!create " ++ name ++ " from " ++ path ++ "\x7b"

/-- A `!create` line of plain words reads as its four words. -/
theorem split_createLine {name path : String} (hname : ShellWords.PlainWord name)
    (hpath : ShellWords.PlainWord path) :
    ShellWords.split (createLine name path) = .ok ["!create", name, "from", path ++ "\x7b"] := by
  have hjoin : createLine name path = " ".intercalate ["!create", name, "from", path ++ "\x7b"] := by
    apply String.toList_injective
    simp [createLine, String.intercalate_cons_cons]
  rw [hjoin]
  refine ShellWords.split_plainWords (by simp) fun w hw => ?_
  simp only [List.mem_cons, List.not_mem_nil, or_false] at hw
  rcases hw with rfl | rfl | rfl | rfl
  · exact ⟨by decide, by simp [ShellWords.IsPlain, Str.isSpace]⟩
  · exact hname
  · exact ⟨by decide, by simp [ShellWords.IsPlain, Str.isSpace]⟩
  · exact plainWord_brace hpath

/-- A `!create` line starts, once stripped, with the word `!create`. -/
theorem splitWs_createLine (name path : String) :
    (Str.splitWs (Str.strip (createLine name path))).head? = some "!create" := by
  have hlast : (createLine name path).toList.getLast? = some '\x7b' := by
    rw [createLine, String.toList_append, List.getLast?_append]
    simp
  have hstrip : Str.strip (createLine name path) = createLine name path :=
    Str.strip_eq_self (fun c hc => by simp [createLine] at hc; subst hc; decide)
      (fun c hc => by rw [hlast] at hc; cases hc; decide)
  have hword : createLine name path =
      "!create" ++ String.singleton ' ' ++ (name ++ " from " ++ path ++ "\x7b") := by
    apply String.toList_injective
    simp [createLine]
  rw [hstrip, hword, Str.splitWs_word_blank ⟨by decide, by simp [Str.isSpace]⟩ (by decide)]
  rfl

/-- A derived dictionary `!create name from path{` closed at once by `}`, deriving from a
dictionary of the definition being read: the reader either refuses the first relocated key
that is already defined, or reads on after the `}` with exactly the relocated entries of
`path` added, every other entry left as it was.  Every key inside `path` is taken to hold
`path` only at its start. -/
theorem createBlock_relocates (load : String → Sim Definition) (fileName : String)
    (lines : Array String) (i : Nat) (opened : List OpenDict) (es : List (String × Value))
    {name path : String} (hname : ShellWords.PlainWord name) (hpath : ShellWords.PlainWord path)
    (hlocal : Str.hasChar path ':' = false)
    (hcreate : lines[i]? = some (createLine name path)) (hclose : lines[i + 1]? = some "\x7d")
    (hdict : (es.map Prod.fst).Nodup) (hsub : ∃ k ∈ es.map Prod.fst, Keys.isSubKey path k = true)
    (honce : ∀ k ∈ es.map Prod.fst, Keys.isSubKey path k = true → PathOnceIn path k) :
    parseLines load fileName lines i opened es =
      match (relocate es path (nested (innermost opened) name)).find?
          (fun e => es.any (·.1 == e.1)) with
      | some e => Sim.fail (Fault.raise .valueError ("Derived dict key " ++ e.1 ++ " already exists"))
      | none => parseLines load fileName lines (i + 2) opened
          (es ++ relocate es path (nested (innermost opened) name)) := by
  have hwords : ShellWords.split (lines.getD i "") =
      .ok ["!create", name, "from", path ++ "\x7b"] := by
    rw [Array.getD_eq_getD_getElem?, hcreate, Option.getD_some]
    exact split_createLine hname hpath
  rw [parseLines_create load fileName hcreate (splitWs_createLine name path),
    deriveDictionary_relocates load fileName _ hwords hlocal hclose hdict hsub honce]
  cases (relocate es path (nested (innermost opened) name)).find? (fun e => es.any (·.1 == e.1)) with
  | some e => rfl
  | none =>
    -- the `}` line closes the derived dictionary at once
    have hdrop : lines.toList.drop (i + 1) = (tabs 0 ++ "\x7d") :: lines.toList.drop (i + 2) := by
      obtain ⟨h, hl⟩ := Array.getElem?_eq_some_iff.1 hclose
      rw [List.drop_eq_getElem_cons (by simpa using h)]
      simp [hl, tabs, Str.rep]
    exact parseLines_closing load fileName hdrop _ opened _

/-- A dictionary `A` with the key `A.x`, derived into `B`: the reader goes on with `B.x`
added. -/
theorem createBlock_relocates_intoB :
    ShellWords.PlainWord "B" ∧ ShellWords.PlainWord "A" ∧ Str.hasChar "A" ':' = false ∧
      #[createLine "B" "A", "\x7d"][0]? = some (createLine "B" "A") ∧
      #[createLine "B" "A", "\x7d"][0 + 1]? = some "\x7d" ∧
      ([("A.x", Value.str "1")].map Prod.fst).Nodup ∧
      (∃ k ∈ [("A.x", Value.str "1")].map Prod.fst, Keys.isSubKey "A" k = true) ∧
      (∀ k ∈ [("A.x", Value.str "1")].map Prod.fst, Keys.isSubKey "A" k = true →
        PathOnceIn "A" k) ∧
      parseLines (fun _ => pure {}) "main.mapleaf" #[createLine "B" "A", "\x7d"] 0 []
          [("A.x", .str "1")] =
        match (relocate [("A.x", .str "1")] "A" (nested (innermost []) "B")).find?
            (fun e => [("A.x", Value.str "1")].any (·.1 == e.1)) with
        | some e => Sim.fail (Fault.raise .valueError ("Derived dict key " ++ e.1 ++ " already exists"))
        | none => parseLines (fun _ => pure {}) "main.mapleaf" #[createLine "B" "A", "\x7d"] (0 + 2)
            [] ([("A.x", .str "1")] ++ relocate [("A.x", .str "1")] "A" (nested (innermost []) "B")) :=
  have hB : ShellWords.PlainWord "B" := ⟨by decide, by simp [ShellWords.IsPlain, Str.isSpace]⟩
  have hA : ShellWords.PlainWord "A" := ⟨by decide, by simp [ShellWords.IsPlain, Str.isSpace]⟩
  have hlocal : Str.hasChar "A" ':' = false := by decide
  have hsub : ∃ k ∈ [("A.x", Value.str "1")].map Prod.fst, Keys.isSubKey "A" k = true :=
    ⟨"A.x", by simp, by decide⟩
  have honce : ∀ k ∈ [("A.x", Value.str "1")].map Prod.fst, Keys.isSubKey "A" k = true →
      PathOnceIn "A" k := by
    simp only [List.map_cons, List.map_nil, List.mem_singleton, forall_eq, PathOnceIn]
    intro _
    decide
  ⟨hB, hA, hlocal, rfl, rfl, by simp, hsub, honce,
    createBlock_relocates _ _ _ 0 [] _ hB hA hlocal rfl rfl (by simp) hsub honce⟩

/-- Deriving a dictionary under its own name: the relocated key `A.x` is already defined, so
the reader refuses the block, where the relocation alone would leave the entries as they
were. -/
theorem createBlock_existingKey_refused :
    (parseLines (fun _ => pure {}) "main.mapleaf" #[createLine "A" "A", "\x7d"] 0 []
        [("A.x", .str "1")]).run default =
      (.error (Fault.raise .valueError "Derived dict key A.x already exists"), default) := by
  have hA : ShellWords.PlainWord "A" := ⟨by decide, by simp [ShellWords.IsPlain, Str.isSpace]⟩
  have honce : ∀ k ∈ [("A.x", Value.str "1")].map Prod.fst, Keys.isSubKey "A" k = true →
      PathOnceIn "A" k := by
    simp only [List.map_cons, List.map_nil, List.mem_singleton, forall_eq, PathOnceIn]
    intro _
    decide
  have hline : #[createLine "A" "A", "\x7d"][0]? = some (createLine "A" "A") := rfl
  have hwords : ShellWords.split (#[createLine "A" "A", "\x7d"].getD 0 "") =
      .ok ["!create", "A", "from", "A" ++ "\x7b"] := split_createLine hA hA
  have hrel : relocate [("A.x", Value.str "1")] "A" (nested (innermost []) "A") =
      [("A.x", .str "1")] := by
    rfl
  rw [parseLines_create _ _ hline (splitWs_createLine "A" "A"),
    deriveDictionary_relocates _ _ _ hwords (by decide) rfl (by simp)
      ⟨"A.x", by simp, by decide⟩ honce, hrel]
  have hfind : [("A.x", Value.str "1")].find? (fun e => [("A.x", Value.str "1")].any (·.1 == e.1)) =
      some ("A.x", .str "1") := by
    simp
  rw [hfind]
  rfl

end Definition
end RocketSim
