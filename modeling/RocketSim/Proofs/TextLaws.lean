import Mathlib
import RocketSim.Text.Str

/-!
# Laws of the text helpers

The text helpers work over character lists with accumulators: splitting at whitespace
collects the current word reversed, splitting at a separator collects the current piece
reversed and carries fuel.  The laws here say what they compute on the texts a writer
produces: words joined by blanks, lines ended by a separator, dotted paths.

* `strip_eq_self`, `strip_rep_append`: stripping leaves a text that neither starts nor ends
  with whitespace, and ignores leading blanks.
* `splitWs_word`, `splitWs_word_blank`, `splitWs_isWord`: splitting at whitespace.
* `intercalate_splitOn`: joining the pieces of a split gives back the text.
* `splitOn_join`: lines each ended by a one-character separator split back into the lines.
* `replace_prefix`: replacing a text that starts a string and occurs nowhere after it
  replaces only that start.
-/

namespace RocketSim
namespace Str

/-- A word: a non-empty text with no whitespace in it. -/
def IsWord (w : String) : Prop := w ≠ "" ∧ ∀ c ∈ w.toList, isSpace c = false

/-! ## Stripping whitespace -/

/-- A text that neither starts nor ends with whitespace is its own stripped form. -/
theorem strip_eq_self {s : String} (hhead : ∀ c ∈ s.toList.head?, isSpace c = false)
    (hlast : ∀ c ∈ s.toList.getLast?, isSpace c = false) : strip s = s := by
  have hleft : s.toList.dropWhile isSpace = s.toList := by
    cases h : s.toList with
    | nil => rfl
    | cons c l => simp [hhead c (by simp [h])]
  have hright : s.toList.reverse.dropWhile isSpace = s.toList.reverse := by
    cases h : s.toList.reverse with
    | nil => rfl
    | cons c l =>
      have hc : c ∈ s.toList.getLast? := by rw [← List.head?_reverse, h]; rfl
      simp [hlast c hc]
  simp [strip, dropWhile, dropRightWhile, hleft, hright]

/-- Leading copies of a whitespace character do not change the stripped form. -/
theorem strip_rep_append {c : Char} (hc : isSpace c = true) (n : Nat) (s : String) :
    strip (rep n c ++ s) = strip s := by
  have hleft : (rep n c ++ s).toList.dropWhile isSpace = s.toList.dropWhile isSpace := by
    rw [String.toList_append, List.dropWhile_append]
    simp [rep, hc]
  simp only [strip, dropWhile, hleft]

/-! ## Splitting at whitespace -/

/-- Characters that are no whitespace join the word being read. -/
theorem splitWs_go_append {l : List Char} (hl : ∀ c ∈ l, isSpace c = false)
    (cur rest : List Char) : splitWs.go cur (l ++ rest) = splitWs.go (l.reverse ++ cur) rest := by
  induction l generalizing cur with
  | nil => rfl
  | cons c l ih =>
    rw [List.cons_append, splitWs.go, if_neg (by simp [hl c List.mem_cons_self]),
      ih (fun d hd => hl d (List.mem_cons_of_mem c hd))]
    simp

/-- Whitespace ends the word being read. -/
theorem splitWs_go_space {c : Char} (hc : isSpace c = true) (cur rest : List Char) :
    splitWs.go cur (c :: rest) =
      (if cur.isEmpty then [] else [String.ofList cur.reverse]) ++ splitWs.go [] rest := by
  rw [splitWs.go, if_pos hc]

/-- Every piece of a split at whitespace is a word. -/
theorem splitWs_isWord (s : String) : ∀ w ∈ splitWs s, IsWord w := by
  -- the invariant: the word being read has no whitespace
  suffices h : ∀ xs cur, (∀ c ∈ cur, isSpace c = false) → ∀ w ∈ splitWs.go cur xs, IsWord w from
    h s.toList [] (by simp)
  intro xs
  induction xs with
  | nil =>
    intro cur hcur w hw
    cases cur with
    | nil => simp [splitWs.go] at hw
    | cons c cur =>
      simp only [splitWs.go, List.isEmpty_cons, Bool.false_eq_true, if_false,
        List.mem_singleton] at hw
      subst hw
      exact ⟨by simp [← String.toList_inj], fun d hd => hcur d (by simpa [or_comm] using hd)⟩
  | cons c rest ih =>
    intro cur hcur w hw
    by_cases hc : isSpace c = true
    · rw [splitWs_go_space hc] at hw
      rcases List.mem_append.1 hw with hw | hw
      · cases cur with
        | nil => simp at hw
        | cons d cur =>
          simp only [List.isEmpty_cons, Bool.false_eq_true, if_false, List.mem_singleton] at hw
          subst hw
          exact ⟨by simp [← String.toList_inj], fun e he => hcur e (by simpa [or_comm] using he)⟩
      · exact ih [] (by simp) w hw
    · rw [splitWs.go, if_neg hc] at hw
      exact ih (c :: cur) (by simpa [hc] using hcur) w hw

/-- A word is its own only piece. -/
theorem splitWs_word {w : String} (hw : IsWord w) : splitWs w = [w] := by
  have hne : w.toList ≠ [] := by simpa using hw.1
  rw [splitWs, ← List.append_nil w.toList, splitWs_go_append hw.2]
  simp [splitWs.go, hne]

/-- A word, a whitespace character and a text split into the word and then the pieces of
the text. -/
theorem splitWs_word_blank {w : String} (hw : IsWord w) {c : Char} (hc : isSpace c = true)
    (t : String) : splitWs (w ++ String.singleton c ++ t) = w :: splitWs t := by
  have hne : w.toList ≠ [] := by simpa using hw.1
  have htext : (w ++ String.singleton c ++ t).toList = w.toList ++ c :: t.toList := by simp
  rw [splitWs, htext, splitWs_go_append hw.2, splitWs_go_space hc]
  simp [hne, splitWs]

/-- A word, a tab and a text split into the word and then the pieces of the text. -/
theorem splitWs_word_tab {w : String} (hw : IsWord w) (t : String) :
    splitWs (w ++ "\t" ++ t) = w :: splitWs t :=
  splitWs_word_blank hw (c := '\t') (by decide) t

/-- Words joined by single blanks end with the last character of the last word, which is
no whitespace. -/
theorem getLast_intercalate_words {ws : List String} (hne : ws ≠ []) (hws : ∀ w ∈ ws, IsWord w) :
    ∀ c ∈ (" ".intercalate ws).toList.getLast?, isSpace c = false := by
  obtain ⟨init, w, rfl⟩ : ∃ init w, ws = init ++ [w] := by
    rcases List.eq_nil_or_concat ws with h | ⟨init, w, h⟩
    · exact absurd h hne
    · exact ⟨init, w, by simpa using h⟩
  have hw := hws w (by simp)
  have hlast : (" ".intercalate (init ++ [w])).toList.getLast? = w.toList.getLast? := by
    rcases eq_or_ne init [] with rfl | hinit
    · simp
    · rw [String.intercalate_append_of_ne_nil hinit (by simp), String.intercalate_singleton,
        String.toList_append, List.getLast?_append]
      cases h : w.toList.getLast? with
      | none => simp_all [hw.1]
      | some c => rfl
  intro c hc
  rw [hlast] at hc
  exact hw.2 c (List.mem_of_getLast? hc)

/-! ## Ends and suffixes -/

/-- Ending with a one-character text is having that character last. -/
theorem endsWith_eq_getLast {s suf : String} {c : Char} (hsuf : suf.toList = [c]) :
    endsWith s suf = (s.toList.getLast? == some c) := by
  simp only [endsWith, hsuf, List.reverse_singleton]
  rw [← List.head?_reverse]
  cases s.toList.reverse <;> simp [listStartsWith]

/-- Dropping as many characters from the right as a suffix has leaves what precedes it. -/
theorem dropRight_append (s t : String) : dropRight (s ++ t) t.length = s := by
  simp [dropRight, ← String.length_toList]

/-! ## Splitting at a separator -/

/-- A list that starts with `pre` is `pre` followed by the rest. -/
theorem listStartsWith_append_drop : ∀ {xs pre : List Char}, listStartsWith xs pre = true →
    pre ++ xs.drop pre.length = xs
  | _, [], _ => rfl
  | [], _ :: _, h => by simp [listStartsWith] at h
  | x :: xs, p :: ps, h => by
    simp only [listStartsWith, Bool.and_eq_true, beq_iff_eq] at h
    obtain ⟨rfl, h⟩ := h
    simp [listStartsWith_append_drop h]

theorem splitList_go_ne_nil (sep : List Char) :
    ∀ fuel cur xs, splitList.go sep fuel cur xs ≠ []
  | 0, _, _ => by simp [splitList.go]
  | _ + 1, _, [] => by simp [splitList.go]
  | fuel + 1, cur, x :: rest => by
    rw [splitList.go]
    split
    · simp
    · exact splitList_go_ne_nil sep fuel _ _

/-- Joining the pieces of a split by the separator gives back the list, whatever the fuel:
a piece cut short by the fuel keeps the rest of the list. -/
theorem intercalate_splitList_go (sep : List Char) :
    ∀ fuel cur xs, sep.intercalate (splitList.go sep fuel cur xs) = cur.reverse ++ xs
  | 0, _, _ => by simp [splitList.go]
  | _ + 1, _, [] => by simp [splitList.go]
  | fuel + 1, cur, x :: rest => by
    rw [splitList.go]
    split
    · next hstart =>
      rw [List.intercalate_cons_of_ne_nil (splitList_go_ne_nil sep fuel _ _),
        intercalate_splitList_go sep fuel, List.reverse_nil, List.nil_append, List.append_assoc,
        listStartsWith_append_drop (Bool.and_eq_true _ _ ▸ hstart).2]
    · rw [intercalate_splitList_go sep fuel]
      simp

theorem splitOn_ne_nil (s sep : String) : splitOn s sep ≠ [] := by
  simpa [splitOn, splitList] using splitList_go_ne_nil sep.toList _ [] s.toList

/-- Joining the pieces of a split by the separator gives back the text. -/
theorem intercalate_splitOn (s sep : String) : sep.intercalate (splitOn s sep) = s := by
  rw [← String.toList_inj, String.toList_intercalate, splitOn, List.map_map]
  simp [Function.comp_def, splitList, intercalate_splitList_go]

section OneChar

variable {c : Char}

/-- Characters other than the separator join the piece being read, one unit of fuel each. -/
theorem splitList_go_skip {l : List Char} (hl : c ∉ l) :
    ∀ fuel cur rest, l.length ≤ fuel →
      splitList.go [c] fuel cur (l ++ rest) =
        splitList.go [c] (fuel - l.length) (l.reverse ++ cur) rest := by
  induction l with
  | nil => intro fuel cur rest _; simp
  | cons x l ih =>
    intro fuel cur rest hfuel
    obtain ⟨fuel, rfl⟩ : ∃ f, fuel = f + 1 := ⟨fuel - 1, by simp at hfuel; omega⟩
    have hx : x ≠ c := fun h => hl (h ▸ List.mem_cons_self)
    rw [List.cons_append, splitList.go, if_neg (by simp [listStartsWith, hx]),
      ih (fun h => hl (List.mem_cons_of_mem x h)) fuel _ rest (by simp at hfuel; omega)]
    simp [Nat.add_sub_add_right]

/-- The separator ends the piece being read. -/
theorem splitList_go_sep (fuel : Nat) (cur rest : List Char) :
    splitList.go [c] (fuel + 1) cur (c :: rest) = cur.reverse :: splitList.go [c] fuel [] rest := by
  simp [splitList.go, listStartsWith]

/-- Lines each ended by the separator split into the lines and an empty last piece, given
more fuel than characters. -/
theorem splitList_go_lines : ∀ (ls : List (List Char)) (fuel : Nat), (∀ l ∈ ls, c ∉ l) →
    (ls.flatMap (· ++ [c])).length < fuel →
      splitList.go [c] fuel [] (ls.flatMap (· ++ [c])) = ls ++ [[]]
  | [], fuel, _, hfuel => by
    obtain ⟨fuel, rfl⟩ : ∃ f, fuel = f + 1 := ⟨fuel - 1, by simp at hfuel; omega⟩
    simp [splitList.go]
  | l :: ls, fuel, hc, hfuel => by
    have hlen : l.length + 1 + (ls.flatMap (· ++ [c])).length < fuel := by
      simpa only [List.flatMap_cons, List.length_append, List.length_singleton] using hfuel
    rw [List.flatMap_cons, List.append_assoc, List.singleton_append,
      splitList_go_skip (hc l List.mem_cons_self) fuel [] _ (by omega)]
    obtain ⟨f, hf⟩ : ∃ f, fuel - l.length = f + 1 := ⟨fuel - l.length - 1, by omega⟩
    rw [hf, splitList_go_sep, splitList_go_lines ls f (fun m hm => hc m (List.mem_cons_of_mem l hm))
      (by omega)]
    simp

/-- Lines each ended by a one-character separator split back into the lines and an empty
last piece. -/
theorem splitOn_join {sep : String} (hsep : sep.toList = [c]) (ls : List String)
    (hc : ∀ l ∈ ls, c ∉ l.toList) : splitOn (String.join (ls.map (· ++ sep))) sep = ls ++ [""] := by
  have htext : (String.join (ls.map (· ++ sep))).toList =
      (ls.map String.toList).flatMap (· ++ [c]) := by
    simp [String.toList_join, List.flatMap_map, hsep]
  rw [splitOn, htext, hsep, splitList, splitList_go_lines _ _ (by simpa using hc) (by omega)]
  simp

end OneChar

/-! ## Replacing a substring -/

theorem listStartsWith_append_self : ∀ (pre rest : List Char),
    listStartsWith (pre ++ rest) pre = true
  | [], rest => by cases rest <;> rfl
  | p :: ps, rest => by simp [listStartsWith, listStartsWith_append_self ps rest]

/-- The empty text occurs in every text. -/
theorem containsStr_empty (s : String) : containsStr s "" = true := by
  cases h : s.toList <;> simp [containsStr, containsStr.go, h, listStartsWith]

/-- A separator that occurs nowhere in the rest of the text leaves it one piece. -/
theorem splitList_go_absent {sub : String} : ∀ {xs : List Char}, containsStr.go sub xs = false →
    ∀ fuel cur, splitList.go sub.toList fuel cur xs = [cur.reverse ++ xs]
  | [], _, fuel, cur => by cases fuel <;> simp [splitList.go]
  | x :: xs, h, fuel, cur => by
    simp only [containsStr.go, Bool.or_eq_false_iff] at h
    cases fuel with
    | zero => simp [splitList.go]
    | succ fuel =>
      rw [splitList.go, if_neg (by simp [h.1]), splitList_go_absent h.2 fuel (x :: cur)]
      simp

/-- Replacing a text that starts a string and occurs nowhere after that start replaces just
the start. -/
theorem replace_prefix {s t new : String} (hs : s ≠ "") (ht : containsStr t s = false) :
    replace (s ++ t) s new = new ++ t := by
  obtain ⟨c, cs, hc⟩ : ∃ c cs, s.toList = c :: cs :=
    List.exists_cons_of_ne_nil (by simpa using hs)
  have hstart : listStartsWith (c :: (cs ++ t.toList)) s.toList = true := by
    rw [← List.cons_append, ← hc]
    exact listStartsWith_append_self _ _
  have hdrop : (c :: (cs ++ t.toList)).drop s.toList.length = t.toList := by
    rw [← List.cons_append, ← hc, List.drop_left]
  -- the separator is found at the very start, and nowhere after it
  have hsplit : splitList s.toList (s ++ t).toList = [[], t.toList] := by
    rw [splitList, String.toList_append, hc, List.cons_append, ← hc, splitList.go,
      if_pos (by rw [hstart]; simp [hc]), hdrop, splitList_go_absent ht]
    simp
  rw [replace, if_neg (by simpa using hs), splitOn, hsplit]
  simp

end Str
end RocketSim
