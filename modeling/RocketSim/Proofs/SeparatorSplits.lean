import Mathlib
import RocketSim.Proofs.TextLaws

/-!
# Splits of a text with whitespace around it

A text read from a definition or a command line is split after its surrounding whitespace
has been stripped, while the grammar that describes it splits it as it stands.  The laws here
say when the two agree:

* `strip_decompose`, `trimmed_strip`: a text is its stripped form with whitespace around it,
  and the stripped form neither starts nor ends with whitespace;
* `splitWs_pad`: whitespace around a text does not change its split at whitespace;
* `splitOn_pad`: whitespace around a text only joins the first and the last piece of its
  split at a separator of one or two characters, unless the separator starts at the text's
  last character and runs into the whitespace after it;
* `splitOn_eq_singleton`, `splitWs_trimmed`: a split into one piece is the text itself;
* `splitOn_last_suffix`, `splitWs_go_last`: the last piece of a split is how the text ends.
-/

namespace RocketSim
namespace Str

/-! ## The split at a separator, piece by piece -/

/-- The piece being read is carried in front of the first piece. -/
theorem splitList_go_cur (sep : List Char) : ∀ fuel cur xs,
    splitList.go sep fuel cur xs = (splitList.go sep fuel [] xs).modifyHead (cur.reverse ++ ·)
  | 0, cur, xs => by simp [splitList.go]
  | _ + 1, cur, [] => by simp [splitList.go]
  | fuel + 1, cur, x :: rest => by
    rw [splitList.go, splitList.go]
    split
    · simp
    · rw [splitList_go_cur sep fuel (x :: cur), splitList_go_cur sep fuel [x],
        List.modifyHead_modifyHead]
      simp [Function.comp_def]

/-- Characters other than the separator's first one join the piece being read. -/
theorem splitList_go_append_of_ne_head {c : Char} {sep : List Char} {p : List Char}
    (hp : ∀ x ∈ p, x ≠ c) : ∀ fuel cur rest, p.length ≤ fuel →
      splitList.go (c :: sep) fuel cur (p ++ rest) =
        splitList.go (c :: sep) (fuel - p.length) (p.reverse ++ cur) rest := by
  induction p with
  | nil => intro fuel cur rest _; simp
  | cons x p ih =>
    intro fuel cur rest hfuel
    obtain ⟨fuel, rfl⟩ : ∃ f, fuel = f + 1 := ⟨fuel - 1, by simp at hfuel; omega⟩
    have hx : x ≠ c := hp x List.mem_cons_self
    rw [List.cons_append, splitList.go, if_neg (by simp [listStartsWith, hx]),
      ih (fun y hy => hp y (List.mem_cons_of_mem x hy)) fuel _ rest (by simp at hfuel; omega)]
    simp [Nat.add_sub_add_right]

/-- Text without the separator's first character in front of a list joins its first piece. -/
theorem splitList_append_of_ne_head {c : Char} {sep p : List Char} (hp : ∀ x ∈ p, x ≠ c)
    (ys : List Char) :
    splitList (c :: sep) (p ++ ys) = (splitList (c :: sep) ys).modifyHead (p ++ ·) := by
  rw [splitList, splitList_go_append_of_ne_head hp _ [] ys (by simp; omega), splitList_go_cur]
  simp only [List.append_nil, List.reverse_reverse, List.length_append]
  rw [show p.length + ys.length + 1 - p.length = ys.length + 1 by omega]
  rfl

/-- A separator whose first character a list lacks occurs nowhere in it. -/
theorem containsStr_go_of_ne_head {sep : String} {c : Char} {tl : List Char}
    (hsep : sep.toList = c :: tl) : ∀ {xs : List Char}, (∀ x ∈ xs, x ≠ c) →
      containsStr.go sep xs = false
  | [], _ => by simp [containsStr.go, ← String.toList_eq_nil_iff, hsep]
  | x :: xs, hx => by
    have hxc : x ≠ c := hx x List.mem_cons_self
    simp only [containsStr.go, hsep, listStartsWith, beq_false_of_ne hxc, Bool.false_and,
      Bool.false_or]
    exact containsStr_go_of_ne_head hsep fun y hy => hx y (List.mem_cons_of_mem x hy)

/-- A text without the separator's first character is one piece. -/
theorem splitOn_of_ne_head {sep : String} {c : Char} {tl : List Char}
    (hsep : sep.toList = c :: tl) {s : String} (hs : ∀ x ∈ s.toList, x ≠ c) :
    splitOn s sep = [s] := by
  rw [splitOn, splitList, splitList_go_absent (containsStr_go_of_ne_head hsep hs)]
  simp

/-- Whether a list starts with a separator is read off its first characters. -/
theorem listStartsWith_append_of_le : ∀ {xs sep : List Char} (ys : List Char),
    sep.length ≤ xs.length → listStartsWith (xs ++ ys) sep = listStartsWith xs sep
  | xs, [], ys, _ => by cases xs <;> cases ys <;> rfl
  | [], _ :: _, _, h => by simp at h
  | x :: xs, p :: ps, ys, h => by
    simp only [List.cons_append, listStartsWith]
    rw [listStartsWith_append_of_le ys (by simpa using h)]

theorem length_le_of_listStartsWith : ∀ {xs sep : List Char}, listStartsWith xs sep = true →
    sep.length ≤ xs.length
  | _, [], _ => by simp
  | [], _ :: _, h => by simp [listStartsWith] at h
  | x :: xs, p :: ps, h => by
    simp only [listStartsWith, Bool.and_eq_true] at h
    simpa using length_le_of_listStartsWith h.2

/-- Text where the separator occurs nowhere, put after a list, joins the last piece of the
list's split, as long as no separator of at most two characters starts at the list's last
character and runs into the text. -/
theorem splitList_go_append_absent {sep : String} {w : List Char} (hsep : sep.length ≤ 2)
    (hw : containsStr.go sep w = false) :
    ∀ f₂ f₁ cur ys, ys.length < f₂ → (ys ++ w).length < f₁ →
      (∀ x, ys.getLast? = some x →
        listStartsWith (x :: w) sep.toList = listStartsWith [x] sep.toList) →
      ∃ init last, splitList.go sep.toList f₂ cur ys = init ++ [last] ∧
        splitList.go sep.toList f₁ cur (ys ++ w) = init ++ [last ++ w]
  | 0, _, _, _, h, _, _ => absurd h (Nat.not_lt_zero _)
  | _, 0, _, _, _, h, _ => absurd h (Nat.not_lt_zero _)
  | f₂ + 1, f₁ + 1, cur, [], _, _, _ => by
    refine ⟨[], cur.reverse, by simp [splitList.go], ?_⟩
    rw [List.nil_append, splitList_go_absent hw]
    rfl
  | f₂ + 1, f₁ + 1, cur, x :: ys, h₂, h₁, hedge => by
    -- the separator at `x` is seen alike with and without the text after the list
    have hstart : listStartsWith (x :: ys ++ w) sep.toList =
        listStartsWith (x :: ys) sep.toList := by
      cases ys with
      | nil => exact hedge x rfl
      | cons y ys =>
        exact listStartsWith_append_of_le w (by simp only [String.length_toList] at *; simp; omega)
    rw [List.cons_append, splitList.go, splitList.go, ← List.cons_append, hstart]
    split
    · next h =>
      have hle : sep.toList.length ≤ (x :: ys).length :=
        length_le_of_listStartsWith (Bool.and_eq_true _ _ ▸ h).2
      have hpos : 0 < sep.toList.length := by
        cases hs : sep.toList with
        | nil => simp [hs] at h
        | cons => simp
      rw [List.drop_append_of_le_length hle]
      obtain ⟨init, last, h₂', h₁'⟩ := splitList_go_append_absent hsep hw f₂ f₁ []
        ((x :: ys).drop sep.toList.length) (by simp at h₂ ⊢; omega)
        (by simp at h₁ hle ⊢; omega) fun y hy => hedge y (by
          rw [List.getLast?_drop] at hy
          split at hy
          · simp at hy
          · exact hy)
      exact ⟨cur.reverse :: init, last, by rw [h₂']; rfl, by rw [h₁']; rfl⟩
    · exact splitList_go_append_absent hsep hw f₂ f₁ (x :: cur) ys (by simp at h₂; omega)
        (by simp at h₁ ⊢; omega) fun y hy => hedge y (by
          cases ys with
          | nil => simp at hy
          | cons z zs => simpa using hy)

/-- A split into one piece is the text itself. -/
theorem splitOn_eq_singleton {s sep : String} (h : (splitOn s sep).length = 1) :
    splitOn s sep = [s] := by
  obtain ⟨p, hp⟩ := List.length_eq_one_iff.1 h
  have hjoin := intercalate_splitOn s sep
  rw [hp, String.intercalate_singleton] at hjoin
  rw [hp, hjoin]

/-- The last piece of a split is what the text ends with. -/
theorem splitOn_last_suffix (s sep : String) :
    ∃ init last, splitOn s sep = init ++ [last] ∧ ∃ pre, s.toList = pre ++ last.toList := by
  obtain ⟨init, last, hsplit⟩ : ∃ init last, splitOn s sep = init ++ [last] := by
    rcases List.eq_nil_or_concat (splitOn s sep) with h | ⟨init, last, h⟩
    · exact absurd h (splitOn_ne_nil s sep)
    · exact ⟨init, last, by simpa using h⟩
  refine ⟨init, last, hsplit, ?_⟩
  have hjoin := intercalate_splitOn s sep
  rw [hsplit] at hjoin
  rcases eq_or_ne init [] with rfl | hinit
  · exact ⟨[], by simp at hjoin; rw [hjoin]; rfl⟩
  · refine ⟨(sep.intercalate init ++ sep).toList, ?_⟩
    rw [← hjoin, String.intercalate_append_of_ne_nil hinit (by simp)]
    simp

/-! ## Surrounding whitespace -/

/-- Characters that are all whitespace. -/
def AllSpace (l : List Char) : Prop := ∀ x ∈ l, isSpace x = true

/-- Characters that neither start nor end with whitespace. -/
def Trimmed (l : List Char) : Prop :=
  (∀ x ∈ l.head?, isSpace x = false) ∧ ∀ x ∈ l.getLast?, isSpace x = false

theorem AllSpace.append {w w' : List Char} (h : AllSpace w) (h' : AllSpace w') :
    AllSpace (w ++ w') := by
  intro x hx
  rcases List.mem_append.1 hx with hx | hx
  exacts [h x hx, h' x hx]

theorem dropWhile_allSpace_append {w : List Char} (hw : AllSpace w) (l : List Char) :
    (w ++ l).dropWhile isSpace = l.dropWhile isSpace := by
  rw [List.dropWhile_append, if_pos (List.isEmpty_iff.2 (List.dropWhile_eq_nil_iff.2 hw))]

theorem toList_strip (s : String) :
    (strip s).toList = ((s.toList.dropWhile isSpace).reverse.dropWhile isSpace).reverse := by
  simp [strip, dropWhile, dropRightWhile]

/-- Whitespace around a text does not change its stripped form. -/
theorem strip_pad {w₁ w₂ : List Char} (h₁ : AllSpace w₁) (h₂ : AllSpace w₂) (l : List Char) :
    strip (String.ofList (w₁ ++ l ++ w₂)) = strip (String.ofList l) := by
  rw [← String.toList_inj, toList_strip, toList_strip, String.toList_ofList, String.toList_ofList,
    List.append_assoc, dropWhile_allSpace_append h₁, List.dropWhile_append]
  split
  · next h =>
    have hl : l.dropWhile isSpace = [] := List.isEmpty_iff.1 h
    rw [hl, (List.dropWhile_eq_nil_iff).2 h₂]
  · rw [List.reverse_append, dropWhile_allSpace_append (by simpa [AllSpace] using h₂)]

/-- A text is its stripped form with whitespace around it. -/
theorem strip_decompose (s : String) :
    ∃ w₁ w₂, AllSpace w₁ ∧ AllSpace w₂ ∧ s.toList = w₁ ++ (strip s).toList ++ w₂ := by
  refine ⟨s.toList.takeWhile isSpace,
    ((s.toList.dropWhile isSpace).reverse.takeWhile isSpace).reverse,
    fun x hx => List.mem_takeWhile_imp hx, fun x hx => List.mem_takeWhile_imp (by simpa using hx),
    ?_⟩
  rw [toList_strip, List.append_assoc, ← List.reverse_append, List.takeWhile_append_dropWhile,
    List.reverse_reverse, List.takeWhile_append_dropWhile]

/-- A stripped text neither starts nor ends with whitespace. -/
theorem trimmed_strip (s : String) : Trimmed (strip s).toList := by
  rw [toList_strip]
  constructor
  · intro x hx
    -- the first character kept is the first one after the leading whitespace
    rw [List.head?_reverse] at hx
    have hne : (s.toList.dropWhile isSpace).reverse.dropWhile isSpace ≠ [] := by
      intro h; simp [h] at hx
    have hfirst : (s.toList.dropWhile isSpace).head? = some x := by
      rw [← List.getLast?_reverse, ← List.takeWhile_append_dropWhile (p := isSpace)
        (l := (s.toList.dropWhile isSpace).reverse), List.getLast?_append_of_ne_nil _ hne]
      exact hx
    have := List.head?_dropWhile_not isSpace s.toList
    rw [hfirst] at this
    exact this
  · intro x hx
    rw [List.getLast?_reverse] at hx
    have := List.head?_dropWhile_not isSpace (s.toList.dropWhile isSpace).reverse
    rw [hx] at this
    exact this

/-- A character of a text that is no whitespace stays in its stripped form. -/
theorem mem_strip {s : String} {x : Char} (hx : x ∈ s.toList) (hsp : isSpace x = false) :
    x ∈ (strip s).toList := by
  obtain ⟨w₁, w₂, h₁, h₂, hs⟩ := strip_decompose s
  rw [hs] at hx
  rcases List.mem_append.1 hx with hx | hx
  · rcases List.mem_append.1 hx with hx | hx
    · exact absurd (h₁ x hx) (by simp [hsp])
    · exact hx
  · exact absurd (h₂ x hx) (by simp [hsp])

/-! ## Splitting at whitespace -/

theorem splitWs_go_allSpace {w : List Char} (hw : AllSpace w) : ∀ cur,
    splitWs.go cur w = if cur.isEmpty then [] else [String.ofList cur.reverse] := by
  induction w with
  | nil => intro cur; rfl
  | cons x w ih =>
    intro cur
    rw [splitWs_go_space (hw x List.mem_cons_self), ih (fun y hy => hw y (List.mem_cons_of_mem x hy))]
    simp

theorem splitWs_go_allSpace_append {w : List Char} (hw : AllSpace w) (xs : List Char) :
    splitWs.go [] (w ++ xs) = splitWs.go [] xs := by
  induction w with
  | nil => rfl
  | cons x w ih =>
    rw [List.cons_append, splitWs_go_space (hw x List.mem_cons_self),
      ih (fun y hy => hw y (List.mem_cons_of_mem x hy))]
    simp

theorem splitWs_go_append_allSpace {w : List Char} (hw : AllSpace w) :
    ∀ xs cur, splitWs.go cur (xs ++ w) = splitWs.go cur xs
  | [], cur => by rw [List.nil_append, splitWs_go_allSpace hw]; rfl
  | x :: xs, cur => by
    by_cases hx : isSpace x = true
    · rw [List.cons_append, splitWs_go_space hx, splitWs_go_space hx,
        splitWs_go_append_allSpace hw xs []]
    · rw [List.cons_append, splitWs.go, if_neg hx, splitWs.go, if_neg hx,
        splitWs_go_append_allSpace hw xs]

/-- Whitespace around a text does not change its split at whitespace. -/
theorem splitWs_pad {w₁ w₂ : List Char} (h₁ : AllSpace w₁) (h₂ : AllSpace w₂) (l : List Char) :
    splitWs (String.ofList (w₁ ++ l ++ w₂)) = splitWs (String.ofList l) := by
  rw [splitWs, splitWs, String.toList_ofList, String.toList_ofList, List.append_assoc,
    splitWs_go_allSpace_append h₁, splitWs_go_append_allSpace h₂]

/-- A split at whitespace is empty only when it read no word. -/
theorem splitWs_go_eq_nil : ∀ {xs cur : List Char}, splitWs.go cur xs = [] →
    cur = [] ∧ AllSpace xs
  | [], cur, h => by
    cases cur with
    | nil => exact ⟨rfl, by simp [AllSpace]⟩
    | cons => simp [splitWs.go] at h
  | x :: xs, cur, h => by
    by_cases hx : isSpace x = true
    · rw [splitWs_go_space hx] at h
      obtain ⟨h₁, h₂⟩ := List.append_eq_nil_iff.1 h
      have hcur : cur = [] := by
        cases cur with
        | nil => rfl
        | cons => simp at h₁
      obtain ⟨-, hxs⟩ := splitWs_go_eq_nil h₂
      exact ⟨hcur, fun y hy => (List.mem_cons.1 hy).elim (· ▸ hx) (hxs y)⟩
    · rw [splitWs.go, if_neg hx] at h
      exact absurd (splitWs_go_eq_nil h).1 (List.cons_ne_nil _ _)

theorem exists_first_space : ∀ {l : List Char}, (∃ y ∈ l, isSpace y = true) →
    ∃ a x b, l = a ++ x :: b ∧ isSpace x = true ∧ ∀ z ∈ a, isSpace z = false
  | [], ⟨_, hy, _⟩ => absurd hy List.not_mem_nil
  | z :: l, ⟨y, hy, hsp⟩ => by
    by_cases hz : isSpace z = true
    · exact ⟨[], z, l, rfl, hz, by simp⟩
    · have hyl : y ∈ l := by
        rcases List.mem_cons.1 hy with rfl | hy
        · exact absurd hsp hz
        · exact hy
      obtain ⟨a, x, b, rfl, hx, ha⟩ := exists_first_space ⟨y, hyl, hsp⟩
      exact ⟨z :: a, x, b, rfl, hx, fun w hw =>
        (List.mem_cons.1 hw).elim (fun h => h ▸ by simpa using hz) (ha w)⟩

/-- A trimmed text with whitespace in it splits into at least two words. -/
theorem two_le_splitWs {l : List Char} (hl : Trimmed l) (hspace : ∃ y ∈ l, isSpace y = true) :
    2 ≤ (splitWs (String.ofList l)).length := by
  obtain ⟨a, x, b, rfl, hx, ha⟩ := exists_first_space hspace
  -- a word before the first whitespace, since the text does not start with whitespace
  have hane : a ≠ [] := by
    rintro rfl
    exact absurd hx (by simpa using hl.1 x (by simp))
  -- and a word after it, since the text does not end with whitespace
  have hb : ¬AllSpace b := by
    intro hb
    obtain ⟨e, he⟩ : ∃ e, (a ++ x :: b).getLast? = some e :=
      Option.ne_none_iff_exists'.1 (by simp)
    have hlast := hl.2 e he
    rw [List.getLast?_append_of_ne_nil _ (List.cons_ne_nil x b)] at he
    have hmem : e ∈ x :: b := List.mem_of_getLast? he
    rcases List.mem_cons.1 hmem with rfl | heb
    · exact absurd hx (by simp [hlast])
    · exact absurd (hb e heb) (by simp [hlast])
  have hrest : splitWs.go [] b ≠ [] := fun h => hb (splitWs_go_eq_nil h).2
  rw [splitWs, String.toList_ofList, splitWs_go_append ha, splitWs_go_space hx]
  simp only [List.append_nil, List.isEmpty_iff, List.reverse_eq_nil_iff, hane, if_false,
    List.singleton_append, List.length_cons]
  have := List.length_pos_of_ne_nil hrest
  omega

/-- A trimmed text splits at whitespace into more than one word, or into itself, or, empty,
into nothing. -/
theorem splitWs_trimmed {l : List Char} (hl : Trimmed l)
    (hone : (splitWs (String.ofList l)).length ≤ 1) :
    (l = [] ∧ splitWs (String.ofList l) = []) ∨ splitWs (String.ofList l) = [String.ofList l] := by
  have hword : ∀ y ∈ l, isSpace y = false := fun y hy => by
    by_contra hsp
    have := two_le_splitWs hl ⟨y, hy, by simpa using hsp⟩
    omega
  cases l with
  | nil => exact .inl ⟨rfl, rfl⟩
  | cons x l =>
    exact .inr (splitWs_word ⟨by simp [← String.toList_inj], by simpa using hword⟩)

/-- The last word of a split at whitespace ends with the text's last character, when that is
no whitespace. -/
theorem splitWs_go_last : ∀ (xs cur : List Char) {e : Char}, (cur.reverse ++ xs).getLast? = some e →
    isSpace e = false → ∃ init w, splitWs.go cur xs = init ++ [w] ∧ w.toList.getLast? = some e
  | [], cur, e, he, _ => by
    have hne : cur ≠ [] := by rintro rfl; simp at he
    refine ⟨[], String.ofList cur.reverse, ?_, by simpa using he⟩
    simp [splitWs.go, List.isEmpty_iff, hne]
  | x :: xs, cur, e, he, hsp => by
    by_cases hx : isSpace x = true
    · have hxs : xs.getLast? = some e := by
        cases xs with
        | nil => simp at he; exact absurd (he ▸ hx) (by simp [hsp])
        | cons y ys => simpa using he
      obtain ⟨init, w, hsplit, hw⟩ := splitWs_go_last xs [] (by simpa using hxs) hsp
      refine ⟨(if cur.isEmpty then [] else [String.ofList cur.reverse]) ++ init, w, ?_, hw⟩
      rw [splitWs_go_space hx, hsplit, List.append_assoc]
    · rw [splitWs.go, if_neg hx]
      exact splitWs_go_last xs (x :: cur) (by simpa using he) hsp

/-! ## Splitting at a separator with whitespace around the text -/

/-- Whitespace around a text joins the first and the last piece of its split at a separator of
one or two characters that starts with no whitespace, as long as no separator starts at the
text's last character and runs into the whitespace after it. -/
theorem splitOn_pad {sep : String} {c : Char} {tl : List Char} (hsep : sep.toList = c :: tl)
    (htl : tl.length ≤ 1) (hc : isSpace c = false) {w₁ w₂ : List Char} (h₁ : AllSpace w₁)
    (h₂ : AllSpace w₂) {l : List Char}
    (hedge : ∀ x, l.getLast? = some x →
      listStartsWith (x :: w₂) (c :: tl) = listStartsWith [x] (c :: tl)) :
    ∃ init last, splitOn (String.ofList l) sep = (init ++ [last]).map String.ofList ∧
      splitOn (String.ofList (w₁ ++ l ++ w₂)) sep =
        ((init ++ [last ++ w₂]).modifyHead (w₁ ++ ·)).map String.ofList := by
  have hne : ∀ {w : List Char}, AllSpace w → ∀ x ∈ w, x ≠ c := fun hw x hx h => by
    simp [h ▸ hw x hx] at hc
  have hlen : sep.length ≤ 2 := by
    rw [← String.length_toList, hsep]; simp; omega
  obtain ⟨init, last, hl, hlw⟩ := splitList_go_append_absent hlen
    (containsStr_go_of_ne_head hsep (hne h₂)) (l.length + 1) ((l ++ w₂).length + 1) [] l
    (by omega) (by omega) (by rw [hsep]; exact hedge)
  refine ⟨init, last, by simp [splitOn, splitList, hl], ?_⟩
  simp only [splitOn, String.toList_ofList, List.append_assoc]
  rw [hsep, splitList_append_of_ne_head (hne h₁), splitList, ← hsep, hlw]

end Str
end RocketSim
