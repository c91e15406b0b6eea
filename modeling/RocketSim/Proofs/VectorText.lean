import Mathlib
import RocketSim.Motion.Construct
import RocketSim.Proofs.DecimalLiterals
import RocketSim.Proofs.Resampling

/-!
# Reading a vector from its text

A vector given as one string is read by stripping the whitespace around it, dropping a bracket
pair, and splitting the rest at the first of `", "`, `"; "`, whitespace, `","` and `";"` that
splits it into more than one piece.  The reader strips the text once more after dropping the
brackets and tries the separators as a cascade on the first piece; the grammar here,
`Denotes`, does neither, and the two agree:

* `parseVector_eq_ok_iff_denotes`: the reader accepts exactly the texts the grammar splits into
  three decimal literals, with their values.  Whitespace only matters where a separator runs
  across it: a text ending in `,` or `;` before the closing bracket reads under neither.
* `denotes_str`: the text of a vector reads back as the vector whenever each component's
  shortest text reads back as the component.
-/

namespace RocketSim
namespace Construct

open Str

/-! ## The grammar -/

/-- The text inside a vector's brackets: after a leading `[`, `(` or `{`, the text without its
first and its last character, whatever that is. -/
def bracketBody (x : String) : String :=
  match x.toList with
  | c :: _ => if c == '[' || c == '(' || c == '{' then Str.slice x 1 (x.length - 1) else x
  | [] => x

/-- The splits of a vector's components, in the order they are tried. -/
def candidateSplits (r : String) : List (List String) :=
  [splitOn r ", ", splitOn r "; ", splitWs r, splitOn r ",", splitOn r ";"]

/-- The components of a vector's text: its split at the first separator that splits it into
more than one piece, or the text itself. -/
def components (r : String) : List String :=
  ((candidateSplits r).find? (1 < ·.length)).getD [r]

/-- Pieces that read, one by one, as the components of a vector. -/
def ReadAs (pieces : List String) (v : Vec3) : Prop :=
  pieces.map FloatText.parse = [some v.x, some v.y, some v.z]

/-- The vector a text denotes: its components, inside the brackets of its stripped form, read
as the vector's. -/
def Denotes (s : String) (v : Vec3) : Prop :=
  ReadAs (components (bracketBody (strip s))) v

/-- Lists of pieces that read alike, piece by piece. -/
def ReadAlike (ps qs : List String) : Prop :=
  ps.map FloatText.parse = qs.map FloatText.parse

/-! ## Reading pieces -/

theorem readAs_iff {a b c : String} {v : Vec3} :
    ReadAs [a, b, c] v ↔ FloatText.parse a = some v.x ∧ FloatText.parse b = some v.y ∧
      FloatText.parse c = some v.z := by
  simp [ReadAs]

theorem not_readAs {ps : List String} (h : ps.length ≠ 3) (v : Vec3) : ¬ReadAs ps v :=
  fun hr => h (by simpa using congrArg List.length hr)

/-- The last of the pieces read as a vector reads as its last component. -/
theorem readAs_last {ps : List String} {v : Vec3} (h : ReadAs ps v) :
    ∃ p ∈ ps.getLast?, FloatText.parse p = some v.z := by
  have hlast := congrArg List.getLast? h
  rw [List.getLast?_map] at hlast
  obtain ⟨p, hp, hpz⟩ := Option.map_eq_some_iff.1 (by simpa using hlast)
  exact ⟨p, hp, hpz⟩

theorem components_cases (r : String) :
    components r ∈ candidateSplits r ∨ components r = [r] := by
  unfold components
  cases h : (candidateSplits r).find? (1 < ·.length) with
  | none => exact .inr rfl
  | some ps => exact .inl (List.mem_of_find?_eq_some h)

/-- A text reads as no vector when neither the last piece of any of its splits nor the text
itself reads as a number. -/
theorem not_readAs_components {t : String}
    (hcand : ∀ ps ∈ candidateSplits t, ∀ p ∈ ps.getLast?, FloatText.parse p = none)
    (ht : FloatText.parse t = none) (v : Vec3) : ¬ReadAs (components t) v := by
  intro hread
  obtain ⟨p, hp, hpz⟩ := readAs_last hread
  have hnone : FloatText.parse p = none := by
    rcases components_cases t with hmem | hdef
    · exact hcand _ hmem p hp
    · rw [hdef] at hp
      obtain rfl : p = t := by simpa using hp.symm
      exact ht
  rw [hnone] at hpz
  exact absurd hpz (by simp)

theorem map_find?_readAlike : ∀ {as bs : List (List String)}, List.Forall₂ ReadAlike as bs →
    (as.find? (1 < ·.length)).map (·.map FloatText.parse) =
      (bs.find? (1 < ·.length)).map (·.map FloatText.parse)
  | _, _, .nil => rfl
  | a :: as, b :: bs, .cons hab h => by
    have hlen : a.length = b.length := by simpa using congrArg List.length hab
    rw [List.find?_cons, List.find?_cons, hlen]
    split
    · simpa [ReadAlike] using hab
    · exact map_find?_readAlike h

/-- Texts whose splits read alike, split by split, and which read alike themselves, have
components that read alike. -/
theorem readAlike_components {r y : String}
    (h : List.Forall₂ ReadAlike (candidateSplits r) (candidateSplits y))
    (hd : FloatText.parse r = FloatText.parse y) : ReadAlike (components r) (components y) := by
  have hfind := map_find?_readAlike h
  unfold ReadAlike components
  cases hr : (candidateSplits r).find? (1 < ·.length) <;>
    cases hy : (candidateSplits y).find? (1 < ·.length) <;>
    simp_all

/-! ## The cascade on a stripped text -/

theorem splitOn_single_or_split (s sep : String) :
    splitOn s sep = [s] ∨ 1 < (splitOn s sep).length := by
  have hpos := List.length_pos_of_ne_nil (splitOn_ne_nil s sep)
  by_cases h : (splitOn s sep).length = 1
  · exact .inl (splitOn_eq_singleton h)
  · exact .inr (by omega)

theorem splitWs_single_or_split {y : String} (hy : Trimmed y.toList) (hne : y ≠ "") :
    splitWs y = [y] ∨ 1 < (splitWs y).length := by
  by_cases h : (splitWs y).length ≤ 1
  · have hone := splitWs_trimmed hy (by simpa using h)
    simp only [String.ofList_toList] at hone
    rcases hone with ⟨hnil, -⟩ | hone
    · exact absurd (String.toList_eq_nil_iff.1 hnil) hne
    · exact .inl hone
  · exact .inr (by omega)

/-- On a stripped text, the cascade of separators, each tried on the one piece the previous
one left, picks the grammar's components: a split into one piece is the text itself. -/
theorem splitComponents_eq_components {y : String} (hy : Trimmed y.toList) (hne : y ≠ "") :
    splitComponents y = components y := by
  unfold splitComponents components candidateSplits
  rcases splitOn_single_or_split y ", " with h₁ | h₁
  · rcases splitOn_single_or_split y "; " with h₂ | h₂
    · rcases splitWs_single_or_split hy hne with h₃ | h₃
      · rcases splitOn_single_or_split y "," with h₄ | h₄
        · rcases splitOn_single_or_split y ";" with h₅ | h₅
          · simp [h₁, h₂, h₃, h₄, h₅]
          · simp [h₁, h₂, h₃, h₄, h₅]
        · simp [h₁, h₂, h₃, h₄, h₄.ne']
      · simp [h₁, h₂, h₃, h₃.ne']
    · simp [h₁, h₂, h₂.ne']
  · simp [h₁, h₁.ne']

/-! ## Whitespace around the components -/

theorem map_parse_pad {w₁ w₂ : List Char} (h₁ : AllSpace w₁) (h₂ : AllSpace w₂)
    (init : List (List Char)) (last : List Char) :
    (((init ++ [last ++ w₂]).modifyHead (w₁ ++ ·)).map String.ofList).map FloatText.parse =
      ((init ++ [last]).map String.ofList).map FloatText.parse := by
  have hnil : AllSpace [] := by simp [AllSpace]
  cases init with
  | nil =>
    have := FloatText.parse_pad h₁ h₂ last
    simpa [List.append_assoc] using this
  | cons i is =>
    have hfirst := FloatText.parse_pad h₁ hnil i
    have hlast := FloatText.parse_pad hnil h₂ last
    simp only [List.append_nil, List.nil_append] at hfirst hlast
    simp only [List.cons_append, List.modifyHead_cons, List.map_cons, List.map_append,
      List.map_nil, hfirst, hlast]

/-- Whitespace around a text reads alike in its split at a separator of one or two characters,
when the text does not end with the separator's first character. -/
theorem readAlike_splitOn_pad {sep : String} {c : Char} {tl : List Char}
    (hsep : sep.toList = c :: tl) (htl : tl.length ≤ 1) (hc : isSpace c = false)
    {w₁ w₂ : List Char} (h₁ : AllSpace w₁) (h₂ : AllSpace w₂) {y : String}
    (hlast : ∀ x ∈ y.toList.getLast?, x ≠ c) :
    ReadAlike (splitOn (String.ofList (w₁ ++ y.toList ++ w₂)) sep) (splitOn y sep) := by
  have hedge : ∀ x, y.toList.getLast? = some x →
      listStartsWith (x :: w₂) (c :: tl) = listStartsWith [x] (c :: tl) := fun x hx => by
    simp [listStartsWith, beq_false_of_ne (hlast x (by simp [hx]))]
  obtain ⟨init, last, hy, hr⟩ := splitOn_pad hsep htl hc h₁ h₂ hedge
  rw [String.ofList_toList] at hy
  rw [ReadAlike, hr, hy]
  exact map_parse_pad h₁ h₂ init last

/-- The last piece of a split of a text ending, up to whitespace, in a character that is
neither whitespace nor one of a literal does not read as a number. -/
theorem parse_suffix_of_end {t p : String} {pre w pre' : List Char} {e : Char}
    (ht : t.toList = pre ++ e :: w) (hw : AllSpace w) (hsp : isSpace e = false)
    (hlit : FloatText.literalChar e = false) (hp : t.toList = pre' ++ p.toList) :
    FloatText.parse p = none := by
  rw [ht] at hp
  rcases List.append_eq_append_iff.1 hp.symm with ⟨a, -, hpa⟩ | ⟨c', -, hc'⟩
  · -- the piece runs over the end character
    exact FloatText.parse_of_mem (by rw [hpa]; simp) hsp hlit
  · cases c' with
    | nil =>
      have hpe : p.toList = e :: w := by simpa using hc'.symm
      exact FloatText.parse_of_mem (by rw [hpe]; simp) hsp hlit
    | cons x c' =>
      -- the piece lies in the whitespace after the end character
      obtain ⟨-, hwp⟩ := List.cons_eq_cons.1 hc'
      have hblank : AllSpace p.toList := fun y hy => hw y (by rw [hwp]; simp [hy])
      simpa using FloatText.parse_allSpace hblank

theorem parse_last_splitOn_of_end {t : String} {pre w : List Char} {e : Char}
    (ht : t.toList = pre ++ e :: w) (hw : AllSpace w) (hsp : isSpace e = false)
    (hlit : FloatText.literalChar e = false) (sep : String) :
    ∀ p ∈ (splitOn t sep).getLast?, FloatText.parse p = none := by
  obtain ⟨init, last, hsplit, pre', hsuf⟩ := splitOn_last_suffix t sep
  intro p hp
  rw [hsplit, List.getLast?_concat] at hp
  obtain rfl : p = last := by simpa using hp.symm
  exact parse_suffix_of_end ht hw hsp hlit hsuf

theorem parse_last_splitWs_of_end {t : String} {pre w : List Char} {e : Char}
    (ht : t.toList = pre ++ e :: w) (hw : AllSpace w) (hsp : isSpace e = false)
    (hlit : FloatText.literalChar e = false) :
    ∀ p ∈ (splitWs t).getLast?, FloatText.parse p = none := by
  have hnil : AllSpace [] := by simp [AllSpace]
  have htext : t = String.ofList ([] ++ (pre ++ [e]) ++ w) := by
    rw [← String.toList_inj, String.toList_ofList, ht]
    simp
  -- the last word ends with the end character
  obtain ⟨init, word, hsplit, hword⟩ := splitWs_go_last (pre ++ [e]) [] (by simp) hsp
  intro p hp
  rw [htext, splitWs_pad hnil hw, splitWs, String.toList_ofList, hsplit,
    List.getLast?_concat] at hp
  obtain rfl : p = word := by simpa using hp.symm
  exact FloatText.parse_of_mem (List.mem_of_getLast? hword) hsp hlit

/-- A text that ends, up to whitespace, in `,` or `;` reads as no vector: the last piece of
each of its splits keeps the separator or is blank. -/
theorem not_readAs_components_of_end {t : String} {pre w : List Char} {e : Char}
    (ht : t.toList = pre ++ e :: w) (hw : AllSpace w) (he : e = ',' ∨ e = ';') (v : Vec3) :
    ¬ReadAs (components t) v := by
  have hsp : isSpace e = false := by rcases he with rfl | rfl <;> decide
  have hlit : FloatText.literalChar e = false := by rcases he with rfl | rfl <;> decide
  have hsplit := parse_last_splitOn_of_end ht hw hsp hlit
  refine not_readAs_components ?_ (FloatText.parse_of_mem (by rw [ht]; simp) hsp hlit) v
  simp only [candidateSplits, List.mem_cons, List.not_mem_nil, or_false]
  rintro ps (rfl | rfl | rfl | rfl | rfl)
  exacts [hsplit _, hsplit _, parse_last_splitWs_of_end ht hw hsp hlit, hsplit _, hsplit _]

/-- Blank text reads as no vector. -/
theorem not_readAs_components_of_blank {t : String} (ht : AllSpace t.toList) (v : Vec3) :
    ¬ReadAs (components t) v := by
  have hne : ∀ c, isSpace c = false → ∀ x ∈ t.toList, x ≠ c := fun c hc x hx h => by
    simp [h ▸ ht x hx] at hc
  have hparse : FloatText.parse t = none := by simpa using FloatText.parse_allSpace ht
  have hsplit : ∀ (sep : String) (c : Char) (tl : List Char), sep.toList = c :: tl →
      isSpace c = false → ∀ p ∈ (splitOn t sep).getLast?, FloatText.parse p = none :=
    fun sep c tl hsep hc p hp => by
      rw [splitOn_of_ne_head hsep (hne c hc)] at hp
      obtain rfl : p = t := by simpa using hp.symm
      exact hparse
  have hws : splitWs t = [] := by
    rw [splitWs, ← List.append_nil t.toList, splitWs_go_allSpace_append ht]
    rfl
  refine not_readAs_components ?_ hparse v
  simp only [candidateSplits, List.mem_cons, List.not_mem_nil, or_false]
  rintro ps (rfl | rfl | rfl | rfl | rfl)
  · exact hsplit _ ',' [' '] (by simp) (by decide)
  · exact hsplit _ ';' [' '] (by simp) (by decide)
  · simp [hws]
  · exact hsplit _ ',' [] (by simp) (by decide)
  · exact hsplit _ ';' [] (by simp) (by decide)

/-- Whitespace around a stripped text does not change the vector it reads as. -/
theorem readAs_components_pad {w₁ w₂ : List Char} (h₁ : AllSpace w₁) (h₂ : AllSpace w₂)
    {y : String} (v : Vec3) :
    ReadAs (components (String.ofList (w₁ ++ y.toList ++ w₂))) v ↔ ReadAs (components y) v := by
  rcases List.eq_nil_or_concat y.toList with hnil | ⟨pre, e, hye⟩
  · -- blank on both sides
    have hy : AllSpace y.toList := by simp [hnil, AllSpace]
    refine iff_of_false (not_readAs_components_of_blank ?_ v) (not_readAs_components_of_blank hy v)
    simpa [hnil] using AllSpace.append h₁ h₂
  rw [List.concat_eq_append] at hye
  by_cases he : e = ',' ∨ e = ';'
  · -- ending in a separator character, neither reads
    have hr : (String.ofList (w₁ ++ y.toList ++ w₂)).toList = (w₁ ++ pre) ++ e :: w₂ := by
      simp [hye]
    have hy : y.toList = pre ++ e :: [] := hye
    exact iff_of_false (not_readAs_components_of_end hr h₂ he v)
      (not_readAs_components_of_end hy (by simp [AllSpace]) he v)
  · -- no separator runs across the end of the text, so every split reads alike
    have hlast : ∀ c, c = ',' ∨ c = ';' → ∀ x ∈ y.toList.getLast?, x ≠ c := by
      intro c hc x hx hxc
      rw [hye, List.getLast?_concat] at hx
      obtain rfl : x = e := by simpa using hx.symm
      exact he (hxc ▸ hc)
    have hsplit : ∀ (sep : String) (c : Char) (tl : List Char), sep.toList = c :: tl →
        tl.length ≤ 1 → c = ',' ∨ c = ';' →
        ReadAlike (splitOn (String.ofList (w₁ ++ y.toList ++ w₂)) sep) (splitOn y sep) :=
      fun sep c tl hsep htl hc => readAlike_splitOn_pad hsep htl
        (by rcases hc with rfl | rfl <;> decide) h₁ h₂ (hlast c hc)
    have hws : ReadAlike (splitWs (String.ofList (w₁ ++ y.toList ++ w₂))) (splitWs y) := by
      rw [ReadAlike, splitWs_pad h₁ h₂, String.ofList_toList]
    have hpieces := readAlike_components
      (.cons (hsplit ", " ',' [' '] (by simp) (by simp) (.inl rfl))
        (.cons (hsplit "; " ';' [' '] (by simp) (by simp) (.inr rfl))
          (.cons hws
            (.cons (hsplit "," ',' [] (by simp) (by simp) (.inl rfl))
              (.cons (hsplit ";" ';' [] (by simp) (by simp) (.inr rfl)) .nil)))))
      (by rw [FloatText.parse_pad h₁ h₂, String.ofList_toList])
    rw [ReadAs, ReadAs, hpieces]

/-! ## The reader -/

theorem strip_strip (s : String) : strip (strip s) = strip s :=
  strip_eq_self (trimmed_strip s).1 (trimmed_strip s).2

theorem bracketBody_cons {x : String} {c : Char} {tail : List Char} (hx : x.toList = c :: tail) :
    bracketBody x =
      if (c == '[' || c == '(' || c == '{') = true then Str.slice x 1 (x.length - 1) else x := by
  unfold bracketBody
  simp only [hx]

theorem parseVector_eq_ok_iff (s : String) (v : Vec3) : parseVector s = .ok v ↔
    strip s ≠ "" ∧ ReadAs (splitComponents (strip (bracketBody (strip s)))) v := by
  unfold parseVector
  dsimp only
  generalize hxs : strip s = x
  split
  · next c tail hx =>
    have hne : x ≠ "" := by intro h; simp [h] at hx
    have hstrip : strip x = x := by rw [← hxs, strip_strip]
    rw [bracketBody_cons hx, apply_ite strip, hstrip]
    simp only [ne_eq, hne, not_false_eq_true, true_and]
    split_ifs
    all_goals
      simp only [pure_bind]
      generalize splitComponents _ = ps
      by_cases h3 : ps.length = 3
      · obtain ⟨a, b, c, rfl⟩ := List.length_eq_three.1 h3
        rw [readAs_iff]
        dsimp only
        split
        · next x y z hx hy hz =>
          rw [hx, hy, hz]
          cases v
          simp [pure, Except.pure]
        · next hnot =>
          refine iff_of_false (by simp [throw, throwThe, MonadExceptOf.throw]) ?_
          rintro ⟨hx, hy, hz⟩
          exact hnot _ _ _ hx hy hz
      · refine iff_of_false ?_ (not_readAs h3 v)
        split
        · exact absurd rfl h3
        · simp [throw, throwThe, MonadExceptOf.throw]
  · next hx =>
    have : x = "" := by simpa using hx
    simp [this, throw, throwThe, MonadExceptOf.throw, bind, Except.bind]

/-- The cascade on the stripped text reads as the grammar's components of the text. -/
theorem readAs_splitComponents_strip (r : String) (v : Vec3) :
    ReadAs (splitComponents (strip r)) v ↔ ReadAs (components r) v := by
  obtain ⟨w₁, w₂, h₁, h₂, hr⟩ := strip_decompose r
  have hr' : String.ofList (w₁ ++ (strip r).toList ++ w₂) = r := by
    rw [← hr, String.ofList_toList]
  by_cases hne : strip r = ""
  · have hsplit : splitComponents (strip r) = [] := by rw [hne]; rfl
    rw [hsplit]
    refine iff_of_false (not_readAs (by simp) v) (not_readAs_components_of_blank ?_ v)
    rw [hr, hne]
    simpa using AllSpace.append h₁ h₂
  · have hpad := readAs_components_pad h₁ h₂ (y := strip r) v
    rw [hr'] at hpad
    rw [splitComponents_eq_components (trimmed_strip r) hne, hpad]

/-- The reader accepts exactly the texts the grammar reads as a vector, with its value. -/
theorem parseVector_eq_ok_iff_denotes (s : String) (v : Vec3) :
    parseVector s = .ok v ↔ Denotes s v := by
  rw [parseVector_eq_ok_iff, readAs_splitComponents_strip, Denotes]
  refine ⟨fun h => h.2, fun h => ⟨fun hs => ?_, h⟩⟩
  rw [hs] at h
  exact not_readAs_components_of_blank (t := bracketBody "") (by simp [bracketBody, AllSpace]) v h

theorem vector_str (s : String) : vector [.str s] = (Value.vec ·) <$> parseVector s := by
  have hkind : (FaultKind.typeError != FaultKind.typeError) = false := by decide
  simp [vector, component, Value.toFloat?, Fault.typeMismatch, Fault.bare, bind, Except.bind,
    throw, throwThe, MonadExceptOf.throw, hkind]

/-! ## Reading back the text of a vector -/

theorem slice_bracketed {t b : String} {c d : Char} (ht : t.toList = c :: (b.toList ++ [d])) :
    Str.slice t 1 (t.length - 1) = b := by
  have hlen : t.length - 1 = b.toList.length + 1 := by
    rw [← String.length_toList, ht]; simp
  rw [Str.slice, hlen, ht, List.take_succ_cons, List.take_left' rfl]
  simp

/-- The shortest text of a number that reads back is a word. -/
theorem isWord_repr {f : Float} (h : FloatText.parse (FloatText.repr f) = some f) :
    IsWord (FloatText.repr f) := by
  refine ⟨fun hempty => ?_, fun x hx =>
    FloatText.isSpace_of_reprChar (FloatText.reprText_repr f x hx)⟩
  have hnone : FloatText.parse "" = none := by decide
  rw [hempty, hnone] at h
  exact absurd h (by simp)

/-- The shortest text of a number has no `,` and no `;`. -/
theorem repr_no_separator (f : Float) : ∀ x ∈ (FloatText.repr f).toList, x ≠ ',' ∧ x ≠ ';' := by
  intro x hx
  have hrepr := FloatText.reprText_repr f x hx
  constructor <;> (rintro rfl; exact absurd hrepr (by decide))

/-- The text of a vector is the texts of its components between parentheses, separated by
blanks; it denotes the vector whenever each component's text reads back as the component. -/
theorem denotes_str {v : Vec3} (hx : FloatText.parse (FloatText.repr v.x) = some v.x)
    (hy : FloatText.parse (FloatText.repr v.y) = some v.y)
    (hz : FloatText.parse (FloatText.repr v.z) = some v.z) :
    Denotes ("(" ++ FloatText.repr v.x ++ " " ++ FloatText.repr v.y ++ " " ++
      FloatText.repr v.z ++ ")") v := by
  set body := FloatText.repr v.x ++ " " ++ FloatText.repr v.y ++ " " ++ FloatText.repr v.z
    with hbody_def
  set text := "(" ++ FloatText.repr v.x ++ " " ++ FloatText.repr v.y ++ " " ++
    FloatText.repr v.z ++ ")" with htext_def
  have htext : text.toList = '(' :: (body.toList ++ [')']) := by simp [text, body]
  have hstrip : strip text = text := by
    refine strip_eq_self ?_ ?_
    · rw [htext]
      simp only [List.head?_cons, Option.mem_def, Option.some.injEq, forall_eq']
      decide
    · rw [htext, ← List.cons_append, List.getLast?_concat]
      simp only [Option.mem_def, Option.some.injEq, forall_eq']
      decide
  -- the body has no `,` or `;`, and splits at whitespace into the three words
  have hbody : ∀ x ∈ body.toList, x ≠ ',' ∧ x ≠ ';' := by
    intro x hx
    simp only [body, String.toList_append, List.mem_append] at hx
    rcases hx with (((hx | hx) | hx) | hx) | hx
    · exact repr_no_separator _ x hx
    · simp only [show (" " : String).toList = [' '] by simp, List.mem_singleton] at hx
      subst hx; decide
    · exact repr_no_separator _ x hx
    · simp only [show (" " : String).toList = [' '] by simp, List.mem_singleton] at hx
      subst hx; decide
    · exact repr_no_separator _ x hx
  have hcomma : splitOn body ", " = [body] :=
    splitOn_of_ne_head (show (", " : String).toList = ',' :: [' '] by simp)
      fun x hx => (hbody x hx).1
  have hsemi : splitOn body "; " = [body] :=
    splitOn_of_ne_head (show ("; " : String).toList = ';' :: [' '] by simp)
      fun x hx => (hbody x hx).2
  have hws : splitWs body = [FloatText.repr v.x, FloatText.repr v.y, FloatText.repr v.z] := by
    have hblank : isSpace ' ' = true := by decide
    have hsingle : String.singleton ' ' = " " := by decide
    have hassoc : body = FloatText.repr v.x ++ String.singleton ' ' ++
        (FloatText.repr v.y ++ String.singleton ' ' ++ FloatText.repr v.z) := by
      simp only [body, hsingle, String.append_assoc]
    rw [hassoc, splitWs_word_blank (isWord_repr hx) hblank,
      splitWs_word_blank (isWord_repr hy) hblank, splitWs_word (isWord_repr hz)]
  have hcomponents : components body =
      [FloatText.repr v.x, FloatText.repr v.y, FloatText.repr v.z] := by
    simp [components, candidateSplits, hcomma, hsemi, hws]
  rw [Denotes, hstrip, bracketBody_cons htext, if_pos (by decide), slice_bracketed htext,
    hcomponents, readAs_iff]
  exact ⟨hx, hy, hz⟩

/-- A vector built from one string is the vector the string denotes, and fails when it denotes
none. -/
theorem vector_str_eq_ok_iff (s : String) (w : Value) :
    vector [.str s] = .ok w ↔ ∃ v, w = .vec v ∧ Denotes s v := by
  rw [vector_str]
  cases h : parseVector s with
  | error e =>
    refine iff_of_false (by simp [Functor.map, Except.map]) ?_
    rintro ⟨v, -, hd⟩
    exact absurd ((parseVector_eq_ok_iff_denotes s v).2 hd) (by simp [h])
  | ok u =>
    simp only [Functor.map, Except.map, Except.ok.injEq]
    constructor
    · rintro rfl
      exact ⟨u, rfl, (parseVector_eq_ok_iff_denotes s u).1 h⟩
    · rintro ⟨v, rfl, hd⟩
      have hv := (parseVector_eq_ok_iff_denotes s v).2 hd
      rw [h, Except.ok.injEq] at hv
      rw [hv]

/-- A vector is read from exactly the texts its grammar reads as one, and reading its text gives
it back whenever each component's shortest text reads back as the component. -/
theorem vectorText_readsGrammar_invertsStr :
    (∀ (s : String) (w : Value), vector [.str s] = .ok w ↔ ∃ v, w = .vec v ∧ Denotes s v) ∧
      ∀ v : Vec3, FloatText.parse (FloatText.repr v.x) = some v.x →
        FloatText.parse (FloatText.repr v.y) = some v.y →
        FloatText.parse (FloatText.repr v.z) = some v.z →
        (Show.str (.vec v) >>= fun t => vector [.str t]) = .ok (.vec v) := by
  refine ⟨vector_str_eq_ok_iff, fun v hx hy hz => ?_⟩
  rw [Definition.str_vec]
  simp only [bind, Except.bind]
  exact (vector_str_eq_ok_iff _ _).2 ⟨v, rfl, denotes_str hx hy hz⟩

/-- The zero vector's text reads back as the zero vector. -/
theorem vectorText_readsGrammar_invertsStr_zero :
    (FloatText.parse (FloatText.repr 0.0) = some 0.0 ∧
      FloatText.parse (FloatText.repr (-0.0)) = some (-0.0)) ∧
      (Show.str (.vec ⟨0.0, -0.0, 0.0⟩) >>= fun t => vector [.str t]) =
        .ok (.vec ⟨0.0, -0.0, 0.0⟩) :=
  have hzero : FloatText.parse (FloatText.repr 0.0) = some 0.0 := by decide
  have hneg : FloatText.parse (FloatText.repr (-0.0)) = some (-0.0) := by decide
  ⟨⟨hzero, hneg⟩, vectorText_readsGrammar_invertsStr.2 ⟨0.0, -0.0, 0.0⟩ hzero hneg hzero⟩

end Construct
end RocketSim
