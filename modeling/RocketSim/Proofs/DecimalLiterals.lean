import Mathlib
import RocketSim.Numeric.FloatText
import RocketSim.Proofs.SeparatorSplits

/-!
# The characters of a decimal literal

`parse` reads a decimal literal once the whitespace around it is stripped, and `repr` writes
one.  The laws here bound the characters either of them lets through:

* `parse_congr_strip`, `parse_pad`: the reading depends only on the stripped text;
* `parse_literal`: a text that reads as a number is, stripped, made of digits, `_`, `.`,
  signs, exponent letters and the letters of `inf`, `infinity` and `nan`; so `parse_of_mem`
  rejects a text with any other character that is no whitespace, such as a separator, and
  `parse_allSpace` rejects blank text;
* `reprText_repr`: `repr` writes only digits, `.`, signs, `e` and the letters of `inf` and
  `nan`, and so no whitespace.
-/

namespace RocketSim
namespace FloatText

open Str

/-! ## Reading -/

/-- A character a decimal literal may contain. -/
def literalChar (x : Char) : Bool :=
  x.isDigit || "_.+-".toList.contains x || "aefinty".toList.contains x.toLower

/-- Characters a decimal literal may contain. -/
def Literal (l : List Char) : Prop := ∀ x ∈ l, literalChar x = true

@[simp] theorem literal_nil : Literal [] := by simp [Literal]

@[simp] theorem literal_cons {x : Char} {l : List Char} :
    Literal (x :: l) ↔ literalChar x = true ∧ Literal l := by
  simp [Literal]

@[simp] theorem literal_append {a b : List Char} : Literal (a ++ b) ↔ Literal a ∧ Literal b := by
  simp [Literal, or_imp, forall_and]

theorem literalChar_of_isDigit {x : Char} (h : x.isDigit = true) : literalChar x = true := by
  simp [literalChar, h]

/-- A reader that takes only characters of a decimal literal from the front of its input. -/
def ReadsLiteral {α : Type} (read : List Char → Option (α × List Char)) : Prop :=
  ∀ ⦃cs : List Char⦄ ⦃a : α⦄ ⦃rest : List Char⦄, read cs = some (a, rest) →
    ∃ pre, cs = pre ++ rest ∧ Literal pre

theorem readsLiteral_readDigits (acc : List Char) : ReadsLiteral (readDigits acc) := by
  intro cs ds rest h
  induction acc, cs using readDigits.induct generalizing ds rest with
  | case1 acc c cs hc ih =>
    rw [readDigits.eq_def] at h
    simp only [hc, if_true] at h
    obtain ⟨pre, rfl, hpre⟩ := ih h
    exact ⟨c :: pre, rfl, by simp [hpre, literalChar_of_isDigit hc]⟩
  | case2 acc c hc hu d cs hd ih =>
    simp only [readDigits, hc, hu, hd, if_true, if_false, Bool.false_eq_true] at h
    obtain ⟨pre, rfl, hpre⟩ := ih h
    have hc' : c = '_' := by simp at hu; exact hu.1
    subst hc'
    exact ⟨'_' :: d :: pre, rfl, by simp [hpre, literalChar_of_isDigit hd]; decide⟩
  | case3 acc c hc hu d cs hd => simp [readDigits, hc, hu, hd] at h
  | case4 acc c hc hu => simp [readDigits, hc, hu] at h
  | case5 acc c cs hc hu =>
    rw [readDigits.eq_def] at h
    simp only [hc, hu, if_false, Bool.false_eq_true, Option.some.injEq, Prod.mk.injEq] at h
    exact ⟨[], by rw [h.2]; rfl, literal_nil⟩
  | case6 acc =>
    simp only [readDigits, Option.some.injEq, Prod.mk.injEq] at h
    exact ⟨[], by rw [← h.2]; rfl, literal_nil⟩

theorem readsLiteral_fractionPart : ReadsLiteral fractionPart := by
  intro cs frac rest h
  unfold fractionPart at h
  split at h
  · next ds =>
    split at h
    · split_ifs at h
      · obtain ⟨pre, hds, hpre⟩ := readsLiteral_readDigits [] h
        exact ⟨'.' :: pre, by rw [hds]; rfl, by simp [hpre]; decide⟩
      · simp only [Option.some.injEq, Prod.mk.injEq] at h
        exact ⟨['.'], by rw [← h.2]; rfl, by simp; decide⟩
    · simp only [Option.some.injEq, Prod.mk.injEq] at h
      exact ⟨['.'], by rw [← h.2]; rfl, by simp; decide⟩
  · simp only [Option.some.injEq, Prod.mk.injEq] at h
    exact ⟨[], by rw [← h.2]; rfl, literal_nil⟩

/-- The sign in front of a literal is part of it. -/
theorem signed_literal (cs : List Char) : ∃ pre, cs = pre ++ (signed cs).2 ∧ Literal pre := by
  unfold signed
  split
  · exact ⟨['-'], rfl, by simp; decide⟩
  · exact ⟨['+'], rfl, by simp; decide⟩
  · exact ⟨[], rfl, literal_nil⟩

theorem readsLiteral_exponentPart : ReadsLiteral exponentPart := by
  intro cs ex rest h
  cases cs with
  | nil =>
    simp only [exponentPart, Option.some.injEq, Prod.mk.injEq] at h
    exact ⟨[], by rw [← h.2]; rfl, literal_nil⟩
  | cons e cs =>
    rw [exponentPart.eq_1] at h
    split_ifs at h with he
    · -- an exponent letter, a sign and digits
      obtain ⟨sign, hcs, hsign⟩ := signed_literal cs
      rcases hs : signed cs with ⟨neg, ds⟩
      rw [hs] at h hcs
      have hlit : literalChar e = true := by
        rcases Bool.or_eq_true_iff.1 he with he | he <;>
          (rw [beq_iff_eq] at he; subst he; decide)
      dsimp only at h
      split at h
      · split at h
        · split at h
          · next tail hdigits =>
            simp only [Option.some.injEq, Prod.mk.injEq] at h
            obtain ⟨pre, hds, hpre⟩ := readsLiteral_readDigits [] hdigits
            refine ⟨e :: sign ++ pre, ?_, by simp [hlit, hsign, hpre]⟩
            rw [← h.2, hcs, hds]
            simp
          · simp at h
        · simp at h
      · simp at h
    · simp only [Option.some.injEq, Prod.mk.injEq] at h
      exact ⟨[], by rw [← h.2]; rfl, literal_nil⟩

/-- Characters whose lower case spells a word of letters of a literal. -/
theorem literal_of_lower {cs : List Char} {w : String}
    (hw : String.ofList (cs.map Char.toLower) = w)
    (hletters : ∀ y ∈ w.toList, "aefinty".toList.contains y = true) : Literal cs := by
  intro x hx
  have hmem : x.toLower ∈ w.toList := by
    rw [← hw, String.toList_ofList]
    exact List.mem_map_of_mem hx
  simp only [literalChar, hletters _ hmem, Bool.or_true]

/-- A text that reads as a number is, stripped, made of the characters of a literal. -/
theorem parse_literal {s : String} {f : Float} (h : parse s = some f) :
    Literal (strip s).toList := by
  rw [toList_strip]
  unfold parse at h
  generalize ((s.toList.dropWhile isSpace).reverse.dropWhile isSpace).reverse = core at h ⊢
  obtain ⟨sign, hcore, hsign⟩ := signed_literal core
  rcases hs : signed core with ⟨neg, cs⟩
  rw [hs] at h hcore
  rw [hcore, literal_append]
  refine ⟨hsign, ?_⟩
  dsimp only at h
  split at h
  · next hinf =>
    rcases Bool.or_eq_true_iff.1 hinf with hw | hw <;>
      exact literal_of_lower (beq_iff_eq.1 hw) (by simp)
  split at h
  · next hnan => exact literal_of_lower (beq_iff_eq.1 hnan) (by simp)
  -- a number: its digits, fraction and exponent, and nothing after them
  split at h
  · simp at h
  next whole rest₁ hwhole =>
  split at h
  · simp at h
  next frac rest₂ hfrac =>
  split at h
  · simp at h
  split at h
  · simp at h
  next ex tail hexp =>
  split at h
  · simp at h
  next htail =>
  obtain ⟨p₁, rfl, hp₁⟩ := readsLiteral_readDigits [] hwhole
  obtain ⟨p₂, rfl, hp₂⟩ := readsLiteral_fractionPart hfrac
  obtain ⟨p₃, rfl, hp₃⟩ := readsLiteral_exponentPart hexp
  obtain rfl : tail = [] := by simpa using htail
  simp [hp₁, hp₂, hp₃]

/-- Texts with the same stripped form read alike. -/
theorem parse_congr_strip {s t : String} (h : strip s = strip t) : parse s = parse t := by
  unfold parse
  rw [← toList_strip, ← toList_strip, h]

/-- Whitespace around a text does not change how it reads. -/
theorem parse_pad {w₁ w₂ : List Char} (h₁ : AllSpace w₁) (h₂ : AllSpace w₂) (l : List Char) :
    parse (String.ofList (w₁ ++ l ++ w₂)) = parse (String.ofList l) :=
  parse_congr_strip (strip_pad h₁ h₂ l)

/-- Blank text does not read as a number. -/
theorem parse_allSpace {w : List Char} (hw : AllSpace w) : parse (String.ofList w) = none := by
  have hnil : AllSpace [] := by simp [AllSpace]
  have := parse_pad hw hnil []
  rw [List.append_nil, List.append_nil] at this
  rw [this]
  decide

/-- A text with a character that is neither whitespace nor one of a literal does not read as a
number. -/
theorem parse_of_mem {s : String} {x : Char} (hx : x ∈ s.toList) (hsp : isSpace x = false)
    (hlit : literalChar x = false) : parse s = none := by
  cases h : parse s with
  | none => rfl
  | some f => exact absurd (parse_literal h x (mem_strip hx hsp)) (by simp [hlit])

/-! ## Writing -/

/-- A character `repr` may write. -/
def reprChar (x : Char) : Bool := x.isDigit || ".+-aefin".toList.contains x

/-- Text made of characters `repr` may write. -/
def ReprText (s : String) : Prop := ∀ x ∈ s.toList, reprChar x = true

@[simp] theorem reprText_append {s t : String} :
    ReprText (s ++ t) ↔ ReprText s ∧ ReprText t := by
  simp [ReprText, or_imp, forall_and]

theorem reprText_ofList {l : List Char} (h : ∀ x ∈ l, reprChar x = true) :
    ReprText (String.ofList l) := by
  simpa [ReprText] using h

theorem reprText_take {s : String} (h : ReprText s) (n : Nat) : ReprText (Str.take s n) :=
  reprText_ofList fun x hx => h x (List.mem_of_mem_take hx)

theorem reprText_drop {s : String} (h : ReprText s) (n : Nat) : ReprText (Str.drop s n) :=
  reprText_ofList fun x hx => h x (List.mem_of_mem_drop hx)

theorem reprText_natRepr (n : Nat) : ReprText n.repr := by
  intro x hx
  rw [Nat.toList_repr] at hx
  simp [reprChar, Nat.isDigit_of_mem_toDigits (by decide) (by decide) hx]

theorem reprText_exponentText (e : Int) : ReprText (exponentText e) := by
  have hsign : ReprText (if e < 0 then "-" else "+") := by
    split <;> simp [ReprText, reprChar]
  have hzero : ReprText "0" := by simp [ReprText, reprChar]
  unfold exponentText
  dsimp only
  rw [reprText_append]
  refine ⟨hsign, ?_⟩
  split
  · exact reprText_append.2 ⟨hzero, reprText_natRepr _⟩
  · exact reprText_natRepr _

theorem reprText_layoutFixed {ds : String} (h : ReprText ds) (decpt : Int) (pointZero : Bool) :
    ReprText (layoutFixed ds decpt pointZero) := by
  have hzeros : ∀ n, ReprText (replicateChar n '0') := fun n =>
    reprText_ofList fun x hx => by rw [List.eq_of_mem_replicate hx]; decide
  have hpoint : ReprText "." := by simp [ReprText, reprChar]
  unfold layoutFixed
  split
  · simp only [reprText_append]
    exact ⟨⟨by simp [ReprText, reprChar], hzeros _⟩, h⟩
  · dsimp only
    split
    · simp only [reprText_append]
      refine ⟨⟨h, hzeros _⟩, ?_⟩
      split <;> simp [ReprText, reprChar]
    · simp only [reprText_append]
      exact ⟨⟨reprText_take h _, hpoint⟩, reprText_drop h _⟩

theorem reprText_layoutScientific {ds : String} (h : ReprText ds) (decpt : Int) :
    ReprText (layoutScientific ds decpt) := by
  unfold layoutScientific
  dsimp only
  simp only [reprText_append]
  refine ⟨⟨⟨reprText_take h _, ?_⟩, by simp [ReprText, reprChar]⟩, reprText_exponentText _⟩
  split
  · simp [ReprText]
  · exact reprText_append.2 ⟨by simp [ReprText, reprChar], reprText_drop h _⟩

/-- `repr` writes only digits, `.`, signs, `e` and the letters of `inf` and `nan`. -/
theorem reprText_repr (x : Float) : ReprText (repr x) := by
  unfold repr
  split
  · simp [ReprText, reprChar]
  · split <;> simp [ReprText, reprChar]
  · next p _ =>
    have hsign : ReprText (if p.negative then "-" else "") := by
      split <;> simp [ReprText, reprChar]
    have hds : ReprText (shortestDigits p).1 := reprText_natRepr _
    dsimp only
    generalize (if p.negative = true then "-" else "") = sign at hsign ⊢
    rcases hsd : shortestDigits p with ⟨ds, decpt⟩
    rw [hsd] at hds
    split_ifs
    · exact reprText_append.2 ⟨hsign, by simp [ReprText, reprChar]⟩
    · exact reprText_append.2 ⟨hsign, reprText_layoutScientific hds _⟩
    · exact reprText_append.2 ⟨hsign, reprText_layoutFixed hds _ _⟩

theorem isSpace_of_isDigit {x : Char} (h : x.isDigit = true) : isSpace x = false := by
  have hx : 48 ≤ x.toNat ∧ x.toNat ≤ 57 := by
    simp only [Char.isDigit, Bool.and_eq_true, decide_eq_true_eq, UInt32.le_iff_toNat_le] at h
    exact h
  have hne : ∀ d : Char, d.isDigit = false → x ≠ d := fun d hd he => by simp [he, hd] at h
  simp only [isSpace, hne ' ' rfl, hne '\t' rfl, hne '\n' rfl, hne '\r' rfl, beq_false_of_ne,
    ne_eq, not_false_eq_true, Bool.false_or]
  simp only [Bool.or_eq_false_iff, beq_eq_false_iff_ne, Bool.and_eq_false_iff,
    decide_eq_false_iff_not]
  omega

/-- No character `repr` writes is whitespace. -/
theorem isSpace_of_reprChar {x : Char} (h : reprChar x = true) : isSpace x = false := by
  rcases Bool.or_eq_true_iff.1 h with h | h
  · exact isSpace_of_isDigit h
  · have hx : x = '.' ∨ x = '+' ∨ x = '-' ∨ x = 'a' ∨ x = 'e' ∨ x = 'f' ∨ x = 'i' ∨ x = 'n' := by
      simpa using h
    rcases hx with rfl | rfl | rfl | rfl | rfl | rfl | rfl | rfl <;> decide

end FloatText
end RocketSim
