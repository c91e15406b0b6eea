import Mathlib
import RocketSim.Core.Ops

/-!
# The exact order of numbers

Numbers of every kind (integers, booleans, binary64 values) are compared by their exact
places on the rational line extended by its two infinities (`Arith.exactValue?`), and NaN has
no place.  The extended line sits inside the extended reals in order (`Extended.rank`), so
`Arith.compareNumbers` is the comparison of a linear order on the numbers that are not NaN:
`≤` between numbers (`Arith.atMost`) is transitive, and a number is not below another exactly
when it is at least as large.
-/

namespace RocketSim

namespace Binary64
namespace Extended

/-- The exact value on the extended real line. -/
noncomputable def rank : Extended → EReal
  | negInf => ⊥
  | finite q => ((q : ℝ) : EReal)
  | posInf => ⊤

/-- Comparison on the extended line is comparison of the exact values (`Ord.compare`, as this
namespace's `compare` is the line's own). -/
theorem compare_eq_compare_rank (x y : Extended) : x.compare y = Ord.compare x.rank y.rank := by
  rw [LinearOrder.compare_eq_compareOfLessAndEq]
  cases x <;> cases y <;> simp [Extended.compare, rank, compareOfLessAndEq]

end Extended
end Binary64

namespace Arith

open Binary64

theorem compareNumbers_of_exact {a b : Value} {x y : Extended} (ha : exactValue? a = some x)
    (hb : exactValue? b = some y) : compareNumbers a b = some (compare x.rank y.rank) := by
  simp [compareNumbers, ha, hb, Extended.compare_eq_compare_rank]

theorem compareNumbers_of_none_left {a : Value} (ha : exactValue? a = none) (b : Value) :
    compareNumbers a b = none := by
  simp [compareNumbers, ha]

/-- `a ≤ b` between numbers as the program compares them, exactly: false when a NaN or a value
that is no number takes part. -/
def atMost (a b : Value) : Bool := (compareNumbers a b).any (· != .gt)

theorem atMost_iff {a b : Value} :
    atMost a b ↔ ∃ x y, exactValue? a = some x ∧ exactValue? b = some y ∧ x.rank ≤ y.rank := by
  unfold atMost
  cases ha : exactValue? a with
  | none => simp [compareNumbers_of_none_left ha]
  | some x =>
    cases hb : exactValue? b with
    | none => simp [compareNumbers, ha, hb]
    | some y =>
      simp only [compareNumbers_of_exact ha hb, Option.any_some, bne_iff_ne, ne_eq,
        compare_gt_iff_gt, not_lt, Option.some.injEq, exists_and_left, exists_eq_left']

/-- A value is at most itself exactly when it is a number that is not NaN. -/
theorem atMost_self_iff {a : Value} : atMost a a ↔ (exactValue? a).isSome := by
  rw [atMost_iff]
  cases exactValue? a <;> simp

theorem atMost_trans {a b c : Value} (hab : atMost a b) (hbc : atMost b c) : atMost a c := by
  obtain ⟨x, y, hx, hy, hxy⟩ := atMost_iff.mp hab
  obtain ⟨y', z, hy', hz, hyz⟩ := atMost_iff.mp hbc
  rw [hy] at hy'
  cases hy'
  exact atMost_iff.mpr ⟨x, z, hx, hz, hxy.trans hyz⟩

/-- Between numbers that are not NaN, `a` is not below `b` exactly when `b ≤ a`. -/
theorem not_lt_iff_atMost {a b : Value} (ha : atMost a a) (hb : atMost b b) :
    compareNumbers a b ≠ some .lt ↔ atMost b a := by
  obtain ⟨x, hx⟩ := Option.isSome_iff_exists.mp (atMost_self_iff.mp ha)
  obtain ⟨y, hy⟩ := Option.isSome_iff_exists.mp (atMost_self_iff.mp hb)
  rw [compareNumbers_of_exact hx hy, atMost_iff]
  simp [hx, hy, compare_lt_iff_lt]

/-- A value with an exact place is a number. -/
theorem isNumber_of_atMost_self {a : Value} (h : atMost a a) : a.isNumber = true := by
  obtain ⟨x, hx⟩ := Option.isSome_iff_exists.mp (atMost_self_iff.mp h)
  cases a <;> simp_all [exactValue?, Value.toInt?, Value.toFloat?, Value.isNumber]

end Arith

/-- Between numbers that are not NaN, `Ops.lt` gives the exact comparison. -/
theorem Ops.lt_of_numbers {a b : Value} (ha : Arith.atMost a a) (hb : Arith.atMost b b) :
    Ops.lt a b = pure (Arith.compareNumbers a b == some .lt) := by
  simp [Ops.lt, Arith.isNumber_of_atMost_self ha, Arith.isNumber_of_atMost_self hb]

end RocketSim
