import RocketSim.Numeric.Binary64

/-!
# Exact values of binary64 numbers

Every finite binary64 number is a rational number.  Sums and means that must be exact
before a single final rounding are computed on those rationals and rounded back once, to
nearest with ties to even.

Every binary64 number but NaN is a point of the extended rational line, where numbers of
every kind are compared exactly, as IEEE comparison and Python's comparison of integers with
floats both do.
-/

namespace RocketSim
namespace Binary64

/-- The exact rational value of a finite binary64 number; none for infinities and NaN. -/
def toRat? (x : Float) : Option Rat :=
  match classify x with
  | .finite p =>
    let m : Rat := if p.negative then -(p.significand : Rat) else (p.significand : Rat)
    if p.exponent ≥ 0 then some (m * (Nat.pow 2 p.exponent.toNat : Rat))
    else some (m / (Nat.pow 2 (-p.exponent).toNat : Rat))
  | _ => none

/-- A point of the rational line extended by its two infinities. -/
inductive Extended where
  /-- Negative infinity. -/
  | negInf
  /-- A rational number. -/
  | finite (q : Rat)
  /-- Positive infinity. -/
  | posInf
  deriving DecidableEq, Repr

/-- The order of the extended line. -/
def Extended.compare : Extended → Extended → Ordering
  | .negInf, .negInf => .eq
  | .negInf, _ => .lt
  | _, .negInf => .gt
  | .posInf, .posInf => .eq
  | .posInf, _ => .gt
  | _, .posInf => .lt
  | .finite p, .finite q => if p < q then .lt else if p = q then .eq else .gt

/-- The exact place of a binary64 number on the extended line; none for NaN. -/
def extended? (x : Float) : Option Extended :=
  match classify x with
  | .infinite negative => some (if negative then .negInf else .posInf)
  | .nan => none
  | .finite _ => (toRat? x).map .finite

/-- The binary64 number nearest to a rational (ties to even). -/
def ofRat (q : Rat) : Float :=
  ofRatio (q.num < 0) q.num.natAbs q.den

end Binary64
end RocketSim
