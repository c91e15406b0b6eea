import RocketSim.Core.Fault
import RocketSim.Numeric.Binary64
import RocketSim.Motion.Vec3

/-!
# Numbers

The simulator computes with two kinds of number: exact integers and binary64 values.  An
operation on two integers stays exact (except true division), an operation with a binary64
operand converts the integer to the nearest binary64 value first.  This module gives the
operations whose binary64 meaning is not a single IEEE operation: the remainder and floor
quotient (whose sign follows the divisor), the power function with its overflow and
zero-division faults, and the conversions between the two kinds.
-/

namespace RocketSim

namespace Number

open Binary64

/-- The binary64 value nearest to an integer. -/
def intToFloat (n : Int) : Float :=
  if n.natAbs < Nat.pow 2 53 then Float.ofInt n else ofRatio (n < 0) n.natAbs 1

/-- Whether a binary64 value is finite. -/
def isFinite (x : Float) : Bool := !x.isNaN && !x.isInf

/-- The integer part of a finite binary64 value, rounded toward zero. -/
def truncToInt (x : Float) : Option Int :=
  match classify x with
  | .finite p =>
    let mag : Nat :=
      if p.exponent ≥ 0 then p.significand * Nat.pow 2 p.exponent.toNat
      else p.significand / Nat.pow 2 (-p.exponent).toNat
    some (if p.negative then -(mag : Int) else mag)
  | _ => none

/-- The exact remainder of `x / y` with the sign of `x` (C `fmod`), for finite `x` and
nonzero finite `y`. -/
def fmod (x y : Float) : Float :=
  match classify x, classify y with
  | .finite px, .finite py =>
    if py.significand == 0 then Binary64.nan
    else
      let e := min px.exponent py.exponent
      let a := px.significand * Nat.pow 2 (px.exponent - e).toNat
      let b := py.significand * Nat.pow 2 (py.exponent - e).toNat
      let r := a % b
      -- `r · 2^e` is exactly representable: it is below `|y|` and a multiple of its last bit.
      let (num, den) := if e ≥ 0 then (r * Nat.pow 2 e.toNat, 1) else (r, Nat.pow 2 (-e).toNat)
      ofRatio px.negative num den
  | .finite _, .infinite _ => x
  | _, _ => Binary64.nan

/-- The sign of a binary64 value, zero and NaN included, as a bit. -/
def signBit (x : Float) : Bool := x.toBits.toNat / Nat.pow 2 63 == 1

/-- `|x|` with the sign of `y`. -/
def copySign (x y : Float) : Float :=
  let a := Float.abs x
  if signBit y then -a else a

/-- The remainder with the sign of the divisor; fails on a zero divisor. -/
def floatMod (x y : Float) : Outcome Float :=
  if y == 0.0 then throw Fault.zeroDivision
  else
    let m := fmod x y
    if m != 0.0 then
      pure (if (y < 0.0) != (m < 0.0) then m + y else m)
    else pure (copySign 0.0 y)

/-- The quotient rounded toward negative infinity, as a binary64 value; fails on a zero
divisor. -/
def floatFloorDiv (x y : Float) : Outcome Float :=
  if y == 0.0 then throw Fault.zeroDivision
  else
    let m := fmod x y
    let div := (x - m) / y
    let div := if m != 0.0 && ((y < 0.0) != (m < 0.0)) then div - 1.0 else div
    if div != 0.0 then
      let fl := Float.floor div
      pure (if div - fl > 0.5 then fl + 1.0 else fl)
    else pure (copySign 0.0 (x / y))

/-- Whether a finite binary64 value is an integer. -/
def isIntegral (x : Float) : Bool := isFinite x && Float.floor x == x

/-- `x ^ y` for binary64 values: zero to a negative power fails with a zero division, a
finite result that overflows fails with an overflow, and a negative base with a
non-integral exponent has no binary64 value. -/
def floatPow (x y : Float) : Outcome Float :=
  if x == 0.0 && y < 0.0 && isFinite y then throw Fault.zeroDivision
  else if x < 0.0 && isFinite x && isFinite y && !isIntegral y then throw Fault.badValue
  else
    let r := Float.pow x y
    if isFinite x && isFinite y && r.isInf then throw (Fault.bare .overflowError)
    else pure r

/-- Integer floor division; fails on a zero divisor. -/
def intFloorDiv (a b : Int) : Outcome Int :=
  if b == 0 then throw Fault.zeroDivision else pure (Int.fdiv a b)

/-- Integer remainder with the sign of the divisor; fails on a zero divisor. -/
def intMod (a b : Int) : Outcome Int :=
  if b == 0 then throw Fault.zeroDivision else pure (Int.fmod a b)

/-- True division of integers, correctly rounded; fails on a zero divisor. -/
def intTrueDiv (a b : Int) : Outcome Float :=
  if b == 0 then throw Fault.zeroDivision
  else if a == 0 then pure (if b < 0 then -0.0 else 0.0)
  else pure (ofRatio ((a < 0) != (b < 0)) a.natAbs b.natAbs)

/-- Rounds half to even, as a binary64 value. -/
def roundHalfEven (x : Float) : Float :=
  let f := Float.floor x
  let d := x - f
  if d > 0.5 then f + 1.0
  else if d < 0.5 then f
  else if fmod f 2.0 == 0.0 then f else f + 1.0

section Angles

variable {α : Type} [Scalar α]

/-- Conversion from radians to degrees. -/
def degrees (x : α) : α := x * (180.0 / Scalar.pi)

/-- Conversion from degrees to radians. -/
def radians (x : α) : α := x * (Scalar.pi / 180.0)

end Angles

end Number
end RocketSim
