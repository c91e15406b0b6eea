/-!
# Binary64 values as exact integers

Every finite binary64 value is `m · 2^e` for a natural significand `m` and an integer
exponent `e`.  This module reads that pair out of the bit pattern and builds a value back
from an exact rational, rounding to nearest with ties to even, which is what IEEE 754 asks of
a decimal reader.  It also compares such values exactly with decimal numbers `k · 10^q`:
the shortest-digit printer and the fixed-precision printers are built on those comparisons,
so no step of printing or reading depends on floating-point arithmetic.
-/

namespace RocketSim

namespace Binary64

/-- A finite binary64 value: its sign, and `significand · 2^exponent` for its magnitude. -/
structure Parts where
  /-- The sign bit. -/
  negative : Bool
  /-- The integer significand, below `2^53`. -/
  significand : Nat
  /-- The exponent of the last significand bit. -/
  exponent : Int
  deriving Repr, BEq

/-- The three kinds of binary64 value. -/
inductive Kind where
  /-- A finite value, zero included. -/
  | finite (p : Parts)
  /-- An infinity of the given sign. -/
  | infinite (negative : Bool)
  /-- Not a number. -/
  | nan
  deriving Repr

/-- Reads the kind, sign, significand and exponent out of the bit pattern. -/
def classify (x : Float) : Kind :=
  let bits := x.toBits.toNat
  let neg := bits / Nat.pow 2 63 == 1
  let biased : Nat := (bits / Nat.pow 2 52) % 2048
  let frac : Nat := bits % Nat.pow 2 52
  if biased == 2047 then
    if frac == 0 then .infinite neg else .nan
  else if biased == 0 then .finite ⟨neg, frac, -1074⟩
  else .finite ⟨neg, frac + Nat.pow 2 52, (biased : Int) - 1075⟩

/-- The value with the given sign bit, biased exponent and fraction field. -/
def ofFields (negative : Bool) (biased frac : Nat) : Float :=
  Float.ofBits (UInt64.ofNat ((if negative then Nat.pow 2 63 else 0) + biased * Nat.pow 2 52 + frac))

/-- Positive infinity. -/
def inf : Float := ofFields false 2047 0

/-- A quiet NaN, the one arithmetic produces. -/
def nan : Float := ofFields false 2047 (Nat.pow 2 51)

/-- Number of binary digits of a natural number (zero has none). -/
def bitLength (n : Nat) : Nat := if n == 0 then 0 else n.log2 + 1

/-- Quotient of `num / den` rounded to nearest, ties to even. -/
def divRoundEven (num den : Nat) : Nat :=
  let q := num / den
  let r := num % den
  if 2 * r > den then q + 1
  else if 2 * r < den then q
  else if q % 2 == 0 then q else q + 1

/-- The binary64 value nearest to the positive rational `num / den` (ties to even), with
overflow to infinity and gradual underflow to the subnormals and zero. -/
def ofRatio (negative : Bool) (num den : Nat) : Float :=
  if num == 0 then ofFields negative 0 0 else
  -- `e` is the exponent of the last significand bit when the significand has 53 bits.
  let e : Int := (bitLength num : Int) - (bitLength den : Int) - 53
  let scaled (e : Int) : Nat × Nat :=
    (num * Nat.pow 2 (-e).toNat, den * Nat.pow 2 e.toNat)
  -- Correct `e` so that `num / (den · 2^e)` lies in `[2^52, 2^53)`.
  let e :=
    let (n, d) := scaled e
    if n / d ≥ Nat.pow 2 53 then e + 1 else if n / d < Nat.pow 2 52 then e - 1 else e
  let e := if e < -1074 then -1074 else e
  let (n, d) := scaled e
  let q := divRoundEven n d
  let (q, e) := if q == Nat.pow 2 53 then (Nat.pow 2 52, e + 1) else (q, e)
  if q < Nat.pow 2 52 then ofFields negative 0 q
  else if e + 1075 ≥ 2047 then ofFields negative 2047 0
  else ofFields negative (e + 1075).toNat (q - Nat.pow 2 52)

/-- Numerator and denominator of `v · 2^f / 10^q`. -/
def ratio (v : Nat) (f q : Int) : Nat × Nat :=
  (v * Nat.pow 2 f.toNat * Nat.pow 10 (-q).toNat, Nat.pow 2 (-f).toNat * Nat.pow 10 q.toNat)

/-- The decimal exponent `d` with `10^d ≤ n < 10^(d+1)`, for positive `n`: one less than its
number of decimal digits. -/
def natDecade (n : Nat) : Nat :=
  if n < 10 then 0 else natDecade (n / 10) + 1
termination_by n
decreasing_by omega

/-- The decimal exponent `d` with `10^d ≤ m · 2^e < 10^(d+1)`, for positive `m`: from the
integer part when the value is at least one, and otherwise from the least power of ten that
lifts it to one. -/
def decade (m : Nat) (e : Int) : Int :=
  let n := m * Nat.pow 2 e.toNat
  let den := Nat.pow 2 (-e).toNat
  if den ≤ n then natDecade (n / den) else -((natDecade ((den - 1) / n) : Int) + 1)

/-- Removes trailing zeros from `k · 10^q`, keeping its value. -/
def trimZeros (k : Nat) (q : Int) : Nat × Int :=
  let rec go (fuel : Nat) (k : Nat) (q : Int) : Nat × Int :=
    match fuel with
    | 0 => (k, q)
    | fuel + 1 => if k != 0 && k % 10 == 0 then go fuel (k / 10) (q + 1) else (k, q)
  go 40 k q

/-- The shortest decimal `k · 10^q` that reads back as the positive value `m · 2^e`,
nearest to it among the shortest.  `halfGapBelow` is set when the next value down is
only half as far as the next value up, which happens at a power of two. -/
def shortest (m : Nat) (e : Int) : Nat × Int :=
  let halfGapBelow := m == Nat.pow 2 52 && e > -1074
  let inclusive := m % 2 == 0
  let x4 := 4 * m
  let hi4 := 4 * m + 2
  let lo4 := if halfGapBelow then 4 * m - 1 else 4 * m - 2
  let f := e - 2
  let d := decade m e
  let rec search (fuel : Nat) (n : Nat) : Nat × Int :=
    let q : Int := d + 1 - n
    let (nl, dl) := ratio lo4 f q
    let (nh, dh) := ratio hi4 f q
    let (nx, dx) := ratio x4 f q
    let klo := if nl % dl == 0 then (if inclusive then nl / dl else nl / dl + 1) else nl / dl + 1
    let khi := if nh % dh == 0 then (if inclusive then nh / dh else nh / dh - 1) else nh / dh
    let near := divRoundEven nx dx
    match fuel with
    | 0 => trimZeros near q
    | fuel + 1 =>
      if klo ≤ khi then
        let k := if near < klo then klo else if near > khi then khi else near
        trimZeros k q
      else search fuel (n + 1)
  search 17 1

end Binary64
end RocketSim
