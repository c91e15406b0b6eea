import RocketSim.Numeric.Binary64
import RocketSim.Text.Str

/-!
# Binary64 values as text

Printing and reading of binary64 values, to the letter of the simulator's text formats:

* `repr` gives the shortest decimal that reads back as the same value, written in fixed
  notation for decimal exponents from `-4` to `15` and in scientific notation otherwise,
  always with a fractional part or an exponent (`1.0`, `1e+16`, `5e-324`);
* `fixed`, `scientific` and `general` round the exact value to a number of digits, ties to
  even, as the `f`, `e` and `g` presentation types do;
* `parse` reads a decimal literal (with an optional sign, `_` between digits, and the words
  `inf`, `infinity` and `nan` in any case) and rounds it correctly.

All digit work is done on exact naturals (`Binary64`), so the text depends on the bits of
the value and on nothing else.
-/

namespace RocketSim

namespace FloatText

open Binary64

/-- `n` copies of the character `c`. -/
def replicateChar (n : Nat) (c : Char) : String := Str.rep n c

/-- The exponent field of scientific notation: a sign and at least two digits. -/
def exponentText (e : Int) : String :=
  let sign := if e < 0 then "-" else "+"
  let digits := toString e.natAbs
  sign ++ (if digits.length < 2 then "0" ++ digits else digits)

/-- Fixed-notation layout of the digits `ds` with the decimal point after `decpt` of them
(`decpt` may be negative or beyond the digits); `pointZero` writes `.0` after an integer. -/
def layoutFixed (ds : String) (decpt : Int) (pointZero : Bool) : String :=
  if decpt ≤ 0 then "0." ++ replicateChar decpt.natAbs '0' ++ ds
  else
    let p := decpt.toNat
    if p ≥ ds.length then
      ds ++ replicateChar (p - ds.length) '0' ++ (if pointZero then ".0" else "")
    else Str.take ds p ++ "." ++ Str.drop ds p

/-- Scientific layout of the digits `ds` for the value `0.ds × 10^decpt`. -/
def layoutScientific (ds : String) (decpt : Int) : String :=
  let first := Str.take ds 1
  let rest := Str.drop ds 1
  first ++ (if rest.isEmpty then "" else "." ++ rest) ++ "e" ++ exponentText (decpt - 1)

/-- Shortest round-trip digits of a positive finite value, with the decimal point after
`decpt` of them. -/
def shortestDigits (p : Parts) : String × Int :=
  let (k, q) := shortest p.significand p.exponent
  let ds := toString k
  (ds, q + ds.length)

/-- The shortest text that reads back as `x`. -/
def repr (x : Float) : String :=
  match classify x with
  | .nan => "nan"
  | .infinite neg => if neg then "-inf" else "inf"
  | .finite p =>
    let sign := if p.negative then "-" else ""
    if p.significand == 0 then sign ++ "0.0"
    else
      let (ds, decpt) := shortestDigits p
      if decpt < -3 || decpt > 16 then sign ++ layoutScientific ds decpt
      else sign ++ layoutFixed ds decpt true

/-- The digits of `|x|` rounded to `prec` places after the point, ties to even, as a
natural number: `|x| · 10^prec` rounded. -/
def roundedScaled (p : Parts) (prec : Nat) : Nat :=
  let (n, d) := ratio p.significand p.exponent (-(prec : Int))
  divRoundEven n d

/-- Fixed notation of a finite magnitude with `prec` digits after the point; `alternate`
keeps the point when `prec` is zero. -/
def fixedMagnitude (p : Parts) (prec : Nat) (alternate : Bool) : String :=
  let s := toString (roundedScaled p prec)
  let s := if s.length ≤ prec then replicateChar (prec + 1 - s.length) '0' ++ s else s
  let whole := Str.take s (s.length - prec)
  let frac := Str.drop s (s.length - prec)
  if prec == 0 then (if alternate then whole ++ "." else whole) else whole ++ "." ++ frac

/-- The `prec + 1` significant digits of a finite magnitude, rounded ties to even, and the
decimal exponent of the first of them. -/
def significantDigits (p : Parts) (prec : Nat) : String × Int :=
  if p.significand == 0 then (replicateChar (prec + 1) '0', 0)
  else
    let d := decade p.significand p.exponent
    let q := d - prec
    let (n, den) := ratio p.significand p.exponent q
    let k := divRoundEven n den
    if k ≥ Nat.pow 10 (prec + 1) then (toString (k / 10), d + 1) else (toString k, d)

/-- Scientific notation of a finite magnitude with `prec` digits after the point. -/
def scientificMagnitude (p : Parts) (prec : Nat) (alternate : Bool) (upper : Bool) : String :=
  let (ds, x) := significantDigits p prec
  let first := Str.take ds 1
  let rest := Str.drop ds 1
  let mant := if prec == 0 then (if alternate then first ++ "." else first) else first ++ "." ++ rest
  mant ++ (if upper then "E" else "e") ++ exponentText x

/-- Drops trailing zeros of a fractional part, and the point when nothing is left. -/
def trimFraction (s : String) : String :=
  if Str.hasChar s '.' then
    let t := Str.dropRightWhile s (· == '0')
    if Str.endsWith t "." then Str.dropRight t 1 else t
  else s

/-- General notation (`g`) of a finite magnitude with `prec` significant digits.
`pointZero` is the variant without a presentation type: fixed notation keeps one digit
after the point and scientific notation starts one exponent earlier. -/
def generalMagnitude (p : Parts) (prec : Nat) (alternate upper pointZero : Bool) : String :=
  let prec := if prec == 0 then 1 else prec
  let (ds, x) := significantDigits p (prec - 1)
  let limit : Int := if pointZero then (prec : Int) - 1 else prec
  if x < -4 || x ≥ limit then
    let first := Str.take ds 1
    let rest := Str.drop ds 1
    let rest := if alternate then rest else Str.dropRightWhile rest (· == '0')
    let mant := if rest.isEmpty then (if alternate then first ++ "." else first)
      else first ++ "." ++ rest
    mant ++ (if upper then "E" else "e") ++ exponentText x
  else
    let body := layoutFixed ds (x + 1) false
    let body := if alternate then body else trimFraction body
    if pointZero && !Str.hasChar body '.' then body ++ ".0" else body

/-- The value of one decimal digit character. -/
def digitValue (c : Char) : Nat := c.toNat - '0'.toNat

/-- Reads `digit ('_'? digit)*` from the front of the characters: the digits read, and
what follows.  A `_` must stand between two digits. -/
def readDigits : List Char → List Char → Option (List Char × List Char)
  | acc, c :: rest =>
    if c.isDigit then readDigits (acc ++ [c]) rest
    else if c == '_' && !acc.isEmpty then
      match rest with
      | d :: rest' => if d.isDigit then readDigits (acc ++ [d]) rest' else none
      | [] => none
    else some (acc, c :: rest)
  | acc, [] => some (acc, [])

/-- The natural number written by a list of decimal digits. -/
def natOfDigits (ds : List Char) : Nat := ds.foldl (fun n c => 10 * n + digitValue c) 0

/-- An optional sign in front of a literal: whether it is `-`, and the characters after it. -/
def signed : List Char → Bool × List Char
  | '-' :: rest => (true, rest)
  | '+' :: rest => (false, rest)
  | cs => (false, cs)

/-- Reads an optional fraction `.digits` from the front of the characters: its digits (none
after a bare point), and what follows. -/
def fractionPart : List Char → Option (List Char × List Char)
  | '.' :: rest =>
    match rest with
    | d :: _ => if d.isDigit then readDigits [] rest else some ([], rest)
    | [] => some ([], [])
  | cs => some ([], cs)

/-- Reads an optional exponent `e`, a sign and digits from the front of the characters: its
value (zero when there is none), and what follows. -/
def exponentPart : List Char → Option (Int × List Char)
  | e :: rest =>
    if e == 'e' || e == 'E' then
      let (neg, rest) := signed rest
      match rest with
      | d :: _ =>
        if d.isDigit then
          match readDigits [] rest with
          | some (ds, tail) =>
            let v : Int := natOfDigits ds
            some (if neg then -v else v, tail)
          | none => none
        else none
      | [] => none
    else some (0, e :: rest)
  | [] => some (0, [])

/-- Reads a decimal literal: an optional sign, then `inf`, `infinity` or `nan` in any case,
or digits with an optional fraction and exponent; surrounding whitespace is allowed.  The
value is the correctly rounded binary64 value of the literal. -/
def parse (s : String) : Option Float :=
  let (neg, cs) := signed ((s.toList.dropWhile Str.isSpace).reverse.dropWhile Str.isSpace).reverse
  let word := String.ofList (cs.map Char.toLower)
  if word == "inf" || word == "infinity" then
    some (if neg then -Binary64.inf else Binary64.inf)
  else if word == "nan" then some Binary64.nan
  else
    match readDigits [] cs with
    | none => none
    | some (whole, rest) =>
      match fractionPart rest with
      | none => none
      | some (frac, rest) =>
        if whole.isEmpty && frac.isEmpty then none else
        match exponentPart rest with
        | none => none
        | some (ex, tail) =>
          if !tail.isEmpty then none else
          let mant := natOfDigits (whole ++ frac)
          let q : Int := ex - frac.length
          let digits : Int := (whole ++ frac).length
          if mant == 0 then some (if neg then -0.0 else 0.0)
          else if q + digits > 400 then some (if neg then -Binary64.inf else Binary64.inf)
          else if q + digits < -400 then some (if neg then -0.0 else 0.0)
          else some (ofRatio neg (mant * Nat.pow 10 q.toNat) (Nat.pow 10 (-q).toNat))

/-- Reads an integer literal: an optional sign and decimal digits, a single `_` allowed
between two digits, with surrounding whitespace allowed. -/
def parseInt (s : String) : Option Int :=
  let (neg, cs) := signed ((s.toList.dropWhile Str.isSpace).reverse.dropWhile Str.isSpace).reverse
  match readDigits [] cs with
  | some (ds, []) =>
    if ds.isEmpty then none
    else let n : Int := natOfDigits ds; some (if neg then -n else n)
  | _ => none

end FloatText
end RocketSim
