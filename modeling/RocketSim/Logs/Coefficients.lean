import RocketSim.Core.Fault
import RocketSim.Numeric.FloatText
import RocketSim.Text.Str

/-!
# Aerodynamic coefficients of a force log

At the highest logging level the force log of a flight is read back as a table of numbers
and widened by columns computed from it: the air velocity (the body's velocity less the
wind), its square, length and direction, the dynamic pressure `q = ρ v² / 2`, the constant
`q A` that makes a force dimensionless, a coefficient for every force column (`F / (q A)`)
and moment column (`M / (q A L)`), and the drag, lift and normal forces with their
coefficients.  The widened table is written back as CSV text.

Reading goes through a table reader that is not correctly rounded: it accumulates at most
seventeen significant digits one by one in binary64 arithmetic and then scales by a binary64
power of ten, so the numbers read back may differ from those written in the last bit.
Written numbers take their shortest round-trip form; a missing number is an empty field.
-/

namespace RocketSim

namespace Coefficients

/-- The binary64 number nearest to `10^k`. -/
def powerOfTen (k : Nat) : Float := Binary64.ofRatio false (Nat.pow 10 k) 1

/-- Accumulates the digits before the decimal point: while fewer than seventeen digits are
held, `x·10 + d` in binary64 arithmetic; further digits only raise the exponent.  Returns the
number, the digits held, the exponent and what follows. -/
def wholeDigits : List Char → Float → Nat → Int → Float × Nat × Int × List Char
  | c :: rest, x, n, e =>
    if c.isDigit then
      if n < 17 then wholeDigits rest (x * 10.0 + (FloatText.digitValue c).toFloat) (n + 1) e
      else wholeDigits rest x n (e + 1)
    else (x, n, e, c :: rest)
  | [], x, n, e => (x, n, e, [])

/-- Accumulates the digits after the decimal point while fewer than seventeen digits are
held, skipping any further ones.  Returns the number, the digits held, the digits taken
after the point and what follows. -/
def fractionDigits : List Char → Float → Nat → Nat → Float × Nat × Nat × List Char
  | c :: rest, x, n, k =>
    if c.isDigit then
      if n < 17 then
        fractionDigits rest (x * 10.0 + (FloatText.digitValue c).toFloat) (n + 1) (k + 1)
      else fractionDigits rest x n k
    else (x, n, k, c :: rest)
  | [], x, n, k => (x, n, k, [])

/-- Reads at most seventeen exponent digits. -/
def exponentDigits : List Char → Nat → Nat → Nat × Nat × List Char
  | c :: rest, v, n =>
    if c.isDigit && n < 17 then exponentDigits rest (v * 10 + FloatText.digitValue c) (n + 1)
    else (v, n, c :: rest)
  | [], v, n => (v, n, [])

/-- Scales an accumulated integer by `10^e`: multiplied for a positive exponent, divided
otherwise, in two divisions below `10^-308` and to zero below `10^-616`; infinite above
`10^308`. -/
def scale (x : Float) (e : Int) : Float :=
  if e > 308 then (if x < 0.0 then -Binary64.inf else Binary64.inf)
  else if e > 0 then x * powerOfTen e.toNat
  else if e < -308 then
    if e < -616 then 0.0 else x / powerOfTen (-308 - e).toNat / powerOfTen 308
  else x / powerOfTen (-e).toNat

/-- Reads a number as the table reader does; none when the text is not a whole number. -/
def readScaled (s : String) : Option Float :=
  let cs := (s.toList.dropWhile Str.isSpace)
  let (negative, cs) := match cs with
    | '-' :: rest => (true, rest)
    | '+' :: rest => (false, rest)
    | _ => (false, cs)
  let (x, n, e, rest) := wholeDigits cs 0.0 0 0
  let (x, n, e, rest) := match rest with
    | '.' :: after =>
      let (x, n, k, rest) := fractionDigits after x n 0
      (x, n, e - k, rest)
    | _ => (x, n, e, rest)
  if n == 0 then none else
  let x := if negative then -x else x
  let (e, rest) := match rest with
    | c :: after =>
      if c == 'e' || c == 'E' then
        let (eneg, digits) := match after with
          | '-' :: r => (true, r)
          | '+' :: r => (false, r)
          | r => (false, r)
        let (v, k, tail) := exponentDigits digits 0 0
        if k == 0 then (e, c :: after)
        else (if eneg then e - v else e + v, tail)
      else (e, c :: after)
    | [] => (e, [])
  if (rest.dropWhile Str.isSpace).isEmpty then some (scale x e) else none

/-- The texts the table reader takes for a missing number. -/
def missingTexts : List String :=
  ["", "-1.#IND", "1.#QNAN", "1.#IND", "-1.#QNAN", "#N/A N/A", "#N/A", "N/A", "n/a", "NA",
   "<NA>", "#NA", "NULL", "null", "NaN", "-NaN", "nan", "-nan", "None"]

/-- A field of the table as a number: missing texts are NaN, infinities are read by name,
and anything else that is not a number is an error. -/
def readField (s : String) : Outcome Float :=
  if missingTexts.contains s then pure Binary64.nan
  else match readScaled s with
    | some x => pure x
    | none =>
      let word := String.ofList (s.toList.map Char.toLower)
      if word == "inf" || word == "+inf" || word == "infinity" || word == "+infinity" then
        pure Binary64.inf
      else if word == "-inf" || word == "-infinity" then pure (-Binary64.inf)
      else throw (Fault.raise .valueError ("could not convert string to float: '" ++ s ++ "'"))

/-- A table of number columns, in order. -/
abbrev Table := List (String × List Float)

/-- A column by name. -/
def column (t : Table) (name : String) : Outcome (List Float) :=
  match t.find? (·.1 == name) with
  | some (_, xs) => pure xs
  | none => throw (Fault.missingKey name)

/-- Sets a column: replaced in place when present, added at the end otherwise. -/
def setColumn (t : Table) (name : String) (xs : List Float) : Table :=
  if t.any (·.1 == name) then t.map fun (k, ys) => if k == name then (k, xs) else (k, ys)
  else t ++ [(name, xs)]

/-- Two columns combined row by row. -/
def combine (f : Float → Float → Float) (xs ys : List Float) : List Float :=
  (xs.zip ys).map fun (x, y) => f x y

/-- The table of CSV text: a header of names and rows of numbers. -/
def read (text : String) : Outcome Table := do
  let lines := (Str.splitOn text "\n").filter (· != "")
  match lines with
  | [] => throw (Fault.raise .valueError "No columns to parse from file")
  | header :: rows =>
    let names := Str.splitOn header ","
    let values ← rows.mapM fun row => (Str.splitOn row ",").mapM readField
    pure (names.zipIdx.map fun (name, i) => (name, values.map fun r => r.getD i Binary64.nan))

/-- The name of the coefficient of a force column (`…FX(N)` becomes `…CFX`) or moment column
(`…MX(Nm)` becomes `…CMX`), with whether it is a moment; none for other columns. -/
def coefficientName (name : String) : Option (String × Bool) :=
  if Str.containsStr name "(N)" then
    let axis := String.ofList [(name.toList.reverse.drop 3).headD ' ']
    some (Str.replace name ("F" ++ axis ++ "(N)") ("CF" ++ axis), false)
  else if Str.containsStr name "(Nm)" then
    let axis := String.ofList [(name.toList.reverse.drop 4).headD ' ']
    some (Str.replace name ("M" ++ axis ++ "(Nm)") ("CM" ++ axis), true)
  else none

/-- The table widened by the air velocity, dynamic pressure and coefficient columns, for a
reference area and a reference length. -/
def widen (t : Table) (refArea refLength : Float) : Outcome Table := do
  let mut t := t
  for axis in ["X", "Y", "Z"] do
    t := setColumn t ("AirVel" ++ axis ++ "(m/s)") (combine (· - ·)
      (← column t ("Velocity" ++ axis ++ "(m/s)")) (← column t ("Wind" ++ axis ++ "(m/s)")))
  let vx ← column t "AirVelX(m/s)"
  let vy ← column t "AirVelY(m/s)"
  let vz ← column t "AirVelZ(m/s)"
  let squared := combine (· + ·) (combine (· + ·) (vx.map fun v => v * v) (vy.map fun v => v * v))
    (vz.map fun v => v * v)
  t := setColumn t "AirVel^2" squared
  let speed := squared.map Float.sqrt
  t := setColumn t "AirVelMag" speed
  t := setColumn t "AirVelUnitX" (combine (· / ·) vx speed)
  t := setColumn t "AirVelUnitY" (combine (· / ·) vy speed)
  t := setColumn t "AirVelUnitZ" (combine (· / ·) vz speed)
  let dynamic := (combine (· * ·) squared (← column t "AirDensity(kg/m^3)")).map (· * 0.5)
  t := setColumn t "DynamicP(Pa)" dynamic
  let qA := dynamic.map (· * refArea)
  t := setColumn t "nonDimConstant" qA
  for (name, xs) in t do
    match coefficientName name with
    | some (coefficient, false) => t := setColumn t coefficient (combine (· / ·) xs qA)
    | some (coefficient, true) =>
      t := setColumn t coefficient (combine (· / ·) xs (qA.map (· * refLength)))
    | none => pure ()
  let fx ← column t "AeroFX(N)"
  let fy ← column t "AeroFY(N)"
  let fz ← column t "AeroFZ(N)"
  let ux ← column t "AirVelUnitX"
  let uy ← column t "AirVelUnitY"
  let uz ← column t "AirVelUnitZ"
  let drag := combine (· + ·) (combine (· + ·) (combine (· * ·) fx ux) (combine (· * ·) fy uy))
    (combine (· * ·) fz uz)
  t := setColumn t "dragForce" drag
  t := setColumn t "Cd" (combine (· / ·) (drag.map (-·)) qA)
  let fxx := fx.map fun v => v * v
  let fyy := fy.map fun v => v * v
  let total := combine (· + ·) (combine (· + ·) fxx fyy) (fz.map fun v => v * v)
  let lift := (combine (· - ·) total (drag.map fun v => v * v)).map Float.sqrt
  t := setColumn t "liftForce" lift
  t := setColumn t "Cl" (combine (· / ·) lift qA)
  let normal := (combine (· + ·) fxx fyy).map Float.sqrt
  t := setColumn t "normalForce" normal
  t := setColumn t "CN" (combine (· / ·) normal qA)
  pure t

/-- A number as a CSV field: its shortest round-trip text, nothing for NaN. -/
def field (x : Float) : String := if x.isNaN then "" else FloatText.repr x

/-- The CSV text of a table. -/
def write (t : Table) : String :=
  let n := (t.map (·.2.length)).foldl max 0
  let header := ",".intercalate (t.map (·.1))
  let rows := (List.range n).map fun i => ",".intercalate (t.map fun (_, xs) => field (xs.getD i 0.0))
  String.join ((header :: rows).map (· ++ "\n"))

/-- The widened CSV text of a force log's CSV text. -/
def expand (text : String) (refArea refLength : Float) : Outcome String := do
  pure (write (← widen (← read text) refArea refLength))

end Coefficients
end RocketSim
