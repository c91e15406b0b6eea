import RocketSim.Numeric.FloatText

/-!
# Format specifications

The format-specification mini-language that the simulator's text output is written in:
`[[fill]align][sign][z][#][0][width][grouping][.precision][type]`, applied to binary64
values, integers and strings.  A specification is parsed once into `FormatSpec`; the three
`format…` functions then lay the value out and pad it to the width.  A specification that
does not fit the value (a precision on an integer, an unknown presentation type, a sign on
a string) is refused with `none`, which callers report as an invalid value.
-/

namespace RocketSim
namespace FormatSpec

/-- A parsed format specification. -/
structure Spec where
  /-- Padding character. -/
  fill : Char := ' '
  /-- One of `<`, `>`, `^`, `=`, when given. -/
  align : Option Char := none
  /-- One of `+`, `-`, space. -/
  sign : Char := '-'
  /-- Whether a negative zero is written without its sign. -/
  coerceZero : Bool := false
  /-- The alternate form (`#`). -/
  alternate : Bool := false
  /-- Minimum width of the whole field. -/
  width : Nat := 0
  /-- Thousands separator, `,` or `_`, when given. -/
  grouping : Option Char := none
  /-- Precision, when given. -/
  precision : Option Nat := none
  /-- Presentation type, when given. -/
  kind : Option Char := none
  deriving Repr

/-- Reads a run of decimal digits from the front of a character list. -/
def readNat (cs : List Char) : Option Nat × List Char :=
  let ds := cs.takeWhile Char.isDigit
  if ds.isEmpty then (none, cs) else (some (FloatText.natOfDigits ds), cs.drop ds.length)

/-- Whether a character is an alignment character. -/
def isAlign (c : Char) : Bool := c == '<' || c == '>' || c == '^' || c == '='

/-- Parses a format specification. -/
def parse (s : String) : Option Spec :=
  let cs := s.toList
  let (fill, align, cs) : Option Char × Option Char × List Char := match cs with
    | f :: a :: rest => if isAlign a then (some f, some a, rest)
      else if isAlign f then (none, some f, a :: rest) else (none, none, cs)
    | [a] => if isAlign a then (none, some a, []) else (none, none, cs)
    | [] => (none, none, [])
  let (sign, cs) := match cs with
    | c :: rest => if c == '+' || c == '-' || c == ' ' then (c, rest) else ('-', cs)
    | [] => ('-', [])
  let (coerceZero, cs) := match cs with
    | 'z' :: rest => (true, rest)
    | _ => (false, cs)
  let (alternate, cs) := match cs with
    | '#' :: rest => (true, rest)
    | _ => (false, cs)
  let (zero, cs) := match cs with
    | '0' :: rest => (true, rest)
    | _ => (false, cs)
  let (width, cs) := readNat cs
  let (grouping, cs) := match cs with
    | ',' :: rest => (some ',', rest)
    | '_' :: rest => (some '_', rest)
    | _ => (none, cs)
  let precision : Option (Option Nat × List Char) := match cs with
    | '.' :: rest =>
      match readNat rest with
      | (some p, rest') => some (some p, rest')
      | (none, _) => none
    | _ => some (none, cs)
  match precision with
  | none => none
  | some (precision, cs) =>
    let kind : Option (Option Char) := match cs with
      | [] => some none
      | [k] => some (some k)
      | _ => none
    match kind with
    | none => none
    | some kind =>
      let fill := match fill with
        | some f => f
        | none => if zero then '0' else ' '
      let align := match align with
        | some a => some a
        | none => if zero then some '=' else none
      some { fill, align, sign, coerceZero, alternate, width := width.getD 0, grouping,
             precision, kind }

/-- Inserts the separator `sep` between groups of three digits, from the right. -/
def groupDigits (digits : String) (sep : Char) : String :=
  let rec go (fuel : Nat) (cs : List Char) (acc : List Char) : List Char :=
    match fuel with
    | 0 => cs ++ acc
    | fuel + 1 =>
      if cs.length ≤ 3 then cs ++ acc
      else go fuel (cs.take (cs.length - 3)) (sep :: (cs.drop (cs.length - 3)) ++ acc)
  String.ofList (go digits.length digits.toList [])

/-- Applies digit grouping to the integer part of a formatted magnitude. -/
def groupBody (body : String) (grouping : Option Char) : String :=
  match grouping with
  | none => body
  | some sep =>
    let whole := String.ofList (body.toList.takeWhile Char.isDigit)
    if whole.isEmpty then body
    else groupDigits whole sep ++ Str.drop body whole.length

/-- Pads the sign and the body to the width of the specification; `defaultAlign` is the
alignment when the specification gives none. -/
def pad (spec : Spec) (sign body : String) (defaultAlign : Char) : String :=
  let len := sign.length + body.length
  if spec.width ≤ len then sign ++ body
  else
    let n := spec.width - len
    match spec.align.getD defaultAlign with
    | '<' => sign ++ body ++ Str.rep n spec.fill
    | '^' => Str.rep (n / 2) spec.fill ++ sign ++ body ++ Str.rep (n - n / 2) spec.fill
    | '=' => sign ++ Str.rep n spec.fill ++ body
    | _ => Str.rep n spec.fill ++ sign ++ body

/-- The sign text of a number for the specification. -/
def signText (spec : Spec) (negative : Bool) : String :=
  if negative then "-" else if spec.sign == '+' then "+" else if spec.sign == ' ' then " " else ""

/-- The magnitude of a binary64 value laid out for the specification, or `none` when the
presentation type does not apply to binary64 values. -/
def floatBody (spec : Spec) (x : Float) : Option (Bool × String) :=
  let upper := spec.kind == some 'F' || spec.kind == some 'E' || spec.kind == some 'G'
  let special (s : String) := if upper then Str.upper s else s
  let kindOk := match spec.kind with
    | none => true
    | some k => "eEfFgGn%".toList.contains k
  if !kindOk then none else
  match Binary64.classify x with
  | .nan => some (false, special "nan" ++ (if spec.kind == some '%' then "%" else ""))
  | .infinite neg => some (neg, special "inf" ++ (if spec.kind == some '%' then "%" else ""))
  | .finite p =>
    let alt := spec.alternate
    let body := match spec.kind with
      | some 'f' | some 'F' => FloatText.fixedMagnitude p (spec.precision.getD 6) alt
      | some 'e' | some 'E' => FloatText.scientificMagnitude p (spec.precision.getD 6) alt upper
      | some 'g' | some 'G' | some 'n' =>
        if p.significand == 0 then
          (if alt then "0." ++ Str.rep ((spec.precision.getD 6) - 1) '0' else "0")
        else FloatText.generalMagnitude p (spec.precision.getD 6) alt upper false
      | some '%' =>
        match Binary64.classify (x * 100.0) with
        | .finite q => FloatText.fixedMagnitude q (spec.precision.getD 6) alt ++ "%"
        | .infinite _ => "inf%"
        | .nan => "nan%"
      | _ =>
        match spec.precision with
        | none => FloatText.repr (if p.negative then -x else x)
        | some prec =>
          if p.significand == 0 then "0.0"
          else FloatText.generalMagnitude p prec alt upper true
    let neg := p.negative
    let neg := if spec.coerceZero && neg && body.toList.all (fun c => c == '0' || c == '.' || c == '%')
      then false else neg
    some (neg, groupBody body spec.grouping)

/-- A binary64 value formatted by the specification. -/
def formatFloatSpec (spec : Spec) (x : Float) : Option String :=
  match floatBody spec x with
  | none => none
  | some (neg, body) => some (pad spec (signText spec neg) body '>')

/-- Digits of a natural number in a base up to sixteen. -/
def natInBase (n : Nat) (base : Nat) (upper : Bool) : String :=
  let digitChar (d : Nat) : Char :=
    if d < 10 then Char.ofNat (48 + d) else Char.ofNat ((if upper then 55 else 87) + d)
  let rec go (fuel : Nat) (n : Nat) (acc : List Char) : List Char :=
    match fuel with
    | 0 => acc
    | fuel + 1 => if n < base then digitChar n :: acc else go fuel (n / base) (digitChar (n % base) :: acc)
  String.ofList (go (n + 1) n [])

/-- An integer formatted by the specification; the binary64 presentation types format
the integer's value as a binary64 value. -/
def formatIntSpec (spec : Spec) (n : Int) : Option String :=
  match spec.kind with
  | some k =>
    if "eEfFgG%".toList.contains k then formatFloatSpec spec (Float.ofInt n)
    else if spec.precision.isSome then none
    else
      let neg := n < 0
      let m := n.natAbs
      let body : Option String := match k with
        | 'd' | 'n' => some (toString m)
        | 'b' => some ((if spec.alternate then "0b" else "") ++ natInBase m 2 false)
        | 'o' => some ((if spec.alternate then "0o" else "") ++ natInBase m 8 false)
        | 'x' => some ((if spec.alternate then "0x" else "") ++ natInBase m 16 false)
        | 'X' => some ((if spec.alternate then "0X" else "") ++ natInBase m 16 true)
        | _ => none
      body.map fun b => pad spec (signText spec neg) (groupBody b spec.grouping) '>'
  | none =>
    if spec.precision.isSome then none
    else some (pad spec (signText spec (n < 0)) (groupBody (toString n.natAbs) spec.grouping) '>')

/-- A string formatted by the specification. -/
def formatStrSpec (spec : Spec) (s : String) : Option String :=
  if spec.sign != '-' || spec.align == some '=' || spec.alternate then none
  else match spec.kind with
    | none | some 's' =>
      let s := match spec.precision with
        | some p => Str.take s p
        | none => s
      some (pad spec "" s '<')
    | _ => none

/-- A binary64 value formatted by the text of a specification. -/
def formatFloat (x : Float) (spec : String) : Option String :=
  (parse spec).bind (formatFloatSpec · x)

/-- An integer formatted by the text of a specification. -/
def formatInt (n : Int) (spec : String) : Option String :=
  (parse spec).bind (formatIntSpec · n)

/-- A string formatted by the text of a specification. -/
def formatStr (s : String) (spec : String) : Option String :=
  (parse spec).bind (formatStrSpec · s)

end FormatSpec
end RocketSim
