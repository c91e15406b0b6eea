import RocketSim.Numeric.FloatText

/-!
# JSON

The request and answer format of the simulator's command interface.  Numbers keep the
distinction the requests make: a literal without fraction or exponent is an integer, any
other literal is a binary64 number, read with correct rounding.  Answers print binary64
numbers with their shortest round-trip text.
-/

namespace RocketSim


/-- A JSON document. -/
inductive Json where
  | null
  | bool (b : Bool)
  | int (n : Int)
  | num (x : Float)
  | str (s : String)
  | arr (xs : List Json)
  | obj (kvs : List (String × Json))
  deriving Inhabited

namespace Json

/-- The value under a key of an object. -/
def get? (j : Json) (key : String) : Option Json :=
  match j with
  | .obj kvs => (kvs.find? (·.1 == key)).map (·.2)
  | _ => none

/-- The string of a string document. -/
def getStr? : Json → Option String
  | .str s => some s
  | _ => none

/-- The items of an array document. -/
def getArr? : Json → Option (List Json)
  | .arr xs => some xs
  | _ => none

/-- Four hexadecimal digits of a code unit. -/
def hex4 (n : Nat) : String :=
  let d (k : Nat) : Char :=
    let v := (n / Nat.pow 16 k) % 16
    if v < 10 then Char.ofNat (48 + v) else Char.ofNat (87 + v)
  String.ofList [d 3, d 2, d 1, d 0]

/-- A string as a JSON string literal. -/
def quote (s : String) : String :=
  let esc (c : Char) : String :=
    if c == '"' then "\\\"" else if c == '\\' then "\\\\"
    else if c == '\n' then "\\n" else if c == '\r' then "\\r" else if c == '\t' then "\\t"
    else if c.toNat < 32 then "\\u" ++ hex4 c.toNat
    else String.singleton c
  "\"" ++ String.join (s.toList.map esc) ++ "\""

/-- A size bound used for the recursion of `render`. -/
theorem sizeOf_entry_snd {kv : String × Json} {kvs : List (String × Json)} (h : kv ∈ kvs) :
    sizeOf kv.2 < 1 + sizeOf kvs := by
  have := List.sizeOf_lt_of_mem h
  cases kv; simp at this ⊢; omega

/-- Compact JSON text of a document; non-finite numbers are written as `null`. -/
def render : Json → String
  | .null => "null"
  | .bool b => if b then "true" else "false"
  | .int n => toString n
  | .num x => if x.isNaN || x.isInf then "null" else FloatText.repr x
  | .str s => quote s
  | .arr xs => "[" ++ ",".intercalate (xs.attach.map fun ⟨x, _⟩ => render x) ++ "]"
  | .obj kvs => "\x7b" ++ ",".intercalate (kvs.attach.map fun ⟨kv, h⟩ =>
      have := sizeOf_entry_snd h
      quote kv.1 ++ ":" ++ render kv.2) ++ "\x7d"

/-- A string as an ASCII JSON string literal: characters beyond ASCII are written as
`\u` escapes, by UTF-16 code units. -/
def quoteAscii (s : String) : String :=
  let esc (c : Char) : String :=
    let n := c.toNat
    if c == '"' then "\\\"" else if c == '\\' then "\\\\"
    else if c == '\n' then "\\n" else if c == '\r' then "\\r" else if c == '\t' then "\\t"
    else if n == 8 then "\\b" else if n == 12 then "\\f"
    else if n < 32 || (n ≥ 127 && n < 65536) then "\\u" ++ hex4 n
    else if n ≥ 65536 then
      let m := n - 65536
      "\\u" ++ hex4 (55296 + m / 1024) ++ "\\u" ++ hex4 (56320 + m % 1024)
    else String.singleton c
  "\"" ++ String.join (s.toList.map esc) ++ "\""

/-- JSON text in the layout of the common default writer: ASCII only, `, ` between items
and `: ` after keys, keys in the order given. -/
def renderSpaced : Json → String
  | .null => "null"
  | .bool b => if b then "true" else "false"
  | .int n => toString n
  | .num x =>
    if x.isNaN then "NaN" else if x.isInf then (if x > 0 then "Infinity" else "-Infinity")
    else FloatText.repr x
  | .str s => quoteAscii s
  | .arr xs => "[" ++ ", ".intercalate (xs.attach.map fun ⟨x, _⟩ => renderSpaced x) ++ "]"
  | .obj kvs => "\x7b" ++ ", ".intercalate (kvs.attach.map fun ⟨kv, h⟩ =>
      have := sizeOf_entry_snd h
      quoteAscii kv.1 ++ ": " ++ renderSpaced kv.2) ++ "\x7d"

/-- Skips JSON whitespace. -/
def skipWs : List Char → List Char
  | c :: rest => if c == ' ' || c == '\n' || c == '\r' || c == '\t' then skipWs rest else c :: rest
  | [] => []

/-- The value of a hexadecimal digit. -/
def hexVal (c : Char) : Option Nat :=
  if c.isDigit then some (c.toNat - 48)
  else if 'a' ≤ c && c ≤ 'f' then some (c.toNat - 87)
  else if 'A' ≤ c && c ≤ 'F' then some (c.toNat - 55)
  else none

/-- Reads four hexadecimal digits. -/
def readHex4 : List Char → Option (Nat × List Char)
  | a :: b :: c :: d :: rest => do
    let va ← hexVal a
    let vb ← hexVal b
    let vc ← hexVal c
    let vd ← hexVal d
    pure (((va * 16 + vb) * 16 + vc) * 16 + vd, rest)
  | _ => none

/-- Reads the body of a string literal after its opening quote. -/
def readString (fuel : Nat) (acc : List Char) (cs : List Char) : Option (String × List Char) :=
  match fuel with
  | 0 => none
  | fuel + 1 =>
    match cs with
    | '"' :: rest => some (String.ofList acc.reverse, rest)
    | '\\' :: e :: rest =>
      match e with
      | '"' => readString fuel ('"' :: acc) rest
      | '\\' => readString fuel ('\\' :: acc) rest
      | '/' => readString fuel ('/' :: acc) rest
      | 'b' => readString fuel (Char.ofNat 8 :: acc) rest
      | 'f' => readString fuel (Char.ofNat 12 :: acc) rest
      | 'n' => readString fuel ('\n' :: acc) rest
      | 'r' => readString fuel ('\r' :: acc) rest
      | 't' => readString fuel ('\t' :: acc) rest
      | 'u' =>
        match readHex4 rest with
        | some (hi, rest') =>
          if 0xD800 ≤ hi && hi < 0xDC00 then
            match rest' with
            | '\\' :: 'u' :: rest'' =>
              match readHex4 rest'' with
              | some (lo, rest''') =>
                if 0xDC00 ≤ lo && lo < 0xE000 then
                  readString fuel (Char.ofNat (0x10000 + (hi - 0xD800) * 1024 + (lo - 0xDC00)) :: acc) rest'''
                else readString fuel (Char.ofNat 0xFFFD :: acc) rest'
              | none => none
            | _ => readString fuel (Char.ofNat 0xFFFD :: acc) rest'
          else readString fuel (Char.ofNat hi :: acc) rest'
        | none => none
      | _ => none
    | c :: rest => readString fuel (c :: acc) rest
    | [] => none

/-- Reads a number literal: an integer when it has neither fraction nor exponent. -/
def readNumber (cs : List Char) : Option (Json × List Char) :=
  let isNumChar (c : Char) : Bool := c.isDigit || c == '-' || c == '+' || c == '.' || c == 'e' || c == 'E'
  let lit := cs.takeWhile isNumChar
  let rest := cs.drop lit.length
  let text := String.ofList lit
  if lit.any (fun c => c == '.' || c == 'e' || c == 'E') then
    (FloatText.parse text).map fun x => (.num x, rest)
  else
    match lit with
    | '-' :: ds => if ds.isEmpty || !ds.all Char.isDigit then none
      else some (.int (-(FloatText.natOfDigits ds : Int)), rest)
    | ds => if ds.isEmpty || !ds.all Char.isDigit then none
      else some (.int (FloatText.natOfDigits ds), rest)

mutual

/-- Reads one JSON value. -/
def readValue (fuel : Nat) (cs : List Char) : Option (Json × List Char) :=
  match fuel with
  | 0 => none
  | fuel + 1 =>
    match skipWs cs with
    | '{' :: rest => readObject fuel [] (skipWs rest)
    | '[' :: rest => readArray fuel [] (skipWs rest)
    | '"' :: rest => (readString (rest.length + 1) [] rest).map fun (s, r) => (.str s, r)
    | 't' :: 'r' :: 'u' :: 'e' :: rest => some (.bool true, rest)
    | 'f' :: 'a' :: 'l' :: 's' :: 'e' :: rest => some (.bool false, rest)
    | 'n' :: 'u' :: 'l' :: 'l' :: rest => some (.null, rest)
    | 'N' :: 'a' :: 'N' :: rest => some (.num (0.0 / 0.0), rest)
    | cs' => readNumber cs'

/-- Reads the members of an object after its opening brace. -/
def readObject (fuel : Nat) (acc : List (String × Json)) (cs : List Char) :
    Option (Json × List Char) :=
  match fuel with
  | 0 => none
  | fuel + 1 =>
    match cs with
    | '}' :: rest => some (.obj acc.reverse, rest)
    | '"' :: rest => do
      let (k, rest) ← readString (rest.length + 1) [] rest
      match skipWs rest with
      | ':' :: rest => do
        let (v, rest) ← readValue fuel rest
        match skipWs rest with
        | ',' :: rest => readObject fuel ((k, v) :: acc) (skipWs rest)
        | '}' :: rest => some (.obj ((k, v) :: acc).reverse, rest)
        | _ => none
      | _ => none
    | _ => none

/-- Reads the items of an array after its opening bracket. -/
def readArray (fuel : Nat) (acc : List Json) (cs : List Char) : Option (Json × List Char) :=
  match fuel with
  | 0 => none
  | fuel + 1 =>
    match cs with
    | ']' :: rest => some (.arr acc.reverse, rest)
    | _ => do
      let (v, rest) ← readValue fuel cs
      match skipWs rest with
      | ',' :: rest => readArray fuel (v :: acc) (skipWs rest)
      | ']' :: rest => some (.arr (v :: acc).reverse, rest)
      | _ => none

end

/-- Parses a JSON text. -/
def parse (s : String) : Option Json :=
  let cs := s.toList
  match readValue (cs.length + 2) cs with
  | some (j, rest) => if (skipWs rest).isEmpty then some j else none
  | none => none

end Json

end RocketSim
