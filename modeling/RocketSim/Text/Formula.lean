import RocketSim.Core.Ops

/-!
# Formulas

Definitions may hold small formulas over named quantities: a cost function such as
`1/apogee if (apogee > 1) else max(1, -1*apogee)`, or the value of a dependent variable such
as `10+w`.  A formula is an expression of the usual calculator language: numbers, names,
the arithmetic operators `+ - * / // % **` with their customary precedence (the power binds
tightest and to the right, and a unary sign binds looser than the power on its left),
comparisons that chain, `and`, `or`, `not`, the conditional `a if c else b`, parentheses,
and calls of `abs`, `max`, `min`, `round`, `float`, `int`, `pow` and of the functions of the
`math` module (whose constants `math.pi`, `math.e`, `math.tau`, `math.inf` and `math.nan` are
also known).

Arithmetic follows the value semantics of the rest of the simulator: integers stay exact,
integer division by zero fails, and so on.  A name that is neither given nor known is a
`NameError`; text that does not parse is a `SyntaxError`.
-/

namespace RocketSim
namespace Formula

/-- A token of a formula. -/
inductive Token where
  | number (v : Value)
  | name (s : String)
  | text (s : String)
  | symbol (s : String)
  deriving Inhabited

/-- A parsed formula. -/
inductive Expr where
  | literal (v : Value)
  | ref (name : String)
  | member (e : Expr) (name : String)
  | call (f : Expr) (args : List Expr)
  | index (e : Expr) (i : Expr)
  | sequence (items : List Expr)
  | unary (op : String) (e : Expr)
  | binary (op : String) (a b : Expr)
  | compare (first : Expr) (rest : List (String × Expr))
  | both (a b : Expr)
  | either (a b : Expr)
  | negation (e : Expr)
  | conditional (test yes no : Expr)
  deriving Inhabited

/-- The fault of text that is not a formula. -/
def syntaxFault : Fault := Fault.bare .syntaxError

/-- The two-character operators. -/
def pairs : List String := ["**", "//", "<=", ">=", "==", "!="]

/-- The one-character operators and brackets. -/
def singles : List Char := ['+', '-', '*', '/', '%', '(', ')', ',', '.', '<', '>', '[', ']']

/-- Whether a character may start a name. -/
def nameStart (c : Char) : Bool := c.isAlpha || c == '_'

/-- Whether a character may continue a name. -/
def nameChar (c : Char) : Bool := c.isAlphanum || c == '_'

/-- Reads a number literal from the front of the characters: its digits, point and exponent. -/
def numberText (cs : List Char) : List Char × List Char :=
  let (whole, rest) := cs.span Char.isDigit
  let (frac, rest) := match rest with
    | '.' :: more => let (ds, r) := more.span Char.isDigit; ('.' :: ds, r)
    | _ => ([], rest)
  let (expo, rest) := match rest with
    | e :: more =>
      if e == 'e' || e == 'E' then
        let (sign, more') := match more with
          | s :: m => if s == '+' || s == '-' then ([s], m) else ([], more)
          | [] => ([], more)
        let (ds, r) := more'.span Char.isDigit
        if ds.isEmpty then ([], rest) else (e :: sign ++ ds, r)
      else ([], rest)
    | [] => ([], rest)
  (whole ++ frac ++ expo, rest)

/-- The value of a number literal: an integer when it has neither point nor exponent. -/
def numberValue (text : List Char) : Outcome Value :=
  let s := String.ofList text
  if text.all Char.isDigit then
    match FloatText.parseInt s with
    | some n => pure (.int n)
    | none => throw syntaxFault
  else match FloatText.parse s with
    | some x => pure (.float x)
    | none => throw syntaxFault

/-- Splits a formula into tokens, reading at most `fuel` of them. -/
def tokenize : Nat → List Char → Outcome (List Token)
  | 0, _ => throw syntaxFault
  | _, [] => pure []
  | fuel + 1, c :: rest =>
    if c == ' ' || c == '\t' || c == '\n' then tokenize fuel rest
    else if c.isDigit || (c == '.' && (rest.head?.map Char.isDigit).getD false) then do
      let (text, rest) := numberText (c :: rest)
      pure (.number (← numberValue text) :: (← tokenize fuel rest))
    else if nameStart c then do
      let (more, rest) := rest.span nameChar
      pure (.name (String.ofList (c :: more)) :: (← tokenize fuel rest))
    else if c == '\'' || c == '"' then do
      let (body, rest) := rest.span (· != c)
      match rest with
      | _ :: after => pure (.text (String.ofList body) :: (← tokenize fuel after))
      | [] => throw syntaxFault
    else
      let two := String.ofList [c, rest.headD ' ']
      if pairs.contains two then do
        pure (.symbol two :: (← tokenize fuel (rest.drop 1)))
      else if singles.contains c then do
        pure (.symbol (String.singleton c) :: (← tokenize fuel rest))
      else throw syntaxFault

/-- Whether the token at a place is a given symbol or keyword. -/
def isAt (ts : Array Token) (i : Nat) (s : String) : Bool :=
  match ts[i]? with
  | some (.symbol t) => t == s
  | some (.name t) => t == s
  | _ => false

/-- The comparison operator at a place, if any (`not in` and `is not` included), with the
number of tokens it takes. -/
def comparisonAt (ts : Array Token) (i : Nat) : Option (String × Nat) :=
  match ts[i]? with
  | some (.symbol s) =>
    if ["<", ">", "<=", ">=", "==", "!="].contains s then some (s, 1) else none
  | some (.name "in") => some ("in", 1)
  | some (.name "not") => if isAt ts (i + 1) "in" then some ("not in", 2) else none
  | some (.name "is") => if isAt ts (i + 1) "not" then some ("is not", 2) else some ("is", 1)
  | _ => none

/-- The binary operators of the left-associative levels: sums (level 5) and products
(level 6). -/
def operatorsAt (level : Nat) : List String :=
  if level == 5 then ["+", "-"] else if level == 6 then ["*", "/", "//", "%"] else []

mutual

/-- Parses at a precedence level from a place: 0 conditionals, 1 `or`, 2 `and`, 3 `not`,
4 comparisons, 5 sums, 6 products, 7 signs, 8 powers, 9 atoms with their calls, members
and indices.  Returns the expression and the place after it. -/
def parseLevel (ts : Array Token) : Nat → Nat → Nat → Outcome (Expr × Nat)
  | 0, _, _ => throw syntaxFault
  | fuel + 1, level, i =>
    match level with
    | 0 => do
      let (e, j) ← parseLevel ts fuel 1 i
      if isAt ts j "if" then
        let (test, k) ← parseLevel ts fuel 1 (j + 1)
        if !isAt ts k "else" then throw syntaxFault
        let (no, l) ← parseLevel ts fuel 0 (k + 1)
        pure (.conditional test e no, l)
      else pure (e, j)
    | 1 => do
      let (e, j) ← parseLevel ts fuel 2 i
      chainWords ts fuel "or" 2 e j
    | 2 => do
      let (e, j) ← parseLevel ts fuel 3 i
      chainWords ts fuel "and" 3 e j
    | 3 =>
      if isAt ts i "not" then do
        let (e, j) ← parseLevel ts fuel 3 (i + 1)
        pure (.negation e, j)
      else parseLevel ts fuel 4 i
    | 4 => do
      let (e, j) ← parseLevel ts fuel 5 i
      let (rest, k) ← chainComparisons ts fuel j
      if rest.isEmpty then pure (e, k) else pure (.compare e rest, k)
    | 5 | 6 => do
      let (e, j) ← parseLevel ts fuel (level + 1) i
      chainOperators ts fuel level e j
    | 7 =>
      if isAt ts i "-" || isAt ts i "+" then do
        let op := if isAt ts i "-" then "-" else "+"
        let (e, j) ← parseLevel ts fuel 7 (i + 1)
        pure (.unary op e, j)
      else parseLevel ts fuel 8 i
    | 8 => do
      let (base, j) ← parseLevel ts fuel 9 i
      if isAt ts j "**" then
        let (power, k) ← parseLevel ts fuel 7 (j + 1)
        pure (.binary "**" base power, k)
      else pure (base, j)
    | _ => do
      let (atom, j) ← parseAtom ts fuel i
      trailers ts fuel atom j

/-- Parses an atom: a number, text, name, or a bracketed expression or list. -/
def parseAtom (ts : Array Token) : Nat → Nat → Outcome (Expr × Nat)
  | 0, _ => throw syntaxFault
  | fuel + 1, i =>
    match ts[i]? with
    | some (.number v) => pure (.literal v, i + 1)
    | some (.text s) => pure (.literal (.str s), i + 1)
    | some (.name "True") => pure (.literal (.bool true), i + 1)
    | some (.name "False") => pure (.literal (.bool false), i + 1)
    | some (.name "None") => pure (.literal .null, i + 1)
    | some (.name n) =>
      if ["if", "else", "and", "or", "not", "in", "is"].contains n then throw syntaxFault
      else pure (.ref n, i + 1)
    | some (.symbol "(") => do
      if isAt ts (i + 1) ")" then return (.sequence [], i + 2)
      let (items, trailing, j) ← parseItems ts fuel ")" (i + 1)
      match items, trailing with
      | [e], false => pure (e, j)
      | _, _ => pure (.sequence items, j)
    | some (.symbol "[") => do
      if isAt ts (i + 1) "]" then return (.call (.ref "list") [], i + 2)
      let (items, _, j) ← parseItems ts fuel "]" (i + 1)
      pure (.call (.ref "list") [.sequence items], j)
    | _ => throw syntaxFault

/-- Parses comma-separated expressions up to a closing bracket: the expressions, whether a
comma trailed the last one, and the place after the bracket. -/
def parseItems (ts : Array Token) : Nat → String → Nat → Outcome (List Expr × Bool × Nat)
  | 0, _, _ => throw syntaxFault
  | fuel + 1, close, i => do
    let (e, j) ← parseLevel ts fuel 0 i
    if isAt ts j close then pure ([e], false, j + 1)
    else if isAt ts j "," then
      if isAt ts (j + 1) close then pure ([e], true, j + 2)
      else
        let (rest, trailing, k) ← parseItems ts fuel close (j + 1)
        pure (e :: rest, trailing, k)
    else throw syntaxFault

/-- Parses the calls, members and indices following an atom. -/
def trailers (ts : Array Token) : Nat → Expr → Nat → Outcome (Expr × Nat)
  | 0, _, _ => throw syntaxFault
  | fuel + 1, e, i =>
    if isAt ts i "(" then do
      if isAt ts (i + 1) ")" then trailers ts fuel (.call e []) (i + 2)
      else
        let (args, _, j) ← parseItems ts fuel ")" (i + 1)
        trailers ts fuel (.call e args) j
    else if isAt ts i "." then
      match ts[i + 1]? with
      | some (.name n) => trailers ts fuel (.member e n) (i + 2)
      | _ => throw syntaxFault
    else if isAt ts i "[" then do
      let (k, j) ← parseLevel ts fuel 0 (i + 1)
      if !isAt ts j "]" then throw syntaxFault
      trailers ts fuel (.index e k) (j + 1)
    else pure (e, i)

/-- Parses `(word operand)*` after a first operand, for `and` and `or`. -/
def chainWords (ts : Array Token) : Nat → String → Nat → Expr → Nat → Outcome (Expr × Nat)
  | 0, _, _, _, _ => throw syntaxFault
  | fuel + 1, word, level, e, i =>
    if isAt ts i word then do
      let (b, j) ← parseLevel ts fuel level (i + 1)
      chainWords ts fuel word level (if word == "and" then .both e b else .either e b) j
    else pure (e, i)

/-- Parses `(op operand)*` after a first operand, for sums and products. -/
def chainOperators (ts : Array Token) : Nat → Nat → Expr → Nat → Outcome (Expr × Nat)
  | 0, _, _, _ => throw syntaxFault
  | fuel + 1, level, e, i =>
    match ts[i]? with
    | some (.symbol s) =>
      if (operatorsAt level).contains s then do
        let (b, j) ← parseLevel ts fuel (level + 1) (i + 1)
        chainOperators ts fuel level (.binary s e b) j
      else pure (e, i)
    | _ => pure (e, i)

/-- Parses the `(comparison operand)*` chain after a first operand. -/
def chainComparisons (ts : Array Token) : Nat → Nat → Outcome (List (String × Expr) × Nat)
  | 0, _ => throw syntaxFault
  | fuel + 1, i =>
    match comparisonAt ts i with
    | some (op, width) => do
      let (b, j) ← parseLevel ts fuel 5 (i + width)
      let (rest, k) ← chainComparisons ts fuel j
      pure ((op, b) :: rest, k)
    | none => pure ([], i)

end

/-- Parses a whole formula. -/
def parse (text : String) : Outcome Expr := do
  let tokens := (← tokenize (text.length + 1) text.toList).toArray
  let (e, j) ← parseLevel tokens (64 * (tokens.size + 1)) 0 0
  if j != tokens.size then throw syntaxFault
  pure e

/-- A number as a binary64 value. -/
def realOf (v : Value) : Outcome Float :=
  match v.toFloat? with
  | some x => pure x
  | none => throw Fault.typeMismatch

/-- Orders two values as `<` does: numbers by value, texts by their characters. -/
def order (a b : Value) : Outcome Ordering :=
  match Arith.compareNumbers a b with
  | some o => pure o
  | none =>
    match a, b with
    | .str x, .str y => pure (compare x y)
    | _, _ => throw Fault.typeMismatch

/-- Applies a comparison operator. -/
def comparison (op : String) (a b : Value) : Outcome Bool := do
  match op with
  | "==" => Arith.eq a b
  | "!=" => (!·) <$> Arith.eq a b
  | "<" => (· == .lt) <$> order a b
  | ">" => (· == .gt) <$> order a b
  | "<=" => (· != .gt) <$> order a b
  | ">=" => (· != .lt) <$> order a b
  | "in" => match b.items? with
    | some xs => Arith.memberOf Arith.depth a xs
    | none => throw Fault.typeMismatch
  | "not in" => match b.items? with
    | some xs => (!·) <$> Arith.memberOf Arith.depth a xs
    | none => throw Fault.typeMismatch
  | _ => throw Fault.typeMismatch

/-- The largest (or, with `smallest`, the least) of some values: the first of those that
no later one beats. -/
def extreme (smallest : Bool) (xs : List Value) : Outcome Value := do
  let some first := xs.head? | throw Fault.badValue
  xs.tail.foldlM (fun best x => do
    let o ← order x best
    pure (if (smallest && o == .lt) || (!smallest && o == .gt) then x else best)) first

/-- The one-argument functions of the `math` module. -/
def mathUnary (name : String) (x : Float) : Outcome Value :=
  match name with
  | "sqrt" => .float <$> Real.sqrt x
  | "sin" => .float <$> Real.sin x
  | "cos" => .float <$> Real.cos x
  | "tan" => .float <$> Real.tan x
  | "asin" => .float <$> Real.asin x
  | "acos" => .float <$> Real.acos x
  | "atan" => pure (.float (Float.atan x))
  | "exp" => .float <$> Real.exp x
  | "log" => .float <$> Real.log x
  | "log10" => .float <$> Real.log10 x
  | "fabs" => pure (.float (Float.abs x))
  | "degrees" => pure (.float (Number.degrees x))
  | "radians" => pure (.float (Number.radians x))
  | "sinh" => pure (.float (Float.sinh x))
  | "cosh" => pure (.float (Float.cosh x))
  | "tanh" => pure (.float (Float.tanh x))
  | "floor" => match Number.truncToInt (Float.floor x) with
    | some n => pure (.int n)
    | none => throw Fault.badValue
  | "ceil" => match Number.truncToInt (Float.ceil x) with
    | some n => pure (.int n)
    | none => throw Fault.badValue
  | _ => throw Fault.noAttribute

/-- Calls a known function by its qualified name. -/
def callNamed (name : String) (args : List Value) : Outcome Value := do
  match name, args with
  | "abs", [x] => (·.1) <$> Arith.magnitude Arith.depth x
  | "max", [xs] => match xs.items? with
    | some items => extreme false items
    | none => throw Fault.typeMismatch
  | "max", _ => extreme false args
  | "min", [xs] => match xs.items? with
    | some items => extreme true items
    | none => throw Fault.typeMismatch
  | "min", _ => extreme true args
  | "float", [x] => .float <$> realOf x
  | "int", [x] => match x with
    | .int n => pure (.int n)
    | .bool b => pure (.int (if b then 1 else 0))
    | _ => match Number.truncToInt (← realOf x) with
      | some n => pure (.int n)
      | none => throw Fault.badValue
  | "round", [x] => match Number.truncToInt (Number.roundHalfEven (← realOf x)) with
    | some n => pure (.int n)
    | none => throw Fault.badValue
  | "pow", [x, y] => Arith.apply .pow x y
  | "list", [] => pure (.list [])
  | "list", [x] => match x.items? with
    | some items => pure (.list items)
    | none => throw Fault.typeMismatch
  | "math.pow", [x, y] => .float <$> Real.pow (← realOf x) (← realOf y)
  | "math.atan2", [y, x] => pure (.float (Float.atan2 (← realOf y) (← realOf x)))
  | "math.hypot", [x, y] => pure (.float (Float.sqrt ((← realOf x) ^ 2 + (← realOf y) ^ 2)))
  | "math.log", [x, b] => do
    let num ← Real.log (← realOf x)
    let den ← Real.log (← realOf b)
    .float <$> Real.div num den
  | _, [x] =>
    if Str.startsWith name "math." then mathUnary (Str.drop name 5) (← realOf x)
    else throw Fault.typeMismatch
  | _, _ => throw Fault.typeMismatch

/-- The names of the builtin functions. -/
def builtins : List String := ["abs", "max", "min", "float", "int", "round", "pow", "list"]

/-- The constants of the `math` module. -/
def mathConstant? (name : String) : Option Value :=
  match name with
  | "pi" => some (.float 3.141592653589793)
  | "e" => some (.float 2.718281828459045)
  | "tau" => some (.float 6.283185307179586)
  | "inf" => some (.float Binary64.inf)
  | "nan" => some (.float Binary64.nan)
  | _ => none

/-- Evaluates a formula with the given named values, to a depth of `fuel`. -/
def eval (vars : List (String × Value)) : Nat → Expr → Outcome Value
  | 0, _ => throw Arith.recursionFault
  | fuel + 1, e =>
    match e with
    | .literal v => pure v
    | .ref n =>
      match vars.find? (·.1 == n) with
      | some (_, v) => pure v
      | none =>
        if n == "math" then pure (.other "module")
        else if builtins.contains n then pure (.func n .null)
        else throw (Fault.bare .nameError)
    | .member target n => do
      match target with
      | .ref "math" =>
        if (vars.find? (·.1 == "math")).isSome then Arith.attr (← eval vars fuel target) n
        else match mathConstant? n with
          | some v => pure v
          | none => pure (.func ("math." ++ n) .null)
      | _ => Arith.attr (← eval vars fuel target) n
    | .call f args => do
      let callee ← eval vars fuel f
      let values ← args.mapM (eval vars fuel)
      match callee with
      | .func name _ => callNamed name values
      | _ => throw Fault.typeMismatch
    | .index target i => do
      let xs ← eval vars fuel target
      let k ← eval vars fuel i
      match xs.items?, k with
      | some items, .int n =>
        let j := if n < 0 then n + items.length else n
        if j < 0 then throw Fault.badIndex
        match items[j.toNat]? with
        | some v => pure v
        | none => throw Fault.badIndex
      | _, _ => throw Fault.typeMismatch
    | .sequence items => .tuple <$> items.mapM (eval vars fuel)
    | .unary op x => do
      let v ← eval vars fuel x
      if op == "-" then Arith.negate v
      else match v with
        | .int _ | .float _ | .arrayScalar _ | .bool _ => pure v
        | _ => throw Fault.typeMismatch
    | .binary op a b => do
      let x ← eval vars fuel a
      let y ← eval vars fuel b
      let binop : Arith.BinOp := match op with
        | "+" => .add
        | "-" => .sub
        | "*" => .mul
        | "/" => .div
        | "//" => .floorDiv
        | "%" => .mod
        | _ => .pow
      Arith.apply binop x y
    | .compare first rest => do
      let mut left ← eval vars fuel first
      for (op, rhs) in rest do
        let right ← eval vars fuel rhs
        if !(← comparison op left right) then return .bool false
        left := right
      pure (.bool true)
    | .both a b => do
      let x ← eval vars fuel a
      if x.truthy then eval vars fuel b else pure x
    | .either a b => do
      let x ← eval vars fuel a
      if x.truthy then pure x else eval vars fuel b
    | .negation x => do pure (.bool !(← eval vars fuel x).truthy)
    | .conditional test yes no => do
      if (← eval vars fuel test).truthy then eval vars fuel yes else eval vars fuel no

/-- Evaluates the text of a formula with the given named values. -/
def evaluate (text : String) (vars : List (String × Value)) : Outcome Value := do
  eval vars 1000 (← parse text)

end Formula
end RocketSim
