import RocketSim.Core.Fault

/-!
# Regular expressions

Column specifications may be regular expressions in the usual backtracking dialect: literal
characters and escapes, `.` (any character but a newline), classes `[...]` with ranges and
negation, the classes `\d \w \s` and their complements, anchors `^ $ \A \Z \b \B`, groups
`(...)`, `(?:...)` and `(?P<name>...)`, lookaheads `(?=...)` and `(?!...)`, alternation
`|`, and the repetitions `* + ? {m} {m,} {,n} {m,n}`, each possibly lazy (`?`) or
possessive (`+`).  A pattern that does not parse is an `error`: a repetition of nothing or
of a repetition, an unbalanced parenthesis, an unterminated class, or an unknown escape.

Only whether a pattern matches at the start of a text matters here, so the order in which
alternatives are tried does not: the matcher searches every way with bounded effort.
-/

namespace RocketSim
namespace Pattern

/-- One item of a character class. -/
inductive ClassItem where
  | single (c : Char)
  | range (lo hi : Char)
  | digit (negated : Bool)
  | word (negated : Bool)
  | space (negated : Bool)
  deriving Inhabited

mutual
/-- A part of a pattern that matches once. -/
inductive Atom where
  | char (c : Char)
  | any
  | charClass (negated : Bool) (items : List ClassItem)
  | lineStart
  | lineEnd
  | textStart
  | textEnd
  | boundary (negated : Bool)
  | group (alternatives : List (List Piece))
  | lookahead (negated : Bool) (alternatives : List (List Piece))

/-- An atom with its repetition bounds. -/
inductive Piece where
  | mk (atom : Atom) (least : Nat) (most : Option Nat)
end

/-- The fault of a pattern that does not parse. -/
def fault : Fault := Fault.bare (.other "error")

/-- Whether a character is a decimal digit. -/
def isDigit (c : Char) : Bool := c.isDigit

/-- Whether a character is a word character. -/
def isWord (c : Char) : Bool := c.isAlphanum || c == '_' || (c.toNat > 127 && !isSpaceChar c)
where
  /-- Whether a character is white space. -/
  isSpaceChar (c : Char) : Bool := [' ', '\t', '\n', '\r', '\x0c', '\x0b'].contains c

/-- Whether a character is white space. -/
def isSpace (c : Char) : Bool := isWord.isSpaceChar c

/-- Whether a class item admits a character. -/
def ClassItem.admits (c : Char) : ClassItem → Bool
  | .single d => c == d
  | .range lo hi => lo ≤ c && c ≤ hi
  | .digit n => isDigit c != n
  | .word n => isWord c != n
  | .space n => isSpace c != n

/-- The character an escape letter stands for, if it is a plain character escape. -/
def escapedChar (c : Char) : Option Char :=
  match c with
  | 'n' => some '\n'
  | 't' => some '\t'
  | 'r' => some '\r'
  | 'f' => some '\x0c'
  | 'v' => some '\x0b'
  | 'a' => some '\x07'
  | '0' => some '\x00'
  | _ => if c.isAlphanum then none else some c

/-- Reads an escape inside a class (after the backslash). -/
def classEscape (c : Char) : Except Fault ClassItem :=
  match c with
  | 'd' => pure (.digit false)
  | 'D' => pure (.digit true)
  | 'w' => pure (.word false)
  | 'W' => pure (.word true)
  | 's' => pure (.space false)
  | 'S' => pure (.space true)
  | 'b' => pure (.single '\x08')
  | _ => match escapedChar c with
    | some d => pure (.single d)
    | none => throw fault

/-- Reads the items of a class up to its closing bracket. -/
def classItems : Nat → List Char → List ClassItem → Except Fault (List ClassItem × List Char)
  | 0, _, _ => throw fault
  | fuel + 1, cs, acc =>
    match cs with
    | [] => throw fault
    | ']' :: rest => if acc.isEmpty then classItems fuel rest (acc ++ [.single ']']) else pure (acc, rest)
    | '\\' :: c :: rest => do
      let item ← classEscape c
      classItems fuel rest (acc ++ [item])
    | ['\\'] => throw fault
    | lo :: '-' :: hi :: rest =>
      if hi == ']' then classItems fuel (hi :: rest) (acc ++ [.single lo, .single '-'])
      else if hi == '\\' then
        match rest with
        | e :: rest' => do
          match ← classEscape e with
          | .single h => if h < lo then throw fault else classItems fuel rest' (acc ++ [.range lo h])
          | _ => throw fault
        | [] => throw fault
      else if hi < lo then throw fault
      else classItems fuel rest (acc ++ [.range lo hi])
    | c :: rest => classItems fuel rest (acc ++ [.single c])

/-- Reads a number of a repetition's bounds. -/
def digits (cs : List Char) : Option Nat × List Char :=
  let ds := cs.takeWhile Char.isDigit
  let rest := cs.dropWhile Char.isDigit
  (if ds.isEmpty then none else some (ds.foldl (fun n d => 10 * n + (d.toNat - '0'.toNat)) 0), rest)

/-- Reads the bounds of a repetition in braces (after the opening brace), if it is one. -/
def braces (cs : List Char) : Option ((Nat × Option Nat) × List Char) :=
  let (lo, rest) := digits cs
  match rest with
  | '}' :: rest => lo.map fun n => ((n, some n), rest)
  | ',' :: rest =>
    let (hi, rest) := digits rest
    match rest with
    | '}' :: rest => some ((lo.getD 0, hi), rest)
    | _ => none
  | _ => none

/-- Reads a repetition after an atom, if any: its bounds and the rest. -/
def quantifier (cs : List Char) : Option ((Nat × Option Nat) × List Char) :=
  let bounds : Option ((Nat × Option Nat) × List Char) := match cs with
    | '*' :: rest => some ((0, none), rest)
    | '+' :: rest => some ((1, none), rest)
    | '?' :: rest => some ((0, some 1), rest)
    | '{' :: rest => braces rest
    | _ => none
  bounds.map fun (b, rest) => match rest with
    | '?' :: rest => (b, rest)
    | '+' :: rest => (b, rest)
    | _ => (b, rest)

/-- Whether text starts a repetition. -/
def startsRepetition (cs : List Char) : Bool := (quantifier cs).isSome

/-- Whether an atom may be repeated. -/
def Atom.repeatable : Atom → Bool
  | .lineStart | .lineEnd | .textStart | .textEnd | .boundary _ => false
  | _ => true

mutual
/-- Reads alternatives up to a closing parenthesis or the end. -/
def alternatives : Nat → List Char → Except Fault (List (List Piece) × List Char)
  | 0, _ => throw fault
  | fuel + 1, cs => do
    let (first, rest) ← sequence fuel cs []
    match rest with
    | '|' :: rest =>
      let (others, rest) ← alternatives fuel rest
      pure (first :: others, rest)
    | _ => pure ([first], rest)

/-- Reads pieces up to an alternation bar, a closing parenthesis or the end. -/
def sequence : Nat → List Char → List Piece → Except Fault (List Piece × List Char)
  | 0, _, _ => throw fault
  | fuel + 1, cs, acc =>
    match cs with
    | [] => pure (acc, [])
    | '|' :: _ | ')' :: _ => pure (acc, cs)
    | _ => do
      if startsRepetition cs then throw fault
      let (atom, rest) ← atomOf fuel cs
      match quantifier rest with
      | some ((lo, hi), rest) =>
        if !atom.repeatable then throw fault
        if startsRepetition rest then throw fault
        if (hi.map fun h => decide (h < lo)).getD false then throw fault
        sequence fuel rest (acc ++ [.mk atom lo hi])
      | none => sequence fuel rest (acc ++ [.mk atom 1 (some 1)])

/-- Reads one atom. -/
def atomOf : Nat → List Char → Except Fault (Atom × List Char)
  | 0, _ => throw fault
  | fuel + 1, cs =>
    match cs with
    | '.' :: rest => pure (.any, rest)
    | '^' :: rest => pure (.lineStart, rest)
    | '$' :: rest => pure (.lineEnd, rest)
    | '[' :: '^' :: rest => do
      let (items, rest) ← classItems (rest.length + 1) rest []
      pure (.charClass true items, rest)
    | '[' :: rest => do
      let (items, rest) ← classItems (rest.length + 1) rest []
      pure (.charClass false items, rest)
    | '(' :: '?' :: ':' :: rest => closeGroup fuel rest .group
    | '(' :: '?' :: '=' :: rest => closeGroup fuel rest (.lookahead false)
    | '(' :: '?' :: '!' :: rest => closeGroup fuel rest (.lookahead true)
    | '(' :: '?' :: 'P' :: '<' :: rest =>
      let name := rest.takeWhile (· != '>')
      match rest.drop name.length with
      | '>' :: rest => if name.isEmpty then throw fault else closeGroup fuel rest .group
      | _ => throw fault
    | '(' :: '?' :: _ => throw fault
    | '(' :: rest => closeGroup fuel rest .group
    | '\\' :: c :: rest =>
      match c with
      | 'A' => pure (.textStart, rest)
      | 'Z' => pure (.textEnd, rest)
      | 'b' => pure (.boundary false, rest)
      | 'B' => pure (.boundary true, rest)
      | 'd' | 'D' | 'w' | 'W' | 's' | 'S' => do
        pure (.charClass false [← classEscape c], rest)
      | _ => match escapedChar c with
        | some d => pure (.char d, rest)
        | none => throw fault
    | ['\\'] => throw fault
    | c :: rest => pure (.char c, rest)
    | [] => throw fault

/-- Reads a group's alternatives and its closing parenthesis. -/
def closeGroup (fuel : Nat) (cs : List Char) (make : List (List Piece) → Atom) :
    Except Fault (Atom × List Char) := do
  let (alts, rest) ← alternatives fuel cs
  match rest with
  | ')' :: rest => pure (make alts, rest)
  | _ => throw fault
end

/-- Reads a pattern. -/
def parse (text : String) : Except Fault (List (List Piece)) := do
  let cs := text.toList
  let (alts, rest) ← alternatives (4 * cs.length + 4) cs
  if !rest.isEmpty then throw fault
  pure alts

mutual
/-- Whether one of the alternatives matches at `pos` and the rest of the match `k` then
succeeds. -/
def matchAlternatives (text : Array Char) :
    Nat → List (List Piece) → Nat → (Nat → Bool) → Bool
  | 0, _, _, _ => false
  | fuel + 1, alts, pos, k =>
    match alts with
    | [] => false
    | a :: rest => matchSequence text fuel a pos k || matchAlternatives text fuel rest pos k

/-- Whether a sequence of pieces matches at `pos`, the continuation then succeeding. -/
def matchSequence (text : Array Char) : Nat → List Piece → Nat → (Nat → Bool) → Bool
  | 0, _, _, _ => false
  | fuel + 1, ps, pos, k =>
    match ps with
    | [] => k pos
    | .mk atom lo hi :: rest =>
      matchRepeat text fuel atom lo hi 0 pos fun p => matchSequence text fuel rest p k

/-- Whether an atom repeated `count` times so far can be repeated within its bounds, the
continuation then succeeding.  A repetition that matched nothing is not repeated again. -/
def matchRepeat (text : Array Char) :
    Nat → Atom → Nat → Option Nat → Nat → Nat → (Nat → Bool) → Bool
  | 0, _, _, _, _, _, _ => false
  | fuel + 1, atom, lo, hi, count, pos, k =>
    (count ≥ lo && k pos) ||
    ((hi.map fun h => decide (count < h)).getD true &&
      matchAtom text fuel atom pos fun p =>
        if p == pos && count ≥ lo then false
        else matchRepeat text fuel atom lo hi (count + 1) p k)

/-- Whether an atom matches once at `pos`, the continuation then succeeding. -/
def matchAtom (text : Array Char) : Nat → Atom → Nat → (Nat → Bool) → Bool
  | 0, _, _, _ => false
  | fuel + 1, atom, pos, k =>
    let here := text[pos]?
    let before := if pos == 0 then none else text[pos - 1]?
    match atom with
    | .char c => here == some c && k (pos + 1)
    | .any => (here.map (· != '\n')).getD false && k (pos + 1)
    | .charClass negated items =>
      match here with
      | some c => (items.any (·.admits c)) != negated && k (pos + 1)
      | none => false
    | .lineStart => pos == 0 && k pos
    | .lineEnd => (pos == text.size || (pos + 1 == text.size && here == some '\n')) && k pos
    | .textStart => pos == 0 && k pos
    | .textEnd => pos == text.size && k pos
    | .boundary negated =>
      let atWord := (here.map isWord).getD false
      let afterWord := (before.map isWord).getD false
      ((atWord != afterWord) != negated) && k pos
    | .group alts => matchAlternatives text fuel alts pos k
    | .lookahead negated alts =>
      (matchAlternatives text fuel alts pos (fun _ => true) != negated) && k pos
end

/-- Whether a pattern matches at the start of a text; a pattern that does not parse is an
error. -/
def matchesStart (pattern text : String) : Except Fault Bool := do
  let alts ← parse pattern
  let chars := text.toList.toArray
  pure (matchAlternatives chars (64 * (chars.size + 1) * (pattern.length + 1)) alts 0 fun _ => true)

end Pattern
end RocketSim
