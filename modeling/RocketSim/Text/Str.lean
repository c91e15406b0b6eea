/-!
# Text helpers

Small operations on strings, written over their character lists so that each one is a plain
structural recursion: taking and dropping characters, stripping whitespace, splitting at a
separator or at runs of whitespace, replacing a substring, and searching.  Splitting follows
the usual text conventions of the simulator's file formats: splitting at a separator keeps
empty pieces, splitting at whitespace drops them.
-/

namespace RocketSim
namespace Str

/-- Whitespace: the ASCII blanks and the Unicode space characters. -/
def isSpace (c : Char) : Bool :=
  c == ' ' || c == '\t' || c == '\n' || c == '\r' || c.toNat == 11 || c.toNat == 12 ||
    (c.toNat ≥ 28 && c.toNat ≤ 31) || c.toNat == 133 || c.toNat == 160 ||
    c.toNat == 5760 || (c.toNat ≥ 8192 && c.toNat ≤ 8202) || c.toNat == 8232 ||
    c.toNat == 8233 || c.toNat == 8239 || c.toNat == 8287 || c.toNat == 12288

/-- The first `n` characters. -/
def take (s : String) (n : Nat) : String := String.ofList (s.toList.take n)

/-- All but the first `n` characters. -/
def drop (s : String) (n : Nat) : String := String.ofList (s.toList.drop n)

/-- All but the last `n` characters. -/
def dropRight (s : String) (n : Nat) : String :=
  String.ofList (s.toList.take (s.length - n))

/-- Characters `[i, j)`, with Python's clamping of out-of-range bounds. -/
def slice (s : String) (i j : Nat) : String := String.ofList ((s.toList.take j).drop i)

/-- Drops trailing characters that satisfy `p`. -/
def dropRightWhile (s : String) (p : Char → Bool) : String :=
  String.ofList ((s.toList.reverse.dropWhile p).reverse)

/-- Drops leading characters that satisfy `p`. -/
def dropWhile (s : String) (p : Char → Bool) : String :=
  String.ofList (s.toList.dropWhile p)

/-- Removes leading and trailing whitespace. -/
def strip (s : String) : String := dropRightWhile (dropWhile s isSpace) isSpace

/-- Whether `pre` starts the list `xs`. -/
def listStartsWith : List Char → List Char → Bool
  | _, [] => true
  | [], _ :: _ => false
  | x :: xs, p :: ps => x == p && listStartsWith xs ps

/-- Whether `pre` starts `s`. -/
def startsWith (s pre : String) : Bool := listStartsWith s.toList pre.toList

/-- Whether `suf` ends `s`. -/
def endsWith (s suf : String) : Bool :=
  listStartsWith s.toList.reverse suf.toList.reverse

/-- Splits a list at every occurrence of the nonempty separator `sep`, left to right. -/
def splitList (sep : List Char) (xs : List Char) : List (List Char) :=
  let rec go (fuel : Nat) (cur : List Char) (xs : List Char) : List (List Char) :=
    match fuel with
    | 0 => [cur.reverse ++ xs]
    | fuel + 1 =>
      match xs with
      | [] => [cur.reverse]
      | x :: rest =>
        if !sep.isEmpty && listStartsWith xs sep then
          cur.reverse :: go fuel [] (xs.drop sep.length)
        else go fuel (x :: cur) rest
  go (xs.length + 1) [] xs

/-- Splits at every occurrence of the nonempty separator, keeping empty pieces. -/
def splitOn (s sep : String) : List String :=
  (splitList sep.toList s.toList).map String.ofList

/-- Splits at runs of whitespace, dropping empty pieces. -/
def splitWs (s : String) : List String :=
  let rec go (cur : List Char) : List Char → List String
    | [] => if cur.isEmpty then [] else [String.ofList cur.reverse]
    | c :: rest =>
      if isSpace c then
        (if cur.isEmpty then [] else [String.ofList cur.reverse]) ++ go [] rest
      else go (c :: cur) rest
  go [] s.toList

/-- Replaces every occurrence of `old` by `new`, left to right; an empty `old` occurs
before every character and at the end. -/
def replace (s old new : String) : String :=
  if old.isEmpty then new ++ String.join (s.toList.map fun c => c.toString ++ new)
  else String.intercalate new (splitOn s old)

/-- Whether `sub` occurs in `s`. -/
def containsStr (s sub : String) : Bool :=
  let rec go : List Char → Bool
    | [] => sub.isEmpty
    | x :: rest => listStartsWith (x :: rest) sub.toList || go rest
  go s.toList

/-- The index of the first occurrence of `sub` in `s`. -/
def findStr (s sub : String) : Option Nat :=
  let rec go (i : Nat) : List Char → Option Nat
    | [] => if sub.isEmpty then some i else none
    | x :: rest => if listStartsWith (x :: rest) sub.toList then some i else go (i + 1) rest
  go 0 s.toList

/-- The index of the last occurrence of `sub` in `s`. -/
def rfindStr (s sub : String) : Option Nat :=
  let rec go (i : Nat) (best : Option Nat) : List Char → Option Nat
    | [] => if sub.isEmpty then some i else best
    | x :: rest =>
      go (i + 1) (if listStartsWith (x :: rest) sub.toList then some i else best) rest
  go 0 none s.toList

/-- Whether the character `c` occurs in `s`. -/
def hasChar (s : String) (c : Char) : Bool := s.toList.contains c

/-- The character at index `i`, if any. -/
def charAt (s : String) (i : Nat) : Option Char := s.toList[i]?

/-- Lower-case letters of the ASCII range. -/
def lower (s : String) : String := String.ofList (s.toList.map Char.toLower)

/-- Upper-case letters of the ASCII range. -/
def upper (s : String) : String := String.ofList (s.toList.map Char.toUpper)

/-- `n` copies of the character `c`. -/
def rep (n : Nat) (c : Char) : String := String.ofList (List.replicate n c)

/-- Pads on the right with `c` to at least `w` characters. -/
def padRight (s : String) (w : Nat) (c : Char) : String := s ++ rep (w - s.length) c

/-- The lines of a text, split at line feeds; a final line feed ends the last line. -/
def lines (s : String) : List String :=
  let parts := splitOn s "\n"
  match parts.reverse with
  | "" :: rest => rest.reverse
  | _ => parts

end Str
end RocketSim
