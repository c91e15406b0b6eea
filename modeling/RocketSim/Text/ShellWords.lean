import RocketSim.Core.Fault

/-!
# Shell words

Splits a line into words the way a POSIX shell does, without expansions: words are
separated by whitespace; single quotes keep everything up to the next single quote;
double quotes keep everything up to the next unescaped double quote, where a backslash
escapes only a double quote or a backslash; outside quotes a backslash makes the next
character literal.  Quoted and unquoted parts next to each other form one word, and an
empty pair of quotes is an empty word.  A line that ends inside quotes, or right after an
escaping backslash, has no splitting.
-/

namespace RocketSim
namespace ShellWords

/-- The whitespace that separates words. -/
def isBlank (c : Char) : Bool := c == ' ' || c == '\t' || c == '\r' || c == '\n'

/-- The fault of a line that ends inside quotes. -/
def unclosedQuote : Fault := Fault.bare .valueError

/-- Reads a single-quoted part: the characters up to the closing quote, and the rest. -/
def singleQuoted : List Char → List Char → Outcome (List Char × List Char)
  | _, [] => throw unclosedQuote
  | acc, c :: rest => if c == '\x27' then pure (acc, rest) else singleQuoted (acc ++ [c]) rest

/-- Reads a double-quoted part: the characters up to the closing quote, with a backslash
escaping a double quote or a backslash, and the rest. -/
def doubleQuoted : List Char → List Char → Outcome (List Char × List Char)
  | _, [] => throw unclosedQuote
  | acc, '"' :: rest => pure (acc, rest)
  | acc, '\\' :: c :: rest =>
    if c == '"' || c == '\\' then doubleQuoted (acc ++ [c]) rest
    else doubleQuoted (acc ++ ['\\', c]) rest
  | acc, c :: rest => doubleQuoted (acc ++ [c]) rest

/-- Reads one word from characters that start it: its characters, and the rest. -/
def word (fuel : Nat) (acc : List Char) (cs : List Char) : Outcome (List Char × List Char) :=
  match fuel with
  | 0 => pure (acc, cs)
  | fuel + 1 =>
    match cs with
    | [] => pure (acc, [])
    | c :: rest =>
      if isBlank c then pure (acc, c :: rest)
      else if c == '\x27' then do
        let (part, rest) ← singleQuoted [] rest
        word fuel (acc ++ part) rest
      else if c == '"' then do
        let (part, rest) ← doubleQuoted [] rest
        word fuel (acc ++ part) rest
      else if c == '\\' then
        match rest with
        | d :: rest => word fuel (acc ++ [d]) rest
        | [] => throw (Fault.bare .valueError)
      else word fuel (acc ++ [c]) rest

/-- The words of a line. -/
def split (line : String) : Outcome (List String) :=
  let rec go (fuel : Nat) (cs : List Char) : Outcome (List String) :=
    match fuel with
    | 0 => pure []
    | fuel + 1 =>
      match cs.dropWhile isBlank with
      | [] => pure []
      | cs => do
        let (w, rest) ← word (cs.length + 1) [] cs
        let ws ← go fuel rest
        pure (String.ofList w :: ws)
  go (line.length + 1) line.toList

end ShellWords
end RocketSim
