import RocketSim.Definition.Parser

/-!
# Writing simulation definitions

A definition is written back as nested dictionaries: keys in sorted order, so that the
keys of a dictionary stand together; a dictionary opens with its name and `{` on a new
line, indented by its depth, and closes with `}` when the next key leaves it; each key is
written by its last part, a tab, and its value.  Comments of the file it was read from
are not kept.
-/

namespace RocketSim
namespace Definition

/-- Tabs for an indentation depth. -/
def tabs (n : Nat) : String := Str.rep n '\t'

/-- The last part of a key: what follows its last dot. -/
def lastPart (key : String) : String := ((Str.splitOn key ".").getLast?).getD key

/-- The depth down to which the open dictionaries `current` stay open before a key in the
dictionaries `next`: closing from the innermost, the writer stops at the first level, no
deeper than `next`, whose name is the same in both; the levels above it are not compared. -/
def keptDepth (current next : List String) : Nat :=
  let rec go : Nat → Nat
    | 0 => 0
    | depth + 1 =>
      if depth + 1 > next.length || current[depth]? != next[depth]? then go depth
      else depth + 1
  go current.length

/-- The lines written before a key in the dictionaries `next` while the dictionaries
`current` are open: none when they are the same; otherwise a closing line for each
dictionary left, then a blank line and an opening line for each dictionary entered, or a
single blank line when none is entered. -/
def enterLines (current next : List String) : List String :=
  if next = current then []
  else
    let depth := keptDepth current next
    ((List.range (current.length - depth)).reverse.map fun k => tabs (depth + k) ++ "\x7d") ++
      ((List.range (next.length - depth)).flatMap fun k =>
        ["", tabs (depth + k) ++ next.getD (depth + k) "" ++ "\x7b"]) ++
      (if depth < next.length then [] else [""])

/-- The line of a key: its last part and its value, indented by its depth. -/
def entryLine (depth : Nat) (key value : String) : String :=
  tabs depth ++ lastPart key ++ "\t" ++ value

/-- The dictionaries a key is written in: all but the last part of its dotted path. -/
def keyDicts (key : String) : List String := (Str.splitOn key ".").dropLast

/-- Writes one entry after the lines `ls`, with the dictionaries `current` open: the lines
entering the key's dictionaries, then the key's own line.  Only text values are written. -/
def writeStep (st : List String × List String) (e : String × Value) :
    Except Fault (List String × List String) := do
  let (ls, current) := st
  let (key, v) := e
  let value ← match v with
    | .str s => pure s
    | _ => throw Fault.typeMismatch
  pure (ls ++ enterLines current (keyDicts key) ++
    [entryLine (keyDicts key).length key value], keyDicts key)

/-- The lines of a definition, without a header: the keys in sorted order, each inside its
dictionaries, then the closing lines of the dictionaries still open. -/
def bodyLines (d : Definition) : Except Fault (List String) := do
  let sorted := d.entries.mergeSort fun a b => decide (a.1 ≤ b.1)
  let (ls, current) ← sorted.foldlM writeStep ([], [])
  pure (ls ++ (List.range current.length).reverse.map fun k => tabs k ++ "\x7d")

/-- The text of a definition, without a header: its lines, each ended by a line feed. -/
def body (d : Definition) : Except Fault String := do
  pure (String.join ((← d.bodyLines).map (· ++ "\n")))

/-- The text of a definition file, with the header naming the file when asked for. -/
def writtenText (d : Definition) (fileName : String) (header : Bool) : Except Fault String := do
  let b ← d.body
  if header then
    pure ("# MAPLEAF\n# File: " ++ fileName ++ "\n# Autowritten on: <time>\n" ++ b)
  else pure b

/-- Reads a definition file, as a new definition with the given sampling settings. -/
def load (fileName : String) (silent : Bool := true) (sampling : Bool := true) : Sim Definition := do
  let es ← parseFile fileName [fileName]
  prepare { fileName := some fileName, entries := es, silent, sampling }

/-- Reads a definition file quietly, backed by a table of defaults of its own (an empty
table for a definition that is not a simulation's). -/
def loadWithDefaults (fileName : String) (defaults : List (String × String)) : Sim Definition := do
  let es ← parseFile fileName [fileName]
  prepare { fileName := some fileName, entries := es, defaults, silent := true }

/-- A definition made from given entries. -/
def ofEntries (es : List (String × Value)) (silent : Bool := true) (sampling : Bool := true) :
    Sim Definition :=
  prepare { entries := es, silent, sampling }

end Definition
end RocketSim
