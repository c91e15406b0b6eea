import RocketSim.Core.Ops
import RocketSim.Definition.Paths
import RocketSim.Numeric.FloatText

/-!
# Tables of numbers in text files

Atmosphere tables, wind profiles and gravity coefficients are stored as text: a few
header lines, then one row of numbers per line, separated by blanks.  A `#` starts a
comment, blank lines are ignored, and every row must have as many numbers as the first.
A table is read as its rows; its columns are taken as needed.
-/

namespace RocketSim

/-- A table of numbers, by rows. -/
abbrev NumberTable := List (List Float)

namespace NumberTable

/-- The text of a line before its comment. -/
def uncommented (line : String) : String :=
  match Str.findStr line "#" with
  | some i => Str.take line i
  | none => line

/-- Reads a table from text, skipping the given number of header lines. -/
def parse (text : String) (skipRows : Nat) : Except Fault NumberTable := do
  let lines := ((Str.splitOn text "\n").drop skipRows).map fun l => Str.strip (uncommented l)
  let rows ← (lines.filter (!·.isEmpty)).mapM fun l =>
    (Str.splitWs l).mapM fun w => match FloatText.parse w with
      | some x => pure x
      | none => throw Fault.badValue
  match rows with
  | first :: rest =>
    if rest.any (·.length != first.length) then throw Fault.badValue
    pure rows
  | [] => pure []

/-- Reads the table in a file, skipping the given number of header lines. -/
def load (path : String) (skipRows : Nat) : Sim NumberTable := do
  Sim.lift (parse (← Paths.readText path) skipRows)

/-- A column of a table. -/
def column (t : NumberTable) (i : Nat) : List Float := t.map fun row => row.getD i 0.0

/-- The columns of a table from a given one on, by rows. -/
def columnsFrom (t : NumberTable) (i : Nat) : NumberTable := t.map (·.drop i)

end NumberTable
end RocketSim
