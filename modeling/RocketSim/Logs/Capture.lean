import RocketSim.Core.Ops
import RocketSim.Definition.Paths

/-!
# Captured console text

A console capture keeps the pieces of text written to it, in order, optionally echoing
them to the terminal (which accepts text only).  Text can also be gathered into a line and
written once the line is complete; the pieces can be written to a file, unless the file
exists and may not be overwritten.
-/

namespace RocketSim

/-- A console capture: the pieces written, the line being gathered, and whether pieces are
echoed to the terminal. -/
structure ConsoleCapture where
  pieces : List Value
  line : String := ""
  echo : Bool := true
  deriving Inhabited

namespace ConsoleCapture

/-- Writes a piece; an echoed piece must be text. -/
def write (c : ConsoleCapture) (msg : Value) : Sim ConsoleCapture := do
  if c.echo then
    match msg with
    | .str _ => pure ()
    | _ => Sim.fail Fault.typeMismatch
  pure { c with pieces := c.pieces ++ [msg] }

/-- Writes a piece, or, without one, the gathered line with its line break. -/
def writeLine (c : ConsoleCapture) (msg : Value) : Sim ConsoleCapture := do
  match msg with
  | .null =>
    let cleared : ConsoleCapture := { c with line := "" }
    cleared.write (.str (c.line ++ "\n"))
  | m => c.write m

/-- Adds text to the gathered line. -/
def addToLine (c : ConsoleCapture) (msg : Value) : Sim ConsoleCapture := do
  match msg with
  | .str s => pure { c with line := c.line ++ s }
  | _ => Sim.fail Fault.typeMismatch

/-- Writes the pieces to a file, unless it exists and may not be overwritten. -/
def writeToFile (c : ConsoleCapture) (path : String) (overwrite : Bool) : Sim Unit := do
  if overwrite || !(← Paths.exists? path) then
    let texts ← c.pieces.mapM fun p => match p with
      | .str s => pure s
      | _ => Sim.fail Fault.typeMismatch
    Paths.writeText path (String.join texts)

end ConsoleCapture
end RocketSim
