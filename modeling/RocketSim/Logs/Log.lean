import RocketSim.Core.Ops
import RocketSim.Core.Methods
import RocketSim.Definition.Paths

/-!
# Column logs

A log records values over time in named columns, one row per time.  There is always a time
column, `Time(s)`.  A row is opened by giving its time, which must not be earlier than the
last row's; values are then appended column by column.  When the next row is opened, every
column still one value short is completed with its fill value (its own, or the log's
default); a column with more values than rows is an error.

When a log is written as CSV text, the last row is completed first and every column of
vectors, or of other sequences, is split into three columns, one per component: a vector's
components are `X`, `Y` and `Z`, a sequence's `0`, `1` and `2`; the suffix goes before the
first parenthesis of the name (`Position(m)` becomes `PositionX(m)`), or at its end.  The
time column comes first and the others follow in sorted order.

A time-step log also writes the step sizes, the differences of consecutive times with the
last one repeated.
-/

namespace RocketSim

/-- The name of the time column. -/
def timeColumn : String := "Time(s)"

/-- A log: its columns in order of creation, the fill values of some columns and the
default fill value (under `default`), and whether it is a time-step log. -/
structure Log where
  columns : List (String × List Value)
  fills : List (String × Value)
  timeSteps : Bool := false
  deriving Inhabited

namespace Log

/-- A log with the given columns (names without blanks) before the time column. -/
def make (names : List String) (defaultFill : Value) (timeSteps : Bool := false) :
    Except Fault Log := do
  for n in names do
    if n.toList.contains ' ' then
      throw (Fault.raise .valueError
        ("Log column names must not contain spaces. Name with space: " ++ n))
  let cols := names.foldl (fun (acc : List (String × List Value)) n =>
    if acc.any (·.1 == n) then acc.map fun (k, v) => if k == n then (k, []) else (k, v)
    else acc ++ [(n, [])]) []
  let cols := if cols.any (·.1 == timeColumn) then
      cols.map fun (k, v) => if k == timeColumn then (k, []) else (k, v)
    else cols ++ [(timeColumn, [])]
  pure { columns := cols, fills := [("default", defaultFill)], timeSteps }

/-- A column's values. -/
def column? (l : Log) (name : String) : Option (List Value) :=
  (l.columns.find? (·.1 == name)).map (·.2)

/-- The times of the rows. -/
def times (l : Log) : List Value := (l.column? timeColumn).getD []

/-- Replaces a column's values, or adds the column at the end. -/
def setColumn (l : Log) (name : String) (vs : List Value) : Log :=
  if l.columns.any (·.1 == name) then
    { l with columns := l.columns.map fun (k, v) => if k == name then (k, vs) else (k, v) }
  else { l with columns := l.columns ++ [(name, vs)] }

/-- The fill value of a column. -/
def fillOf (l : Log) (name : String) : Value :=
  match l.fills.find? (·.1 == name) with
  | some (_, v) => v
  | none => ((l.fills.find? (·.1 == "default")).map (·.2)).getD (.int 0)

/-- Completes the last row: every column one value short gets its fill value. -/
def completeLastLine (l : Log) : Sim Log := do
  let expected := l.times.length
  let cols ← l.columns.mapM fun (name, vs) => do
    if vs.length == expected then pure (name, vs)
    else if vs.length < expected then pure (name, vs ++ [l.fillOf name])
    else
      let last ← Sim.lift (Show.str (l.times.getLastD .null))
      Sim.fail (Fault.raise .valueError
        ("More values than expected in log column: " ++ name ++ " at time step: " ++ last))
  pure { l with columns := cols }

/-- Opens a row at a time, after completing the last one. -/
def newRow (l : Log) (time : Value) : Sim Log := do
  let l ← l.completeLastLine
  match l.times.getLast? with
  | some last =>
    if ← Ops.lt time last then
      let now ← Sim.lift (Show.str time)
      let before ← Sim.lift (Show.str last)
      Sim.fail (Fault.raise .valueError
        ("Times in log rows must be increasing sequentially. New Row Time: " ++ now ++
          ", Last Row Time: " ++ before))
  | none => pure ()
  pure (l.setColumn timeColumn (l.times ++ [time]))

/-- Removes the last row from the columns that reach it. -/
def deleteLastRow (l : Log) : Log :=
  let n := l.times.length
  if n == 0 then l
  else { l with columns := l.columns.map fun (k, vs) =>
    if vs.length == n then (k, vs.dropLast) else (k, vs) }

/-- Sets the entry of a name in an association list, or adds it at the end. -/
def setEntry (es : List (String × Value)) (name : String) (v : Value) :
    List (String × Value) :=
  if es.any (·.1 == name) then es.map (fun (k, w) => if k == name then (k, v) else (k, w))
  else es ++ [(name, v)]

/-- Adds a column, filled for the rows so far with its fill value (or the default); returns
the log and the new column. -/
def addColumn (l : Log) (name : String) (fill : Value := .null) :
    Except Fault (Log × List Value) := do
  if l.columns.any (·.1 == name) then
    throw (Fault.raise .valueError ("Column " ++ name ++ " already exists"))
  let l := match fill with
    | .null => l
    | f => { l with fills := setEntry l.fills name f }
  let rows := l.times.length
  let value := match fill with
    | .null => l.fillOf "default"
    | f => f
  let col := List.replicate rows value
  pure ({ l with columns := l.columns ++ [(name, col)] }, col)

/-- Appends a value to a column. -/
def logValue (l : Log) (name : String) (v : Value) : Except Fault Log := do
  match l.column? name with
  | some vs => pure (l.setColumn name (vs ++ [v]))
  | none => throw (Fault.bare .keyError)

/-- The value of a column in the first row not earlier than a time. -/
def valueAt (l : Log) (time : Value) (name : String) : Sim Value := do
  let times := l.times
  let rec firstNotBefore (fuel lo hi : Nat) : Sim Nat := do
    match fuel with
    | 0 => pure lo
    | fuel + 1 =>
      if lo < hi then
        let mid := (lo + hi) / 2
        if ← Ops.lt (times.getD mid .null) time then firstNotBefore fuel (mid + 1) hi
        else firstNotBefore fuel lo mid
      else pure lo
  let row ← firstNotBefore (times.length + 1) 0 times.length
  match l.column? name with
  | some vs => match vs[row]? with
    | some v => pure v
    | none => Sim.fail Fault.badIndex
  | none => Sim.fail (Fault.bare .keyError)

/-- The component of a logged value at a position. -/
def componentOf (v : Value) (i : Nat) : Sim Value := do
  match v with
  | .list xs | .tuple xs | .array xs | .conditions xs => match xs[i]? with
    | some x => pure x
    | none => Sim.fail Fault.badIndex
  | _ => do
    let (r, _) ← Sim.lift (Methods.call v "__getitem__" [.int i] [])
    pure r

/-- The component suffixes a column splits into, judged by its first value: none for
values that are not sequences, and for text. -/
def suffixesOf (sample : Value) : Option (List String) :=
  match sample with
  | .vec _ | .angVel _ => some ["X", "Y", "Z"]
  | .str _ => none
  | _ => match Methods.length sample with
    | .ok (.int n) => some ((List.range n.toNat).map toString)
    | _ => none

/-- The name of a component column. -/
def componentName (name suffix : String) : String :=
  if name.toList.contains '(' then Str.replace name "(" (suffix ++ "(") else name ++ suffix

/-- Splits every column of sequences into three component columns. -/
def expandIterableColumns (l : Log) : Sim Log := do
  l.columns.foldlM (fun (l : Log) (name, _) => do
    match l.column? name with
    | none => pure l
    | some vs =>
      match vs.head? with
      | none => pure l
      | some sample =>
        match suffixesOf sample with
        | none => pure l
        | some suffixes => do
          let l ← (List.range 3).foldlM (fun (l : Log) i => do
            let some suffix := suffixes[i]? | Sim.fail Fault.badIndex
            let comps ← vs.mapM fun v => componentOf v i
            pure (l.setColumn (componentName name suffix) comps)) l
          pure { l with columns := l.columns.filter (·.1 != name) }) l

/-- The step sizes of a time-step log: differences of consecutive times, the last one
repeated. -/
def stepSizes (l : Log) : Sim Log := do
  let times := l.times
  let steps ← if times.length > 1 then do
      let diffs ← (times.zip times.tail).mapM fun (a, b) => Ops.sub b a
      pure (diffs ++ [diffs.getLastD .null])
    else pure []
  pure (l.setColumn "TimeStep(s)" steps)

/-- A field of CSV text: the display text of a value (nothing for the absent value), quoted
when it holds a comma, a quote or a line break. -/
def csvField (v : Value) : Sim String := do
  let text ← match v with
    | .null => pure ""
    | _ => Sim.lift (Show.str v)
  if text.toList.any (fun c => c == ',' || c == '"' || c == '\n' || c == '\r') then
    pure ("\"" ++ Str.replace text "\"" "\"\"" ++ "\"")
  else pure text

/-- The CSV text of the rows of a log (already completed and expanded). -/
def csvText (l : Log) : Sim String := do
  let names := timeColumn :: ((l.columns.map (·.1)).filter (· != timeColumn)).mergeSort
    (fun a b => decide (a ≤ b))
  let header := ",".intercalate names
  let rows ← (List.range l.times.length).mapM fun i => do
    let fields ← names.mapM fun n => do
      match (l.column? n).bind (·[i]?) with
      | some v => csvField v
      | none => Sim.fail Fault.badIndex
    pure (",".intercalate fields)
  pure (String.join ((header :: rows).map (· ++ "\n")))

/-- Writes a log as CSV text to a file, when it has rows: returns whether it was written
and the log as writing leaves it (completed, expanded, with step sizes for a time-step
log). -/
def writeCsv (l : Log) (path : String) : Sim (Bool × Log) := do
  let l ← if l.timeSteps then l.stepSizes else pure l
  let l ← l.completeLastLine
  let l ← l.expandIterableColumns
  if l.times.length > 0 then
    Paths.writeText path (← l.csvText)
    pure (true, l)
  else pure (false, l)

/-- The columns as a mapping from names to lists of values. -/
def columnsValue (l : Log) : Value :=
  .dict (l.columns.map fun (k, vs) => (.str k, .list vs))

/-- The fill values as a mapping. -/
def fillsValue (l : Log) : Value :=
  .dict (l.fills.map fun (k, v) => (.str k, v))

end Log
end RocketSim
