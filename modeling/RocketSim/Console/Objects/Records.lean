import RocketSim.Console.Objects.Instance

/-!
# Logs and records on request

Column logs and time-step logs, flight records, and console captures.  A log method that
fails part way (adding several columns) keeps the changes made before the failure.
-/

namespace RocketSim
namespace Console
namespace Objects

/-- The text of a column name. -/
def columnName (v : Value) : Sim String :=
  match v with
  | .str s => pure s
  | _ => Sim.fail Fault.typeMismatch

/-- Builds a log, flight record or console capture by class. -/
def record? (cls : String) (args : List Arg) (kwargs : List (String × Arg)) :
    Option (Sim Instance) :=
  let makeLog (timeSteps : Bool) : Sim Instance := do
    let [names, fill] ← bindArgs [opt "columnNames" .null, opt "defaultFillValue" (.int 0)]
        args kwargs
      | Sim.fail Fault.typeMismatch
    let names ← match names.asValue with
      | .null => pure []
      | v => do (← seqItems v).mapM columnName
    .log <$> Sim.lift (Log.make names fill.asValue timeSteps)
  match cls with
  | "Log" => some (makeLog false)
  | "TimeStepLog" => some (makeLog true)
  | "RocketFlight" => some do
    let [] ← bindArgs [] args kwargs | Sim.fail Fault.typeMismatch
    pure (.flight {})
  | "Logger" => some do
    let [target, echo] ← bindArgs [req "stringListToCopyTo",
        opt "continueWritingToTerminal" (.bool true)] args kwargs
      | Sim.fail Fault.typeMismatch
    let pieces ← match target.asValue with
      | .list xs => pure xs
      | _ => Sim.fail Fault.noAttribute
    pure (.capture { pieces, echo := echo.asValue.truthy })
  | _ => none

/-- Calls a method of a log: its result or fault, and the log as the call leaves it. -/
def logReply (l : Log) (method : String) (args : List Value) (kwargs : List (String × Value)) :
    Option (Sim (Outcome Value × Instance)) :=
  let done (r : Value) (l : Log) : Sim (Outcome Value × Instance) := pure (.ok r, .log l)
  match method with
  | "newLogRow" => some do
    let [t] ← bindParams [req "currentTime"] args kwargs | Sim.fail Fault.typeMismatch
    done .null (← l.newRow t)
  | "logValue" => some do
    let [n, v] ← bindParams [req "colName", req "value"] args kwargs
      | Sim.fail Fault.typeMismatch
    match n with
    | .str n => done .null (← Sim.lift (l.logValue n v))
    | _ => Sim.fail (Fault.bare .keyError)
  | "addColumn" => some do
    let [n, fill] ← bindParams [req "colName", opt "fillValue" .null] args kwargs
      | Sim.fail Fault.typeMismatch
    let (l, col) ← Sim.lift (l.addColumn (← columnName n) fill)
    done (.list col) l
  | "addColumns" => some do
    let [ns] ← bindParams [req "colNames"] args kwargs | Sim.fail Fault.typeMismatch
    let names ← seqItems ns
    let rec go (names : List Value) (l : Log) (cols : List Value) :
        Sim (Outcome Value × Instance) := do
      match names with
      | [] => done (.list cols) l
      | n :: rest =>
        let r : Outcome (Log × List Value) ← tryCatch (do
            pure (.ok (← Sim.lift (l.addColumn (← columnName n)))))
          fun f => pure (.error f)
        match r with
        | .ok (l, col) => go rest l (cols ++ [.list col])
        | .error f => pure (.error f, .log l)
    go names l []
  | "deleteLastRow" => some do
    let [] ← bindParams [] args kwargs | Sim.fail Fault.typeMismatch
    done .null l.deleteLastRow
  | "getValue" => some do
    let [t, n] ← bindParams [req "time", req "colName"] args kwargs
      | Sim.fail Fault.typeMismatch
    match n with
    | .str n => done (← l.valueAt t n) l
    | _ => Sim.fail (Fault.bare .keyError)
  | "_completeLastLine" => some do
    let [] ← bindParams [] args kwargs | Sim.fail Fault.typeMismatch
    done .null (← l.completeLastLine)
  | "expandIterableColumns" => some do
    let [] ← bindParams [] args kwargs | Sim.fail Fault.typeMismatch
    done .null (← l.expandIterableColumns)
  | "_calculateTimeStepSizes" => if !l.timeSteps then none else some do
    let [] ← bindParams [] args kwargs | Sim.fail Fault.typeMismatch
    done .null (← l.stepSizes)
  | "writeToCSV" => some do
    let [path] ← bindParams [req "fileName"] args kwargs | Sim.fail Fault.typeMismatch
    let (written, l) ← l.writeCsv (← columnName path)
    done (.bool written) l
  | _ => none

/-- Calls a method of a flight record or a console capture. -/
def recordCall (o : Instance) (method : String) (args : List Value)
    (kwargs : List (String × Value)) : Option (Sim (Value × Instance)) :=
  let none0 (m : Sim Value) : Option (Sim (Value × Instance)) := some do
    let [] ← bindParams [] args kwargs | Sim.fail Fault.typeMismatch
    pure (← m, o)
  match o, method with
  | .flight f, "getFlightTime" => none0 f.flightTime
  | .flight f, "getApogee" => none0 f.apogee
  | .flight f, "getMaxSpeed" => none0 f.maxSpeed
  | .flight f, "getMaxHorizontalVel" => none0 f.maxHorizontalSpeed
  | .flight f, "getLandingLocation" => none0 f.landing
  | .capture c, "write" => some do
    let [m] ← bindParams [req "msg"] args kwargs | Sim.fail Fault.typeMismatch
    pure (.null, .capture (← c.write m))
  | .capture c, "writeLine" => some do
    let [m] ← bindParams [opt "msg" .null] args kwargs | Sim.fail Fault.typeMismatch
    pure (.null, .capture (← c.writeLine m))
  | .capture c, "addToLine" => some do
    let [m] ← bindParams [req "msg"] args kwargs | Sim.fail Fault.typeMismatch
    pure (.null, .capture (← c.addToLine m))
  | .capture c, "changeLoggingTarget" => some do
    let [t] ← bindParams [req "newTarget"] args kwargs | Sim.fail Fault.typeMismatch
    match t with
    | .list xs => pure (.null, .capture { c with pieces := xs })
    | _ => Sim.fail Fault.typeMismatch
  | .capture _, "flush" => none0 (pure .null)
  | .capture c, "writeLogToFile" => some do
    let [p, ow] ← bindParams [req "filePath", opt "overwrite" (.bool false)] args kwargs
      | Sim.fail Fault.typeMismatch
    c.writeToFile (← columnName p) ow.truthy
    pure (.null, o)
  | _, _ => none

/-- An attribute of a log, flight record or console capture. -/
def recordAttr (o : Instance) (name : String) : Option Value :=
  match o, name with
  | .log l, "logColumns" => some l.columnsValue
  | .log l, "fillValues" => some l.fillsValue
  | .flight f, n => f.field? n
  | .capture c, "log" => some (.list c.pieces)
  | .capture c, "currentMessage" => some (.str c.line)
  | .capture c, "continueWritingToTerminal" => some (.bool c.echo)
  | _, _ => none

end Objects
end Console
end RocketSim
