import RocketSim.Control.MomentController
import RocketSim.Control.Actuator
import RocketSim.Tables.Scattered
import RocketSim.Aero.Parameters

/-!
# Tables in the control loop

Two parts of a control loop look their numbers up in scattered tables keyed by flight
parameters:

* a **gain-scheduled** moment controller retunes its PID gains before every step from a
  table whose key columns are followed by six gain columns, `Pxy Ixy Dxy Pz Iz Dz` (pitch
  and yaw gains, then roll gains);
* a **table-driven actuator controller** commands each actuator to the deflection a table
  gives at the current flight parameters followed by the three desired moments; the table
  has one deflection column per actuator.

A key is a list of numbers, as many as the table has key columns.
-/

namespace RocketSim

namespace ScatteredTable

/-- The number of key columns of a table. -/
def dims (t : ScatteredTable) : Nat := (t.points.getD 0 #[]).size

/-- The row of values at a key given as numbers; a key of the wrong length is refused. -/
def lookup (t : ScatteredTable) (keys : List Value) : Sim (Array Float) := do
  let xs ← keys.mapM Ops.real
  if xs.length != t.dims then Sim.fail Fault.badValue
  let (row, _) ← Sim.lift (t.eval xs.toArray)
  pure row

/-- The table read from a file of numbers below one header line: the given number of key
columns, then the value columns taken by `values`. -/
def load (path : String) (keyColumns : Nat) (values : List Float → List Float) :
    Sim ScatteredTable := do
  let rows ← NumberTable.load path 1
  Sim.lift (build (rows.map fun r => (r.take keyColumns).toArray).toArray
    (rows.map fun r => (values (r.drop keyColumns)).toArray).toArray)

end ScatteredTable

/-- Columns `[start, stop)` of a row, a negative bound counting from the row's end and every
bound clamped to the row. -/
def rowColumns (row : List Float) (start stop : Int) : List Float :=
  let bound (k : Int) : Nat := if k < 0 then (k + row.length).toNat else min k.toNat row.length
  (row.take (bound stop)).drop (bound start)

/-- A PID controller whose gains are scheduled by a table: each row of the table's file holds
key columns, then, at the given columns, the gains `P`, `I` and `D` at that key. -/
structure GainTablePid where
  table : ScatteredTable
  pid : Pid
  deriving Inhabited

namespace GainTablePid

/-- The controller of a gain table file whose first `keyColumns` columns are the key and whose
columns `pCol` to `dCol` are the gains, starting from an initial error with an optional
integral limit; the gains start at zero. -/
def load (path : String) (keyColumns pCol dCol : Int) (initialError : Value)
    (maxIntegral : Option Value) : Sim GainTablePid := do
  let pid ← Pid.make (.int 0) (.int 0) (.int 0) initialError maxIntegral
  let rows ← NumberTable.load path 1
  let table ← Sim.lift (ScatteredTable.build
    (rows.map fun r => (rowColumns r 0 keyColumns).toArray).toArray
    (rows.map fun r => (rowColumns r pCol (dCol + 1)).toArray).toArray)
  pure { table, pid }

/-- Retunes the controller to the gains of its table at a key.  The gains are replaced
without an integral limit, so a limit the controller was made with is dropped. -/
def retuneAt (s : GainTablePid) (key : List Value) : Sim GainTablePid := do
  let [p, i, d] := (← s.table.lookup key).toList.map Value.arrayScalar
    | Sim.fail Fault.badValue
  pure { s with pid := ← s.pid.retune p i d }

end GainTablePid

/-- A PID moment controller whose gains are scheduled by a table against flight parameters. -/
structure ScheduledPid where
  keys : List Aero.Parameter
  table : ScatteredTable
  pid : Pid
  deriving Inhabited

namespace ScheduledPid

/-- The controller of a gain table, keyed by the named flight parameters; an unknown name
is a missing key.  The gains start at zero. -/
def load (path : String) (names : List String) : Sim ScheduledPid := do
  let keys ← names.mapM fun n => match Aero.Parameter.ofName? n with
    | some p => pure p
    | none => Sim.fail (Fault.bare .keyError)
  let pid ← Pid.make (.int 0) (.int 0) (.int 0)
  let table ← ScatteredTable.load path keys.length (·.take 6)
  pure { keys, table, pid }

/-- Retunes the controller to the gains of its table at a key. -/
def retuneAt (s : ScheduledPid) (key : List Value) : Sim ScheduledPid := do
  let [pxy, ixy, dxy, pz, iz, dz] := (← s.table.lookup key).toList.map Value.float
    | Sim.fail Fault.badValue
  let pid ← s.pid.retune (← axisGains pxy pz) (← axisGains ixy iz) (← axisGains dxy dz)
  pure { s with pid }

/-- The moments that steer a state towards a target orientation, `dt` after the last
control step, with the gains scheduled at the state's flight parameters. -/
def desiredMoments (s : ScheduledPid) (state env target dt : Value) :
    Sim (Value × ScheduledPid) := do
  let err ← orientationError state target
  let key ← s.keys.mapM fun p => p.eval state env (.int 1)
  let s ← s.retuneAt key
  let (moments, pid) ← s.pid.step err dt
  pure (moments, { s with pid })

end ScheduledPid

/-- Commands actuators to the deflections a table gives at a key, at a time: returns every
deflection of the table's row, and the actuators commanded. -/
def commandFromTable (t : ScatteredTable) (key : List Value) (actuators : List FirstOrderActuator)
    (time : Value) : Sim (List Value × List FirstOrderActuator) := do
  let targets := (← t.lookup key).toList.map Value.float
  let actuators ← actuators.zipIdx.mapM fun (a, i) => match targets[i]? with
    | some v => a.command v time
    | none => Sim.fail Fault.badIndex
  pure (targets, actuators)

end RocketSim
