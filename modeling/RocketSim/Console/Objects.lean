import RocketSim.Console.Objects.Integrators
import RocketSim.Console.Objects.Surroundings
import RocketSim.Console.Objects.Bodies
import RocketSim.Console.Objects.Controls
import RocketSim.Console.Objects.Records
import RocketSim.Console.Functions
import RocketSim.Console.Definitions

/-!
# Object requests

An object request builds an object by class (or by a factory function), runs a list of
calls against it, and reads attributes by dotted paths.  Each call and each attribute
fails on its own; a failing constructor fails the whole request.

A call is a method call, an assignment of attributes, or the reading of a file the object
wrote.  A part of a path that is an integer indexes into the value reached so far.
-/

namespace RocketSim
namespace Console
namespace Objects

/-- Builds an object by class name. -/
def construct (cls : String) (args : List Arg) (kwargs : List (String × Arg)) : Sim Instance :=
  match integrator? cls args kwargs with
  | some r => r
  | none => match surroundings? cls args kwargs with
    | some r => r
    | none => match body? cls args kwargs with
      | some r => r
      | none => match control? cls args kwargs with
        | some r => r
        | none => match record? cls args kwargs with
          | some r => r
          | none => Sim.fail Fault.noAttribute

/-- The nesting bound of constructor arguments. -/
def argDepth : Nat := 50

mutual

/-- Reads a constructor argument: definitions, readers and objects to build, lists of
arguments, or values. -/
def decodeArg (fuel : Nat) (j : Json) : Sim Arg :=
  match fuel with
  | 0 => Sim.fail (Fault.bare (.other "RecursionError"))
  | fuel + 1 =>
    match j with
    | .obj [("SD", body)] => do
      let es ← match body with
        | .obj kvs => kvs.mapM fun (k, v) => do pure (k, ← Sim.lift (readValue v))
        | _ => Sim.fail Fault.typeMismatch
      pure (.object (.definition (← Definition.ofEntries es true true)))
    | .obj [("SDR", body)] => do
      let path ← match body.get? "path" with
        | some (.str p) => pure p
        | _ => Sim.fail Fault.typeMismatch
      let es ← match body.get? "dict" with
        | some (.obj kvs) => kvs.mapM fun (k, v) => do pure (k, ← Sim.lift (readValue v))
        | _ => pure []
      pure (.object (.reader { path } (← Definition.ofEntries es false true)))
    | .obj [("new", spec)] => (.object ·) <$> build fuel spec
    | .arr xs => do
      let items ← xs.mapM (decodeArg fuel)
      let values := items.filterMap fun a => match a with
        | .value v => some v
        | _ => none
      if values.length == items.length then pure (.value (.list values)) else pure (.list items)
    | _ => (.value ·) <$> Sim.lift (readValue j)

/-- Builds the object a specification names: a class or a factory function, with its
positional and keyword arguments. -/
def build (fuel : Nat) (spec : Json) : Sim Instance :=
  match fuel with
  | 0 => Sim.fail (Fault.bare (.other "RecursionError"))
  | fuel + 1 => do
    let args ← match spec.get? "args" with
      | some (.arr xs) => xs.mapM (decodeArg fuel)
      | _ => pure []
    let kwargs ← match spec.get? "kwargs" with
      | some (.obj kvs) => kvs.mapM fun (k, v) => do pure (k, ← decodeArg fuel v)
      | _ => pure []
    match (spec.get? "class").bind Json.getStr?, (spec.get? "fn").bind Json.getStr? with
    | some cls, _ => construct cls args kwargs
    | none, some fn => construct fn args kwargs
    | none, none => Sim.fail Fault.typeMismatch

end

/-- Calls a method of an object: its result or fault, and the object as the call leaves
it.  A fault thrown instead leaves the object as it was. -/
def callMethod (o : Instance) (method : String) (args : List Value)
    (kwargs : List (String × Value)) : Sim (Outcome Value × Instance) := do
  let r : Option (Sim (Outcome Value × Instance)) := match o with
    | .value v => some do
      let (r, v) ← Sim.lift (Methods.call v method args kwargs)
      pure (.ok r, .value v)
    | .integrator i cb => (integratorCall applyValue i cb method args kwargs).map fun m => do
      let (r, i) ← m
      pure (.ok r, .integrator i cb)
    | .definition _ | .reader _ _ => none
    | .body b f i extras cb =>
      (bodyCall applyValue b f i extras cb method args kwargs).map fun m => do
        let (r, o) ← m
        pure (.ok r, o)
    | .pid .. | .gainTablePid _ | .scheduledPid _ | .firstOrderSystem _ | .actuator _ | .stabilizer _
    | .scattered .. | .actuatorTable .. =>
      (controlCall applyValue o method args kwargs).map fun m => do
        let (r, o) ← m
        pure (.ok r, o)
    | .log l => logReply l method args kwargs
    | .flight _ | .capture _ =>
      (recordCall o method args kwargs).map fun m => do
        let (r, o) ← m
        pure (.ok r, o)
    | _ => surroundingsReply o method args kwargs
  match r with
  | some m => m
  | none => Sim.fail Fault.noAttribute

/-- An attribute of an object. -/
def attributeOf (o : Instance) (name : String) : Sim Member := do
  let r : Option (Sim Member) := match o with
    | .value v => match Arith.attr v name with
      | .ok w => some (pure (.value w))
      | .error _ => none
    | .integrator i _ => (integratorAttr i name).map fun v => pure (Member.value v)
    | .definition _ | .reader _ _ => none
    | .body b f i _ cb => (bodyAttr b f i cb name).map pure
    | .pid .. | .gainTablePid _ | .scheduledPid _ | .firstOrderSystem _ | .actuator _ | .stabilizer _
    | .scattered .. | .actuatorTable .. =>
      match controlMember o name with
      | some m => some (pure m)
      | none => (controlAttr o name).map fun v => pure (Member.value v)
    | .log _ | .flight _ | .capture _ =>
      (recordAttr o name).map fun v => pure (Member.value v)
    | _ => surroundingsAttr o name
  match r with
  | some m => m
  | none => Sim.fail Fault.noAttribute

/-- Assigns an attribute of an object. -/
def assign (o : Instance) (name : String) (v : Value) : Sim Instance := do
  match o with
  | .flight f => pure (.flight (f.setField name v))
  | _ => Sim.fail Fault.noAttribute

/-- The item at an index of a sequence, counting from the end for a negative index. -/
def itemAt {α : Type} (xs : List α) (i : Int) : Sim α := do
  let n : Int := xs.length
  let j := if i < 0 then i + n else i
  if j < 0 || j ≥ n then Sim.fail Fault.badIndex
  match xs[j.toNat]? with
  | some x => pure x
  | none => Sim.fail Fault.badIndex

/-- Indexes into a value. -/
def indexValue (v : Value) (i : Int) : Sim Value :=
  match v with
  | .list xs | .tuple xs | .array xs => itemAt xs i
  | .dict es => do
    let numeric : Value → Bool := fun k => match k with
      | .int _ | .float _ | .bool _ => true
      | _ => false
    let hit ← es.findM? fun (k, _) => do
      if numeric k then Ops.eq k (.int i) else pure false
    match hit with
    | some (_, x) => pure x
    | none => Sim.fail (Fault.bare .keyError)
  | _ => do
    let (r, _) ← Sim.lift (Methods.call v "__getitem__" [.int i] [])
    pure r

/-- Follows one part of a dotted path from a member. -/
def step (m : Member) (part : String) : Sim Member :=
  match m, part.toInt? with
  | .value v, some i => (.value ·) <$> indexValue v i
  | .value v, none => (.value ·) <$> Sim.lift (Arith.attr v part)
  | .object o, some i => (.value ·) <$> indexValue o.asValue i
  | .object o, none => attributeOf o part
  | .objects os, some i => (.object ·) <$> itemAt os i
  | .objects _, none => Sim.fail Fault.noAttribute

/-- The value at a dotted path of an object. -/
def valueAt (o : Instance) (path : String) : Sim Value := do
  let m ← (path.splitOn ".").foldlM step (.object o)
  pure m.asValue

/-- Runs a computation, answering its fault instead of failing. -/
def guarded (m : Sim Json) : Sim Json :=
  tryCatch m fun f => pure (encodeFault f)

/-- The attributes a request asks for, each read on its own. -/
def attributes (o : Instance) (req : Json) : Sim (List (String × Json)) := do
  match req.get? "get" with
  | some (.arr paths) =>
    let kvs ← paths.filterMapM fun p => match p with
      | .str path => do pure (some (path, ← guarded (encode <$> valueAt o path)))
      | _ => pure none
    pure [("attrs", .obj kvs)]
  | _ => pure []

/-- Runs one call against an object: its answer and the object afterwards. -/
def runCall (o : Instance) (call : Json) : Sim (Json × Instance) := do
  match call.get? "set", call.get? "readFile" with
  | some (.obj kvs), _ =>
    let r : Sim Instance := kvs.foldlM (fun o (k, v) => do
      assign o k (← Sim.lift (readValue v))) o
    tryCatch (do let o ← r; pure (.obj [("set", .bool true)], o))
      fun f => pure (encodeFault f, o)
  | _, some (.str name) =>
    match ← Sim.readFile? name with
    | some text => pure (.obj [("r", .str text)], o)
    | none => pure (encodeFault Paths.missingFile, o)
  | _, _ =>
    let method := ((call.get? "method").bind Json.getStr?).getD ""
    let run : Sim (Outcome Value × Instance) := do
      let args ← Sim.lift (readArgs call)
      let kwargs ← Sim.lift (readKwargs call)
      callMethod o method args kwargs
    let (r, o) ← tryCatch run fun f => pure (.error f, o)
    match r with
    | .ok v => pure (.obj ([("r", encode v)] ++ (← attributes o call)), o)
    | .error f => pure (encodeFault f, o)

/-- Answers an object request. -/
def answer (req : Json) : Sim Json := do
  let o ← build argDepth ((req.get? "new").getD .null)
  let calls := ((req.get? "calls").bind Json.getArr?).getD []
  let (results, o) ← calls.foldlM (fun (acc, o) call => do
    let (r, o) ← runCall o call
    pure (acc ++ [r], o)) ([], o)
  pure (.obj ([("class", .str o.className), ("results", .arr results)] ++ (← attributes o req)))

end Objects
end Console
end RocketSim
