import RocketSim.Definition.Writer
import RocketSim.Definition.Reader
import RocketSim.Console.Decode
import RocketSim.Console.Encode

/-!
# Simulation definitions on request

A request names a definition by the files it writes into the working directory and the
one to read (`main.mapleaf` unless named), by the text of that one file, by an example of
the repository, or by a dictionary of entries.  Its calls run against the definition, or
against a reader of one of its dictionaries, each failing on its own.  Two pseudo-methods
report on the definition: `writeText`, the text it would be written as, and `usage`, the
keys never read and the defaults used.
-/

namespace RocketSim
namespace Console

/-- Where the example definitions of the repository are. -/
def examplesDirectory : String := Repository.root ++ "/MAPLEAF/Examples/Simulations/"

/-- The keyword arguments of a request by name. -/
def kwarg (kwargs : List (String × Value)) (name : String) : Option Value :=
  (kwargs.find? (·.1 == name)).map (·.2)

/-- Writes the files a request supplies into the working directory. -/
def writeFiles (req : Json) : Sim Unit := do
  match req.get? "files" with
  | some (.obj fs) => for (name, text) in fs do
      match text with
      | .str t => Sim.writeFile name t
      | _ => Sim.fail Fault.typeMismatch
  | _ => pure ()
  match req.get? "simdef" with
  | some (.str t) => Sim.writeFile "main.mapleaf" t
  | _ => pure ()

/-- The path of the definition file a request names, once its files are written. -/
def definitionPath (req : Json) : Option String :=
  match req.get? "example" with
  | some (.str name) => some (examplesDirectory ++ name)
  | _ =>
    let main := ((req.get? "main").bind Json.getStr?).getD "main.mapleaf"
    if (req.get? "files").isSome || (req.get? "simdef").isSome then some ("<tmp>/" ++ main)
    else none

/-- The definition a request names, read with the request's settings (quiet unless told
otherwise). -/
def definitionOf (req : Json) (kwargs : List (String × Value)) : Sim Definition := do
  let silent := ((kwarg kwargs "silent").map Value.truthy).getD true
  let sampling := !((kwarg kwargs "disableDistributionSampling").map Value.truthy).getD false
  match req.get? "dictionary" with
  | some (.obj kvs) =>
    let es ← kvs.mapM fun (k, v) => do pure (k, ← Sim.lift (readValue v))
    Definition.ofEntries es silent sampling
  | _ =>
    writeFiles req
    match definitionPath req with
    | some path => Definition.load path silent sampling
    | none => Sim.fail (Fault.raise .valueError
        "No fileName or dictionary provided to initialize the SimDefinition")

/-- A list of texts as a value. -/
def textList (xs : List String) : Value := .list (xs.map Value.str)

/-- The text argument at a position. -/
def textArg (args : List Value) (i : Nat) : Config String :=
  match args[i]? with
  | some (.str s) => pure s
  | some _ => Config.fail Fault.noAttribute
  | none => Config.fail Fault.typeMismatch

/-- The value argument at a position. -/
def valueArg (args : List Value) (i : Nat) : Config Value :=
  match args[i]? with
  | some v => pure v
  | none => Config.fail Fault.typeMismatch

/-- Calls a method of the definition. -/
def definitionMethod (method : String) (args : List Value) : Config Value := do
  match method with
  | "getValue" => Config.getValue (← textArg args 0)
  | "setValue" => do
    let key ← textArg args 0
    let v ← valueArg args 1
    modify (·.setValue key v)
    pure .null
  | "removeKey" => do
    let key ← textArg args 0
    let (r, d) := (← get).removeKey key
    set d
    pure (r.getD .null)
  | "setIfAbsent" => do
    let key ← textArg args 0
    let v ← valueArg args 1
    modify (·.setIfAbsent key v)
    pure .null
  | "findKeysContaining" => do
    let parts ← match ← valueArg args 0 with
      | .list xs => xs.mapM fun x => match x with
        | .str s => pure s
        | _ => Config.fail Fault.typeMismatch
      | .str s => pure [s]
      | _ => Config.fail Fault.typeMismatch
    pure (((← get).keysContaining parts).map textList |>.getD .null)
  | "getSubKeys" => do pure (textList ((← get).subKeys (← textArg args 0)))
  | "getImmediateSubKeys" => do pure (textList ((← get).immediateSubKeys (← textArg args 0)))
  | "getImmediateSubDicts" => do pure (textList ((← get).immediateSubDicts (← textArg args 0)))
  | "__contains__" => do pure (.bool ((← get).contains (← textArg args 0)))
  | "resampleProbabilisticValues" => do
    let d ← Config.sim (Sim.lift (Definition.resample (← get)))
    set d
    pure .null
  | "_getClassBasedDefaultValue" => do
    let (r, d) := (← get).classDefault? (← textArg args 0)
    set d
    pure ((r.map Value.str).getD .null)
  | "printUnusedKeys" | "printDefaultValuesUsed" => pure .null
  | "writeText" => do
    (.str ·) <$> Config.sim (Sim.lift ((← get).writtenText "" false))
  | "usage" => do
    let d ← get
    let sorted (xs : List String) : List String := xs.mergeSort fun a b => decide (a ≤ b)
    pure (.dict [(.str "unaccessed", textList (sorted d.unaccessed)),
      (.str "defaultsUsed", textList (sorted d.defaultsUsed))])
  | _ => Config.fail Fault.noAttribute

/-- The optional key argument of a reader's queries. -/
def optionalKey (args : List Value) : Config (Option String) :=
  match (args.head? : Option Value) with
  | none | some .null => pure none
  | some (.str s) => pure (some s)
  | some _ => Config.fail Fault.typeMismatch

/-- Calls a method of a reader of one dictionary of the definition. -/
def readerMethod (r : Reader) (method : String) (args : List Value) : Config Value := do
  let fallback : Config Value := match args[1]? with
    | some v => pure v
    | none => pure .null
  match method with
  | "getString" => r.getString (← textArg args 0)
  | "getInt" => (.int ·) <$> r.getInt (← textArg args 0)
  | "getFloat" => (.float ·) <$> r.getFloat (← textArg args 0)
  | "getVector" => (.vec ·) <$> r.getVector (← textArg args 0)
  | "getBool" => (fun b => .int (if b then 1 else 0)) <$> r.getBool (← textArg args 0)
  | "tryGetString" => do
    match ← r.tryGetString (← textArg args 0) with
    | some v => pure v
    | none => fallback
  | "tryGetInt" => do
    match ← r.tryGetInt (← textArg args 0) with
    | some n => pure (.int n)
    | none => fallback
  | "tryGetFloat" => do
    match ← r.tryGetFloat (← textArg args 0) with
    | some x => pure (.float x)
    | none => fallback
  | "tryGetVector" => do
    match ← r.tryGetVector (← textArg args 0) with
    | some v => pure (.vec v)
    | none => fallback
  | "tryGetBool" => do
    match ← r.tryGetBool (← textArg args 0) with
    | some b => pure (.int (if b then 1 else 0))
    | none => fallback
  | "getImmediateSubDicts" => textList <$> r.immediateSubDicts (← optionalKey args)
  | "getSubKeys" => textList <$> r.subKeys (← optionalKey args)
  | "getImmediateSubKeys" => textList <$> r.immediateSubKeys (← optionalKey args)
  | "getDictName" => pure (.str r.dictName)
  | _ => Config.fail Fault.noAttribute

/-- Sorts the items of a list result by their JSON text. -/
def sortByText (v : Value) : Value :=
  match v with
  | .list xs => .list (xs.mergeSort fun a b => decide ((encode a).renderSpaced ≤ (encode b).renderSpaced))
  | other => other

/-- Runs one call of a definition request against the definition: its answer, and the
definition as the call leaves it (also when it fails). -/
def definitionCall (call : Json) (d : Definition) : Sim (Json × Definition) := do
  let method := ((call.get? "method").bind Json.getStr?).getD ""
  let sort := ((call.get? "sort").map fun j => match j with
    | .bool b => b
    | _ => false).getD false
  let run : Config Value := do
    let args ← Config.sim (Sim.lift (readArgs call))
    match (call.get? "reader").bind Json.getStr? with
    | some path => readerMethod { path } method args
    | none => definitionMethod method args
  let r : Except Fault (Value × Definition) ←
    tryCatch (do let res ← run.run d; pure (.ok res)) fun f => pure (.error f)
  pure <| match r with
  | .ok (v, d') => (.obj [("r", encode (if sort then sortByText v else v))], d')
  | .error f => (encodeFault f, d)

/-- Answers a definition request: the entries as read, the answer of each call, and the
entries after the calls when asked for. -/
def answerDefinition (req : Json) : Sim Json := do
  let kwargs ← Sim.lift (readKwargs req)
  let d ← definitionOf req kwargs
  let entries (d : Definition) : Json := encode (.dict (d.entries.map fun (k, v) => (.str k, v)))
  let first := entries d
  let calls := ((req.get? "calls").bind Json.getArr?).getD []
  let (results, d) ← calls.foldlM (fun (acc, d) call => do
    let (r, d) ← definitionCall call d
    pure (acc ++ [r], d)) ([], d)
  let final := match req.get? "final" with
    | some (.bool true) => [("finalDict", entries d)]
    | _ => []
  pure (.obj ([("dict", first), ("results", .arr results)] ++ final))

end Console
end RocketSim
