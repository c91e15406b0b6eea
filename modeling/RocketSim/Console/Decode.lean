import RocketSim.Console.Encode
import RocketSim.Motion.Construct

/-!
# Reading requests

A request's arguments are JSON documents.  An object with exactly one key that is a known
tag is built into the value the tag names (`{"V": [1, 2, 3]}` is a vector,
`{"Qk": {"axisOfRotation": …, "angle": …}}` a quaternion from an axis and an angle, and
so on), through the same constructors the library offers, so a malformed argument fails
as the constructor does.  Any other object is a mapping with string keys, arrays are
lists, and numbers keep their integer or binary64 kind.
-/

namespace RocketSim
namespace Console

/-- The place where files of the library's own repository are found. -/
def repositoryRoot : String := Repository.root

/-- The working directory of a request. -/
def workingDirectory : String := "<tmp>"

/-- The default atmospheric conditions, field by field. -/
def defaultConditions : List (String × Value) :=
  [("ASLAltitude", .float 0.0), ("Temp", .float 288.15), ("Pressure", .float 101325.0),
   ("Density", .float 1.225), ("DynamicViscosity", .float 1.789e-5),
   ("Wind", .vec Vec3.zero), ("MeanWind", .vec Vec3.zero), ("TurbWind", .vec Vec3.zero)]

/-- The tags that name a built value. -/
def tags : List String :=
  ["V", "Vs", "Vraw", "AV", "AVk", "Q", "Qk", "float", "RBS", "RBS3", "RBSD", "RBSD3", "SL",
   "I", "FMS", "ENV", "path", "ref", "SD", "SDR", "new", "ns", "tuple", "np", "dict", "fn"]

/-- Keyword arguments checked against the names a constructor accepts. -/
def takeKwargs (kvs : List (String × Value)) (allowed : List String) :
    Outcome (String → Option Value) := do
  for (k, _) in kvs do
    if !allowed.contains k then throw Fault.typeMismatch
  pure fun name => (kvs.find? (·.1 == name)).map (·.2)

mutual

/-- Reads a document that must denote a value of the state algebra. -/
def decodeValue (fuel : Nat) (j : Json) : Outcome Value :=
  match fuel with
  | 0 => throw (Fault.bare (.other "RecursionError"))
  | fuel + 1 =>
    match j with
    | .null => pure .null
    | .bool b => pure (.bool b)
    | .int n => pure (.int n)
    | .num x => pure (.float x)
    | .str s => pure (.str s)
    | .arr xs => (.list ·) <$> xs.mapM (decodeValue fuel)
    | .obj [(tag, body)] =>
      if tags.contains tag then decodeTagged fuel tag body
      else do
        let v ← decodeValue fuel body
        pure (.dict [(.str tag, v)])
    | .obj kvs => do
      let es ← kvs.mapM fun (k, v) => do pure (Value.str k, ← decodeValue fuel v)
      pure (.dict es)

/-- Reads the members of an object as keyword arguments. -/
def decodeKwargs (fuel : Nat) (j : Json) : Outcome (List (String × Value)) :=
  match fuel with
  | 0 => throw (Fault.bare (.other "RecursionError"))
  | fuel + 1 =>
    match j with
    | .obj kvs => kvs.mapM fun (k, v) => do pure (k, ← decodeValue fuel v)
    | _ => throw Fault.typeMismatch

/-- Builds the value a tag names. -/
def decodeTagged (fuel : Nat) (tag : String) (body : Json) : Outcome Value :=
  match fuel with
  | 0 => throw (Fault.bare (.other "RecursionError"))
  | fuel + 1 =>
    let args : Outcome (List Value) := match body with
      | .arr xs => xs.mapM (decodeValue fuel)
      | _ => throw Fault.typeMismatch
    match tag with
    | "V" | "Vraw" => do Construct.vector (← args)
    | "Vs" => do Construct.vector [← decodeValue fuel body]
    | "AV" => do
      let xs ← args
      if xs.length > 3 then throw Fault.typeMismatch
      Construct.angularVelocity (xs.getD 0 .null) (xs.getD 1 .null) (xs.getD 2 .null)
    | "AVk" => do
      let kw ← takeKwargs (← decodeKwargs fuel body) ["axisOfRotation", "angularVel", "rotationVector"]
      Construct.angularVelocity ((kw "axisOfRotation").getD .null)
        ((kw "angularVel").getD .null) ((kw "rotationVector").getD .null)
    | "Q" => do
      let xs ← args
      if xs.length > 4 then throw Fault.typeMismatch
      Construct.quaternion (xs.getD 0 .null) (xs.getD 1 .null) (xs.getD 2 .null)
        (xs.getD 3 .null)
    | "Qk" => do
      let kw ← takeKwargs (← decodeKwargs fuel body) ["axisOfRotation", "angle", "components", "Q3"]
      Construct.quaternion ((kw "axisOfRotation").getD .null) ((kw "angle").getD .null)
        ((kw "components").getD .null) ((kw "Q3").getD .null)
    | "float" =>
      match body with
      | .str "nan" => pure ((.float Binary64.nan))
      | .str "inf" => pure ((.float Binary64.inf))
      | .str "-inf" => pure ((.float (-Binary64.inf)))
      | _ => throw Fault.badValue
    | "RBS" => do
      let kw ← takeKwargs (← decodeKwargs fuel body) ["position", "velocity", "orientation", "angularVelocity"]
      let opt (k : String) : Option Value := match kw k with
        | some .null | none => none
        | some v => some v
      pure ((Construct.rigidBodyState (opt "position") (opt "velocity") (opt "orientation")
        (opt "angularVelocity")))
    | "RBS3" => do
      let kw ← takeKwargs (← decodeKwargs fuel body) ["position", "velocity"]
      match kw "position", kw "velocity" with
      | some p, some v => pure ((.pointState p v))
      | _, _ => throw Fault.typeMismatch
    | "RBSD" => do
      let kw ← takeKwargs (← decodeKwargs fuel body)
        ["velocity", "acceleration", "angularVelocity", "angularAccel"]
      match kw "velocity", kw "acceleration", kw "angularVelocity", kw "angularAccel" with
      | some a, some b, some c, some d => pure ((.stateRate a b c d))
      | _, _, _, _ => throw Fault.typeMismatch
    | "RBSD3" => do
      let kw ← takeKwargs (← decodeKwargs fuel body) ["velocity", "acceleration"]
      match kw "velocity", kw "acceleration" with
      | some a, some b => pure ((.pointStateRate a b))
      | _, _ => throw Fault.typeMismatch
    | "SL" => do
      let kw ← takeKwargs (← decodeKwargs fuel body) ["items", "names"]
      let items ← match kw "items" with
        | some v => match v.items? with
          | some xs => pure xs
          | none => throw Fault.typeMismatch
        | none => throw Fault.typeMismatch
      let names ← match kw "names" with
        | some .null | none => pure none
        | some v => match v.items? with
          | some xs => pure (some xs)
          | none => throw Fault.typeMismatch
      Construct.stateList items names
    | "I" => do
      let kw ← takeKwargs (← decodeKwargs fuel body) ["MOI", "CG", "mass", "MOICentroidLocation"]
      match kw "MOI", kw "CG", kw "mass" with
      | some moi, some cg, some m => pure ((Construct.inertia moi cg m (kw "MOICentroidLocation")))
      | _, _, _ => throw Fault.typeMismatch
    | "FMS" => do
      let kw ← takeKwargs (← decodeKwargs fuel body) ["force", "location", "moment"]
      match kw "force" with
      | some f => pure ((Construct.forceMoment f (kw "location") (kw "moment")))
      | none => throw Fault.typeMismatch
    | "ENV" => do
      let kw ← decodeKwargs fuel body
      let get (k : String) : Value := match kw.find? (·.1 == k) with
        | some (_, v) => v
        | none => match k with
          | "MeanWind" => match kw.find? (·.1 == "Wind") with
            | some (_, w) => w
            | none => .vec Vec3.zero
          | _ => ((defaultConditions.find? (·.1 == k)).map (·.2)).getD .null
      pure ((.conditions (Value.conditionFields.map get)))
    | "path" =>
      match body with
      | .str p => pure ((.str (repositoryRoot ++ "/" ++ p)))
      | _ => throw Fault.typeMismatch
    | "ref" =>
      match body with
      | .str r => pure (.func r .null)
      | _ => throw Fault.typeMismatch
    | "ns" =>
      match body with
      | .obj kvs => do
        let fields ← kvs.mapM fun (k, v) => do pure (k, ← decodeValue fuel v)
        pure (.record fields)
      | _ => throw Fault.typeMismatch
    | "tuple" => do pure ((.tuple (← args)))
    | "np" => do
      let xs ← args
      toArray xs
    | "dict" => do
      let kw ← decodeKwargs fuel body
      pure ((.dict (kw.map fun (k, v) => (.str k, v))))
    | "fn" => do
      let kw ← decodeKwargs fuel body
      let kind := match kw.find? (·.1 == "kind") with
        | some (_, .str k) => k
        | _ => ""
      let p := ((kw.find? (·.1 == "p")).map (·.2)).getD .null
      pure (.func ("fixture." ++ kind) p)
    | _ => throw Fault.typeMismatch
where
  /-- A numeric array from nested lists, every entry a binary64 number. -/
  toArray (xs : List Value) : Outcome Value := do
    let items ← xs.mapM fun x =>
      match x with
      | .list ys => toArrayRow ys
      | _ => match x.toFloat? with
        | some f => pure (Value.float f)
        | none => throw Fault.badValue
    pure (.array items)
  /-- A row of a numeric array. -/
  toArrayRow (ys : List Value) : Outcome Value := do
    let items ← ys.mapM fun y => match y.toFloat? with
      | some f => pure (Value.float f)
      | none => throw Fault.badValue
    pure (.array items)

end

/-- The recursion bound for reading documents. -/
def decodeDepth : Nat := 200

/-- Reads a document as a value. -/
def readValue (j : Json) : Outcome Value := decodeValue decodeDepth j

/-- Reads the positional arguments of a request. -/
def readArgs (req : Json) : Outcome (List Value) := do
  match req.get? "args" with
  | some (.arr xs) => xs.mapM readValue
  | some _ => throw Fault.typeMismatch
  | none => pure []

/-- Reads the keyword arguments of a request. -/
def readKwargs (req : Json) : Outcome (List (String × Value)) := do
  match req.get? "kwargs" with
  | some (.obj kvs) => kvs.mapM fun (k, v) => do pure (k, ← readValue v)
  | some _ => throw Fault.typeMismatch
  | none => pure []

end Console
end RocketSim
