import RocketSim.Core.Arith
import RocketSim.Text.Json
import RocketSim.Data.Repository

/-!
# Answers

How values are written in answers: numbers as JSON numbers, non-finite binary64 values as
`{"float": "nan" | "inf" | "-inf"}`, each class of the state algebra under its tag
(`V`, `AV`, `Q`, `RBS`, `RBS3`, `RBSD`, `RBSD3`, `SL`, `I`, `FMS`, `IR`, `ENV`), lists
and tuples as arrays, sets and mappings as sorted tagged arrays, and any other object as
`{"object": its class name}`.  Faults are `{"error": kind}`, with the message when the
fault states one.

Text that starts with the repository's directory shows it as `<repo>`, so that answers do
not depend on where the repository is installed.
-/

namespace RocketSim
namespace Console

/-- Text as an answer shows it: a leading repository directory is written `<repo>`. -/
def shownText (s : String) : String :=
  if Str.startsWith s Repository.root then "<repo>" ++ Str.drop s Repository.root.length else s

/-- A binary64 number in an answer. -/
def encodeFloat (x : Float) : Json :=
  if x.isNaN then .obj [("float", .str "nan")]
  else if x.isInf then .obj [("float", .str (if x > 0.0 then "inf" else "-inf"))]
  else .num x

/-- A vector's components. -/
def encodeVec (v : Vec3) : Json := .arr [encodeFloat v.x, encodeFloat v.y, encodeFloat v.z]

/-- Inserts into a list sorted by key. -/
def insertSorted {α : Type} (key : α → String) (x : α) : List α → List α
  | [] => [x]
  | y :: ys => if decide (key x < key y) then x :: y :: ys else y :: insertSorted key x ys

/-- Sorts by a string key, keeping the order of equal keys. -/
def sortBy {α : Type} (key : α → String) (xs : List α) : List α :=
  xs.foldr (insertSorted key) []

/-- The text that orders the entries of a mapping: the display text of the key. -/
def keyText (k : Value) : String :=
  match Show.str k with
  | .ok s => s
  | .error _ => ""

/-- A size bound used for the recursion of `encode`. -/
theorem sizeOf_entry_fst {kv : Value × Value} {kvs : List (Value × Value)} (h : kv ∈ kvs) :
    sizeOf kv.1 < 1 + sizeOf kvs := by
  have := List.sizeOf_lt_of_mem h
  cases kv; simp at this ⊢; omega

/-- A size bound used for the recursion of `encode`. -/
theorem sizeOf_entry_snd {kv : Value × Value} {kvs : List (Value × Value)} (h : kv ∈ kvs) :
    sizeOf kv.2 < 1 + sizeOf kvs := by
  have := List.sizeOf_lt_of_mem h
  cases kv; simp at this ⊢; omega

/-- A value in an answer. -/
def encode (v : Value) : Json :=
  match v with
  | .null => .null
  | .bool b => .bool b
  | .int n => .int n
  | .float x => encodeFloat x
  | .arrayScalar x => .obj [("np", encodeFloat x)]
  | .str s => .str (shownText s)
  | .list xs | .tuple xs => .arr (xs.attach.map fun ⟨x, _⟩ => encode x)
  | .set xs =>
    let items := xs.attach.map fun ⟨x, _⟩ => encode x
    .obj [("set", .arr (sortBy Json.render items))]
  | .array xs => .obj [("np", .arr (xs.attach.map fun ⟨x, _⟩ => encodeArrayItem x))]
  | .dict es =>
    let items := es.attach.map fun ⟨kv, h⟩ =>
      have := sizeOf_entry_fst h
      have := sizeOf_entry_snd h
      (keyText kv.1, Json.arr [encode kv.1, encode kv.2])
    .obj [("dict", .arr ((sortBy (·.1) items).map (·.2)))]
  | .vec p => .obj [("V", encodeVec p)]
  | .angVel p => .obj [("AV", encodeVec p)]
  | .quat q => .obj [("Q", .arr [encodeFloat q.q0, encodeFloat q.q1, encodeFloat q.q2, encodeFloat q.q3])]
  | .state p vel o w => .obj [("RBS", .obj [("position", encode p), ("velocity", encode vel),
      ("orientation", encode o), ("angularVelocity", encode w)])]
  | .pointState p vel => .obj [("RBS3", .obj [("position", encode p), ("velocity", encode vel)])]
  | .stateRate vel acc w aa => .obj [("RBSD", .obj [("velocity", encode vel),
      ("acceleration", encode acc), ("angularVelocity", encode w), ("angularAccel", encode aa)])]
  | .pointStateRate vel acc => .obj [("RBSD3", .obj [("velocity", encode vel),
      ("acceleration", encode acc)])]
  | .stateList items names => .obj [("SL", .obj [("items", .arr (items.attach.map fun ⟨x, _⟩ => encode x)),
      ("names", .obj (names.map fun (k, i) => (k, .int i)))])]
  | .inertia moi cg m c => .obj [("I", .obj [("MOI", encode moi), ("CG", encode cg),
      ("mass", encode m), ("MOICentroidLocation", encode c)])]
  | .forceMoment f l m => .obj [("FMS", .obj [("force", encode f), ("location", encode l),
      ("moment", encode m)])]
  | .integration x dt d f e => .obj [("IR", .obj [("newValue", encode x), ("dt", encode dt),
      ("derivativeEstimate", encode d), ("timeStepAdaptationFactor", encode f),
      ("errorMagEstimate", encode e)])]
  | .conditions fs => .obj [("ENV", .obj ((Value.conditionFields.zip
      (fs.attach.map fun ⟨x, _⟩ => encode x))))]
  | .enum _ _ x => .obj [("enum", encode x)]
  | .func _ _ => .obj [("object", .str "function")]
  | .record _ => .obj [("object", .str "SimpleNamespace")]
  | .other n => .obj [("object", .str n)]
where
  /-- An entry of a numeric array: a number, or a row. -/
  encodeArrayItem (x : Value) : Json :=
    match x with
    | .array ys => .arr (ys.attach.map fun ⟨y, _⟩ => encodeArrayItem y)
    | .float f => encodeFloat f
    | .int n => .int n
    | other => encode other

/-- A fault in an answer. -/
def encodeFault (f : Fault) : Json :=
  match f.message with
  | some m => .obj [("error", .str f.kind.name), ("message", .str (shownText m))]
  | none => .obj [("error", .str f.kind.name)]

end Console
end RocketSim
