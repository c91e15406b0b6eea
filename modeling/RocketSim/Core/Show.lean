import RocketSim.Core.Value
import RocketSim.Text.FormatSpec

/-!
# Values as text

Three ways of writing a value: its display text (`str`), its programmer's text (`repr`,
with quotes around strings and the default `<… object at 0x?>` text for objects that
define no text of their own), and its text under a format specification (`format`).

The display text of a compound value is assembled from its parts the way each class lays
itself out: a vector is `(x y z)`, a quaternion `<q0, q1, q2, q3>`, a rigid-body state
is its four parts formatted with fixed widths, a list of state variables is their display
texts joined by blanks.  Under a format specification a vector formats each component and
joins them with blanks; an object without a layout of its own accepts only the empty
specification, under which it shows its display text.
-/

namespace RocketSim
namespace Show

/-- The three ways of writing a value. -/
inductive Mode where
  /-- Display text. -/
  | display
  /-- Programmer's text. -/
  | code
  /-- Text under a format specification. -/
  | spec (s : String)

/-- Rank used to order the modes: formatting may fall back to the display text of the
same value, and the display text to the programmer's text. -/
@[simp] def Mode.rank : Mode → Nat
  | .display => 1
  | .code => 0
  | .spec _ => 2

/-- A string in quotes, with the escapes of the programmer's text. -/
def quote (s : String) : String :=
  let useDouble := s.toList.contains '\'' && !s.toList.contains '"'
  let q := if useDouble then '"' else '\''
  let esc (c : Char) : String :=
    if c == q then "\\" ++ String.singleton c
    else if c == '\\' then "\\\\"
    else if c == '\n' then "\\n"
    else if c == '\t' then "\\t"
    else if c == '\r' then "\\r"
    else if c.toNat < 32 || c.toNat == 127 then
      "\\x" ++ (if c.toNat < 16 then "0" else "") ++ FormatSpec.natInBase c.toNat 16 false
    else String.singleton c
  String.singleton q ++ String.join (s.toList.map esc) ++ String.singleton q

/-- The default text of an object that defines none. -/
def objectText (v : Value) : String :=
  "<" ++ v.modulePath ++ v.typeName ++ " object at 0x?>"

/-- A number written for the display. -/
def numberText : Value → Option String
  | .bool b => some (if b then "True" else "False")
  | .int n => some (toString n)
  | .float x | .arrayScalar x => some (FloatText.repr x)
  | _ => none

/-- Formats a number under a specification; `none` when the specification does not fit. -/
def formatNumber (v : Value) (spec : String) : Option String :=
  match v with
  | .bool b => if spec.isEmpty then some (if b then "True" else "False")
    else FormatSpec.formatInt (if b then 1 else 0) spec
  | .int n => FormatSpec.formatInt n spec
  | .float x | .arrayScalar x => FormatSpec.formatFloat x spec
  | _ => none

/-- A size bound on a value used for the recursion of `render`. -/
theorem sizeOf_pair_fst {kv : Value × Value} {kvs : List (Value × Value)} (h : kv ∈ kvs) :
    sizeOf kv.1 < 1 + sizeOf kvs := by
  have := List.sizeOf_lt_of_mem h
  cases kv; simp at this ⊢; omega

/-- A size bound on a value used for the recursion of `render`. -/
theorem sizeOf_pair_snd {kv : Value × Value} {kvs : List (Value × Value)} (h : kv ∈ kvs) :
    sizeOf kv.2 < 1 + sizeOf kvs := by
  have := List.sizeOf_lt_of_mem h
  cases kv; simp at this ⊢; omega

/-- A size bound on a value used for the recursion of `render`. -/
theorem sizeOf_field_snd {kv : String × Value} {kvs : List (String × Value)} (h : kv ∈ kvs) :
    sizeOf kv.2 < 1 + sizeOf kvs := by
  have := List.sizeOf_lt_of_mem h
  cases kv; simp at this ⊢; omega

/-- The last dotted component of a qualified name. -/
def lastComponent (name : String) : String :=
  match (name.splitOn ".").getLast? with
  | some n => n
  | none => name

/-- Writes a value in the given mode. -/
def render (v : Value) (mode : Mode) : Outcome String :=
  match mode with
  | .spec s =>
    match v with
    | .bool _ | .int _ | .float _ | .arrayScalar _ =>
      match formatNumber v s with
      | some t => pure t
      | none => throw Fault.badValue
    | .str t =>
      match FormatSpec.formatStr t s with
      | some r => pure r
      | none => throw Fault.badValue
    | .vec p | .angVel p => do
      let parts ← [p.x, p.y, p.z].mapM fun c =>
        match FormatSpec.formatFloat c s with
        | some r => pure r
        | none => throw Fault.badValue
      pure (" ".intercalate parts)
    | .quat q => do
      let parts ← [q.q0, q.q1, q.q2, q.q3].mapM fun c =>
        match FormatSpec.formatFloat c s with
        | some r => pure r
        | none => throw Fault.badValue
      pure (" ".intercalate parts)
    | other =>
      if s.isEmpty then render other .display else throw Fault.typeMismatch
  | .display =>
    match v with
    | .null => pure "None"
    | .bool b => pure (if b then "True" else "False")
    | .int n => pure (toString n)
    | .float x | .arrayScalar x => pure (FloatText.repr x)
    | .str t => pure t
    | .vec p | .angVel p =>
      pure ("(" ++ FloatText.repr p.x ++ " " ++ FloatText.repr p.y ++ " " ++ FloatText.repr p.z ++ ")")
    | .quat q =>
      pure ("<" ++ FloatText.repr q.q0 ++ ", " ++ FloatText.repr q.q1 ++ ", " ++
        FloatText.repr q.q2 ++ ", " ++ FloatText.repr q.q3 ++ ">")
    | .state p vel o w => do
      let a ← render p (.spec ">10.3f")
      let b ← render vel (.spec ">10.4f")
      let c ← render o (.spec ">11.7f")
      let d ← render w (.spec ">9.4f")
      pure (" " ++ a ++ " " ++ b ++ " " ++ c ++ " " ++ d)
    | .pointState p vel => do
      let a ← render p (.spec ">10.3f")
      let b ← render vel (.spec ">10.4f")
      pure (" " ++ a ++ " " ++ b)
    | .stateList xs _ => do
      let parts ← xs.attach.mapM fun ⟨x, _⟩ => render x .display
      pure (" ".intercalate parts)
    | .inertia moi cg mass centroid => do
      let m ← render moi (.spec "")
      let g ← render cg (.spec "")
      let ms ← render mass (.spec "")
      let c ← render centroid (.spec "")
      let same := match centroid.asVec?, cg.asVec? with
        | some a, some b => a.beq b
        | _, _ => false
      if same then pure ("MOI=(" ++ m ++ ") calculated about CG=(" ++ g ++ "); Mass=" ++ ms ++ " ")
      else pure ("MOI=(" ++ m ++ ") calculated about non-CG Point=(" ++ c ++ "); CG=(" ++ g ++
        "); Mass=" ++ ms)
    | .forceMoment f l m => do
      let a ← render f (.spec "")
      let b ← render l (.spec "")
      let c ← render m (.spec "")
      pure ("Force=(" ++ a ++ ") At=(" ++ b ++ ") + Moment=(" ++ c ++ ")")
    | .enum cls name _ => pure (cls ++ "." ++ name)
    | other => render other .code
  | .code =>
    match v with
    | .null => pure "None"
    | .bool b => pure (if b then "True" else "False")
    | .int n => pure (toString n)
    | .float x | .arrayScalar x => pure (FloatText.repr x)
    | .str t => pure (quote t)
    | .list xs | .stateList xs _ => do
      let parts ← xs.attach.mapM fun ⟨x, _⟩ => render x .code
      pure ("[" ++ ", ".intercalate parts ++ "]")
    | .tuple xs => do
      let parts ← xs.attach.mapM fun ⟨x, _⟩ => render x .code
      pure ("(" ++ ", ".intercalate parts ++ (if parts.length == 1 then ",)" else ")"))
    | .set xs => do
      let parts ← xs.attach.mapM fun ⟨x, _⟩ => render x .code
      pure (if parts.isEmpty then "set()" else "\x7b" ++ ", ".intercalate parts ++ "\x7d")
    | .array xs => do
      let parts ← xs.attach.mapM fun ⟨x, _⟩ => render x .code
      pure ("[" ++ " ".intercalate parts ++ "]")
    | .dict es => do
      let parts ← es.attach.mapM fun ⟨kv, h⟩ => do
        have := sizeOf_pair_fst h
        have := sizeOf_pair_snd h
        let k ← render kv.1 .code
        let x ← render kv.2 .code
        pure (k ++ ": " ++ x)
      pure ("\x7b" ++ ", ".intercalate parts ++ "\x7d")
    | .conditions fs => do
      let parts ← fs.attach.mapM fun ⟨x, _⟩ => render x .code
      let named := (Value.conditionFields.zip parts).map fun (n, t) => n ++ "=" ++ t
      pure ("EnvironmentalConditions(" ++ ", ".intercalate named ++ ")")
    | .enum cls name x => do
      let t ← render x .code
      pure ("<" ++ cls ++ "." ++ name ++ ": " ++ t ++ ">")
    | .func name _ => pure ("<function " ++ lastComponent name ++ " at 0x?>")
    | .record fs => do
      let parts ← fs.attach.mapM fun ⟨kv, h⟩ => do
        have := sizeOf_field_snd h
        let x ← render kv.2 .code
        pure (kv.1 ++ "=" ++ x)
      pure ("namespace(" ++ ", ".intercalate parts ++ ")")
    | other => pure (objectText other)
termination_by (sizeOf v, mode.rank)

/-- The display text of a value. -/
def str (v : Value) : Outcome String := render v .display

/-- The programmer's text of a value. -/
def repr (v : Value) : Outcome String := render v .code

/-- The text of a value under a format specification. -/
def format (v : Value) (spec : String) : Outcome String := render v (.spec spec)

end Show
end RocketSim
