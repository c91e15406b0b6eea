import RocketSim.Core.Arith

/-!
# Building motion values

The constructors of the motion values, with the argument conventions of the simulator's
interface:

* a vector takes three numbers, or one string such as `"(1 2 3)"`, `"[1, 2, 3]"` or
  `"1;2;3"`: optional brackets, then components separated by `", "`, `"; "`, blanks, `","`
  or `";"` (the first separator that splits the text is used);
* an angular velocity takes three numbers, or an axis and a rate, or a rotation vector,
  and is zero when given neither;
* a quaternion takes four components, or an axis and an angle, or a list of components;
* a rigid-body state fills missing parts with the zero vector, the identity rotation and
  zero angular velocity;
* a list of state variables takes optional names, which must be distinct, as many as the
  variables, and none of the names of the rigid-body state's parts.
-/

namespace RocketSim

namespace Construct

/-- A number converted for a binary64 component: numbers only. -/
def component (v : Value) : Outcome Float :=
  match v.toFloat? with
  | some x =>
    match v.toInt? with
    | some n => if n.natAbs ≥ Nat.pow 2 1024 then throw (Fault.bare .overflowError) else pure x
    | none => pure x
  | none => throw Fault.typeMismatch

/-- The conversion of a value to a number: numbers, and strings that read as one. -/
def toNumber (v : Value) : Outcome Float :=
  match v with
  | .str s =>
    match FloatText.parse s with
    | some x => pure x
    | none => throw Fault.badValue
  | _ => component v

/-- Splits the text of a vector into its components. -/
def splitComponents (text : String) : List String :=
  let try1 := Str.splitOn text ", "
  let try2 := if try1.length == 1 then Str.splitOn (try1.headD "") "; " else try1
  let try3 := if try2.length == 1 then Str.splitWs (try2.headD "") else try2
  let try4 := if try3.length == 1 then Str.splitOn (try3.headD "") "," else try3
  if try4.length == 1 then Str.splitOn (try4.headD "") ";" else try4

/-- Reads a vector from its text. -/
def parseVector (orig : String) : Outcome Vec3 := do
  let x := Str.strip orig
  let x ← match x.toList with
    | c :: _ =>
      if c == '[' || c == '(' || c == '{' then
        pure (Str.strip (Str.slice x 1 (x.length - 1)))
      else pure x
    | [] => throw Fault.badIndex
  match splitComponents x with
  | [a, b, c] =>
    match FloatText.parse a, FloatText.parse b, FloatText.parse c with
    | some a, some b, some c => pure ⟨a, b, c⟩
    | _, _, _ => throw Fault.badValue
  | _ => throw (Fault.raise .valueError ("'" ++ orig ++ "' Was not successfully parsed into Vector format"))

/-- A vector from up to three arguments. -/
def vector (args : List Value) : Outcome Value :=
  match args with
  | [] => throw Fault.typeMismatch
  | x :: rest =>
    if rest.length > 2 then throw Fault.typeMismatch else
    let y := rest.headD .null
    let z := (rest.drop 1).headD .null
    let direct : Outcome Vec3 := do
      let a ← component x
      let b ← component y
      let c ← component z
      pure ⟨a, b, c⟩
    match direct with
    | .ok v => pure (.vec v)
    | .error e =>
      if e.kind != .typeError then throw e
      else match x with
        | .str s => (.vec ·) <$> parseVector s
        | _ => throw Fault.noAttribute

/-- Whether a value differs from the absent value, as the constructors test it: a
quaternion cannot be compared with the absent value. -/
def present (v : Value) : Outcome Bool :=
  match v with
  | .null => pure false
  | .quat _ => throw Fault.noAttribute
  | _ => pure true

/-- The number conversion used by the angular velocity constructor. -/
def asNumber (v : Value) : Outcome Float :=
  match v with
  | .null => throw Fault.typeMismatch
  | _ => toNumber v

/-- An angular velocity from its components, from an axis and a rate, or from a rotation
vector. -/
def angularVelocity (axis rate rotation : Value) : Outcome Value := do
  let direct : Outcome Vec3 := do
    let a ← asNumber axis
    let b ← asNumber rate
    let c ← asNumber rotation
    pure ⟨a, b, c⟩
  match direct with
  | .ok v => pure (.angVel v)
  | .error _ =>
    if ← (do if ← present axis then present rate else pure false) then
      let dir ← match axis with
        | .vec p | .angVel p => pure (Value.vec p.normalize)
        | .quat q => (fun r => Value.quat r) <$> q.normalize
        | _ => throw Fault.noAttribute
      let r ← Arith.times dir rate
      match r with
      | .vec p | .angVel p => pure (.angVel p)
      | _ => throw Fault.noAttribute
    else if ← present rotation then
      match rotation with
      | .vec p | .angVel p => pure (.angVel p)
      | _ => throw Fault.noAttribute
    else pure (.angVel Vec3.zero)

/-- A quaternion from four components, from an axis and an angle, or from a list of
components. -/
def quaternion (axis angle components q3 : Value) : Outcome Value := do
  if ← present q3 then
    let a ← component axis
    let b ← component angle
    let c ← component components
    let d ← component q3
    pure (.quat ⟨a, b, c, d⟩)
  else if ← (do if ← present axis then present angle else pure false) then
    let dir ← match axis with
      | .vec p | .angVel p => pure p.normalize
      | _ => throw Fault.noAttribute
    let half ← Arith.quotient angle (.int 2)
    let h ← component half
    pure (.quat (Quat.ofUnitAxisHalfAngle dir h))
  else if ← present components then
    match components.items? with
    | some (a :: b :: c :: d :: _) => do
      pure (.quat ⟨← component a, ← component b, ← component c, ← component d⟩)
    | some _ => throw Fault.badIndex
    | none => throw Fault.typeMismatch
  else throw (Fault.raise .valueError "Not enough Initialization info provided")

/-- A rigid-body state; missing parts are the zero vector, the identity rotation and zero
angular velocity. -/
def rigidBodyState (position velocity orientation angularVelocity : Option Value) : Value :=
  .state (position.getD (.vec Vec3.zero)) (velocity.getD (.vec Vec3.zero))
    (orientation.getD (.quat Quat.identity)) (angularVelocity.getD (.angVel Vec3.zero))

/-- The names reserved for the parts of a rigid-body state. -/
def reservedNames : List String := ["position", "velocity", "orientation", "angularVelocity"]

/-- A list of state variables with optional names. -/
def stateList (items : List Value) (names : Option (List Value)) : Outcome Value := do
  match names with
  | none => pure (.stateList items [])
  | some ns =>
    if ns.length != items.length then
      throw (Fault.raise .valueError
        "ERROR: Number of state variables must match number of variable names provided")
    for r in reservedNames do
      if ns.any (fun n => match n with | .str s => s == r | _ => false) then
        let text ← Show.repr (.list (reservedNames.map Value.str))
        throw (Fault.raise .valueError
          ("ERROR: The following variable names are reserved for rigid body states: " ++ text))
    let strs := ns.filterMap fun n => match n with | .str s => some s | _ => none
    if strs.length != ns.length then throw Fault.typeMismatch
    let distinct := strs.eraseDups
    if distinct.length != strs.length then
      let text ← Show.repr (.list ns)
      throw (Fault.raise .valueError ("ERROR: Duplicate state variable name in: " ++ text))
    pure (.stateList items (strs.zipIdx.map fun (s, i) => (s, i)))

/-- Mass properties; the moments are about the centre of gravity unless a point is given. -/
def inertia (moi cg mass : Value) (centroid : Option Value) : Value :=
  match centroid with
  | some c => match c with
    | .null => .inertia moi cg mass cg
    | _ => .inertia moi cg mass c
  | none => .inertia moi cg mass cg

/-- A force-moment system; the location and the moment default to the zero vector. -/
def forceMoment (force : Value) (location moment : Option Value) : Value :=
  let loc := match location with
    | some .null | none => .vec Vec3.zero
    | some l => l
  let mom := match moment with
    | some .null | none => .vec Vec3.zero
    | some m => m
  .forceMoment force loc mom

end Construct
end RocketSim
