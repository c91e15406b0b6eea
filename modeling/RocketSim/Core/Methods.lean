import RocketSim.Motion.Construct

/-!
# Methods of the motion values

The methods a vector, an angular velocity, a quaternion, an inertia, a force-moment system
and a list of state variables answer to, by name.  A method returns its result and the
receiver as the call leaves it: the quaternion methods that need a unit quaternion
normalize the receiver in place, and `slerp` also normalizes its argument.  Arguments are
checked as the library declares them: a vector argument must be a vector, a number must be
a number, an index an integer.
-/

namespace RocketSim
namespace Methods

/-- Positional arguments merged with keyword arguments by parameter name. -/
def bindArgs (params : List String) (args : List Value) (kwargs : List (String × Value)) :
    Outcome (List (Option Value)) := do
  if args.length > params.length then throw Fault.typeMismatch
  for (k, _) in kwargs do
    if !params.contains k then throw Fault.typeMismatch
  let bound := params.zipIdx.map fun (p, i) =>
    match args[i]? with
    | some a => some a
    | none => (kwargs.find? (·.1 == p)).map (·.2)
  for (p, i) in params.zipIdx do
    if args[i]?.isSome && (kwargs.find? (·.1 == p)).isSome then throw Fault.typeMismatch
  pure bound

/-- Exactly the named parameters, all required. -/
def requireArgs (params : List String) (args : List Value) (kwargs : List (String × Value)) :
    Outcome (List Value) := do
  let bound ← bindArgs params args kwargs
  bound.mapM fun b => match b with
    | some v => pure v
    | none => throw Fault.typeMismatch

/-- A vector argument. -/
def vecArg (v : Value) : Outcome Vec3 :=
  match v with
  | .vec p | .angVel p => pure p
  | _ => throw Fault.typeMismatch

/-- A quaternion argument. -/
def quatArg (v : Value) : Outcome Quat :=
  match v with
  | .quat q => pure q
  | _ => throw Fault.typeMismatch

/-- A binary64 argument: a number. -/
def floatArg (v : Value) : Outcome Float :=
  match v.toFloat? with
  | some x => pure x
  | none => throw Fault.typeMismatch

/-- An integer argument. -/
def intArg (v : Value) : Outcome Int :=
  match v.toInt? with
  | some n => pure n
  | none => throw Fault.typeMismatch

/-- The index text of an out-of-range component. -/
def indexFault (i : Int) (top : Nat) : Fault :=
  Fault.raise .indexError ("Index " ++ toString i ++ " > " ++ toString top)

/-- The log header of a list of state variables: each item's name, or `StateVariable<i>`
when it has none (none of the algebra's values has a header of its own). -/
def logHeader (items : List Value) (names : List (String × Nat)) : String :=
  String.join (items.zipIdx.map fun (_, i) =>
    match (names.filter (·.2 == i)).getLast? with
    | some (k, _) => " " ++ k
    | none => " StateVariable" ++ toString i)

/-- Calls a method of a value; returns the result and the receiver afterwards. -/
def call (target : Value) (method : String) (args : List Value)
    (kwargs : List (String × Value)) : Outcome (Value × Value) := do
  match target, method with
  | .vec p, "length" | .angVel p, "length" => do
    let _ ← requireArgs [] args kwargs
    pure (.float p.length, target)
  | .vec p, "normalize" | .angVel p, "normalize" => do
    let _ ← requireArgs [] args kwargs
    pure (.vec p.normalize, target)
  | .vec p, "crossProduct" | .angVel p, "crossProduct" => do
    let [b] ← requireArgs ["vector2"] args kwargs | throw Fault.typeMismatch
    let q ← vecArg b
    pure (.vec (p.cross q), target)
  | .vec p, "angle" | .angVel p, "angle" => do
    let [b] ← requireArgs ["vector2"] args kwargs | throw Fault.typeMismatch
    let q ← vecArg b
    pure (.float (← p.angle q), target)
  | .vec p, "__getitem__" | .angVel p, "__getitem__" => do
    let [b] ← requireArgs ["position"] args kwargs | throw Fault.typeMismatch
    let i ← intArg b
    match p.get? i with
    | some x => pure (.float x, target)
    | none => throw (indexFault i 2)
  | .angVel p, "toQuaternion" => do
    let _ ← requireArgs [] args kwargs
    pure (.quat (Arith.angVelToQuat p), target)
  | .angVel p, "angVel" => do
    let _ ← requireArgs [] args kwargs
    pure (.float p.length, target)
  | .angVel p, "rotationAxis" => do
    let _ ← requireArgs [] args kwargs
    pure (.vec p.normalize, target)
  | .quat q, "norm" => do
    let _ ← requireArgs [] args kwargs
    pure (.float q.norm, target)
  | .quat q, "normalize" => do
    let _ ← requireArgs [] args kwargs
    let r ← q.normalize
    pure (.quat r, .quat r)
  | .quat q, "conjugate" => do
    let _ ← requireArgs [] args kwargs
    pure (.quat q.conj, target)
  | .quat q, "inverse" => do
    let _ ← requireArgs [] args kwargs
    pure (.quat (← q.inverse), target)
  | .quat q, "dotProduct" => do
    let [b] ← requireArgs ["q2"] args kwargs | throw Fault.typeMismatch
    pure (.float (q.dot (← quatArg b)), target)
  | .quat q, "rotate" => do
    let [b] ← requireArgs ["vector"] args kwargs | throw Fault.typeMismatch
    let v ← vecArg b
    let (r, q') ← q.rotate v
    pure (.vec r, .quat q')
  | .quat q, "slerp" => do
    let [b, f] ← requireArgs ["quat2", "fraction"] args kwargs | throw Fault.typeMismatch
    let q2 ← quatArg b
    let fr ← floatArg f
    let (r, q1', _) ← q.slerp q2 fr
    pure (.quat r, .quat q1')
  | .quat q, "rotationAxis" => do
    let _ ← requireArgs [] args kwargs
    let (r, q') ← q.rotationAxis
    pure (.vec r, .quat q')
  | .quat q, "rotationAngle" => do
    let _ ← requireArgs [] args kwargs
    let (r, q') ← q.rotationAngle
    pure (.float r, .quat q')
  | .quat q, "toEulerAngles" => do
    let _ ← requireArgs [] args kwargs
    pure (.vec q.toEulerAngles, target)
  | .quat q, "toRotationVector" => do
    let _ ← requireArgs [] args kwargs
    let (r, q') ← q.toRotationVector
    pure (.vec r, .quat q')
  | .quat q, "scaleRotation" => do
    let [b] ← requireArgs ["scalar"] args kwargs | throw Fault.typeMismatch
    let s ← floatArg b
    let (r, q') ← q.scaleRotation s
    pure (.quat r, .quat q')
  | .quat q, "__getitem__" => do
    let [b] ← requireArgs ["position"] args kwargs | throw Fault.typeMismatch
    let i ← intArg b
    match q.get? i with
    | some x => pure (.float x, target)
    | none => throw (indexFault i 3)
  | .inertia .., "checkDefinedAboutCG" => do
    let [l] ← requireArgs ["inertiasList"] args kwargs | throw Fault.typeMismatch
    let items ← Arith.iterItems l
    for i in items do
      let c ← Arith.attr i "MOICentroidLocation"
      let g ← Arith.attr i "CG"
      if !(← Arith.eq c g) then
        let text ← Show.str i
        throw (Fault.raise .valueError
          ("At least one of the inertias to be added has an MOI not defined about its CG: " ++ text))
    pure (.null, target)
  | .inertia .., "combineInertias" => do
    let [l] ← requireArgs ["inertiasList"] args kwargs | throw Fault.typeMismatch
    let items ← match l with
      | .list xs => pure xs
      | _ => throw Fault.noAttribute
    let (r, _) ← Arith.combineInertias Arith.depth target items
    pure (r, target)
  | .inertia .., "combineInertiasAboutPoint" => do
    let [l, pt] ← requireArgs ["inertiasList", "Point"] args kwargs | throw Fault.typeMismatch
    let items ← match l with
      | .list xs => pure xs
      | _ => throw Fault.noAttribute
    let (r, _) ← Arith.combineInertiasAbout Arith.depth target items (some pt)
    pure (r, target)
  | .forceMoment .., "getAt" => do
    let [loc] ← requireArgs ["newLocation"] args kwargs | throw Fault.typeMismatch
    pure (← Arith.getAt Arith.depth target loc, target)
  | .stateList items names, "getLogHeader" => do
    let _ ← requireArgs [] args kwargs
    pure (.str (logHeader items names), target)
  | .stateList items names, "addStateVariable" => do
    let [n, v] ← requireArgs ["name", "currentValue"] args kwargs | throw Fault.typeMismatch
    let name ← match n with
      | .str s => pure s
      | _ => throw Fault.typeMismatch
    let names := (names.filter (·.1 != name)) ++ [(name, items.length)]
    pure (.null, .stateList (items ++ [v]) names)
  | .stateList items names, "__getattr__" => do
    let [n] ← requireArgs ["name"] args kwargs | throw Fault.typeMismatch
    let name ← match n with
      | .str s => pure s
      | _ => throw Fault.typeMismatch
    match names.find? (·.1 == name) with
    | some (_, i) =>
      match items[i]? with
      | some x => pure (x, target)
      | none => throw Fault.badIndex
    | none =>
      match items with
      | first :: _ => pure (← Arith.attr first name, target)
      | [] => throw Fault.badIndex
  | .stateList _ _, "__setattr__" => do
    let [n, v] ← requireArgs ["name", "value"] args kwargs | throw Fault.typeMismatch
    let name ← match n with
      | .str s => pure s
      | _ => throw Fault.typeMismatch
    pure (.null, ← Arith.setAttr Arith.depth target name v)
  | .stateList items _, "__getitem__" => do
    let [b] ← requireArgs ["index"] args kwargs | throw Fault.typeMismatch
    let i ← intArg b
    let n : Int := items.length
    let j := if i < 0 then i + n else i
    if j < 0 || j ≥ n then throw Fault.badIndex
    match items[j.toNat]? with
    | some x => pure (x, target)
    | none => throw Fault.badIndex
  | _, _ => throw Fault.noAttribute

/-- The length of a value that has one. -/
def length (v : Value) : Outcome Value :=
  match v with
  | .vec _ | .angVel _ => pure (.int 3)
  | .quat _ => pure (.int 4)
  | .str s => pure (.int s.length)
  | .list xs | .tuple xs | .set xs | .array xs | .stateList xs _ | .conditions xs =>
    pure (.int xs.length)
  | .dict es => pure (.int es.length)
  | _ => throw Fault.typeMismatch

end Methods
end RocketSim
