import RocketSim.Core.Show
import RocketSim.Numeric.Exact
import RocketSim.Motion.Mechanics

/-!
# The state algebra

Sums, differences, products, quotients, negation, magnitude and equality of values.  Each
kind of value brings its own rules, and when two kinds meet the left operand decides,
except that an angular velocity on the right of a plain vector takes the lead (it is the
more specific kind of vector):

* numbers follow integer arithmetic until a binary64 number takes part;
* a vector adds vectors and scalars and multiplies by scalars (a product of two plain
  vectors, or of two angular velocities, is their dot product); a number on the left of a
  vector may scale it but not be added to it;
* a quaternion multiplies quaternions, scalars and angular velocities (as the rotation
  they describe);
* a rigid-body state adds states (composing the orientations) and scales by a scalar
  (scaling the rotation angle); the rate of a state turns into a state when scaled by a
  time step, which is how the integrators step a state;
* a list of state variables combines elementwise.

Operations that need a unit orientation normalize the operand's orientation in place, so
the binary operations return the left operand as it is afterwards, next to the result.

The faults are those of the simulator: a missing attribute where a component is looked up
on a value that has none, a type fault where no rule applies, the library's own
`NotImplementedError` with its message where a vector or quaternion refuses an operand.
Recursion into components is bounded by `fuel`; running out of it is a recursion fault.
-/

namespace RocketSim

namespace Arith

/-- The binary operators. -/
inductive BinOp where
  | add
  | sub
  | mul
  | div
  | floorDiv
  | mod
  | pow
  deriving BEq, Repr

/-- The refusal of a vector sum. -/
def vectorAddRefusal : Fault :=
  Fault.raise .notImplementedError "Only other vectors or scalars can be added to Vectors."

/-- The refusal of a vector product. -/
def vectorMulRefusal : Fault :=
  Fault.raise .notImplementedError
    "Vectors can only be multiplied by other vectors (dot product), or scalars (elementwise multiplication)."

/-- The refusal of a quaternion product. -/
def quatMulRefusal : Fault :=
  Fault.raise .notImplementedError
    "Quaternions can only be multiplied by 1) Quaternions, 2) Scalars, or 3) AngularVelocities (which have been 'integrated' through multiplication by a scalar timestep)"

/-- Out of recursion depth. -/
def recursionFault : Fault := Fault.bare (.other "RecursionError")

/-- Arithmetic of two numbers. -/
def numeric (op : BinOp) (a b : Value) : Outcome Value :=
  if a.isComplex || b.isComplex then
    match op with
    | .floorDiv | .mod => throw Fault.typeMismatch
    | .div => if b.toFloat? == some 0.0 then throw Fault.zeroDivision else pure (.other "complex")
    | _ => pure (.other "complex")
  else
  match a.toInt?, b.toInt? with
  | some x, some y =>
    match op with
    | .add => pure (.int (x + y))
    | .sub => pure (.int (x - y))
    | .mul => pure (.int (x * y))
    | .div => (.float ·) <$> Number.intTrueDiv x y
    | .floorDiv => (.int ·) <$> Number.intFloorDiv x y
    | .mod => (.int ·) <$> Number.intMod x y
    | .pow =>
      if y ≥ 0 then pure (.int (x.pow y.toNat))
      else (.float ·) <$> Number.floatPow (Number.intToFloat x) (Number.intToFloat y)
  | _, _ =>
    match a.toFloat?, b.toFloat? with
    | some x, some y =>
      let isScalar : Value → Bool := fun v => match v with
        | .arrayScalar _ => true
        | _ => false
      if isScalar a || isScalar b then
        pure (.arrayScalar (match op with
          | .add => x + y
          | .sub => x - y
          | .mul => x * y
          | .div => x / y
          | .floorDiv => if y == 0.0 then x / y else Float.floor (x / y)
          | .mod => if y == 0.0 then Binary64.nan else
              let m := Number.fmod x y
              if m != 0.0 && ((y < 0.0) != (m < 0.0)) then m + y else m
          | .pow => Float.pow x y))
      else
      match op with
      | .add => pure (.float (x + y))
      | .sub => pure (.float (x - y))
      | .mul => pure (.float (x * y))
      | .div => if y == 0.0 then throw Fault.zeroDivision else pure (.float (x / y))
      | .floorDiv => (.float ·) <$> Number.floatFloorDiv x y
      | .mod => (.float ·) <$> Number.floatMod x y
      | .pow =>
        if x < 0.0 && Number.isFinite x && Number.isFinite y && !Number.isIntegral y then
          pure (.other "complex")
        else (.float ·) <$> Number.floatPow x y
    | _, _ => throw Fault.typeMismatch

/-- The exact place of a number on the extended line, a boolean counting as `0` or `1`; none
for NaN and for values that are not numbers. -/
def exactValue? (v : Value) : Option Binary64.Extended :=
  match v.toInt? with
  | some n => some (.finite n)
  | none => v.toFloat?.bind Binary64.extended?

/-- Exact comparison of two numbers: `some` of the ordering, `none` when a NaN takes part. -/
def compareNumbers (a b : Value) : Option Ordering :=
  match exactValue? a, exactValue? b with
  | some x, some y => some (x.compare y)
  | _, _ => none

/-- Equality of two numbers, exact across kinds. -/
def numbersEqual (a b : Value) : Bool := compareNumbers a b == some .eq

/-- The rotation described by an angular velocity multiplied by a time step: its angle is
the vector's length, its axis the vector's direction. -/
def angVelToQuat (v : Vec3) : Quat := Quat.ofAxisAngle v.normalize v.length

/-- The attribute `name` of a value, as the simulator's classes expose them.  A list of
state variables answers for its named variables and passes other names on to its first
item, the rigid-body state. -/
def getAttr (fuel : Nat) (v : Value) (name : String) : Outcome Value :=
  match fuel with
  | 0 => throw recursionFault
  | fuel + 1 =>
    match v, name with
    | .vec p, "X" | .angVel p, "X" => pure (.float p.x)
    | .vec p, "Y" | .angVel p, "Y" => pure (.float p.y)
    | .vec p, "Z" | .angVel p, "Z" => pure (.float p.z)
    | .quat q, "Q0" => pure (.float q.q0)
    | .quat q, "Q1" => pure (.float q.q1)
    | .quat q, "Q2" => pure (.float q.q2)
    | .quat q, "Q3" => pure (.float q.q3)
    | .state p _ _ _, "position" => pure p
    | .state _ vel _ _, "velocity" => pure vel
    | .state _ _ o _, "orientation" => pure o
    | .state _ _ _ w, "angularVelocity" => pure w
    | .pointState p _, "position" => pure p
    | .pointState _ vel, "velocity" => pure vel
    | .stateRate vel _ _ _, "velocity" => pure vel
    | .stateRate _ acc _ _, "acceleration" => pure acc
    | .stateRate _ _ w _, "angularVelocity" => pure w
    | .stateRate _ _ _ aa, "angularAccel" => pure aa
    | .pointStateRate vel _, "velocity" => pure vel
    | .pointStateRate _ acc, "acceleration" => pure acc
    | .inertia moi _ _ _, "MOI" => pure moi
    | .inertia _ cg _ _, "CG" => pure cg
    | .inertia _ _ m _, "mass" => pure m
    | .inertia _ _ _ c, "MOICentroidLocation" => pure c
    | .forceMoment f _ _, "force" => pure f
    | .forceMoment _ l _, "location" => pure l
    | .forceMoment _ _ m, "moment" => pure m
    | .integration x _ _ _ _, "newValue" => pure x
    | .integration _ dt _ _ _, "dt" => pure dt
    | .integration _ _ d _ _, "derivativeEstimate" => pure d
    | .integration _ _ _ f _, "timeStepAdaptationFactor" => pure f
    | .integration _ _ _ _ e, "errorMagEstimate" => pure e
    | .enum _ n _, "name" => pure (.str n)
    | .enum _ _ x, "value" => pure x
    | .stateList items names, _ =>
      if name == "nameToIndexMap" then
        pure (.dict (names.map fun (k, i) => (.str k, .int i)))
      else
        match names.find? (·.1 == name) with
        | some (_, i) =>
          match items[i]? with
          | some x => pure x
          | none => throw Fault.badIndex
        | none =>
          match items with
          | first :: _ => getAttr fuel first name
          | [] => throw Fault.badIndex
    | .conditions fs, _ =>
      match (Value.conditionFields.zip fs).find? (·.1 == name) with
      | some (_, x) => pure x
      | none => throw Fault.noAttribute
    | .record fs, _ =>
      match fs.find? (·.1 == name) with
      | some (_, x) => pure x
      | none => throw Fault.noAttribute
    | _, _ => throw Fault.noAttribute

/-- Replaces the attribute `name` of a value; the vector and quaternion components convert
the new value to binary64.  A list of state variables sets a named variable, or the
attribute of its first item when that item has it, and ignores other names. -/
def setAttr (fuel : Nat) (v : Value) (name : String) (x : Value) : Outcome Value :=
  match fuel with
  | 0 => throw recursionFault
  | fuel + 1 =>
    let num : Outcome Float := x.toFloat
    match v, name with
    | .vec p, "X" => do let f ← num; pure (.vec { p with x := f })
    | .vec p, "Y" => do let f ← num; pure (.vec { p with y := f })
    | .vec p, "Z" => do let f ← num; pure (.vec { p with z := f })
    | .angVel p, "X" => do let f ← num; pure (.angVel { p with x := f })
    | .angVel p, "Y" => do let f ← num; pure (.angVel { p with y := f })
    | .angVel p, "Z" => do let f ← num; pure (.angVel { p with z := f })
    | .quat q, "Q0" => do let f ← num; pure (.quat { q with q0 := f })
    | .quat q, "Q1" => do let f ← num; pure (.quat { q with q1 := f })
    | .quat q, "Q2" => do let f ← num; pure (.quat { q with q2 := f })
    | .quat q, "Q3" => do let f ← num; pure (.quat { q with q3 := f })
    | .state p vel o w, _ =>
      match name with
      | "position" => pure (.state x vel o w)
      | "velocity" => pure (.state p x o w)
      | "orientation" => pure (.state p vel x w)
      | "angularVelocity" => pure (.state p vel o x)
      | _ => pure v
    | .pointState p vel, _ =>
      match name with
      | "position" => pure (.pointState x vel)
      | "velocity" => pure (.pointState p x)
      | _ => pure v
    | .inertia moi cg m c, _ =>
      match name with
      | "MOI" => pure (.inertia x cg m c)
      | "CG" => pure (.inertia moi x m c)
      | "mass" => pure (.inertia moi cg x c)
      | "MOICentroidLocation" => pure (.inertia moi cg m x)
      | _ => pure v
    | .forceMoment f l m, _ =>
      match name with
      | "force" => pure (.forceMoment x l m)
      | "location" => pure (.forceMoment f x m)
      | "moment" => pure (.forceMoment f l x)
      | _ => pure v
    | .stateList items names, _ =>
      match names.find? (·.1 == name) with
      | some (_, i) => pure (.stateList (items.set i x) names)
      | none =>
        match items with
        | first :: rest =>
          match first with
          | .state .. | .pointState .. =>
            let known := ["position", "velocity", "orientation", "angularVelocity"]
            if known.contains name then do
              let first' ← setAttr fuel first name x
              pure (.stateList (first' :: rest) names)
            else pure v
          | _ => pure v
        | [] => throw Fault.badIndex
    | .record fs, _ =>
      if fs.any (·.1 == name) then
        pure (.record (fs.map fun (k, y) => if k == name then (k, x) else (k, y)))
      else pure (.record (fs ++ [(name, x)]))
    | _, _ => throw Fault.noAttribute

/-- The unit-norm form of a quaternion attribute: a quaternion normalizes itself (and is
returned as it is left), a vector returns its direction without changing. -/
def normalizeInPlace (v : Value) : Outcome (Value × Value) :=
  match v with
  | .quat q => do let r ← q.normalize; pure (.quat r, .quat r)
  | .vec p => pure (.vec p.normalize, v)
  | .angVel p => pure (.vec p.normalize, v)
  | _ => throw Fault.noAttribute

/-- The length of a vector attribute. -/
def lengthOf (v : Value) : Outcome Float :=
  match v with
  | .vec p | .angVel p => pure p.length
  | _ => throw Fault.noAttribute

/-- The rate of an angular velocity (its length); plain vectors have no rate. -/
def angVelRate (v : Value) : Outcome Float :=
  match v with
  | .angVel p => pure p.length
  | _ => throw Fault.noAttribute

/-- The items of an iterable operand, as a zip partner. -/
def iterItems (v : Value) : Outcome (List Value) :=
  match v.items? with
  | some xs => pure xs
  | none => throw Fault.typeMismatch

/-- The binary64 value of a scalar operand of a state product: a number, or a string that
reads as one. -/
def scalarOf (v : Value) : Outcome Float :=
  match v with
  | .str s =>
    match FloatText.parse s with
    | some x => pure x
    | none => throw Fault.badValue
  | _ => match v.toFloat? with
    | some x => pure x
    | none => throw Fault.typeMismatch

/-- An operation on two binary64 entries of numeric arrays: IEEE arithmetic, where a
zero divisor gives an infinity or a NaN instead of a fault. -/
def entryOp (op : BinOp) (x y : Float) : Float :=
  match op with
  | .add => x + y
  | .sub => x - y
  | .mul => x * y
  | .div => x / y
  | .floorDiv => if y == 0.0 then x / y else Float.floor (x / y)
  | .mod => if y == 0.0 then Binary64.nan else
      let m := Number.fmod x y
      if m != 0.0 && ((y < 0.0) != (m < 0.0)) then m + y else m
  | .pow => Float.pow x y

/-- The entries of an operand of array arithmetic: an array's items, a list's items, or
one number standing for every entry. -/
inductive Operand where
  | items (xs : List Value)
  | scalar (x : Float)

/-- An operand of array arithmetic. -/
def operandOf (v : Value) : Outcome Operand :=
  match v with
  | .array xs | .list xs | .tuple xs => pure (.items xs)
  | _ => match v.toFloat? with
    | some x => pure (.scalar x)
    | none => throw Fault.typeMismatch

/-- Elementwise arithmetic of numeric arrays, with a number or a one-entry array
broadcast over the other operand; arrays of different lengths fail with a value fault. -/
def arrayBinary (fuel : Nat) (op : BinOp) (a b : Value) : Outcome Value :=
  match fuel with
  | 0 => throw recursionFault
  | fuel + 1 => do
    match ← operandOf a, ← operandOf b with
    | .scalar x, .scalar y => pure (.float (entryOp op x y))
    | .items xs, .scalar _ => (.array ·) <$> xs.mapM fun x => arrayBinary fuel op x b
    | .scalar _, .items ys => (.array ·) <$> ys.mapM fun y => arrayBinary fuel op a y
    | .items xs, .items ys =>
      if xs.length == ys.length then
        (.array ·) <$> (xs.zip ys).mapM fun (x, y) => arrayBinary fuel op x y
      else match xs, ys with
        | [x], _ => (.array ·) <$> ys.mapM fun y => arrayBinary fuel op x y
        | _, [y] => (.array ·) <$> xs.mapM fun x => arrayBinary fuel op x y
        | _, _ => throw Fault.badValue

/-- Whether a value is a numeric array. -/
def isArray : Value → Bool
  | .array _ => true
  | _ => false

/-- Adds the parallel-axis terms of a mass `m` at the offset `d` to the moments `moi`; the
moments keep their kind of vector. -/
def shiftMOI (moi m : Value) (d : Vec3) : Outcome Value := do
  let v ← moi.toVec
  let r := v.parallelAxis (← m.toFloat) d
  pure (match moi with
    | .angVel _ => .angVel r
    | _ => .vec r)

/-- Force-moment systems among values, with the value algebra `bin` for sums and differences
and `ng` for negation. -/
def systemOps (bin : BinOp → Value → Value → Outcome (Value × Value))
    (ng : Value → Outcome Value) : ForceMoment.Ops Outcome Value Value where
  parts F := match F with
    | .forceMoment f l m => pure (f, l, m)
    | _ => throw Fault.noAttribute
  make := .forceMoment
  add a b := Prod.fst <$> bin .add a b
  sub a b := Prod.fst <$> bin .sub a b
  neg := ng
  cross arm f := do
    let a ← arm.toVec
    let fv ← match f with
      | .vec v | .angVel v => pure v
      | _ => throw Fault.typeMismatch
    pure (.vec (a.cross fv))

/-- Mass properties among values: attributes read with `attr`, the value algebra `bin`,
equality `eq` of points and membership `mem` in a list. -/
def inertiaOps (bin : BinOp → Value → Value → Outcome (Value × Value))
    (attr : Value → String → Outcome Value) (eq : Value → Value → Outcome Bool)
    (mem : Value → List Value → Outcome Bool) : Inertia.Ops Outcome Value Value Value where
  mem := mem
  moi i := attr i "MOI"
  cg i := attr i "CG"
  mass i := attr i "mass"
  centroid i := attr i "MOICentroidLocation"
  samePoint := eq
  describe := Show.str
  zeroMass := .int 0
  zeroVec := .vec Vec3.zero
  addMass a b := Prod.fst <$> bin .add a b
  addVec a b := Prod.fst <$> bin .add a b
  scale v s := Prod.fst <$> bin .mul v s
  divide v s := Prod.fst <$> bin .div v s
  sub a b := do
    let (d, _) ← bin .sub a b
    pure (.vec (← d.toVec))
  positive s := if s.isNumber then pure (compareNumbers s (.int 0) == some .gt)
    else throw Fault.typeMismatch
  shift moi s d := do shiftMOI moi s (← d.toVec)
  make := .inertia

mutual

/-- `a op b`; returns the result and the left operand as the operation leaves it. -/
def binary (fuel : Nat) (op : BinOp) (a b : Value) : Outcome (Value × Value) :=
  match fuel with
  | 0 => throw recursionFault
  | fuel + 1 =>
    if (isArray a && (b.isNumber || isArray b || b.items?.isSome)) ||
        (isArray b && (a.isNumber || (match a with | .list _ | .tuple _ => true | _ => false))) then do
      let r ← arrayBinary fuel op a b
      pure (r, a)
    else
    match op with
    | .add => add fuel a b
    | .sub => sub fuel a b
    | .mul => mul fuel a b
    | .div => div fuel a b
    | _ =>
      if a.isNumeric && b.isNumeric then do
        let r ← numeric op a b
        pure (r, a)
      else throw Fault.typeMismatch

/-- Sum. -/
def add (fuel : Nat) (a b : Value) : Outcome (Value × Value) :=
  match fuel with
  | 0 => throw recursionFault
  | fuel + 1 =>
    match a, b with
    | .vec p, .angVel q => pure (.angVel (p.add q), a)
    | .vec p, .vec q => pure (.vec (p.add q), a)
    | .angVel p, .vec q | .angVel p, .angVel q => pure (.angVel (p.add q), a)
    | .vec p, _ =>
      match b.toFloat? with
      | some s => pure (.vec (p.addScalar s), a)
      | none => throw vectorAddRefusal
    | .angVel p, _ =>
      match b.toFloat? with
      | some s => pure (.angVel (p.addScalar s), a)
      | none => throw vectorAddRefusal
    | .quat p, .quat q => pure (.quat (p.add q), a)
    | .quat _, _ => throw Fault.noAttribute
    | .state p vel o w, _ => do
      let (np, _) ← binary fuel .add p (← getAttr fuel b "position")
      let (nv, _) ← binary fuel .add vel (← getAttr fuel b "velocity")
      let (nw, _) ← binary fuel .add w (← getAttr fuel b "angularVelocity")
      let bo ← getAttr fuel b "orientation"
      let (on, o') ← normalizeInPlace o
      let (prod, _) ← binary fuel .mul bo on
      let (prodN, _) ← normalizeInPlace prod
      pure (.state np nv prodN nw, .state p vel o' w)
    | .pointState p vel, _ => do
      let (np, _) ← binary fuel .add p (← getAttr fuel b "position")
      let (nv, _) ← binary fuel .add vel (← getAttr fuel b "velocity")
      pure (.pointState np nv, a)
    | .stateRate vel acc w aa, _ => do
      let (x1, _) ← binary fuel .add vel (← getAttr fuel b "velocity")
      let (x2, _) ← binary fuel .add acc (← getAttr fuel b "acceleration")
      let (x3, _) ← binary fuel .add w (← getAttr fuel b "angularVelocity")
      let (x4, _) ← binary fuel .add aa (← getAttr fuel b "angularAccel")
      pure (.stateRate x1 x2 x3 x4, a)
    | .pointStateRate vel acc, _ => do
      let (x1, _) ← binary fuel .add vel (← getAttr fuel b "velocity")
      let (x2, _) ← binary fuel .add acc (← getAttr fuel b "acceleration")
      pure (.pointStateRate x1 x2, a)
    | .stateList items names, _ => do
      let others ← iterItems b
      let (rs, items') ← pairwise fuel .add items others
      pure (.stateList rs names, .stateList items' names)
    | .inertia .., _ => do
      let (r, _) ← combineInertias fuel a [b]
      pure (r, a)
    | .forceMoment .., _ => do
      let r ← ForceMoment.add (systemOps (binary fuel) (neg fuel)) a b
      pure (r, a)
    | .list xs, .list ys => pure (.list (xs ++ ys), a)
    | .tuple xs, .tuple ys => pure (.tuple (xs ++ ys), a)
    | .str s, .str t => pure (.str (s ++ t), a)
    | _, .vec _ | _, .angVel _ =>
      if a.isNumber then throw Fault.noAttribute else throw Fault.noAttribute
    | _, .quat _ => throw Fault.noAttribute
    | _, _ =>
      if a.isNumeric && b.isNumeric then do
        let r ← numeric .add a b
        pure (r, a)
      else throw Fault.typeMismatch

/-- Difference. -/
def sub (fuel : Nat) (a b : Value) : Outcome (Value × Value) :=
  match fuel with
  | 0 => throw recursionFault
  | fuel + 1 =>
    match a with
    | .vec p => do
      let nb ← neg fuel b
      match nb with
      | .vec q | .angVel q => pure (.vec (p.add q), a)
      | _ =>
        match nb.toFloat? with
        | some s => pure (.vec (p.addScalar s), a)
        | none => throw vectorAddRefusal
    | .angVel p => do
      let nb ← neg fuel b
      match nb with
      | .vec q | .angVel q => pure (.angVel (p.add q), a)
      | _ =>
        match nb.toFloat? with
        | some s => pure (.angVel (p.addScalar s), a)
        | none => throw vectorAddRefusal
    | .quat p => do
      let nb ← neg fuel b
      match nb with
      | .quat q => pure (.quat (p.add q), a)
      | _ => throw Fault.noAttribute
    | .stateList items names => do
      let others ← iterItems b
      let (rs, items') ← pairwise fuel .sub items others
      pure (.stateList rs names, .stateList items' names)
    | .forceMoment .. => do
      let nb ← neg fuel b
      add fuel a nb
    | _ =>
      if a.isNumeric && b.isNumeric then do
        let r ← numeric .sub a b
        pure (r, a)
      else
        match b with
        | .quat _ => do
          let nb ← neg fuel b
          let _ ← add fuel a nb
          throw Fault.noAttribute
        | .vec _ | .angVel _ =>
          if a.isNumber then throw Fault.typeMismatch
          else do
            let nb ← neg fuel b
            add fuel a nb
        | _ => throw Fault.typeMismatch

/-- Product. -/
def mul (fuel : Nat) (a b : Value) : Outcome (Value × Value) :=
  match fuel with
  | 0 => throw recursionFault
  | fuel + 1 =>
    match a, b with
    | .vec p, .vec q => pure (.float (p.dot q), a)
    | .vec _, .angVel _ => throw vectorMulRefusal
    | .vec p, _ =>
      match b.toFloat? with
      | some s => pure (.vec (p.scale s), a)
      | none => throw vectorMulRefusal
    | .angVel p, .angVel q => pure (.float (p.dot q), a)
    | .angVel p, .quat q => pure (.quat (Quat.mul (angVelToQuat p) q), a)
    | .angVel p, _ =>
      match b.toFloat? with
      | some s => pure (.angVel (p.scale s), a)
      | none => throw vectorMulRefusal
    | .quat p, .quat q => pure (.quat (Quat.mul p q), a)
    | .quat p, .angVel q => pure (.quat (Quat.mul p (angVelToQuat q)), a)
    | .quat p, _ =>
      match b.toFloat? with
      | some s => pure (.quat (p.scale s), a)
      | none => throw quatMulRefusal
    | .state p vel o w, _ => do
      let ts ← scalarOf b
      let (np, _) ← binary fuel .mul p (.float ts)
      let (nv, _) ← binary fuel .mul vel (.float ts)
      let (nw, _) ← binary fuel .mul w (.float ts)
      match o with
      | .quat q => do
        let (scaled, q') ← q.scaleRotation ts
        pure (.state np nv (.quat scaled) nw, .state p vel (.quat q') w)
      | _ => throw Fault.noAttribute
    | .pointState p vel, _ => do
      let ts ← scalarOf b
      let (np, _) ← binary fuel .mul p (.float ts)
      let (nv, _) ← binary fuel .mul vel (.float ts)
      pure (.pointState np nv, a)
    | .stateRate vel acc w aa, _ => do
      let ts ← scalarOf b
      let (dp, _) ← binary fuel .mul vel (.float ts)
      let (dv, _) ← binary fuel .mul acc (.float ts)
      let (wdt, _) ← binary fuel .mul w (.float ts)
      let dq ← match wdt with
        | .angVel r => Quat.normalize (angVelToQuat r)
        | _ => throw Fault.noAttribute
      let (dw, _) ← binary fuel .mul aa (.float ts)
      pure (.state dp dv (.quat dq) dw, a)
    | .pointStateRate vel acc, _ => do
      let ts ← scalarOf b
      let (dp, _) ← binary fuel .mul vel (.float ts)
      let (dv, _) ← binary fuel .mul acc (.float ts)
      pure (.pointState dp dv, a)
    | .stateList items names, _ => do
      let (rs, items') ← scaleAll fuel .mul items b
      pure (.stateList rs names, .stateList items' names)
    | _, .vec q =>
      match a.toFloat? with
      | some s => pure (.vec (Vec3.scaleLeft s q), a)
      | none => throw vectorMulRefusal
    | _, .angVel q =>
      match a.toFloat? with
      | some s => pure (.angVel (Vec3.scaleLeft s q), a)
      | none => throw vectorMulRefusal
    | _, .quat q =>
      match a.toFloat? with
      | some s => pure (.quat (q.scale s), a)
      | none => throw quatMulRefusal
    | _, .stateRate .. | _, .pointStateRate .. | _, .stateList .. =>
      if a.isNumber then do
        let (r, _) ← mul fuel b a
        pure (r, a)
      else throw Fault.typeMismatch
    | .list xs, _ =>
      match b.toInt? with
      | some n => pure (.list (List.flatten (List.replicate n.toNat xs)), a)
      | none => throw Fault.typeMismatch
    | .str s, _ =>
      match b.toInt? with
      | some n => pure (.str (String.join (List.replicate n.toNat s)), a)
      | none => throw Fault.typeMismatch
    | _, _ =>
      if a.isNumeric && b.isNumeric then do
        let r ← numeric .mul a b
        pure (r, a)
      else throw Fault.typeMismatch

/-- Quotient. -/
def div (fuel : Nat) (a b : Value) : Outcome (Value × Value) :=
  match fuel with
  | 0 => throw recursionFault
  | fuel + 1 =>
    match a, b with
    | .vec _, _ | .angVel _, _ =>
      match b with
      | .vec _ | .angVel _ => throw recursionFault
      | .quat q => do
        let qi ← q.inverse
        mul fuel a (.quat (qi.scale 1.0))
      | _ => do
        let inv ← numeric .div (.int 1) b
        mul fuel a inv
    | .quat p, .quat q => do
      let qi ← q.inverse
      pure (.quat (Quat.mul qi p), a)
    | .quat _, _ => do
      let inv ← numeric .div (.float 1.0) b
      mul fuel a inv
    | _, .quat q =>
      if a.isNumber then do
        let qi ← q.inverse
        let (r, _) ← mul fuel (.quat qi) a
        pure (r, a)
      else throw Fault.typeMismatch
    | .stateRate vel acc w aa, _ => do
      let s ← scalarOf b
      if s == 0.0 then throw Fault.zeroDivision
      let inv := Value.float (1.0 / s)
      let (x1, _) ← binary fuel .mul vel inv
      let (x2, _) ← binary fuel .mul acc inv
      let (x3, _) ← binary fuel .mul w inv
      let (x4, _) ← binary fuel .mul aa inv
      pure (.stateRate x1 x2 x3 x4, a)
    | .pointStateRate vel acc, _ => do
      let s ← scalarOf b
      if s == 0.0 then throw Fault.zeroDivision
      let inv := Value.float (1.0 / s)
      let (x1, _) ← binary fuel .mul vel inv
      let (x2, _) ← binary fuel .mul acc inv
      pure (.pointStateRate x1 x2, a)
    | .stateList items names, _ => do
      let (rs, items') ← scaleAll fuel .div items b
      pure (.stateList rs names, .stateList items' names)
    | _, _ =>
      if a.isNumeric && b.isNumeric then do
        let r ← numeric .div a b
        pure (r, a)
      else throw Fault.typeMismatch

/-- Negation. -/
def neg (fuel : Nat) (a : Value) : Outcome Value :=
  match fuel with
  | 0 => throw recursionFault
  | fuel + 1 =>
    match a with
    | .bool b => pure (.int (if b then -1 else 0))
    | .int n => pure (.int (-n))
    | .float x => pure (.float (-x))
    | .vec p => pure (.vec p.neg)
    | .angVel p => pure (.angVel p.neg)
    | .quat q => pure (.quat q.neg)
    | .state p vel o w => do
      let (np, _) ← binary fuel .mul p (.int (-1))
      let (nv, _) ← binary fuel .mul vel (.int (-1))
      let no ← match o with
        | .quat q => pure (Value.quat q.conj)
        | _ => throw Fault.noAttribute
      let (nw, _) ← binary fuel .mul w (.int (-1))
      pure (.state np nv no nw)
    | .pointState .. => do
      let (r, _) ← binary fuel .mul a (.int (-1))
      pure r
    | .stateList items names => do
      let rs ← negAll fuel items
      pure (.stateList rs names)
    | .forceMoment .. => ForceMoment.neg (systemOps (binary fuel) (neg fuel)) a
    | _ => throw Fault.typeMismatch

/-- Magnitude; returns it and the operand as it is left. -/
def magnitude (fuel : Nat) (a : Value) : Outcome (Value × Value) :=
  match fuel with
  | 0 => throw recursionFault
  | fuel + 1 =>
    match a with
    | .bool b => pure (.int (if b then 1 else 0), a)
    | .int n => pure (.int n.natAbs, a)
    | .float x => pure (.float (Float.abs x), a)
    | .arrayScalar x => pure (.arrayScalar (Float.abs x), a)
    | .array xs => do
      let (rs, _) ← magnitudeAll fuel (xs.map fun x => match x with
        | .float f => .arrayScalar f
        | other => other)
      pure (.array (rs.map fun r => match r with
        | .arrayScalar f => .float f
        | other => other), a)
    | .state p vel o w => do
      let posMag := (← lengthOf p) + (← lengthOf vel)
      match o with
      | .quat q => do
        let (angle, q') ← q.rotationAngle
        let rate ← angVelRate w
        let oriMag := Float.abs angle + rate
        pure (.float (oriMag * 100.0 + posMag), .state p vel (.quat q') w)
      | _ => throw Fault.noAttribute
    | .pointState p vel => do
      pure (.float ((← lengthOf p) + (← lengthOf vel)), a)
    | .stateRate _ _ w aa => do
      let m := (← angVelRate w) + (← angVelRate aa)
      pure (.float (m * 100.0), a)
    | .stateList items names => do
      let (rs, items') ← magnitudeAll fuel items
      let total ← rs.foldlM (fun acc r => numeric .add acc r) (Value.int 0)
      pure (total, .stateList items' names)
    | _ => throw Fault.typeMismatch

/-- Equality, as the left operand's class defines it. -/
def equal (fuel : Nat) (a b : Value) : Outcome Bool :=
  match fuel with
  | 0 => throw recursionFault
  | fuel + 1 =>
    match a, b with
    | .vec p, _ | .angVel p, _ =>
      match b.asVec? with
      | some q => pure (p.beq q)
      | none => pure false
    | .quat p, .quat q => pure (p.beq q)
    | .quat _, _ => throw Fault.noAttribute
    | _, .quat _ =>
      if a.isNumber then throw Fault.noAttribute
      else pure false
    | .state p vel o w, _ =>
      fieldsEqual fuel [p, vel, o, w] b ["position", "velocity", "orientation", "angularVelocity"]
    | .stateRate vel acc w aa, _ =>
      fieldsEqual fuel [vel, acc, w, aa] b ["velocity", "acceleration", "angularVelocity", "angularAccel"]
    | .inertia moi cg m c, _ =>
      fieldsEqual fuel [moi, c, m, cg] b ["MOI", "MOICentroidLocation", "mass", "CG"]
    | .forceMoment f l m, _ => do
      let bf ← getAttr fuel b "force"
      if !(← equal fuel f bf) then return false
      let bl ← getAttr fuel b "location"
      if !(← equal fuel l bl) then return false
      let bm ← getAttr fuel b "moment"
      equal fuel m bm
    | .stateList items _, _ =>
      match b.items? with
      | some others => listAll fuel items others
      | none => pure false
    | .null, .null => pure true
    | .str s, .str t => pure (s == t)
    | .list xs, .list ys | .tuple xs, .tuple ys =>
      if xs.length != ys.length then pure false else listAll fuel xs ys
    | .conditions xs, .conditions ys | .conditions xs, .tuple ys | .tuple xs, .conditions ys =>
      if xs.length != ys.length then pure false else listAll fuel xs ys
    | .dict xs, .dict ys =>
      if xs.length != ys.length then pure false
      else dictEqual fuel xs ys
    | .enum c1 n1 _, .enum c2 n2 _ => pure (c1 == c2 && n1 == n2)
    | _, .state .. | _, .stateRate .. | _, .inertia .. =>
      if a.isNumber then pure false else pure false
    | _, _ =>
      if a.isNumber && b.isNumber then pure (numbersEqual a b)
      else pure false

/-- Compares listed fields of a state-like value with the same attributes of another
value; a missing attribute on either side makes them unequal. -/
def fieldsEqual (fuel : Nat) (mine : List Value) (b : Value) (names : List String) :
    Outcome Bool :=
  match fuel with
  | 0 => throw recursionFault
  | fuel + 1 =>
    let attempt : Outcome Bool := do
      let theirs ← names.mapM (getAttr fuel b)
      let results ← (mine.zip theirs).mapM fun (x, y) => equal fuel x y
      pure (results.all id)
    match attempt with
    | .ok r => pure r
    | .error e => if e.kind == .attributeError then pure false else throw e

/-- Whether every pair of a zip of two lists is equal. -/
def listAll (fuel : Nat) (xs ys : List Value) : Outcome Bool :=
  match fuel with
  | 0 => throw recursionFault
  | fuel + 1 =>
    match xs, ys with
    | x :: xs, y :: ys => do
      let e ← equal fuel x y
      let rest ← listAll fuel xs ys
      pure (e && rest)
    | _, _ => pure true

/-- Whether two mappings have equal values under equal keys. -/
def dictEqual (fuel : Nat) (xs ys : List (Value × Value)) : Outcome Bool :=
  match fuel with
  | 0 => throw recursionFault
  | fuel + 1 =>
    match xs with
    | [] => pure true
    | (k, v) :: rest => do
      let mut found := false
      for (k2, v2) in ys do
        if ← equal fuel k k2 then
          found ← equal fuel v v2
          break
      if !found then return false
      dictEqual fuel rest ys

/-- Combines two lists elementwise with an operator, as far as the shorter goes; returns
the results and the left items as they are left. -/
def pairwise (fuel : Nat) (op : BinOp) (xs ys : List Value) : Outcome (List Value × List Value) :=
  match fuel with
  | 0 => throw recursionFault
  | fuel + 1 =>
    match xs, ys with
    | x :: xs', y :: ys' => do
      let (r, x') ← binary fuel op x y
      let (rs, xs'') ← pairwise fuel op xs' ys'
      pure (r :: rs, x' :: xs'')
    | _, _ => pure ([], xs)

/-- Combines every item of a list with one operand. -/
def scaleAll (fuel : Nat) (op : BinOp) (xs : List Value) (b : Value) :
    Outcome (List Value × List Value) :=
  match fuel with
  | 0 => throw recursionFault
  | fuel + 1 =>
    match xs with
    | x :: xs' => do
      let (r, x') ← binary fuel op x b
      let (rs, xs'') ← scaleAll fuel op xs' b
      pure (r :: rs, x' :: xs'')
    | [] => pure ([], [])

/-- Negates every item of a list. -/
def negAll (fuel : Nat) (xs : List Value) : Outcome (List Value) :=
  match fuel with
  | 0 => throw recursionFault
  | fuel + 1 =>
    match xs with
    | x :: xs' => do
      let r ← neg fuel x
      let rs ← negAll fuel xs'
      pure (r :: rs)
    | [] => pure []

/-- The magnitude of every item of a list. -/
def magnitudeAll (fuel : Nat) (xs : List Value) : Outcome (List Value × List Value) :=
  match fuel with
  | 0 => throw recursionFault
  | fuel + 1 =>
    match xs with
    | x :: xs' => do
      let (r, x') ← magnitude fuel x
      let (rs, xs'') ← magnitudeAll fuel xs'
      pure (r :: rs, x' :: xs'')
    | [] => pure ([], [])

/-- The force-moment system `f` moved to a new location: the same force, with the moment
of the force about the new location added. -/
def getAt (fuel : Nat) (f newLocation : Value) : Outcome Value :=
  match fuel with
  | 0 => throw recursionFault
  | fuel + 1 => ForceMoment.moveTo (systemOps (binary fuel) (neg fuel)) f newLocation

/-- Whether an inertia is among a list, by equality. -/
def memberOf (fuel : Nat) (x : Value) (xs : List Value) : Outcome Bool :=
  match fuel with
  | 0 => throw recursionFault
  | fuel + 1 =>
    match xs with
    | [] => pure false
    | y :: ys => do
      if ← equal fuel y x then pure true else memberOf fuel x ys

/-- Sums masses, mass-weighted centres of gravity and moments of inertia (shifted to
`point` by the parallel axis theorem, or to the combined centre of gravity when `point` is
absent) of the inertias, after appending `self` to the list when it is not yet in it.
Every inertia must be taken about its own centre of gravity.  Returns the combined inertia
and the list as it is left. -/
def combineInertiasAbout (fuel : Nat) (self : Value) (list : List Value) (point : Option Value) :
    Outcome (Value × List Value) :=
  match fuel with
  | 0 => throw recursionFault
  | fuel + 1 =>
    match point with
    | some p => Inertia.combineAbout
        (inertiaOps (binary fuel) (getAttr fuel) (equal fuel) (memberOf fuel)) self list p
    | none => Inertia.combine
        (inertiaOps (binary fuel) (getAttr fuel) (equal fuel) (memberOf fuel)) self list

/-- Combines inertias about the combined centre of gravity. -/
def combineInertias (fuel : Nat) (self : Value) (list : List Value) : Outcome (Value × List Value) :=
  match fuel with
  | 0 => throw recursionFault
  | fuel + 1 => combineInertiasAbout fuel self list none

end

/-- The recursion bound used for values. -/
def depth : Nat := 200

/-- `a op b`, dropping the left operand's changes. -/
def apply (op : BinOp) (a b : Value) : Outcome Value := do
  let (r, _) ← binary depth op a b
  pure r

/-- `a + b`. -/
def plus (a b : Value) : Outcome Value := apply .add a b

/-- `a - b`. -/
def minus (a b : Value) : Outcome Value := apply .sub a b

/-- `a * b`. -/
def times (a b : Value) : Outcome Value := apply .mul a b

/-- `a / b`. -/
def quotient (a b : Value) : Outcome Value := apply .div a b

/-- `-a`. -/
def negate (a : Value) : Outcome Value := neg depth a

/-- Equality. -/
def eq (a b : Value) : Outcome Bool := equal depth a b

/-- Attribute lookup. -/
def attr (v : Value) (name : String) : Outcome Value := getAttr depth v name

end Arith
end RocketSim
