import RocketSim.Core.Number
import RocketSim.Motion.Quat

/-!
# Values

The simulator's state algebra is open: an integrator advances a number, a vector, a
rigid-body state or a list of such things alike, a table interpolates numbers or vectors,
and a log column holds whatever was logged.  `Value` is the universe of those things.
Numbers keep their kind (an integer stays an integer until it meets a binary64 value),
vectors remember whether they are plain vectors or angular velocities, and the compound
states are kept as records of values, because their components are combined with the same
open arithmetic (`Arith`).
-/

namespace RocketSim

/-- The values of the simulator's state algebra. -/
inductive Value where
  /-- The absent value. -/
  | null
  /-- A truth value; it counts as the integer `0` or `1` in arithmetic. -/
  | bool (b : Bool)
  /-- An exact integer. -/
  | int (n : Int)
  /-- A binary64 number. -/
  | float (x : Float)
  /-- A binary64 number taken out of a numeric array: it computes like `float`, except that
  its results stay array scalars and its division by zero gives an infinity or a NaN. -/
  | arrayScalar (x : Float)
  /-- A string. -/
  | str (s : String)
  /-- A mutable sequence. -/
  | list (xs : List Value)
  /-- An immutable sequence. -/
  | tuple (xs : List Value)
  /-- A mapping, in insertion order. -/
  | dict (entries : List (Value × Value))
  /-- A set, in insertion order. -/
  | set (xs : List Value)
  /-- A numeric array: binary64 entries, or arrays for the rows of a matrix. -/
  | array (xs : List Value)
  /-- A plain three-vector. -/
  | vec (v : Vec3)
  /-- An angular velocity: a three-vector whose products and sums stay angular
  velocities and which converts to a rotation. -/
  | angVel (v : Vec3)
  /-- A quaternion. -/
  | quat (q : Quat)
  /-- A rigid-body state with six degrees of freedom. -/
  | state (position velocity orientation angularVelocity : Value)
  /-- A point-mass state (three degrees of freedom). -/
  | pointState (position velocity : Value)
  /-- The time derivative of a rigid-body state. -/
  | stateRate (velocity acceleration angularVelocity angularAccel : Value)
  /-- The time derivative of a point-mass state. -/
  | pointStateRate (velocity acceleration : Value)
  /-- A list of state variables, some of them named; the first is a rigid-body state. -/
  | stateList (items : List Value) (names : List (String × Nat))
  /-- Mass properties: moments of inertia, centre of gravity, mass, and the point the
  moments are taken about. -/
  | inertia (moi cg mass centroid : Value)
  /-- A force and a moment applied at a location. -/
  | forceMoment (force location moment : Value)
  /-- The result of one integration step. -/
  | integration (newValue dt derivative factor error : Value)
  /-- Local atmospheric conditions: altitude, temperature, pressure, density, viscosity,
  and total, mean and turbulent wind. -/
  | conditions (fields : List Value)
  /-- A member of an enumeration: its class, its name and its value. -/
  | enum (cls name : String) (value : Value)
  /-- A function: a library function by its qualified name, or a function of the fixed
  family of test callables (named `fixture.<kind>`) with its parameter. -/
  | func (name : String) (param : Value)
  /-- A record of named attributes, standing in for an object. -/
  | record (fields : List (String × Value))
  /-- Any other object, known by its type name only. -/
  | other (typeName : String)
  deriving Inhabited

namespace Value

/-- The field names of atmospheric conditions, in order. -/
def conditionFields : List String :=
  ["ASLAltitude", "Temp", "Pressure", "Density", "DynamicViscosity", "Wind", "MeanWind",
   "TurbWind"]

/-- The class name of a value, as the simulator reports it. -/
def typeName : Value → String
  | .null => "NoneType"
  | .bool _ => "bool"
  | .int _ => "int"
  | .float _ => "float"
  | .arrayScalar _ => "float64"
  | .str _ => "str"
  | .list _ => "list"
  | .tuple _ => "tuple"
  | .dict _ => "dict"
  | .set _ => "set"
  | .array _ => "ndarray"
  | .vec _ => "Vector"
  | .angVel _ => "AngularVelocity"
  | .quat _ => "Quaternion"
  | .state .. => "RigidBodyState"
  | .pointState .. => "RigidBodyState_3DoF"
  | .stateRate .. => "RigidBodyStateDerivative"
  | .pointStateRate .. => "RigidBodyStateDerivative_3DoF"
  | .stateList .. => "StateList"
  | .inertia .. => "Inertia"
  | .forceMoment .. => "ForceMomentSystem"
  | .integration .. => "IntegrationResult"
  | .conditions _ => "EnvironmentalConditions"
  | .enum cls _ _ => cls
  | .func _ _ => "function"
  | .record _ => "SimpleNamespace"
  | .other n => n

/-- The module path of a class, as it appears in the default text of an object. -/
def modulePath : Value → String
  | .vec _ => "MAPLEAF.Motion.CythonVector."
  | .angVel _ => "MAPLEAF.Motion.CythonAngularVelocity."
  | .quat _ => "MAPLEAF.Motion.CythonQuaternion."
  | .state .. | .pointState .. | .stateRate .. | .pointStateRate .. | .stateList .. =>
    "MAPLEAF.Motion.RigidBodyStates."
  | .inertia .. => "MAPLEAF.Motion.inertia."
  | .forceMoment .. => "MAPLEAF.Motion.forceMomentSystem."
  | .integration .. => "MAPLEAF.Motion.Integration."
  | _ => ""

/-- Whether a value is a number (truth values included). -/
def isNumber : Value → Bool
  | .bool _ | .int _ | .float _ | .arrayScalar _ => true
  | _ => false

/-- Whether a value is a complex number; complex numbers arise only from a fractional
power of a negative number and are carried without their parts. -/
def isComplex : Value → Bool
  | .other "complex" => true
  | _ => false

/-- Whether a value takes part in number arithmetic: a number or a complex number. -/
def isNumeric (v : Value) : Bool := v.isNumber || v.isComplex

/-- The components of a vector of either kind. -/
def asVec? : Value → Option Vec3
  | .vec v | .angVel v => some v
  | _ => none

/-- A number as a binary64 value. -/
def toFloat? : Value → Option Float
  | .bool b => some (if b then 1.0 else 0.0)
  | .int n => some (Number.intToFloat n)
  | .float x => some x
  | .arrayScalar x => some x
  | _ => none

/-- A number as an integer, when it is one. -/
def toInt? : Value → Option Int
  | .bool b => some (if b then 1 else 0)
  | .int n => some n
  | _ => none

/-- The binary64 value of a number; any other value has no binary64 value. -/
def toFloat (v : Value) : Outcome Float :=
  match v.toFloat? with
  | some x => pure x
  | none => throw Fault.typeMismatch

/-- The vector components of a value, or a missing-attribute fault. -/
def toVec (v : Value) : Outcome Vec3 :=
  match v.asVec? with
  | some x => pure x
  | none => throw Fault.noAttribute

/-- Whether a value is the given text. -/
def isText (v : Value) (s : String) : Bool :=
  match v with
  | .str t => t == s
  | _ => false

/-- Whether a value is the absent value. -/
def isNull : Value → Bool
  | .null => true
  | _ => false

/-- The default truth of a value. -/
def truthy : Value → Bool
  | .null => false
  | .bool b => b
  | .int n => n != 0
  | .float x => x != 0.0
  | .arrayScalar x => x != 0.0
  | .str s => !s.isEmpty
  | .list xs | .tuple xs | .set xs | .array xs => !xs.isEmpty
  | .dict es => !es.isEmpty
  | .stateList xs _ => !xs.isEmpty
  | .conditions _ => true
  | _ => true

/-- The items of a sequence that can be iterated over. -/
def items? : Value → Option (List Value)
  | .list xs | .tuple xs | .set xs | .array xs => some xs
  | .stateList xs _ => some xs
  | .conditions xs => some xs
  | .dict es => some (es.map Prod.fst)
  | .str s => some (s.toList.map fun c => .str (String.singleton c))
  | .vec v | .angVel v => some [.float v.x, .float v.y, .float v.z]
  | .quat q => some [.float q.q0, .float q.q1, .float q.q2, .float q.q3]
  | _ => none

/-- Looks up a string key in a mapping. -/
def lookup (entries : List (Value × Value)) (key : String) : Option Value :=
  match entries.find? (fun kv => match kv.1 with | .str k => k == key | _ => false) with
  | some kv => some kv.2
  | none => none

end Value

end RocketSim
