import RocketSim.Core.Session
import RocketSim.Core.Methods

/-!
# Operations in a session

The value algebra's operations lifted into `Sim`, with the conversions the library's
numeric code relies on: a number read as binary64 (`real`), a vector or quaternion
argument, and the elementary functions with the faults their domains impose (a square
root of a negative number or an arc sine beyond one fails with a value fault; an
exponential that overflows fails with an overflow fault).
-/

namespace RocketSim
namespace Ops

/-- The attribute of a value. -/
def attr (v : Value) (name : String) : Sim Value := Sim.lift (Arith.attr v name)

/-- The sum of two values. -/
def add (a b : Value) : Sim Value := Sim.lift (Arith.plus a b)

/-- The difference of two values. -/
def sub (a b : Value) : Sim Value := Sim.lift (Arith.minus a b)

/-- The product of two values. -/
def mul (a b : Value) : Sim Value := Sim.lift (Arith.times a b)

/-- The quotient of two values. -/
def div (a b : Value) : Sim Value := Sim.lift (Arith.quotient a b)

/-- The power of two values. -/
def pow (a b : Value) : Sim Value := Sim.lift (Arith.apply .pow a b)

/-- The negation of a value. -/
def neg (a : Value) : Sim Value := Sim.lift (Arith.negate a)

/-- `a op b`, with the left operand as the operation leaves it (a state normalizes its
orientation in place when a rotation is added to it). -/
def binaryMut (op : Arith.BinOp) (a b : Value) : Sim (Value × Value) :=
  Sim.lift (Arith.binary Arith.depth op a b)

/-- The in-place sum `a += b`: a list, or a list of state variables, is extended by the
items of `b` and stays the same object; any other value is replaced by `a + b`. -/
def iadd (a b : Value) : Sim Value := do
  match a with
  | .list xs => pure (.list (xs ++ (← Sim.lift (Arith.iterItems b))))
  | .stateList xs names => pure (.stateList (xs ++ (← Sim.lift (Arith.iterItems b))) names)
  | _ => add a b

/-- The magnitude of a value. -/
def abs (a : Value) : Sim Value := do
  let (r, _) ← Sim.lift (Arith.magnitude Arith.depth a)
  pure r

/-- Equality of two values. -/
def eq (a b : Value) : Sim Bool := Sim.lift (Arith.eq a b)

/-- Calls a method of a value; gives the result and the receiver afterwards. -/
def method (v : Value) (name : String) (args : List Value) : Sim (Value × Value) :=
  Sim.lift (Methods.call v name args [])

/-- A number read as binary64; any other value is a type fault. -/
def real (v : Value) : Sim Float :=
  match v.toFloat? with
  | some x => pure x
  | none => Sim.fail Fault.typeMismatch

/-- The vector of a value; any other value is a type fault. -/
def vec (v : Value) : Sim Vec3 :=
  match v.asVec? with
  | some x => pure x
  | none => Sim.fail Fault.typeMismatch

/-- The quaternion of a value; any other value lacks the quaternion's methods. -/
def quat (v : Value) : Sim Quat :=
  match v with
  | .quat q => pure q
  | _ => Sim.fail Fault.noAttribute

/-- The attribute of a value, read as binary64. -/
def realAttr (v : Value) (name : String) : Sim Float := do real (← attr v name)

/-- The attribute of a value, read as a vector. -/
def vecAttr (v : Value) (name : String) : Sim Vec3 := do vec (← attr v name)

/-- The text of a string value; other values are a type fault. -/
def text (v : Value) : Sim String :=
  match v with
  | .str s => pure s
  | _ => Sim.fail Fault.typeMismatch

/-- `a < b` for numbers (false when a NaN takes part); other values are a type fault. -/
def lt (a b : Value) : Sim Bool :=
  if a.isNumber && b.isNumber then pure (Arith.compareNumbers a b == some .lt)
  else Sim.fail Fault.typeMismatch

/-- `a ≤ b` for numbers (false when a NaN takes part); other values are a type fault. -/
def le (a b : Value) : Sim Bool :=
  if a.isNumber && b.isNumber then
    pure (match Arith.compareNumbers a b with
      | some .lt | some .eq => true
      | _ => false)
  else Sim.fail Fault.typeMismatch

/-- `a > b` for numbers. -/
def gt (a b : Value) : Sim Bool := lt b a

/-- `a ≥ b` for numbers. -/
def ge (a b : Value) : Sim Bool := le b a

/-- The larger of two values, the first unless the second is greater. -/
def max (a b : Value) : Sim Value := do if ← gt b a then pure b else pure a

/-- The smaller of two values, the first unless the second is less. -/
def min (a b : Value) : Sim Value := do if ← lt b a then pure b else pure a

end Ops

namespace Real

/-- A value fault without a message: a math domain error. -/
def domainFault : Fault := Fault.badValue

/-- The square root; fails below zero. -/
def sqrt (x : Float) : Outcome Float :=
  if x < 0.0 then throw domainFault else pure (Float.sqrt x)

/-- The arc sine; fails outside `[-1, 1]`. -/
def asin (x : Float) : Outcome Float :=
  if x < -1.0 || x > 1.0 then throw domainFault else pure (Float.asin x)

/-- The arc cosine; fails outside `[-1, 1]`. -/
def acos (x : Float) : Outcome Float :=
  if x < -1.0 || x > 1.0 then throw domainFault else pure (Float.acos x)

/-- The natural logarithm; fails at zero and below. -/
def log (x : Float) : Outcome Float :=
  if x ≤ 0.0 then throw domainFault else pure (Float.log x)

/-- The base-10 logarithm; fails at zero and below. -/
def log10 (x : Float) : Outcome Float :=
  if x ≤ 0.0 then throw domainFault else pure (Float.log10 x)

/-- The exponential; fails when a finite argument overflows. -/
def exp (x : Float) : Outcome Float :=
  let r := Float.exp x
  if r.isInf && !x.isInf then throw (Fault.bare .overflowError) else pure r

/-- The sine; fails at an infinity. -/
def sin (x : Float) : Outcome Float :=
  if x.isInf then throw domainFault else pure (Float.sin x)

/-- The cosine; fails at an infinity. -/
def cos (x : Float) : Outcome Float :=
  if x.isInf then throw domainFault else pure (Float.cos x)

/-- The tangent; fails at an infinity. -/
def tan (x : Float) : Outcome Float :=
  if x.isInf then throw domainFault else pure (Float.tan x)

/-- `x ^ y` for binary64 values, with the faults of the power operator. -/
def pow (x y : Float) : Outcome Float := Number.floatPow x y

/-- Whether two binary64 values are equal up to a relative tolerance of `1e-9`: equal
values are close, infinities are close only to themselves. -/
def isClose (a b : Float) : Bool :=
  if a == b then true
  else if a.isInf || b.isInf then false
  else
    let diff := Float.abs (b - a)
    diff ≤ Float.abs (1e-09 * b) || diff ≤ Float.abs (1e-09 * a) || diff ≤ 0.0

/-- Division; fails on a zero divisor. -/
def div {α : Type} [Scalar α] (x y : α) : Outcome α :=
  if y == 0.0 then throw Fault.zeroDivision else pure (x / y)

end Real

/-- The exponential and the power function of binary64 values, with their faults. -/
instance : Elementary Float where
  exp := Real.exp
  pow := Real.pow

/-- The arc sine of binary64 values, with its domain fault. -/
instance : ArcSine Float where
  asin := Real.asin

end RocketSim
