import RocketSim.Core.Fault

/-!
# Three-vectors

Positions, velocities, forces and directions are triples of binary64 numbers.  Every
operation here is written component by component in a fixed order, so that each result is
determined to the bit: a sum is `a.x + b.x`, a difference is `a.x + -b.x` (the same value
as `a.x - b.x` in IEEE arithmetic), a length is the square root of `x·x + y·y + z·z`
summed left to right.

The arithmetic of vectors and rotations is written over a `Scalar` type: the simulator runs
it over binary64 numbers, and the same formulas over the reals give its exact meaning.
-/

namespace RocketSim

/-- The numbers vector and rotation code is written in: field operations, comparisons,
decimal literals and the functions of the C math library that the code calls. -/
class Scalar (α : Type) extends Add α, Sub α, Mul α, Div α, Neg α, OfScientific α, LT α,
    BEq α where
  /-- Comparisons decide. -/
  decLt : DecidableRel (α := α) (· < ·)
  sqrt : α → α
  sin : α → α
  cos : α → α
  /-- `atan2(y, x)`: the angle of the point `(x, y)`, in `[-π, π]`. -/
  atan2 : α → α → α
  abs : α → α
  sq : α → α
  pi : α

instance scalarDecLt {α : Type} [Scalar α] : DecidableRel (α := α) (· < ·) := Scalar.decLt

/-- The functions of the C math library that can fail: the exponential, which overflows,
and the power function, which has no value for zero to a negative power or for a negative
base with a fractional exponent. -/
class Elementary (α : Type) where
  exp : α → Outcome α
  pow : α → α → Outcome α

/-- The arc sine of the C math library, which has no value outside `[-1, 1]`. -/
class ArcSine (α : Type) where
  /-- `asin(x)`, in `[-π/2, π/2]`. -/
  asin : α → Outcome α

/-- Binary64 numbers, as the simulator computes with them. -/
instance : Scalar Float where
  decLt := Float.decLt
  sqrt := Float.sqrt
  sin := Float.sin
  cos := Float.cos
  atan2 := Float.atan2
  abs := Float.abs
  sq x := Float.pow x 2.0
  pi := 3.141592653589793

/-- A vector of three components, binary64 unless said otherwise. -/
structure Vec3 (α : Type := Float) where
  /-- First component. -/
  x : α
  /-- Second component. -/
  y : α
  /-- Third component. -/
  z : α
  deriving Inhabited, Repr

namespace Vec3

/-- The zero vector. -/
def zero : Vec3 := ⟨0.0, 0.0, 0.0⟩

section Arithmetic

variable {α : Type} [Scalar α]

/-- Componentwise sum. -/
def add (a b : Vec3 α) : Vec3 α := ⟨a.x + b.x, a.y + b.y, a.z + b.z⟩

/-- Adds a scalar to every component. -/
def addScalar (a : Vec3 α) (s : α) : Vec3 α := ⟨a.x + s, a.y + s, a.z + s⟩

/-- Componentwise negation. -/
def neg (a : Vec3 α) : Vec3 α := ⟨-a.x, -a.y, -a.z⟩

/-- Difference, as the sum with the negation. -/
def sub (a b : Vec3 α) : Vec3 α := add a (neg b)

/-- Scales every component, the scalar on the right. -/
def scale (a : Vec3 α) (s : α) : Vec3 α := ⟨a.x * s, a.y * s, a.z * s⟩

/-- Scales every component, the scalar on the left. -/
def scaleLeft (s : α) (a : Vec3 α) : Vec3 α := ⟨s * a.x, s * a.y, s * a.z⟩

/-- Dot product. -/
def dot (a b : Vec3 α) : α := a.x * b.x + a.y * b.y + a.z * b.z

/-- Euclidean length. -/
def length (a : Vec3 α) : α := Scalar.sqrt (a.x * a.x + a.y * a.y + a.z * a.z)

/-- The unit vector in the direction of `a`, or the zero vector when `a` has no length. -/
def normalize (a : Vec3 α) : Vec3 α :=
  let l := length a
  if l > 0.0 then ⟨a.x / l, a.y / l, a.z / l⟩ else ⟨0.0, 0.0, 0.0⟩

/-- Cross product. -/
def cross (a b : Vec3 α) : Vec3 α :=
  ⟨a.y * b.z - a.z * b.y, a.z * b.x - a.x * b.z, a.x * b.y - a.y * b.x⟩

/-- Division by a scalar, as multiplication by its reciprocal. -/
def divScalar (a : Vec3 α) (s : α) : Outcome (Vec3 α) :=
  if s == 0.0 then throw Fault.zeroDivision else pure (scale a (1.0 / s))

end Arithmetic

/-- The angle between two vectors, in `[0, π]`; a cosine within `1e-8` of one counts as
parallel.  Fails on a vector without length. -/
def angle (a b : Vec3) : Outcome Float :=
  let den := length a * length b
  if den == 0.0 then throw Fault.zeroDivision
  else
    let interior := dot a b / den
    if Float.abs (interior - 1.0) < 0.00000001 then pure (Float.acos 1.0)
    else pure (Float.acos interior)

/-- Exact equality of all three components. -/
def beq (a b : Vec3) : Bool := a.x == b.x && a.y == b.y && a.z == b.z

/-- The component at an index from zero to two. -/
def get? (a : Vec3) (i : Int) : Option Float :=
  if i == 0 then some a.x else if i == 1 then some a.y else if i == 2 then some a.z else none

/-- The components as a list. -/
def toList (a : Vec3) : List Float := [a.x, a.y, a.z]

end Vec3

end RocketSim
