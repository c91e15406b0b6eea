import RocketSim.Motion.Vec3

/-!
# Quaternions

Orientations are quaternions `q0 + q1·i + q2·j + q3·k`, scalar part first.  A quaternion
represents a rotation only when it has unit norm; the operations that need a rotation
normalize the quaternion first, and that normalization is part of their result: the
simulator keeps the normalized quaternion in place of the old one, and a later rotation by
the same orientation starts from it.  Normalizing is not idempotent in binary64 (a norm of
`0.9999999999999999` divides again), so every operation here returns the quaternion it
leaves behind, and callers thread it on.

All formulas are evaluated in the order written, which fixes every result to the bit.  They
are written over any `Scalar` type, so that the same formulas over the reals are the
operations' exact meaning.
-/

namespace RocketSim

/-- A quaternion, scalar part first; binary64 unless said otherwise. -/
structure Quat (α : Type := Float) where
  /-- Scalar part. -/
  q0 : α
  /-- Coefficient of `i`. -/
  q1 : α
  /-- Coefficient of `j`. -/
  q2 : α
  /-- Coefficient of `k`. -/
  q3 : α
  deriving Inhabited, Repr

namespace Quat

/-- The identity rotation. -/
def identity : Quat := ⟨1.0, 0.0, 0.0, 0.0⟩

section Arithmetic

variable {α : Type} [Scalar α]

/-- Square, as the power function computes it. -/
def sq (x : α) : α := Scalar.sq x

/-- The rotation by twice `half` radians about the unit axis `a`. -/
def ofUnitAxisHalfAngle (a : Vec3 α) (half : α) : Quat α :=
  ⟨Scalar.cos half, Scalar.sin half * a.x, Scalar.sin half * a.y, Scalar.sin half * a.z⟩

/-- The rotation by `angle` radians about `axis` (normalized first). -/
def ofAxisAngle (axis : Vec3 α) (angle : α) : Quat α :=
  ofUnitAxisHalfAngle axis.normalize (angle / 2.0)

/-- Hamilton product; the right factor's rotation is applied first. -/
def mul (a b : Quat α) : Quat α :=
  ⟨a.q0 * b.q0 - a.q1 * b.q1 - a.q2 * b.q2 - a.q3 * b.q3,
   a.q0 * b.q1 + a.q1 * b.q0 + a.q2 * b.q3 - a.q3 * b.q2,
   a.q0 * b.q2 - a.q1 * b.q3 + a.q2 * b.q0 + a.q3 * b.q1,
   a.q0 * b.q3 + a.q1 * b.q2 - a.q2 * b.q1 + a.q3 * b.q0⟩

/-- Scales every component, the scalar on the right. -/
def scale (a : Quat α) (s : α) : Quat α := ⟨a.q0 * s, a.q1 * s, a.q2 * s, a.q3 * s⟩

/-- Componentwise sum. -/
def add (a b : Quat α) : Quat α := ⟨a.q0 + b.q0, a.q1 + b.q1, a.q2 + b.q2, a.q3 + b.q3⟩

/-- Componentwise negation. -/
def neg (a : Quat α) : Quat α := ⟨-a.q0, -a.q1, -a.q2, -a.q3⟩

/-- The conjugate: the vector part negated. -/
def conj (a : Quat α) : Quat α := ⟨a.q0, -a.q1, -a.q2, -a.q3⟩

/-- Euclidean norm of the four components. -/
def norm (a : Quat α) : α :=
  Scalar.sqrt (a.q0 * a.q0 + a.q1 * a.q1 + a.q2 * a.q2 + a.q3 * a.q3)

/-- Dot product of the components. -/
def dot (a b : Quat α) : α := a.q0 * b.q0 + a.q1 * b.q1 + a.q2 * b.q2 + a.q3 * b.q3

/-- Exact equality of all components. -/
def beq (a b : Quat α) : Bool := a.q0 == b.q0 && a.q1 == b.q1 && a.q2 == b.q2 && a.q3 == b.q3

/-- The unit quaternion in the direction of `a`: `a` itself when its norm is exactly one,
otherwise every component divided by the norm.  Fails on the zero quaternion. -/
def normalize (a : Quat α) : Outcome (Quat α) :=
  let n := a.norm
  if n == 1.0 then pure a
  else if n == 0.0 then throw Fault.zeroDivision
  else pure ⟨a.q0 / n, a.q1 / n, a.q2 / n, a.q3 / n⟩

/-- Division by a scalar, as multiplication by its reciprocal. -/
def divScalar (a : Quat α) (s : α) : Outcome (Quat α) :=
  if s == 0.0 then throw Fault.zeroDivision else pure (scale a (1.0 / s))

/-- The inverse: the conjugate divided by the squared norm. -/
def inverse (a : Quat α) : Outcome (Quat α) := divScalar a.conj (sq a.norm)

/-- Rotates a vector; returns the rotated vector and the normalized rotation. -/
def rotate (a : Quat α) (v : Vec3 α) : Outcome (Vec3 α × Quat α) := do
  let r ← a.normalize
  let p := mul (mul r ⟨0.0, v.x, v.y, v.z⟩) r.conj
  pure (⟨p.q1, p.q2, p.q3⟩, r)

/-- The rotation angle in radians, in `[0, 2π]`, and the normalized quaternion. -/
def rotationAngle (a : Quat α) : Outcome (α × Quat α) := do
  let r ← a.normalize
  let n := Scalar.sqrt (1.0 - sq r.q0)
  pure (2.0 * Scalar.atan2 n r.q0, r)

/-- The rotation axis, and the quaternion left behind (normalized).  The identity rotation
has the axis `(1, 0, 0)`. -/
def rotationAxis (a : Quat α) : Outcome (Vec3 α × Quat α) := do
  let (angle, r) ← a.rotationAngle
  if Scalar.abs angle > 0.0 then
    let n := Scalar.sqrt (r.norm - sq r.q0)
    if n == 0.0 then throw Fault.zeroDivision
    else pure (⟨r.q1 / n, r.q2 / n, r.q3 / n⟩, r)
  else pure (⟨1.0, 0.0, 0.0⟩, r)

/-- The same rotation axis with the angle scaled by `s`, and the quaternion left behind.
A quaternion that does not rotate is its own scaling. -/
def scaleRotation (a : Quat α) (s : α) : Outcome (Quat α × Quat α) := do
  let (angle, r) ← a.rotationAngle
  if angle == 0.0 then pure (r, r)
  else
    let (axis, r) ← r.rotationAxis
    pure (ofAxisAngle axis (s * angle), r)

/-- The rotation vector (axis times angle), and the normalized quaternion. -/
def toRotationVector (a : Quat α) : Outcome (Vec3 α × Quat α) := do
  let r ← a.normalize
  let n := Scalar.sqrt (1.0 - sq r.q0)
  let angle := 2.0 * Scalar.atan2 n r.q0
  if angle == 0.0 then pure (⟨0.0, 0.0, 0.0⟩, r)
  else if n == 0.0 then throw Fault.zeroDivision
  else pure (⟨r.q1 * angle / n, r.q2 * angle / n, r.q3 * angle / n⟩, r)

/-- Spherical interpolation step: the rotation taking `a` towards `b`, scaled by
`fraction`, the shorter way round in angle.  Returns the interpolating rotation and both
quaternions normalized. -/
def slerp (a b : Quat α) (fraction : α) : Outcome (Quat α × Quat α × Quat α) := do
  let q1 ← a.normalize
  let q2 ← b.normalize
  let delta := mul q1.conj q2
  let (rotAngle, delta) ← delta.rotationAngle
  let pi : α := Scalar.pi
  let angle := if rotAngle > pi then (2.0 * pi - rotAngle) * fraction else rotAngle * fraction
  let axis ← if angle > 0.0 then (do let (ax, _) ← delta.rotationAxis; pure ax)
    else pure (⟨1.0, 0.0, 0.0⟩ : Vec3 α)
  pure (ofAxisAngle axis angle, q1, q2)

/-- The component at an index from zero to three. -/
def get? (a : Quat α) (i : Int) : Option α :=
  if i == 0 then some a.q0 else if i == 1 then some a.q1
  else if i == 2 then some a.q2 else if i == 3 then some a.q3 else none

end Arithmetic

/-- Tait-Bryan angles of the 3-2-1 (z-y-x) sequence, as a vector `(x, y, z)`. -/
def toEulerAngles (a : Quat) : Vec3 :=
  ⟨Float.atan2 (2.0 * (a.q0 * a.q1 + a.q2 * a.q3)) (1.0 - 2.0 * (sq a.q1 + sq a.q2)),
   Float.asin (2.0 * (a.q0 * a.q2 - a.q3 * a.q1)),
   Float.atan2 (2.0 * (a.q0 * a.q3 + a.q1 * a.q2)) (1.0 - 2.0 * (sq a.q2 + sq a.q3))⟩

end Quat

end RocketSim
