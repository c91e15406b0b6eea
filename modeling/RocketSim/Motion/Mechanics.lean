import RocketSim.Motion.Quat

/-!
# Force-moment systems, mass properties and state interpolation

Three computations of rigid-body mechanics, each written once over the operations it uses.
The simulator runs them on its dynamic values (`Arith.systemOps`, `Arith.inertiaOps` and the
value operations of state interpolation); the same text, run over the reals, is their exact
meaning.

* A force-moment system is a force applied at a location, together with a moment.  Moving it
  to a new location keeps the force and adds the moment of the force about the new location;
  the sum of two systems is taken at the first one's location, the second moved there.
* Mass properties (moments of inertia about three axes through a point, centre of gravity,
  mass) combine by summing masses and mass-weighted centres of gravity and by shifting each
  part's moments to a common point with the parallel-axis theorem.  The receiving inertia
  joins the parts unless they already hold an inertia equal to it, and every part must have
  its moments about its own centre of gravity.
* Two rigid-body states interpolate field by field, with the weight `w` on the first state and
  `1 - w` on the second; the orientation is the first orientation turned by the slerp step
  from it towards the second, by the fraction `w`.
-/

namespace RocketSim

namespace Vec3

variable {α : Type} [Scalar α]

/-- Moments of inertia about three axes with the parallel-axis terms of a mass `m` at the
offset `d` added: `m` times the squared distance of `d` from each axis. -/
def parallelAxis (moi : Vec3 α) (m : α) (d : Vec3 α) : Vec3 α :=
  ⟨moi.x + m * (d.y * d.y + d.z * d.z), moi.y + m * (d.x * d.x + d.z * d.z),
   moi.z + m * (d.x * d.x + d.y * d.y)⟩

end Vec3

/-! ## Force-moment systems -/

namespace ForceMoment

/-- The operations force-moment systems are written in, in a monad `m`: systems `φ` made of a
force, a location and a moment, all vectors `V`. -/
structure Ops (m : Type → Type) (φ V : Type) where
  /-- The force, location and moment of a system; fails on anything else. -/
  parts : φ → m (V × V × V)
  /-- The system of a force, a location and a moment. -/
  make : V → V → V → φ
  add : V → V → m V
  sub : V → V → m V
  neg : V → m V
  /-- The cross product of a lever arm and a force. -/
  cross : V → V → m V

variable {m : Type → Type} [Monad m] {φ V : Type} (O : Ops m φ V)

/-- The system moved to the location `p`: the same force, with the moment of the force about
`p` (the arm from `p` to the old location, crossed with the force) added to the moment. -/
def moveTo (F : φ) (p : V) : m φ := do
  let (force, location, moment) ← O.parts F
  let arm ← O.sub location p
  let turn ← O.cross arm force
  pure (O.make force p (← O.add moment turn))

/-- The sum of two systems, at the first one's location: the second is moved there, and the
forces and the moments are added. -/
def add (F G : φ) : m φ := do
  let (force, location, moment) ← O.parts F
  let (force', _, moment') ← O.parts (← moveTo O G location)
  let total ← O.add force force'
  pure (O.make total location (← O.add moment moment'))

/-- The opposite system: force and moment negated, at the same location. -/
def neg (F : φ) : m φ := do
  let (force, location, moment) ← O.parts F
  let force ← O.neg force
  pure (O.make force location (← O.neg moment))

end ForceMoment

/-! ## Mass properties -/

namespace Inertia

/-- The operations mass properties are combined with, in a monad `m`: inertias `ι`, their
moments of inertia and points `V`, and their masses `S`. -/
structure Ops (m : Type → Type) (ι V S : Type) where
  /-- Whether a list holds an inertia equal to the given one. -/
  mem : ι → List ι → m Bool
  /-- Moments of inertia about the three axes through the centroid. -/
  moi : ι → m V
  /-- Centre of gravity. -/
  cg : ι → m V
  /-- Mass. -/
  mass : ι → m S
  /-- The point the moments are taken about. -/
  centroid : ι → m V
  /-- Whether two points are equal. -/
  samePoint : V → V → m Bool
  /-- The text of an inertia, for the fault of one not taken about its centre of gravity. -/
  describe : ι → m String
  /-- The mass of nothing. -/
  zeroMass : S
  /-- The zero vector. -/
  zeroVec : V
  /-- Sum of masses. -/
  addMass : S → S → m S
  addVec : V → V → m V
  /-- A point weighted by a mass. -/
  scale : V → S → m V
  /-- A weighted sum of points divided by a mass. -/
  divide : V → S → m V
  /-- The offset from one point to another, as a vector. -/
  sub : V → V → m V
  /-- Whether a mass is positive. -/
  positive : S → m Bool
  /-- Moments with the parallel-axis terms of a mass at an offset added. -/
  shift : V → S → V → m V
  /-- The inertia of moments, centre of gravity, mass and centroid. -/
  make : V → V → S → V → ι

/-- The message of the fault of an inertia whose moments are not about its centre of
gravity; the inertia's text follows it. -/
def offCentreMessage : String :=
  "At least one of the inertias to be added has an MOI not defined about its CG: "

variable {m : Type → Type} [Monad m] [MonadExceptOf Fault m] {ι V S : Type} (O : Ops m ι V S)

/-- Fails unless the inertia's moments are taken about its centre of gravity. -/
def checkAboutCG (i : ι) : m Unit := do
  let c ← O.centroid i
  let g ← O.cg i
  if !(← O.samePoint c g) then
    throw (Fault.raise .valueError (offCentreMessage ++ (← O.describe i)))

/-- The parts a combination sums: the list, with `self` appended unless the list holds an
inertia equal to it, each checked to be about its centre of gravity. -/
def parts (self : ι) (list : List ι) : m (List ι) := do
  let list ← if ← O.mem self list then pure list else pure (list ++ [self])
  list.forM (checkAboutCG O)
  pure list

/-- One part added to the running mass and mass-weighted centre of gravity. -/
def massStep (acc : S × V) (i : ι) : m (S × V) := do
  let mi ← O.mass i
  let mass ← O.addMass acc.1 mi
  pure (mass, ← O.addVec acc.2 (← O.scale (← O.cg i) mi))

/-- One part's moments, shifted to the point `p`, added to the running moments. -/
def momentStep (p moi : V) (i : ι) : m V := do
  let moi ← O.addVec moi (← O.moi i)
  let d ← O.sub p (← O.centroid i)
  O.shift moi (← O.mass i) d

/-- The parts combined about the point `p`: the total mass, the centre of gravity (the
weighted sum divided by the total mass) and the moments about `p`.  Returns the list of parts
as it is left. -/
def combineAbout (self : ι) (list : List ι) (p : V) : m (ι × List ι) := do
  let list ← parts O self list
  let (mass, weighted, moi) ← list.foldlM (fun (acc : S × V × V) i => do
      let (mass, weighted) ← massStep O (acc.1, acc.2.1) i
      pure (mass, weighted, ← momentStep O p acc.2.2 i)) (O.zeroMass, O.zeroVec, O.zeroVec)
  pure (O.make moi (← O.divide weighted mass) mass p, list)

/-- The parts combined about their combined centre of gravity, which is the origin when the
total mass is not positive.  Returns the list of parts as it is left. -/
def combine (self : ι) (list : List ι) : m (ι × List ι) := do
  let list ← parts O self list
  let (mass, weighted) ← list.foldlM (massStep O) (O.zeroMass, O.zeroVec)
  let cg ← if ← O.positive mass then O.divide weighted mass else pure O.zeroVec
  let moi ← list.foldlM (momentStep O cg) O.zeroVec
  pure (O.make moi cg mass cg, list)

end Inertia

/-! ## Interpolation of states -/

namespace States

/-- The operations state interpolation is written in, in a monad `m`: states `σ`, their vector
fields `V`, weights `W`, and orientations as quaternions over `β`. -/
structure Ops (m : Type → Type) (σ V W β : Type) where
  /-- A vector field of a state, by name. -/
  field : σ → String → m V
  /-- The orientation of the first state, as a quaternion. -/
  orientation : σ → m (Quat β)
  /-- The orientation of the second state, which must be a quaternion. -/
  target : σ → m (Quat β)
  /-- A field scaled by a weight. -/
  weigh : V → W → m V
  add : V → V → m V
  /-- The other weight, `1 - w`. -/
  complement : W → m W
  /-- A weight as the fraction of a turn. -/
  fraction : W → m β
  /-- A rotation computation, run in `m`. -/
  lift : {γ : Type} → Outcome γ → m γ
  /-- The rigid-body state of a position, velocity, orientation and angular velocity. -/
  rigid : V → V → Quat β → V → σ
  /-- The point-mass state of a position and velocity. -/
  point : V → V → σ

variable {m : Type → Type} [Monad m] [MonadExceptOf Fault m] {σ V W β : Type} [Scalar β]
  (O : Ops m σ V W β)

/-- A field of two states, weighted by `w₁` and `w₂`. -/
def lerp (s₁ s₂ : σ) (w₁ w₂ : W) (name : String) : m V := do
  O.add (← O.weigh (← O.field s₁ name) w₁) (← O.weigh (← O.field s₂ name) w₂)

/-- Interpolation of two states with the weight `w` on the first.  Position and velocity are
weighted sums; a state without an orientation interpolates as a point mass.  The orientation
is the first orientation `q₁` turned by `slerp(q₁, q₂, w)`, and the angular velocity is the
weighted sum. -/
def interpolate (s₁ s₂ : σ) (w : W) : m σ := do
  let w' ← O.complement w
  let position ← lerp O s₁ s₂ w w' "position"
  let velocity ← lerp O s₁ s₂ w w' "velocity"
  tryCatch (do
      let q₁ ← O.orientation s₁
      let q₂ ← O.target s₂
      let (turn, q₁', _) ← O.lift (q₁.slerp q₂ (← O.fraction w))
      let angular ← lerp O s₁ s₂ w w' "angularVelocity"
      pure (O.rigid position velocity (q₁'.mul turn) angular))
    fun e => if e.kind == .attributeError then pure (O.point position velocity) else throw e

end States

end RocketSim
