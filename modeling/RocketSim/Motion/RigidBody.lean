import RocketSim.Motion.Integration
import RocketSim.Core.Methods

/-!
# Rigid bodies

A rigid body carries its time, its state and the derivative estimate of its last step, and
advances by integrating the derivative of its state under an applied force and an inertia,
both functions of time and state:

* a point mass (three degrees of freedom) moves under the force divided by its mass;
* a rigid body (six degrees of freedom) takes the force and moment in its own frame: the
  force is rotated into the global frame, the centre of gravity's drift within the body
  (a finite difference of the inertia over `1e-8 s`) adds to the velocity, and the angular
  acceleration follows Euler's equations about the principal axes;
* a stateful rigid body integrates further named state variables next to its rigid-body
  state, each with its own derivative function.

Rotating a vector by the state's orientation normalizes the orientation in place, so the
derivative returns the state as the evaluation leaves it.  The derivatives are evaluated in
any monad that can run simulation steps, so the force and inertia may belong to a larger
system (a whole rocket) whose state they update.
-/

namespace RocketSim

/-- A function of time and state, evaluated in a monad `m`: a force, an inertia, or the
derivative of an extra state variable. -/
abbrev StateFunction (m : Type → Type) := Value → Value → m Value

/-- The degrees of freedom a body is integrated with. -/
inductive BodyKind where
  /-- A point mass: position and velocity. -/
  | pointMass
  /-- A rigid body: position, velocity, orientation and angular velocity. -/
  | rigid
  /-- A rigid body with further state variables. -/
  | stateful
  deriving Inhabited, BEq

namespace BodyKind

/-- The class name of a body of this kind. -/
def className : BodyKind → String
  | .pointMass => "RigidBody_3DoF"
  | .rigid => "RigidBody"
  | .stateful => "StatefulRigidBody"

end BodyKind

/-- A body in motion: its kind, time, state, the derivative estimate of its last step, and
its integrator. -/
structure RigidBody where
  kind : BodyKind
  time : Value
  state : Value
  lastDerivative : Value
  integrator : Integrator
  deriving Inhabited

namespace RigidBody

/-- Rotates a vector by a state's orientation; returns the rotated vector and the state
with its orientation normalized as the rotation leaves it. -/
def rotateByOrientation (state v : Value) : Sim (Value × Value) := do
  let o ← Ops.attr state "orientation"
  let (r, o) ← Sim.lift (Methods.call o "rotate" [v] [])
  let state ← Sim.lift (Arith.setAttr Arith.depth state "orientation" o)
  pure (r, state)

/-- The derivative of a point mass's state: its velocity, and the force divided by the
inertia (a mass). -/
def pointMassDerivative {m : Type → Type} [Monad m] [MonadLiftT Sim m]
    (force inertia : StateFunction m) : DerivativeIn m := fun t y => do
  let f ← Ops.attr (← force t y) "force"
  let v ← Ops.attr y "velocity"
  let a ← Ops.div f (← inertia t y)
  pure (.pointStateRate v a, y)

/-- Euler's equation about one principal axis: the moment plus the gyroscopic term, over
the moment of inertia. -/
def eulerAxis (moment moi w : Value) (axis first second : String) : Sim Value := do
  let mx ← Ops.attr moment axis
  let diff ← Ops.sub (← Ops.attr moi first) (← Ops.attr moi second)
  let gyro ← Ops.mul (← Ops.mul diff (← Ops.attr w first)) (← Ops.attr w second)
  Ops.div (← Ops.add mx gyro) (← Ops.attr moi axis)

/-- The derivative of a rigid body's state under a force and moment in the body frame. -/
def rigidDerivative {m : Type → Type} [Monad m] [MonadLiftT Sim m]
    (force inertia : StateFunction m) : DerivativeIn m := fun t y => do
  let applied ← force t y
  let i1 ← inertia t y
  let step : Value := .float 1e-8
  let i2 ← inertia (← Ops.add t step) y
  let cgDrift ← Ops.div (← Ops.sub (← Ops.attr i2 "CG") (← Ops.attr i1 "CG")) step
  let (cgDriftGlobal, y) ← rotateByOrientation y cgDrift
  let (forceGlobal, y) ← rotateByOrientation y (← Ops.attr applied "force")
  let accel ← Ops.div forceGlobal (← Ops.attr i1 "mass")
  let (wGlobal, y) ← rotateByOrientation y (← Ops.attr y "angularVelocity")
  let comps ← Sim.lift (Arith.iterItems wGlobal)
  let wGlobal ← match comps with
    | [a, b, c] => Sim.lift (Construct.angularVelocity a b c)
    | _ => Sim.fail Fault.typeMismatch
  let moi ← Ops.attr i1 "MOI"
  let moment ← Ops.attr applied "moment"
  let wx ← eulerAxis moment moi (← Ops.attr y "angularVelocity") "X" "Y" "Z"
  let wy ← eulerAxis moment moi (← Ops.attr y "angularVelocity") "Y" "Z" "X"
  let wz ← eulerAxis moment moi (← Ops.attr y "angularVelocity") "Z" "X" "Y"
  let alpha ← Sim.lift (Construct.angularVelocity wx wy wz)
  let v ← Ops.add (← Ops.attr y "velocity") cgDriftGlobal
  pure (.stateRate v accel wGlobal alpha, y)

/-- The derivative of a list of state variables: the rigid-body derivative first, then the
derivative of each further variable, under the same names. -/
def statefulDerivative {m : Type → Type} [Monad m] [MonadLiftT Sim m]
    (force inertia : StateFunction m) (extras : List (StateFunction m)) : DerivativeIn m :=
  fun t y => do
    let (d0, y) ← rigidDerivative force inertia t y
    let ds ← extras.mapM fun g => g t y
    let names ← match y with
      | .stateList _ names => pure names
      | _ => liftM (Sim.fail Fault.noAttribute : Sim (List (String × Nat)))
    pure (.stateList (d0 :: ds) names, y)

/-- The derivative of a body of a kind. -/
def derivative {m : Type → Type} [Monad m] [MonadLiftT Sim m] (kind : BodyKind)
    (force inertia : StateFunction m) (extras : List (StateFunction m)) : DerivativeIn m :=
  match kind with
  | .pointMass => pointMassDerivative force inertia
  | .rigid => rigidDerivative force inertia
  | .stateful => statefulDerivative force inertia extras

/-- A body of a kind from its initial state, start time and integrator; a stateful body
keeps its rigid-body state as the first of its state variables. -/
def make (kind : BodyKind) (state startTime : Value) (integrator : Integrator) :
    Sim RigidBody := do
  let v ← Ops.attr state "velocity"
  let last ← match kind with
    | .pointMass => pure (.pointStateRate v (.vec Vec3.zero))
    | _ => do
      let v ← Ops.attr state "velocity"
      let w ← Ops.attr state "angularVelocity"
      pure (.stateRate v (.vec Vec3.zero) w (.angVel Vec3.zero))
  let state ← match kind with
    | .stateful => Sim.lift (Construct.stateList [state] none)
    | _ => pure state
  pure { kind, time := startTime, state, lastDerivative := last, integrator }

/-- Adds a named state variable with its current value. -/
def addVariable (b : RigidBody) (name : String) (value : Value) : Sim RigidBody := do
  match b.state with
  | .stateList items names =>
    let i := items.length
    let names := if names.any (·.1 == name) then
        names.map fun (k, j) => if k == name then (k, i) else (k, j)
      else names ++ [(name, i)]
    pure { b with state := .stateList (items ++ [value]) names }
  | _ => Sim.fail Fault.noAttribute

/-- One time step of (at most) `dt` under a derivative: the step's integration result and
the body advanced to its end. -/
def timeStep {m : Type → Type} [Monad m] [MonadLiftT Sim m] (b : RigidBody)
    (f : DerivativeIn m) (dt : Value) (onDiscard : m Unit := pure ()) :
    m (Value × RigidBody) := do
  let state ← Sim.lift (Arith.setAttr Arith.depth b.state "estimatedDerivative" b.lastDerivative)
  let (r, integrator) ← b.integrator.step state b.time f dt onDiscard
  let time ← Ops.add b.time (← Ops.attr r "dt")
  let newValue ← Ops.attr r "newValue"
  let last ← Ops.attr r "derivativeEstimate"
  pure (r, { b with time, state := newValue, lastDerivative := last, integrator })

end RigidBody
end RocketSim
