import RocketSim.Console.Objects.Integrators

/-!
# Rigid bodies on request

Point masses, rigid bodies and stateful rigid bodies, built from an initial state, force
and inertia functions given as function values, and an integration method (an adaptive one
reads its settings from a simulation definition).  A call to `timeStep` advances the body;
the derivative functions can also be evaluated on their own.
-/

namespace RocketSim
namespace Console
namespace Objects

/-- Builds a body by class. -/
def body? (cls : String) (args : List Arg) (kwargs : List (String × Arg)) :
    Option (Sim Instance) :=
  let common := [opt "integrationMethod" (.str "Euler"), opt "discardedTimeStepCallback" .null,
    opt "simDefinition" .null]
  let build (kind : BodyKind) (s f i t0 m cb sd : Arg) : Sim Instance := do
    let integrator ← integratorFor m.asValue sd
    let b ← RigidBody.make kind s.asValue t0.asValue integrator
    pure (.body b f.asValue i.asValue [] cb.asValue)
  match cls with
  | "RigidBody_3DoF" => some do
    let [s, f, i, t0, m, cb, sd] ← bindArgs ([req "rigidBodyState", req "forceParam",
        req "inertiaParam", opt "startTime" (.int 0)] ++ common) args kwargs
      | Sim.fail Fault.typeMismatch
    build .pointMass s f i t0 m cb sd
  | "RigidBody" => some do
    let [s, f, i, m, cb, sd] ← bindArgs ([req "rigidBodyState", req "forceParam",
        req "inertiaParam"] ++ common) args kwargs
      | Sim.fail Fault.typeMismatch
    build .rigid s f i (.value (.int 0)) m cb sd
  | "StatefulRigidBody" => some do
    let [s, f, i, m, cb, sd] ← bindArgs ([req "rigidBodyState", req "forceParam",
        req "inertiaParam"] ++ common) args kwargs
      | Sim.fail Fault.typeMismatch
    build .stateful s f i (.value (.int 0)) m cb sd
  | _ => none

/-- Calls a method of a body: returns the result and the body afterwards. -/
def bodyCall (apply : Apply) (b : RigidBody) (force inertia : Value) (extras : List Value)
    (onDiscard : Value) (method : String) (args : List Value)
    (kwargs : List (String × Value)) : Option (Sim (Value × Instance)) :=
  let fn (g : Value) : StateFunction Sim := fun t y => apply g [t, y]
  let same (r : Value) : Sim (Value × Instance) := pure (r, .body b force inertia extras onDiscard)
  match method, b.kind with
  | "timeStep", _ => some do
    let [dt] ← bindParams [req "deltaT"] args kwargs | Sim.fail Fault.typeMismatch
    let discard : Sim Unit := match onDiscard with
      | .null => pure ()
      | cb => do let _ ← apply cb [.other "AdaptiveIntegrator"]
    let f := RigidBody.derivative b.kind (fn force) (fn inertia) (extras.map fn)
    let (r, b) ← b.timeStep f dt discard
    pure (r, .body b force inertia extras onDiscard)
  | "getRigidBodyStateDerivative", kind => some do
    let [t, y] ← bindParams [req "time", req "state"] args kwargs | Sim.fail Fault.typeMismatch
    let (d, _) ← match kind with
      | .pointMass => RigidBody.pointMassDerivative (fn force) (fn inertia) t y
      | _ => RigidBody.rigidDerivative (fn force) (fn inertia) t y
    same d
  | "getStateDerivative", .stateful => some do
    let [t, y] ← bindParams [req "time", req "state"] args kwargs | Sim.fail Fault.typeMismatch
    let (d, _) ← RigidBody.statefulDerivative (fn force) (fn inertia) (extras.map fn) t y
    same d
  | "addStateVariable", .stateful => some do
    let [name, value, g] ← bindParams [req "name", req "currentValue",
        req "derivativeFunction"] args kwargs
      | Sim.fail Fault.typeMismatch
    let b ← b.addVariable (← nameText name) value
    pure (.null, .body b force inertia (extras ++ [g]) onDiscard)
  | _, _ => none

/-- An attribute of a body. -/
def bodyAttr (b : RigidBody) (force inertia : Value) (onDiscard : Value) (name : String) :
    Option Member :=
  match name with
  | "time" => some (.value b.time)
  | "state" => some (.value b.state)
  | "lastStateDerivative" => some (.value b.lastDerivative)
  | "forceFunc" => some (.value force)
  | "inertiaFunc" => some (.value inertia)
  | "integrate" => some (.object (.integrator b.integrator (match b.integrator with
    | .adaptive _ => onDiscard
    | .classical _ => .null)))
  | _ => none

end Objects
end Console
end RocketSim
