import RocketSim.Console.Objects.Instance

/-!
# Integrators on request

Fixed-step and adaptive integrators, built by class or by the factory that reads a
definition's adaptation settings.  Calling an integrator takes one step of a derivative
function given as a function value; an adaptive integrator keeps its cached derivative and
its controller's state from step to step.
-/

namespace RocketSim
namespace Console
namespace Objects

/-- A derivative function from a function value of time and state; the state is left as
it was. -/
def derivativeOf (apply : Apply) (f : Value) : Derivative := fun t y => do
  pure (← apply f [t, y], y)

/-- A tableau as a value: a list of rows. -/
def tableauValue (t : Tableau) : Value := .list (t.map Value.list)

/-- The integrator of a method name: a fixed-step one, or an adaptive one configured by
the adaptation settings of a simulation definition, which it then requires. -/
def integratorFor (method : Value) (sd : Arg) : Sim Integrator := do
  let method ← match method with
    | .str s => pure s
    | _ => Sim.fail Fault.typeMismatch
  if !Integrator.isAdaptiveName method then
    return .classical (← ClassicalIntegrator.make method)
  match sd.definition? with
  | some d => configured (Integrator.configure method) d
  | none =>
    if sd.isNull then
      Sim.fail (Fault.raise .valueError
        "SimDefinition object required to initialize adaptive integrator")
    else Sim.fail Fault.noAttribute

/-- Builds an integrator by class, or by the integrator factory. -/
def integrator? (cls : String) (args : List Arg) (kwargs : List (String × Arg)) :
    Option (Sim Instance) :=
  match cls with
  | "ClassicalIntegrator" => some do
    let [m] ← bindArgs [opt "method" (.str "Euler")] args kwargs | Sim.fail Fault.typeMismatch
    let c ← ClassicalIntegrator.make (← nameText m.asValue)
    pure (.integrator (.classical c) .null)
  | "AdaptiveIntegrator" => some do
    let [m, c, target, factors, gains, maxStep, minStep, cb] ← bindArgs
        [opt "method" (.str "RK45Adaptive"), opt "controller" (.str "constant"),
         opt "targetError" (.float 0.001),
         opt "maxMinSafetyFactors" (.list [.float 1.5, .float 0.3, .float 0.9]),
         opt "PIDCoeffs" (.list [.float 1.0, .float 0.1, .float 0.0]),
         opt "maxTimeStep" (.int 5), opt "minTimeStep" (.float 0.0001),
         opt "discardedTimeStepCallback" .null] args kwargs
      | Sim.fail Fault.typeMismatch
    let factors ← seqItems factors.asValue
    let controller := match c.asValue with
      | .str s => s
      | _ => ""
    let a ← AdaptiveIntegrator.make (← nameText m.asValue) controller target.asValue factors
      gains.asValue maxStep.asValue minStep.asValue
    pure (.integrator (.adaptive a) cb.asValue)
  | "Integration.integratorFactory" => some do
    let [m, sd, cb] ← bindArgs [opt "integrationMethod" (.str "Euler"),
        opt "simDefinition" .null, opt "discardedTimeStepCallback" .null] args kwargs
      | Sim.fail Fault.typeMismatch
    let i ← integratorFor m.asValue sd
    match i with
    | .classical _ => pure (.integrator i .null)
    | .adaptive _ => pure (.integrator i cb.asValue)
  | _ => none

/-- Calls a method of an integrator: a call takes one step. -/
def integratorCall (apply : Apply) (i : Integrator) (onDiscard : Value) (method : String)
    (args : List Value) (kwargs : List (String × Value)) : Option (Sim (Value × Integrator)) :=
  match method with
  | "__call__" => some do
    let [y, t, f, dt] ← bindParams [req "initVal", req "initTime", req "derivativeFunc",
        req "dt"] args kwargs
      | Sim.fail Fault.typeMismatch
    let discard : Sim Unit := match onDiscard with
      | .null => pure ()
      | cb => do let _ ← apply cb [.other (Instance.integrator i onDiscard).className]
    i.step y t (derivativeOf apply f) dt discard
  | _ => none

/-- An attribute of an integrator. -/
def integratorAttr (i : Integrator) (name : String) : Option Value :=
  match i, name with
  | _, "method" => some (.str i.method)
  | .classical c, "tableau" => some ((c.tableau.map tableauValue).getD .null)
  | .adaptive a, "tableau" => some (tableauValue a.tableau)
  | .adaptive a, "derivativeCache" => some (a.derivativeCache.getD .null)
  | .adaptive a, "firstSameAsLast" => some (.bool a.firstSameAsLast)
  | .adaptive a, "maxFactor" => some a.maxFactor
  | .adaptive a, "minFactor" => some a.minFactor
  | .adaptive a, "safetyFactor" => some a.safetyFactor
  | .adaptive a, "targetError" => some a.targetError
  | .adaptive a, "maxTimeStep" => some a.maxTimeStep
  | .adaptive a, "minTimeStep" => some a.minTimeStep
  | _, _ => none

end Objects
end Console
end RocketSim
