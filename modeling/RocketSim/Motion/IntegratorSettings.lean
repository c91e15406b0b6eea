import RocketSim.Motion.Integration
import RocketSim.Definition.Reader

/-!
# Integrators from settings

A simulation names its integration method; a method whose name contains `Adapt` is
adaptive and takes its controller, target error, factor limits and step limits from the
dictionary `SimControl.TimeStepAdaptation` of the definition.  The PID controller reads its
three gains from one line of text; the elementary controller reads its safety factor.  Any
other controller leaves the safety factor unset, which fails once the settings are
gathered.
-/

namespace RocketSim
namespace Integrator

/-- Whether a method name is that of an adaptive method. -/
def isAdaptiveName (method : String) : Bool := Str.containsStr method "Adapt"

/-- The settings dictionary of time-step adaptation. -/
def adaptationSettings : Reader := { path := "SimControl.TimeStepAdaptation" }

/-- The numbers of a line of text, each read as the number constructor reads text. -/
def numbersOfText (text : String) : Config (List Value) :=
  (Str.splitWs text).mapM fun w => match FloatText.parse w with
    | some x => pure (Value.float x)
    | none => Config.fail Fault.badValue

/-- The integrator of a method, configured by the definition when the method is adaptive. -/
def configure (method : String) : Config Integrator := do
  if !isAdaptiveName method then
    return .classical (← Config.sim (ClassicalIntegrator.make method))
  let r := adaptationSettings
  let controller ← r.getText "controller"
  let (gains, safety) ← match controller with
    | "PID" => do
      let gains ← numbersOfText (← r.getText "PID.coefficients")
      pure (some (Value.list gains), some Value.null)
    | "elementary" => do
      let s ← r.getFloat "Elementary.safetyFactor"
      pure (some Value.null, some (Value.float s))
    | _ => pure (none, none)
  let target ← r.getFloat "targetError"
  let minF ← r.getFloat "minFactor"
  let maxF ← r.getFloat "maxFactor"
  let maxStep ← r.getFloat "maxTimeStep"
  let minStep ← r.getFloat "minTimeStep"
  let some safety := safety | Config.fail (Fault.bare .unboundLocalError)
  let some gains := gains | Config.fail (Fault.bare .unboundLocalError)
  let a ← Config.sim (AdaptiveIntegrator.make method controller (.float target)
    [.float maxF, .float minF, safety] gains (.float maxStep) (.float minStep))
  pure (.adaptive a)

end Integrator
end RocketSim
