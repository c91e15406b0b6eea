import RocketSim.Environment.MeanWind
import RocketSim.Console.Binding

/-!
# Environment functions by name

The helper functions of the environment models.
-/

namespace RocketSim
namespace Console
namespace Calls

/-- The mean wind functions. -/
def meanWind (name : String) (args : List Value) (kwargs : List (String × Value)) :
    Option (Sim Value) :=
  match name with
  | "_convertWindHeadingToXYPlaneWindDirection" => some <| do
    let [h, a] ← bindParams [req "heading", opt "AngleBetweenYAxisandNorth" (.int 0)] args kwargs
      | Sim.fail Fault.typeMismatch
    (.vec ·) <$> MeanWind.directionOfHeading h a
  | _ => none

end Calls
end Console
end RocketSim
