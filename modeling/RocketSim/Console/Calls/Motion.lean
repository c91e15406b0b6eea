import RocketSim.Tables.Interpolation
import RocketSim.Motion.Integration
import RocketSim.Console.Binding

/-!
# Motion functions by name

Interpolation of tables and of rigid-body states, and the check of Butcher tableaus.
-/

namespace RocketSim
namespace Console
namespace Calls

/-- State interpolation among values: fields read by name, weights and sums in the value
algebra, and orientations as binary64 quaternions. -/
def stateOps : States.Ops Sim Value Value Value Float where
  field := Ops.attr
  orientation s := do Ops.quat (← Ops.attr s "orientation")
  target s := do
    match ← Ops.attr s "orientation" with
    | .quat q => pure q
    | _ => Sim.fail Fault.typeMismatch
  weigh := Ops.mul
  add := Ops.add
  complement := Ops.sub (.int 1)
  fraction := Ops.real
  lift := Sim.lift
  rigid p v q w := .state p v (.quat q) w
  point := .pointState

/-- Interpolation of two rigid-body states with the weight `w1` on the first (point-mass
states interpolate position and velocity only). -/
def interpolateStates (s1 s2 w1 : Value) : Sim Value := States.interpolate stateOps s1 s2 w1

/-- The interpolation functions. -/
def interpolation (name : String) (args : List Value) (kwargs : List (String × Value)) :
    Option (Sim Value) :=
  match name with
  | "linInterp" => some <| do
    let [xs, ys, x] ← bindParams [req "X", req "Y", req "desiredX"] args kwargs
      | Sim.fail Fault.typeMismatch
    Interpolation.linear (← seqItems xs) (← seqItems ys) x
  | "linInterpWeights" => some <| do
    let [xs, x] ← bindParams [req "X", req "desiredX"] args kwargs | Sim.fail Fault.typeMismatch
    (.tuple ·) <$> Interpolation.weights (← seqItems xs) x
  | "calculateCubicInterpCoefficients" => some <| do
    let [x1, x2, y1, y2, d1, d2] ← bindParams [req "X1", req "X2", req "Y1", req "Y2",
        req "dydx1", req "dydx2"] args kwargs
      | Sim.fail Fault.typeMismatch
    let c ← Sim.lift (Interpolation.cubicCoefficients (← Ops.real x1) (← Ops.real x2)
      (← Ops.real y1) (← Ops.real y2) (← Ops.real d1) (← Ops.real d2))
    pure (column c)
  | "cubicInterp" => some <| do
    let [x, x1, x2, y1, y2, y1n, y2n, dx] ← bindParams [req "X", req "X1", req "X2", req "Y1",
        req "Y2", req "Y1_plusDx", req "Y2_plusDx", req "dx"] args kwargs
      | Sim.fail Fault.typeMismatch
    (.float ·) <$> Sim.lift (Interpolation.cubic (← Ops.real x) (← Ops.real x1) (← Ops.real x2)
      (← Ops.real y1) (← Ops.real y2) (← Ops.real y1n) (← Ops.real y2n) (← Ops.real dx))
  | _ => none

/-- The rigid-body state functions. -/
def rigidBodyStates (name : String) (args : List Value) (kwargs : List (String × Value)) :
    Option (Sim Value) :=
  match name with
  | "interpolateRigidBodyStates" => some <| do
    let [s1, s2, w] ← bindParams [req "state1", req "state2", req "state1Weight"] args kwargs
      | Sim.fail Fault.typeMismatch
    interpolateStates s1 s2 w
  | _ => none

/-- The integration functions. -/
def integration (name : String) (args : List Value) (kwargs : List (String × Value)) :
    Option (Sim Value) :=
  match name with
  | "checkButcherTableau" => some <| do
    let [t] ← bindParams [req "tableau"] args kwargs | Sim.fail Fault.typeMismatch
    let rows ← (← seqItems t).mapM seqItems
    let _ ← Tableau.check rows
    pure .null
  | _ => none

end Calls
end Console
end RocketSim
