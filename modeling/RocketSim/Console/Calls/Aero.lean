import RocketSim.Aero.Functions
import RocketSim.Aero.NoseCone
import RocketSim.Aero.FinSlices
import RocketSim.Console.Binding

/-!
# Aerodynamic functions by name

The callable aerodynamic parameters (memoized where the library memoizes them), the
coefficient correlations, the nose cone drag correlations and the fin strip theory.
-/

namespace RocketSim
namespace Console
namespace Calls

/-- The aerodynamic parameter functions. -/
def aeroParameters (apply : Apply) (name : String) (args : List Value)
    (kwargs : List (String × Value)) : Option (Sim Value) :=
  match name with
  | "getAltitude" => some <| do
    let [_, env, _] ← bindParams [req "state", req "environment", opt "_" .null] args kwargs
      | Sim.fail Fault.typeMismatch
    Aero.altitude env
  | "getMachNumber" => some <| do
    let [s, env, _] ← bindMemo [req "state", req "environment", opt "_" .null] args kwargs
      | Sim.fail Fault.typeMismatch
    Aero.machNumber args s env
  | "getReynoldsNumber" => some <| do
    let [s, env, len] ← bindMemo [req "state", req "environment", req "length"] args kwargs
      | Sim.fail Fault.typeMismatch
    Aero.reynoldsNumber args s env len
  | "getTotalAOA" => some <| do
    let [s, env, _] ← bindMemo [req "state", req "environment", opt "_" .null] args kwargs
      | Sim.fail Fault.typeMismatch
    Aero.totalAOA args s env
  | "getAOA" => some <| do
    let [s, env, _] ← bindParams [req "state", req "environment", opt "_" .null] args kwargs
      | Sim.fail Fault.typeMismatch
    Aero.angleOfAttack s env
  | "getAOSS" => some <| do
    let [s, env, _] ← bindParams [req "state", req "environment", opt "_" .null] args kwargs
      | Sim.fail Fault.typeMismatch
    Aero.sideslip s env
  | "getRollAngle" => some <| do
    let [s, env, _] ← bindMemo [req "state", req "environment", opt "_" .null] args kwargs
      | Sim.fail Fault.typeMismatch
    Aero.rollAngle args s env
  | "getLocalFrameAirVel" => some <| do
    let [s, env] ← bindMemo [req "state", req "environment"] args kwargs
      | Sim.fail Fault.typeMismatch
    (.vec ·) <$> Aero.localFrameAirVel s env
  | "getAirVelRelativeToVehicle" => some <| do
    let [s, env] ← bindParams [req "state", req "environment"] args kwargs
      | Sim.fail Fault.typeMismatch
    (.vec ·) <$> Aero.airVelRelativeToVehicle s env
  | "getNormalAeroForceDirection" => some <| do
    let [s, env] ← bindMemo [req "state", req "environment"] args kwargs
      | Sim.fail Fault.typeMismatch
    (.vec ·) <$> Aero.normalForceDirection s env
  | "getDynamicPressure" => some <| do
    let [s, env] ← bindMemo [req "state", req "environment"] args kwargs
      | Sim.fail Fault.typeMismatch
    Aero.dynamicPressure s env
  | "getBeta" => some <| do
    let [m] ← bindMemo [req "Mach"] args kwargs | Sim.fail Fault.typeMismatch
    Aero.beta m
  | "getAeroPropertiesList" => some <| do
    let [fs, s, env] ← bindParams [req "aeroFunctionList", req "state", req "environment"] args kwargs
      | Sim.fail Fault.typeMismatch
    let fns ← seqItems fs
    (.list ·) <$> fns.mapM fun f => apply f [s, env, .int 1]
  | _ => none

/-- The aerodynamic coefficient functions. -/
def aeroFunctions (name : String) (args : List Value) (kwargs : List (String × Value)) :
    Option (Sim Value) :=
  match name with
  | "_getCPZ" => some <| do
    let [f] ← bindParams [req "componentForces"] args kwargs | Sim.fail Fault.typeMismatch
    Aero.centerOfPressureZ f
  | "getGamma" => some <| do
    let _ ← bindParams [] args kwargs
    pure (.float Aero.gamma)
  | "getGasConstant" => some <| do
    let _ ← bindParams [] args kwargs
    pure (.float Aero.gasConstant)
  | "_subSonicSkinFrictionCompressiblityCorrectionFactor" => some <| do
    let [m, smooth] ← bindParams [req "Mach", req "smoothSurface"] args kwargs
      | Sim.fail Fault.typeMismatch
    (.float ·) <$> Sim.lift (Aero.subsonicFrictionFactor (← Ops.real m) smooth.truthy)
  | "_supersonicSkinFrictionCompressiblityCorrectionFactor" => some <| do
    let [m, smooth] ← bindParams [req "Mach", req "smoothSurface"] args kwargs
      | Sim.fail Fault.typeMismatch
    (.float ·) <$> Sim.lift (Aero.supersonicFrictionFactor (← Ops.real m) smooth.truthy)
  | "getSkinFrictionCoefficient" => some <| do
    let [s, env, len, m, r, turb] ← bindMemo [req "state", req "environment", req "length",
        req "Mach", req "surfaceRoughness", opt "assumeFullyTurbulent" (.bool true)] args kwargs
      | Sim.fail Fault.typeMismatch
    (.float ·) <$> Aero.skinFriction args s env len (← Ops.real m) (← Ops.real r) turb.truthy
  | "getCylindricalSkinFrictionDragCoefficientAndRollDampingMoment" => some <| do
    let [s, env, len, m, r, wetted, aref, fineness, turb] ← bindParams [req "state",
        req "environment", req "length", req "Mach", req "surfaceRoughness", req "wettedArea",
        req "Aref", req "finenessRatio", opt "assumeFullyTurbulent" (.bool true)] args kwargs
      | Sim.fail Fault.typeMismatch
    let (cf, moment) ← Aero.cylinderFriction s env len (← Ops.real m) (← Ops.real r)
      (← Ops.real wetted) (← Ops.real aref) fineness turb.truthy turb
    pure (.tuple [.float cf, .vec moment])
  | "getBaseDragCoefficient" => some <| do
    let [m] ← bindMemo [req "Mach"] args kwargs | Sim.fail Fault.typeMismatch
    (.float ·) <$> Aero.baseDrag (← Ops.real m)
  | "getCylinderCrossFlowCd_ZeroBaseDrag" => some <| do
    let [m] ← bindMemo [req "Mach"] args kwargs | Sim.fail Fault.typeMismatch
    (.float ·) <$> Aero.cylinderCrossFlowDrag (← Ops.real m)
  | "getBluntBodyCd_ZeroBaseDrag" => some <| do
    let [m] ← bindMemo [req "Mach"] args kwargs | Sim.fail Fault.typeMismatch
    (.float ·) <$> Aero.bluntBodyDrag (← Ops.real m)
  | "getDragToAxialForceFactor" => some <| do
    let [a] ← bindMemo [req "AOA"] args kwargs | Sim.fail Fault.typeMismatch
    (.float ·) <$> Aero.dragToAxialFactor a
  | "forceFromCdCN" => some <| do
    let [s, env, cd, cn, cp, area, moment] ← bindParams [req "rocketState", req "environment",
        req "Cd", req "CN", req "CPLocation", req "refArea", opt "moment" .null] args kwargs
      | Sim.fail Fault.typeMismatch
    Aero.forceFromDragAndNormal s env cd cn cp area (some moment)
  | "forceFromCoefficients" => some <| do
    let [s, env, cd, cl, mx, my, mz, cp, area, len] ← bindParams [req "rocketState",
        req "environment", req "Cd", req "Cl", req "CMx", req "CMy", req "CMz", req "CPLocation",
        req "refArea", req "refLength"] args kwargs
      | Sim.fail Fault.typeMismatch
    Aero.forceFromCoefficients s env cd cl mx my mz cp area len
  | "Barrowman_GetCPLocation" => some <| do
    let [len, top, bottom, vol, loc] ← bindParams [req "length", req "crossSectionalArea_top",
        req "crossSectionalArea_bottom", req "volume", opt "topLocation" (.vec Vec3.zero)] args kwargs
      | Sim.fail Fault.typeMismatch
    (.vec ·) <$> Sim.lift (Aero.barrowmanCP (← Ops.real len) (← Ops.real top) (← Ops.real bottom)
      (← Ops.real vol) (← Ops.vec loc))
  | "Barrowman_GetCN" => some <| do
    let [a, aref, top, bottom] ← bindParams [req "AOA", req "Aref", req "crossSectionalArea_top",
        req "crossSectionalArea_bottom"] args kwargs
      | Sim.fail Fault.typeMismatch
    (.float ·) <$> Sim.lift (Aero.barrowmanCN (← Ops.real a) (← Ops.real aref) (← Ops.real top)
      (← Ops.real bottom))
  | _ => none

/-- The nose cone drag correlations. -/
def noseCone (name : String) (args : List Value) (kwargs : List (String × Value)) :
    Option (Sim Value) :=
  match name with
  | "calculatePrandtlFactorCorrection" => some <| do
    let [w, cf, f, aref, cp] ← bindParams [req "wettedArea", req "sonicSkinFrictionCoeff",
        req "rocketFinenessRatio", req "Aref", req "sonicPressureDragCoeff"] args kwargs
      | Sim.fail Fault.typeMismatch
    Aero.NoseCone.prandtlCorrection w cf f aref cp
  | "getSubsonicPressureDragCoeff_Barrowman" => some <| do
    let [w, cf, f, aref, k, m] ← bindParams [req "wettedArea", req "skinFrictionCoeff",
        req "rocketFinenessRatio", req "Aref", req "K", req "Mach"] args kwargs
      | Sim.fail Fault.typeMismatch
    Aero.NoseCone.subsonicPressureDrag w cf f aref k m
  | "getSupersonicPressureDragCoeff_Hoerner" => some <| do
    let [a, m] ← bindParams [req "coneHalfAngle", req "Mach"] args kwargs
      | Sim.fail Fault.typeMismatch
    (.float ·) <$> Aero.NoseCone.supersonicPressureDrag (← Ops.real a) m
  | "computeSubsonicPolyCoeffs" => some <| do
    let [a] ← bindParams [req "coneHalfAngle"] args kwargs | Sim.fail Fault.typeMismatch
    let (cd, k) ← Sim.lift (Aero.NoseCone.subsonicPowerLaw (← Ops.real a))
    pure (.list [.float cd, .float k])
  | "computeTransonicPolyCoeffs" => some <| do
    let [a] ← bindParams [req "coneHalfAngle"] args kwargs | Sim.fail Fault.typeMismatch
    column <$> Aero.NoseCone.transonicCubic (← Ops.real a)
  | _ => none

/-- A list of numbers, each converted to a float. -/
def floatList (v : Value) : Sim (List Float) := do
  (← seqItems v).mapM Ops.real

/-- The slice tables of a fin object; the supersonic model also reads the leading edges and
chords of the slices. -/
def finGeometry (fin : Value) (supersonic : Bool) : Sim Aero.FinSlices.FinGeometry := do
  let areas ← Ops.attr fin "spanSliceAreas"
  let _ ← Methods.length areas
  let stall ← Ops.realAttr fin "stallAngle"
  let areas ← floatList areas
  let radii ← floatList (← Ops.attr fin "spanSliceRadii")
  if supersonic then
    let les ← floatList (← Ops.attr fin "sliceLEPositions")
    let chords ← floatList (← Ops.attr fin "sliceLengths")
    pure { stallAngle := stall, areas, radii, leadingEdges := les, chords }
  else pure { stallAngle := stall, areas, radii }

/-- The fin strip-theory functions. -/
def finFunctions (name : String) (args : List Value) (kwargs : List (String × Value)) :
    Option (Sim Value) :=
  match name with
  | "getFinSliceAngleOfAttack" => some <| do
    let [r, air, tan, normal, _, stall] ← bindParams [req "finSpanPosition",
        req "airVelRelativeToFin", req "unitSpanTangentialAirVelocity", req "finNormal",
        req "spanDirection", req "stallAngle"] args kwargs
      | Sim.fail Fault.typeMismatch
    let r ← Ops.real r
    let air ← Ops.vec air
    let tan ← Ops.vec tan
    let normal ← Ops.vec normal
    (.float ·) <$> Sim.lift (Aero.FinSlices.sliceAngleOfAttack r air tan normal (← Ops.real stall))
  | "getFinSliceForce_Supersonic" => some <| do
    let vs ← bindParams [req "K1", req "K2", req "K3", req "Kstar", req "sliceAOA",
        req "sliceArea"] args kwargs
    let xs ← vs.mapM Ops.real
    let [k1, k2, k3, ks, aoa, area] := xs | Sim.fail Fault.typeMismatch
    pure (.float (Aero.FinSlices.supersonicSliceForce k1 k2 k3 ks aoa area))
  | "getSubsonicFinNormalForce" => some <| do
    let [air, tan, normal, _, cp, cna, fin] ← bindParams [req "airVelRelativeToFin",
        req "unitSpanTangentialAirVelocity", req "finNormal", req "spanDirection",
        req "spanwiseCP", req "CnAlpha", req "fin"] args kwargs
      | Sim.fail Fault.typeMismatch
    let air ← Ops.vec air
    let tan ← Ops.vec tan
    let normal ← Ops.vec normal
    let cp ← Ops.real cp
    let cna ← Ops.real cna
    let g ← finGeometry fin false
    let (f, m) ← Sim.lift (Aero.FinSlices.subsonicNormalForce air tan normal cp cna g)
    pure (.tuple [.float f, .float m])
  | "getSupersonicFinNormalForce" => some <| do
    let [air, tan, normal, edges, _, cp, k1, k2, k3, ks, fin] ← bindParams
        [req "airVelRelativeToFin", req "unitSpanTangentialAirVelocity", req "finNormal",
        req "machConeEdgeZPos", req "spanDirection", req "spanwiseCP", req "K1", req "K2",
        req "K3", req "Kstar", req "fin"] args kwargs
      | Sim.fail Fault.typeMismatch
    let air ← Ops.vec air
    let tan ← Ops.vec tan
    let normal ← Ops.vec normal
    let cp ← Ops.real cp
    let ks ← [k1, k2, k3, ks].mapM Ops.real
    let [k1, k2, k3, kStar] := ks | Sim.fail Fault.typeMismatch
    let g ← finGeometry fin true
    let edges ← floatList edges
    let (f, m) ← Sim.lift
      (Aero.FinSlices.supersonicNormalForce air tan normal edges cp k1 k2 k3 kStar g)
    pure (.tuple [.float f, .float m])
  | _ => none

end Calls
end Console
end RocketSim
