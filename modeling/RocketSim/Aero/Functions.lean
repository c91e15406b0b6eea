import RocketSim.Aero.Parameters
import RocketSim.Motion.Construct

/-!
# Aerodynamic coefficient functions

Semi-empirical correlations shared by the rocket's component models: the skin friction
coefficient with its compressibility correction (Barrowman, Niskanen), the roll damping
that skin friction produces on a spinning body, base and cross-flow drag, the conversion
of drag to axial force at an angle of attack, Barrowman's centre of pressure and normal
force of an axisymmetric body, and the assembly of a force-moment system from
coefficients.  Several are memoized like the aerodynamic parameters they build on.
-/

namespace RocketSim
namespace Aero

/-- The ratio of specific heats of air. -/
def gamma : Float := 1.4

/-- The specific gas constant of air, in kJ/(kg·K). -/
def gasConstant : Float := 0.287

/-- Compressibility correction of the skin friction coefficient below Mach 0.9. -/
def subsonicFrictionFactor (mach : Float) (smooth : Bool) : Outcome Float := do
  let m2 ← Real.pow mach 2.0
  pure (if smooth then 1.0 - 0.10 * m2 else 1.0 - 0.12 * m2)

/-- Compressibility correction of the skin friction coefficient above Mach 1.1; a rough
surface takes the larger of the smooth and rough turbulent factors. -/
def supersonicFrictionFactor (mach : Float) (smooth : Bool) : Outcome Float := do
  let m2 ← Real.pow mach 2.0
  let smoothFactor ← Real.div 1.0 (← Real.pow (1.0 + 0.15 * m2) 0.58)
  if smooth then pure smoothFactor
  else
    let roughFactor ← Real.div 1.0 (1.0 + 0.18 * m2)
    pure (if roughFactor > smoothFactor then roughFactor else smoothFactor)

/-- The turbulent flat-plate correlation `1 / (1.5 ln Re - 5.6)²`. -/
def turbulentFriction (re : Float) : Outcome Float := do
  let l ← Real.log re
  Real.div 1.0 (← Real.pow (1.5 * l - 5.6) 2.0)

/-- The skin friction coefficient of a surface, normalized by its wetted area: a
roughness-limited value above the critical Reynolds number, otherwise a turbulent (or
laminar and transitional) correlation, corrected for compressibility and blended linearly
between Mach 0.9 and 1.1.  `args` are the arguments as passed, the memo's key. -/
def skinFriction (args : List Value) (state env : Value) (length : Value) (mach roughness : Float)
    (fullyTurbulent : Bool) : Sim Float := do
  let r ← Sim.memoized "getSkinFrictionCoefficient" args do
    let re ← Ops.real (← reynoldsNumber [state, env, length] state env length)
    let len ← Ops.real length
    let smooth := roughness == 0.0
    let critical ← if smooth then pure 1e100 else do
      let ratio ← Sim.lift (Real.div roughness len)
      pure (51.0 * (← Sim.lift (Real.pow ratio (-1.039))))
    let cf ← Sim.lift <| show Outcome Float from do
      if re > critical then
        let ratio ← Real.div roughness len
        pure (0.032 * (← Real.pow ratio 0.2))
      else if fullyTurbulent then
        if re < 1e4 then pure 0.0148 else turbulentFriction re
      else if re < 1e4 then pure 0.01328
      else if re < 5e5 then Real.div 1.328 (← Real.sqrt re)
      else do
        let t ← turbulentFriction re
        pure (t - (← Real.div 1700.0 re))
    let factor ← Sim.lift <| show Outcome Float from do
      if mach < 0.9 then subsonicFrictionFactor mach smooth
      else if mach < 1.1 then
        let sub ← subsonicFrictionFactor mach smooth
        let sup ← supersonicFrictionFactor mach smooth
        pure (sub + (sup - sub) * (mach - 0.9) / 0.2)
      else supersonicFrictionFactor mach smooth
    pure (.float (cf * factor))
  Ops.real r

/-- The skin friction drag coefficient of a cylindrical body, rebased to the reference
area, and the roll damping moment the same friction exerts on the spinning surface. -/
def cylinderFriction (state env : Value) (length : Value) (mach roughness wettedArea aref : Float)
    (fineness : Value) (fullyTurbulent : Bool) (fullyTurbulentArg : Value) :
    Sim (Float × Vec3) := do
  let args := [state, env, length, .float mach, .float roughness, fullyTurbulentArg]
  let cf ← skinFriction args state env length mach roughness fullyTurbulent
  let len ← Ops.real length
  let cf := cf * (1.0 + (← Ops.real (← Ops.div (.float 0.5) fineness)))
  let cf := cf * (← Sim.lift (Real.div wettedArea aref))
  let avgRadius := (← Sim.lift (Real.div wettedArea len)) / (2.0 * 3.141592653589793)
  let spin := (← Ops.vecAttr state "angularVelocity").z
  let rolling := avgRadius * spin
  let airSpeed := (← localFrameAirVel state env).length
  let total := (← Sim.lift (Real.pow airSpeed 2.0)) + (← Sim.lift (Real.pow rolling 2.0))
  if total == 0.0 then return (cf, Vec3.zero)
  let density ← Ops.realAttr env "Density"
  let surfaceForce := cf * 0.5 * total * density * aref
  let damping := surfaceForce * (← Sim.lift (Real.div rolling (Float.sqrt total)))
  pure (cf, ⟨0.0, 0.0, -damping * avgRadius⟩)

/-- The base drag coefficient of a blunt base. -/
def baseDrag (mach : Float) : Sim Float := do
  Ops.real (← Sim.memoized "getBaseDragCoefficient" [.float mach] do
    if mach < 1.0 then pure (.float (0.12 + 0.13 * mach * mach))
    else pure (.float (← Sim.lift (Real.div 0.25 mach))))

/-- The cross-flow drag coefficient of a cylinder without base drag. -/
def cylinderCrossFlowDrag (mach : Float) : Sim Float := do
  Ops.real (← Sim.memoized "getCylinderCrossFlowCd_ZeroBaseDrag" [.float mach] do
    Sim.lift <| show Outcome Value from do
      if mach < 0.9 then pure (.float ((← Real.pow (1.0 - mach * mach) (-0.417)) - 1.0))
      else if mach ≤ 1.0 then pure (.float (1.0 - 1.5 * (mach - 0.9)))
      else
        let a ← Real.div 0.502 (← Real.pow mach 2.0)
        let b ← Real.div 0.1095 (← Real.pow mach 4.0)
        let c ← Real.div 0.0231 (← Real.pow mach 6.0)
        pure (.float (1.214 - a + b + c)))

/-- The drag coefficient of a blunt body without base drag, from the stagnation pressure
ratio. -/
def bluntBodyDrag (mach : Float) : Sim Float := do
  Ops.real (← Sim.memoized "getBluntBodyCd_ZeroBaseDrag" [.float mach] do
    Sim.lift <| show Outcome Value from do
      let ratio ← if mach < 1.0 then do
          let m2 ← Real.pow mach 2.0
          let m4 ← Real.pow mach 4.0
          pure (1.0 + m2 / 4.0 + m4 / 40.0)
        else do
          let a ← Real.div 0.76 (← Real.pow mach 2.0)
          let b ← Real.div 0.166 (← Real.pow mach 4.0)
          let c ← Real.div 0.035 (← Real.pow mach 6.0)
          pure (1.84 - a + b + c)
      pure (.float (0.85 * ratio)))

/-- The factor turning a drag coefficient into an axial force coefficient at an angle of
attack (radians; its magnitude is used), a cubic fit in degrees. -/
def dragToAxialFactor (aoa : Value) : Sim Float := do
  Ops.real (← Sim.memoized "getDragToAxialForceFactor" [aoa] do
    let a ← Ops.real aoa
    let d := Number.degrees (Float.abs a)
    Sim.lift <| show Outcome Value from do
      let d3 ← Real.pow d 3.0
      let d2 ← Real.pow d 2.0
      if d ≤ 17.0 then pure (.float (-0.000122124 * d3 + 0.003114164 * d2 + 1.0))
      else pure (.float (0.000006684 * d3 - 0.0010727204 * d2 + 0.030677323 * d + 1.055660807)))

/-- A force-moment system from a drag and a normal force coefficient: the axial force
along the rocket's axis from the drag coefficient at the total angle of attack, the normal
force along the normal-force direction, both scaled by the reference area and the dynamic
pressure. -/
def forceFromDragAndNormal (state env : Value) (cd cn : Value) (cpLocation : Value) (refArea : Value)
    (moment : Option Value) : Sim Value := do
  let aoa ← totalAOA [state, env] state env
  let q ← dynamicPressure state env
  let ca ← Ops.mul (.float (← dragToAxialFactor aoa)) cd
  let axial ← Sim.lift (Construct.vector [.int 0, .int 0, ← Ops.neg ca])
  let normal ← Ops.mul (.vec (← normalForceDirection state env)) cn
  let total ← Ops.mul (← Ops.mul (← Ops.add axial normal) refArea) q
  pure (Construct.forceMoment total (some cpLocation) moment)

/-- A force-moment system from drag, lift and moment coefficients: drag along the air
velocity, lift perpendicular to it in the plane of the normal-force direction, moments
about the rocket's axes, all redimensionalized by the dynamic pressure; nothing at all
without dynamic pressure. -/
def forceFromCoefficients (state env : Value) (cd cl cmx cmy cmz : Value) (cpLocation : Value)
    (refArea refLength : Value) : Sim Value := do
  let q ← dynamicPressure state env
  if ← Ops.eq q (.float 0.0) then
    return Construct.forceMoment (.vec Vec3.zero) none none
  let scale ← Ops.mul q refArea
  let air ← localFrameAirVel state env
  let drag ← Ops.mul (.vec air.normalize) cd
  let normalDir ← normalForceDirection state env
  let axis := air.cross normalDir
  let angle := 3.141592653589793 / 2.0 - (← Sim.lift (air.angle normalDir))
  let rotator ← Sim.lift (Construct.quaternion (.vec axis) (.float angle) .null .null)
  let (liftDir, _) ← Sim.lift ((← Ops.quat rotator).rotate normalDir)
  let lift ← Ops.mul (.vec liftDir) cl
  let total ← Ops.mul (← Ops.add drag lift) scale
  let moments ← Ops.mul (← Ops.mul (← Sim.lift (Construct.vector [cmx, cmy, cmz])) scale) refLength
  pure (Construct.forceMoment total (some cpLocation) (some moments))

/-- The height of the centre of pressure of a force-moment system: the force's location,
moved along the rocket's axis by the moment about the axis perpendicular to the normal
force, divided by that force. -/
def centerOfPressureZ (forces : Value) : Sim Value := do
  let f ← Ops.vecAttr forces "force"
  let normal : Vec3 := ⟨f.x, f.y, 0.0⟩
  let magnitude := normal.length
  let location ← Ops.attr forces "location"
  if magnitude == 0.0 then return ← Ops.attr location "Z"
  let axis := normal.normalize.cross ⟨0.0, 0.0, 1.0⟩
  let component ← Ops.mul (← Ops.attr forces "moment") (.vec axis)
  Ops.sub (← Ops.attr location "Z") (← Ops.div component (.float magnitude))

/-- Barrowman's centre of pressure of an axisymmetric body section below `top`: half way
down a cylinder, otherwise at the depth fixed by the section's volume and end areas. -/
def barrowmanCP {α : Type} [Scalar α] (length areaTop areaBottom volume : α) (top : Vec3 α) :
    Outcome (Vec3 α) := do
  let depth ← if areaTop == areaBottom then pure (length / 2.0)
    else Real.div (length * areaBottom - volume) (areaBottom - areaTop)
  pure ⟨top.x, top.y, top.z - depth⟩

/-- Barrowman's normal force coefficient of an axisymmetric body section. -/
def barrowmanCN (aoa aref areaTop areaBottom : Float) : Outcome Float :=
  Real.div (2.0 * Float.sin aoa * (areaBottom - areaTop)) aref

end Aero
end RocketSim
