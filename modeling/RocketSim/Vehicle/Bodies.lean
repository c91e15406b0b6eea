import RocketSim.Vehicle.Mounting
import RocketSim.Aero.NoseCone

/-!
# Body parts: nose cones, body tubes and transitions

The body of a rocket is a stack of axisymmetric parts along its axis, each from its top
(its position) down over its length.

* A **nose cone** is a tangent ogive or a cone of a base diameter and an aspect ratio
  (length over diameter).  Its volume, planform and wetted areas follow from the shape (the
  ogive's wetted area by a 2000-step midpoint-free numerical integration over its length);
  its centre of pressure is Barrowman's, measured from the origin of the rocket.  Its
  normal force is Barrowman's; its drag is skin friction plus pressure drag, a power law
  below Mach 1, a cubic through the transonic range up to Mach 1.3 and Hoerner's cone
  formula beyond.
* A **body tube** is a cylinder.  Its normal force coefficient is `1.1·sin²α` scaled by its
  planform area (Galejs); its drag is skin friction alone, and it damps pitch and yaw by the
  cross-flow drag of 25 segments rotating about the centre of gravity.
* A **transition** is a truncated cone between two diameters.  A shrinking one has base
  drag scaled by a factor of its aspect ratio; a growing one has pressure drag like a nose
  cone of its half angle.  A **boat tail** is a shrinking transition at the bottom of the
  rocket which also carries the base drag of the rocket's base once the engine is off.  A
  rocket without one gets a boat tail of zero length at its bottom, so that base drag is
  always counted.
-/

namespace RocketSim
namespace Vehicle

/-- A nose cone: its dimensions and shape, and what follows from them once. -/
structure NoseCone where
  aspectRatio : Float
  baseDiameter : Float
  length : Float
  shape : Value
  roughness : Float
  volume : Float
  planformArea : Float
  wettedArea : Float
  baseArea : Float
  cpLocation : Vec3
  halfAngle : Float
  subsonic : Float × Float
  transonic : List Float
  deriving Inhabited

namespace NoseCone

/-- The fault of an unknown shape. -/
def shapeFault (shape : Value) : Outcome Fault := do
  let text ← Show.str shape
  pure (Fault.raise .typeError ("The nosecone shape " ++ text ++ " is not recognized"))

/-! The volume and the centre of pressure are written over any numbers with the power and
arc sine functions: the simulator computes them in binary64, and over the reals they are
the nose cone's exact geometry. -/

section Geometry

variable {α : Type} [Scalar α] [Elementary α] [ArcSine α]

/-- The radius of curvature of a tangent ogive of a base radius and a length. -/
def ogiveRadius (r l : α) : Outcome α := do
  Real.div ((← Elementary.pow r 2.0) + (← Elementary.pow l 2.0)) (2.0 * r)

/-- The volume of a nose cone of a shape. -/
def volumeOf (shape : Value) (d ar length : α) : Outcome α := do
  match shape with
  | .str "tangentOgive" => do
    let r := d / 2.0
    let l := d * ar
    let rho ← ogiveRadius r l
    let s ← ArcSine.asin (← Real.div l rho)
    let rho2 ← Elementary.pow rho 2.0
    pure (Scalar.pi * (l * rho2 - (← Elementary.pow l 3.0) / 3.0 - (rho - r) * rho2 * s))
  | .str "cone" => pure (Scalar.pi * (← Elementary.pow d 2.0) * length / 3.0)
  | .str "halfSeries" => do
    let r := d / 2.0
    let l := d * ar
    pure (Scalar.pi * (← Elementary.pow r 2.0) * l / 2.0)
  | _ => throw (← shapeFault shape)

/-- The base area of a nose cone of a base diameter, and its centre of pressure (Barrowman's,
measured from its tip) for a volume. -/
def pressureCentre (d ar volume : α) : Outcome (α × Vec3 α) := do
  let baseArea := (← Elementary.pow d 2.0) * Scalar.pi / 4.0
  let cp ← Aero.barrowmanCP (d * ar) 0.0 baseArea volume ⟨0.0, 0.0, 0.0⟩
  pure (baseArea, cp)

end Geometry

/-- The planform (side view) area of a nose cone of a shape. -/
def planformOf (shape : Value) (d ar length : Float) : Sim Float := do
  match shape with
  | .str "tangentOgive" => do
    let r := d / 2.0
    let l := d * ar
    let rho ← Sim.lift (ogiveRadius r l)
    let angle ← Sim.lift (Real.asin (← divF l rho))
    let sector := angle * (← powF rho 2.0) / 2.0
    pure (2.0 * (sector - l * (rho - r) / 2.0))
  | .str "cone" => pure (d * length / 2.0)
  | _ => Sim.fail (← Sim.lift (shapeFault shape))

/-- The wetted area of a nose cone of a shape; the ogive's by summing 2001 bands of the
surface of revolution. -/
def wettedOf (shape : Value) (d ar length : Float) : Sim Float := do
  match shape with
  | .str "tangentOgive" => do
    let r := d / 2.0
    let l := d * ar
    let a ← Sim.lift (ogiveRadius r l)
    let step := l / 2000.0
    let a2 ← powF a 2.0
    (List.range 2001).foldlM (fun acc x => do
      let h ← powF (l - x.toFloat * step) 2.0
      let root ← Sim.lift (Real.sqrt (a2 - h))
      pure (acc + 2.0 * pi * (root + r - a) * step)) 0.0
  | .str "cone" => do
    let r := d / 2.0
    pure (pi * r * (← Sim.lift (Real.sqrt ((← powF r 2.0) + (← powF length 2.0)))))
  | _ => Sim.fail (← Sim.lift (shapeFault shape))

/-- A nose cone of a shape, aspect ratio and base diameter; the shape must be a tangent
ogive or a cone. -/
def make (shape : Value) (aspectRatio baseDiameter roughness : Float) : Sim NoseCone := do
  let length := baseDiameter * aspectRatio
  let volume ← Sim.lift (volumeOf shape baseDiameter aspectRatio length)
  let planformArea ← planformOf shape baseDiameter aspectRatio length
  let wettedArea ← wettedOf shape baseDiameter aspectRatio length
  let (baseArea, cpLocation) ← Sim.lift (pressureCentre baseDiameter aspectRatio volume)
  let halfAngle := Float.abs (Float.atan (← divF (baseDiameter / 2.0) length))
  let subsonic ← Sim.lift (Aero.NoseCone.subsonicPowerLaw halfAngle)
  let transonic ← Aero.NoseCone.transonicCubic halfAngle
  pure { aspectRatio, baseDiameter := baseDiameter, length := aspectRatio * baseDiameter,
         shape, roughness, volume, planformArea, wettedArea, baseArea, cpLocation, halfAngle,
         subsonic, transonic }

/-- The pressure drag coefficient of a cone-like shape of a half angle at a Mach number, from
its subsonic power law and transonic cubic, and whether it is a one-entry array (as the
transonic cubic's value is). -/
def coneDrag (halfAngle : Float) (subsonic : Float × Float) (transonic : List Float)
    (mach : Value) : Sim (Float × Bool) := do
  if ← Ops.lt mach (.int 1) then
    let p ← Ops.real (← Ops.pow mach (.float subsonic.2))
    pure (subsonic.1 * p, false)
  else if (← Ops.gt mach (.int 1)) && (← Ops.lt mach (.float 1.3)) then
    let m ← Ops.real mach
    match transonic with
    | [a, b, c, d] => pure (a + b * m + c * (← powF m 2.0) + d * (← powF m 3.0), true)
    | _ => Sim.fail Fault.badIndex
  else pure (← Aero.NoseCone.supersonicPressureDrag halfAngle mach, false)

/-- A drag coefficient times a ratio of areas: a number (failing on a zero divisor), or a
one-entry array (where a zero divisor gives an infinity). -/
def scaleDrag (cd : Float × Bool) (area refArea : Float) : Sim Value :=
  if cd.2 then pure (.array [.float (cd.1 * area / refArea)])
  else do pure (.float (← divF (cd.1 * area) refArea))

/-- The pressure drag coefficient of the nose cone at a Mach number, on the rocket's
reference area. -/
def pressureDrag (n : NoseCone) (mach : Value) (refArea : Float) : Sim Value := do
  scaleDrag (← coneDrag n.halfAngle n.subsonic n.transonic mach) n.baseArea refArea

/-- The number inside a one-entry array, or the number itself. -/
def plain (v : Value) : Value :=
  match v with
  | .array [x] => x
  | other => other

/-- The radius of the nose cone at a distance from its tip: none for a shape without a
profile. -/
def radiusAt (n : NoseCone) (d : Value) : Sim Value := do
  match n.shape with
  | .str "cone" =>
    Ops.mul (.float (n.baseDiameter / 2.0)) (← Ops.div d (.float n.length))
  | .str "tangentOgive" => do
    let r := n.baseDiameter / 2.0
    let curve ← divF ((← powF r 2.0) + (← powF n.length 2.0)) n.baseDiameter
    let h ← Ops.pow (← Ops.sub (.float n.length) d) (.int 2)
    let y ← Sim.lift (Real.sqrt (← Ops.real (← Ops.sub (.float (← powF curve 2.0)) h)))
    pure (.float (y - (curve - r)))
  | _ => pure .null

/-- The aerodynamic force on the nose cone. -/
def force (n : NoseCone) (air : Airframe) (state env : Value) : Sim Value := do
  let aref := air.refArea
  let mach ← Aero.machNumber [state, env] state env
  let aoa ← Ops.real (← Aero.totalAOA [state, env] state env)
  let cn ← Sim.lift (Aero.barrowmanCN aoa aref 0.0 n.baseArea)
  let machF ← Ops.real mach
  let (cf, roll) ← Aero.cylinderFriction state env (.float n.length) machF n.roughness
    n.wettedArea aref air.finenessRatio air.fullyTurbulent (.bool air.fullyTurbulent)
  let pressure ← n.pressureDrag mach aref
  let total ← Ops.add (plain pressure) (.float cf)
  Aero.forceFromDragAndNormal state env total (.float cn) (.vec n.cpLocation) (.float aref)
    (some (.vec roll))

end NoseCone

/-- A body tube: a cylinder of a length and an outer diameter. -/
structure BodyTube where
  length : Float
  outerDiameter : Float
  roughness : Float
  volume : Float
  planformArea : Float
  wettedArea : Float
  cpLocation : Vec3
  deriving Inhabited

namespace BodyTube

/-- A body tube at a position. -/
def make (position : Vec3) (length outerDiameter roughness : Float) : Sim BodyTube := do
  pure { length, outerDiameter, roughness,
         volume := pi * (← powF outerDiameter 2.0) / 4.0 * length,
         planformArea := outerDiameter * length,
         wettedArea := pi * outerDiameter * length,
         cpLocation := position.sub ⟨0.0, 0.0, length / 2.0⟩ }

/-- The pitch and yaw damping moment of a rotating body tube: the cross-flow drag of 25
segments, each moving with the rotation about the centre of rotation. -/
def dampingMoment (b : BodyTube) (position : Vec3) (state env : Value) (center : Vec3) :
    Sim Vec3 := do
  let dL := b.length / 25.0
  let dA := dL * b.outerDiameter
  let w ← Ops.vecAttr state "angularVelocity"
  let total := (List.range 25).foldl (fun acc i =>
    let centroid := position.add ⟨0.0, 0.0, -dL * i.toFloat - dL / 2.0⟩
    let psi := centroid.sub center
    let v := w.cross psi
    let sq : Vec3 := ⟨v.x * Float.abs v.x, v.y * Float.abs v.y, v.z * Float.abs v.z⟩
    acc.add (psi.cross sq).neg) Vec3.zero
  let density ← Ops.realAttr env "Density"
  pure (total.scale (1.1 / 2.0 * density * dA))

/-- The aerodynamic force on the body tube, with the centre of gravity as centre of
rotation for damping. -/
def force (b : BodyTube) (position : Vec3) (air : Airframe) (state env cg : Value) :
    Sim Value := do
  let aref := air.refArea
  let aoa ← Ops.real (← Aero.totalAOA [state, env] state env)
  let cn := 1.1 * (← powF (← Sim.lift (Real.sin aoa)) 2.0)
  let cn := cn * (← divF b.planformArea aref)
  let mach ← Ops.real (← Aero.machNumber [state, env] state env)
  let (cf, roll) ← Aero.cylinderFriction state env (.float b.length) mach b.roughness
    b.wettedArea aref air.finenessRatio air.fullyTurbulent (.bool air.fullyTurbulent)
  let damping ← b.dampingMoment position state env (← Ops.vec cg)
  let moment := damping.add roll
  Aero.forceFromDragAndNormal state env (.float cf) (.float cn) (.vec b.cpLocation)
    (.float aref) (some (.vec moment))

end BodyTube

/-- The cone of a growing transition: its half angle and its drag laws. -/
structure Flare where
  halfAngle : Float
  subsonic : Float × Float
  transonic : List Float
  deriving Inhabited

/-- A transition (or boat tail) between a start and an end diameter over a length. -/
structure Transition where
  startDiameter : Float
  endDiameter : Float
  length : Value
  roughness : Float
  topArea : Float
  bottomArea : Float
  frontalArea : Float
  wettedArea : Float
  volume : Float
  cpLocation : Value
  dragFactor : Value
  flare : Option Flare
  boatTail : Bool
  deriving Inhabited

namespace Transition

/-- A transition at a position (absent for a boat tail added below a stage without an open
bottom), with its areas, volume, centre of pressure and drag laws. -/
def make (boatTail : Bool) (position : Value) (startDiameter endDiameter : Float)
    (length : Value) (roughness : Float) : Sim Transition := do
  let topArea := (← powF startDiameter 2.0) * pi / 4.0
  let bottomArea := (← powF endDiameter 2.0) * pi / 4.0
  let frontalArea := Float.abs (topArea - bottomArea)
  let lengthF ← Ops.real length
  let (wettedArea, volume, cpLocation) ← if lengthF == 0.0 then
      pure (0.0, 0.0, position)
    else do
      let maxD := if endDiameter > startDiameter then endDiameter else startDiameter
      let minD := if endDiameter < startDiameter then endDiameter else startDiameter
      let slope := (maxD - minD) / lengthF
      let baseHeight ← divF maxD slope
      let baseHyp ← Sim.lift (Real.sqrt ((← powF (maxD / 2.0) 2.0) + (← powF baseHeight 2.0)))
      let full := pi * (maxD / 2.0) * baseHyp
      let tipHeight ← divF minD slope
      let tipHyp ← Sim.lift (Real.sqrt ((← powF (minD / 2.0) 2.0) + (← powF tipHeight 2.0)))
      let tip := pi * (minD / 2.0) * tipHyp
      let volume := topArea * baseHeight / 3.0 - bottomArea * tipHeight / 3.0
      let top ← Ops.vec position
      let cp ← Sim.lift (Aero.barrowmanCP lengthF topArea bottomArea volume top)
      pure (full - tip, volume, .vec cp)
  let aspect : Value ← if startDiameter == endDiameter then pure (.int 100)
    else pure (.float (← divF lengthF (Float.abs (startDiameter - endDiameter))))
  let (dragFactor, flare) ← if endDiameter ≤ startDiameter then do
      if ← Ops.lt aspect (.int 1) then pure (Value.int 1, none)
      else if ← Ops.lt aspect (.int 3) then
        pure (← Ops.div (← Ops.sub (.int 3) aspect) (.int 2), none)
      else pure (.int 0, none)
    else do
      let halfAngle ← if lengthF == 0.0 then pure (pi / 2.0)
        else pure (Float.atan (← divF (Float.abs (startDiameter - endDiameter) / 2.0) lengthF))
      let subsonic ← Sim.lift (Aero.NoseCone.subsonicPowerLaw halfAngle)
      let transonic ← Aero.NoseCone.transonicCubic halfAngle
      pure (.null, some { halfAngle, subsonic, transonic })
  pure { startDiameter, endDiameter, length, roughness, topArea, bottomArea, frontalArea,
         wettedArea, volume, cpLocation, dragFactor, flare, boatTail }

/-- The largest diameter of the transition. -/
def maxDiameter (t : Transition) : Float :=
  if t.endDiameter > t.startDiameter then t.endDiameter else t.startDiameter

/-- The radius of the transition at a distance from its top. -/
def radiusAt (t : Transition) (d : Value) : Sim Value := do
  let f ← Ops.div d t.length
  let r ← Ops.add (← Ops.mul f (.float (t.endDiameter - t.startDiameter))) (.float t.startDiameter)
  Ops.div r (.int 2)

/-- The skin friction drag coefficient and roll damping moment of the transition; none
without a wetted area. -/
def friction (t : Transition) (air : Airframe) (state env : Value) (mach : Float) :
    Sim (Value × Vec3) := do
  if t.wettedArea == 0.0 then return (.int 0, Vec3.zero)
  let (cf, roll) ← Aero.cylinderFriction state env t.length mach t.roughness t.wettedArea
    air.refArea air.finenessRatio air.fullyTurbulent (.bool air.fullyTurbulent)
  pure (.float cf, roll)

/-- The aerodynamic force on a transition (not a boat tail). -/
def transitionForce (t : Transition) (air : Airframe) (state env : Value) : Sim Value := do
  let machV ← Aero.machNumber [state, env] state env
  let mach ← Ops.real machV
  let aref := air.refArea
  let aoa ← Ops.real (← Aero.totalAOA [state, env] state env)
  let cn ← Sim.lift (Aero.barrowmanCN aoa aref t.topArea t.bottomArea)
  let pressure ← if t.startDiameter > t.endDiameter then do
      Ops.mul (.float (← Aero.baseDrag mach)) t.dragFactor
    else match t.flare with
      | some f => do
        pure (.float (← NoseCone.coneDrag f.halfAngle f.subsonic f.transonic machV).1)
      | none => Sim.fail Fault.noAttribute
  let pressure ← Ops.mul pressure (.float (← divF t.frontalArea aref))
  let (cf, roll) ← t.friction air state env mach
  let total ← Ops.add pressure cf
  Aero.forceFromDragAndNormal state env total (.float cn) t.cpLocation (.float aref)
    (some (.vec roll))

/-- The aerodynamic force on a boat tail: base drag scaled by its shape, plus the base drag
of the rocket's base when its stage has no engine or the engine is off. -/
def boatTailForce (t : Transition) (air : Airframe) (state time env : Value) : Sim Value := do
  let mach ← Ops.real (← Aero.machNumber [state, env] state env)
  let aref := air.refArea
  let aoa ← Ops.real (← Aero.totalAOA [state, env] state env)
  let cn ← Sim.lift (Aero.barrowmanCN aoa aref t.topArea t.bottomArea)
  let base ← Aero.baseDrag mach
  let factor ← match t.dragFactor with
    | .null => Sim.fail Fault.noAttribute
    | v => pure v
  let pressure ← Ops.mul (.float base) factor
  let pressure ← Ops.mul pressure (.float (← divF t.frontalArea aref))
  let engineOff ← match air.stageShutOff with
    | .null => pure true
    | shutOff => Ops.gt time shutOff
  let pressure ← if engineOff then
      Ops.add pressure (.float (← divF (base * t.bottomArea) aref))
    else pure pressure
  let (cf, roll) ← t.friction air state env mach
  let total ← Ops.add pressure cf
  Aero.forceFromDragAndNormal state env total (.float cn) t.cpLocation (.float aref)
    (some (.vec roll))

/-- The aerodynamic force on a transition or boat tail. -/
def force (t : Transition) (air : Airframe) (state time env : Value) : Sim Value :=
  if t.boatTail then t.boatTailForce air state time env else t.transitionForce air state env

end Transition

end Vehicle
end RocketSim
