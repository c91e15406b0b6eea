import RocketSim.Vehicle.Mounting
import RocketSim.Aero.FinSlices
import RocketSim.Tables.Interpolation
import RocketSim.Control.Actuator
import RocketSim.Tables.Scattered

/-!
# Fin sets

A fin set is a number of identical trapezoidal fins spread evenly around the body at one
station, each of a root chord, a tip chord, a span, a leading-edge sweep angle, a thickness
and a cant angle, with round or blunt leading edges and tapered, round or blunt trailing
edges.

Once the rocket is assembled, the set works out what its fins share: the sweep angles of the
trailing edge and mid-chord line, the planform and wetted areas, the aspect ratio of the
wing formed by two fins root to root and the stall angle that follows from it (Hoerner), the
body radius at its station and the interference factors between body and fins, the length
and position of the mean aerodynamic chord (integrated in steps of 0.1 mm), the spanwise
slices for strip theory, Barrowman's subsonic thickness drag constant, and the quintic in
the Mach number that places the centre of pressure between Mach 0.5 and 2.

Each fin then contributes a normal force from strip theory (subsonic linear theory up to
Mach 0.8, the third-order Busemann expansion from Mach 1.4, a cubic in between) and an axial
force from the set's drag coefficient: skin friction, leading- and trailing-edge drag and
thickness (or wave) drag.  The set's total normal forces and moments are scaled by the
interference factors.

A fin set with five to eight fins stops working out its shared properties at the fin-number
interference factor, whose table it looks up under a name it does not have; it then lacks
everything from the mean aerodynamic chord on, and fails to compute a force.
-/

namespace RocketSim
namespace Vehicle

/-- The shape of a leading edge: round of a radius, or blunt of a thickness. -/
inductive LeadingEdge where
  | round (radius : Float)
  | blunt (thickness : Float)
  deriving Inhabited

/-- The shape of a trailing edge. -/
inductive TrailingEdge where
  | tapered
  | round (radius : Float)
  | blunt (thickness : Float)
  deriving Inhabited

/-- One fin of a set: the unit vector along its span, the normal of its surface when not
deflected, the axial position of its tip's leading edge, the spanwise position of its centre
of pressure and its current deflection (degrees). -/
structure Fin where
  spanwise : Vec3
  undeflectedNormal : Vec3
  tipPosition : Float
  cpSpanwise : Vec3
  angle : Value
  deriving Inhabited

/-- What a fin set works out from its planform once the rocket is assembled. -/
structure FinPlanform where
  trailingEdgeSweep : Float
  midChordSweep : Float
  leadingSlope : Float
  trailingSlope : Float
  planformArea : Float
  wettedArea : Float
  aspectRatio : Float
  stallAngle : Float
  bodyRadius : Value
  bodyInterference : Float
  deriving Inhabited

/-- What a fin set works out for its aerodynamics once the rocket is assembled. -/
structure FinAero where
  countInterference : Float
  macLength : Float
  macY : Float
  macLeadingEdge : Float
  slices : Aero.FinSlices.FinGeometry
  thicknessK : Float
  cpPolynomial : List Float
  fins : List Fin

/-- The table that gives a fin set's actuator targets: the flight parameters keying it
(followed by the desired moments about the three axes), and the deflection of each actuator
at each key. -/
structure DeflectionTable where
  parameters : List Aero.Parameter
  table : ScatteredTable
  deriving Inhabited

/-- A fin set. -/
structure FinSet where
  numFins : Int
  firstFinAngle : Float
  cantAngle : Float
  sweepAngle : Float
  rootChord : Float
  tipChord : Float
  span : Float
  roughness : Float
  thickness : Float
  spanSteps : Int
  leadingEdgeShape : Value
  leadingEdge : LeadingEdge
  trailingEdgeShape : Value
  trailingEdge : TrailingEdge
  planform : Option FinPlanform := none
  aero : Option FinAero := none
  actuators : Option (List FirstOrderActuator) := none
  deflections : Option DeflectionTable := none

namespace FinSet

/-- A fin set read from its dictionary, with the rocket's default surface roughness. -/
def read (r : Reader) (defaultRoughness : Float) : Config FinSet := do
  let numFins ← r.getInt "numFins"
  let firstFinAngle ← r.getFloat "firstFinAngle"
  let cantAngle ← r.getFloat "finCantAngle"
  let sweepAngle := Number.radians (← r.getFloat "sweepAngle")
  let rootChord ← r.getFloat "rootChord"
  let tipChord ← r.getFloat "tipChord"
  let span ← r.getFloat "span"
  let roughness := (← r.tryGetFloat "surfaceRoughness").getD defaultRoughness
  let thickness ← r.getFloat "thickness"
  let spanSteps ← r.getInt "numFinSpanSlicesForIntegration"
  let leadingEdgeShape ← r.getString "LeadingEdge.shape"
  let leadingEdge ← match leadingEdgeShape with
    | .str "Round" => do
      pure (.round ((← r.tryGetFloat "LeadingEdge.radius").getD (thickness / 100.0)))
    | .str "Blunt" => do
      pure (.blunt ((← r.tryGetFloat "LeadingEdge.thickness").getD thickness))
    | other => do
      let text ← Config.sim (Sim.lift (Show.str other))
      Config.fail (Fault.raise .valueError ("ERROR: Leading edge shape: " ++ text ++
        " not implemented. Use 'Round' or 'Blunt'"))
  let trailingEdgeShape ← r.getString "TrailingEdge.shape"
  let trailingEdge ← match trailingEdgeShape with
    | .str "Round" => do pure (.round (← r.getFloat "TrailingEdge.radius"))
    | .str "Blunt" => do pure (.blunt (← r.getFloat "TrailingEdge.thickness"))
    | .str "Tapered" => pure .tapered
    | other => do
      let text ← Config.sim (Sim.lift (Show.str other))
      Config.fail (Fault.raise .valueError ("ERROR: Trailing edge shape: " ++ text ++
        " not implemented. Use 'Round', 'Blunt', or 'Tapered'"))
  pure { numFins, firstFinAngle, cantAngle, sweepAngle, rootChord, tipChord, span, roughness,
         thickness, spanSteps, leadingEdgeShape, leadingEdge, trailingEdgeShape, trailingEdge }

/-- The chord at a spanwise distance from the root. -/
def chord (f : FinSet) (y : Float) : Float :=
  Aero.FinSlices.chordAt f.rootChord f.tipChord f.span y

/-- The planform properties, with the body radius at the fin station (asked for once the
planform's own properties are known). -/
def planformOf (f : FinSet) (radiusAtStation : Sim Value) : Sim FinPlanform := do
  let leadingTip := f.span * (← Sim.lift (Real.tan f.sweepAngle))
  let trailingTip := f.tipChord + leadingTip - f.rootChord
  let trailingEdgeSweep :=
    if trailingTip == 0.0 then 0.0
    else if trailingTip < 0.0 then -1.0 * Float.atan2 (Float.abs trailingTip) f.span
    else Float.atan2 (Float.abs trailingTip) f.span
  let midChordSweep := (f.sweepAngle + trailingEdgeSweep) / 2.0
  let leadingSlope ← Sim.lift (Real.tan f.sweepAngle)
  let trailingSlope ← Sim.lift (Real.tan trailingEdgeSweep)
  let planformArea := Aero.FinSlices.planformArea f.span f.rootChord f.tipChord
  let wettedArea := 2.0 * planformArea
  let aspectRatio ← divF (← powF (2.0 * f.span) 2.0) planformArea
  let stallAngle := 15.0 * (1.0 + (← divF 1.1 aspectRatio))
  let bodyRadius ← radiusAtStation
  let ratio ← Ops.div bodyRadius (← Ops.add (.float f.span) bodyRadius)
  let bodyInterference ← Ops.real (← Ops.add (.int 1) ratio)
  pure { trailingEdgeSweep, midChordSweep, leadingSlope, trailingSlope, planformArea,
         wettedArea, aspectRatio, stallAngle, bodyRadius, bodyInterference }

/-- The length, spanwise position and leading-edge position of the mean aerodynamic chord,
by midpoint sums over steps of about 0.1 mm. -/
def meanChord (f : FinSet) (p : FinPlanform) : Sim (Float × Float × Float) := do
  let steps := Number.roundHalfEven (f.span / 0.0001)
  let step ← divF f.span steps
  let n := if steps > 0.0 then steps.toUInt64.toNat else 0
  let (m, my, mx) := (List.range n).foldl (fun (m, my, mx) i =>
    let y := i.toFloat * step + step / 2.0
    let c := f.chord y
    (m + c * c * step, my + y * (c * step), mx + p.leadingSlope * y * c * step)) (0.0, 0.0, 0.0)
  pure (← divF m p.planformArea, ← divF my p.planformArea, ← divF mx p.planformArea)

/-- The spanwise slices for strip theory: their areas, radii from the axis, leading-edge
positions and chords. -/
def slicesOf (f : FinSet) (p : FinPlanform) : Sim Aero.FinSlices.FinGeometry := do
  let step ← Sim.lift (Aero.FinSlices.sliceWidth f.span f.spanSteps)
  let r ← Ops.real p.bodyRadius
  pure (Aero.FinSlices.sliceTables f.rootChord f.tipChord f.span r p.leadingSlope p.stallAngle
    step f.spanSteps.toNat)

/-- Barrowman's subsonic thickness drag constant, from the skin friction coefficient of the
mean aerodynamic chord at Mach 1. -/
def thicknessConstant (f : FinSet) (p : FinPlanform) (sonicFriction : Float) : Sim Float := do
  let tc := f.thickness / f.rootChord
  let sigma := p.aspectRatio / 2.0 * (← powF tc (1.0 / 3.0))
  let root ← Sim.lift (Real.sqrt ((← powF (sigma - 1.43) 2.0) + 0.578))
  let star := 1.15 * (← powF tc (5.0 / 3.0)) * (1.61 + sigma - root)
  let c ← Sim.lift (Real.cos p.midChordSweep)
  let num := (← divF star sonicFriction) - 4.0 * c * tc
  let den := 120.0 * (← powF c 2.0) * (← powF tc 4.0)
  let q ← powF (← divF num den) 2.0
  pure ((← powF c 2.0) + (← powF q (1.0 / 3.0)))

/-- The coefficients of the quintic in the Mach number giving the centre of pressure as a
fraction of the mean aerodynamic chord: it takes the value 1/4 with zero slope at Mach 0.5,
meets the supersonic value and slope at Mach 2, and has zero second and third derivatives
there. -/
def cpPolynomialOf (aspectRatio : Float) : Sim (List Float) := do
  let s3 ← powF 3.0 0.5
  let r3 ← powF 3.0 (-0.5)
  let ar := aspectRatio
  let f2 ← divF (ar * s3 - 0.67) (2.0 * s3 * ar - 1.0)
  let t1 := 2.0 * r3 * ar * (2.0 * ar * s3 - 1.0)
  let t2 := (s3 * ar - 0.67) * (ar * 4.0 * r3)
  let den ← powF (2.0 * ar * s3 - 1.0) 2.0
  let f2' ← divF (t1 - t2) den
  let a : Interpolation.Matrix := #[
    #[0.03125, 0.0625, 0.125, 0.25, 0.5, 1.0],
    #[0.3125, 0.5, 0.75, 1.0, 1.0, 0.0],
    #[32.0, 16.0, 8.0, 4.0, 2.0, 1.0],
    #[80.0, 32.0, 12.0, 4.0, 1.0, 0.0],
    #[160.0, 48.0, 12.0, 2.0, 0.0, 0.0],
    #[240.0, 48.0, 6.0, 0.0, 0.0, 0.0]]
  match Interpolation.solve a [0.25, 0.0, f2, f2', 0.0, 0.0] with
  | some x => pure x
  | none => Sim.fail Interpolation.singularFault

/-- The fins of the set, evenly spread from the first fin's angle. -/
def finsOf (f : FinSet) (p : FinPlanform) (macY : Float) : Sim (List Fin) := do
  let separation ← divF 360.0 (Float.ofInt f.numFins)
  let r ← Ops.real p.bodyRadius
  pure <| (List.range f.numFins.toNat).map fun i =>
    let a := Number.radians (f.firstFinAngle + i.toFloat * separation)
    let dir : Vec3 := ⟨Float.cos a, Float.sin a, 0.0⟩
    { spanwise := dir, undeflectedNormal := ⟨dir.y, -dir.x, 0.0⟩,
      tipPosition := p.leadingSlope * f.span, cpSpanwise := dir.scale (macY + r),
      angle := .float f.cantAngle }

/-- The chordwise position of the centre of pressure behind the root's leading edge at a
Mach number: a quarter of the mean chord behind its leading edge below Mach 0.5, the
supersonic estimate from Mach 2, the quintic in between. -/
def cpPosition (f : FinSet) (p : FinPlanform) (a : FinAero) (mach : Value) : Sim Float := do
  if ← Ops.lt mach (.float 0.5) then
    pure (a.macLeadingEdge + 0.25 * a.macLength)
  else if ← Ops.le (.float 2.0) mach then
    let b ← Ops.real (← Aero.beta mach)
    let fraction ← divF (p.aspectRatio * b - 0.67) (2.0 * p.aspectRatio * b - 1.0)
    pure (a.macLength * fraction + a.macLeadingEdge)
  else
    let m ← Ops.real mach
    let n := a.cpPolynomial.length
    let poly ← a.cpPolynomial.zipIdx.foldlM (fun acc (c, i) => do
      pure (acc + c * (← powF m (Float.ofNat (n - 1 - i))))) 0.0
    pure (poly * a.macLength + a.macLeadingEdge)

/-- Barrowman's subsonic normal force slope of a fin. -/
def cnAlpha (span planformArea beta midChordSweep : Float) : Sim Float := do
  let ar ← divF (2.0 * (← powF span 2.0)) planformArea
  let num := 2.0 * pi * ar
  let c ← Sim.lift (Real.cos midChordSweep)
  let den := 2.0 + (← Sim.lift (Real.sqrt (4.0 + (← powF (← divF (beta * ar) c) 2.0))))
  divF num den

/-- The coefficients of the third-order Busemann expansion at a Mach number. -/
def busemann (mach beta gamma : Float) : Sim (Float × Float × Float × Float) := do
  let k1 ← divF 2.0 beta
  let m2 ← powF mach 2.0
  let m4 ← powF mach 4.0
  let m6 ← powF mach 6.0
  let m8 ← powF mach 8.0
  let k2 ← divF ((gamma + 1.0) * m4 - 4.0 * (← powF beta 2.0)) (4.0 * (← powF beta 4.0))
  let g2 ← powF gamma 2.0
  let k3 ← divF ((gamma + 1.0) * m8 + (2.0 * g2 - 7.0 * gamma - 5.0) * m6 +
    10.0 * (gamma + 1.0) * m4 - 12.0 * m2 + 8.0) (6.0 * (← powF beta 7.0))
  pure (k1, k2, k3, 0.0)

/-- The drag coefficient the fins share, and the air velocity relative to the set (with
the velocity of its station due to pitch and yaw), at a state. -/
def sharedDrag (f : FinSet) (p : FinPlanform) (a : FinAero) (position : Vec3) (air : Airframe)
    (state env cg : Value) : Sim (Float × Vec3) := do
  let aref := air.refArea
  let machV ← Aero.machNumber [state, env] state env
  let mach ← Ops.real machV
  let _ ← Aero.dynamicPressure state env
  let turbulent : Value := .bool air.fullyTurbulent
  let cf ← Aero.skinFriction [state, env, .float a.macLength, machV, .float f.roughness, turbulent]
    state env (.float a.macLength) mach f.roughness air.fullyTurbulent
  let friction := cf * (← divF p.wettedArea aref)
  let friction := friction * (1.0 + (← divF (2.0 * f.thickness) a.macLength))
  let (leading, leThickness) ← match f.leadingEdge with
    | .round r => do pure (← Aero.cylinderCrossFlowDrag mach, r * 2.0)
    | .blunt t => do pure (← Aero.bluntBodyDrag mach, t)
  let cs ← Sim.lift (Real.cos f.sweepAngle)
  let leading := leading * (← divF (leThickness * f.span * (← powF cs 2.0)) aref)
  let base ← Aero.baseDrag mach
  let teThickness := match f.trailingEdge with
    | .tapered => 0.0
    | .round r => r
    | .blunt t => t
  let trailing ← divF (base * f.span * teThickness) aref
  let tc := f.thickness / f.rootChord
  let thicknessDrag ← if mach ≤ 1.0 then do
      let cm ← Sim.lift (Real.cos p.midChordSweep)
      let cm2 ← powF cm 2.0
      let base := a.thicknessK - (← powF mach 2.0) * cm2
      if base < 0.0 then Sim.fail Fault.typeMismatch
      let term ← divF (30.0 * (← powF tc 4.0) * cm2) (← powF base (3.0 / 2.0))
      pure (4.0 * cf * (tc * cm + term))
    else do
      pure (2.3 * p.aspectRatio * (← powF (f.thickness / a.macLength) 2.0))
  let thicknessDrag := thicknessDrag * (← divF p.planformArea aref)
  let total := leading + trailing + thicknessDrag + friction
  let airVel ← Aero.localFrameAirVel state env
  let w ← Ops.vecAttr state "angularVelocity"
  let stationVelocity := w.cross (position.sub (← Ops.vec cg))
  pure (total, airVel.sub stationVelocity)

/-- The normal force and moment coefficients of one fin under subsonic linear theory. -/
def subsonicForce (p : FinPlanform) (a : FinAero) (fin : Fin) (airVel tangential normal : Vec3)
    (mach : Float) (span : Float) : Sim (Float × Float) := do
  let b ← Ops.real (← Aero.beta (.float mach))
  let slope ← cnAlpha span p.planformArea b p.midChordSweep
  Sim.lift (Aero.FinSlices.subsonicNormalForce airVel tangential normal fin.cpSpanwise.length
    slope a.slices)

/-- The normal force and moment coefficients of one fin under the Busemann expansion, with
the part of each slice inside the Mach cone from the fin tip at half strength. -/
def supersonicForce (a : FinAero) (fin : Fin) (airVel tangential normal : Vec3)
    (mach : Float) : Sim (Float × Float) := do
  let b ← Ops.real (← Aero.beta (.float mach))
  let (k1, k2, k3, kStar) ← busemann mach b 1.4
  let machAngle ← Sim.lift (Real.asin (← divF 1.0 mach))
  let perRadius ← divF 1.0 (← Sim.lift (Real.tan machAngle))
  let outer := a.slices.radii.getLastD 0.0
  let edges := a.slices.radii.map fun r => (outer - r) * perRadius + fin.tipPosition
  Sim.lift (Aero.FinSlices.supersonicNormalForce airVel tangential normal edges
    fin.cpSpanwise.length k1 k2 k3 kStar a.slices)

/-- The force on one fin, given the drag coefficient and relative air velocity the set
works out, and the chordwise position of the centre of pressure. -/
def finForce (f : FinSet) (p : FinPlanform) (a : FinAero) (fin : Fin) (position : Vec3)
    (air : Airframe) (state env : Value) (drag : Float) (airVel : Vec3) (cpX : Float) :
    Sim Value := do
  let machV ← Aero.machNumber [state, env] state env
  let mach ← Ops.real machV
  let q ← Ops.real (← Aero.dynamicPressure state env)
  let angle ← Ops.real fin.angle
  let rotation ← Sim.lift (Construct.quaternion (.vec fin.spanwise)
    (.float (Number.radians angle)) .null .null)
  let (normal, _) ← Sim.lift ((← Ops.quat rotation).rotate fin.undeflectedNormal)
  let w ← Ops.vecAttr state "angularVelocity"
  let roll : Vec3 := ⟨0.0, 0.0, w.z⟩
  let tangential := (roll.cross fin.spanwise).scale (-1.0)
  let (nf, moment) ← if mach ≤ 0.8 then
      subsonicForce p a fin airVel tangential normal mach f.span
    else if mach < 1.4 then do
      let (f1, m1) ← subsonicForce p a fin airVel tangential normal 0.8 f.span
      let (f12, m12) ← subsonicForce p a fin airVel tangential normal (0.8 + 0.001) f.span
      let (f2, m2) ← supersonicForce a fin airVel tangential normal 1.4
      let (f22, m22) ← supersonicForce a fin airVel tangential normal (1.4 + 0.001)
      let nf ← Sim.lift (Interpolation.cubic mach 0.8 1.4 f1 f2 f12 f22 0.001)
      let m ← Sim.lift (Interpolation.cubic mach 0.8 1.4 m1 m2 m12 m22 0.001)
      pure (nf, m)
    else supersonicForce a fin airVel tangential normal mach
  let normalForce := normal.scaleLeft (nf * q)
  let moment := moment * q
  let middle := Number.roundHalfEven (Float.ofNat a.slices.areas.length / 2.0)
  let r ← match a.slices.radii[middle.toUInt64.toNat]? with
    | some r => pure r
    | none => Sim.fail Fault.badIndex
  let aoa ← Sim.lift (Aero.FinSlices.sliceAngleOfAttack r airVel tangential normal
    p.stallAngle)
  let axialCoefficient := (← Aero.dragToAxialFactor (.float aoa)) * drag
  let axialMagnitude := axialCoefficient * air.refArea * q
  let axial := (fin.spanwise.cross normal).scale axialMagnitude
  let cp := fin.cpSpanwise.add (position.sub ⟨0.0, 0.0, cpX⟩)
  pure (Construct.forceMoment (.vec (normalForce.add axial)) (some (.vec cp))
    (some (.vec ⟨0.0, 0.0, moment⟩)))

/-- The total force on the fin set, its normal forces and moments scaled by the
interference factors; a set that could not work out its properties has none. -/
def force (f : FinSet) (position : Vec3) (air : Airframe) (state time env cg : Value) :
    Sim (Value × FinSet) := do
  let some p := f.planform | Sim.fail Fault.noAttribute
  let some a := f.aero | Sim.fail Fault.noAttribute
  let fins ← match f.actuators with
    | some acts => (a.fins.zip acts).mapM fun (fin, act) => do
        pure { fin with angle := ← act.deflection time }
    | none => pure a.fins
  let a := { a with fins }
  let f := { f with aero := some a }
  let (drag, airVel) ← f.sharedDrag p a position air state env cg
  let cpX ← f.cpPosition p a (← Aero.machNumber [state, env] state env)
  let total ← fins.foldlM (fun acc fin => do
      Ops.add acc (← f.finForce p a fin position air state env drag airVel cpX))
    (Construct.forceMoment (.vec Vec3.zero) (some (.vec position)) none)
  let factor := p.bodyInterference * a.countInterference
  match total with
  | .forceMoment force location moment => do
    let fv ← Ops.vec force
    let mv ← Ops.vec moment
    pure (.forceMoment (.vec ⟨fv.x * factor, fv.y * factor, fv.z⟩) location
      (.vec ⟨mv.x * factor, mv.y * factor, mv.z⟩), f)
  | _ => Sim.fail Fault.typeMismatch

end FinSet

end Vehicle
end RocketSim
