import RocketSim.Vehicle.Bodies
import RocketSim.Vehicle.Fins
import RocketSim.Vehicle.Motor
import RocketSim.Vehicle.Loads

/-!
# Rocket components

A component is one part of a stage, read from the dictionary of the simulation definition
named after it, whose `class` entry says what kind of part it is.  Every component has a
name, mass properties (fixed, or varying with time or with the flight state) and a force
(zero for parts that only carry mass).  Body parts also have a length, a largest diameter
and a radius along their length; parts of fixed mass, motors and some load parts have a
position.

Components are known by a number unique within a simulation, so that the memory of the last
mass properties and forces computed for a stage or rocket (`Sim.memoized`) can tell them
apart, as it would tell objects apart.
-/

namespace RocketSim
namespace Vehicle

/-- The kinds of rocket parts, with what each one needs. -/
inductive Part where
  | mass
  | noseCone (n : NoseCone)
  | bodyTube (b : BodyTube)
  | transition (t : Transition)
  | finSet (f : FinSet)
  | motor (m : Motor)
  | recovery (r : Recovery)
  | fixedForce (force : Value)
  | aeroForce (a : AeroCoefficients)
  | damping (d : Damping)
  | aeroTable (t : AeroTable)
  | inertiaTable (t : InertiaTable)
  | jetDamping (fraction : Float)
  | tank

/-- A component of a stage: its number, its name and dictionary (none for parts the rocket
adds itself), its position when it has one, its fixed mass properties (zero for parts whose
mass properties vary) and its kind. -/
structure Component where
  uid : Nat
  name : String
  path : Option String
  position : Option Value
  inertia : Value
  part : Part

namespace Part

/-- The name of the kind of part, as the simulator names it. -/
def className : Part → String
  | .mass => "FixedMass"
  | .noseCone _ => "NoseCone"
  | .bodyTube _ => "BodyTube"
  | .transition t => if t.boatTail then "BoatTail" else "Transition"
  | .finSet _ => "FinSet"
  | .motor _ => "TabulatedMotor"
  | .recovery _ => "RecoverySystem"
  | .fixedForce _ => "FixedForce"
  | .aeroForce _ => "AeroForce"
  | .damping _ => "AeroDamping"
  | .aeroTable _ => "TabulatedAeroForce"
  | .inertiaTable _ => "TabulatedInertia"
  | .jetDamping _ => "FractionalJetDamping"
  | .tank => "SampleStatefulComponent"

/-- Whether the part has a fixed mass (its mass properties are summed once). -/
def isFixedMass : Part → Bool
  | .mass | .noseCone _ | .bodyTube _ | .transition _ | .finSet _ | .recovery _ => true
  | _ => false

/-- Whether the part is an axisymmetric body part. -/
def isBody : Part → Bool
  | .noseCone _ | .bodyTube _ | .transition _ => true
  | _ => false

/-- Whether the kind named by a definition's `class` entry is a body part; none for an
unknown kind. -/
def classIsBody? (name : String) : Option Bool :=
  match name with
  | "Nosecone" | "Bodytube" | "Transition" | "BoatTail" => some true
  | "AeroDamping" | "AeroForce" | "FinSet" | "Force" | "FractionalJetDamping" | "Mass"
  | "Motor" | "RecoverySystem" | "StatefulSample" | "TabulatedAeroForce"
  | "TabulatedInertia" => some false
  | _ => none

end Part

namespace Component

/-- The name of the component's kind. -/
def className (c : Component) : String := c.part.className

/-- The length of a body part. -/
def length? (c : Component) : Option Value :=
  match c.part with
  | .noseCone n => some (.float n.length)
  | .bodyTube b => some (.float b.length)
  | .transition t => some t.length
  | _ => none

/-- The largest diameter of a body part. -/
def maxDiameter? (c : Component) : Option Value :=
  match c.part with
  | .noseCone n => some (.float n.baseDiameter)
  | .bodyTube b => some (.float b.outerDiameter)
  | .transition t => some (.float t.maxDiameter)
  | _ => none

/-- The radius of a body part at a distance from its top. -/
def radiusAt (c : Component) (d : Value) : Sim Value :=
  match c.part with
  | .noseCone n => n.radiusAt d
  | .bodyTube b => pure (.float (b.outerDiameter / 2.0))
  | .transition t => t.radiusAt d
  | _ => Sim.fail Fault.noAttribute

/-- Whether a body part joins the part above it at its top (a nose cone does not). -/
def opensUp (c : Component) : Bool :=
  match c.part with
  | .noseCone _ => false
  | _ => true

/-- Whether a body part joins the part below it at its bottom (a boat tail does not). -/
def opensDown (c : Component) : Bool :=
  match c.part with
  | .transition t => !t.boatTail
  | _ => true

/-- The centre of a body part's top face, when another part can join it there. -/
def topInterface (c : Component) : Value :=
  if c.opensUp then c.position.getD .null else .null

/-- The centre of a body part's bottom face, when another part can join it there. -/
def bottomInterface (c : Component) : Sim Value := do
  if !c.opensDown then return .null
  let p := c.position.getD .null
  let z ← Ops.sub (← Ops.attr p "Z") (c.length?.getD .null)
  Sim.lift (Construct.vector [← Ops.attr p "X", ← Ops.attr p "Y", z])

/-- The mass properties at a time and state. -/
def inertiaAt (c : Component) (time state : Value) : Sim Value :=
  match c.part with
  | .motor m => m.inertiaAt time
  | .inertiaTable t => t.inertiaAt time
  | .tank => tankInertia state
  | _ => pure c.inertia

/-- The names, initial values and rates of the quantities the component adds to the flight
state. -/
def extraVariables (c : Component) : List (String × Value) :=
  match c.part with
  | .tank => [("tankLevel", .float 1.0)]
  | _ => []

/-- The force on the component at a state, time and air conditions, with the rocket's
centre of gravity; the component as the computation leaves it (a fin set remembers its fin
deflections). -/
def force (c : Component) (air : Airframe) (state time env cg : Value) :
    Sim (Value × Component) := do
  let same (v : Value) : Sim (Value × Component) := pure (v, c)
  match c.part with
  | .mass | .inertiaTable _ => same zeroForce
  | .noseCone n => same (← n.force air state env)
  | .bodyTube b => same (← b.force (← Ops.vec (c.position.getD .null)) air state env cg)
  | .transition t => same (← t.force air state time env)
  | .finSet f => do
    let (v, f) ← f.force (← Ops.vec (c.position.getD .null)) air state time env cg
    pure (v, { c with part := .finSet f })
  | .motor m => same (← m.force time)
  | .recovery r => same (← r.force state env)
  | .fixedForce v => same v
  | .aeroForce a => same (← a.force state env)
  | .damping d => same (← d.force state env)
  | .aeroTable t => same (← t.force state env)
  | .jetDamping fraction => same (← jetDamping fraction air state time)
  | .tank => same (← tankForce state)

/-- The actuators of a fin set as values with their attributes. -/
def actuatorValue (a : FirstOrderActuator) : Value :=
  .record [("responseTime", a.responseTime), ("lastDeflection", a.lastDeflection),
    ("lastTime", a.lastTime), ("targetDeflection", a.targetDeflection),
    ("maxDeflection", a.maxDeflection.getD .null), ("minDeflection", a.minDeflection.getD .null)]

/-- The attributes of a fin set. -/
def finSetAttr (f : FinSet) (name : String) : Option Value :=
  let planform : Option Value := f.planform.bind fun p => match name with
    | "trailingEdgeSweep" => some (.float p.trailingEdgeSweep)
    | "midChordSweep" => some (.float p.midChordSweep)
    | "dZ_dSpan_LE_neg" => some (.float p.leadingSlope)
    | "dZ_dSpan_TE_neg" => some (.float p.trailingSlope)
    | "planformArea" => some (.float p.planformArea)
    | "wettedArea" => some (.float p.wettedArea)
    | "aspectRatio" => some (.float p.aspectRatio)
    | "stallAngle" => some (.float p.stallAngle)
    | "bodyRadius" => some p.bodyRadius
    | "bodyOnFinInterferenceFactor" => some (.float p.bodyInterference)
    | _ => none
  let aero : Option Value := f.aero.bind fun a => match name with
    | "finNumberInterferenceFactor" => some (.float a.countInterference)
    | "MACLength" => some (.float a.macLength)
    | "MACYPos" => some (.float a.macY)
    | "XMACLeadingEdge" => some (.float a.macLeadingEdge)
    | "spanSliceAreas" => some (.list (a.slices.areas.map Value.float))
    | "spanSliceRadii" => some (.list (a.slices.radii.map Value.float))
    | "sliceLEPositions" => some (.list (a.slices.leadingEdges.map Value.float))
    | "sliceLengths" => some (.list (a.slices.chords.map Value.float))
    | "subsonicFinThicknessK" => some (.float a.thicknessK)
    | "x" => some (.array (a.cpPolynomial.map Value.float))
    | _ => none
  let own : Option Value := match name with
    | "numFins" => some (.int f.numFins)
    | "firstFinAngle" => some (.float f.firstFinAngle)
    | "finAngle" => some (.float f.cantAngle)
    | "sweepAngle" => some (.float f.sweepAngle)
    | "rootChord" => some (.float f.rootChord)
    | "tipChord" => some (.float f.tipChord)
    | "span" => some (.float f.span)
    | "surfaceRoughness" => some (.float f.roughness)
    | "thickness" => some (.float f.thickness)
    | "numFinSpanSteps" => some (.int f.spanSteps)
    | "leadingEdgeShape" => some f.leadingEdgeShape
    | "trailingEdgeShape" => some f.trailingEdgeShape
    | "leadingEdgeRadius" => match f.leadingEdge with
      | .round r => some (.float r)
      | _ => none
    | "leadingEdgeThickness" => match f.leadingEdge with
      | .blunt t => some (.float t)
      | _ => none
    | "trailingEdgeRadius" => match f.trailingEdge with
      | .round r => some (.float r)
      | _ => none
    | "trailingEdgeThickness" => match f.trailingEdge with
      | .blunt t => some (.float t)
      | _ => none
    | "actuatorList" => some (match f.actuators with
      | some acts => .list (acts.map actuatorValue)
      | none => .null)
    | _ => none
  own <|> planform <|> aero

/-- The attributes of a part. -/
def partAttr (p : Part) (name : String) : Option Value :=
  match p with
  | .noseCone n => match name with
    | "aspectRatio" => some (.float n.aspectRatio)
    | "baseDiameter" => some (.float n.baseDiameter)
    | "length" => some (.float n.length)
    | "shape" => some n.shape
    | "surfaceRoughness" => some (.float n.roughness)
    | "volume" => some (.float n.volume)
    | "planformArea" => some (.float n.planformArea)
    | "wettedArea" => some (.float n.wettedArea)
    | "baseArea" => some (.float n.baseArea)
    | "CPLocation" => some (.vec n.cpLocation)
    | "coneHalfAngle" => some (.float n.halfAngle)
    | "SubsonicCdPolyCoeffs" => some (.list [.float n.subsonic.1, .float n.subsonic.2])
    | _ => none
  | .bodyTube b => match name with
    | "length" => some (.float b.length)
    | "outerDiameter" => some (.float b.outerDiameter)
    | "surfaceRoughness" => some (.float b.roughness)
    | "volume" => some (.float b.volume)
    | "planformArea" => some (.float b.planformArea)
    | "wettedArea" => some (.float b.wettedArea)
    | "CPLocation" => some (.vec b.cpLocation)
    | _ => none
  | .transition t => match name with
    | "startDiameter" => some (.float t.startDiameter)
    | "endDiameter" => some (.float t.endDiameter)
    | "length" => some t.length
    | "surfaceRoughness" => some (.float t.roughness)
    | "topArea" => some (.float t.topArea)
    | "bottomArea" => some (.float t.bottomArea)
    | "frontalArea" => some (.float t.frontalArea)
    | "wettedArea" => some (.float t.wettedArea)
    | "volume" => some (.float t.volume)
    | "CPLocation" => some t.cpLocation
    | "CdAdjustmentFactor" => if t.flare.isSome then none else some t.dragFactor
    | "coneHalfAngle" => t.flare.map fun f => .float f.halfAngle
    | _ => none
  | .finSet f => finSetAttr f name
  | .motor m => match name with
    | "classType" => some m.classType
    | "ignitionTime" => some m.ignitionTime
    | "impulseAdjustFactor" => some (.float m.impulseAdjust)
    | "burnTimeAdjustFactor" => some (.float m.burnTimeAdjust)
    | "times" => some (.list (m.times.map .float))
    | "thrustLevels" => some (.list (m.thrustLevels.map .float))
    | "oxWeights" => some (.list m.oxWeights)
    | "fuelWeights" => some (.list m.fuelWeights)
    | "oxMOIs" => some (.list m.oxMOIs)
    | "fuelMOIs" => some (.list m.fuelMOIs)
    | "initialOxidizerWeight" => some m.initialOx
    | "initialFuelWeight" => some m.initialFuel
    | "initOxCG_Z" => some (.float m.initOxCG)
    | "finalOxCG_Z" => some (.float m.finalOxCG)
    | "initFuelCG_Z" => some (.float m.initFuelCG)
    | "finalFuelCG_Z" => some (.float m.finalFuelCG)
    | _ => none
  | .recovery r => match name with
    | "numStages" => some (.int r.numStages)
    | "currentStage" => some (.int r.currentStage)
    | "stageTriggers" => some (.list r.triggers)
    | "stageTriggerValues" => some (.list r.triggerValues)
    | "chuteAreas" => some (.list r.chuteAreas)
    | "chuteCds" => some (.list r.chuteCds)
    | "delayTimes" => some (.list r.delays)
    | _ => none
  | .aeroForce a => match name with
    | "Aref" => some (.float a.refArea)
    | "Lref" => some (.float a.refLength)
    | "aeroCoeffs" => some (.list a.coefficients)
    | _ => none
  | .damping d => match name with
    | "Aref" => some (.float d.refArea)
    | "Lref" => some (.float d.refLength)
    | "xDampingCoeffs" => some (.vec d.x)
    | "yDampingCoeffs" => some (.vec d.y)
    | "zDampingCoeffs" => some (.vec d.z)
    | _ => none
  | .aeroTable t => match name with
    | "Aref" => some (.float t.refArea)
    | "Lref" => some (.float t.refLength)
    | _ => none
  | .jetDamping fraction => match name with
    | "dampingFraction" => some (.float fraction)
    | _ => none
  | _ => none

/-- An attribute of the component by name. -/
def attr (c : Component) (name : String) : Sim Value := do
  let common : Option Value := match name with
    | "name" => some (.str c.name)
    | "position" => c.position
    | "inertia" => if c.part.isFixedMass || c.position.isNone then some c.inertia else none
    | _ => none
  match common <|> partAttr c.part name with
  | some v => pure v
  | none => Sim.fail Fault.noAttribute

end Component

end Vehicle
end RocketSim
