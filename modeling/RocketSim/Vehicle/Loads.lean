import RocketSim.Vehicle.Mounting
import RocketSim.Tables.Interpolation
import RocketSim.Tables.NumberTable
import RocketSim.Tables.Scattered

/-!
# Parts that only apply loads or only carry mass

Besides its body and fins, a rocket can carry parts that model one effect each:

* a **fixed force**: a constant force and moment at a point;
* constant **aerodynamic coefficients** (drag, lift and three moment coefficients) on a
  reference area and length;
* **aerodynamic damping**: moment coefficients proportional to the angular velocity,
  nondimensionalized by the reference length over twice the airspeed;
* **tabulated aerodynamic coefficients**, looked up by one flight parameter (Mach number,
  angle of attack, …) in a table whose key columns come first;
* **tabulated mass properties**, a table of mass, centre of gravity and moments of inertia
  against time;
* **jet damping**: while its stage's motor burns, a pitch and yaw damping moment
  proportional to the rate at which the rocket's moment of inertia decreases;
* a **recovery system** of parachute stages, deployed one after the other by flight events;
  once a parachute is out its drag acts against the air velocity;
* a **tank** whose level is integrated with the flight and drains at a rate proportional
  to its level, moving the rocket's centre of gravity.
-/

namespace RocketSim
namespace Vehicle

/-- Constant aerodynamic coefficients: drag, lift and the moment coefficients about the
three axes, applied at a point on a reference area and length. -/
structure AeroCoefficients where
  position : Vec3
  refArea : Float
  refLength : Float
  coefficients : List Value
  deriving Inhabited

namespace AeroCoefficients

/-- The force of constant coefficients. -/
def force (a : AeroCoefficients) (state env : Value) : Sim Value := do
  match a.coefficients with
  | [cd, cl, mx, my, mz] =>
    Aero.forceFromCoefficients state env cd cl mx my mz (.vec a.position) (.float a.refArea)
      (.float a.refLength)
  | _ => Sim.fail Fault.typeMismatch

end AeroCoefficients

/-- Damping coefficients: for each moment axis, the coefficients of the angular velocity
components. -/
structure Damping where
  refArea : Float
  refLength : Float
  x : Vec3
  y : Vec3
  z : Vec3
  deriving Inhabited

namespace Damping

/-- The damping moment at a state. -/
def force (d : Damping) (state env : Value) : Sim Value := do
  let speed := (← Aero.localFrameAirVel state env).length
  let airspeed := if 0.0000001 > speed then 0.0000001 else speed
  let scale ← divF d.refLength (2.0 * airspeed)
  let w ← Ops.vecAttr state "angularVelocity"
  let mz := d.z.dot w * scale
  let my := d.y.dot w * scale
  let mx := d.x.dot w * scale
  Aero.forceFromCoefficients state env (.int 0) (.int 0) (.float mx) (.float my) (.float mz)
    (.vec Vec3.zero) (.float d.refArea) (.float d.refLength)

end Damping

/-- The names of the coefficient columns a table may give, in the order the coefficients are
applied. -/
def coefficientNames : List String := ["CD", "CL", "CMx", "CMy", "CMz"]

/-- Tabulated aerodynamic coefficients over flight parameters: the keys and rows of
coefficients of a table over one parameter, or the scattered table over several, and where
each column's coefficient goes. -/
structure AeroTable where
  position : Vec3
  refArea : Float
  refLength : Float
  parameters : List Aero.Parameter
  keys : List Value
  rows : List Value
  scattered : Option ScatteredTable := none
  slots : List Nat
  deriving Inhabited

/-- The column names of a comma-separated table: its first line. -/
def csvHeader (text : String) : List String :=
  Str.splitOn (Str.strip ((Str.splitOn text "\n").headD "")) ","

/-- The rows of numbers of a comma-separated table below its header line; comments and
blank lines are skipped, and every row must have as many numbers as the first. -/
def csvRows (text : String) : Sim (List (List Float)) := do
  let rows := (((Str.splitOn text "\n").drop 1).map fun l =>
    Str.strip (NumberTable.uncommented l)).filter (!·.isEmpty)
  let rows ← rows.mapM fun l => (Str.splitOn l ",").mapM fun w =>
    match FloatText.parse (Str.strip w) with
    | some x => pure x
    | none => Sim.fail Fault.badValue
  match rows with
  | first :: rest =>
    if rest.any (·.length != first.length) then Sim.fail Fault.badValue
  | [] => pure ()
  pure rows

/-- The message of a table whose columns are not keys followed by coefficients. -/
def columnsMessage (columns : List String) : Sim String := do
  let cols ← Sim.lift (Show.repr (.list (columns.map Value.str)))
  let keys ← Sim.lift (Show.repr (.list (Aero.Parameter.names.map Value.str)))
  let values ← Sim.lift (Show.repr (.list (coefficientNames.map Value.str)))
  pure ("ERROR: One of the following columns: " ++ cols ++
    " did not match any of the expected columns names: Keys: dict_keys(" ++ keys ++
    "), values: " ++ values ++ ".                     Or was in the wrong order. " ++
    "All key columns must come BEFORE value columns.")

namespace AeroTable

/-- Tabulated coefficients read from a file. -/
def load (path : String) (position : Vec3) (refArea refLength : Float) : Sim AeroTable := do
  let text ← Paths.readText path
  let columns := csvHeader text
  let parameters := (columns.takeWhile fun c => (Aero.Parameter.ofName? c).isSome).filterMap
    Aero.Parameter.ofName?
  let rest := columns.drop parameters.length
  let slots ← rest.mapM fun c => match coefficientNames.idxOf? c with
    | some i => pure i
    | none => do Sim.fail (Fault.raise .valueError (← columnsMessage columns))
  let rows ← csvRows text
  if rows.length == 1 then Sim.fail Fault.badIndex
  let n := parameters.length
  if n > 1 then
    let t ← Sim.lift (ScatteredTable.ofColumns rows n)
    return { position, refArea, refLength, parameters, slots, keys := [], rows := [],
             scattered := some t }
  if n == 0 then Sim.fail Fault.badIndex
  pure { position, refArea, refLength, parameters, slots,
         keys := rows.map fun r => .float (r.headD 0.0),
         rows := rows.map fun r => .array ((r.drop n).map Value.float) }

/-- The force of the tabulated coefficients at a state. -/
def force (t : AeroTable) (state env : Value) : Sim Value := do
  let keys ← t.parameters.mapM fun p => p.eval state env (.int 1)
  let row ← match t.scattered with
    | some s => do
      let (r, _) ← Sim.lift (s.eval (← keys.toArray.mapM Ops.real))
      pure (Value.array (r.toList.map Value.float))
    | none => Interpolation.linear t.keys t.rows (keys.headD .null)
  let values ← match row with
    | .array xs => pure xs
    | _ => Sim.fail Fault.typeMismatch
  let coefficients := (values.zip t.slots).foldl (fun cs (v, i) => cs.set i v)
    (List.replicate 5 (Value.float 0.0))
  match coefficients with
  | [cd, cl, mx, my, mz] =>
    Aero.forceFromCoefficients state env cd cl mx my mz (.vec t.position) (.float t.refArea)
      (.float t.refLength)
  | _ => Sim.fail Fault.typeMismatch

end AeroTable

/-- Tabulated mass properties against time. -/
structure InertiaTable where
  times : List Value
  rows : List Value
  deriving Inhabited

namespace InertiaTable

/-- Mass properties read from a file of eight columns: time, mass, centre of gravity and
moments of inertia. -/
def load (path : String) : Sim InertiaTable := do
  let rows ← csvRows (← Paths.readText path)
  if rows.length == 1 then Sim.fail Fault.badIndex
  if (rows.headD []).length != 8 then
    Sim.fail (Fault.raise .valueError ("Wrong number of columns in inertia table: \x7b\x7d. " ++
      "Expecting 8 columns:                 Time, Mass, CGx, CGy, CGz, MOIx, MOIy, MOIz"))
  pure { times := rows.map fun r => .float (r.headD 0.0),
         rows := rows.map fun r => .array ((r.drop 1).map Value.float) }

/-- The mass properties at a time. -/
def inertiaAt (t : InertiaTable) (time : Value) : Sim Value := do
  let row ← Interpolation.linear t.times t.rows time
  let xs ← match row with
    | .array xs => pure xs
    | _ => Sim.fail Fault.typeMismatch
  let n := xs.length
  let moi ← Sim.lift (Construct.vector (xs.drop (n - 3)))
  let cg ← Sim.lift (Construct.vector ((xs.drop 1).take 3))
  pure (Construct.inertia moi cg (xs.headD .null) none)

end InertiaTable

/-- The pitch and yaw damping moment of a burning motor's exhaust: the rate at which the
rocket's moment of inertia about its pitch axis decreases (a forward difference over a
millisecond), times a fraction, against the angular velocity. -/
def jetDamping (fraction : Float) (air : Airframe) (state time : Value) : Sim Value := do
  let some ignition := air.stageIgnition | Sim.fail Fault.noAttribute
  if (← Ops.gt time ignition) && (← Ops.lt time air.stageShutOff) then
    let now ← air.rocketInertia time state
    let next ← air.rocketInertia (← Ops.add time (.float 0.001)) state
    let a ← Ops.realAttr (← Ops.attr now "MOI") "X"
    let b ← Ops.realAttr (← Ops.attr next "MOI") "X"
    let factor := (a - b) / 0.001 * fraction
    let w ← Ops.vecAttr state "angularVelocity"
    pure (Construct.forceMoment (.vec Vec3.zero) none
      (some (.vec ⟨-w.x * factor, -w.y * factor, 0.0⟩)))
  else pure zeroForce

/-- A recovery system: for each parachute stage (from 1), the event that deploys it, that
event's value, the parachute's area and drag coefficient and the delay after the event; and
the stage deployed so far (0: none). -/
structure Recovery where
  numStages : Int
  triggers : List Value
  triggerValues : List Value
  chuteAreas : List Value
  chuteCds : List Value
  delays : List Value
  currentStage : Int
  deriving Inhabited

namespace Recovery

/-- A recovery system read from its dictionary, before any stage is deployed. -/
def read (r : Reader) : Config Recovery := do
  let numStages ← r.getInt "numStages"
  let stages ← (List.range numStages.toNat).mapM fun j => do
    let i := toString (j + 1)
    let trigger ← r.getString ("stage" ++ i ++ "Trigger")
    let value ← tryCatch (do pure (Value.float (← r.getFloat ("stage" ++ i ++ "TriggerValue"))))
      fun f => if f.kind == .keyError then pure .null else throw f
    let area ← r.getFloat ("stage" ++ i ++ "ChuteArea")
    let cd ← r.getFloat ("stage" ++ i ++ "Cd")
    let delay ← r.getFloat ("stage" ++ i ++ "DelayTime")
    pure (trigger, value, Value.float area, Value.float cd, Value.float delay)
  pure { numStages, currentStage := -1,
         triggers := .null :: stages.map (·.1),
         triggerValues := .null :: stages.map (·.2.1),
         chuteAreas := .int 0 :: stages.map (·.2.2.1),
         chuteCds := .int 0 :: stages.map (·.2.2.2.1),
         delays := .int 0 :: stages.map (·.2.2.2.2) }

/-- The drag of the deployed parachute, against the air velocity. -/
def force (r : Recovery) (state env : Value) : Sim Value := do
  if r.currentStage == 0 then return zeroForce
  let air ← Aero.airVelRelativeToVehicle state env
  let cd ← Interpolation.itemAt r.chuteCds r.currentStage
  let area ← Interpolation.itemAt r.chuteAreas r.currentStage
  let magnitude ← Ops.mul (← Ops.mul cd area) (← Aero.dynamicPressure state env)
  let total ← Ops.mul (.vec air.normalize) magnitude
  pure (Construct.forceMoment total none none)

end Recovery

/-- The tank level of a state. -/
def tankLevel (state : Value) : Sim Value := Ops.attr state "tankLevel"

/-- The rate of change of the tank level: twice the level, draining. -/
def tankRate (state : Value) : Sim Value := do Ops.mul (.int (-2)) (← tankLevel state)

/-- The mass properties of the tank at a state: a fixed mass plus the fluid, its centre of
gravity rising and falling with the level. -/
def tankInertia (state : Value) : Sim Value := do
  let level ← tankLevel state
  let mass ← Ops.add (.int 5) (← Ops.mul level (.float 4.56))
  let moi ← Sim.lift (Construct.vector [mass, mass, ← Ops.mul mass (.float 0.05)])
  let cg ← Sim.lift (Construct.vector [.int 0, .int 0, ← Ops.add (.int (-3)) level])
  pure (Construct.inertia moi cg mass none)

/-- The thrust of the tank's outflow; it cannot be logged, which fails. -/
def tankForce (state : Value) : Sim Value := do
  let _ ← Ops.mul (.int (-2000)) (← tankRate state)
  Sim.fail Fault.noAttribute

end Vehicle
end RocketSim
