import RocketSim.Vehicle.Component

/-!
# Stages

A stage is a group of components that stays together until the stage separates: its
components, its position (from which its components' positions are measured), the event
that separates it from the stage above, and its motor's shut-off time.

A stage's mass properties combine the fixed mass properties of its fixed-mass components,
summed once when the stage is put together (and again when the rocket loses a stage), with
those of its other components at the time and state asked for.  A stage may override its
centre of gravity, moments of inertia or mass with constants.

The mass properties and force of a stage are remembered for the last arguments asked for, in
one memory shared with the whole rocket (`Sim.memoizedWith`): a repeated request returns the
remembered value without computing (or logging) the components' forces again.
-/

namespace RocketSim
namespace Vehicle

/-- A stage of a rocket. -/
structure Stage where
  uid : Nat
  name : String
  path : String
  stageNumber : Int
  position : Vec3
  separationType : Value
  separationDelay : Float
  separationValue : Float
  components : List Component
  fixedInertia : Value := zeroInertia
  fixedMass : Value := .int 0
  varying : List Nat := []
  cgOverride : Option Value := none
  moiOverride : Option Value := none
  massOverride : Option Value := none
  engineShutOff : Value := .null
  motor : Option Nat := none

/-- The memory key of an object known by its number. -/
def objectKey (uid : Nat) : Value := .str ("object#" ++ toString uid)

/-- The name of the memory of composite mass properties. -/
def inertiaMemo : String := "CompositeObject.getInertia"

/-- The name of the memory of composite forces. -/
def forceMemo : String := "CompositeObject.getAppliedForce"

/-- The log name of a component: its dictionary's path below the rocket, or its name. -/
def Component.logName (c : Component) : String :=
  match c.path with
  | some p => match Str.findStr p "." with
    | some i => Str.drop p (i + 1)
    | none => p
  | none => c.name

/-- A force to log: the component's log name, force and moment. -/
abbrev ForceEntry := String × Value × Value

namespace Stage

/-- A component of the stage by number. -/
def component? (s : Stage) (uid : Nat) : Option Component := s.components.find? (·.uid == uid)

/-- The stage's motor, when it has one. -/
def motorPart? (s : Stage) : Option Motor :=
  s.motor.bind fun uid => (s.component? uid).bind fun c => match c.part with
    | .motor m => some m
    | _ => none

/-- Sorts out fixed-mass and other components anew, and sums the fixed mass properties. -/
def recomputeFixed (s : Stage) : Sim Stage := do
  let fixed := s.components.filter (·.part.isFixedMass)
  let varying := (s.components.filter fun c => !c.part.isFixedMass).map (·.uid)
  match fixed with
  | [] => pure { s with fixedInertia := zeroInertia, fixedMass := .int 0, varying }
  | first :: _ => do
    let (combined, _) ← Sim.lift (Arith.combineInertias Arith.depth first.inertia
      (fixed.map (·.inertia)))
    pure { s with fixedInertia := combined, fixedMass := ← Ops.attr combined "mass", varying }

/-- The components whose mass properties vary, in the order they were sorted out. -/
def variableComponents (s : Stage) : List Component := s.varying.filterMap s.component?

/-- The stage's mass properties at a time and state. -/
def inertiaAt (s : Stage) (time state : Value) : Sim Value :=
  Sim.memoized inertiaMemo [objectKey s.uid, time, state] do
    let parts ← s.variableComponents.mapM fun c => c.inertiaAt time state
    let (combined, _) ← Sim.lift (Arith.combineInertias Arith.depth s.fixedInertia
      (s.fixedInertia :: parts))
    let combined ← match s.cgOverride with
      | some cg => do
        let c ← Sim.lift (Arith.setAttr Arith.depth combined "CG" cg)
        Sim.lift (Arith.setAttr Arith.depth c "MOICentroidLocation" cg)
      | none => pure combined
    let combined ← match s.moiOverride with
      | some moi => Sim.lift (Arith.setAttr Arith.depth combined "MOI" moi)
      | none => pure combined
    match s.massOverride with
    | some m => Sim.lift (Arith.setAttr Arith.depth combined "mass" m)
    | none => pure combined

/-- The stage's mass at a time and state. -/
def massAt (s : Stage) (time state : Value) : Sim Value := do
  match s.massOverride with
  | some m => pure m
  | none => s.variableComponents.foldlM (fun total c => do
      Ops.add total (← Ops.attr (← c.inertiaAt time state) "mass")) s.fixedMass

/-- What a component of this stage needs to know: the rocket's airframe with this stage's
motor. -/
def airframe (s : Stage) (air : Airframe) : Airframe :=
  { air with stageShutOff := s.engineShutOff,
             stageIgnition := s.motorPart?.map (·.ignitionTime) }

/-- The sum of the forces on the stage's components, at the rocket's centre of gravity; the
stage as the computation leaves it and the forces to log, none when the force was
remembered. -/
def force (s : Stage) (air : Airframe) (state time env cg : Value) :
    Sim (Value × Option (Stage × List ForceEntry)) := do
  let air := s.airframe air
  let (v, effects) ← Sim.memoizedWith forceMemo [objectKey s.uid, state, time, env, cg] do
    let start := Construct.forceMoment (.vec Vec3.zero) (some cg) none
    let (total, comps, log) ← s.components.foldlM (fun (acc : Value × List Component ×
        List ForceEntry) c => do
      let (total, comps, log) := acc
      let (f, c) ← c.force air state time env cg
      let entry : ForceEntry := (c.logName, ← Ops.attr f "force", ← Ops.attr f "moment")
      pure (← Ops.add total f, comps ++ [c], log ++ [entry])) (start, [], [])
    pure (total, ({ s with components := comps }, log))
  pure (v, effects)

/-- The radius of the stage's body at a distance below its top: that of the first body part
spanning the height. -/
def radiusAt (s : Stage) (d : Value) : Sim Value := do
  let desired ← Ops.sub (.float s.position.z) d
  let rec search (cs : List Component) : Sim (Option Value) := do
    match cs with
    | [] => pure none
    | c :: rest =>
      let attempt : Sim (Option Value) := do
        let some p := c.position | Sim.fail Fault.noAttribute
        let some len := c.length? | Sim.fail Fault.noAttribute
        let top ← Ops.attr p "Z"
        let bottom ← Ops.sub top len
        if (← Ops.le desired top) && (← Ops.le bottom desired) then
          pure (some (← c.radiusAt (← Ops.sub top desired)))
        else pure none
      let r ← tryCatch attempt fun f =>
        if f.kind == .attributeError then pure none else throw f
      match r with
      | some v => pure (some v)
      | none => search rest
  match ← search s.components with
  | some v => pure v
  | none =>
    let text ← Sim.lift (Show.str d)
    Sim.fail (Fault.raise .valueError ("Length " ++ text ++ " from the top of stage '" ++
      s.name ++ "' does not fall between the top and bottom of any of its components"))

/-- The body parts of the stage, top to bottom. -/
def bodies (s : Stage) : List Component := s.components.filter (·.part.isBody)

/-- The length of the stage's body, from the top of its first body part to the bottom of
its last; absent without body parts. -/
def length (s : Stage) : Sim Value := do
  let attempt : Sim Value := do
    let some top := s.bodies.head? | Sim.fail Fault.noAttribute
    let some bottom := s.bodies.getLast? | Sim.fail Fault.noAttribute
    let topZ ← Ops.attr (top.position.getD .null) "Z"
    let bottomZ ← Ops.sub (← Ops.attr (bottom.position.getD .null) "Z")
      (bottom.length?.getD .null)
    Ops.sub topZ bottomZ
  tryCatch attempt fun f => if f.kind == .attributeError then pure .null else throw f

/-- The largest diameter of the stage's body parts (the integer zero without any). -/
def maxDiameter (s : Stage) : Sim Value :=
  s.components.foldlM (fun m c => do
    match c.maxDiameter? with
    | some d => if ← Ops.gt m d then pure m else pure d
    | none => pure m) (.int 0)

/-- A point on the stage's axis at the height of a body part's face, absent when that face
is closed. -/
def facePoint (s : Stage) (face : Sim Value) : Sim Value := do
  let attempt : Sim Value := do
    let z ← Ops.attr (← face) "Z"
    Sim.lift (Construct.vector [.float s.position.x, .float s.position.y, z])
  tryCatch attempt fun f => if f.kind == .attributeError then pure .null else throw f

/-- The top interface of the stage: the top face of its first body part. -/
def topInterface (s : Stage) : Sim Value :=
  s.facePoint (match s.bodies.head? with
    | some c => pure c.topInterface
    | none => pure .null)

/-- The bottom interface of the stage: the bottom face of its last body part. -/
def bottomInterface (s : Stage) : Sim Value :=
  s.facePoint (match s.bodies.getLast? with
    | some c => c.bottomInterface
    | none => pure .null)

end Stage

end Vehicle
end RocketSim
