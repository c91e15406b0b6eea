import RocketSim.Core.Ops
import RocketSim.Core.Methods

/-!
# Flight records

A flight record keeps the times and rigid-body states of a flight (and, for a controlled
vehicle, the actuator deflections and their targets), together with the times the engine
shut off and the main parachute deployed.  From it follow the flight's duration, apogee,
greatest speed and greatest horizontal speed, and its landing point: the last position,
or, when the flight ended above ground by more than twice its last altitude change, the
point where the line through the last two positions meets the ground.
-/

namespace RocketSim

/-- A flight record.  Fields beyond the known ones may be attached by name. -/
structure FlightRecord where
  times : Value := .list []
  states : Value := .list []
  actuatorDefls : Value := .list []
  actuatorTargetDefls : Value := .list []
  engineOffTime : Value := .null
  mainChuteDeployTime : Value := .null
  targetLocation : Value := .null
  extras : List (String × Value) := []
  deriving Inhabited

namespace FlightRecord

/-- A field by name. -/
def field? (f : FlightRecord) (name : String) : Option Value :=
  match name with
  | "times" => some f.times
  | "rigidBodyStates" => some f.states
  | "actuatorDefls" => some f.actuatorDefls
  | "actuatorTargetDefls" => some f.actuatorTargetDefls
  | "engineOffTime" => some f.engineOffTime
  | "mainChuteDeployTime" => some f.mainChuteDeployTime
  | "targetLocation" => some f.targetLocation
  | _ => (f.extras.find? (·.1 == name)).map (·.2)

/-- Sets a field by name. -/
def setField (f : FlightRecord) (name : String) (v : Value) : FlightRecord :=
  match name with
  | "times" => { f with times := v }
  | "rigidBodyStates" => { f with states := v }
  | "actuatorDefls" => { f with actuatorDefls := v }
  | "actuatorTargetDefls" => { f with actuatorTargetDefls := v }
  | "engineOffTime" => { f with engineOffTime := v }
  | "mainChuteDeployTime" => { f with mainChuteDeployTime := v }
  | "targetLocation" => { f with targetLocation := v }
  | _ => { f with extras := if f.extras.any (·.1 == name) then
      f.extras.map (fun (k, w) => if k == name then (k, v) else (k, w))
    else f.extras ++ [(name, v)] }

/-- The items of a sequence field. -/
def itemsOf (v : Value) : Sim (List Value) :=
  match v.items? with
  | some xs => pure xs
  | none => Sim.fail Fault.typeMismatch

/-- The item of a sequence counted from its end (one is the last). -/
def fromEnd (xs : List Value) (k : Nat) : Sim Value :=
  if k ≤ xs.length && k > 0 then pure (xs.getD (xs.length - k) .null)
  else Sim.fail Fault.badIndex

/-- The duration of the flight: its last time. -/
def flightTime (f : FlightRecord) : Sim Value := do
  fromEnd (← itemsOf f.times) 1

/-- The highest altitude reached. -/
def apogee (f : FlightRecord) : Sim Value := do
  (← itemsOf f.states).foldlM (fun best s => do
    let z ← Ops.attr (← Ops.attr s "position") "Z"
    if ← Ops.gt z best then pure z else pure best) (.int (-10000000))

/-- The length of a state's velocity. -/
def speedOf (s : Value) : Sim Value := do
  let (r, _) ← Sim.lift (Methods.call (← Ops.attr s "velocity") "length" [] [])
  pure r

/-- The greatest speed. -/
def maxSpeed (f : FlightRecord) : Sim Value := do
  (← itemsOf f.states).foldlM (fun best s => do
    if ← Ops.gt (← speedOf s) best then speedOf s else pure best) (.int 0)

/-- The greatest horizontal speed. -/
def maxHorizontalSpeed (f : FlightRecord) : Sim Value := do
  (← itemsOf f.states).foldlM (fun best s => do
    let v ← Ops.attr s "velocity"
    let x2 ← Ops.pow (← Ops.attr v "X") (.int 2)
    let y2 ← Ops.pow (← Ops.attr v "Y") (.int 2)
    let h ← Sim.lift (Real.sqrt (← Ops.real (← Ops.add x2 y2)))
    if ← Ops.gt (.float h) best then pure (.float h) else pure best) (.int 0)

/-- The operations the landing point is worked out in, over positions `π` with coordinates
`α`, in a monad `m`. -/
structure LandingOps (m : Type → Type) (π α : Type) where
  /-- A coordinate of a position, by its name. -/
  coord : π → String → m α
  sub : α → α → m α
  mul : α → α → m α
  div : α → α → m α
  add : α → α → m α
  neg : α → m α
  gt : α → α → m Bool
  int : Int → α
  /-- The position on the ground with the given horizontal coordinates. -/
  ground : α → α → m π

/-- The landing point from the last two positions of a flight: the last position, or, when
it lies above twice the last altitude change, the point where the line through the two
positions meets the ground. -/
def landingFrom {m : Type → Type} [Monad m] {π α : Type} (O : LandingOps m π α)
    (before last : π) : m π := do
  let dz ← O.sub (← O.coord last "Z") (← O.coord before "Z")
  if ← O.gt (← O.coord last "Z") (← O.mul dz (O.int 2)) then
    let dxdz ← O.div (← O.sub (← O.coord last "X") (← O.coord before "X")) dz
    let dydz ← O.div (← O.sub (← O.coord last "Y") (← O.coord before "Y")) dz
    let dzLand ← O.neg (← O.coord last "Z")
    let x ← O.add (← O.coord last "X") (← O.mul dxdz dzLand)
    let y ← O.add (← O.coord last "Y") (← O.mul dydz dzLand)
    O.ground x y
  else pure last

/-- The landing point is worked out in the simulator's values. -/
def valueLandingOps : LandingOps Sim Value Value where
  coord := Ops.attr
  sub := Ops.sub
  mul := Ops.mul
  div := Ops.div
  add := Ops.add
  neg := Ops.neg
  gt := Ops.gt
  int := .int
  ground x y := Sim.lift (Construct.vector [x, y, .float 0.0])

/-- The landing point. -/
def landing (f : FlightRecord) : Sim Value := do
  let states ← itemsOf f.states
  let before ← Ops.attr (← fromEnd states 2) "position"
  let last ← Ops.attr (← fromEnd states 1) "position"
  landingFrom valueLandingOps before last

end FlightRecord
end RocketSim
