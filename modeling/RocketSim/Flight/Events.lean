import RocketSim.Core.Ops
import RocketSim.Core.Methods

/-!
# Flight events

A rocket watches for discrete events of its flight: passing apogee, climbing or falling
through an altitude, the burnout of the bottom stage's motor, and a time being reached.
Each watched event is a subscription: the condition, the value it is checked against (an
altitude or a time), the reaction when it happens (separating the bottom stage, or deploying
the next parachute of a recovery system), and a delay.  A delayed reaction is not run when
its condition comes true: the subscription is replaced by one that waits for the time the
delay runs out.

Checking a condition also estimates the time left until it comes true, and whether that
estimate is exact (events at a known time) or a guess (altitude and apogee events, from the
current vertical speed and acceleration).  Adaptive time stepping uses the nearest estimate
to land a time step on the event.
-/

namespace RocketSim
namespace Flight

/-- The conditions an event can wait for. -/
inductive Condition where
  | apogee
  | ascendingThrough
  | descendingThrough
  | motorBurnout
  | timeReached
  deriving BEq, Inhabited

namespace Condition

/-- The condition a definition names. -/
def ofName? : String → Option Condition
  | "apogee" => some .apogee
  | "ascendingThroughAltitude" => some .ascendingThrough
  | "descendingThroughAltitude" => some .descendingThrough
  | "motorBurnout" => some .motorBurnout
  | "timeReached" => some .timeReached
  | _ => none

/-- The condition a setting names; a name that is not text has no condition to look up,
and an unknown name is a missing key. -/
def ofSetting (v : Value) : Sim Condition :=
  match v with
  | .str s => match ofName? s with
    | some c => pure c
    | none => Sim.fail (Fault.bare .keyError)
  | _ => Sim.fail Fault.noAttribute

/-- The condition a recovery system's trigger names: `Apogee`, `Altitude` (reached while
descending) and `Time`, or a condition's own name. -/
def ofTrigger (v : Value) : Sim Condition :=
  match v with
  | .str "Apogee" => pure .apogee
  | .str "Altitude" => pure .descendingThrough
  | .str "Time" => pure .timeReached
  | other => ofSetting other

end Condition

/-- What happens when an event occurs: the rocket drops its bottom stage, or a recovery
system (known by its stage's and its own numbers) deploys its next parachute. -/
inductive Reaction where
  | separateStage
  | deployRecovery (stage component : Nat)
  deriving BEq, Inhabited

/-- A watched event. -/
structure Subscription where
  reaction : Reaction
  value : Value
  condition : Condition
  delay : Value
  deriving Inhabited

/-- What a condition is checked against: the state in the local east-north-up frame, the
rocket's time, the vertical velocity and time of the last check (if any), and the engine
shut-off time of the bottom stage (asked for only by burnout conditions). -/
structure Observation where
  enuState : Value
  time : Value
  lastCheck : Option (Value × Value)
  bottomShutOff : Sim Value

/-- A condition's answer: whether the event has occurred, the estimated time until it
does, and whether that estimate is exact. -/
structure Check where
  occurred : Bool
  timeTo : Value
  exact : Bool

/-- The time estimate given when no estimate can be made. -/
def farAway : Value := .float 1e10

/-- The estimated time to the nearest event still waited for, and whether it is exact. -/
structure Estimate where
  time : Value
  exact : Bool

namespace Estimate

/-- The estimate before any condition is checked. -/
def none : Estimate := ⟨farAway, false⟩

/-- Takes a check into the estimate: an event that has not occurred and is estimated to come
sooner replaces it.  The times are compared whether the event occurred or not. -/
def note (e : Estimate) (c : Check) : Sim Estimate := do
  if (← Ops.lt c.timeTo e.time) && !c.occurred then pure ⟨c.timeTo, c.exact⟩ else pure e

end Estimate

namespace Condition

/-- Checks a condition against its value. -/
def check (c : Condition) (value : Value) (o : Observation) : Sim Check := do
  let vz ← Ops.attr (← Ops.attr o.enuState "velocity") "Z"
  let z ← Ops.attr (← Ops.attr o.enuState "position") "Z"
  match c with
  | .apogee =>
    let occurred ← if ← Ops.le vz (.int 0) then Ops.gt o.time (.float 1.0) else pure false
    let estimate : Sim Value := do
      let (lastVz, lastTime) ← match o.lastCheck with
        | some l => pure l
        | none => Sim.fail Fault.noAttribute
      let accel ← Ops.div (← Ops.sub vz lastVz) (← Ops.sub o.time lastTime)
      if (← Ops.lt accel (.int 0)) && (← Ops.gt vz (.int 0)) then
        Ops.div (← Ops.neg vz) accel
      else pure farAway
    let timeTo ← tryCatch estimate fun f =>
      if f.kind == .attributeError || f.kind == .zeroDivisionError then pure farAway
      else throw f
    pure { occurred, timeTo, exact := false }
  | .ascendingThrough =>
    let occurred ← if ← Ops.ge z value then Ops.gt vz (.int 0) else pure false
    let timeTo ← if ← Ops.gt vz (.int 0) then Ops.div (← Ops.sub value z) vz
      else pure farAway
    pure { occurred, timeTo, exact := false }
  | .descendingThrough =>
    let occurred ← if ← Ops.le z value then Ops.lt vz (.int 0) else pure false
    let timeTo ← if ← Ops.lt vz (.int 0) then Ops.div (← Ops.sub value z) vz
      else pure farAway
    pure { occurred, timeTo, exact := false }
  | .motorBurnout =>
    let shutOff ← o.bottomShutOff
    let occurred ← Ops.ge o.time shutOff
    let timeTo ← Ops.sub (← o.bottomShutOff) o.time
    pure { occurred, timeTo, exact := true }
  | .timeReached =>
    let occurred ← Ops.ge o.time value
    let timeTo ← Ops.sub value o.time
    pure { occurred, timeTo, exact := true }

end Condition

end Flight
end RocketSim
