import RocketSim.Core.Ops
import RocketSim.Core.Methods

/-!
# Actuators

An actuator moves a control surface towards a target deflection.  A first-order actuator
closes the gap to its target exponentially with its response time, so its deflection at any
later time follows in closed form from the deflection, time and target of its last command:

`δ(t) = δ₀ + (δ* − δ₀)·(1 − e^(−(t − t₀)/τ))`.

A time before the last command (beyond a tolerance of `1e-17 s`) is an error; a time just
before it counts as no time at all.  New targets are clipped to the actuator's limits.  The
actuator is written over the operations it uses (`ActuatorOps`): the simulator runs it on its
values, and over the reals it is exact.
-/

namespace RocketSim

/-- The operations a first-order actuator is written in, over times and deflections `α` in a
monad `m`. -/
structure ActuatorOps (m : Type → Type) (α : Type) where
  add : α → α → m α
  sub : α → α → m α
  mul : α → α → m α
  div : α → α → m α
  neg : α → m α
  pow : α → α → m α
  lt : α → α → m Bool
  /-- The smaller of two numbers, the first unless the second is less. -/
  min : α → α → m α
  /-- The larger of two numbers, the first unless the second is greater. -/
  max : α → α → m α
  /-- The text of a time, for the fault of a time before the last command. -/
  text : α → m String
  /-- Fails with a fault. -/
  fail : {β : Type} → Fault → m β
  int : Int → α
  /-- The tolerance below zero of a time step, `-1e-17`. -/
  tolerance : α
  /-- The base of the natural logarithm. -/
  e : α

/-- A first-order actuator: its response time, the deflection and time of its last command,
its target, and its deflection limits, each of which may be absent. -/
structure FirstOrderActuator (α : Type := Value) where
  responseTime : α
  lastDeflection : α
  lastTime : α
  targetDeflection : α
  maxDeflection : Option α
  minDeflection : Option α
  deriving Inhabited

section FirstOrder

variable {m : Type → Type} [Monad m] {α : Type} (O : ActuatorOps m α)

/-- The position of a first-order system with response time `τ` at `currentTime`, from its
position and target at `lastTime`. -/
def firstOrderPositionWith (responseTime currentTime lastTime lastPosition lastTarget : α) :
    m α := do
  let dt ← O.sub currentTime lastTime
  if ← O.lt dt O.tolerance then
    let now ← O.text currentTime
    let last ← O.text lastTime
    O.fail (Fault.raise .valueError
      ("Current time (" ++ now ++ ") must be after lastTime (" ++ last ++ ")"))
  let dt ← if ← O.lt dt (O.int 0) then pure (O.int 0) else pure dt
  let gap ← O.sub lastTarget lastPosition
  let decay ← O.pow O.e (← O.div (← O.neg dt) responseTime)
  let closed ← O.sub (O.int 1) decay
  O.add lastPosition (← O.mul gap closed)

namespace FirstOrderActuator

/-- An actuator at rest at an initial deflection, its last command at time zero with target
zero. -/
def makeWith (responseTime initialDeflection : α) (maxDeflection minDeflection : Option α) :
    FirstOrderActuator α :=
  { responseTime, lastDeflection := initialDeflection, lastTime := O.int 0,
    targetDeflection := O.int 0, maxDeflection, minDeflection }

/-- The deflection at a time. -/
def deflectionWith (a : FirstOrderActuator α) (time : α) : m α :=
  firstOrderPositionWith O a.responseTime time a.lastTime a.lastDeflection a.targetDeflection

/-- Commands a new target at a time: the deflection reached so far becomes the starting
point, and the target is clipped to the limits. -/
def commandWith (a : FirstOrderActuator α) (target time : α) : m (FirstOrderActuator α) := do
  let current ← a.deflectionWith O time
  let target ← match a.maxDeflection with
    | none => pure target
    | some mx => O.min target mx
  let target ← match a.minDeflection with
    | none => pure target
    | some mn => O.max target mn
  pure { a with lastDeflection := current, lastTime := time, targetDeflection := target }

end FirstOrderActuator

end FirstOrder

/-- The value arithmetic of actuators. -/
def actuatorOps : ActuatorOps Sim Value where
  add := Ops.add
  sub := Ops.sub
  mul := Ops.mul
  div := Ops.div
  neg := Ops.neg
  pow := Ops.pow
  lt := Ops.lt
  min := Ops.min
  max := Ops.max
  text v := Sim.lift (Show.str v)
  fail f := Sim.fail f
  int := .int
  tolerance := .float (-1e-17)
  e := .float 2.718281828459045

/-- The position of a first-order system, over values. -/
def firstOrderPosition (responseTime currentTime lastTime lastPosition lastTarget : Value) :
    Sim Value :=
  firstOrderPositionWith actuatorOps responseTime currentTime lastTime lastPosition lastTarget

namespace FirstOrderActuator

/-- A limit as the constructor takes it: absent when it is the absent value. -/
def limitOf (v : Value) : Option Value :=
  match v with
  | .null => none
  | v => some v

/-- An actuator of values; absent limits are the absent value. -/
def make (responseTime initialDeflection maxDeflection minDeflection : Value) :
    FirstOrderActuator :=
  makeWith actuatorOps responseTime initialDeflection (limitOf maxDeflection)
    (limitOf minDeflection)

/-- The deflection of an actuator of values at a time. -/
def deflection (a : FirstOrderActuator) (time : Value) : Sim Value := a.deflectionWith actuatorOps time

/-- Commands an actuator of values. -/
def command (a : FirstOrderActuator) (target time : Value) : Sim FirstOrderActuator :=
  a.commandWith actuatorOps target time

end FirstOrderActuator
end RocketSim
