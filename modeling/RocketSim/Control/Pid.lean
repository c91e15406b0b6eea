import RocketSim.Core.Ops

/-!
# PID controllers

A proportional-integral-derivative controller over errors of any kind the value algebra
adds and scales: numbers, or numeric arrays for several channels at once.  The integral
term accumulates by the trapezoidal rule and, when a limit is set, is clipped to it: a
number is clipped to the limit's magnitude, an array channel by channel to the matching
entry of the limit.

The controller is written over the operations it uses (`PidOps`): the simulator runs it on
its values, and over the reals (one channel or several) it is exact.  Clipping one number
to a magnitude (`clipMagnitude`) and clipping channels one by one (`clipChannelsWith`) are
written once, for both.
-/

namespace RocketSim

/-- The operations a PID controller is written in, over errors, gains and time steps `α` in a
monad `m`. -/
structure PidOps (m : Type → Type) (α : Type) where
  add : α → α → m α
  sub : α → α → m α
  mul : α → α → m α
  div : α → α → m α
  abs : α → m α
  int : Int → α
  /-- An integral clipped to a limit. -/
  clip : α → α → m α

/-- A PID controller: its gains, the last error, the accumulated integral of the error,
and the magnitude limit of that integral, if any. -/
structure Pid (α : Type := Value) where
  p : α
  i : α
  d : α
  lastError : α
  errorIntegral : α
  maxIntegral : Option α
  deriving Inhabited

section Clipping

variable {m : Type → Type} [Monad m] {α : Type}

/-- Clips `x` to the magnitude `lim`, keeping its sign: `x·lim/|x|` when `|x| > lim`. -/
def clipMagnitude (abs : α → m α) (gt : α → α → m Bool) (mul div : α → α → m α) (x lim : α) :
    m α := do
  let a ← abs x
  if ← gt a lim then div (← mul x lim) a else pure x

/-- Clips each channel to the limit of the same index with `clipOne`; a channel without a
limit is an index fault. -/
def clipChannelsWith (clipOne : α → α → m α) (fail : Fault → m α) (xs limits : List α) :
    m (List α) :=
  (xs.zipIdx).mapM fun (x, i) => do
    let mi ← match limits[i]? with
      | some y => pure y
      | none => fail Fault.badIndex
    clipOne x mi

end Clipping

namespace Pid

section Generic

variable {m : Type → Type} [Monad m] {α : Type} (O : PidOps m α)

/-- The stored limit of the integral: the magnitude of the given one. -/
def limitWith (maxIntegral : Option α) : m (Option α) :=
  match maxIntegral with
  | none => pure none
  | some lim => some <$> O.abs lim

/-- A controller with the given gains, starting from an initial error, with a zero integral
of the initial error's kind. -/
def makeWith (p i d initialError : α) (maxIntegral : Option α) : m (Pid α) := do
  pure { p, i, d, lastError := initialError, errorIntegral := ← O.mul initialError (O.int 0),
         maxIntegral := ← limitWith O maxIntegral }

/-- One control step: from the current error and the time since the last step, the new
output `P·e + I·∫e + D·de/dt`, and the controller with its error and integral updated. -/
def stepWith (c : Pid α) (err dt : α) : m (α × Pid α) := do
  let derivative ← O.div (← O.sub err c.lastError) dt
  let increment ← O.div (← O.mul (← O.add err c.lastError) dt) (O.int 2)
  let integral ← O.add c.errorIntegral increment
  let integral ← match c.maxIntegral with
    | some lim => O.clip integral lim
    | none => pure integral
  let c := { c with errorIntegral := integral, lastError := err }
  let out ← O.add (← O.add (← O.mul c.p err) (← O.mul c.i integral)) (← O.mul c.d derivative)
  pure (out, c)

/-- Replaces the gains and the integral limit. -/
def retuneWith (c : Pid α) (p i d : α) (maxIntegral : Option α) : m (Pid α) := do
  pure { c with p, i, d, maxIntegral := ← limitWith O maxIntegral }

/-- Resets the integral to zero, of the last error's kind. -/
def resetIntegralWith (c : Pid α) : m (Pid α) := do
  pure { c with errorIntegral := ← O.mul c.lastError (O.int 0) }

end Generic

/-- Whether an integral exceeds a limit, as a truth value: an array with one entry reads
as that entry, an array with more than one has no single truth value and fails with a value
fault. -/
def exceeds (a lim : Value) : Sim Bool :=
  match a with
  | .array [.float e] => Ops.gt (.arrayScalar e) lim
  | .array _ => Sim.fail Fault.badValue
  | _ => Ops.gt a lim

/-- Clips a single integral to the magnitude `lim`, keeping its sign. -/
def clipScalar (x lim : Value) : Sim Value :=
  clipMagnitude Ops.abs exceeds Ops.mul Ops.div x lim

/-- Clips each channel of an array integral to the matching entry of the limit; a limit
without entries is a type fault. -/
def clipChannels (xs : List Value) (lim : Value) : Sim (List Value) := do
  let limits ← match lim with
    | .array ys | .list ys | .tuple ys => pure ys
    | .vec v | .angVel v => pure [.float v.x, .float v.y, .float v.z]
    | _ => Sim.fail Fault.typeMismatch
  clipChannelsWith (clipMagnitude Ops.abs Ops.gt Ops.mul Ops.div) Sim.fail xs limits

/-- The clipped integral: channel by channel when it has channels and the limit has
entries, else as a single number. -/
def clip (x lim : Value) : Sim Value := do
  match x with
  | .array xs =>
    tryCatch (do pure (.array ((← clipChannels (xs.map toScalar) lim).map toEntry)))
      fun e => if e.kind == .typeError then clipScalar x lim else throw e
  | .list xs =>
    tryCatch (do pure (.list (← clipChannels xs lim)))
      fun e => if e.kind == .typeError then clipScalar x lim else throw e
  | _ => clipScalar x lim
where
  /-- An array entry as the scalar it reads as. -/
  toScalar (v : Value) : Value :=
    match v with
    | .float f => .arrayScalar f
    | other => other
  /-- A scalar stored back into an array. -/
  toEntry (v : Value) : Value :=
    match v with
    | .arrayScalar f => .float f
    | other => match v.toFloat? with
      | some f => .float f
      | none => other

/-- The value arithmetic of PID controllers. -/
def valueOps : PidOps Sim Value where
  add := Ops.add
  sub := Ops.sub
  mul := Ops.mul
  div := Ops.div
  abs := Ops.abs
  int := .int
  clip := clip

/-- A limit as the constructor and the updates take it: the absent value is no limit. -/
def presentLimit (maxIntegral : Option Value) : Option Value :=
  match maxIntegral with
  | some .null => none
  | other => other

/-- The stored limit of the integral: the magnitude of the given one. -/
def limitOf (maxIntegral : Option Value) : Sim (Option Value) :=
  limitWith valueOps (presentLimit maxIntegral)

/-- A controller of values with the given gains, starting from an initial error. -/
def make (p i d : Value) (initialError : Value := .int 0) (maxIntegral : Option Value := none) :
    Sim Pid :=
  makeWith valueOps p i d initialError (presentLimit maxIntegral)

/-- One control step of a controller of values. -/
def step (c : Pid) (err dt : Value) : Sim (Value × Pid) := stepWith valueOps c err dt

/-- Replaces the gains and the integral limit of a controller of values; without a limit
the integral is no longer clipped. -/
def retune (c : Pid) (p i d : Value) (maxIntegral : Option Value := none) : Sim Pid :=
  retuneWith valueOps c p i d (presentLimit maxIntegral)

/-- Resets the integral of a controller of values to zero. -/
def resetIntegral (c : Pid) : Sim Pid := resetIntegralWith valueOps c

end Pid

end RocketSim
