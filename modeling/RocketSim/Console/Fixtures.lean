import RocketSim.Core.Ops
import RocketSim.Motion.Construct

/-!
# Test callables

The fixed family of functions that requests pass where the library expects a user's
function of time and state: a derivative for an integrator, a force or an inertia for a
rigid body.  A callable is named by its kind and carries one parameter value.

* `lin [a, b, c]`: `y·a + b·t + c`
* `cubic [k, w]`: `-k·y³ + cos(w·t)`
* `scale k`: `y·k`
* `const v`: `v`, whatever the arguments
* `spring6 [k, c, kr, extra?]`: a force `-k·position - c·velocity + extra` (extra defaults
  to the zero vector) with the moment `-kr·angular velocity`
* `thrust6 [F, tBurn, M]`: an axial force `F` before `tBurn`, nothing after, with moment `M`
* `burn [m0, mdot, cgz0, cgRate, moi]`: the inertia of a body burning mass at a constant rate
* `decayvar [name, k]`: `-k` times the named state variable
-/

namespace RocketSim
namespace Fixtures

/-- The item of a parameter list. -/
def param (p : Value) (i : Nat) : Sim Value :=
  match p.items? with
  | some xs => match xs[i]? with
    | some x => pure x
    | none => Sim.fail Fault.badIndex
  | none => Sim.fail Fault.typeMismatch

/-- Applies the test callable of kind `kind` with parameter `p` to a time and a state. -/
def apply (kind : String) (p : Value) (t y : Value) : Sim Value := do
  match kind with
  | "lin" => do
    let a ← param p 0
    let b ← param p 1
    let c ← param p 2
    Ops.add (← Ops.add (← Ops.mul y a) (← Ops.mul b t)) c
  | "cubic" => do
    let k ← param p 0
    let w ← param p 1
    let cube ← Ops.pow y (.int 3)
    let arg ← Ops.real (← Ops.mul w t)
    Ops.add (← Ops.mul (← Ops.neg k) cube) (.float (← Sim.lift (Real.cos arg)))
  | "scale" => Ops.mul y p
  | "const" => pure p
  | "spring6" => do
    let k ← param p 0
    let c ← param p 1
    let kr ← param p 2
    let extra ← match p.items? with
      | some xs => match xs[3]? with
        | some e => Sim.lift (Construct.vector (← Sim.lift (Arith.iterItems e)))
        | none => pure (.vec Vec3.zero)
      | none => pure (.vec Vec3.zero)
    let pos ← Ops.attr y "position"
    let vel ← Ops.attr y "velocity"
    let force ← Ops.add (← Ops.add (← Ops.mul pos (← Ops.neg k)) (← Ops.mul vel (← Ops.neg c))) extra
    let w ← Sim.lift (Construct.vector (← Sim.lift (Arith.iterItems (← Ops.attr y "angularVelocity"))))
    let moment ← Ops.mul w (← Ops.neg kr)
    pure (Construct.forceMoment force none (some moment))
  | "thrust6" => do
    let f ← param p 0
    let tBurn ← param p 1
    let m ← param p 2
    let z ← if ← Ops.lt t tBurn then pure f else pure (.float 0.0)
    let force ← Sim.lift (Construct.vector [.int 0, .int 0, z])
    pure (Construct.forceMoment force none (some m))
  | "burn" => do
    let m0 ← param p 0
    let mdot ← param p 1
    let cgz0 ← param p 2
    let rate ← param p 3
    let moi ← param p 4
    let m ← Ops.sub m0 (← Ops.mul mdot t)
    let moiVec ← Sim.lift (Construct.vector [moi, moi, ← Ops.mul (.float 0.1) moi])
    let scaledMoi ← Ops.mul moiVec (← Ops.div m m0)
    let cg ← Sim.lift (Construct.vector [.int 0, .int 0, ← Ops.add cgz0 (← Ops.mul rate t)])
    pure (Construct.inertia scaledMoi cg m none)
  | "decayvar" => do
    let name ← param p 0
    let k ← param p 1
    let n ← match name with
      | .str s => pure s
      | _ => Sim.fail Fault.typeMismatch
    Ops.mul (← Ops.attr y n) (← Ops.neg k)
  | _ => Sim.fail Fault.typeMismatch

end Fixtures
end RocketSim
