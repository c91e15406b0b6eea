import Mathlib
import RocketSim.Aero.Parameters
import RocketSim.Proofs.SimRuns

/-!
# Memoized functions and the memory they share

A memoized function (`Sim.memoized`) keeps one entry per function name in the session's
memory: the arguments of its last computed call and the result.  A call whose arguments
compare equal to the remembered ones (`Sim.sameArgs`) returns the remembered result without
computing.

The memory is *sound* for a function (`MemoSound`) when its entry holds what the undecorated
computation gives on the remembered arguments.  Soundness is the invariant that makes the
memory invisible:

* `memoized_sound`: the step lemma; a call from a sound memory returns the undecorated value
  and leaves the memory sound.
* `runSteps_transparent`: along any run of calls interleaved with other work that keeps the
  memory sound, every call returns what the undecorated function returns on its arguments.

The side condition is not idle.  The angles of attack and sideslip (`Aero.angleOfAttack`,
`Aero.sideslip`) replace the remembered local-frame air velocity in place by the vector they
were handed with one component zeroed (`Sim.updateMemo`), so a later call with the same
arguments returns the zeroed vector (`localFrameAirVel_after_angleOfAttack`,
`localFrameAirVel_after_sideslip`).
-/

namespace RocketSim
namespace Sim

/-! ## Calls of a memoized function -/

/-- The memory after remembering a call of `name` on `args` with result `r`. -/
def remember (name : String) (args : List Value) (r : Value) (s : Session) : Session :=
  { s with memo := ⟨name, args, r⟩ :: s.memo.filter (·.name != name) }

section Calls

variable {name : String} {args : List Value} {compute : Sim Value} {s : Session}

theorem run_memoized_hit {e : MemoEntry} (h : s.memo.find? (·.name == name) = some e)
    (hsame : sameArgs e.args args = .ok true) :
    (memoized name args compute).run s = (.ok e.result, s) := by
  unfold memoized
  rw [run_bind, run_get]
  simp only [h]
  rw [run_bind, run_lift, hsame]
  rfl

theorem run_memoized_miss
    (hmiss : ∀ e, s.memo.find? (·.name == name) = some e → sameArgs e.args args = .ok false) :
    (memoized name args compute).run s =
      match compute.run s with
      | (.ok r, s') => (.ok r, remember name args r s')
      | (.error err, s') => (.error err, s') := by
  unfold memoized
  rw [run_bind, run_get]
  cases h : s.memo.find? (·.name == name) with
  | none =>
    simp only [h]
    rw [run_bind]
    rcases compute.run s with ⟨_ | r, s'⟩ <;> rfl
  | some e =>
    simp only [h]
    rw [run_bind, run_lift, hmiss e h]
    simp only [Bool.false_eq_true, if_false]
    rw [run_bind]
    rcases compute.run s with ⟨_ | r, s'⟩ <;> rfl

theorem run_memoized_fault {e : MemoEntry} (h : s.memo.find? (·.name == name) = some e) {err : Fault}
    (hfault : sameArgs e.args args = .error err) :
    (memoized name args compute).run s = (.error err, s) := by
  unfold memoized
  rw [run_bind, run_get]
  simp only [h]
  rw [run_bind, run_lift, hfault]

/-- A call of a memoized function that returns was answered from the memory, leaving the
session alone, or ran the computation and remembered its result. -/
theorem run_memoized_ok {s' : Session} {r : Value} (hrun : (memoized name args compute).run s = (.ok r, s')) :
    (∃ e, s.memo.find? (·.name == name) = some e ∧ sameArgs e.args args = .ok true ∧
        r = e.result ∧ s' = s) ∨
      ∃ s1, compute.run s = (.ok r, s1) ∧ s' = remember name args r s1 := by
  -- a miss runs the computation and remembers what it gives
  have hmissCase : (∀ e, s.memo.find? (·.name == name) = some e →
      sameArgs e.args args = .ok false) →
      ∃ s1, compute.run s = (.ok r, s1) ∧ s' = remember name args r s1 := by
    intro hmiss
    rw [run_memoized_miss hmiss] at hrun
    rcases hc : compute.run s with ⟨_ | r', s1⟩
    · rw [hc] at hrun
      cases hrun
    · rw [hc] at hrun
      simp only [Prod.mk.injEq, Except.ok.injEq] at hrun
      obtain ⟨rfl, rfl⟩ := hrun
      exact ⟨s1, rfl, rfl⟩
  cases h : s.memo.find? (·.name == name) with
  | none => exact Or.inr (hmissCase fun e he => by rw [h] at he; cases he)
  | some e =>
    cases hsame : sameArgs e.args args with
    | error err =>
      rw [run_memoized_fault h hsame] at hrun
      cases hrun
    | ok b =>
      cases b with
      | true =>
        rw [run_memoized_hit h hsame] at hrun
        simp only [Prod.mk.injEq, Except.ok.injEq] at hrun
        exact Or.inl ⟨e, rfl, hsame, hrun.1.symm, hrun.2.symm⟩
      | false =>
        exact Or.inr (hmissCase fun e' he' => by rw [h] at he'; cases he'; exact hsame)

end Calls

/-! ## Sound memories -/

/-- The memory of the memoized function `name` is sound for its undecorated computation `f`:
what it remembers is what `f` gives on the remembered arguments. -/
def MemoSound (name : String) (f : List Value → Outcome Value) (s : Session) : Prop :=
  ∀ e, s.memo.find? (·.name == name) = some e → f e.args = .ok e.result

/-- `f` gives one result on all arguments the memory takes for equal. -/
def RespectsArgs (f : List Value → Outcome Value) : Prop :=
  ∀ xs ys, sameArgs xs ys = .ok true → f xs = f ys

/-- A computation keeps the memory of `name` sound: every run of it that succeeds from a
sound session ends in a sound one. -/
def KeepsSound (name : String) (f : List Value → Outcome Value) {α : Type} (m : Sim α) : Prop :=
  ∀ s s' a, m.run s = (.ok a, s') → MemoSound name f s → MemoSound name f s'

theorem find?_remember (name : String) (args : List Value) (r : Value) (s : Session) :
    (remember name args r s).memo.find? (·.name == name) = some ⟨name, args, r⟩ := by
  simp [remember]

theorem find?_remember_of_ne {name name' : String} (hne : name' ≠ name) (args : List Value)
    (r : Value) (s : Session) :
    (remember name' args r s).memo.find? (·.name == name) = s.memo.find? (·.name == name) := by
  have hskip : ∀ memo : List MemoEntry,
      (memo.filter (·.name != name')).find? (·.name == name) = memo.find? (·.name == name) := by
    intro memo
    induction memo with
    | nil => rfl
    | cons e memo ih =>
      rw [List.filter_cons]
      split
      · rw [List.find?_cons, List.find?_cons, ih]
      · next hdrop =>
        -- a dropped entry has the other name, so it is not the one looked for
        have he : e.name = name' := by simpa using hdrop
        have hother : (e.name == name) = false := by rw [he]; exact beq_eq_false_iff_ne.2 hne
        rw [ih, List.find?_cons, hother]
  have hhead : (name' == name) = false := beq_eq_false_iff_ne.2 hne
  simp only [remember]
  rw [List.find?_cons, hhead, hskip]

theorem memoSound_remember {name : String} {f : List Value → Outcome Value} {args : List Value}
    {r : Value} (h : f args = .ok r) (s : Session) : MemoSound name f (remember name args r s) := by
  intro e he
  rw [find?_remember] at he
  cases he
  exact h

/-- The step lemma: a call of a memoized function whose computation leaves the session alone
and gives what `f` gives on the call's arguments, from a sound memory, returns what `f` gives
and leaves the memory sound. -/
theorem memoized_sound {name : String} {f : List Value → Outcome Value} (hf : RespectsArgs f)
    {args : List Value} {compute : Sim Value} (hcompute : Computes compute (f args = .ok ·))
    {s s' : Session} {r : Value} (hs : MemoSound name f s)
    (hrun : (memoized name args compute).run s = (.ok r, s')) :
    f args = .ok r ∧ MemoSound name f s' := by
  rcases run_memoized_ok hrun with ⟨e, he, hsame, rfl, rfl⟩ | ⟨s1, hc, rfl⟩
  · -- a hit: the remembered result is the function's value on equal arguments
    exact ⟨(hf _ _ hsame) ▸ hs e he, hs⟩
  · -- a miss: the function runs, and its result is what is remembered
    obtain ⟨hfa, rfl⟩ := hcompute.run_ok hc
    exact ⟨hfa, memoSound_remember hfa _⟩

/-! ## Other work -/

/-- Work that leaves the session alone keeps every memory sound. -/
theorem Computes.keepsSound {α : Type} {x : Sim α} {p : α → Prop} (hx : Computes x p)
    (name : String) (f : List Value → Outcome Value) : KeepsSound name f x :=
  fun _ _ _ hrun hs => (hx.run_ok hrun).2 ▸ hs

theorem memoSound_remember_of_ne {name name' : String} {f : List Value → Outcome Value}
    (hne : name' ≠ name) (args : List Value) (r : Value) {s : Session} (hs : MemoSound name f s) :
    MemoSound name f (remember name' args r s) := by
  intro e he
  rw [find?_remember_of_ne hne] at he
  exact hs e he

/-- A memoized function of another name, whose computation keeps the memory sound, keeps it
sound. -/
theorem keepsSound_memoized {name name' : String} {f : List Value → Outcome Value}
    (hne : name' ≠ name) (args : List Value) {compute : Sim Value}
    (hcompute : KeepsSound name f compute) : KeepsSound name f (memoized name' args compute) := by
  intro s s' a hrun hs
  rcases run_memoized_ok hrun with ⟨-, -, -, -, rfl⟩ | ⟨s1, hc, rfl⟩
  · exact hs
  · -- on a miss the computation runs and its call is remembered under the other name
    exact memoSound_remember_of_ne hne args a (hcompute s s1 a hc hs)

/-- The memory after the remembered result of `name'` is replaced by `r`. -/
theorem run_updateMemo (name' : String) (r : Value) (s : Session) :
    (updateMemo name' r).run s = (.ok (), { s with memo := s.memo.map fun e =>
      if e.name == name' then { e with result := r } else e }) := rfl

theorem find?_updateMemo (name name' : String) (r : Value) (memo : List MemoEntry) :
    (memo.map fun e => if e.name == name' then { e with result := r } else e).find?
        (·.name == name) =
      (memo.find? (·.name == name)).map fun e =>
        if e.name == name' then { e with result := r } else e := by
  rw [List.find?_map]
  congr 2
  funext e
  simp only [Function.comp]
  split <;> rfl

/-- Replacing another function's remembered result keeps the memory sound. -/
theorem keepsSound_updateMemo_of_ne {name name' : String} {f : List Value → Outcome Value}
    (hne : name' ≠ name) (r : Value) : KeepsSound name f (updateMemo name' r) := by
  intro s s' a hrun hs e he
  rw [run_updateMemo] at hrun
  simp only [Prod.mk.injEq] at hrun
  rw [← hrun.2, find?_updateMemo] at he
  obtain ⟨e', he', rfl⟩ := Option.map_eq_some_iff.1 he
  have hname : e'.name = name := by simpa using List.find?_some he'
  have hother : (e'.name == name') = false := by
    rw [hname]
    exact beq_eq_false_iff_ne.2 (Ne.symm hne)
  rw [hother]
  exact hs e' he'

/-- Replacing a function's own remembered result keeps its memory sound exactly when the new
result is what the function gives on the remembered arguments. -/
theorem memoSound_updateMemo_iff (name : String) (f : List Value → Outcome Value) (r : Value)
    (s : Session) :
    MemoSound name f ((updateMemo name r).run s).2 ↔
      ∀ e, s.memo.find? (·.name == name) = some e → f e.args = .ok r := by
  rw [run_updateMemo]
  constructor
  · intro hs e he
    have hfound : e.name = name := by simpa using List.find?_some he
    have := hs { e with result := r } (by
      rw [find?_updateMemo, he]
      simp [hfound])
    exact this
  · intro h e he
    rw [find?_updateMemo] at he
    obtain ⟨e', he', rfl⟩ := Option.map_eq_some_iff.1 he
    have hfound : e'.name = name := by simpa using List.find?_some he'
    simp only [hfound, beq_self_eq_true, if_true]
    exact h e' he'

/-! ## Runs of calls and other work -/

/-- One step of a run: a call of the memoized function on some arguments, or other work. -/
inductive MemoStep where
  | call (args : List Value)
  | other (op : Sim Unit)

/-- Runs the steps, the memoized function `name` computing `f` undecorated; the results of
the calls, in order. -/
def runSteps (name : String) (f : List Value → Outcome Value) : List MemoStep → Sim (List Value)
  | [] => pure []
  | .call args :: rest => do
    let r ← memoized name args (lift (f args))
    let rs ← runSteps name f rest
    pure (r :: rs)
  | .other op :: rest => do
    op
    runSteps name f rest

/-- The arguments of the calls of a run, in order. -/
def callArgs : List MemoStep → List (List Value)
  | [] => []
  | .call args :: rest => args :: callArgs rest
  | .other _ :: rest => callArgs rest

/-- **Transparency.** Along a run of calls of a memoized function whose undecorated
computation depends on its arguments only, interleaved with other work that keeps the memory
sound, every call returns what the undecorated function returns on its arguments. -/
theorem runSteps_transparent {name : String} {f : List Value → Outcome Value}
    (hf : RespectsArgs f) :
    ∀ (steps : List MemoStep), (∀ op, MemoStep.other op ∈ steps → KeepsSound name f op) →
      ∀ {s s' : Session} {rs : List Value}, MemoSound name f s →
        (runSteps name f steps).run s = (.ok rs, s') →
        (callArgs steps).map f = rs.map .ok ∧ MemoSound name f s'
  | [], _, s, s', rs, hs, hrun => by
    rw [runSteps, run_pure] at hrun
    simp only [Prod.mk.injEq, Except.ok.injEq] at hrun
    obtain ⟨rfl, rfl⟩ := hrun
    exact ⟨rfl, hs⟩
  | .call args :: rest, hother, s, s', rs, hs, hrun => by
    rw [runSteps, run_bind] at hrun
    rcases hcall : (memoized name args (lift (f args))).run s with ⟨_ | r, s1⟩
    · rw [hcall] at hrun
      cases hrun
    · rw [hcall] at hrun
      dsimp only at hrun
      rw [run_bind] at hrun
      obtain ⟨hr, hs1⟩ := memoized_sound hf (computes_lift (f args)) hs hcall
      rcases hnext : (runSteps name f rest).run s1 with ⟨_ | rs', s2⟩
      · rw [hnext] at hrun
        cases hrun
      · rw [hnext] at hrun
        dsimp only at hrun
        rw [run_pure] at hrun
        simp only [Prod.mk.injEq, Except.ok.injEq] at hrun
        obtain ⟨rfl, rfl⟩ := hrun
        obtain ⟨hrs, hs2⟩ := runSteps_transparent hf rest
          (fun op hop => hother op (List.mem_cons_of_mem _ hop)) hs1 hnext
        exact ⟨by simp [callArgs, hr, hrs], hs2⟩
  | .other op :: rest, hother, s, s', rs, hs, hrun => by
    rw [runSteps, run_bind] at hrun
    rcases hop : op.run s with ⟨_ | u, s1⟩
    · rw [hop] at hrun
      cases hrun
    · rw [hop] at hrun
      dsimp only at hrun
      have hs1 := hother op List.mem_cons_self s s1 u hop hs
      exact runSteps_transparent hf rest (fun op' hop' => hother op' (List.mem_cons_of_mem _ hop'))
        hs1 hrun

/-- After a call that returns, the memory holds an entry for the function whose arguments
compare equal to the call's and whose result is the one returned. -/
theorem memoized_remembers {name : String} {args : List Value} {compute : Sim Value}
    (hrefl : sameArgs args args = .ok true) {s s' : Session} {r : Value}
    (hrun : (memoized name args compute).run s = (.ok r, s')) :
    ∃ e, s'.memo.find? (·.name == name) = some e ∧ sameArgs e.args args = .ok true ∧
      e.result = r := by
  rcases run_memoized_ok hrun with ⟨e, he, hsame, rfl, rfl⟩ | ⟨s1, -, rfl⟩
  · exact ⟨e, he, hsame, rfl⟩
  · exact ⟨_, find?_remember name args r s1, hrefl, rfl⟩

/-- Two calls around other work, the second answered from the memory: both return the
function's value. -/
theorem runSteps_transparent_recalled :
    ∃ rs s', (runSteps "getBeta" (fun _ => .ok (.int 0))
        [.call [], .other (lift (.ok ())), .call []]).run default = (.ok rs, s') ∧
      (callArgs [.call [], .other (lift (.ok ())), .call []]).map
          (fun _ => (.ok (.int 0) : Outcome Value)) = rs.map .ok ∧
        MemoSound "getBeta" (fun _ => .ok (.int 0)) s' := by
  refine ⟨[.int 0, .int 0], _, rfl,
    runSteps_transparent (s := default) (fun _ _ _ => rfl) _ ?_ ?_ rfl⟩
  · intro op hop
    simp only [List.mem_cons, reduceCtorEq, MemoStep.other.injEq, List.not_mem_nil, or_false,
      false_or] at hop
    subst hop
    exact (computes_lift _).keepsSound _ _
  · intro e he
    cases he

end Sim
end RocketSim

namespace RocketSim
namespace Aero

open Sim

theorem run_vec_of_asVec {r : Value} {v : Vec3} (h : r.asVec? = some v) (s : Session) :
    (Ops.vec r).run s = (.ok v, s) := by
  unfold Ops.vec
  rw [h]
  rfl

theorem asVec_of_run_vec {r : Value} {v : Vec3} {s s' : Session}
    (h : (Ops.vec r).run s = (.ok v, s')) : r.asVec? = some v ∧ s' = s := by
  unfold Ops.vec at h
  cases hr : r.asVec? with
  | none =>
    rw [hr] at h
    cases h
  | some w =>
    rw [hr] at h
    simp only [run_pure, Prod.mk.injEq, Except.ok.injEq] at h
    exact ⟨by rw [h.1], h.2.symm⟩

/-- A call of the local-frame air velocity that returns leaves its entry in the memory. -/
theorem localFrameAirVel_remembers {state env : Value}
    (hrefl : sameArgs [state, env] [state, env] = .ok true) {s s' : Session} {v : Vec3}
    (hrun : (localFrameAirVel state env).run s = (.ok v, s')) :
    ∃ e, s'.memo.find? (·.name == "getLocalFrameAirVel") = some e ∧
      sameArgs e.args [state, env] = .ok true ∧ e.result.asVec? = some v := by
  unfold localFrameAirVel at hrun
  rw [run_bind] at hrun
  rcases hcall : (memoized "getLocalFrameAirVel" [state, env] _).run s with ⟨_ | r, s1⟩
  · rw [hcall] at hrun
    cases hrun
  · rw [hcall] at hrun
    obtain ⟨hvec, rfl⟩ := asVec_of_run_vec hrun
    obtain ⟨e, he, hsame, rfl⟩ := memoized_remembers hrefl hcall
    exact ⟨e, he, hsame, hvec⟩

/-- A call whose arguments compare equal to the remembered ones returns the remembered
vector, and changes nothing. -/
theorem localFrameAirVel_hit {state env : Value} {s : Session} {e : MemoEntry} {w : Vec3}
    (he : s.memo.find? (·.name == "getLocalFrameAirVel") = some e)
    (hsame : sameArgs e.args [state, env] = .ok true) (hw : e.result.asVec? = some w) :
    (localFrameAirVel state env).run s = (.ok w, s) := by
  unfold localFrameAirVel
  rw [run_bind, run_memoized_hit he hsame]
  exact run_vec_of_asVec hw s

/-- Handing out the local-frame air velocity and then replacing its remembered result by the
vector `w`: a later call with the same arguments returns `w`. -/
theorem localFrameAirVel_after_update {state env : Value}
    (hrefl : sameArgs [state, env] [state, env] = .ok true) {s s1 : Session} {v w : Vec3}
    (hair : (localFrameAirVel state env).run s = (.ok v, s1)) :
    (localFrameAirVel state env).run ((updateMemo "getLocalFrameAirVel" (.vec w)).run s1).2 =
      (.ok w, ((updateMemo "getLocalFrameAirVel" (.vec w)).run s1).2) := by
  obtain ⟨e, he, hsame, -⟩ := localFrameAirVel_remembers hrefl hair
  have hname : e.name = "getLocalFrameAirVel" := by simpa using List.find?_some he
  refine localFrameAirVel_hit (e := { e with result := .vec w }) ?_ hsame rfl
  rw [run_updateMemo]
  dsimp only
  rw [find?_updateMemo, he]
  simp [hname]

/-- The tail the angles of attack and sideslip share: the remembered air velocity is replaced
by `w`, and the angle of `w` to the rocket's axis is returned; where it returns, the session
is the one the replacement left. -/
theorem session_after_replace {w : Vec3} {k : Float → Value} {s1 s' : Session} {a : Value}
    (hrun : (do
        updateMemo "getLocalFrameAirVel" (.vec w)
        let ang ← lift (w.angle ⟨0.0, 0.0, -1.0⟩)
        pure (k ang) : Sim Value).run s1 = (.ok a, s')) :
    s' = ((updateMemo "getLocalFrameAirVel" (.vec w)).run s1).2 := by
  rw [run_bind] at hrun
  rw [run_updateMemo] at hrun ⊢
  dsimp only at hrun
  rw [run_bind, run_lift] at hrun
  cases hang : w.angle ⟨0.0, 0.0, -1.0⟩ with
  | error err =>
    rw [hang] at hrun
    cases hrun
  | ok ang =>
    rw [hang] at hrun
    dsimp only at hrun
    rw [run_pure] at hrun
    simp only [Prod.mk.injEq] at hrun
    exact hrun.2.symm

/-- **The angle of attack changes the memory in place.**  After it, a call of the local-frame
air velocity with the same arguments returns the vector the angle of attack was handed with
its y part zeroed, not the vector the undecorated function computes. -/
theorem localFrameAirVel_after_angleOfAttack {state env : Value}
    (hrefl : sameArgs [state, env] [state, env] = .ok true) {s s1 s' : Session} {v : Vec3}
    {a : Value} (hair : (localFrameAirVel state env).run s = (.ok v, s1))
    (hlen : (v.length == 0.0) = false) (hangle : (angleOfAttack state env).run s = (.ok a, s')) :
    (localFrameAirVel state env).run s' = (.ok { v with y := 0.0 }, s') := by
  unfold angleOfAttack at hangle
  rw [run_bind, hair] at hangle
  dsimp only at hangle
  rw [if_neg (by simp [hlen])] at hangle
  rw [session_after_replace hangle]
  exact localFrameAirVel_after_update hrefl hair

/-- The angle of sideslip likewise: after it, a call with the same arguments returns the
vector it was handed with its x part zeroed. -/
theorem localFrameAirVel_after_sideslip {state env : Value}
    (hrefl : sameArgs [state, env] [state, env] = .ok true) {s s1 s' : Session} {v : Vec3}
    {a : Value} (hair : (localFrameAirVel state env).run s = (.ok v, s1))
    (hlen : (v.length == 0.0) = false) (hangle : (sideslip state env).run s = (.ok a, s')) :
    (localFrameAirVel state env).run s' = (.ok { v with x := 0.0 }, s') := by
  unfold sideslip at hangle
  rw [run_bind, hair] at hangle
  dsimp only at hangle
  rw [if_neg (by simp [hlen])] at hangle
  rw [session_after_replace hangle]
  exact localFrameAirVel_after_update hrefl hair

end Aero
end RocketSim
