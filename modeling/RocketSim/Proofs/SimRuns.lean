import Mathlib
import RocketSim.Core.Session

/-!
# Runs of the simulation monad

Equations for running the building blocks of `Sim` against a session, and the computations
that neither read nor change the session.  Most of the model's arithmetic is lifted from
functions of values alone, and a computation built from such pieces is `Sim.lift` of its
outcome (`Sim.Computes`); what it gives can then be followed through a chain of binds
without tracking the session.
-/

namespace RocketSim

/-- A list mapped by a computation that gives a pure result on each of its elements. -/
theorem mapM_eq_pure_map {m : Type → Type} [Monad m] [LawfulMonad m] {α β : Type}
    (f : α → m β) (g : α → β) : ∀ (xs : List α), (∀ x ∈ xs, f x = pure (g x)) →
      xs.mapM f = pure (xs.map g)
  | [], _ => by simp
  | x :: xs, h => by
    rw [List.mapM_cons, h x List.mem_cons_self,
      mapM_eq_pure_map f g xs fun y hy => h y (List.mem_cons_of_mem _ hy)]
    simp

namespace Sim

theorem run_bind {α β : Type} (x : Sim α) (g : α → Sim β) (s : Session) :
    (x >>= g).run s = match x.run s with
      | (.ok a, s') => (g a).run s'
      | (.error e, s') => (.error e, s') := by
  simp only [run, ExceptT.run_bind, StateT.run_bind]
  rcases (ExceptT.run x).run s with ⟨_ | a, s'⟩ <;> rfl

theorem run_get (s : Session) : (get : Sim Session).run s = (.ok s, s) := rfl

theorem run_lift {α : Type} (r : Outcome α) (s : Session) : (lift r).run s = (r, s) := by
  cases r <;> rfl

theorem run_pure {α : Type} (a : α) (s : Session) : (pure a : Sim α).run s = (.ok a, s) := rfl

/-! ## Computations that leave the session alone -/

/-- `x` neither reads nor changes the session (it is `lift` of its outcome), and every result
it gives satisfies `p`. -/
def Computes {α : Type} (x : Sim α) (p : α → Prop) : Prop :=
  ∃ e, x = lift e ∧ ∀ a, e = .ok a → p a

section Computes

variable {α β : Type} {x : Sim α} {p : α → Prop}

theorem computes_lift (e : Outcome α) : Computes (lift e) (fun a => e = .ok a) :=
  ⟨e, rfl, fun _ h => h⟩

theorem computes_pure (a : α) : Computes (pure a : Sim α) (· = a) :=
  ⟨.ok a, rfl, fun _ h => by cases h; rfl⟩

theorem Computes.mono {q : α → Prop} (hx : Computes x p) (h : ∀ a, p a → q a) :
    Computes x q := by
  obtain ⟨e, rfl, he⟩ := hx
  exact ⟨e, rfl, fun a ha => h a (he a ha)⟩

/-- A result of a computation that leaves the session alone is what it always gives. -/
theorem Computes.self (hx : Computes x p) : Computes x (fun a => x = lift (.ok a) ∧ p a) := by
  obtain ⟨e, rfl, he⟩ := hx
  exact ⟨e, rfl, fun a ha => ⟨by rw [ha], he a ha⟩⟩

theorem Computes.bind {g : α → Sim β} {q : β → Prop} (hx : Computes x p)
    (hg : ∀ a, p a → Computes (g a) q) : Computes (x >>= g) q := by
  obtain ⟨e, rfl, he⟩ := hx
  cases e with
  | error err => exact ⟨.error err, rfl, fun _ h => by cases h⟩
  | ok a => exact hg a (he a rfl)

/-- A run of a computation that leaves the session alone ends where it started. -/
theorem Computes.run_ok (hx : Computes x p) {s s' : Session} {a : α}
    (h : x.run s = (.ok a, s')) : p a ∧ s' = s := by
  obtain ⟨e, rfl, he⟩ := hx
  rw [run_lift] at h
  simp only [Prod.mk.injEq] at h
  exact ⟨he a h.1, h.2.symm⟩

end Computes

end Sim
end RocketSim
