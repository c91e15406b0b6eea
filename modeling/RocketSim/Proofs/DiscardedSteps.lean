import Mathlib
import RocketSim.Flight.Step
import RocketSim.Proofs.StoredTableaus
import RocketSim.Proofs.DefinitionReading
import RocketSim.Proofs.SimRuns

/-!
# Force log rows of discarded steps

At logging level two and above, every derivative evaluation of a rocket adds a row to its
force log.  When an adaptive integrator throws an attempt away, the simulation deletes the
rows that attempt added: it counts them as two for the first/second-order pair and as the
tableau's length less one otherwise, and deletes that many rows from the force log of
every rocket of the world.

An attempt evaluates the derivative once per stage row, and once more at the step's start
unless the first derivative comes from the cache.  So the count is right exactly for an
attempt that evaluated its first derivative: after a first-same-as-last step one row too
many is deleted, and the rows deleted from the other rockets' logs were never theirs to
lose.

**Results.**
* `forIn_run_of_step`: a loop that moves the world by the same map each round.
* `discardForceRows_run`: a discard deletes the same number of rows from every rocket's
  force log.
* `AdaptiveIntegrator.make_tableau`: an adaptive integrator carries its method's name,
  tableau length and first-same-as-last flag.
* `discardedAttempt_rowAccounting`: the rows an attempt adds against the rows its discard
  deletes.
-/

namespace RocketSim

/-! ## Making an integrator -/

theorem mapM_length_satisfies {m : Type → Type} [Monad m] [LawfulMonad m] {α β : Type}
    (f : α → m β) : ∀ xs : List α, SatisfiesM (fun ys => ys.length = xs.length) (xs.mapM f)
  | [] => by
    rw [List.mapM_nil]
    exact SatisfiesM.pure rfl
  | x :: xs => by
    rw [List.mapM_cons]
    exact SatisfiesM.bind_pre (SatisfiesM.of_true fun _ =>
      SatisfiesM.bind (mapM_length_satisfies f xs) fun ys h => SatisfiesM.pure (by simp [h]))

/-- The check keeps the number of rows of a tableau. -/
theorem Tableau.check_length (t : Tableau) :
    SatisfiesM (fun t' => t'.length = t.length) (Tableau.check t) := by
  unfold Tableau.check
  exact SatisfiesM.bind_pre (SatisfiesM.of_true fun _ => mapM_length_satisfies _ t)

/-- The methods' tableaus have the same number of rows whatever numbers they are written
with. -/
theorem Butcher.ofAdaptiveMethod_lengths {α β : Type} (n : Coefficients α) (n' : Coefficients β)
    (name : String) :
    (Butcher.ofAdaptiveMethod n name).map (fun p => (p.1.length, p.2)) =
      (Butcher.ofAdaptiveMethod n' name).map (fun p => (p.1.length, p.2)) := by
  unfold Butcher.ofAdaptiveMethod
  split <;> rfl

/-- An adaptive integrator carries its method's name and first-same-as-last flag, and a
tableau with as many rows as the method's. -/
theorem AdaptiveIntegrator.make_tableau (method controller : String) (targetError : Value)
    (factors : List Value) (pidGains maxTimeStep minTimeStep : Value) :
    SatisfiesM (fun I : AdaptiveIntegrator => I.method = method ∧
        ∃ tab fsal, Butcher.ofAdaptiveMethod Butcher.exactNumbers method = some (tab, fsal) ∧
          I.tableau.length = tab.length ∧ I.firstSameAsLast = fsal)
      (AdaptiveIntegrator.make method controller targetError factors pidGains maxTimeStep
        minTimeStep) := by
  unfold AdaptiveIntegrator.make
  cases hm : Butcher.ofAdaptiveMethod Tableau.numbers method with
  | none =>
    exact SatisfiesM.bind_pre (Sim.satisfiesM_fail _ _)
  | some p =>
    obtain ⟨tab, fsal⟩ := p
    have hexact := Butcher.ofAdaptiveMethod_lengths Tableau.numbers Butcher.exactNumbers method
    rw [hm] at hexact
    obtain ⟨⟨tab', fsal'⟩, hm', hp⟩ := Option.map_eq_some_iff.1 hexact.symm
    simp only [Prod.mk.injEq] at hp
    simp only [pure_bind]
    refine SatisfiesM.bind (Tableau.check_length tab) fun t ht => ?_
    -- every integrator the rest returns is built on the checked tableau
    have hP : ∀ I : AdaptiveIntegrator, I.method = method → I.tableau = t →
        I.firstSameAsLast = fsal → I.method = method ∧ ∃ tab fsal,
          Butcher.ofAdaptiveMethod Butcher.exactNumbers method = some (tab, fsal) ∧
            I.tableau.length = tab.length ∧ I.firstSameAsLast = fsal :=
      fun I h1 h2 h3 => ⟨h1, tab', fsal', hm', by rw [h2, ht, hp.1], by rw [h3, hp.2]⟩
    split
    · split
      · exact SatisfiesM.pure (hP _ rfl rfl rfl)
      · split
        · exact SatisfiesM.bind_pre (SatisfiesM.of_true fun _ =>
            SatisfiesM.pure (hP _ rfl rfl rfl))
        · exact SatisfiesM.bind_pre (Sim.satisfiesM_fail _ _)
        · exact SatisfiesM.bind_pre (Sim.satisfiesM_fail _ _)
      · exact SatisfiesM.pure (hP _ rfl rfl rfl)
      · exact Sim.satisfiesM_fail _ _
    · exact SatisfiesM.bind_pre (Sim.satisfiesM_fail _ _)

namespace Flight
namespace Mission

/-! ## Deleting rows -/

/-- A rocket with `k` rows deleted from the end of its force log. -/
def withRowsDeleted (k : ℕ) (r : Rocket) : Rocket :=
  { r with forceLog := r.forceLog.map (Log.deleteLastRow^[k]) }

@[simp] theorem withRowsDeleted_zero : withRowsDeleted 0 = id := by
  funext r
  cases r
  simp [withRowsDeleted]

theorem withRowsDeleted_add (j k : ℕ) (r : Rocket) :
    withRowsDeleted j (withRowsDeleted k r) = withRowsDeleted (j + k) r := by
  simp [withRowsDeleted, Option.map_map, ← Function.iterate_add]

@[simp] theorem withRowsDeleted_forceLog_isSome (k : ℕ) (r : Rocket) :
    (withRowsDeleted k r).forceLog.isSome = r.forceLog.isSome := by
  simp [withRowsDeleted]

/-- A loop whose every round, from a state satisfying `P`, yields and moves the state by
`F` (keeping `P`) moves it by `F` once per element: by induction on the elements. -/
theorem forIn_run_of_step {σ : Type} (body : ℕ → PUnit → StateT σ Sim (ForInStep PUnit))
    (F : σ → σ) (P : σ → Prop) (hstep : ∀ x w, P w → (body x PUnit.unit).run w =
      pure (ForInStep.yield PUnit.unit, F w)) (hP : ∀ w, P w → P (F w)) :
    ∀ (l : List ℕ) (w : σ), P w →
      (forIn l PUnit.unit body).run w = pure (PUnit.unit, F^[l.length] w)
  | [], w, _ => by simp
  | x :: l, w, hw => by
    rw [List.forIn_cons, StateT.run_bind, hstep x w hw, pure_bind]
    simp only [List.length_cons, Function.iterate_succ, Function.comp_apply]
    exact forIn_run_of_step body F P hstep hP l (F w) (hP w hw)

/-- One round of a discard: one row less in every rocket's force log. -/
def deleteRowEach (w : World) : World := { w with rockets := w.rockets.map (withRowsDeleted 1) }

theorem deleteRowEach_iterate : ∀ (k : ℕ) (w : World),
    deleteRowEach^[k] w = { w with rockets := w.rockets.map (withRowsDeleted k) }
  | 0, w => by simp
  | k + 1, w => by
    rw [Function.iterate_succ_apply, deleteRowEach_iterate k]
    simp [deleteRowEach, withRowsDeleted_add]

/-- A discard, at logging level two or more, deletes from the force log of every rocket of
the world as many rows as the discarding rocket's adaptive integrator counts: two for the
first/second-order pair, its tableau's length less one otherwise. -/
theorem discardForceRows_run (w : World) (i : ℕ) (r : Rocket) (a : AdaptiveIntegrator)
    (hlevel : 2 ≤ w.loggingLevel) (hr : w.rockets[i]? = some r)
    (ha : r.body.integrator = .adaptive a) (hlogs : ∀ r ∈ w.rockets, r.forceLog.isSome) :
    (discardForceRows i).run w = pure ((), { w with rockets := (w.rockets.map
      (withRowsDeleted (if a.method == "RK12Adaptive" then 2 else a.tableau.length - 1))) }) := by
  unfold discardForceRows
  simp only [StateT.run_bind, StateT.run_get, pure_bind, show ¬ w.loggingLevel < 2 by omega,
    if_false, rocket, hr, StateT.run_pure, ha]
  rw [forIn_run_of_step _ deleteRowEach (fun w => ∀ r ∈ w.rockets, r.forceLog.isSome) ?step ?keep
    _ w hlogs, List.length_range, deleteRowEach_iterate]
  · rfl
  case step =>
    intro _ w hlogs
    simp only [StateT.run_bind, StateT.run_get, pure_bind]
    rw [mapM_eq_pure_map _ (withRowsDeleted 1) _ ?_]
    · rfl
    · intro r hr
      obtain ⟨log, hlog⟩ := Option.isSome_iff_exists.1 (hlogs r hr)
      simp [hlog, withRowsDeleted]
  case keep =>
    intro w hlogs r hr
    simp only [deleteRowEach, List.mem_map] at hr
    obtain ⟨r₀, hr₀, rfl⟩ := hr
    simpa using hlogs r₀ hr₀

/-! ## Rows added and rows deleted -/

open Butcher

/-- The discard count of a stored adaptive method is its number of stage rows plus one. -/
theorem ofAdaptiveMethod_discardCount {name : String} {tab : List (List ℝ)} {fsal : Bool}
    (h : ofAdaptiveMethod exactNumbers name = some (tab, fsal)) :
    (if name == "RK12Adaptive" then 2 else tab.length - 1) = tab.length - 2 + 1 := by
  unfold ofAdaptiveMethod at h
  split at h <;> cases h <;> rfl

/-- The rows a discarded attempt adds to a force log against the rows its discard deletes.
An attempt of a stored adaptive method evaluates the derivative as many times as the discard
counts, less one when its first derivative comes from the cache; the integrators carry their
method's name, first-same-as-last flag and tableau length, from which the count is taken;
and the discard deletes that count from the force log of every rocket of the world, not
only from the discarding rocket's. -/
theorem discardedAttempt_rowAccounting (name : String) :
    (∀ (tab : List (List ℝ)) (fsal : Bool),
      ofAdaptiveMethod exactNumbers name = some (tab, fsal) →
      ∀ (g : ℝ → ℝ → ℝ) (y t dt : ℝ) (cached : Option ℝ), ∃ r pts,
        (embeddedAttempt exactOps (checked tab) y t (evalAt g) dt cached).run [] =
          some (r, pts) ∧
        pts.length + (if cached.isSome then 1 else 0) =
          if name == "RK12Adaptive" then 2 else tab.length - 1) ∧
    (∀ (controller : String) (targetError : Value) (factors : List Value)
      (pidGains maxTimeStep minTimeStep : Value),
      SatisfiesM (fun a : AdaptiveIntegrator => a.method = name ∧ ∃ tab fsal,
          ofAdaptiveMethod exactNumbers name = some (tab, fsal) ∧
            a.tableau.length = tab.length ∧ a.firstSameAsLast = fsal)
        (AdaptiveIntegrator.make name controller targetError factors pidGains maxTimeStep
          minTimeStep)) ∧
    (∀ (w : World) (i : ℕ) (r : Rocket) (a : AdaptiveIntegrator), a.method = name →
      2 ≤ w.loggingLevel → w.rockets[i]? = some r → r.body.integrator = .adaptive a →
      (∀ r ∈ w.rockets, r.forceLog.isSome) →
      (discardForceRows i).run w = pure ((), { w with rockets := (w.rockets.map
        (withRowsDeleted (if name == "RK12Adaptive" then 2 else a.tableau.length - 1))) })) := by
  refine ⟨?attempt, AdaptiveIntegrator.make_tableau name, ?discard⟩
  case attempt =>
    intro tab fsal h g y t dt cached
    obtain ⟨rows, bf, bc, hchk, -, hrun⟩ := ofAdaptiveMethod_attempt h
    have hrows : tab.length = rows.length + 2 := by
      have := congrArg List.length hchk
      simpa [checked_eq_map] using this
    refine ⟨_, _, hrun g y t dt cached, ?_⟩
    -- the points are the first one (unless cached) and one per stage row
    rw [ofAdaptiveMethod_discardCount h, hrows, List.length_append,
      (stages_length g t y dt _ rows).2]
    cases cached <;> simp [firstPoints, add_comm]
  case discard =>
    intro w i r a hname hlevel hr ha hlogs
    subst hname
    exact discardForceRows_run w i r a hlevel hr ha hlogs

/-- Two rockets with force logs, the first flying with an adaptive integrator of an
eight-row tableau. -/
def twoLoggedRockets : World :=
  { (default : World) with
    loggingLevel := 2
    rockets :=
      [{ (default : Rocket) with
          body := { (default : RigidBody) with
            integrator := .adaptive { (default : AdaptiveIntegrator) with
              method := "RK45Adaptive", tableau := List.replicate 8 [] } }
          forceLog := some default },
       { (default : Rocket) with forceLog := some default }] }

/-- An attempt of the Dormand-Prince pair from a cached derivative evaluates six times, and
a discard in a world of two logged rockets deletes seven rows from each log. -/
theorem cachedAttempt_againstDiscard :
    (∃ r pts, (embeddedAttempt exactOps (checked (rk45 exactNumbers)) 1 0 (evalAt fun _ y => y)
        (1 / 10) (some 1)).run [] = some (r, pts) ∧ pts.length = 6) ∧
    (discardForceRows 0).run twoLoggedRockets =
      pure ((), { twoLoggedRockets with
        rockets := (twoLoggedRockets.rockets.map (withRowsDeleted 7)) }) := by
  obtain ⟨hattempt, -, hdiscard⟩ := discardedAttempt_rowAccounting "RK45Adaptive"
  refine ⟨?_, ?_⟩
  · have := hattempt _ true rfl (fun _ y => y) 1 0 (1 / 10) (some 1)
    simpa [rk45] using this
  · have hlogs : ∀ r ∈ twoLoggedRockets.rockets, r.forceLog.isSome := by
      intro r hr
      simp only [twoLoggedRockets, List.mem_cons, List.not_mem_nil, or_false] at hr
      rcases hr with rfl | rfl <;> rfl
    exact hdiscard twoLoggedRockets 0 (twoLoggedRockets.rockets.headD default)
      { (default : AdaptiveIntegrator) with method := "RK45Adaptive", tableau := List.replicate 8 [] }
      rfl (le_refl _) rfl rfl hlogs

end Mission
end Flight

end RocketSim
