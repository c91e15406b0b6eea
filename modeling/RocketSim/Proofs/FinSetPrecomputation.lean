import Mathlib
import RocketSim.Proofs.MotorAdjustment

/-!
# What a rocket's fin sets have worked out once it is built

A rocket is built from its definition in steps (`Flight.createRocket`): its stages are read,
sorted, given a zero-length boat tail for base drag and their staging; then every fin set works
out what it can only once the rocket is assembled (`Flight.precomputeFinSet`): its planform,
with the body radius at its station, and then its aerodynamic data (mean aerodynamic chord,
slices, thickness drag constant, centre of pressure polynomial and fins), which starts from the
interference factor of its fin count.  The fineness ratio, the move to the centre of gravity
and the control system come last.

Fin counts from five to eight have no interference factor (`Flight.countInterference`): for
them the aerodynamic data is skipped, and nothing fails.

The proof follows the fin sets through the build.  Reading gives fin sets with no aerodynamic
data; sorting, the boat tail and the staging keep every component's part or add parts that are
no fin sets; the fineness ratio and the move to the centre of gravity keep the stages; the
control system only gives actuators to the fin set it commands.

**Result.**

* `createRocket_finSetAero_iff_notFiveToEight`: a rocket built (the build may fail) has every
  fin set's planform, and a fin set's aerodynamic data exactly when it has not five to eight
  fins.
-/

namespace RocketSim

/-! ## Computations that succeed with what they promise -/

/-- Mapping a computation over a list: every result comes from an item, as that item's
computation promises. -/
theorem satisfiesM_mapM_mem {m : Type → Type} [Monad m] [LawfulMonad m] {α β : Type}
    {f : α → m β} {q : α → β → Prop} :
    ∀ {xs : List α}, (∀ x ∈ xs, SatisfiesM (q x) (f x)) →
      SatisfiesM (fun ys => ∀ y ∈ ys, ∃ x ∈ xs, q x y) (xs.mapM f)
  | [], _ => by
    rw [List.mapM_nil]
    exact SatisfiesM.pure (by simp)
  | x :: xs, h => by
    rw [List.mapM_cons]
    refine SatisfiesM.bind (h x List.mem_cons_self) fun y hy => ?_
    refine SatisfiesM.bind (satisfiesM_mapM_mem fun x' hx' => h x' (List.mem_cons_of_mem x hx'))
      fun ys hys => SatisfiesM.pure ?_
    intro z hz
    rcases List.mem_cons.1 hz with rfl | hz
    · exact ⟨x, List.mem_cons_self, hy⟩
    · obtain ⟨x', hx', hq⟩ := hys z hz
      exact ⟨x', List.mem_cons_of_mem x hx', hq⟩

theorem Config.satisfiesM_fail {α : Type} (p : α → Prop) (f : Fault) :
    SatisfiesM p (Config.fail f : Config α) :=
  Flight.satisfiesM_stateT_lift (Sim.satisfiesM_fail p f)

namespace Vehicle

/-- What a fin set works out once its rocket is assembled has been worked out: its planform,
and its aerodynamic data unless it has five to eight fins. -/
def FinSet.Precomputed (f : FinSet) : Prop :=
  f.planform.isSome ∧ (f.aero.isSome ↔ ¬ (5 ≤ f.numFins ∧ f.numFins ≤ 8))

theorem FinSet.read_noAero (r : Reader) (d : Float) :
    SatisfiesM (fun f : FinSet => f.aero = none) (FinSet.read r d) := by
  unfold FinSet.read
  repeat' first
    | with_reducible exact SatisfiesM.pure rfl
    | with_reducible exact Config.satisfiesM_fail _ _
    | with_reducible refine SatisfiesM.bind_pre (SatisfiesM.of_true fun _ => ?_)
    | split

theorem Stage.recomputeFixed_components (s : Stage) :
    SatisfiesM (fun s' : Stage => s'.components = s.components) s.recomputeFixed := by
  unfold Stage.recomputeFixed
  dsimp only
  split
  · exact SatisfiesM.pure rfl
  · refine SatisfiesM.bind_pre (SatisfiesM.of_true fun _ => ?_)
    exact SatisfiesM.bind_pre (SatisfiesM.of_true fun _ => SatisfiesM.pure rfl)

end Vehicle

namespace Flight

open Vehicle

theorem Mission.satisfiesM_sim {α : Type} {p : α → Prop} {x : Sim α}
    (hx : SatisfiesM p x) : SatisfiesM p (Mission.sim x) :=
  satisfiesM_stateT_lift hx

theorem Mission.satisfiesM_fail {α : Type} (p : α → Prop) (f : Fault) :
    SatisfiesM p (Mission.fail f : Mission α) :=
  Mission.satisfiesM_sim (Sim.satisfiesM_fail p f)

/-- A reading of the definition keeps its promise when the world's definition is read. -/
theorem Mission.satisfiesM_config {α : Type} {p : α → Prop} {x : Config α}
    (hx : SatisfiesM p x) : SatisfiesM p (Mission.config x) := by
  unfold Mission.config
  refine SatisfiesM.bind_pre (SatisfiesM.of_true fun w => ?_)
  rw [SatisfiesM_StateT_eq] at hx
  refine SatisfiesM.bind (Mission.satisfiesM_sim (hx w.definition)) fun ⟨a, _⟩ ha => ?_
  exact SatisfiesM.bind_pre (SatisfiesM.of_true fun _ => SatisfiesM.pure ha)

theorem Assembling.satisfiesM_config {α : Type} {p : α → Prop} {x : Config α}
    (hx : SatisfiesM p x) : SatisfiesM p (Assembling.config x) :=
  satisfiesM_stateT_lift hx

/-- An assembly run from any start keeps the promise of its result. -/
theorem Assembling.satisfiesM_run {α : Type} {p : α → Prop} {x : Assembling α}
    (hx : SatisfiesM p x) (a : Assembly) : SatisfiesM (fun q => p q.1) (x.run a) := by
  rw [SatisfiesM_StateT_eq] at hx
  exact hx a

/-! ## Parts of stages -/

/-- A part meets `Q` as a fin set: it is no fin set, or a fin set meeting `Q`. -/
def IfFinSet (Q : FinSet → Prop) (p : Part) : Prop := ∀ f, p = .finSet f → Q f

/-- Every component of every stage has a part meeting `P`. -/
def EveryPart (P : Part → Prop) (stages : List Stage) : Prop :=
  ∀ s ∈ stages, ∀ c ∈ s.components, P c.part

theorem EveryPart.append_stage {P : Part → Prop} {ss : List Stage} {s : Stage}
    (hss : EveryPart P ss) (hs : ∀ c ∈ s.components, P c.part) : EveryPart P (ss ++ [s]) := by
  intro s' hs'
  rcases List.mem_append.1 hs' with hs' | hs'
  · exact hss s' hs'
  · rw [List.mem_singleton.1 hs']
    exact hs

theorem Rocket.mem_of_stageOf? {r : Rocket} {uid i : Nat} {s : Stage}
    (h : r.stageOf? uid = some (i, s)) : s ∈ r.stages := by
  obtain ⟨⟨s', i'⟩, hfind, he⟩ := Option.map_eq_some_iff.1 h
  cases he
  exact List.fst_mem_of_mem_zipIdx (List.mem_of_find?_eq_some hfind)

/-- Replacing a component by one whose part meets `P` keeps every part meeting `P`. -/
theorem Rocket.setComponent_everyPart {P : Part → Prop} {r : Rocket} (h : EveryPart P r.stages)
    (stageUid : Nat) {c : Component} (hc : P c.part) :
    EveryPart P (r.setComponent stageUid c).stages := by
  intro s' hs' d hd
  obtain ⟨s, hs, rfl⟩ := List.mem_map.1 hs'
  split at hd
  · obtain ⟨d', hd', rfl⟩ := List.mem_map.1 hd
    split
    · exact hc
    · exact h s hs d' hd'
  · exact h s hs d hd

/-! ## Reading: fin sets with nothing worked out -/

theorem readPart_noFinAero (r : Reader) (cls : Value) (stageUid uid : Nat) (pos : Vec3) :
    SatisfiesM (fun res => IfFinSet (·.aero = none) res.2.2)
      (readPart r cls stageUid uid pos) := by
  unfold readPart
  refine SatisfiesM.bind_pre (SatisfiesM.of_true fun _ => ?_)
  split
  case h_6 =>
    -- a fin set is read as its dictionary says, with no aerodynamic data
    refine SatisfiesM.bind_pre (SatisfiesM.of_true fun ⟨_, _⟩ => ?_)
    dsimp only
    refine SatisfiesM.bind (Assembling.satisfiesM_config (FinSet.read_noAero _ _)) fun f hf => ?_
    exact SatisfiesM.pure fun _ h => by cases h; exact hf
  all_goals
    dsimp only
    repeat' first
      | with_reducible exact SatisfiesM.pure fun _ h => nomatch h
      | with_reducible exact Assembling.satisfiesM_fail _ _
      | with_reducible refine SatisfiesM.bind_pre (SatisfiesM.of_true fun _ => ?_)
      | split

section Reading

variable {P : Part → Prop}
  (hP : ∀ r cls stageUid uid pos,
    SatisfiesM (fun res => P res.2.2) (readPart r cls stageUid uid pos))
include hP

theorem readComponent_part (path : String) (stageUid : Nat) (pos : Vec3) :
    SatisfiesM (fun c : Component => P c.part) (readComponent path stageUid pos) := by
  unfold readComponent
  dsimp only
  iterate 2 refine SatisfiesM.bind_pre (SatisfiesM.of_true fun _ => ?_)
  refine SatisfiesM.bind (hP _ _ _ _ _) fun ⟨_, _, _⟩ hpart => ?_
  exact SatisfiesM.bind_pre (SatisfiesM.of_true fun _ => SatisfiesM.pure hpart)

theorem readStage_parts (path : String) :
    SatisfiesM (fun s : Stage => ∀ c ∈ s.components, P c.part) (readStage path) := by
  unfold readStage
  dsimp only
  iterate 8 refine SatisfiesM.bind_pre (SatisfiesM.of_true fun _ => ?_)
  -- the components are read one by one onto the stage
  refine SatisfiesM.bind (List.satisfiesM_foldlM
    (motive := fun s : Stage => ∀ c ∈ s.components, P c.part)
    (fun _ h => nomatch h) fun s hs p _ => ?_) fun stage hstage => ?_
  · refine SatisfiesM.bind (readComponent_part hP _ _ _) fun c hc => ?_
    have hall : ∀ d ∈ s.components ++ [c], P d.part := by
      intro d hd
      rcases List.mem_append.1 hd with hd | hd
      · exact hs d hd
      · rw [List.mem_singleton.1 hd]
        exact hc
    split <;> exact SatisfiesM.pure hall
  · iterate 3 refine SatisfiesM.bind_pre (SatisfiesM.of_true fun _ => ?_)
    refine Assembling.satisfiesM_sim (SatisfiesM.imp (Stage.recomputeFixed_components _) ?_)
    intro s' h
    rw [h]
    exact hstage

theorem readWantedStage_parts (wanted : Option Float) {ss : List Stage}
    (hss : EveryPart P ss) (p : String) :
    SatisfiesM (EveryPart P) (readWantedStage wanted ss p) := by
  unfold readWantedStage
  refine SatisfiesM.bind_pre (SatisfiesM.of_true fun _ => ?_)
  have hread : SatisfiesM (EveryPart P) (do pure (ss ++ [← readStage p])) :=
    SatisfiesM.bind (readStage_parts hP p) fun _ hs => SatisfiesM.pure (hss.append_stage hs)
  split
  · split
    · exact hread
    · exact SatisfiesM.pure hss
  · exact hread

/-- Every part of the stages read is one that `readPart` promises. -/
theorem readStages_parts (dropped : Option Int) :
    SatisfiesM (EveryPart P) (readStages dropped) := by
  unfold readStages
  refine SatisfiesM.bind_pre (SatisfiesM.of_true fun _ => ?_)
  refine SatisfiesM.bind_pre (SatisfiesM.of_true fun wanted => ?_)
  exact List.satisfiesM_foldlM (fun _ h => nomatch h) fun _ hss p _ =>
    readWantedStage_parts hP wanted hss p

end Reading

/-! ## Assembling: parts kept, and parts added that are no fin sets -/

theorem sortDescending.go_mem {α : Type} (x : α × Value) :
    ∀ ys : List (α × Value),
      SatisfiesM (fun zs => ∀ z ∈ zs, z = x ∨ z ∈ ys) (sortDescending.go x ys)
  | [] => by
    rw [sortDescending.go]
    exact SatisfiesM.pure (by simp)
  | y :: rest => by
    rw [sortDescending.go]
    refine SatisfiesM.bind_pre (SatisfiesM.of_true fun _ => ?_)
    split
    · exact SatisfiesM.pure fun z hz => by simpa using hz
    · refine SatisfiesM.bind (sortDescending.go_mem x rest) fun zs hzs => SatisfiesM.pure ?_
      intro z hz
      rcases List.mem_cons.1 hz with rfl | hz
      · exact .inr List.mem_cons_self
      · exact (hzs z hz).imp_right (List.mem_cons_of_mem y)

/-- Sorting keeps only items it was given. -/
theorem sortDescending_mem {α : Type} (items : List (α × Value)) :
    SatisfiesM (fun ys => ∀ y ∈ ys, ∃ k, (y, k) ∈ items) (sortDescending items) := by
  unfold sortDescending
  dsimp only
  -- each insertion keeps the items inserted so far and adds the item inserted
  refine SatisfiesM.bind (List.satisfiesM_foldlM
    (motive := fun sorted => ∀ z ∈ sorted, z ∈ items) (fun _ h => nomatch h)
    fun sorted hs x hx => ?_) fun sorted hs => SatisfiesM.pure ?_
  · exact SatisfiesM.imp (sortDescending.go_mem x sorted) fun h z hz =>
      (h z hz).elim (fun e => e ▸ hx) (hs z)
  · intro y hy
    obtain ⟨⟨_, k⟩, hmem, rfl⟩ := List.mem_map.1 hy
    exact ⟨k, hs _ hmem⟩

theorem Rocket.sortParts_everyPart {P : Part → Prop} {r : Rocket} (h : EveryPart P r.stages) :
    SatisfiesM (fun r' : Rocket => EveryPart P r'.stages) r.sortParts := by
  unfold Rocket.sortParts
  -- each stage keeps only components it had, and the stages are sorted as they are
  refine SatisfiesM.bind (satisfiesM_mapM_mem
    (q := fun s s' => ∀ c ∈ s'.components, c ∈ s.components) fun s _ => ?_)
    fun stages hstages => ?_
  · refine SatisfiesM.bind (satisfiesM_mapM_mem (q := fun c kc => kc.1 = c) fun c _ =>
      SatisfiesM.bind_pre (SatisfiesM.of_true fun _ => SatisfiesM.pure rfl)) fun keyed hkeyed => ?_
    refine SatisfiesM.bind (sortDescending_mem keyed) fun comps hcomps => SatisfiesM.pure ?_
    intro c hc
    obtain ⟨k, hk⟩ := hcomps c hc
    obtain ⟨c', hc', rfl⟩ := hkeyed _ hk
    exact hc'
  · refine SatisfiesM.bind (sortDescending_mem _) fun sorted hsorted => SatisfiesM.pure ?_
    intro s' hs' c hc
    obtain ⟨k, hk⟩ := hsorted s' hs'
    obtain ⟨_, hmem, he⟩ := List.mem_map.1 hk
    cases he
    obtain ⟨s, hs, hsub⟩ := hstages s' hmem
    exact h s hs c (hsub c hc)

section FinSets

variable {Q : FinSet → Prop}

theorem Rocket.ensureBaseDrag_finSets {r : Rocket} (h : EveryPart (IfFinSet Q) r.stages) :
    SatisfiesM (fun r' : Rocket => EveryPart (IfFinSet Q) r'.stages) r.ensureBaseDrag := by
  unfold Rocket.ensureBaseDrag
  split
  · rename_i bottom hbottom
    -- the bottom stage gains a component that is no fin set, and the other stages stay
    have hadd : ∀ c : Component, (∀ f, c.part ≠ .finSet f) → EveryPart (IfFinSet Q)
        (r.stages.dropLast ++ [{ bottom with components := bottom.components ++ [c] }]) := by
      intro c hc
      refine EveryPart.append_stage (fun s hs => h s (List.mem_of_mem_dropLast hs)) ?_
      intro d hd
      rcases List.mem_append.1 hd with hd | hd
      · exact h bottom (List.mem_of_getLast? hbottom) d hd
      · rw [List.mem_singleton.1 hd]
        exact fun f hf => absurd hf (hc f)
    dsimp only
    repeat' first
      | with_reducible exact SatisfiesM.pure h
      | with_reducible exact SatisfiesM.pure (hadd _ fun _ h => nomatch h)
      | with_reducible refine SatisfiesM.bind_pre (SatisfiesM.of_true fun _ => ?_)
      | split
  · exact Sim.satisfiesM_fail _ _

theorem setIgnition_finSets {s : Stage} (hs : ∀ c ∈ s.components, IfFinSet Q c.part)
    (t : Value) :
    SatisfiesM (fun s' : Stage => ∀ c ∈ s'.components, IfFinSet Q c.part)
      (setIgnition s t) := by
  unfold setIgnition
  split
  · refine SatisfiesM.pure ?_
    intro c hc
    obtain ⟨d, hd, rfl⟩ := List.mem_map.1 hc
    -- only the motor's ignition time changes
    split
    · split
      · exact fun _ h => nomatch h
      · exact hs d hd
    · exact hs d hd
  · exact Sim.satisfiesM_fail _ _

theorem Rocket.stagingTriggers_finSets {r : Rocket} (h : EveryPart (IfFinSet Q) r.stages) :
    SatisfiesM (fun r' : Rocket => EveryPart (IfFinSet Q) r'.stages) r.stagingTriggers := by
  unfold Rocket.stagingTriggers
  split
  · dsimp only
    refine SatisfiesM.bind (List.satisfiesM_foldlM
      (motive := fun acc => EveryPart (IfFinSet Q) acc.1) (fun _ h => nomatch h)
      fun acc hacc x hx => ?_) fun acc hacc => SatisfiesM.pure hacc
    have hs : ∀ c ∈ x.1.components, IfFinSet Q c.part := h _ (List.fst_mem_of_mem_zipIdx hx)
    -- whether or not it separates and holds its motor, the stage joins the stages before it
    repeat' first
      | exact SatisfiesM.bind (setIgnition_finSets hs _) fun _ hs' =>
          SatisfiesM.pure (hacc.append_stage hs')
      | exact SatisfiesM.bind (SatisfiesM.pure (p := fun s : Stage =>
          ∀ c ∈ s.components, IfFinSet Q c.part) hs) fun _ hs' =>
            SatisfiesM.pure (hacc.append_stage hs')
      | with_reducible refine SatisfiesM.bind_pre (SatisfiesM.of_true fun _ => ?_)
      | split
  · split
    · rename_i first rest hstages
      refine SatisfiesM.bind (setIgnition_finSets (h first (by simp [hstages])) _) fun s' hs' =>
        SatisfiesM.pure ?_
      intro s hs
      rcases List.mem_cons.1 hs with rfl | hs
      · exact hs'
      · exact h s (by simp [hstages, hs])
    · exact Sim.satisfiesM_fail _ _

end FinSets

theorem Rocket.updateFinenessRatio_stages (r : Rocket) :
    SatisfiesM (fun r' : Rocket => r'.stages = r.stages) r.updateFinenessRatio := by
  unfold Rocket.updateFinenessRatio
  repeat' first
    | with_reducible exact SatisfiesM.pure rfl
    | with_reducible exact Sim.satisfiesM_fail _ _
    | with_reducible refine SatisfiesM.bind_pre (SatisfiesM.of_true fun _ => ?_)
    | split

theorem Rocket.moveToCG_stages (r : Rocket) :
    SatisfiesM (fun r' : Rocket => r'.stages = r.stages) r.moveToCG := by
  unfold Rocket.moveToCG
  repeat' first
    | with_reducible exact SatisfiesM.pure rfl
    | with_reducible refine SatisfiesM.bind_pre (SatisfiesM.of_true fun _ => ?_)

/-! ## Working the fin sets out -/

/-- The fin counts without an interference factor: five to eight. -/
theorem countInterference_eq_none_iff (n : Int) :
    countInterference n = none ↔ 5 ≤ n ∧ n ≤ 8 := by
  unfold countInterference
  split_ifs <;> simp <;> omega

theorem precomputeFinSet_precomputed (r : Rocket) (s : Stage) (c : Component) {f : FinSet}
    (hf : f.aero = none) : SatisfiesM FinSet.Precomputed (precomputeFinSet r s c f) := by
  unfold precomputeFinSet
  iterate 2 refine SatisfiesM.bind_pre (SatisfiesM.of_true fun _ => ?_)
  dsimp only
  split
  · rename_i count hcount
    refine SatisfiesM.bind_pre (SatisfiesM.of_true fun _ => SatisfiesM.pure ⟨rfl, ?_⟩)
    have : ¬ (5 ≤ f.numFins ∧ f.numFins ≤ 8) := by
      rw [← countInterference_eq_none_iff, hcount]
      simp
    simpa using this
  · -- no interference factor: the fin set keeps the aerodynamic data it was read with, none
    rename_i hcount
    refine SatisfiesM.pure ⟨rfl, ?_⟩
    have : 5 ≤ f.numFins ∧ f.numFins ≤ 8 := by
      rw [← countInterference_eq_none_iff]
      cases h : countInterference f.numFins
      · rfl
      · exact absurd h (hcount _)
    simp [hf, this]

theorem Rocket.precompute_precomputed {r : Rocket}
    (h : EveryPart (IfFinSet (·.aero = none)) r.stages) :
    SatisfiesM (fun r' : Rocket => EveryPart (IfFinSet FinSet.Precomputed) r'.stages)
      r.precompute := by
  unfold Rocket.precompute
  refine SatisfiesM.bind (satisfiesM_mapM_mem (q := fun _ s' =>
    ∀ c ∈ s'.components, IfFinSet FinSet.Precomputed c.part) fun s hs => ?_)
    fun stages hstages => SatisfiesM.pure ?_
  · refine SatisfiesM.bind (satisfiesM_mapM_mem (q := fun _ c' =>
      IfFinSet FinSet.Precomputed c'.part) fun c hc => ?_) fun comps hcomps => SatisfiesM.pure ?_
    · split
      · rename_i f hpart
        refine SatisfiesM.bind (precomputeFinSet_precomputed r s c (h s hs c hc f hpart))
          fun f' hf' => SatisfiesM.pure ?_
        rintro _ ⟨⟩
        exact hf'
      · rename_i hpart
        exact SatisfiesM.pure fun f e => absurd e (hpart f)
    · intro c hc
      obtain ⟨_, _, h⟩ := hcomps c hc
      exact h
  · intro s' hs'
    obtain ⟨_, _, h⟩ := hstages s' hs'
    exact h

/-! ## The control system: actuators for the fin set it commands -/

theorem initializeActuators_keeps (path : String) (f : FinSet) :
    SatisfiesM (fun f' : FinSet => ∃ a d, f' = { f with actuators := a, deflections := d })
      (initializeActuators path f) := by
  unfold initializeActuators
  dsimp only
  repeat' first
    | with_reducible exact SatisfiesM.pure ⟨_, _, rfl⟩
    | with_reducible exact Config.satisfiesM_fail _ _
    | with_reducible refine SatisfiesM.bind_pre (SatisfiesM.of_true fun _ => ?_)
    | split

theorem fitTimeStepping_stages (r : Rocket) (updateRate : Float) :
    SatisfiesM (fun res : Rocket × Bool × Option Float × Value => res.1.stages = r.stages)
      (fitTimeStepping r updateRate) := by
  unfold fitTimeStepping
  iterate 2 refine SatisfiesM.bind_pre (SatisfiesM.of_true fun _ => ?_)
  dsimp only
  -- only the integrator of the rocket's body may change
  refine SatisfiesM.bind (p := fun r' : Rocket => r'.stages = r.stages) ?_ fun r' hr' => ?_
  · split
    · exact SatisfiesM.bind_pre (SatisfiesM.of_true fun _ => SatisfiesM.pure rfl)
    · exact SatisfiesM.pure rfl
  · iterate 2 refine SatisfiesM.bind_pre (SatisfiesM.of_true fun _ => ?_)
    exact SatisfiesM.pure hr'

section Control

variable {Q : FinSet → Prop}
  (hQ : ∀ f a d, Q f → Q { f with actuators := a, deflections := d })
include hQ

theorem attachControlled_finSets {r : Rocket} (h : EveryPart (IfFinSet Q) r.stages) :
    SatisfiesM (fun res : Rocket × Nat × Nat => EveryPart (IfFinSet Q) res.1.stages)
      (attachControlled r) := by
  unfold attachControlled
  iterate 2 refine SatisfiesM.bind_pre (SatisfiesM.of_true fun _ => ?_)
  split
  · -- the commanded component is a fin set of one of the stages
    split
    · rename_i s hs
      split
      · rename_i comp hcomp
        split
        · rename_i f hpart
          have hf : Q f :=
            h s (Rocket.mem_of_stageOf? hs) comp (List.mem_of_find?_eq_some hcomp) f hpart
          refine SatisfiesM.bind (Mission.satisfiesM_config (initializeActuators_keeps _ f))
            fun f' hf' => SatisfiesM.pure (Rocket.setComponent_everyPart h _ ?_)
          obtain ⟨a, d, rfl⟩ := hf'
          rintro _ ⟨⟩
          exact hQ f a d hf
        · exact Mission.satisfiesM_fail _ _
      · exact Mission.satisfiesM_fail _ _
    · exact Mission.satisfiesM_fail _ _
  · iterate 2 refine SatisfiesM.bind_pre (SatisfiesM.of_true fun _ => ?_)
    exact Mission.satisfiesM_fail _ _

theorem createControlSystem_finSets {r : Rocket} (h : EveryPart (IfFinSet Q) r.stages) :
    SatisfiesM (fun r' : Rocket => EveryPart (IfFinSet Q) r'.stages) (createControlSystem r) := by
  unfold createControlSystem
  dsimp only
  iterate 5 refine SatisfiesM.bind_pre (SatisfiesM.of_true fun _ => ?_)
  -- the commanded fin set gets its actuators; the time stepping and the log leave the stages
  refine SatisfiesM.bind (p := fun res : Rocket × Option (Nat × Nat) =>
    EveryPart (IfFinSet Q) res.1.stages) ?_ fun ⟨r', _⟩ h' => ?_
  · split
    · exact SatisfiesM.pure h
    · exact SatisfiesM.bind (attachControlled_finSets hQ h) fun _ h' => SatisfiesM.pure h'
  · refine SatisfiesM.bind (p := fun res : Rocket × Bool × Option Float × Value =>
      EveryPart (IfFinSet Q) res.1.stages) ?_ fun ⟨r'', _, _, _⟩ h'' => ?_
    · split
      · exact SatisfiesM.imp (fitTimeStepping_stages r' _) fun e => e ▸ h'
      · exact SatisfiesM.pure h'
    · exact SatisfiesM.bind_pre (SatisfiesM.of_true fun _ => SatisfiesM.pure h'')

end Control

/-! ## The rocket built -/

/-- **Every fin set of a rocket built has its planform, and its aerodynamic data unless it has
five to eight fins.**  Building a rocket from any definition either fails or gives a rocket in
which every fin set has worked out its planform, and has worked out its aerodynamic data (mean
aerodynamic chord, slices, thickness drag constant, centre of pressure polynomial and fins)
exactly when its fin count is not from five to eight.  A fin set of five to eight fins is left
without that data, and the build goes on without a fault. -/
theorem createRocket_finSetAero_iff_notFiveToEight (dropped : Option Int) :
    SatisfiesM (fun r : Rocket => ∀ s ∈ r.stages, ∀ c ∈ s.components, ∀ f,
        c.part = .finSet f →
          f.planform.isSome ∧ (f.aero.isSome ↔ ¬ (5 ≤ f.numFins ∧ f.numFins ≤ 8)))
      (createRocket dropped) := by
  unfold createRocket
  dsimp only
  -- the rocket's own settings and logs come first
  iterate 12 refine SatisfiesM.bind_pre (SatisfiesM.of_true fun _ => ?_)
  -- its stages are read with no fin set worked out yet
  refine SatisfiesM.bind (Mission.satisfiesM_config (Assembling.satisfiesM_run
    (readStages_parts readPart_noFinAero dropped) _)) fun ⟨stages, _⟩ hstages => ?_
  -- the body's state, integrator and variables leave the stages as read
  iterate 6 refine SatisfiesM.bind_pre (SatisfiesM.of_true fun _ => ?_)
  refine SatisfiesM.bind (Mission.satisfiesM_sim (Rocket.sortParts_everyPart hstages))
    fun _ h => ?_
  refine SatisfiesM.bind_pre (SatisfiesM.of_true fun _ => ?_)
  refine SatisfiesM.bind (p := fun r : Rocket => EveryPart (IfFinSet (·.aero = none)) r.stages)
    ?_ fun _ h => ?_
  · split
    · exact Mission.satisfiesM_sim (Rocket.ensureBaseDrag_finSets h)
    · exact SatisfiesM.pure h
  refine SatisfiesM.bind (Mission.satisfiesM_sim (Rocket.stagingTriggers_finSets h)) fun _ h => ?_
  -- every fin set is worked out once, and nothing after touches what it worked out
  refine SatisfiesM.bind (Rocket.precompute_precomputed h) fun r h => ?_
  refine SatisfiesM.bind (Mission.satisfiesM_sim (Rocket.updateFinenessRatio_stages r))
    fun r' e => ?_
  refine SatisfiesM.bind (Mission.satisfiesM_sim (Rocket.moveToCG_stages r')) fun r'' e' => ?_
  have h' : EveryPart (IfFinSet FinSet.Precomputed) r''.stages := by
    rw [e', e]
    exact h
  iterate 2 refine SatisfiesM.bind_pre (SatisfiesM.of_true fun _ => ?_)
  split
  · exact createControlSystem_finSets (fun _ _ _ hf => hf) h'
  · exact SatisfiesM.pure h'

end Flight
end RocketSim
