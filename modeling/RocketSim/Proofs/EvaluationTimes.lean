import Mathlib
import RocketSim.Proofs.StoredTableaus

/-!
# The order of derivative evaluations

Within one step, the interpreters evaluate the derivative at `t` (unless the first
derivative is cached) and then at `t + c·dt` for the node `c` of each stage row, in the
order of the rows.  A force log rejects a row earlier than its last one, so a logged
simulation needs these times in order.  For `dt > 0` they are in order exactly when the
nodes are, after a leading `0`.

The nodes of every stored method are in order except those of the Dormand-Prince
eighth/seventh-order pair, whose fifth stage sits at `3/8` and sixth at `59/400`: every
step of that method evaluates the derivative earlier than it just did.

**Results.**
* `stages_times`: the stage points' times are `t + c·dt`.
* `isChain_affine`: for `dt > 0`, `t + c·dt` is in order exactly when `c` is.
* `evaluationTimes_ordered`: the evaluation times of every stored method's step, in order
  for all methods but the eighth/seventh-order pair, out of order for it.
-/

namespace RocketSim
namespace Butcher

/-- The nodes `c` of stage rows: where in the step, as a fraction of it, each evaluates. -/
def nodes (rows : List (List ℝ)) : List ℝ := rows.map (·.headD 0)

/-- The stage points are taken at `t + c·dt`, in the order of the rows. -/
theorem stages_times (g : ℝ → ℝ → ℝ) (t y dt : ℝ) :
    ∀ (ks : List ℝ) (rows : List (List ℝ)),
      (stages g t y dt ks rows).2.map Prod.fst = (nodes rows).map (fun c => t + dt * c)
  | ks, [] => by simp [stages, nodes]
  | ks, row :: rows => by
    have ih := stages_times g t y dt (ks ++ [g (stagePoint t y dt ks row).1
      (stagePoint t y dt ks row).2]) rows
    simp only [stages, List.map_cons]
    rw [ih]
    simp [nodes, stagePoint]

/-- For a forward step, times `t + c·dt` are in order exactly when the nodes `c` are. -/
theorem isChain_affine {t dt : ℝ} (hdt : 0 < dt) (cs : List ℝ) :
    (cs.map (fun c => t + dt * c)).IsChain (· ≤ ·) ↔ cs.IsChain (· ≤ ·) := by
  simp only [List.isChain_map, add_le_add_iff_left, mul_le_mul_iff_right₀ hdt]

/-! ## The stored methods -/

/-- Every stored fixed-step method's nodes are in order after a leading `0`. -/
theorem ofFixedMethod_nodes {name : String} {tab : List (List ℝ)}
    (h : ofFixedMethod exactNumbers name = some tab) :
    (0 :: nodes (checked tab).dropLast).IsChain (· ≤ ·) := by
  unfold ofFixedMethod at h
  split at h <;> cases h <;>
    simp [nodes, checked_eq_map, midpoint, heun, rk4, rk4ThreeEighths, exactNumbers, unzero] <;>
    norm_num

/-- The stored adaptive methods' nodes are in order, with or without a leading `0`, except
those of the eighth/seventh-order pair. -/
theorem ofAdaptiveMethod_nodes {name : String} {tab : List (List ℝ)} {fsal : Bool}
    (h : ofAdaptiveMethod exactNumbers name = some (tab, fsal)) :
    ((0 :: nodes ((checked tab).take ((checked tab).length - 2))).IsChain (· ≤ ·) ↔
        name ≠ "RK78Adaptive") ∧
      ((nodes ((checked tab).take ((checked tab).length - 2))).IsChain (· ≤ ·) ↔
        name ≠ "RK78Adaptive") := by
  unfold ofAdaptiveMethod at h
  split at h <;> cases h <;>
    simp [nodes, checked_eq_map, rk12, rk23, rk45, rk78, exactNumbers, unzero] <;>
    norm_num

/-- The times at which a step of a stored method evaluates the derivative, for `dt > 0`: in
order for every fixed-step method, and for an attempt of an adaptive method, with or
without a cached first derivative, in order exactly when the method is not the
eighth/seventh-order pair. -/
theorem evaluationTimes_ordered (name : String) :
    (∀ (tab : List (List ℝ)), ofFixedMethod exactNumbers name = some tab →
      ∀ (g : ℝ → ℝ → ℝ) (y t dt : ℝ), 0 < dt → ∃ r pts,
        (fixedStep exactOps (checked tab) y t (evalAt g) dt).run [] = some (r, pts) ∧
        (pts.map Prod.fst).IsChain (· ≤ ·)) ∧
    (∀ (tab : List (List ℝ)) (fsal : Bool),
      ofAdaptiveMethod exactNumbers name = some (tab, fsal) →
      ∀ (g : ℝ → ℝ → ℝ) (y t dt : ℝ) (cached : Option ℝ), 0 < dt → ∃ r pts,
        (embeddedAttempt exactOps (checked tab) y t (evalAt g) dt cached).run [] =
          some (r, pts) ∧
        ((pts.map Prod.fst).IsChain (· ≤ ·) ↔ name ≠ "RK78Adaptive")) := by
  refine ⟨?fixed, ?adaptive⟩
  case fixed =>
    intro tab h g y t dt hdt
    obtain ⟨rows, b, hchk, -, hrun⟩ := ofFixedMethod_step h
    have hnodes := ofFixedMethod_nodes h
    rw [hchk, List.dropLast_concat] at hnodes
    refine ⟨_, _, hrun g y t dt hdt, ?_⟩
    -- the start is taken as the node `0`
    have htimes : ((t, y) :: (stages g t y dt [g t y] rows).2).map Prod.fst =
        (0 :: nodes rows).map (fun c => t + dt * c) := by
      simp [stages_times]
    rw [htimes, isChain_affine hdt]
    exact hnodes
  case adaptive =>
    intro tab fsal h g y t dt cached hdt
    obtain ⟨rows, bf, bc, hchk, -, hrun⟩ := ofAdaptiveMethod_attempt h
    have hnodes := ofAdaptiveMethod_nodes h
    have hrows : (checked tab).take ((checked tab).length - 2) = rows := by
      rw [hchk]
      simp
    rw [hrows] at hnodes
    refine ⟨_, _, hrun g y t dt cached, ?_⟩
    cases cached with
    | none =>
      have htimes : (firstPoints t y none ++
          (stages g t y dt [none.getD (g t y)] rows).2).map Prod.fst =
          (0 :: nodes rows).map (fun c => t + dt * c) := by
        simp [firstPoints, stages_times]
      rw [htimes, isChain_affine hdt]
      exact hnodes.1
    | some k =>
      have htimes : (firstPoints t y (some k) ++
          (stages g t y dt [(some k).getD (g t y)] rows).2).map Prod.fst =
          (nodes rows).map (fun c => t + dt * c) := by
        simp [firstPoints, stages_times]
      rw [htimes, isChain_affine hdt]
      exact hnodes.2

/-- On `y' = y` from `y = 1` over a step of `1/10`: the classical fourth-order method
evaluates in order, the eighth/seventh-order pair out of order. -/
theorem rk78_evaluatesOutOfOrder :
    (∃ r pts, (fixedStep exactOps (checked (rk4 exactNumbers)) 1 0 (evalAt fun _ y => y)
        (1 / 10)).run [] = some (r, pts) ∧ (pts.map Prod.fst).IsChain (· ≤ ·)) ∧
    (∃ r pts, (embeddedAttempt exactOps (checked (rk78 exactNumbers)) 1 0 (evalAt fun _ y => y)
        (1 / 10) none).run [] = some (r, pts) ∧ ¬ (pts.map Prod.fst).IsChain (· ≤ ·)) := by
  refine ⟨(evaluationTimes_ordered "RK4").1 _ rfl _ 1 0 (1 / 10) (by norm_num), ?_⟩
  obtain ⟨r, pts, hrun, hchain⟩ := (evaluationTimes_ordered "RK78Adaptive").2 _ false rfl
    (fun _ y => y) 1 0 (1 / 10) none (by norm_num)
  exact ⟨r, pts, hrun, by simpa using hchain⟩

end Butcher
end RocketSim
