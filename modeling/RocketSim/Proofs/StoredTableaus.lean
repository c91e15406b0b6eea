import Mathlib
import RocketSim.Proofs.ExactSteps

/-!
# The stored tableaus

Before an integrator stores its tableau, the consistency check replaces every zero entry by
`1e-16`: the fixed-step interpreter divides by each entry.  Read in exact arithmetic, every
stored tableau is stage rows an explicit method can take in order, followed by its weight
rows, so the interpreters compute the Runge-Kutta scheme the tableau encodes.

**Results.**
* `checked_eq_map`: the check's replacement in exact arithmetic, entry by entry.
* `ofFixedMethod_shape`, `ofAdaptiveMethod_shape`: every stored tableau has the shape of an
  explicit method.
* `ofFixedMethod_step`, `ofAdaptiveMethod_attempt`: a step of a stored method, and an
  attempt from a cached first derivative or not, in exact arithmetic.
* `storedTableaus_runRungeKutta`: on every stored tableau the fixed-step and the embedded
  interpreters return the Runge-Kutta formulas, and the two agree on a tableau they share.
-/

namespace RocketSim
namespace Butcher

/-- Tableau entries as exact reals. -/
noncomputable def exactNumbers : Coefficients ℝ where
  int k := k
  ratio p q := p / q

/-- An entry as the check stores it: `1e-16` in place of a zero. -/
noncomputable def unzero (x : ℝ) : ℝ := if x = 0 then 1e-16 else x

theorem unzero_ne_zero (x : ℝ) : unzero x ≠ 0 := by
  unfold unzero
  split_ifs with h
  · norm_num
  · exact h

/-- A tableau as the consistency check stores it, in exact arithmetic. -/
noncomputable def checked (tab : List (List ℝ)) : List (List ℝ) :=
  Id.run (replaceZeros (fun x => pure (decide (x = 0))) 1e-16 tab)

theorem checked_eq_map (tab : List (List ℝ)) : checked tab = tab.map (List.map unzero) := by
  simp [checked, replaceZeros, unzero, apply_ite Id.run]

theorem checked_append (rows last : List (List ℝ)) :
    checked (rows ++ last) = checked rows ++ last.map (List.map unzero) := by
  simp [checked_eq_map]

theorem checked_ne_zero (tab : List (List ℝ)) : ∀ row ∈ checked tab, ∀ x ∈ row, x ≠ 0 := by
  intro row hrow x hx
  rw [checked_eq_map] at hrow
  obtain ⟨r, -, rfl⟩ := List.mem_map.1 hrow
  obtain ⟨x', -, rfl⟩ := List.mem_map.1 hx
  exact unzero_ne_zero x'

/-! ## Shapes -/

theorem StageRows.map (f : ℝ → ℝ) {n : ℕ} {rows : List (List ℝ)} (h : StageRows n rows) :
    StageRows n (rows.map (List.map f)) := by
  intro i hi
  simpa using h i (by simpa using hi)

theorem FixedShape.map (f : ℝ → ℝ) {rows : List (List ℝ)} {b : List ℝ}
    (h : FixedShape rows b) : FixedShape (rows.map (List.map f)) (b.map f) :=
  ⟨h.stageRows.map f, by simpa using h.weights⟩

theorem EmbeddedShape.map (f : ℝ → ℝ) {rows : List (List ℝ)} {bf bc : List ℝ}
    (h : EmbeddedShape rows bf bc) :
    EmbeddedShape (rows.map (List.map f)) (bf.map f) (bc.map f) :=
  ⟨h.stageRows.map f, by simpa using h.sameLength, by simpa using h.weights⟩

/-- Every fixed-step method's tableau is stage rows followed by one weight row. -/
theorem ofFixedMethod_shape {name : String} {tab : List (List ℝ)}
    (h : ofFixedMethod exactNumbers name = some tab) :
    tab = tab.dropLast ++ [tab.getLastD []] ∧ FixedShape tab.dropLast (tab.getLastD []) := by
  unfold ofFixedMethod at h
  split at h <;> cases h <;> exact ⟨rfl, by decide, by decide⟩

/-- Every adaptive method's tableau is stage rows followed by two weight rows. -/
theorem ofAdaptiveMethod_shape {name : String} {tab : List (List ℝ)} {fsal : Bool}
    (h : ofAdaptiveMethod exactNumbers name = some (tab, fsal)) :
    tab = tab.take (tab.length - 2) ++ [tab.getD (tab.length - 2) [], tab.getLastD []] ∧
      EmbeddedShape (tab.take (tab.length - 2)) (tab.getD (tab.length - 2) []) (tab.getLastD []) := by
  unfold ofAdaptiveMethod at h
  split at h <;> cases h <;> exact ⟨rfl, by decide, by decide, by decide⟩

/-- A stored fixed-step method's tableau, as the check stores it: stage rows and a weight
row, no entry zero. -/
theorem ofFixedMethod_checked {name : String} {tab : List (List ℝ)}
    (h : ofFixedMethod exactNumbers name = some tab) :
    ∃ rows b, checked tab = rows ++ [b] ∧ FixedShape rows b ∧
      ∀ row ∈ rows ++ [b], ∀ x ∈ row, x ≠ 0 := by
  obtain ⟨htab, hshape⟩ := ofFixedMethod_shape h
  have hchk : checked tab = checked tab.dropLast ++ [(tab.getLastD []).map unzero] := by
    conv_lhs => rw [htab]
    simp [checked_append]
  refine ⟨_, _, hchk, ?_, hchk ▸ checked_ne_zero tab⟩
  rw [checked_eq_map]
  exact hshape.map unzero

/-- A stored adaptive method's tableau, as the check stores it: stage rows and two weight
rows, no entry zero. -/
theorem ofAdaptiveMethod_checked {name : String} {tab : List (List ℝ)} {fsal : Bool}
    (h : ofAdaptiveMethod exactNumbers name = some (tab, fsal)) :
    ∃ rows bf bc, checked tab = rows ++ [bf, bc] ∧ EmbeddedShape rows bf bc ∧
      ∀ row ∈ rows ++ [bf, bc], ∀ x ∈ row, x ≠ 0 := by
  obtain ⟨htab, hshape⟩ := ofAdaptiveMethod_shape h
  have hchk : checked tab = checked (tab.take (tab.length - 2)) ++
      [(tab.getD (tab.length - 2) []).map unzero, (tab.getLastD []).map unzero] := by
    conv_lhs => rw [htab]
    simp [checked_append]
  refine ⟨_, _, _, hchk, ?_, hchk ▸ checked_ne_zero tab⟩
  rw [checked_eq_map]
  exact hshape.map unzero

/-! ## The interpreters on the stored tableaus -/

/-- A step of a stored fixed-step method is the Runge-Kutta scheme of its checked tableau. -/
theorem ofFixedMethod_step {name : String} {tab : List (List ℝ)}
    (h : ofFixedMethod exactNumbers name = some tab) :
    ∃ rows b, checked tab = rows ++ [b] ∧ FixedShape rows b ∧
      ∀ (g : ℝ → ℝ → ℝ) (y t dt : ℝ), 0 < dt →
        (fixedStep exactOps (checked tab) y t (evalAt g) dt).run [] =
          some ((y + dt * dot b (stages g t y dt [g t y] rows).1,
              dot b (stages g t y dt [g t y] rows).1),
            (t, y) :: (stages g t y dt [g t y] rows).2) := by
  obtain ⟨rows, b, hchk, hshape, hnz⟩ := ofFixedMethod_checked h
  refine ⟨rows, b, hchk, hshape, fun g y t dt hdt => ?_⟩
  rw [hchk, fixedStep_exact g hdt.ne' hshape hnz, List.nil_append]

/-- An attempt of a stored adaptive method, from a cached first derivative or not, is the
Runge-Kutta pair of its checked tableau. -/
theorem ofAdaptiveMethod_attempt {name : String} {tab : List (List ℝ)} {fsal : Bool}
    (h : ofAdaptiveMethod exactNumbers name = some (tab, fsal)) :
    ∃ rows bf bc, checked tab = rows ++ [bf, bc] ∧ EmbeddedShape rows bf bc ∧
      ∀ (g : ℝ → ℝ → ℝ) (y t dt : ℝ) (cached : Option ℝ),
        (embeddedAttempt exactOps (checked tab) y t (evalAt g) dt cached).run [] =
          some ((y + dt * dot bf (stages g t y dt [cached.getD (g t y)] rows).1,
              dot bf (stages g t y dt [cached.getD (g t y)] rows).1,
              |y + dt * dot bf (stages g t y dt [cached.getD (g t y)] rows).1 -
                (y + dt * dot bc (stages g t y dt [cached.getD (g t y)] rows).1)|,
              (stages g t y dt [cached.getD (g t y)] rows).1.getLastD (cached.getD (g t y)), y),
            firstPoints t y cached ++ (stages g t y dt [cached.getD (g t y)] rows).2) := by
  obtain ⟨rows, bf, bc, hchk, hshape, hnz⟩ := ofAdaptiveMethod_checked h
  refine ⟨rows, bf, bc, hchk, hshape, fun g y t dt cached => ?_⟩
  rw [hchk, embeddedAttempt_run, List.nil_append,
    embeddedFrom_exact g _ hshape (hnz bf (by simp)) (hnz bc (by simp))]

/-- On every stored tableau, read as stage rows followed by weight rows, the fixed-step
interpreter returns `y + dt·Σ bᵢ·kᵢ`, and an attempt of the embedded one that evaluates
its first derivative returns that formula for its more accurate row together with the
error estimate `|y_fine - y_coarse|`; on a tableau both can read, the two agree, point
for point and result for result. -/
theorem storedTableaus_runRungeKutta :
    (∀ (name : String) (tab : List (List ℝ)), ofFixedMethod exactNumbers name = some tab →
      ∃ rows b, checked tab = rows ++ [b] ∧ StageRows 1 rows ∧
        ∀ (g : ℝ → ℝ → ℝ) (y t dt : ℝ), 0 < dt →
          (fixedStep exactOps (checked tab) y t (evalAt g) dt).run' [] =
            some (y + dt * dot b (stages g t y dt [g t y] rows).1,
              dot b (stages g t y dt [g t y] rows).1)) ∧
    (∀ (name : String) (tab : List (List ℝ)) (fsal : Bool),
      ofAdaptiveMethod exactNumbers name = some (tab, fsal) →
      ∃ rows bf bc, checked tab = rows ++ [bf, bc] ∧ StageRows 1 rows ∧
        ∀ (g : ℝ → ℝ → ℝ) (y t dt : ℝ),
          (embeddedAttempt exactOps (checked tab) y t (evalAt g) dt none).run' [] =
            some (y + dt * dot bf (stages g t y dt [g t y] rows).1,
              dot bf (stages g t y dt [g t y] rows).1,
              |y + dt * dot bf (stages g t y dt [g t y] rows).1 -
                (y + dt * dot bc (stages g t y dt [g t y] rows).1)|,
              (stages g t y dt [g t y] rows).1.getLastD (g t y), y)) ∧
    (∀ (rows : List (List ℝ)) (b bc : List ℝ), EmbeddedShape rows b bc →
      ∀ (g : ℝ → ℝ → ℝ) (y t dt : ℝ), 0 < dt →
        (fixedStep exactOps (checked (rows ++ [b])) y t (evalAt g) dt).run [] =
          Prod.map (fun r => (r.1, r.2.1)) id <$>
            (embeddedAttempt exactOps (checked (rows ++ [b, bc])) y t (evalAt g) dt none).run []) := by
  refine ⟨?fixed, ?embedded, ?agree⟩
  case fixed =>
    intro name tab h
    obtain ⟨rows, b, hchk, hshape, hrun⟩ := ofFixedMethod_step h
    refine ⟨rows, b, hchk, hshape.stageRows, fun g y t dt hdt => ?_⟩
    rw [StateT.run'_eq, hrun g y t dt hdt]
    rfl
  case embedded =>
    intro name tab fsal h
    obtain ⟨rows, bf, bc, hchk, hshape, hrun⟩ := ofAdaptiveMethod_attempt h
    refine ⟨rows, bf, bc, hchk, hshape.stageRows, fun g y t dt => ?_⟩
    rw [StateT.run'_eq, hrun g y t dt none]
    rfl
  case agree =>
    intro rows b bc hshape g y t dt hdt
    have hnz := checked_ne_zero (rows ++ [b, bc])
    rw [checked_append] at hnz ⊢
    rw [checked_append]
    rw [checked_eq_map] at hnz ⊢
    exact fixedStep_eq_embeddedAttempt g hdt.ne' (hshape.map unzero) hnz []

/-- The stored classical fourth-order method and Dormand-Prince pair on `y' = y` from
`y = 1` over a step of `1/10`, and the two interpreters on the midpoint rule paired with
Euler's weights. -/
theorem storedTableaus_on_exponential :
    (∃ rows b, checked (rk4 exactNumbers) = rows ++ [b] ∧ StageRows 1 rows ∧
      (fixedStep exactOps (checked (rk4 exactNumbers)) 1 0 (evalAt fun _ y => y) (1 / 10)).run' [] =
        some (1 + 1 / 10 * dot b (stages (fun _ y => y) 0 1 (1 / 10) [1] rows).1,
          dot b (stages (fun _ y => y) 0 1 (1 / 10) [1] rows).1)) ∧
    (∃ rows bf bc, checked (rk45 exactNumbers) = rows ++ [bf, bc] ∧ StageRows 1 rows ∧
      (embeddedAttempt exactOps (checked (rk45 exactNumbers)) 1 0 (evalAt fun _ y => y) (1 / 10)
          none).run' [] =
        some (1 + 1 / 10 * dot bf (stages (fun _ y => y) 0 1 (1 / 10) [1] rows).1,
          dot bf (stages (fun _ y => y) 0 1 (1 / 10) [1] rows).1,
          |1 + 1 / 10 * dot bf (stages (fun _ y => y) 0 1 (1 / 10) [1] rows).1 -
            (1 + 1 / 10 * dot bc (stages (fun _ y => y) 0 1 (1 / 10) [1] rows).1)|,
          (stages (fun _ y => y) 0 1 (1 / 10) [1] rows).1.getLastD 1, 1)) ∧
    (fixedStep exactOps (checked ([[1 / 2, 1 / 2]] ++ [[0, 1]])) 1 0 (evalAt fun _ y => y)
        (1 / 10)).run [] =
      Prod.map (fun r => (r.1, r.2.1)) id <$>
        (embeddedAttempt exactOps (checked ([[1 / 2, 1 / 2]] ++ [[0, 1], [1, 0]])) 1 0
          (evalAt fun _ y => y) (1 / 10) none).run [] := by
  obtain ⟨hfixed, hembedded, hagree⟩ := storedTableaus_runRungeKutta
  refine ⟨?_, ?_, hagree [[1 / 2, 1 / 2]] [0, 1] [1, 0] ⟨by decide, rfl, by decide⟩ _ 1 0 (1 / 10)
    (by norm_num)⟩
  · obtain ⟨rows, b, h1, h2, h3⟩ := hfixed "RK4" _ rfl
    exact ⟨rows, b, h1, h2, h3 _ 1 0 (1 / 10) (by norm_num)⟩
  · obtain ⟨rows, bf, bc, h1, h2, h3⟩ := hembedded "RK45Adaptive" _ true rfl
    exact ⟨rows, bf, bc, h1, h2, h3 _ 1 0 (1 / 10)⟩

end Butcher
end RocketSim
