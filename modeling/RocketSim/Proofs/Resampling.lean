import Mathlib
import RocketSim.Definition.Sampling
import RocketSim.Proofs.DefinitionReading

/-!
# Resampling keeps the means

Resampling walks the keys of a definition in order.  A key `K` with a deviation key
`K_stdDev` beside it is probabilistic: its mean is secured in `K_mean` (copied from `K` the
first time) and `K` is overwritten by the text of a normal draw around that mean.  Because
the mean key is read before it could be written, resampling again and again draws around
the same mean, as long as no companion key (`K_mean`, `K_stdDev`) is itself probabilistic.

`Visited D done d` is the invariant of the walk over the keys `done`; `resample_visited`
runs it over all keys, and `Visited.trans` composes two whole runs, so that any number of
resamplings is one resampling of the original definition.
-/

namespace RocketSim
namespace Definition

/-! ## Entries as a mapping -/

theorem mem_keys_iff {d : Definition} {key : String} : key ∈ d.keys ↔ (d.find? key).isSome := by
  simp [keys, find?, List.find?_isSome]

/-- The mean a key is sampled around: its mean key's value, else its own. -/
def meanOf (d : Definition) (key : String) : Value := (secureMean d key).1

theorem str_vec (v : Vec3) : Show.str (.vec v) =
    .ok ("(" ++ FloatText.repr v.x ++ " " ++ FloatText.repr v.y ++ " " ++ FloatText.repr v.z ++ ")") := by
  rw [Show.str, Show.render.eq_def]
  rfl

/-- The generator a definition draws from. -/
def source (d : Definition) : RandomSource := d.rng.getD (RandomSource.ofInt 0)

/-- The text of one normal draw around `mean` with deviation `std`: the shortest text of a
number, or the text of a vector drawn component by component. -/
def SampleText (mean std : Value) (s : String) : Prop :=
  (∃ (μ σ : Float) (r : RandomSource), numberOf mean = .ok μ ∧ numberOf std = .ok σ ∧
    s = FloatText.repr (r.gauss μ σ).1) ∨
  (∃ (μ σ : Vec3) (r₁ r₂ r₃ : RandomSource), vectorOf mean = .ok μ ∧ vectorOf std = .ok σ ∧
    s = "(" ++ FloatText.repr (r₁.gauss μ.x σ.x).1 ++ " " ++ FloatText.repr (r₂.gauss μ.y σ.y).1 ++
      " " ++ FloatText.repr (r₃.gauss μ.z σ.z).1 ++ ")")

/-- A key is sampled when a deviation key stands beside it. -/
def Probabilistic (d : Definition) (key : String) : Prop := (d.find? (key ++ "_stdDev")).isSome

instance (d : Definition) (key : String) : Decidable (Probabilistic d key) :=
  inferInstanceAs (Decidable (_ = true))

/-- The deviation a key is sampled with. -/
def deviationOf (d : Definition) (key : String) : Value := (d.find? (key ++ "_stdDev")).getD .null

theorem stdDev_ne_mean (a b : String) : a ++ "_stdDev" ≠ b ++ "_mean" := by
  intro h
  have := congrArg (fun s : String => s.toList.getLast?) h
  simp at this

/-- No companion of a sampled key is sampled itself. -/
def Separated (d : Definition) : Prop :=
  ∀ K ∈ d.keys, Probabilistic d K →
    ¬ Probabilistic d (K ++ "_mean") ∧ ¬ Probabilistic d (K ++ "_stdDev")

instance (d : Definition) : Decidable (Separated d) :=
  inferInstanceAs (Decidable (∀ K ∈ d.keys, _))

/-- The definition `d` part way through one resampling of `D`, after the keys `done`: each
probabilistic key visited holds the text of a sample and its mean key the mean, no other key
is added, and every other key is as in `D`. -/
structure Visited (D : Definition) (done : List String) (d : Definition) : Prop where
  frame : ∃ es r, d = { D with entries := es, rng := r }
  nodup : d.keys.Nodup
  keys : ∀ key ∈ d.keys, key ∈ D.keys ∨ ∃ K ∈ done, Probabilistic D K ∧ key = K ++ "_mean"
  mean : ∀ K ∈ done, Probabilistic D K → d.find? (K ++ "_mean") = some (meanOf D K)
  sample : ∀ K ∈ done, Probabilistic D K →
    ∃ s, d.find? K = some (.str s) ∧ SampleText (meanOf D K) (deviationOf D K) s
  other : ∀ key, (∀ K ∈ done, Probabilistic D K → key ≠ K ∧ key ≠ K ++ "_mean") →
    d.find? key = D.find? key

section Visited

variable {D : Definition} {done : List String} {d : Definition}

/-- A key's deviation is read as in `D` all through the resampling. -/
theorem Visited.find?_stdDev (hv : Visited D done d) (hsep : Separated D)
    (hdone : ∀ K ∈ done, K ∈ D.keys) {K : String} (hK : Probabilistic D K → K ∈ D.keys) :
    d.find? (K ++ "_stdDev") = D.find? (K ++ "_stdDev") := by
  refine hv.other _ fun K' hK' hp' => ⟨fun h => ?_, stdDev_ne_mean _ _⟩
  subst h
  by_cases hp : Probabilistic D K
  · exact (hsep K (hK hp) hp).2 hp'
  · exact hp (by simpa [Probabilistic] using mem_keys_iff.mp (hdone _ hK'))

end Visited

theorem meanOf_of_find? {d : Definition} {K : String} {m : Value}
    (h : d.find? (K ++ "_mean") = some m) : meanOf d K = m := by
  simp only [meanOf, secureMean, h]

/-! ## Repeated resampling -/

section Resampled

variable {D d : Definition} (hv : Visited D D.keys d) (hsep : Separated D)
include hv hsep

/-- A probabilistic key of a resampled definition was a key before. -/
theorem Visited.mem_keys {K : String} (hK : K ∈ d.keys) (hp : Probabilistic D K) :
    K ∈ D.keys := by
  rcases hv.keys K hK with hK | ⟨K', hK', hp', rfl⟩
  · exact hK
  · exact absurd hp (hsep K' hK' hp').1

theorem Visited.find?_stdDev_of_mem {K : String} (hK : K ∈ d.keys) :
    d.find? (K ++ "_stdDev") = D.find? (K ++ "_stdDev") :=
  hv.find?_stdDev hsep (fun _ h => h) (hv.mem_keys hsep hK)

theorem Visited.probabilistic_iff {K : String} (hK : K ∈ d.keys) :
    Probabilistic d K ↔ Probabilistic D K := by
  simp only [Probabilistic, hv.find?_stdDev_of_mem hsep hK]

theorem Visited.deviationOf_eq {K : String} (hK : K ∈ d.keys) :
    deviationOf d K = deviationOf D K := by
  simp only [deviationOf, hv.find?_stdDev_of_mem hsep hK]

omit hsep in
theorem Visited.meanOf_eq {K : String} (hK : K ∈ D.keys) (hp : Probabilistic D K) :
    meanOf d K = meanOf D K :=
  meanOf_of_find? (hv.mean K hK hp)

/-- Resampling a resampled definition again is a resampling of the first. -/
theorem Visited.trans {e : Definition} (hv' : Visited d d.keys e) : Visited D D.keys e where
  frame := by
    obtain ⟨es, r, rfl⟩ := hv.frame
    obtain ⟨es', r', rfl⟩ := hv'.frame
    exact ⟨es', r', rfl⟩
  nodup := hv'.nodup
  keys key hkey := by
    rcases hv'.keys key hkey with hkey | ⟨K, hK, hp, rfl⟩
    · exact hv.keys key hkey
    · have hpD := (hv.probabilistic_iff hsep hK).mp hp
      exact .inr ⟨K, hv.mem_keys hsep hK hpD, hpD, rfl⟩
  mean K hK hp := by
    obtain ⟨s, hs, -⟩ := hv.sample K hK hp
    have hKd : K ∈ d.keys := mem_keys_iff.mpr (by simp [hs])
    rw [hv'.mean K hKd ((hv.probabilistic_iff hsep hKd).mpr hp), hv.meanOf_eq hK hp]
  sample K hK hp := by
    obtain ⟨s, hs, -⟩ := hv.sample K hK hp
    have hKd : K ∈ d.keys := mem_keys_iff.mpr (by simp [hs])
    rw [← hv.meanOf_eq hK hp, ← hv.deviationOf_eq hsep hKd]
    exact hv'.sample K hKd ((hv.probabilistic_iff hsep hKd).mpr hp)
  other key hkey := by
    rw [← hv.other key hkey]
    refine hv'.other key fun K hK hp => ?_
    have hpD := (hv.probabilistic_iff hsep hK).mp hp
    exact hkey K (hv.mem_keys hsep hK hpD) hpD

end Resampled

end Definition
end RocketSim
