import Mathlib
import RocketSim.Proofs.QuaternionRotations
import RocketSim.Motion.Mechanics

/-!
# Combining mass properties in exact arithmetic

`Inertia.combine` and `Inertia.combineAbout` are written over any arithmetic of masses and
vectors (`Inertia.Ops`).  Here they run over the reals (`MassProps.exactOps`), where an inertia
is a `MassProps`: moments of inertia about the three axes through a centroid, a centre of
gravity and a mass.  Equality of inertias is equality of all four fields, as the simulator's
membership test compares them.

The parts a combination sums are the given list with the receiving inertia appended, unless
the list already holds an inertia equal to it (`partsOf`).  Over those parts the combination
is the reference one (`combination`): the total mass, the mass-weighted mean of the centres of
gravity (the origin when the mass is not positive), and the parts' moments moved to that centre
by the parallel-axis theorem (`momentsAbout`).

**Results.**
* `combine_sumsParts`: combining about the centre of gravity gives the reference combination of
  the parts; the receiving inertia's mass counts once, or not at all when the list already
  holds an inertia equal to it.
* `momentsAbout_parallelAxis`: the moments about any point are the moments about the centre of
  gravity with the parallel-axis terms of the total mass at the offset added, because the mass
  -weighted offsets from the centre of gravity sum to zero.
* `combineAbout_parallelAxis`: combining about a point has the mass and centre of gravity of
  the combination about the centre of gravity, and its moments are related by the
  parallel-axis theorem.
-/

namespace RocketSim

/-! ## Sums of real vectors -/

namespace Vec3

/-- The sum over a list of a vector quantity, component by component. -/
def sumOf {β : Type} (L : List β) (f : β → Vec3 ℝ) : Vec3 ℝ :=
  ⟨(L.map fun i => (f i).x).sum, (L.map fun i => (f i).y).sum, (L.map fun i => (f i).z).sum⟩

@[simp] theorem sumOf_nil {β : Type} (f : β → Vec3 ℝ) : sumOf [] f = ⟨0, 0, 0⟩ := rfl

@[simp] theorem sumOf_cons {β : Type} (i : β) (L : List β) (f : β → Vec3 ℝ) :
    sumOf (i :: L) f = (f i).add (sumOf L f) := rfl

@[simp] theorem add_origin (v : Vec3 ℝ) : v.add ⟨0, 0, 0⟩ = v := by
  simp [add]

@[simp] theorem origin_add (v : Vec3 ℝ) : (⟨0, 0, 0⟩ : Vec3 ℝ).add v = v := by
  simp [add]

theorem add_add (a b c : Vec3 ℝ) : (a.add b).add c = a.add (b.add c) := by
  simp only [add, mk.injEq]
  exact ⟨add_assoc _ _ _, add_assoc _ _ _, add_assoc _ _ _⟩

/-- The parallel-axis terms add onto the moments they are added to. -/
theorem add_parallelAxis (a b : Vec3 ℝ) (m : ℝ) (d : Vec3 ℝ) :
    (a.add b).parallelAxis m d = a.add (b.parallelAxis m d) := by
  simp only [add, parallelAxis, mk.injEq]
  exact ⟨add_assoc _ _ _, add_assoc _ _ _, add_assoc _ _ _⟩

end Vec3

/-! ## Exact mass properties -/

/-- Mass properties over the reals. -/
structure MassProps where
  /-- Moments of inertia about the three axes through the centroid. -/
  moi : Vec3 ℝ
  /-- The centre of gravity. -/
  cg : Vec3 ℝ
  /-- The mass. -/
  mass : ℝ
  /-- The point the moments are taken about. -/
  centroid : Vec3 ℝ

namespace MassProps

/-- Equality of real mass properties, decided classically. -/
noncomputable instance : DecidableEq MassProps := Classical.decEq _

open Classical in
/-- Exact arithmetic of mass properties.  An inertia over the reals has no text, so the fault
of one not taken about its centre of gravity carries the message alone. -/
noncomputable def exactOps : Inertia.Ops Outcome MassProps (Vec3 ℝ) ℝ where
  mem i L := pure (decide (i ∈ L))
  moi i := pure i.moi
  cg i := pure i.cg
  mass i := pure i.mass
  centroid i := pure i.centroid
  samePoint a b := pure (decide (a = b))
  describe _ := pure ""
  zeroMass := 0
  zeroVec := ⟨0, 0, 0⟩
  addMass a b := pure (a + b)
  addVec a b := pure (a.add b)
  scale v s := pure (v.scale s)
  divide v s := if s = 0 then throw Fault.zeroDivision else pure (v.scale (1 / s))
  sub a b := pure (a.sub b)
  positive s := pure (decide (0 < s))
  shift moi s d := pure (moi.parallelAxis s d)
  make := mk

/-! ### The reference combination -/

/-- The parts a combination of `A` with the list `L` sums: `A` joins unless `L` holds it. -/
noncomputable def partsOf (A : MassProps) (L : List MassProps) : List MassProps :=
  if A ∈ L then L else L ++ [A]

/-- The total mass of the parts. -/
noncomputable def totalMass (P : List MassProps) : ℝ := (P.map (·.mass)).sum

/-- The parts' centres of gravity weighted by their masses, summed. -/
noncomputable def firstMoment (P : List MassProps) : Vec3 ℝ :=
  Vec3.sumOf P fun i => i.cg.scale i.mass

/-- The parts' moments moved to the point `p` by the parallel-axis theorem, summed. -/
noncomputable def momentsAbout (p : Vec3 ℝ) (P : List MassProps) : Vec3 ℝ :=
  Vec3.sumOf P fun i => i.moi.parallelAxis i.mass (p.sub i.centroid)

/-- The combined centre of gravity: the first moment over the total mass, or the origin when
the total mass is not positive. -/
noncomputable def centre (P : List MassProps) : Vec3 ℝ :=
  if 0 < totalMass P then (firstMoment P).scale (1 / totalMass P) else ⟨0, 0, 0⟩

/-- The parts combined about their combined centre of gravity. -/
noncomputable def combination (P : List MassProps) : MassProps :=
  ⟨momentsAbout (centre P) P, centre P, totalMass P, centre P⟩

@[simp] theorem totalMass_nil : totalMass [] = 0 := rfl

@[simp] theorem totalMass_cons (i : MassProps) (P : List MassProps) :
    totalMass (i :: P) = i.mass + totalMass P := by
  simp [totalMass]

theorem mem_partsOf {A i : MassProps} {L : List MassProps} (h : i ∈ partsOf A L) :
    i ∈ A :: L := by
  unfold partsOf at h
  split at h
  · exact List.mem_cons_of_mem A h
  · rcases List.mem_append.1 h with h | h
    · exact List.mem_cons_of_mem A h
    · rw [List.mem_singleton.1 h]
      exact List.mem_cons_self

/-- The receiving inertia's mass counts once, unless the list already holds it. -/
theorem totalMass_partsOf (A : MassProps) (L : List MassProps) :
    totalMass (partsOf A L) = (if A ∈ L then 0 else A.mass) + totalMass L := by
  unfold partsOf
  split
  · rw [zero_add]
  · simp [totalMass, add_comm]

/-! ### Each step, exactly -/

section Steps

variable (p : Vec3 ℝ)

theorem checkAboutCG_exact {i : MassProps} (h : i.centroid = i.cg) :
    Inertia.checkAboutCG exactOps i = pure () := by
  simp [Inertia.checkAboutCG, exactOps, h]

theorem forM_checkAboutCG {P : List MassProps} (h : ∀ i ∈ P, i.centroid = i.cg) :
    P.forM (Inertia.checkAboutCG exactOps) = pure () := by
  induction P with
  | nil => rfl
  | cons i P ih =>
    simp only [List.forM]
    rw [checkAboutCG_exact (h i List.mem_cons_self), pure_bind,
      ih fun j hj => h j (List.mem_cons_of_mem i hj)]

/-- With every part about its centre of gravity, the parts are `partsOf`. -/
theorem parts_exact {A : MassProps} {L : List MassProps}
    (h : ∀ i ∈ A :: L, i.centroid = i.cg) :
    Inertia.parts exactOps A L = pure (partsOf A L) := by
  have hmem : exactOps.mem A L = pure (decide (A ∈ L)) := rfl
  have hcheck := forM_checkAboutCG fun i hi => h i (mem_partsOf hi)
  rw [Inertia.parts, hmem, pure_bind]
  unfold partsOf at hcheck ⊢
  by_cases hA : A ∈ L
  · simp only [hA, decide_true, if_true, pure_bind] at hcheck ⊢
    rw [hcheck, pure_bind]
  · simp only [hA, decide_false, Bool.false_eq_true, if_false, pure_bind] at hcheck ⊢
    rw [hcheck, pure_bind]

theorem massStep_exact (M : ℝ) (W : Vec3 ℝ) (i : MassProps) :
    Inertia.massStep exactOps (M, W) i = pure (M + i.mass, W.add (i.cg.scale i.mass)) := rfl

theorem momentStep_exact (moi : Vec3 ℝ) (i : MassProps) :
    Inertia.momentStep exactOps p moi i =
      pure ((moi.add i.moi).parallelAxis i.mass (p.sub i.centroid)) := rfl

/-- Summing masses and weighted centres of gravity over the parts. -/
theorem foldlM_massStep (P : List MassProps) (M : ℝ) (W : Vec3 ℝ) :
    P.foldlM (Inertia.massStep exactOps) (M, W) =
      pure (M + totalMass P, W.add (firstMoment P)) := by
  induction P generalizing M W with
  | nil => simp [firstMoment]
  | cons i P ih =>
    rw [List.foldlM_cons, massStep_exact, pure_bind, ih]
    simp [firstMoment, add_assoc, Vec3.add_add]

/-- Summing the parts' moments moved to `p`. -/
theorem foldlM_momentStep (P : List MassProps) (moi : Vec3 ℝ) :
    P.foldlM (Inertia.momentStep exactOps p) moi = pure (moi.add (momentsAbout p P)) := by
  induction P generalizing moi with
  | nil => simp [momentsAbout]
  | cons i P ih =>
    rw [List.foldlM_cons, momentStep_exact, pure_bind, ih]
    simp [momentsAbout, Vec3.add_parallelAxis, Vec3.add_add]

/-- The single pass about a point sums masses, weighted centres of gravity and moments. -/
theorem foldlM_aboutStep (P : List MassProps) (M : ℝ) (W moi : Vec3 ℝ) :
    P.foldlM (fun (acc : ℝ × Vec3 ℝ × Vec3 ℝ) i => do
        let (mass, weighted) ← Inertia.massStep exactOps (acc.1, acc.2.1) i
        pure (mass, weighted, ← Inertia.momentStep exactOps p acc.2.2 i)) (M, W, moi) =
      pure (M + totalMass P, W.add (firstMoment P), moi.add (momentsAbout p P)) := by
  -- every step is pure, so the pass is a left fold
  simp only [massStep_exact, momentStep_exact, pure_bind, List.foldlM_pure]
  congr 1
  induction P generalizing M W moi with
  | nil => simp [firstMoment, momentsAbout]
  | cons i P ih =>
    rw [List.foldl_cons, ih]
    simp [firstMoment, momentsAbout, add_assoc, Vec3.add_add, Vec3.add_parallelAxis]

end Steps

/-! ### The combinations -/

@[simp] theorem exactOps_zeroMass : exactOps.zeroMass = 0 := rfl
@[simp] theorem exactOps_zeroVec : exactOps.zeroVec = ⟨0, 0, 0⟩ := rfl
@[simp] theorem exactOps_make : exactOps.make = mk := rfl
@[simp] theorem exactOps_positive (M : ℝ) : exactOps.positive M = pure (decide (0 < M)) := rfl

theorem exactOps_divide {M : ℝ} (W : Vec3 ℝ) (hM : M ≠ 0) :
    exactOps.divide W M = pure (W.scale (1 / M)) := if_neg hM

/-- Combining about the centre of gravity gives the reference combination of the parts. -/
theorem combine_exact {A : MassProps} {L : List MassProps}
    (h : ∀ i ∈ A :: L, i.centroid = i.cg) :
    Inertia.combine exactOps A L = pure (combination (partsOf A L), partsOf A L) := by
  simp only [Inertia.combine, parts_exact h, pure_bind, foldlM_massStep, exactOps_zeroMass,
    exactOps_zeroVec, exactOps_positive, zero_add, Vec3.origin_add]
  -- the centre of gravity is the weighted mean only when the total mass is positive
  by_cases hM : 0 < totalMass (partsOf A L)
  · simp only [hM, decide_true, if_true, exactOps_divide _ hM.ne', pure_bind, foldlM_momentStep]
    simp [combination, centre, hM]
  · simp only [hM, decide_false, Bool.false_eq_true, if_false, pure_bind, foldlM_momentStep]
    simp [combination, centre, hM]

/-- Combining about a point `p` sums the moments moved to `p`, and divides the first moment by
the total mass. -/
theorem combineAbout_exact {A : MassProps} {L : List MassProps} (p : Vec3 ℝ)
    (h : ∀ i ∈ A :: L, i.centroid = i.cg) (hM : totalMass (partsOf A L) ≠ 0) :
    Inertia.combineAbout exactOps A L p =
      pure (⟨momentsAbout p (partsOf A L),
        (firstMoment (partsOf A L)).scale (1 / totalMass (partsOf A L)),
        totalMass (partsOf A L), p⟩, partsOf A L) := by
  simp only [Inertia.combineAbout, parts_exact h, pure_bind, foldlM_aboutStep, exactOps_zeroMass,
    exactOps_zeroVec, zero_add, Vec3.origin_add, exactOps_divide _ hM, exactOps_make]

/-! ### The parallel-axis theorem -/

/-- The parts' mass-weighted squared offsets from `a` in the coordinate `f`. -/
noncomputable def spread (P : List MassProps) (f : MassProps → ℝ) (a : ℝ) : ℝ :=
  (P.map fun i => i.mass * ((a - f i) * (a - f i))).sum

/-- The offsets from `a` are those from `b`, with the cross term and the squared shift. -/
theorem spread_eq_add (P : List MassProps) (f : MassProps → ℝ) (a b : ℝ) :
    spread P f a = spread P f b +
      (a - b) * (2 * (b * totalMass P - (P.map fun i => i.mass * f i).sum) +
        (a - b) * totalMass P) := by
  induction P with
  | nil => simp [spread]
  | cons i P ih =>
    simp only [spread, List.map_cons, List.sum_cons, totalMass_cons] at ih ⊢
    rw [ih]
    ring

/-- From the weighted mean `b` of the coordinate, the cross term vanishes. -/
theorem spread_of_mean (P : List MassProps) (f : MassProps → ℝ) (a : ℝ) {b : ℝ}
    (hb : b * totalMass P = (P.map fun i => i.mass * f i).sum) :
    spread P f a = spread P f b + totalMass P * ((a - b) * (a - b)) := by
  rw [spread_eq_add, hb, sub_self, mul_zero, zero_add]
  ring

/-- Each axis's summed moment about `p` is the parts' own moments about that axis plus the
spreads in the two other coordinates. -/
theorem momentsAbout_eq (p : Vec3 ℝ) (P : List MassProps) :
    momentsAbout p P =
      ⟨(P.map (·.moi.x)).sum + spread P (·.centroid.y) p.y + spread P (·.centroid.z) p.z,
       (P.map (·.moi.y)).sum + spread P (·.centroid.x) p.x + spread P (·.centroid.z) p.z,
       (P.map (·.moi.z)).sum + spread P (·.centroid.x) p.x + spread P (·.centroid.y) p.y⟩ := by
  induction P with
  | nil => simp [momentsAbout, spread]
  | cons i P ih =>
    simp only [momentsAbout, spread, Vec3.sumOf_cons, List.map_cons, List.sum_cons] at ih ⊢
    rw [ih]
    simp only [Vec3.add, Vec3.parallelAxis, Vec3.sub, Vec3.neg, Vec3.mk.injEq, ← sub_eq_add_neg]
    refine ⟨?_, ?_, ?_⟩ <;> ring

section Coordinate

/-! A coordinate is a linear function of vectors, such as `Vec3.x`. -/

variable (f : Vec3 ℝ → ℝ) (hf : ∀ v s, f (v.scale s) = f v * s)
  (hadd : ∀ v w, f (v.add w) = f v + f w) (h0 : f ⟨0, 0, 0⟩ = 0)
include hf hadd h0

/-- A coordinate of the first moment is the mass-weighted sum of the parts' coordinates, when
the parts are about their centres of gravity. -/
theorem coord_firstMoment (P : List MassProps) (hP : ∀ i ∈ P, i.centroid = i.cg) :
    f (firstMoment P) = (P.map fun i => i.mass * f i.centroid).sum := by
  induction P with
  | nil => simp [firstMoment, h0]
  | cons i P ih =>
    simp only [firstMoment, Vec3.sumOf_cons, List.map_cons, List.sum_cons] at ih ⊢
    rw [hadd, hf, ih fun j hj => hP j (List.mem_cons_of_mem i hj), hP i List.mem_cons_self,
      mul_comm]

/-- Each coordinate of the combined centre of gravity is the mass-weighted mean of the parts'. -/
theorem coord_centre_mul (P : List MassProps) (hP : ∀ i ∈ P, i.centroid = i.cg)
    (hM : totalMass P ≠ 0) :
    f ((firstMoment P).scale (1 / totalMass P)) * totalMass P =
      (P.map fun i => i.mass * f i.centroid).sum := by
  rw [hf, coord_firstMoment f hf hadd h0 P hP, mul_assoc, one_div_mul_cancel hM, mul_one]

end Coordinate

/-- **Parallel-axis theorem.**  The parts' summed moments about any point `p` are those about
their combined centre of gravity `G`, with the parallel-axis terms of the total mass at the
offset `p - G` added: the mass-weighted offsets of the parts from `G` sum to zero. -/
theorem momentsAbout_parallelAxis (P : List MassProps) (hP : ∀ i ∈ P, i.centroid = i.cg)
    (hM : totalMass P ≠ 0) (p : Vec3 ℝ) :
    momentsAbout p P =
      (momentsAbout ((firstMoment P).scale (1 / totalMass P)) P).parallelAxis (totalMass P)
        (p.sub ((firstMoment P).scale (1 / totalMass P))) := by
  set G := (firstMoment P).scale (1 / totalMass P)
  have hx := spread_of_mean P (·.centroid.x) p.x
    (coord_centre_mul Vec3.x (fun _ _ => rfl) (fun _ _ => rfl) rfl P hP hM)
  have hy := spread_of_mean P (·.centroid.y) p.y
    (coord_centre_mul Vec3.y (fun _ _ => rfl) (fun _ _ => rfl) rfl P hP hM)
  have hz := spread_of_mean P (·.centroid.z) p.z
    (coord_centre_mul Vec3.z (fun _ _ => rfl) (fun _ _ => rfl) rfl P hP hM)
  rw [momentsAbout_eq, momentsAbout_eq, hx, hy, hz]
  simp only [Vec3.parallelAxis, Vec3.sub, Vec3.add, Vec3.neg, Vec3.mk.injEq, ← sub_eq_add_neg]
  refine ⟨?_, ?_, ?_⟩ <;> ring

/-! ### What the combinations return -/

/-- **Combining sums the parts once each.**  With every inertia about its centre of gravity,
combining `A` with `L` returns the reference combination of `partsOf A L`, the list with `A`
appended unless it already holds an inertia equal to `A`, and leaves that list behind.  So the
combined mass counts `A` once, or not at all when `L` holds an inertia equal to `A`. -/
theorem combine_sumsParts (A : MassProps) (L : List MassProps)
    (h : ∀ i ∈ A :: L, i.centroid = i.cg) :
    Inertia.combine exactOps A L = pure (combination (partsOf A L), partsOf A L) ∧
    (combination (partsOf A L)).mass = (if A ∈ L then 0 else A.mass) + totalMass L :=
  ⟨combine_exact h, totalMass_partsOf A L⟩

/-- A unit point mass at the origin, added to itself: the sum has the mass of one. -/
theorem combine_sumsParts_withSelf :
    (∀ i ∈ [(⟨⟨1, 1, 1⟩, ⟨0, 0, 0⟩, 1, ⟨0, 0, 0⟩⟩ : MassProps),
        ⟨⟨1, 1, 1⟩, ⟨0, 0, 0⟩, 1, ⟨0, 0, 0⟩⟩], i.centroid = i.cg) ∧
    Inertia.combine exactOps ⟨⟨1, 1, 1⟩, ⟨0, 0, 0⟩, 1, ⟨0, 0, 0⟩⟩
        [⟨⟨1, 1, 1⟩, ⟨0, 0, 0⟩, 1, ⟨0, 0, 0⟩⟩] =
      pure (combination (partsOf ⟨⟨1, 1, 1⟩, ⟨0, 0, 0⟩, 1, ⟨0, 0, 0⟩⟩
        [⟨⟨1, 1, 1⟩, ⟨0, 0, 0⟩, 1, ⟨0, 0, 0⟩⟩]),
        partsOf ⟨⟨1, 1, 1⟩, ⟨0, 0, 0⟩, 1, ⟨0, 0, 0⟩⟩ [⟨⟨1, 1, 1⟩, ⟨0, 0, 0⟩, 1, ⟨0, 0, 0⟩⟩]) ∧
    (combination (partsOf ⟨⟨1, 1, 1⟩, ⟨0, 0, 0⟩, 1, ⟨0, 0, 0⟩⟩
        [⟨⟨1, 1, 1⟩, ⟨0, 0, 0⟩, 1, ⟨0, 0, 0⟩⟩])).mass = 1 := by
  have h : ∀ i ∈ [(⟨⟨1, 1, 1⟩, ⟨0, 0, 0⟩, 1, ⟨0, 0, 0⟩⟩ : MassProps),
      ⟨⟨1, 1, 1⟩, ⟨0, 0, 0⟩, 1, ⟨0, 0, 0⟩⟩], i.centroid = i.cg := by simp
  obtain ⟨hc, hm⟩ := combine_sumsParts _ _ h
  exact ⟨h, hc, by simp [hm]⟩

/-- **The two combinations agree by the parallel-axis theorem.**  With every inertia about its
centre of gravity and a positive total mass, combining about the centre of gravity gives the
reference combination `R`, and combining about any point `p` gives the mass and centre of
gravity of `R`, with its moments taken about `p`: those of `R` with the parallel-axis terms of
the total mass at the offset of `p` added, and so `R`'s own about the centre of gravity itself.
Both leave the same list of parts. -/
theorem combineAbout_parallelAxis (A : MassProps) (L : List MassProps) (p : Vec3 ℝ)
    (h : ∀ i ∈ A :: L, i.centroid = i.cg) (hM : 0 < totalMass (partsOf A L)) :
    ∃ R S : MassProps, R = combination (partsOf A L) ∧
      Inertia.combine exactOps A L = pure (R, partsOf A L) ∧
      Inertia.combineAbout exactOps A L p = pure (S, partsOf A L) ∧
      S.mass = R.mass ∧ S.cg = R.cg ∧ S.centroid = p ∧
      S.moi = R.moi.parallelAxis R.mass (p.sub R.cg) ∧
      (p = R.cg → S.moi = R.moi) := by
  have hP : ∀ i ∈ partsOf A L, i.centroid = i.cg := fun i hi => h i (mem_partsOf hi)
  have hcg : (combination (partsOf A L)).cg =
      (firstMoment (partsOf A L)).scale (1 / totalMass (partsOf A L)) := by
    simp only [combination, centre, if_pos hM]
  have hmoi := momentsAbout_parallelAxis _ hP hM.ne' p
  refine ⟨_, _, rfl, combine_exact h, combineAbout_exact p h hM.ne', rfl, hcg.symm, rfl, ?_, ?_⟩
  · rw [hcg, hmoi]
    simp only [combination, centre, if_pos hM]
  · -- about the centre of gravity the offset is zero, and so are the parallel-axis terms
    rintro rfl
    rw [hmoi, hcg]
    simp [combination, centre, hM, Vec3.parallelAxis, Vec3.sub, Vec3.add, Vec3.neg]

/-- Two unit point masses one unit either side of the origin on the first axis, combined about
a point off the axis. -/
theorem combineAbout_parallelAxis_dumbbell :
    (∀ i ∈ [(⟨⟨0, 0, 0⟩, ⟨1, 0, 0⟩, 1, ⟨1, 0, 0⟩⟩ : MassProps),
        ⟨⟨0, 0, 0⟩, ⟨-1, 0, 0⟩, 1, ⟨-1, 0, 0⟩⟩], i.centroid = i.cg) ∧
    0 < totalMass (partsOf ⟨⟨0, 0, 0⟩, ⟨1, 0, 0⟩, 1, ⟨1, 0, 0⟩⟩
      [⟨⟨0, 0, 0⟩, ⟨-1, 0, 0⟩, 1, ⟨-1, 0, 0⟩⟩]) ∧
    ∃ R S : MassProps, R = combination (partsOf ⟨⟨0, 0, 0⟩, ⟨1, 0, 0⟩, 1, ⟨1, 0, 0⟩⟩
        [⟨⟨0, 0, 0⟩, ⟨-1, 0, 0⟩, 1, ⟨-1, 0, 0⟩⟩]) ∧
      Inertia.combine exactOps ⟨⟨0, 0, 0⟩, ⟨1, 0, 0⟩, 1, ⟨1, 0, 0⟩⟩
          [⟨⟨0, 0, 0⟩, ⟨-1, 0, 0⟩, 1, ⟨-1, 0, 0⟩⟩] =
        pure (R, partsOf ⟨⟨0, 0, 0⟩, ⟨1, 0, 0⟩, 1, ⟨1, 0, 0⟩⟩
          [⟨⟨0, 0, 0⟩, ⟨-1, 0, 0⟩, 1, ⟨-1, 0, 0⟩⟩]) ∧
      Inertia.combineAbout exactOps ⟨⟨0, 0, 0⟩, ⟨1, 0, 0⟩, 1, ⟨1, 0, 0⟩⟩
          [⟨⟨0, 0, 0⟩, ⟨-1, 0, 0⟩, 1, ⟨-1, 0, 0⟩⟩] ⟨0, 2, 0⟩ =
        pure (S, partsOf ⟨⟨0, 0, 0⟩, ⟨1, 0, 0⟩, 1, ⟨1, 0, 0⟩⟩
          [⟨⟨0, 0, 0⟩, ⟨-1, 0, 0⟩, 1, ⟨-1, 0, 0⟩⟩]) ∧
      S.mass = R.mass ∧ S.cg = R.cg ∧ S.centroid = ⟨0, 2, 0⟩ ∧
      S.moi = R.moi.parallelAxis R.mass ((⟨0, 2, 0⟩ : Vec3 ℝ).sub R.cg) ∧
      ((⟨0, 2, 0⟩ : Vec3 ℝ) = R.cg → S.moi = R.moi) := by
  have h : ∀ i ∈ [(⟨⟨0, 0, 0⟩, ⟨1, 0, 0⟩, 1, ⟨1, 0, 0⟩⟩ : MassProps),
      ⟨⟨0, 0, 0⟩, ⟨-1, 0, 0⟩, 1, ⟨-1, 0, 0⟩⟩], i.centroid = i.cg := by simp
  have hM : 0 < totalMass (partsOf ⟨⟨0, 0, 0⟩, ⟨1, 0, 0⟩, 1, ⟨1, 0, 0⟩⟩
      [⟨⟨0, 0, 0⟩, ⟨-1, 0, 0⟩, 1, ⟨-1, 0, 0⟩⟩]) := by
    rw [totalMass_partsOf]
    norm_num
  exact ⟨h, hM, combineAbout_parallelAxis _ _ _ h hM⟩

end MassProps

end RocketSim
