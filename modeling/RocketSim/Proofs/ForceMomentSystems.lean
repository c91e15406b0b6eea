import Mathlib
import RocketSim.Proofs.QuaternionRotations
import RocketSim.Motion.Mechanics

/-!
# Force-moment systems in exact arithmetic

`ForceMoment.moveTo`, `ForceMoment.add` and `ForceMoment.neg` are written over any arithmetic of
vectors (`ForceMoment.Ops`).  Here they run over real vectors (`Wrench.exactOps`), where a system
is a `Wrench`: a force, the point it is applied at, and a moment.  A real vector is read as a
function on `Fin 3` (`Vec3.toFin`), where the cross product is Mathlib's `⨯₃`.  Moving a system
from `l` to `p` adds `(l - p) ⨯₃ f` to its moment, so every law below comes from the
bilinearity of `⨯₃`.

A stage sums the forces on its components by starting from no force at the rocket's centre of
gravity (`zeroAt`) and adding each component's system in turn.

**Results.**
* `moveTo_moveTo`: moving a system to `p` and then to `q` is moving it to `q`.
* `moveTo_add`: moving a sum moves each summand, in force, location and moment.
* `add_neg_self_force`, `add_neg_self_moment`: a system plus its opposite has neither force nor
  moment.
* `moveTo_total`: a total summed from rest at any point and moved to `q` is the `resultant` at
  `q`, the sum of the forces and of the moments about `q`; `resultant_perm`: it does not depend
  on the order of the parts.
* `forceMoment_laws`: all of these together.
-/

open Matrix

namespace RocketSim

/-! ## Real vectors as functions on `Fin 3` -/

namespace Vec3

/-- A real vector as a function on `Fin 3`. -/
def toFin (v : Vec3 ℝ) : Fin 3 → ℝ := ![v.x, v.y, v.z]

/-- The real vector of a function on `Fin 3`. -/
def ofFin (u : Fin 3 → ℝ) : Vec3 ℝ := ⟨u 0, u 1, u 2⟩

@[simp] theorem ofFin_toFin (v : Vec3 ℝ) : ofFin v.toFin = v := rfl

@[simp] theorem toFin_ofFin (u : Fin 3 → ℝ) : (ofFin u).toFin = u := by
  ext i
  fin_cases i <;> rfl

theorem toFin_injective : Function.Injective toFin := fun a b h => by
  rw [← ofFin_toFin a, h, ofFin_toFin]

@[simp] theorem toFin_add (a b : Vec3 ℝ) : (a.add b).toFin = a.toFin + b.toFin := by
  ext i
  fin_cases i <;> rfl

@[simp] theorem toFin_neg (a : Vec3 ℝ) : a.neg.toFin = -a.toFin := by
  ext i
  fin_cases i <;> rfl

@[simp] theorem toFin_sub (a b : Vec3 ℝ) : (a.sub b).toFin = a.toFin - b.toFin := by
  rw [sub, toFin_add, toFin_neg, sub_eq_add_neg]

@[simp] theorem toFin_cross (a b : Vec3 ℝ) : (a.cross b).toFin = a.toFin ⨯₃ b.toFin := by
  ext i
  fin_cases i <;> simp [toFin, cross, cross_apply]

@[simp] theorem toFin_origin : (⟨0, 0, 0⟩ : Vec3 ℝ).toFin = 0 := by
  ext i
  fin_cases i <;> rfl

theorem eq_origin_iff (v : Vec3 ℝ) : v = ⟨0, 0, 0⟩ ↔ v.toFin = 0 := by
  rw [← toFin_origin, toFin_injective.eq_iff]

end Vec3

/-! ## Exact force-moment systems -/

/-- A force-moment system over the reals: a force, the point it is applied at, and a moment. -/
@[ext]
structure Wrench where
  /-- The force. -/
  force : Vec3 ℝ
  /-- The point the force is applied at. -/
  location : Vec3 ℝ
  /-- The moment. -/
  moment : Vec3 ℝ

namespace Wrench

/-- Exact arithmetic of force-moment systems. -/
noncomputable def exactOps : ForceMoment.Ops Id Wrench (Vec3 ℝ) where
  parts F := pure (F.force, F.location, F.moment)
  make := mk
  add a b := pure (a.add b)
  sub a b := pure (a.sub b)
  neg a := pure a.neg
  cross a b := pure (a.cross b)

/-- A system moved to `p`. -/
noncomputable def moveTo (F : Wrench) (p : Vec3 ℝ) : Wrench :=
  Id.run (ForceMoment.moveTo exactOps F p)

/-- The sum of two systems. -/
noncomputable def add (F G : Wrench) : Wrench := Id.run (ForceMoment.add exactOps F G)

/-- The opposite system. -/
noncomputable def neg (F : Wrench) : Wrench := Id.run (ForceMoment.neg exactOps F)

/-- No force and no moment, at the point `c`: where a stage starts summing. -/
def zeroAt (c : Vec3 ℝ) : Wrench := ⟨⟨0, 0, 0⟩, c, ⟨0, 0, 0⟩⟩

section Parts

variable (F G : Wrench) (p : Vec3 ℝ)

@[simp] theorem moveTo_force : (F.moveTo p).force = F.force := rfl
@[simp] theorem moveTo_location : (F.moveTo p).location = p := rfl
@[simp] theorem moveTo_moment :
    (F.moveTo p).moment = F.moment.add ((F.location.sub p).cross F.force) := rfl

@[simp] theorem add_force : (F.add G).force = F.force.add G.force := rfl
@[simp] theorem add_location : (F.add G).location = F.location := rfl
@[simp] theorem add_moment : (F.add G).moment = F.moment.add (G.moveTo F.location).moment := rfl

@[simp] theorem neg_force : F.neg.force = F.force.neg := rfl
@[simp] theorem neg_location : F.neg.location = F.location := rfl
@[simp] theorem neg_moment : F.neg.moment = F.moment.neg := rfl

end Parts

/-- Two systems are equal when their forces, locations and moments are, read on `Fin 3`. -/
theorem ext_toFin {F G : Wrench} (hf : F.force.toFin = G.force.toFin)
    (hl : F.location = G.location) (hm : F.moment.toFin = G.moment.toFin) : F = G :=
  Wrench.ext (Vec3.toFin_injective hf) hl (Vec3.toFin_injective hm)

/-! ## Moving and adding -/

/-- Moving a system twice is moving it once: the arms `l - p` and `p - q` add up to `l - q`. -/
theorem moveTo_moveTo (F : Wrench) (p q : Vec3 ℝ) : (F.moveTo p).moveTo q = F.moveTo q := by
  refine ext_toFin rfl rfl ?_
  simp only [moveTo_moment, moveTo_force, moveTo_location, Vec3.toFin_add, Vec3.toFin_sub,
    Vec3.toFin_cross]
  rw [add_assoc, ← LinearMap.add_apply, ← map_add, sub_add_sub_cancel]

/-- Two systems at the same point add their moments. -/
theorem add_moment_of_location_eq (F G : Wrench) (h : G.location = F.location) :
    (F.add G).moment.toFin = F.moment.toFin + G.moment.toFin := by
  simp [h]

/-- Moving a sum moves each summand. -/
theorem moveTo_add (F G : Wrench) (p : Vec3 ℝ) :
    (F.add G).moveTo p = (F.moveTo p).add (G.moveTo p) := by
  refine ext_toFin rfl rfl ?_
  rw [add_moment_of_location_eq (F.moveTo p) (G.moveTo p) rfl]
  -- both sides are `m_F + m_G + (l_F - p) ⨯₃ f_F + (l_G - p) ⨯₃ f_G`, expanded bilinearly
  simp only [moveTo_moment, add_moment, add_force, add_location, Vec3.toFin_add,
    Vec3.toFin_sub, Vec3.toFin_cross, map_add, map_sub, LinearMap.sub_apply]
  abel

theorem add_neg_self_force (F : Wrench) : (F.add F.neg).force = ⟨0, 0, 0⟩ := by
  rw [Vec3.eq_origin_iff]
  simp

/-- The opposite system, moved to where it already is, cancels the moment. -/
theorem add_neg_self_moment (F : Wrench) : (F.add F.neg).moment = ⟨0, 0, 0⟩ := by
  rw [Vec3.eq_origin_iff]
  simp

/-! ## Totals -/

/-- The moment of a system about the point `q`: its own moment, and the moment of its force
applied at its location. -/
noncomputable def momentAbout (q : Vec3 ℝ) (F : Wrench) : Fin 3 → ℝ :=
  F.moment.toFin + (F.location.toFin - q.toFin) ⨯₃ F.force.toFin

/-- Moving a system to `q` gives it its moment about `q`. -/
theorem moveTo_moment_toFin (F : Wrench) (q : Vec3 ℝ) :
    (F.moveTo q).moment.toFin = momentAbout q F := by
  simp [momentAbout]

/-- The resultant of a list of systems at `q`: the sum of their forces, applied at `q`, and the
sum of their moments about `q`. -/
noncomputable def resultant (q : Vec3 ℝ) (Fs : List Wrench) : Wrench :=
  ⟨Vec3.ofFin (Fs.map fun F => F.force.toFin).sum, q, Vec3.ofFin (Fs.map (momentAbout q)).sum⟩

/-- The resultant does not depend on the order of the parts. -/
theorem resultant_perm (q : Vec3 ℝ) {Fs Gs : List Wrench} (h : Fs.Perm Gs) :
    resultant q Fs = resultant q Gs := by
  simp only [resultant, (h.map _).sum_eq]

/-- Adding systems one after another and moving the total to `q` adds the parts moved to `q`,
onto the start moved to `q`. -/
theorem moveTo_foldl_add (S : Wrench) (Fs : List Wrench) (q : Vec3 ℝ) :
    ((Fs.foldl add S).moveTo q).force.toFin =
        S.force.toFin + (Fs.map fun F => F.force.toFin).sum ∧
      ((Fs.foldl add S).moveTo q).moment.toFin =
        (S.moveTo q).moment.toFin + (Fs.map fun F => (F.moveTo q).moment.toFin).sum := by
  induction Fs generalizing S with
  | nil => simp
  | cons F Fs ih =>
    obtain ⟨hf, hm⟩ := ih (S.add F)
    -- the next part, moved to `q`, joins the start moved to `q`
    have hstep : ((S.add F).moveTo q).moment.toFin =
        (S.moveTo q).moment.toFin + (F.moveTo q).moment.toFin := by
      rw [moveTo_add, add_moment_of_location_eq (S.moveTo q) (F.moveTo q) rfl]
    refine ⟨?_, ?_⟩
    · rw [List.foldl_cons, hf]
      simp [add_assoc]
    · rw [List.foldl_cons, hm, hstep, List.map_cons, List.sum_cons, add_assoc]

/-- A total summed from rest at any point `c` and moved to `q` is the resultant at `q`. -/
theorem moveTo_total (c q : Vec3 ℝ) (Fs : List Wrench) :
    (Fs.foldl add (zeroAt c)).moveTo q = resultant q Fs := by
  obtain ⟨hf, hm⟩ := moveTo_foldl_add (zeroAt c) Fs q
  refine ext_toFin ?_ rfl ?_
  · rw [hf]
    simp [zeroAt, resultant]
  · rw [hm, List.map_congr_left fun F _ => moveTo_moment_toFin F q]
    simp [zeroAt, resultant]

/-- **Force-moment systems move and add consistently**, in exact arithmetic: moving to `p` and
then to `q` is moving to `q`; moving a sum moves each summand, in force, location and moment; a
sum stands at its first summand's location; a system plus its opposite has neither force nor
moment; and a total summed from rest at any point and moved to `q` is the resultant at `q`,
whatever the order of the parts. -/
theorem forceMoment_laws (F G : Wrench) (p q : Vec3 ℝ) :
    (F.moveTo p).moveTo q = F.moveTo q ∧
    (F.add G).moveTo p = (F.moveTo p).add (G.moveTo p) ∧
    (F.add G).location = F.location ∧
    (F.add F.neg).force = ⟨0, 0, 0⟩ ∧ (F.add F.neg).moment = ⟨0, 0, 0⟩ ∧
    ∀ (Fs Gs : List Wrench) (c c' : Vec3 ℝ), Fs.Perm Gs →
      (Fs.foldl add (zeroAt c)).moveTo q = resultant q Fs ∧
      (Fs.foldl add (zeroAt c)).moveTo q = (Gs.foldl add (zeroAt c')).moveTo q := by
  refine ⟨moveTo_moveTo F p q, moveTo_add F G p, rfl, add_neg_self_force F,
    add_neg_self_moment F, fun Fs Gs c c' hperm => ⟨moveTo_total c q Fs, ?_⟩⟩
  rw [moveTo_total, moveTo_total, resultant_perm q hperm]

end Wrench

end RocketSim
