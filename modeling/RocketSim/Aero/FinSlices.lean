import RocketSim.Core.Ops

/-!
# Strip theory for fins

A fin is cut into spanwise slices.  Each slice sees the air velocity relative to the fin
plus the velocity of its own rotation about the body axis, so its angle of attack varies
along the span when the rocket rolls.  The angle of a slice is the arcsine of the
velocity's component along the fin normal, limited in magnitude to the stall angle; a
slice in nearly still air (below 0.1 m/s) has none.

Subsonic slices produce a normal force `CNα·α·area`; supersonic slices follow the
third-order Busemann expansion, with the part of a slice inside the Mach cone of the fin
root counted at half strength.  The fin's normal force is the sum over the slices, and
its moment about the spanwise centre of pressure sums each slice force times its distance
from it.
-/

namespace RocketSim
namespace Aero
namespace FinSlices

/-- The slice tables of a fin: leading-edge positions, chord lengths, areas and spanwise
radii of the slices, and the stall angle; binary64 unless said otherwise. -/
structure FinGeometry (α : Type := Float) where
  stallAngle : α
  areas : List α
  radii : List α
  leadingEdges : List α := []
  chords : List α := []

section Planform

variable {α : Type} [Scalar α]

/-- The area of a trapezoidal fin of span `span` between its root chord and its tip chord. -/
def planformArea (span root tip : α) : α := span * (tip + root) / 2.0

/-- The chord of a trapezoidal fin at the spanwise distance `y` from its root: the root chord
changing linearly into the tip chord over the span. -/
def chordAt (root tip span y : α) : α := (tip - root) * (y / span) + root

/-- An integer as a number, rounded as binary64 conversion rounds it. -/
def intAsScalar : Int → α
  | .ofNat n => OfScientific.ofScientific n false 0
  | .negSucc n => -(OfScientific.ofScientific (n + 1) false 0)

/-- The width of each of `n` equal slices of a span. -/
def sliceWidth (span : α) (n : Int) : Outcome α := Real.div span (intAsScalar n)

/-- The slice tables of a trapezoidal fin cut into `n` slices of width `step`, each slice
described at its middle, `i·step + step/2` from the root: its area (the width times the
chord there), its distance from the body axis, the position of its leading edge and its
chord. -/
def sliceTables (root tip span bodyRadius leadingSlope stallAngle step : α) (n : Nat) :
    FinGeometry α :=
  let ys := (List.range n).map fun i => OfScientific.ofScientific i false 0 * step + step * 0.5
  { stallAngle
    areas := ys.map fun y => step * chordAt root tip span y
    radii := ys.map fun y => y + bodyRadius
    leadingEdges := ys.map fun y => y * leadingSlope
    chords := ys.map fun y => chordAt root tip span y }

end Planform

section Strips

variable {α : Type} [Scalar α] [LE α] [DecidableRel (α := α) (· ≤ ·)]

/-- The angle of attack of the slice at `spanPosition`: the arcsine (`asin`, the C library's,
with no fault outside `[-1, 1]`) of the normal component of its air velocity (exactly `π/2`
within `1e-14` of a head-on flow, no angle in nearly still air), limited in magnitude to the
stall angle. -/
def sliceAngleOfAttackWith (asin : α → α) (spanPosition : α) (airVel tangential normal : Vec3 α)
    (stallAngle : α) : Outcome α := do
  let v := airVel.add (tangential.scale spanPosition)
  let speed := v.length
  let aoa :=
    if speed ≥ 0.1 then
      let body := normal.dot v * (1.0 / speed)
      let body := if Scalar.abs (body - 1.0) < 1e-14 then 1.0 else body
      asin body
    else 0.0
  if Scalar.abs aoa > stallAngle then
    let ratio ← Real.div stallAngle aoa
    pure (aoa * Scalar.abs ratio)
  else pure aoa

/-- The normal force and the moment so far, with those of one more subsonic slice (its area
and its radius) added: `CNα·α·area`, at its own radius. -/
def subsonicSliceLoad (asin : α → α) (airVel tangential normal : Vec3 α)
    (spanwiseCP cnAlpha stallAngle : α) (acc slice : α × α) : Outcome (α × α) := do
  let aoa ← sliceAngleOfAttackWith asin slice.2 airVel tangential normal stallAngle
  let load := cnAlpha * aoa * slice.1
  pure (acc.1 + load, acc.2 + load * (spanwiseCP - slice.2))

/-- The normal force and the moment about the spanwise centre of pressure of a subsonic
fin: the loads of its slices, summed from the root. -/
def subsonicNormalForceWith (asin : α → α) (airVel tangential normal : Vec3 α)
    (spanwiseCP cnAlpha : α) (fin : FinGeometry α) : Outcome (α × α) :=
  (fin.areas.zip fin.radii).foldlM
    (subsonicSliceLoad asin airVel tangential normal spanwiseCP cnAlpha fin.stallAngle) (0.0, 0.0)

end Strips

/-- The angle of attack of a slice, in binary64. -/
def sliceAngleOfAttack (spanPosition : Float) (airVel tangential normal : Vec3)
    (stallAngle : Float) : Outcome Float :=
  sliceAngleOfAttackWith Float.asin spanPosition airVel tangential normal stallAngle

/-- The normal force and the moment of a subsonic fin, in binary64. -/
def subsonicNormalForce (airVel tangential normal : Vec3) (spanwiseCP cnAlpha : Float)
    (fin : FinGeometry) : Outcome (Float × Float) :=
  subsonicNormalForceWith Float.asin airVel tangential normal spanwiseCP cnAlpha fin

/-- The normal force of a supersonic slice per unit dynamic pressure: the pressure
coefficients of the windward and leeward faces by the third-order Busemann expansion,
their difference times the slice area. -/
def supersonicSliceForce (k1 k2 k3 _kStar aoa area : Float) : Float :=
  let kStarTop : Float := 0.0
  let kStarBottom : Float := 0.0
  let sq (x : Float) : Float := x * x
  let top := aoa * (k1 + k2 * aoa + k3 * sq aoa - kStarTop * sq aoa)
  let bottom := -aoa * (k1 + k2 * -aoa + k3 * sq (-aoa) - kStarBottom * sq aoa)
  (top - bottom) * area

/-- The fraction of a slice's strength that counts: all of the part outside the Mach cone,
half of the part inside. -/
def machConeCorrection (coneEdge leadingEdge chord : Float) : Outcome Float := do
  let out ← Real.div (Float.abs (coneEdge - leadingEdge)) chord
  let fractionOut := if out < 1.0 then out else 1.0
  pure (fractionOut + 0.5 * (1.0 - fractionOut))

/-- The normal force and the moment about the spanwise centre of pressure of a supersonic
fin, given where the Mach cone edge crosses each slice. -/
def supersonicNormalForce (airVel tangential normal : Vec3) (coneEdges : List Float)
    (spanwiseCP k1 k2 k3 kStar : Float) (fin : FinGeometry) : Outcome (Float × Float) :=
  let slices := fin.areas.zip (fin.radii.zip (coneEdges.zip (fin.leadingEdges.zip fin.chords)))
  List.foldlM (fun (force, moment) (area, r, edge, le, chord) => do
      let aoa ← sliceAngleOfAttack r airVel tangential normal fin.stallAngle
      let slice := supersonicSliceForce k1 k2 k3 kStar aoa area
      let slice := slice * (← machConeCorrection edge le chord)
      pure (force + slice, moment + slice * (spanwiseCP - r)))
    (0.0, 0.0) slices

end FinSlices
end Aero
end RocketSim
