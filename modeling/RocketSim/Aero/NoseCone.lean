import RocketSim.Aero.Functions
import RocketSim.Tables.Interpolation

/-!
# Pressure drag of nose cones

The pressure drag coefficient of a nose cone changes regime with the Mach number.  Below
Mach 1 it follows Barrowman's correlation with a Prandtl-factor correction; above Mach 1.3
Hoerner's cone formula; in between, a cubic in the Mach number matching value and slope
at both ends.  Near Mach 1 Niskanen's power law in the cone half-angle gives the value and
slope at Mach 1, from which both the subsonic power law and the transonic cubic are built.

A fractional power of a negative number (Barrowman's correlation beyond its range) gives
a complex coefficient, as the value algebra's power does.
-/

namespace RocketSim
namespace Aero
namespace NoseCone

/-- Barrowman's correction constant `K = 1 + (6·Aw·Cf / (f³·Aref·Cp))^(5/3)`, from the
wetted area, the sonic skin friction coefficient, the fineness ratio, the reference area
and the sonic pressure drag coefficient. -/
def prandtlCorrection (wetted cf fineness aref cp : Value) : Sim Value := do
  let num ← Ops.mul (← Ops.mul (.int 6) wetted) cf
  let den ← Ops.mul (← Ops.mul (← Ops.pow fineness (.int 3)) aref) cp
  Ops.add (.int 1) (← Ops.pow (← Ops.div num den) (.float (5.0 / 3.0)))

/-- Barrowman's subsonic pressure drag coefficient `6·Aw·Cf / (f³·Aref·(K - M²)^0.6)`. -/
def subsonicPressureDrag (wetted cf fineness aref k mach : Value) : Sim Value := do
  let num ← Ops.mul (← Ops.mul (.int 6) wetted) cf
  let base ← Ops.sub k (← Ops.pow mach (.int 2))
  let den ← Ops.mul (← Ops.mul (← Ops.pow fineness (.int 3)) aref) (← Ops.pow base (.float 0.6))
  Ops.div num den

/-- Hoerner's supersonic pressure drag coefficient of a cone,
`2.1·sin²θ + 0.5·sin θ / √(M² - 1)`; it has no value at Mach 1 and below. -/
def supersonicPressureDrag (halfAngle : Float) (mach : Value) : Sim Float := do
  let s ← Sim.lift (Real.sin halfAngle)
  let s2 ← Sim.lift (Real.pow s 2.0)
  let m2 ← Ops.real (← Ops.sub (← Ops.pow mach (.int 2)) (.int 1))
  let root ← Sim.lift (Real.sqrt m2)
  pure (2.1 * s2 + (← Sim.lift (Real.div (0.5 * s) root)))

/-- The drag coefficient at Mach 1 and its slope there: `sin θ` and
`4/(γ+1)·(1 - sin θ / 2)`. -/
def sonicValueAndSlope (halfAngle : Float) : Outcome (Float × Float) := do
  let s ← Real.sin halfAngle
  let slope := 4.0 / (gamma + 1.0) * (1.0 - 0.5 * s)
  pure (s, slope)

/-- The subsonic power law: the coefficient at Mach 1 and the exponent that gives the
sonic slope. -/
def subsonicPowerLaw (halfAngle : Float) : Outcome (Float × Float) := do
  let (cd, slope) ← sonicValueAndSlope halfAngle
  pure (cd, ← Real.div slope cd)

/-- The transonic cubic in the Mach number, as a column of its four coefficients from the
constant term up: it matches the sonic value and slope at Mach 1 and Hoerner's value and
forward-difference slope at Mach 1.3. -/
def transonicCubic (halfAngle : Float) : Sim (List Float) := do
  let (cd1, slope1) ← Sim.lift (sonicValueAndSlope halfAngle)
  let cd13 ← supersonicPressureDrag halfAngle (.float 1.3)
  let cd1301 ← supersonicPressureDrag halfAngle (.float 1.301)
  let slope13 := (cd1301 - cd13) / 0.001
  Sim.lift (Interpolation.cubicCoefficients 1.0 1.3 cd1 cd13 slope1 slope13)

end NoseCone
end Aero
end RocketSim
