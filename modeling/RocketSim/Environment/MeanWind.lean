import RocketSim.Core.Ops

/-!
# Mean wind

Wind data gives the heading the wind blows from, in degrees clockwise from north.  The
simulation's ground frame has its y axis at a given angle from north, so a heading turns
into a horizontal unit vector pointing where the wind blows to.
-/

namespace RocketSim
namespace MeanWind

/-- The direction the wind blows towards, as a horizontal unit vector, for a wind from the
given heading (degrees from north, 90 is east), when the y axis points the given number of
degrees from north. -/
def directionOfHeading (heading yAxisFromNorth : Value) : Sim Vec3 := do
  let total ← Ops.real (← Ops.add heading yAxisFromNorth)
  let r := Number.radians total
  let y ← Sim.lift (Real.cos r)
  let x ← Sim.lift (Real.sin r)
  pure ((⟨x, y, 0.0⟩ : Vec3).scaleLeft (-1.0))

end MeanWind
end RocketSim
