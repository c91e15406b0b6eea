import RocketSim.Optimize.Problem

/-!
# Particle swarm optimization

A swarm of particles moves through the box the independent variables' ranges span.  Each
particle remembers the best position it has visited; the swarm remembers the best of
those.  Every iteration values all particles' positions, updates the remembered bests (a
particle's only on a strictly lower cost, the swarm's only when the least personal cost is
strictly below it), and then moves each particle: its new velocity is

  `w·v + (c₁·r₁)·(personal best − x) + (c₂·r₂)·(swarm best − x)`

with fresh draws `r₁` (all of them first) and `r₂` in `[0, 1)`, and its new position
`x + v` folded back periodically into the range of each variable.  A swarm best carried
over from an earlier search stands until a particle beats it.

The answer is the swarm's best cost, the best personal position, and where the particles
ended up; a search that never found a cost below infinity has no best cost.
-/

namespace RocketSim
namespace Optimize

open Flight

/-- A particle swarm between iterations: each particle's position, velocity, best position
and its cost, and the swarm's best position (empty before any) and cost. -/
structure Swarm where
  positions : List (List Float)
  velocities : List (List Float)
  personalBest : List (List Float)
  personalCost : List Float
  best : List Float
  bestCost : Option Float

namespace Swarm

/-- Positive infinity. -/
def infinity : Float := Binary64.inf

/-- The swarm as its settings place it, with a carried-over best if any. -/
def start (s : SwarmSettings) (best : Option (List Float)) (bestCost : Option Float) : Swarm :=
  { positions := s.positions, velocities := s.velocities, personalBest := s.positions,
    personalCost := s.positions.map fun _ => infinity, best := best.getD [], bestCost }

/-- The first least value of a nonempty list and its index. -/
def leastAt : List Float → Option (Float × Nat)
  | [] => none
  | x :: xs =>
    some ((xs.zipIdx.foldl (fun (m, i) (y, j) => if y < m then (y, j + 1) else (m, i)) (x, 0)))

/-- The remainder of `a / b` with the sign of `b`; NaN for a zero divisor. -/
def floorMod (a b : Float) : Float :=
  match Number.floatMod a b with
  | .ok m => m
  | .error _ => Binary64.nan

/-- A coordinate moved back into `[low, high]` periodically, as it stood before the move
deciding which side it left by. -/
def wrap (low high x : Float) : Float :=
  let width := Float.abs (high - low)
  let y := if x < low then high - floorMod (low - x) width else x
  if x > high then low + floorMod (y - high) width else y

/-- Values the swarm's positions and updates the personal and swarm bests. -/
def assess (p : Problem) (sw : Swarm) : Sim Swarm := do
  let costs ← (← p.costs (sw.positions.map (·.map .float))).mapM fun c =>
    Sim.lift (Formula.realOf c)
  let better := List.zipWith (fun c pc => decide (c < pc)) costs sw.personalCost
  let personalBest := List.zipWith (fun b (x, pb) => if b then x else pb) better
    (sw.positions.zip sw.personalBest)
  let personalCost := List.zipWith (fun b (c, pc) => if b then c else pc) better
    (costs.zip sw.personalCost)
  let some (least, i) := leastAt personalCost | Sim.fail Fault.badValue
  let sw := { sw with personalBest, personalCost }
  if least < sw.bestCost.getD infinity then
    pure { sw with best := personalBest.getD i [], bestCost := some least }
  else pure sw

/-- Moves the particles: new velocities from fresh draws, then new positions folded back
into the ranges. -/
def move (s : SwarmSettings) (lows highs : List Float) (sw : Swarm) : Sim Swarm := do
  let n := sw.positions.length
  let d := lows.length
  let r1 ← uniformRows n d
  let cognitive := List.zipWith (fun rs (xs, pbs) =>
      List.zipWith (fun r (x, pb) => (s.cognitive * r) * (pb - x)) rs (xs.zip pbs)) r1
    (sw.positions.zip sw.personalBest)
  let r2 ← uniformRows n d
  if sw.best.length != d && sw.best.length != 1 then Sim.fail Fault.badValue
  let bestAt (j : Nat) : Float := if sw.best.length == 1 then sw.best.getD 0 0.0 else sw.best.getD j 0.0
  let social := List.zipWith (fun rs xs =>
      List.zipWith (fun r (x, j) => (s.social * r) * (bestAt j - x)) rs xs.zipIdx) r2 sw.positions
  let velocities := List.zipWith (fun vs (cs, ss) =>
      List.zipWith (fun v (c, g) => s.inertia * v + c + g) vs (cs.zip ss)) sw.velocities
    (cognitive.zip social)
  let positions := List.zipWith (fun xs vs =>
      List.zipWith (fun (x, j) v => wrap (lows.getD j 0.0) (highs.getD j 0.0) (x + v))
        xs.zipIdx vs) sw.positions velocities
  pure { sw with velocities, positions }

/-- Runs `count` iterations of the swarm. -/
def iterate (p : Problem) (s : SwarmSettings) (lows highs : List Float) :
    Nat → Swarm → Sim Swarm
  | 0, sw => pure sw
  | count + 1, sw => do
    let sw ← assess p sw
    iterate p s lows highs count (← move s lows highs sw)

end Swarm

/-- Runs a particle swarm search of a problem: the best cost, the best personal position,
and the particles' final positions. -/
def swarmSearch (p : Problem) (s : SwarmSettings) : Sim (Float × List Float × List (List Float)) := do
  let lows := p.independents.map (·.low)
  let highs := p.independents.map (·.high)
  let sw ← Swarm.iterate p s lows highs s.iterations.toNat
    (Swarm.start s p.bestPosition p.bestCost)
  let some cost := sw.bestCost | Sim.fail Fault.noAttribute
  let some (_, i) := Swarm.leastAt sw.personalCost | Sim.fail Fault.badValue
  pure (cost, sw.personalBest.getD i [], sw.positions)

/-- The continuation file of a swarm search: the definition with the old initial particle
positions replaced by the best position and cost found and the particles' final positions. -/
def swarmContinuation (p : Problem) (best : List Float) (cost : Float)
    (positions : List (List Float)) : Sim String := do
  let base := "Optimization.IndependentVariables.InitialParticlePositions"
  let (old, _) ← (reader.subKeys (some "IndependentVariables.InitialParticlePositions")).run
    p.definition
  let d := old.foldl (fun d k => (d.removeKey k).2) p.definition
  let d := d.setValue (base ++ ".bestPosition") (.str (" ".intercalate (best.map numberText)))
  let d := d.setValue (base ++ ".bestCost") (.str (numberText cost))
  let d := positions.zipIdx.foldl (fun d (xs, i) =>
    (xs.zip p.independents).foldl (fun d (x, v) =>
      d.setValue (base ++ ".p" ++ toString i ++ "." ++ v.name) (.str (numberText x))) d) d
  p.writeContinuation d

end Optimize
end RocketSim
