import RocketSim.Optimize.Simplex
import RocketSim.Core.Number

/-!
# Powell's method

Powell's method minimizes a function of `n` numbers by line searches along a set of
directions, at first the coordinate axes.  One pass searches along each direction in turn
from where the last search ended.  A pass that gains too little relative to the values
(`2 (f₀ − f) ≤ ftol (|f₀| + |f|) + 10⁻²⁰`) ends the search, as does the iteration limit.
Otherwise the pass's total move `d` is tried once more from its end; when the extrapolated
point is better and a curvature test says so, a search along `d` follows and `d` replaces
the direction of greatest gain.

A line search along `xi` from `p` brackets a minimum of `α ↦ f(p + α xi)` from `α = 0` and
`α = 1` by golden-ratio steps and parabolic extrapolation, then narrows it by Brent's
method with relative tolerance `100 · xtol`.  A bracket that comes out invalid (its middle
point not the lowest, or its points out of order or infinite) gives the lowest of its three
points instead.  A zero direction is not searched.

The value of a search is the value at its last point, as a one-number array.
-/

namespace RocketSim
namespace Optimize
namespace Powell

/-- The golden ratio, as the bracketing steps use it. -/
def gold : Float := 1.618034

/-- The golden section, as Brent's method uses it. -/
def goldenSection : Float := 0.3819660

/-- Three points of a line and their values, a bracket of a minimum once valid. -/
structure Bracket where
  xa : Float
  xb : Float
  xc : Float
  fa : Float
  fb : Float
  fc : Float

/-- The bracket after one more point `w` with value `fw`. -/
def Bracket.shift (b : Bracket) (w fw : Float) : Bracket :=
  { xa := b.xb, xb := b.xc, xc := w, fa := b.fb, fb := b.fc, fc := fw }

/-- Whether a bracket holds a minimum: its middle point lowest, its points in order and
finite. -/
def Bracket.valid (b : Bracket) : Bool :=
  ((b.fb < b.fc && b.fb ≤ b.fa) || (b.fb < b.fa && b.fb ≤ b.fc)) &&
    ((b.xa < b.xb && b.xb < b.xc) || (b.xc < b.xb && b.xb < b.xa)) &&
    Number.isFinite b.xa && Number.isFinite b.xb && Number.isFinite b.xc

variable {m : Type → Type} [Monad m] [MonadExceptOf Fault m]

/-- Extends a bracket downhill until its last value rises, at most 1000 extensions. -/
def grow (f : Float → m Float) : Nat → Nat → Bracket → m Bracket
  | 0, _, b => pure b
  | fuel + 1, count, b => do
    if !(b.fc < b.fb) then return b
    let tmp1 := (b.xb - b.xa) * (b.fb - b.fc)
    let tmp2 := (b.xb - b.xc) * (b.fb - b.fa)
    let val := tmp2 - tmp1
    let denom := if Float.abs val < 1e-21 then 2.0 * 1e-21 else 2.0 * val
    let w := b.xb - ((b.xb - b.xc) * tmp2 - (b.xb - b.xa) * tmp1) / denom
    let wlim := b.xb + 110.0 * (b.xc - b.xb)
    if count > 1000 then throw (Fault.bare .runtimeError)
    if (w - b.xc) * (b.xb - w) > 0.0 then
      let fw ← f w
      if fw < b.fc then
        return { b with xa := b.xb, xb := w, fa := b.fb, fb := fw }
      if fw > b.fb then
        return { b with xc := w, fc := fw }
      let w := b.xc + gold * (b.xc - b.xb)
      grow f fuel (count + 1) (b.shift w (← f w))
    else if (w - wlim) * (wlim - b.xc) ≥ 0.0 then
      grow f fuel (count + 1) (b.shift wlim (← f wlim))
    else if (w - wlim) * (b.xc - w) > 0.0 then
      let fw ← f w
      if fw < b.fc then
        let w2 := w + gold * (w - b.xc)
        let fw2 ← f w2
        grow f fuel (count + 1) { xa := b.xc, xb := w, xc := w2, fa := b.fc, fb := fw, fc := fw2 }
      else grow f fuel (count + 1) (b.shift w fw)
    else
      let w := b.xc + gold * (b.xc - b.xb)
      grow f fuel (count + 1) (b.shift w (← f w))

/-- A bracket of a minimum of `f`, starting from `0` and `1`. -/
def bracket (f : Float → m Float) : m Bracket := do
  let fa ← f 0.0
  let fb ← f 1.0
  let (xa, xb, fa, fb) := if fa < fb then (1.0, 0.0, fb, fa) else (0.0, 1.0, fa, fb)
  let xc := xb + gold * (xb - xa)
  let fc ← f xc
  grow f 1002 0 { xa, xb, xc, fa, fb, fc }

/-- The state of Brent's method: the best point `x` and its value, the two before (`w`,
`v`) and theirs, the interval `[a, b]`, and the last two steps. -/
structure Brent where
  x : Float
  w : Float
  v : Float
  fx : Float
  fw : Float
  fv : Float
  a : Float
  b : Float
  deltax : Float
  rat : Float

/-- The next point Brent's method tries, and the steps it remembers; none once converged. -/
def Brent.next (s : Brent) (tol : Float) : Option (Float × Float × Float) :=
  let tol1 := tol * Float.abs s.x + 1.0e-11
  let tol2 := 2.0 * tol1
  let xmid := 0.5 * (s.a + s.b)
  if Float.abs (s.x - xmid) < tol2 - 0.5 * (s.b - s.a) then none
  else
    let golden (_ : Unit) : Float × Float :=
      let deltax := if s.x ≥ xmid then s.a - s.x else s.b - s.x
      (deltax, goldenSection * deltax)
    let (deltax, rat) :=
      if Float.abs s.deltax ≤ tol1 then golden ()
      else
        let tmp1 := (s.x - s.w) * (s.fx - s.fv)
        let tmp2 := (s.x - s.v) * (s.fx - s.fw)
        let p := (s.x - s.v) * tmp2 - (s.x - s.w) * tmp1
        let tmp2 := 2.0 * (tmp2 - tmp1)
        let p := if tmp2 > 0.0 then -p else p
        let tmp2 := Float.abs tmp2
        if p > tmp2 * (s.a - s.x) && p < tmp2 * (s.b - s.x) &&
            Float.abs p < Float.abs (0.5 * tmp2 * s.deltax) then
          let rat := p * 1.0 / tmp2
          let u := s.x + rat
          let rat := if u - s.a < tol2 || s.b - u < tol2 then
              (if xmid - s.x ≥ 0.0 then tol1 else -tol1)
            else rat
          (s.rat, rat)
        else golden ()
    let u := if Float.abs rat < tol1 then (if rat ≥ 0.0 then s.x + tol1 else s.x - tol1)
      else s.x + rat
    some (u, deltax, rat)

/-- Brent's state after trying `u` with value `fu`. -/
def Brent.accept (s : Brent) (u fu : Float) : Brent :=
  if fu > s.fx then
    let (a, b) := if u < s.x then (u, s.b) else (s.a, u)
    if fu ≤ s.fw || s.w == s.x then
      { s with a, b, v := s.w, w := u, fv := s.fw, fw := fu }
    else if fu ≤ s.fv || s.v == s.x || s.v == s.w then
      { s with a, b, v := u, fv := fu }
    else { s with a, b }
  else
    let (a, b) := if u ≥ s.x then (s.x, s.b) else (s.a, s.x)
    { s with a, b, v := s.w, w := s.x, x := u, fv := s.fw, fw := s.fx, fx := fu }

/-- Runs Brent's method for at most `fuel` more points. -/
def Brent.run (f : Float → m Float) (tol : Float) : Nat → Brent → m Brent
  | 0, s => pure s
  | fuel + 1, s =>
    match s.next tol with
    | none => pure s
    | some (u, deltax, rat) => do
      let fu ← f u
      Brent.run f tol fuel ({ s with deltax, rat }.accept u fu)

/-- A minimum of `f` on a line by Brent's method with relative tolerance `tol`: its point
and value. -/
def lineMinimum (f : Float → m Float) (tol : Float) : m (Float × Float) := do
  let br ← bracket f
  if !br.valid then
    if [br.xa, br.xb, br.xc, br.fa, br.fb, br.fc].any (·.isNaN) then
      return (Binary64.nan, Binary64.nan)
    let best := if br.fb < br.fa then (br.xb, br.fb) else (br.xa, br.fa)
    return (if br.fc < best.2 then (br.xc, br.fc) else best)
  let (a, b) := if br.xa < br.xc then (br.xa, br.xc) else (br.xc, br.xa)
  let s ← Brent.run f tol 500
    { x := br.xb, w := br.xb, v := br.xb, fx := br.fb, fw := br.fb, fv := br.fb, a, b,
      deltax := 0.0, rat := 0.0 }
  pure (s.x, s.fx)

/-- The point `p + α xi`. -/
def along (p xi : List Float) (alpha : Float) : List Float :=
  List.zipWith (fun pi d => pi + alpha * d) p xi

/-- A line search of `f` from `p` along `xi`: the value reached, the point, and the step
taken; a zero direction stays put. -/
def search (f : List Float → m Float) (p xi : List Float) (fval tol : Float) :
    m (Float × List Float × List Float) := do
  if xi.all (· == 0.0) then return (fval, p, xi)
  let (alpha, fret) ← lineMinimum (fun a => f (along p xi a)) tol
  let step := xi.map (alpha * ·)
  pure (fret, List.zipWith (· + ·) p step, step)

/-- The state of Powell's method: the point, its value, the point a pass started from, the
directions, and the passes done. -/
structure State where
  x : List Float
  fval : Float
  start : List Float
  directions : List (List Float)
  passes : Nat

/-- One pass along every direction: the state after it, the value before it, the greatest
gain of one search and the index of its direction. -/
def pass (f : List Float → m Float) (tol : Float) (s : State) : m (State × Float × Float × Nat) := do
  let fx := s.fval
  let (x, fval, delta, big) ← s.directions.zipIdx.foldlM (fun (x, fval, delta, big) (d, i) => do
      let (fval', x', _) ← search f x d fval tol
      if fval - fval' > delta then pure (x', fval', fval - fval', i)
      else pure (x', fval', delta, big))
    (s.x, s.fval, 0.0, 0)
  pure ({ s with x, fval, passes := s.passes + 1 }, fx, delta, big)

/-- Runs passes until the gain is too small or the limit is reached, at most `fuel`. -/
def iterate (f : List Float → m Float) (xtol ftol : Float) (limit : Int) :
    Nat → State → m State
  | 0, s => pure s
  | fuel + 1, s => do
    let (s, fx, delta, big) ← pass f (xtol * 100.0) s
    let bound := ftol * (Float.abs fx + Float.abs s.fval) + 1e-20
    if 2.0 * (fx - s.fval) ≤ bound then return s
    if (s.passes : Int) ≥ limit then return s
    if fx.isNaN && s.fval.isNaN then return s
    let d := List.zipWith (· - ·) s.x s.start
    let s := { s with start := s.x }
    let x2 := List.zipWith (· + ·) s.x d
    let fx2 ← f x2
    if fx > fx2 then
      let t := 2.0 * (fx + fx2 - 2.0 * s.fval)
      let temp := fx - s.fval - delta
      let t := t * (temp * temp)
      let temp := fx - fx2
      let t := t - delta * temp * temp
      if t < 0.0 then
        let (fval, x, d) ← search f s.x d s.fval (xtol * 100.0)
        let directions := if d.any (· != 0.0) then
            let last := s.directions.getLastD []
            (s.directions.set big last).set (s.directions.length - 1) d
          else s.directions
        iterate f xtol ftol limit fuel { s with x, fval, directions }
      else iterate f xtol ftol limit fuel s
    else iterate f xtol ftol limit fuel s

/-- Minimizes `f` from `x0` with at most `limit` passes (at least one): the point and the
value reached. -/
def minimize (f : List Float → m Float) (x0 : List Float) (xtol ftol : Float) (limit : Int) :
    m (List Float × Float) := do
  let fval ← f x0
  let directions := (List.range x0.length).map fun i =>
    (List.range x0.length).map fun j => if i == j then 1.0 else 0.0
  let s ← iterate f xtol ftol limit (max limit.toNat 1)
    { x := x0, fval, start := x0, directions, passes := 0 }
  pure (s.x, s.fval)

end Powell
end Optimize
end RocketSim
