import RocketSim.Optimize.Simplex
import RocketSim.Core.Number

/-!
# The BFGS quasi-Newton method

BFGS minimizes a function of `n` numbers from its values alone, estimating its gradient by
forward differences: the `i`-th component from one more value at the point moved by
`h = 2⁻²⁶` along the `i`-th axis (by `h · max(1, |xᵢ|)`, signed as `xᵢ`, when adding `h`
does not move `xᵢ`), over the step actually taken.  Values and gradients are remembered for
the last point asked about, so asking again costs nothing.

Each iteration steps along `p = −H g`, `H` the current estimate of the inverse Hessian
(at first the identity), by a step length found by the Moré–Thuente line search for the
strong Wolfe conditions (`c₁ = 10⁻⁴`, `c₂ = 0.9`); the first trial step is
`min(1, 2.02 (f − f_prev) / (g·p))`, with `f_prev` at the start taken as `f + |g|/2`.
`H` is then updated by the BFGS formula from the step `s` and the change of gradient `y`.
The search stops when the largest gradient component is within the tolerance, when the
iteration limit is reached, when the step vanishes or the value is no longer finite, or
when the line search fails.
-/

namespace RocketSim
namespace Optimize
namespace QuasiNewton

/-- The forward-difference step: the square root of the binary64 machine epsilon. -/
def step : Float := 1.4901161193847656e-08

/-- The sum of some numbers, in order. -/
def total (xs : List Float) : Float := xs.foldl (· + ·) 0.0

/-- The inner product of two vectors, summed in order. -/
def dot (a b : List Float) : Float :=
  match List.zipWith (· * ·) a b with
  | [] => 0.0
  | x :: xs => xs.foldl (· + ·) x

/-- A matrix times a vector. -/
def apply (h : List (List Float)) (v : List Float) : List Float := h.map (dot · v)

/-- The product of two matrices. -/
def matmul (a b : List (List Float)) : List (List Float) :=
  let columns := (List.range ((b.head?.map List.length).getD 0)).map fun j => b.map (·.getD j 0.0)
  a.map fun row => columns.map (dot row)

/-- The identity matrix of size `n`. -/
def identity (n : Nat) : List (List Float) :=
  (List.range n).map fun i => (List.range n).map fun j => if i == j then 1.0 else 0.0

/-- The sign of a number as `-1`, `0` or `1`; NaN for NaN. -/
def sign (x : Float) : Float :=
  if x.isNaN then x else if x > 0.0 then 1.0 else if x < 0.0 then -1.0 else 0.0

/-- The first greatest of three numbers. -/
def max3 (a b c : Float) : Float :=
  let m := if b > a then b else a
  if c > m then c else m

/-- A number held within bounds; NaN stays NaN. -/
def clip (x low high : Float) : Float :=
  if x.isNaN then x else if x < low then low else if x > high then high else x

/-- What the function is known to be at one point: the point, its value if known, and its
gradient if known. -/
structure Known where
  x : List Float
  value : Option Float
  gradient : Option (List Float)

variable {m : Type → Type} [Monad m] [MonadExceptOf Fault m]

/-- The forward-difference gradient of `f` at `x`, whose value is `f0`. -/
def gradient (f : List Float → m Float) (x : List Float) (f0 : Float) : m (List Float) :=
  x.zipIdx.mapM fun (xi, i) => do
    let h := if (xi + step) - xi == 0.0 then
        (step * (if xi ≥ 0.0 then 1.0 else -1.0)) *
          (if Float.abs xi > 1.0 || xi.isNaN then Float.abs xi else 1.0)
      else step
    let moved := x.zipIdx.map fun (xj, j) => if j == i then xj + h else xj + 0.0
    let dx := moved.getD i 0.0 - xi
    pure (((← f moved) - f0) / dx)

/-- Moves the known point to `x`, forgetting what was known unless it is the same point. -/
def Known.moveTo (k : Known) (x : List Float) : Known :=
  if x.length == k.x.length && (List.zipWith (· == ·) x k.x).all id then k
  else { x, value := none, gradient := none }

/-- The value of `f` at `x`, from what is known or computed. -/
def valueAt (f : List Float → m Float) (x : List Float) : StateT Known m Float := do
  let k := (← get).moveTo x
  match k.value with
  | some v => set k; pure v
  | none =>
    let v ← StateT.lift (f k.x)
    set { k with value := some v }
    pure v

/-- The gradient of `f` at `x`, from what is known or computed. -/
def gradientAt (f : List Float → m Float) (x : List Float) : StateT Known m (List Float) := do
  let v ← valueAt f x
  let k ← get
  match k.gradient with
  | some g => pure g
  | none =>
    let g ← StateT.lift (gradient f k.x v)
    set { k with gradient := some g }
    pure g

/-- The sufficient-decrease parameter of the line search. -/
def c1 : Float := 1e-4

/-- The curvature parameter of the line search. -/
def c2 : Float := 0.9

/-- The relative width below which the line search gives up. -/
def xtol : Float := 1e-14

/-- The least step the line search takes. -/
def stpmin : Float := 1e-100

/-- The greatest step the line search takes. -/
def stpmax : Float := 1e100

/-- The interval of the line search: the best step so far and its value and slope, the
other end and its, and the steps allowed next. -/
structure Interval where
  stx : Float
  fx : Float
  gx : Float
  sty : Float
  fy : Float
  gy : Float
  brackt : Bool

/-- The interval with the line `α ↦ gtest · α` taken off its values and `gtest` off its
slopes.  Tilting by `-gtest` adds them back: `a - b · (-g)` is `a + b · g` in binary64. -/
def Interval.tilt (i : Interval) (gtest : Float) : Interval :=
  let i := { i with fx := i.fx - i.stx * gtest, fy := i.fy - i.sty * gtest }
  { i with gx := i.gx - gtest, gy := i.gy - gtest }

/-- The safeguarded step of the Moré–Thuente search from trial step `stp` with value `fp`
and slope `dp`, bounded by `[lo, hi]`: the updated interval and the next step. -/
def safeguardedStep (i : Interval) (stp fp dp lo hi : Float) : Interval × Float :=
  let stx := i.stx
  let fx := i.fx
  let dx := i.gx
  let sgnd := sign dp * sign dx
  let stpf :=
    if fp > fx then
      let theta := 3.0 * (fx - fp) / (stp - stx) + dx + dp
      let s := max3 (Float.abs theta) (Float.abs dx) (Float.abs dp)
      let gamma := s * Float.sqrt ((theta / s) * (theta / s) - (dx / s) * (dp / s))
      let gamma := if stp < stx then -gamma else gamma
      let p := (gamma - dx) + theta
      let q := ((gamma - dx) + gamma) + dp
      let r := p / q
      let stpc := stx + r * (stp - stx)
      let stpq := stx + ((dx / ((fx - fp) / (stp - stx) + dx)) / 2.0) * (stp - stx)
      if Float.abs (stpc - stx) ≤ Float.abs (stpq - stx) then stpc
      else stpc + (stpq - stpc) / 2.0
    else if sgnd < 0.0 then
      let theta := 3.0 * (fx - fp) / (stp - stx) + dx + dp
      let s := max3 (Float.abs theta) (Float.abs dx) (Float.abs dp)
      let gamma := s * Float.sqrt ((theta / s) * (theta / s) - (dx / s) * (dp / s))
      let gamma := if stp > stx then -gamma else gamma
      let p := (gamma - dp) + theta
      let q := ((gamma - dp) + gamma) + dx
      let r := p / q
      let stpc := stp + r * (stx - stp)
      let stpq := stp + (dp / (dp - dx)) * (stx - stp)
      if Float.abs (stpc - stp) > Float.abs (stpq - stp) then stpc else stpq
    else if Float.abs dp < Float.abs dx then
      let theta := 3.0 * (fx - fp) / (stp - stx) + dx + dp
      let s := max3 (Float.abs theta) (Float.abs dx) (Float.abs dp)
      let radicand := (theta / s) * (theta / s) - (dx / s) * (dp / s)
      let gamma := s * Float.sqrt (if radicand > 0.0 then radicand else 0.0)
      let gamma := if stp > stx then -gamma else gamma
      let p := (gamma - dp) + theta
      let q := (gamma + (dx - dp)) + gamma
      let r := p / q
      let stpc := if r < 0.0 && gamma != 0.0 then stp + r * (stx - stp)
        else if stp > stx then hi else lo
      let stpq := stp + (dp / (dp - dx)) * (stx - stp)
      if i.brackt then
        let stpf := if Float.abs (stpc - stp) < Float.abs (stpq - stp) then stpc else stpq
        let bound := stp + 0.66 * (i.sty - stp)
        if stp > stx then (if stpf < bound then stpf else bound)
        else (if stpf > bound then stpf else bound)
      else
        let stpf := if Float.abs (stpc - stp) > Float.abs (stpq - stp) then stpc else stpq
        clip stpf lo hi
    else if i.brackt then
      let theta := 3.0 * (fp - i.fy) / (i.sty - stp) + i.gy + dp
      let s := max3 (Float.abs theta) (Float.abs i.gy) (Float.abs dp)
      let gamma := s * Float.sqrt ((theta / s) * (theta / s) - (i.gy / s) * (dp / s))
      let gamma := if stp > i.sty then -gamma else gamma
      let p := (gamma - dp) + theta
      let q := ((gamma - dp) + gamma) + i.gy
      let r := p / q
      stp + r * (i.sty - stp)
    else if stp > stx then hi else lo
  let brackt := i.brackt || fp > fx || sgnd < 0.0
  let i := if fp > fx then { i with sty := stp, fy := fp, gy := dp }
    else
      let i := if sgnd < 0.0 then { i with sty := stx, fy := fx, gy := dx } else i
      { i with stx := stp, fx := fp, gx := dp }
  ({ i with brackt }, stpf)

/-- The state of the Moré–Thuente search between trial steps. -/
structure Search where
  interval : Interval
  stage : Nat
  finit : Float
  ginit : Float
  gtest : Float
  width : Float
  width1 : Float
  stmin : Float
  stmax : Float

/-- How a round of the search ends: with a new step to try, converged, or failed. -/
inductive Round where
  | tryStep (stp : Float) (s : Search)
  | converged
  | failed

/-- One round of the search after trying step `stp` with value `f` and slope `g`. -/
def Search.round (s : Search) (stp f g : Float) : Round :=
  let ftest := s.finit + stp * s.gtest
  let s := if s.stage == 1 && f ≤ ftest && g ≥ 0.0 then { s with stage := 2 } else s
  let i := s.interval
  let warn := (i.brackt && (stp ≤ s.stmin || stp ≥ s.stmax)) ||
    (i.brackt && s.stmax - s.stmin ≤ xtol * s.stmax) ||
    (stp == stpmax && f ≤ ftest && g ≤ s.gtest) ||
    (stp == stpmin && (f > ftest || g ≥ s.gtest))
  let conv := f ≤ ftest && Float.abs g ≤ c2 * -s.ginit
  if conv then .converged
  else if warn then .failed
  else
    let (i, stp) :=
      if s.stage == 1 && f ≤ i.fx && f > ftest then
        let (j, stp) := safeguardedStep (i.tilt s.gtest) stp (f - stp * s.gtest) (g - s.gtest)
          s.stmin s.stmax
        (j.tilt (-s.gtest), stp)
      else safeguardedStep i stp f g s.stmin s.stmax
    let (stp, s) :=
      if i.brackt then
        let stp := if Float.abs (i.sty - i.stx) ≥ 0.66 * s.width1 then
            i.stx + 0.5 * (i.sty - i.stx) else stp
        (stp, { s with width1 := s.width, width := Float.abs (i.sty - i.stx) })
      else (stp, s)
    let s := if i.brackt then
        { s with stmin := if i.sty < i.stx then i.sty else i.stx,
                 stmax := if i.sty > i.stx then i.sty else i.stx }
      else { s with stmin := stp + 1.1 * (stp - i.stx), stmax := stp + 4.0 * (stp - i.stx) }
    let stp := clip stp stpmin stpmax
    let stp := if (i.brackt && (stp ≤ s.stmin || stp ≥ s.stmax)) ||
        (i.brackt && s.stmax - s.stmin ≤ xtol * s.stmax) then i.stx else stp
    .tryStep stp { s with interval := i }

/-- Tries steps until the search ends, at most `fuel` more: the step accepted with its value
and gradient, if any. -/
def Search.run (phi : Float → m (Float × Float × List Float)) :
    Nat → Search → Float → Float × Float × List Float →
      m (Option (Float × Float × List Float))
  | 0, _, _, _ => pure none
  | fuel + 1, s, stp, (f, g, grad) =>
    match s.round stp f g with
    | .converged => pure (some (stp, f, grad))
    | .failed => pure none
    | .tryStep stp s => do
      if !Number.isFinite stp then return none
      Search.run phi fuel s stp (← phi stp)

/-- The Moré–Thuente line search from step `alpha1`, the value and slope at step zero being
`phi0` and `derphi0`: the step, its value and the gradient there, if it succeeds. -/
def lineSearch (phi : Float → m (Float × Float × List Float)) (alpha1 phi0 derphi0 : Float) :
    m (Option (Float × Float × List Float)) := do
  if alpha1 < stpmin || alpha1 > stpmax || derphi0 ≥ 0.0 then return none
  let s : Search :=
    { interval := { stx := 0.0, fx := phi0, gx := derphi0, sty := 0.0, fy := phi0,
                    gy := derphi0, brackt := false },
      stage := 1, finit := phi0, ginit := derphi0, gtest := c1 * derphi0,
      width := stpmax - stpmin, width1 := (stpmax - stpmin) / 0.5,
      stmin := 0.0, stmax := alpha1 + 4.0 * alpha1 }
  if !Number.isFinite alpha1 then return none
  Search.run phi 99 s alpha1 (← phi alpha1)

/-- The state of BFGS: the point, its value and gradient, the value before, the inverse
Hessian estimate, and the iterations done. -/
structure State where
  x : List Float
  value : Float
  previous : Float
  gradient : List Float
  inverse : List (List Float)
  iterations : Nat

/-- The largest magnitude of a gradient's components. -/
def largest (g : List Float) : Float := Simplex.greatest (g.map Float.abs)

/-- The Euclidean norm of a vector, as a power of its sum of squares. -/
def norm (v : List Float) : Float := Float.sqrt (total (v.map fun x => Float.abs x * Float.abs x))

/-- The BFGS update of the inverse Hessian estimate from a step `s` and the change of
gradient `y` over it. -/
def updateInverse (h : List (List Float)) (s y : List Float) : List (List Float) :=
  let rhoInv := dot y s
  let rho := if rhoInv == 0.0 then 1000.0 else 1.0 / rhoInv
  let n := s.length
  let eye := identity n
  let a1 := List.zipWith (fun row si => List.zipWith (fun e yj => e - si * yj * rho) row y) eye s
  let a2 := List.zipWith (fun row yi => List.zipWith (fun e sj => e - yi * sj * rho) row s) eye y
  let prod := matmul a1 (matmul h a2)
  List.zipWith (fun row si => List.zipWith (fun e sj => e + rho * si * sj) row s) prod s

/-- Runs BFGS iterations while the gradient is large and the limit allows, at most `fuel`. -/
def iterate (f : List Float → m Float) (gtol : Float) (limit : Int) :
    Nat → State → StateT Known m State
  | 0, st => pure st
  | fuel + 1, st => do
    if !(largest st.gradient > gtol && (st.iterations : Int) < limit) then return st
    let pk := (apply st.inverse st.gradient).map (- ·)
    let derphi0 := dot st.gradient pk
    let alpha1 :=
      if derphi0 != 0.0 then
        let a := 1.01 * 2.0 * (st.value - st.previous) / derphi0
        let a := if a < 1.0 then a else 1.0
        if a < 0.0 then 1.0 else a
      else 1.0
    let phi (alpha : Float) : StateT Known m (Float × Float × List Float) := do
      let x := List.zipWith (fun xi pi => xi + alpha * pi) st.x pk
      let v ← valueAt f x
      let g ← gradientAt f x
      pure (v, dot g pk, g)
    let some (alpha, value, g) ← lineSearch phi alpha1 st.value derphi0 | return st
    let sk := pk.map (alpha * ·)
    let x := List.zipWith (· + ·) st.x sk
    let yk := List.zipWith (· - ·) g st.gradient
    let st := { st with x, previous := st.value, value, gradient := g,
                        iterations := st.iterations + 1 }
    if largest g ≤ gtol then return st
    if alpha * norm pk ≤ 0.0 then return st
    if !Number.isFinite value then return st
    iterate f gtol limit fuel { st with inverse := updateInverse st.inverse sk yk }

/-- Minimizes `f` from `x0` with at most `limit` iterations: the point and value reached. -/
def minimize (f : List Float → m Float) (x0 : List Float) (gtol : Float) (limit : Int) :
    m (List Float × Float) := do
  let run : StateT Known m (List Float × Float) := do
    let value ← valueAt f x0
    let g ← gradientAt f x0
    if g.isEmpty then throw (Fault.bare .valueError)
    let st ← iterate f gtol limit limit.toNat
      { x := x0, value, previous := value + norm g / 2.0, gradient := g,
        inverse := identity x0.length, iterations := 0 }
    pure (st.x, st.value)
  (·.1) <$> run.run { x := x0, value := none, gradient := none }

end QuasiNewton
end Optimize
end RocketSim
