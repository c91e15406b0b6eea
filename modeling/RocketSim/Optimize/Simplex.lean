import RocketSim.Core.Fault
import RocketSim.Numeric.Binary64

/-!
# The downhill simplex method

The Nelder–Mead method minimizes a function of `n` numbers without derivatives.  It keeps a
simplex of `n + 1` points sorted by value, best first.  The first point is the start; the
`k`-th other one is the start with its `k`-th coordinate scaled by `1.05` (or set to
`0.00025` when it is zero).  Each iteration, unless the simplex has already shrunk within
the tolerances (every coordinate within `xatol` of the best point's, every value within
`fatol` of the best value), replaces the worst point `w` using the centroid `c` of the
others:

* the reflection `2c - w`, or, when it beats the best point, the expansion `3c - 2w` if
  that is better still;
* when the reflection beats only the worst point, the outside contraction `1.5c - 0.5w`;
  otherwise the inside contraction `0.5c + 0.5w`;
* when a contraction does not help, every point but the best moves halfway towards it.

Iterations are counted from one, the setup counting as the first, so a limit of `m`
iterations allows `m - 1` updates.  Sorting keeps equal values in their order and puts NaN
last; the answer is the best point and the least value (NaN if any value is NaN).
-/

namespace RocketSim
namespace Optimize
namespace Simplex

/-- The order of values in the simplex: numbers by size, NaN after every number. -/
def before (a b : Float) : Bool := a < b || (b.isNaN && !a.isNaN)

/-- The points of a simplex sorted by value, equal values keeping their order. -/
def sort (ps : List (List Float × Float)) : List (List Float × Float) :=
  ps.mergeSort fun a b => !before b.2 a.2

/-- The greatest of some numbers, NaN if any is NaN. -/
def greatest : List Float → Float
  | [] => 0.0
  | x :: xs => xs.foldl (fun a b => if a.isNaN || b.isNaN then Binary64.nan
      else if b > a then b else a) x

/-- The least of some numbers, NaN if any is NaN. -/
def least : List Float → Float
  | [] => 0.0
  | x :: xs => xs.foldl (fun a b => if a.isNaN || b.isNaN then Binary64.nan
      else if b < a then b else a) x

/-- The starting simplex: the start, then the start with each coordinate in turn moved. -/
def initial (x0 : List Float) : List (List Float) :=
  x0 :: (List.range x0.length).map fun k =>
    x0.set k (let y := x0.getD k 0.0; if y != 0.0 then (1.0 + 0.05) * y else 0.00025)

/-- The centroid of points: their coordinate-wise sum, in order, over their count `n`. -/
def centroid (n : Nat) : List (List Float) → List Float
  | [] => []
  | p :: ps => (ps.foldl (fun acc q => List.zipWith (· + ·) acc q) p).map (· / n.toFloat)

/-- `a · c - b · w`, coordinate-wise. -/
def combine (a : Float) (c : List Float) (b : Float) (w : List Float) : List Float :=
  List.zipWith (fun ci wi => a * ci - b * wi) c w

/-- Whether the simplex has shrunk within the tolerances. -/
def converged (xatol fatol : Float) : List (List Float × Float) → Bool
  | (best, fbest) :: rest =>
    greatest (rest.flatMap fun (p, _) => List.zipWith (fun a b => Float.abs (a - b)) p best)
        ≤ xatol &&
      greatest (rest.map fun (_, f) => Float.abs (fbest - f)) ≤ fatol
  | [] => true

variable {m : Type → Type} [Monad m] [MonadExceptOf Fault m]

/-- Moves every point but the best halfway towards it, valuing each moved point in turn. -/
def shrink (f : List Float → m Float) : List (List Float × Float) → m (List (List Float × Float))
  | (best, fbest) :: rest => do
    let moved ← rest.mapM fun (p, _) => do
      let q := List.zipWith (fun b x => b + 0.5 * (x - b)) best p
      pure (q, ← f q)
    pure ((best, fbest) :: moved)
  | [] => pure []

/-- One update of a sorted simplex of `n + 1` points (unsorted afterwards). -/
def update (f : List Float → m Float) (n : Nat) (ps : List (List Float × Float)) :
    m (List (List Float × Float)) := do
  let some (worst, fworst) := ps.getLast? | pure ps
  let fbest := (ps.head?.map (·.2)).getD 0.0
  let fnext := ((ps.dropLast.getLast?).map (·.2)).getD 0.0
  let c := centroid n (ps.dropLast.map (·.1))
  let keep (p : List Float) (fp : Float) := ps.dropLast ++ [(p, fp)]
  let xr := combine 2.0 c 1.0 worst
  let fxr ← f xr
  if fxr < fbest then
    let xe := combine 3.0 c 2.0 worst
    let fxe ← f xe
    if fxe < fxr then return keep xe fxe else return keep xr fxr
  if fxr < fnext then return keep xr fxr
  if fxr < fworst then
    let xc := combine 1.5 c 0.5 worst
    let fxc ← f xc
    if fxc ≤ fxr then return keep xc fxc
    shrink f ps
  else
    let xcc := List.zipWith (fun ci wi => 0.5 * ci + 0.5 * wi) c worst
    let fxcc ← f xcc
    if fxcc < fworst then return keep xcc fxcc
    shrink f ps

/-- Runs iterations `count`, `count + 1`, … below the limit, at most `fuel` of them. -/
def iterate (f : List Float → m Float) (n : Nat) (xatol fatol : Float) (limit : Int) :
    Nat → Nat → List (List Float × Float) → m (List (List Float × Float))
  | 0, _, ps => pure ps
  | fuel + 1, count, ps => do
    if (count : Int) ≥ limit then return ps
    -- A simplex of no coordinates has no spread to measure.
    if n == 0 then throw (Fault.bare .valueError)
    if converged xatol fatol ps then return ps
    let ps ← update f n ps
    iterate f n xatol fatol limit fuel (count + 1) (sort ps)

/-- Minimizes `f` from `x0` with at most `limit` iterations: the best point and the least
value found. -/
def minimize (f : List Float → m Float) (x0 : List Float) (xatol fatol : Float) (limit : Int) :
    m (List Float × Float) := do
  let ps ← (initial x0).mapM fun p => do pure (p, ← f p)
  let ps ← iterate f x0.length xatol fatol limit limit.toNat 1 (sort ps)
  pure (((ps.head?.map (·.1)).getD x0), least (ps.map (·.2)))

end Simplex
end Optimize
end RocketSim
