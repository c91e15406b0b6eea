import RocketSim.Numeric.Exact
import RocketSim.Core.Fault

/-!
# Interpolating cubic splines

A cubic interpolating spline through points `(xᵢ, yᵢ)` (abscissas strictly increasing, at
least four of them) is written in the B-spline basis over the not-a-knot knot vector: the
first and last abscissas repeated four times, with the abscissas from the third to the
third-last in between, so that the spline is a single cubic across its first two and its
last two intervals.

The coefficients solve the banded collocation system `B c = y`, where row `i` holds the
four basis functions that are nonzero at `xᵢ`, evaluated by the Cox–de Boor recursion.  The
system is solved by Gaussian elimination with partial pivoting, restricted to the band: at
each column the pivot is the first entry of largest magnitude among the rows the band
reaches, the multipliers are the column times the reciprocal of the pivot, and the
trailing block is updated column by column.  The updates, and those of the substitutions
that follow, are fused multiply-adds (one rounding each); a division by each pivot ends the
back substitution.  Outside the abscissas the spline continues the cubic of the nearest end.
-/

namespace RocketSim
namespace Spline

/-- The fused multiply-add `a · b + c`, rounded once.  An exact zero result is `+0` unless
both terms are zeros that add to `-0`. -/
def fusedMulAdd (a b c : Float) : Float :=
  match Binary64.toRat? a, Binary64.toRat? b, Binary64.toRat? c with
  | some x, some y, some z =>
    let r := x * y + z
    if r == 0 then (if x * y == 0 && z == 0 then a * b + c else 0.0) else Binary64.ofRat r
  | _, _, _ => a * b + c

/-- Entry `i` of an array, zero past its end. -/
def item (xs : Array Float) (i : Nat) : Float := xs.getD i 0.0

/-- The not-a-knot knots of a spline of odd degree `k` through the abscissas. -/
def notAKnot (xs : Array Float) (k : Nat) : Array Float :=
  let m := (k - 1) / 2
  let first := item xs 0
  let last := item xs (xs.size - 1)
  Array.replicate (k + 1) first ++ xs.extract (m + 1) (xs.size - m - 1) ++
    Array.replicate (k + 1) last

/-- The index `l` of the knot interval `[t_l, t_{l+1})` that holds `x`, searched from a
previous index; points outside the knots take the first or last interval.  None for NaN. -/
def findInterval (t : Array Float) (k : Nat) (x : Float) (prev : Nat) : Option Nat :=
  if x.isNaN then none else
  let n := t.size - k - 1
  let start := if k < prev && prev < n then prev else k
  let rec down (l : Nat) : Nat → Nat
    | 0 => l
    | fuel + 1 => if x < item t l && l != k then down (l - 1) fuel else l
  let rec up (l : Nat) : Nat → Nat
    | 0 => l
    | fuel + 1 => if x ≥ item t l && l != n then up (l + 1) fuel else l
  let l := down start t.size + 1
  some (up l t.size - 1)

/-- The `k + 1` B-splines of degree `k` that are nonzero on the interval `ell`, at `x`, by
the Cox–de Boor recursion. -/
def basis (t : Array Float) (x : Float) (k ell : Nat) : Array Float := Id.run do
  let mut h : Array Float := (Array.replicate (k + 1) 0.0).set! 0 1.0
  for j in [1:k + 1] do
    let hh := h.extract 0 j
    h := h.set! 0 0.0
    for n in [1:j + 1] do
      let xb := item t (ell + n)
      let xa := item t (ell + n - j)
      if xb == xa then
        h := h.set! n 0.0
      else
        let w := item hh (n - 1) / (xb - xa)
        h := h.set! (n - 1) (item h (n - 1) + w * (xb - x))
        h := h.set! n (w * (x - xa))
  pure h

/-- A square matrix as rows. -/
abbrev Matrix := Array (Array Float)

/-- Entry `(i, j)` of a matrix. -/
def entry (a : Matrix) (i j : Nat) : Float := item (a.getD i #[]) j

/-- Sets entry `(i, j)` of a matrix. -/
def setEntry (a : Matrix) (i j : Nat) (v : Float) : Matrix :=
  a.modify i fun row => row.set! j v

/-- Swaps rows `i` and `p` of a matrix in the columns from `lo` to `hi`. -/
def swapRows (a : Matrix) (i p lo hi : Nat) : Matrix := Id.run do
  let mut a := a
  for c in [lo:hi + 1] do
    let u := entry a i c
    let v := entry a p c
    a := setEntry (setEntry a i c v) p c u
  pure a

/-- The band factorization of a matrix: multipliers below the diagonal, the upper factor
on and above it, and the row swapped with each row. -/
structure BandLu where
  lu : Matrix
  pivots : Array Nat

/-- The first row, among `j` to `j + km`, whose entry in column `j` has the largest
magnitude. -/
def pivotRow (a : Matrix) (j km : Nat) : Nat := Id.run do
  let mut best := j
  let mut size := Float.abs (entry a j j)
  for i in [j + 1:j + km + 1] do
    let s := Float.abs (entry a i j)
    if s > size then
      best := i
      size := s
  pure best

/-- Factors an `n × n` matrix with `kl` subdiagonals and `ku` superdiagonals; fails when a
pivot is zero. -/
def factor (a : Matrix) (n kl ku : Nat) : Except Fault BandLu := Id.run do
  let mut a := a
  let mut pivots : Array Nat := #[]
  let mut ju := 0
  let mut singular := false
  for j in [0:n] do
    let km := min kl (n - 1 - j)
    let p := pivotRow a j km
    pivots := pivots.push p
    if entry a p j != 0.0 then
      ju := max ju (min (j + ku + (p - j)) (n - 1))
      if p != j then a := swapRows a j p j ju
      if km > 0 then
        let r := 1.0 / entry a j j
        for i in [j + 1:j + km + 1] do
          a := setEntry a i j (entry a i j * r)
        for c in [j + 1:ju + 1] do
          let temp := -1.0 * entry a j c
          for i in [j + 1:j + km + 1] do
            a := setEntry a i c (fusedMulAdd (entry a i j) temp (entry a i c))
    else singular := true
  if singular then return .error (Fault.bare (.other "LinAlgError"))
  pure (.ok { lu := a, pivots })

/-- Solves `A x = b` with the band factorization of `A`. -/
def BandLu.solve (f : BandLu) (n kl ku : Nat) (b : Array Float) : Array Float := Id.run do
  let mut b := b
  for j in [0:n - 1] do
    let lm := min kl (n - 1 - j)
    let l := f.pivots.getD j j
    if l != j then
      let u := item b l
      b := (b.set! l (item b j)).set! j u
    let temp := -1.0 * item b j
    for i in [j + 1:j + lm + 1] do
      b := b.set! i (fusedMulAdd (entry f.lu i j) temp (item b i))
  let kv := kl + ku
  for k in [0:n] do
    let i := n - 1 - k
    b := b.set! i (item b i / entry f.lu i i)
    let len := min i kv
    let temp := -(item b i)
    for m in [i - len:i] do
      b := b.set! m (fusedMulAdd temp (entry f.lu m i) (item b m))
  pure b

/-- A spline in the B-spline basis: its knots, coefficients and degree. -/
structure BSpline where
  knots : Array Float
  coeffs : Array Float
  degree : Nat

/-- The cubic not-a-knot spline through points with strictly increasing abscissas. -/
def interpolate (xs ys : Array Float) : Except Fault BSpline := do
  let k := 3
  let n := xs.size
  if (List.range (n - 1)).any fun i => item xs (i + 1) ≤ item xs i then
    throw Fault.badValue
  let t := notAKnot xs k
  let mut a : Matrix := Array.replicate n (Array.replicate n 0.0)
  let mut left := k
  for j in [0:n] do
    let x := item xs j
    left := if x == item t k then k else ((findInterval t k x left).getD k)
    let w := basis t x k left
    for i in [0:k + 1] do
      a := setEntry a j (left - k + i) (item w i)
  let f ← factor a n k k
  pure { knots := t, coeffs := f.solve n k k ys, degree := k }

/-- The value of a spline at a point (NaN at NaN). -/
def BSpline.eval (s : BSpline) (x : Float) : Float :=
  let k := s.degree
  match findInterval s.knots k x k with
  | none => x
  | some ell =>
    let w := basis s.knots x k ell
    (List.range (k + 1)).foldl (fun acc i => acc + item s.coeffs (ell + i - k) * item w i) 0.0

end Spline
end RocketSim
