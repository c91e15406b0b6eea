import RocketSim.Tables.Delaunay
import RocketSim.Tables.NumberTable
import RocketSim.Numeric.Exact

/-!
# Scattered data tables

A scattered table gives rows of values at points of a space of keys, not on a grid.  Between
the points it is interpolated linearly over the Delaunay triangulation of the points;
outside their convex hull it takes the row of the nearest point.

Each simplex keeps the affine map to barycentric coordinates: with `r` the simplex's last
vertex and `T` the matrix whose column `j` is vertex `j` minus `r`, coordinate `i < d` of a
point `x` is row `i` of `T⁻¹` applied to `x - r`, and the last coordinate is one minus the
others, subtracted one by one.  `T⁻¹` is found from the factorization `Tᵀ = P L U`
(partial pivoting, multipliers formed with the reciprocal of the pivot) by solving for
each unit vector; a zero pivot leaves the map undefined (NaN).

A point is located by walking from simplex to neighbouring simplex, always across the
facet opposite the first coordinate below `-ε` (`ε = 100` machine epsilons), until all
coordinates lie in `[-ε, 1 + ε]`.  A walk that meets an undefined map, or runs longer than
a quarter of the simplices, gives way to a search of every simplex in order.  The value is
`Σⱼ cⱼ vⱼ` over the simplex's vertices in order.
-/

namespace RocketSim

/-- Rows of values at scattered points of a space of keys, with the triangulation of the
points. -/
structure ScatteredTable where
  points : Array (Array Float)
  values : Array (Array Float)
  simplices : Array (Array Nat)
  /-- For each simplex, the simplex across the facet opposite each vertex. -/
  neighbors : Array (Array (Option Nat))
  /-- For each simplex, the rows of `T⁻¹` (NaN when the simplex is degenerate). -/
  transforms : Array (Array (Array Float))
  lower : Array Float
  upper : Array Float
  deriving Inhabited

namespace ScatteredTable

/-- Machine epsilon of binary64. -/
def machineEpsilon : Float := 2.220446049250313e-16

/-- The tolerance of the barycentric tests. -/
def eps : Float := 100.0 * machineEpsilon

/-- The wider tolerance towards a degenerate neighbour. -/
def epsBroad : Float := Float.sqrt machineEpsilon

/-- Entry `(i, j)` of a matrix given by rows. -/
def entry (a : Array (Array Float)) (i j : Nat) : Float := (a.getD i #[]).getD j 0.0

/-- Sets entry `(i, j)` of a matrix. -/
def setEntry (a : Array (Array Float)) (i j : Nat) (v : Float) : Array (Array Float) :=
  a.modify i fun r => r.set! j v

/-- Factors an `n × n` matrix as `P L U` with partial pivoting (the first row of largest
magnitude), the multipliers formed with the reciprocal of the pivot and the trailing block
updated one column at a time; none at a zero pivot. -/
def factor (a : Array (Array Float)) (n : Nat) : Option (Array (Array Float) × Array Nat) :=
  Id.run do
  let mut a := a
  let mut pivots : Array Nat := #[]
  for j in [0:n] do
    let mut p := j
    let mut best := Float.abs (entry a j j)
    for i in [j + 1:n] do
      let s := Float.abs (entry a i j)
      if s > best then
        p := i
        best := s
    pivots := pivots.push p
    if entry a p j == 0.0 then return none
    if p != j then
      let rj := a.getD j #[]
      a := (a.set! j (a.getD p #[])).set! p rj
    let r := 1.0 / entry a j j
    for i in [j + 1:n] do
      a := setEntry a i j (entry a i j * r)
    for c in [j + 1:n] do
      for i in [j + 1:n] do
        a := setEntry a i c (entry a i c - entry a i j * entry a j c)
  pure (some (a, pivots))

/-- Solves `A x = b` from the factorization of `A`: the row swaps, then the unit lower and
the upper triangular solves. -/
def solveWith (lu : Array (Array Float)) (pivots : Array Nat) (n : Nat) (b : Array Float) :
    Array Float := Id.run do
  let mut b := b
  for j in [0:n] do
    let p := pivots.getD j j
    if p != j then
      let t := b.getD j 0.0
      b := (b.set! j (b.getD p 0.0)).set! p t
  for j in [0:n] do
    for i in [j + 1:n] do
      b := b.set! i (b.getD i 0.0 - b.getD j 0.0 * entry lu i j)
  for k in [0:n] do
    let i := n - 1 - k
    b := b.set! i (b.getD i 0.0 / entry lu i i)
    for m in [0:i] do
      b := b.set! m (b.getD m 0.0 - b.getD i 0.0 * entry lu m i)
  pure b

/-- The rows of `T⁻¹` for a simplex of `d + 1` points (NaN when `T` is singular): row `i`
solves `Tᵀ x = eᵢ`. -/
def transformOf (pts : Array (Array Float)) (s : Array Nat) (d : Nat) : Array (Array Float) :=
  let r := pts.getD (s.getD d 0) #[]
  let a := (Array.range d).map fun j =>
    let p := pts.getD (s.getD j 0) #[]
    (Array.range d).map fun i => p.getD i 0.0 - r.getD i 0.0
  match factor a d with
  | some (lu, pivots) =>
    (Array.range d).map fun i =>
      solveWith lu pivots d ((Array.range d).map fun k => if k == i then 1.0 else 0.0)
  | none => Array.replicate d (Array.replicate d Binary64.nan)

/-- Barycentric coordinate `i < d` of `x` in simplex `k`. -/
def coordinate (t : ScatteredTable) (k : Nat) (x : Array Float) (i : Nat) : Float :=
  let d := x.size
  let tr := (t.transforms.getD k #[]).getD i #[]
  let r := t.points.getD ((t.simplices.getD k #[]).getD d 0) #[]
  (List.range d).foldl (fun c j => c + tr.getD j 0.0 * (x.getD j 0.0 - r.getD j 0.0)) 0.0

/-- All barycentric coordinates of `x` in simplex `k`, the last one being one minus the
others. -/
def coordinates (t : ScatteredTable) (k : Nat) (x : Array Float) : Array Float :=
  let cs := (Array.range x.size).map (t.coordinate k x)
  cs.push (cs.foldl (fun acc c => acc - c) 1.0)

/-- Whether a coordinate is within the tolerance `e` of `[0, 1]`. -/
def within (e c : Float) : Bool := -e ≤ c && c ≤ 1.0 + eps

/-- Whether the map of simplex `k` is undefined. -/
def degenerate (t : ScatteredTable) (k : Nat) : Bool :=
  (((t.transforms.getD k #[]).getD 0 #[]).getD 0 0.0).isNaN

/-- Whether `x` lies outside the bounding box of the points, beyond `ε`. -/
def outsideBox (t : ScatteredTable) (x : Array Float) : Bool :=
  (List.range x.size).any fun i =>
    x.getD i 0.0 < t.lower.getD i 0.0 - eps || x.getD i 0.0 > t.upper.getD i 0.0 + eps

/-- The first simplex holding `x`, searched in order, with the coordinates of `x` there.  A
degenerate simplex stands for those of its neighbours that hold `x`, with the wider
tolerance towards the degenerate simplex. -/
def searchAll (t : ScatteredTable) (x : Array Float) : Option (Nat × Array Float) :=
  (List.range t.simplices.size).findSome? fun k =>
    if !t.degenerate k then
      let c := t.coordinates k x
      if c.all (within eps) then some (k, c) else none
    else
      ((t.neighbors.getD k #[]).toList.filterMap id).findSome? fun m =>
        if t.degenerate m then none else
        let c := t.coordinates m x
        let ok := (List.range c.size).all fun i =>
          if (t.neighbors.getD m #[]).getD i none == some k then within epsBroad (c.getD i 0.0)
          else within eps (c.getD i 0.0)
        if ok then some (m, c) else none

/-- The outcome of one step of the walk. -/
inductive Step where
  | found (c : Array Float)
  | hop (k : Nat)
  | lost
  | stuck

/-- One step of the walk at simplex `k`: the coordinates in order, hopping across the first
facet whose coordinate is below `-ε`. -/
def step (t : ScatteredTable) (k : Nat) (x : Array Float) : Step := Id.run do
  let d := x.size
  let mut c : Array Float := #[]
  let mut inside := true
  for i in [0:d + 1] do
    let ci := if i < d then t.coordinate k x i else c.foldl (fun acc v => acc - v) 1.0
    c := c.push ci
    if ci < -eps then
      return match (t.neighbors.getD k #[]).getD i none with
        | some m => .hop m
        | none => .lost
    else if ci ≤ 1.0 + eps then pure ()
    else inside := false
  pure (if inside then .found c else .stuck)

/-- Walks towards `x` from simplex `k` for at most `fuel` steps. -/
def walk (t : ScatteredTable) (x : Array Float) (k : Nat) : Nat → Option (Option (Nat × Array Float))
  | 0 => none
  | fuel + 1 => match t.step k x with
    | .found c => some (some (k, c))
    | .hop m => walk t x m fuel
    | .lost => some none
    | .stuck => none

/-- The simplex holding `x` and the coordinates of `x` there; none outside the points'
hull. -/
def locate (t : ScatteredTable) (x : Array Float) : Option (Nat × Array Float) :=
  if t.outsideBox x || t.simplices.isEmpty then none
  else match t.walk x 0 (1 + t.simplices.size / 4) with
    | some r => r
    | none => t.searchAll x

/-- The index of the point nearest to `x` (the first of equally near ones). -/
def nearest (t : ScatteredTable) (x : Array Float) : Nat :=
  let dist (p : Array Float) : Float :=
    (List.range x.size).foldl (fun s i => let e := x.getD i 0.0 - p.getD i 0.0; s + e * e) 0.0
  (List.range t.points.size).foldl (fun best i =>
    if dist (t.points.getD i #[]) < dist (t.points.getD best #[]) then i else best) 0

/-- The linear interpolate at `x`; none outside the hull. -/
def linear (t : ScatteredTable) (x : Array Float) : Option (Array Float) := do
  let (k, c) ← t.locate x
  let s := t.simplices.getD k #[]
  let width := (t.values.getD 0 #[]).size
  pure ((List.range (x.size + 1)).foldl (fun out j =>
    let v := t.values.getD (s.getD j 0) #[]
    (Array.range width).map fun m => out.getD m 0.0 + c.getD j 0.0 * v.getD m 0.0)
    (Array.replicate width 0.0))

/-- The row of the point nearest to `x`; a key that is not finite is refused. -/
def nearestRow (t : ScatteredTable) (x : Array Float) : Outcome (Array Float) :=
  if x.any fun v => v.isNaN || v.isInf then throw Fault.badValue
  else pure (t.values.getD (t.nearest x) #[])

/-- The values at `x`: the linear interpolate, or the row of the nearest point when that
is undefined or holds a NaN.  The flag tells whether the nearest row was taken. -/
def eval (t : ScatteredTable) (x : Array Float) : Outcome (Array Float × Bool) :=
  match t.linear x with
  | some v => if v.any (·.isNaN) then (·, true) <$> t.nearestRow x else pure (v, false)
  | none => (·, true) <$> t.nearestRow x

/-- The table of values at points, triangulated.  Points must have at least two coordinates,
all finite, and must span their space. -/
def build (points values : Array (Array Float)) : Outcome ScatteredTable := do
  let d := (points.getD 0 #[]).size
  if d < 2 then throw Fault.badValue
  let exact ← points.mapM fun p => p.mapM fun x => match Binary64.toRat? x with
    | some q => pure q
    | none => throw Fault.badValue
  let some tri := Delaunay.triangulate exact d | throw (Fault.bare (.other "QhullError"))
  let simplices := tri.simplices
  let facetKey (s : Array Nat) (i : Nat) : List Nat := ((s.eraseIdxIfInBounds i).toList.mergeSort (· ≤ ·))
  let owners : Std.HashMap (List Nat) (List Nat) := (Array.range simplices.size).foldl (fun m k =>
    let s := simplices.getD k #[]
    (List.range (d + 1)).foldl (fun m i => let f := facetKey s i; m.insert f (k :: m.getD f [])) m) {}
  let neighbors := (Array.range simplices.size).map fun k =>
    let s := simplices.getD k #[]
    (Array.range (d + 1)).map fun i => ((owners.getD (facetKey s i) []).filter (· != k)).head?
  let column (i : Nat) := points.map fun p => p.getD i 0.0
  pure { points, values, simplices, neighbors,
         transforms := simplices.map fun s => transformOf points s d,
         lower := (Array.range d).map fun i => (column i).foldl min ((column i).getD 0 0.0),
         upper := (Array.range d).map fun i => (column i).foldl max ((column i).getD 0 0.0) }

/-- The table of some key columns and value columns of a number table. -/
def ofColumns (t : NumberTable) (keyColumns : Nat) : Outcome ScatteredTable :=
  build (t.map fun r => (r.take keyColumns).toArray).toArray
    (t.map fun r => (r.drop keyColumns).toArray).toArray

end ScatteredTable

end RocketSim
