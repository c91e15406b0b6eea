import Std.Data.HashMap

/-!
# Delaunay triangulations of scattered points

The Delaunay triangulation of points in `d` dimensions is read off the lower convex hull of
the points lifted onto the paraboloid `h(x) = |x|²`: a simplex is a Delaunay simplex when no
other point lies inside the sphere through its vertices.  Points on a common sphere make
that hull have facets that are not simplices; they are split by lowering each point's
height by an infinitesimal amount that grows, by orders of magnitude, with the point's
rank in the insertion order.  A later point then wins every tie against earlier ones: it
is pulled to become a vertex of every simplex it can reach.

The triangulation is built by inserting the points one at a time into a triangulation that
also holds the cells joining each facet of the current convex hull to a point at infinity.
A new point removes every cell in conflict with it and joins itself to the boundary of the
removed region:

* a finite cell is in conflict when the point lies inside or on its circumsphere (on the
  sphere counts, since the new point is lowered below all earlier ones);
* a cell at infinity is in conflict when the point lies strictly beyond its hull facet, or
  on the facet's hyperplane and inside or on the sphere of the facet within that
  hyperplane (the trace there of the circumsphere of the finite cell behind the facet).

The region removed is star-shaped from the new point, so every cell made is a proper
simplex.  All arithmetic is exact, on rationals.
-/

namespace RocketSim
namespace Delaunay

/-- A point with exact coordinates. -/
abbrev Point := Array Rat

/-- The difference of two points. -/
def sub (a b : Point) : Point := (a.zip b).map fun (x, y) => x - y

/-- The dot product of two vectors. -/
def dot (a b : Point) : Rat := (a.zip b).foldl (fun s (x, y) => s + x * y) 0

/-- The squared distance between two points. -/
def dist2 (a b : Point) : Rat := let v := sub a b; dot v v

/-- Row `i` of a matrix. -/
def row (a : Array Point) (i : Nat) : Point := a.getD i #[]

/-- The first row from `lo` on whose entry in column `c` is nonzero. -/
def pivotAt (a : Array Point) (lo c : Nat) : Option Nat :=
  (List.range' lo (a.size - lo)).find? fun r => (row a r).getD c 0 != 0

/-- Row `r` minus `f` times row `p`. -/
def eliminate (a : Array Point) (r : Nat) (f : Rat) (p : Point) : Array Point :=
  a.set! r (((row a r).zip p).map fun (x, y) => x - f * y)

/-- Swaps rows `i` and `j`. -/
def swap (a : Array Point) (i j : Nat) : Array Point :=
  let ri := row a i
  (a.set! i (row a j)).set! j ri

/-- The solution of the square system `m x = b` by Gauss–Jordan elimination; none when
the matrix is singular. -/
def solve (m : Array Point) (b : Point) : Option Point := Id.run do
  let n := b.size
  let mut a : Array Point := (m.zip b).map fun (r, v) => r.push v
  for c in [0:n] do
    let some p := pivotAt a c c | return none
    a := swap a c p
    let pr := row a c
    let piv := pr.getD c 0
    for r in [0:n] do
      if r != c then
        let f := (row a r).getD c 0 / piv
        if f != 0 then a := eliminate a r f pr
  pure (some ((Array.range n).map fun i => (row a i).getD n 0 / (row a i).getD i 0))

/-- The determinant of a square matrix, by elimination. -/
def det (m : Array Point) : Rat := Id.run do
  let n := m.size
  let mut a := m
  let mut d : Rat := 1
  for c in [0:n] do
    let some p := pivotAt a c c | return 0
    if p != c then
      a := swap a c p
      d := -d
    let pr := row a c
    let piv := pr.getD c 0
    d := d * piv
    for r in [c + 1:n] do
      let f := (row a r).getD c 0 / piv
      if f != 0 then a := eliminate a r f pr
  pure d

/-- The rank of a family of vectors with `d` coordinates. -/
def rank (vs : Array Point) (d : Nat) : Nat := Id.run do
  let mut a := vs
  let mut r := 0
  for c in [0:d] do
    match pivotAt a r c with
    | none => pure ()
    | some p =>
      a := swap a r p
      let pr := row a r
      for i in [r + 1:a.size] do
        let f := (row a i).getD c 0 / pr.getD c 0
        if f != 0 then a := eliminate a i f pr
      r := r + 1
  pure r

/-- Whether points are affinely independent. -/
def independent (ps : List Point) (d : Nat) : Bool :=
  match ps with
  | [] => true
  | p0 :: rest => rank (rest.toArray.map (sub · p0)) d == rest.length

/-- The sphere through affinely independent points that is centred in their affine hull,
as its centre and squared radius.  The centre is `p₀ + Σ tₘ uₘ` with `uₘ = pₘ - p₀`, where
`2 Σₘ (uₖ · uₘ) tₘ = |uₖ|²` for every `k`: exactly the condition that the centre is as far
from each `pₖ` as from `p₀`. -/
def circumsphere (ps : List Point) : Option (Point × Rat) := do
  match ps with
  | [] => none
  | p0 :: rest =>
    let us := rest.toArray.map (sub · p0)
    let t ← solve (us.map fun u => us.map fun v => 2 * dot u v) (us.map fun u => dot u u)
    let c := (us.zip t).foldl (fun acc (u, tm) => (acc.zip u).map fun (x, y) => x + tm * y) p0
    pure (c, dist2 c p0)

/-- A normal of the hyperplane through `d` affinely independent points `p₀, …, p_{d-1}` of a
`d`-dimensional space: the cofactors along a last row appended to the rows `pₖ - p₀`, so
that `n · (q - p₀)` is the determinant of those rows followed by `q - p₀`. -/
def normal (ps : List Point) (d : Nat) : Point :=
  match ps with
  | [] => #[]
  | p0 :: rest =>
    let us := rest.toArray.map (sub · p0)
    (Array.range d).map fun i =>
      let minor := us.map fun u => u.extract 0 i ++ u.extract (i + 1) d
      (if (d - 1 + i) % 2 == 0 then 1 else -1) * det minor

/-- A cell of a triangulation under construction: a simplex of the points (its `d + 1`
vertices) or a facet of the convex hull joined to the point at infinity (the facet's `d`
vertices).  Vertices are point indices in increasing order. -/
structure Cell where
  vertices : List Nat
  atInfinity : Bool
  /-- The centre of the sphere through the (finite) vertices, in their affine hull. -/
  center : Point
  /-- The squared radius of that sphere. -/
  radius2 : Rat
  /-- For a cell at infinity, the outward normal of its hull facet. -/
  outward : Point := #[]
  /-- For a cell at infinity, `outward · p` at the points `p` of its hull facet. -/
  offset : Rat := 0

namespace Cell

/-- Whether a new point (ranked after every vertex of the cell) conflicts with the cell. -/
def conflicts (c : Cell) (q : Point) : Bool :=
  let inside := dist2 q c.center ≤ c.radius2
  if c.atInfinity then
    let s := dot c.outward q - c.offset
    s > 0 || (s == 0 && inside)
  else inside

/-- The facets of a cell, as their finite vertices and whether they hold the point at
infinity. -/
def facets (c : Cell) : List (List Nat × Bool) :=
  if c.atInfinity then
    (c.vertices, false) :: c.vertices.map fun v => (c.vertices.erase v, true)
  else c.vertices.map fun v => (c.vertices.erase v, false)

end Cell

/-- The cell on sorted vertices, finite or at infinity; the hull facet of a cell at infinity
is oriented away from `inner`, a point inside the hull.  None when the vertices are not
affinely independent. -/
def makeCell (pts : Array Point) (inner : Point) (d : Nat) (vs : List Nat) (atInfinity : Bool) :
    Option Cell := do
  let ps := vs.map fun v => pts.getD v #[]
  let (center, radius2) ← circumsphere ps
  if atInfinity then
    let p0 := ps.headD #[]
    let n := normal ps d
    let n := if dot n (sub inner p0) > 0 then n.map fun x => -x else n
    pure { vertices := vs, atInfinity, center, radius2, outward := n, offset := dot n p0 }
  else pure { vertices := vs, atInfinity, center, radius2 }

/-- Inserts point `q`: the cells in conflict with it go, and `q` is joined to every facet
on the boundary of the region they covered. -/
def insertPoint (pts : Array Point) (inner : Point) (d : Nat) (cells : Array Cell) (q : Nat) :
    Array Cell :=
  let p := pts.getD q #[]
  let hit := cells.filter (·.conflicts p)
  let kept := cells.filter fun c => !c.conflicts p
  let counts : Std.HashMap (List Nat × Bool) Nat := hit.foldl (fun m c =>
    c.facets.foldl (fun m f => m.insert f (m.getD f 0 + 1)) m) {}
  let boundary := hit.toList.flatMap fun c => c.facets.filter fun f => counts.getD f 0 == 1
  let fresh := boundary.filterMap fun (f, inf) =>
    makeCell pts inner d ((q :: f).mergeSort (· ≤ ·)) inf
  kept ++ fresh.toArray

/-- The first `d + 1` affinely independent points, in index order, greedily. -/
def initialSimplex (pts : Array Point) (d : Nat) : List Nat :=
  (List.range pts.size).foldl (fun chosen i =>
    if chosen.length == d + 1 then chosen
    else if independent ((chosen ++ [i]).map fun v => pts.getD v #[]) d then chosen ++ [i]
    else chosen) []

/-- A triangulation of points: its simplices, each listing its vertices from the last
inserted to the first. -/
structure Simplices where
  dim : Nat
  simplices : Array (Array Nat)

/-- The Delaunay triangulation of points in `d ≥ 2` dimensions, ties going to later
points; none when the points do not span the space.  The points of the first affinely
independent `d + 1` go in first, then the others in index order; a point equal to one
already in is left out. -/
def triangulate (pts : Array Point) (d : Nat) : Option Simplices := do
  let first := initialSimplex pts d
  if first.length != d + 1 then none
  let sorted := first.mergeSort (· ≤ ·)
  let inner : Point := (first.foldl (fun acc v => (acc.zip (pts.getD v #[])).map fun (x, y) => x + y)
    (Array.replicate d 0)).map fun x => x / ((d + 1 : Nat) : Rat)
  let start ← makeCell pts inner d sorted false
  let hull ← sorted.mapM fun v => makeCell pts inner d (sorted.erase v) true
  let rest := (List.range pts.size).filter fun i => !first.contains i
  let (cells, order) := rest.foldl (fun (cells, order) q =>
    let p := pts.getD q #[]
    if order.any fun v => pts.getD v #[] == p then (cells, order)
    else (insertPoint pts inner d cells q, order ++ [q])) ((#[start] ++ hull.toArray), first)
  let rankOf (v : Nat) : Nat := order.idxOf v
  let simplices := (cells.filter (!·.atInfinity)).map fun c =>
    let vs := (c.vertices.mergeSort fun a b => rankOf a ≥ rankOf b).toArray
    if d == 2 then
      let a := pts.getD (vs.getD 0 0) #[]
      let b := pts.getD (vs.getD 1 0) #[]
      let c := pts.getD (vs.getD 2 0) #[]
      if det #[sub b a, sub c a] < 0 then vs.swapIfInBounds 0 1 else vs
    else vs
  pure { dim := d, simplices }

end Delaunay
end RocketSim
