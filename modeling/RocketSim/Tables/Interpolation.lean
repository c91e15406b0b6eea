import RocketSim.Core.Ops
import RocketSim.Numeric.Exact

/-!
# Interpolation

Linear interpolation in a sorted table of keys, and cubic Hermite interpolation between
two points with given slopes.

The interval of a linear interpolation is found by bisection: the number of keys not
greater than the requested key.  Past either end the end value is returned unchanged; in
between, the two neighbouring values are combined with the open arithmetic of values, so
tables of vectors interpolate as well as tables of numbers.  The search and the
interpolation are written once over the operations they use (`LinearOps`): the simulator
runs them on its values, and the same text over the reals is their exact meaning.

The cubic through two points with prescribed slopes solves a 4×4 linear system.  Its
matrix is inverted by an LU factorization with partial pivoting, computed column by column
(each column is first brought up to date with the earlier ones, then pivoted and scaled by
the reciprocal of its pivot), followed by the inversion of the upper factor and the solution
for the inverse column by column from the right; a zero pivot means the matrix is singular.
Sums of products are accumulated with fused multiply-adds in a fixed order, given with each
routine, which fixes every rounding of the result.
-/

namespace RocketSim
namespace Interpolation

/-- The item of a sequence at an index, counting from the end when negative. -/
def itemAt (xs : List Value) (i : Int) : Sim Value :=
  let j := if i < 0 then i + xs.length else i
  if j < 0 then Sim.fail Fault.badIndex
  else match xs[j.toNat]? with
    | some x => pure x
    | none => Sim.fail Fault.badIndex

/-- The operations linear interpolation is written in, over keys and values `α` in a monad
`m`. -/
structure LinearOps (m : Type → Type) (α : Type) where
  lt : α → α → m Bool
  add : α → α → m α
  sub : α → α → m α
  mul : α → α → m α
  div : α → α → m α
  /-- The item of a sequence at an index, counting from the end when negative. -/
  item : List α → Int → m α
  int : Int → α

section Linear

variable {m : Type → Type} [Monad m] {α : Type} [Inhabited α] (O : LinearOps m α)

/-- The number of leading keys not greater than `x` in a sorted table, by bisection. -/
def bisectWith (keys : List α) (x : α) : m Nat := do
  let rec go (lo hi : Nat) (fuel : Nat) : m Nat :=
    match fuel with
    | 0 => pure lo
    | fuel + 1 =>
      if lo < hi then do
        let mid := (lo + hi) / 2
        if ← O.lt x (keys.getD mid default) then go lo mid fuel else go (mid + 1) hi fuel
      else pure lo
  go 0 keys.length (keys.length + 1)

/-- Linear interpolation of the values `ys` over the sorted keys `xs` at `x`; the end
values past the ends. -/
def linearWith (xs ys : List α) (x : α) : m α := do
  let i ← bisectWith O xs x
  if i ≥ xs.length then O.item ys (xs.length - 1 : Int)
  else if i < 1 then O.item ys 0
  else
    let lgX ← O.item xs i
    let smX ← O.item xs (i - 1 : Nat)
    let lgY ← O.item ys i
    let smY ← O.item ys (i - 1 : Nat)
    let dy ← O.sub lgY smY
    let dx ← O.sub x smX
    O.add (← O.div (← O.mul dy dx) (← O.sub lgX smX)) smY

/-- The interpolation weights of `x` in the sorted keys `xs`: the index and weight of the
lower neighbour, then of the upper one.  Past the top end the last value gets all the
weight (its index counted from the end), below the bottom end the first one. -/
def weightsWith (xs : List α) (x : α) : m (Int × α × Int × α) := do
  let i ← bisectWith O xs x
  if i ≥ xs.length then return (0, O.int 0, -1, O.int 1)
  if i < 1 then return (0, O.int 1, 0, O.int 0)
  let lo ← O.item xs (i - 1 : Nat)
  let hi ← O.item xs i
  let w ← O.div (← O.sub x lo) (← O.sub hi lo)
  pure ((i - 1 : Nat), ← O.sub (O.int 1) w, i, w)

end Linear

/-- The value arithmetic of interpolation. -/
def valueOps : LinearOps Sim Value where
  lt := Ops.lt
  add := Ops.add
  sub := Ops.sub
  mul := Ops.mul
  div := Ops.div
  item := itemAt
  int := .int

/-- Linear interpolation of values. -/
def linear (xs ys : List Value) (x : Value) : Sim Value := linearWith valueOps xs ys x

/-- The interpolation weights of a value, as the list of the two indices and weights. -/
def weights (xs : List Value) (x : Value) : Sim (List Value) := do
  let (s, ws, l, wl) ← weightsWith valueOps xs x
  pure [.int s, ws, .int l, wl]

/-- A square matrix, by rows. -/
abbrev Matrix := Array (Array Float)

/-- The entry of a matrix, zero outside it. -/
def Matrix.get (a : Matrix) (i j : Nat) : Float := (a.getD i #[]).getD j 0.0

/-- Replaces the entry of a matrix. -/
def Matrix.put (a : Matrix) (i j : Nat) (x : Float) : Matrix :=
  a.modify i fun row => row.set! j x

/-- Swaps two entries of a matrix. -/
def Matrix.swap (a : Matrix) (i j k l : Nat) : Matrix :=
  let x := a.get i j
  (a.put i j (a.get k l)).put k l x

/-- The index of the first entry of largest magnitude in a column, from row `j` down. -/
def pivotRow (a : Matrix) (n j : Nat) : Nat :=
  (List.range' j (n - j)).foldl (fun best i =>
    if Float.abs (a.get i j) > Float.abs (a.get best j) then i else best) j

/-- The fused multiply-add `a·b + c`, rounded once: computed on the exact rational values
of finite operands.  An exact zero, and any non-finite operand, take the unfused value, whose
sign and special values agree with the fused one. -/
def fusedMulAdd (a b c : Float) : Float :=
  match Binary64.toRat? a, Binary64.toRat? b, Binary64.toRat? c with
  | some x, some y, some z =>
    let q := x * y + z
    if q == 0 then a * b + c else Binary64.ofRat q
  | _, _, _ => a * b + c

/-- A dot product accumulated from zero, each term added by a fused multiply-add. -/
def fusedDot (terms : List (Float × Float)) : Float :=
  terms.foldl (fun s (x, y) => fusedMulAdd x y s) 0.0

/-- A dot product the way the matrix-vector kernels accumulate a group of columns: the
second term's product first, then the first term and the rest by fused multiply-adds (a
single term is its product alone). -/
def groupDot (terms : List (Float × Float)) : Float :=
  match terms with
  | [] => 0.0
  | [(x, y)] => x * y
  | first :: (x, y) :: rest =>
    (first :: rest).foldl (fun s (u, v) => fusedMulAdd u v s) (x * y)

/-- LU factorization with partial pivoting, column by column: the unit lower factor below
the diagonal, the upper factor on and above it, and the pivot row of each column; `none`
when a pivot is zero.  The products with earlier columns are accumulated by fused
multiply-adds from zero, then subtracted. -/
def factor (a : Matrix) (n : Nat) : Option (Matrix × Array Nat) :=
  let step (acc : Option (Matrix × Array Nat)) (j : Nat) : Option (Matrix × Array Nat) := do
    let (a, piv) ← acc
    -- the earlier row interchanges, applied to column j
    let a := (List.range j).foldl (fun a i =>
      let p := piv.getD i i
      if p != i then a.swap i j p j else a) a
    -- the upper part of column j, by forward substitution with the unit lower factor
    let a := (List.range' 1 (j - 1)).foldl (fun a i =>
      let s := fusedDot ((List.range i).map fun k => (a.get i k, a.get k j))
      a.put i j (a.get i j - s)) a
    -- the rest of column j, updated with the columns to its left
    let a := (List.range' j (n - j)).foldl (fun a i =>
      let s := fusedDot ((List.range j).map fun k => (a.get i k, a.get k j))
      a.put i j (a.get i j - s)) a
    let p := pivotRow a n j
    let pv := a.get p j
    if pv == 0.0 then none
    else
      let a := if p != j then
          (List.range (j + 1)).foldl (fun a k => a.swap j k p k) a
        else a
      let r := 1.0 / pv
      let a := (List.range' (j + 1) (n - j - 1)).foldl (fun a i => a.put i j (a.get i j * r)) a
      pure (a, piv.push p)
  (List.range n).foldl step (some (a, #[]))

/-- The inverse of the upper factor, in place, column by column: each column is the
inverse found so far times the column above the diagonal (accumulated by fused
multiply-adds), scaled by minus the reciprocal of the diagonal entry. -/
def invertUpper (a : Matrix) (n : Nat) : Matrix :=
  (List.range n).foldl (fun a j =>
    let d := 1.0 / a.get j j
    let a := a.put j j d
    let x := (List.range j).foldl (fun (x : Array Float) i =>
      let xi := x.getD i 0.0
      let x := (List.range i).foldl (fun (x : Array Float) k =>
        x.set! k (fusedMulAdd xi (a.get k i) (x.getD k 0.0))) x
      x.set! i (xi * a.get i i)) ((List.range j).toArray.map fun i => a.get i j)
    (List.range j).foldl (fun a i => a.put i j (x.getD i 0.0 * -d)) a) a

/-- The groups in which the matrix-vector kernels take a run of columns: fours, then a
pair, then a single one. -/
def columnGroups (cols : List Nat) (fuel : Nat) : List (List Nat) :=
  match fuel with
  | 0 => []
  | fuel + 1 =>
    if cols.length ≥ 4 then cols.take 4 :: columnGroups (cols.drop 4) fuel
    else if cols.length ≥ 2 then cols.take 2 :: columnGroups (cols.drop 2) fuel
    else if cols.length == 1 then [cols]
    else []

/-- The inverse of a factored matrix: the inverted upper factor times the inverse of the
lower one, solved column by column from the right (each group of later columns subtracted
at once), then the pivot interchanges undone on the columns. -/
def inverseOfFactors (a : Matrix) (piv : Array Nat) (n : Nat) : Matrix :=
  let a := invertUpper a n
  let a := (List.range n).reverse.foldl (fun a j =>
    let work := (List.range n).toArray.map fun i => if i > j then a.get i j else 0.0
    let a := (List.range' (j + 1) (n - j - 1)).foldl (fun a i => a.put i j 0.0) a
    (columnGroups (List.range' (j + 1) (n - j - 1)) n).foldl (fun a group =>
      (List.range n).foldl (fun a i =>
        let t := groupDot (group.map fun k => (a.get i k, work.getD k 0.0))
        a.put i j (a.get i j - t)) a) a) a
  (List.range (n - 1)).reverse.foldl (fun a j =>
    let p := piv.getD j j
    if p != j then (List.range n).foldl (fun a i => a.swap i j i p) a else a) a

/-- The inverse of a square matrix, or `none` when it is singular. -/
def inverse (a : Matrix) : Option Matrix :=
  let n := a.size
  (factor a n).map fun (lu, piv) => inverseOfFactors lu piv n

/-- The solution of `a·x = b` through the factorization with partial pivoting: the row
interchanges applied to `b`, then forward substitution with the unit lower factor and back
substitution with the upper one, each column by column; `none` when `a` is singular. -/
def solve (a : Matrix) (b : List Float) : Option (List Float) := do
  let n := a.size
  let (lu, piv) ← factor a n
  let x := b.toArray
  let x := (List.range n).foldl (fun x i =>
    let p := piv.getD i i
    if p != i then (x.set! i (x.getD p 0.0)).set! p (x.getD i 0.0) else x) x
  let x := (List.range n).foldl (fun x i =>
    let xi := x.getD i 0.0
    (List.range' (i + 1) (n - i - 1)).foldl (fun x k =>
      x.set! k (x.getD k 0.0 + -xi * lu.get k i)) x) x
  let x := (List.range n).reverse.foldl (fun x i =>
    let xi := x.getD i 0.0 / lu.get i i
    let x := x.set! i xi
    (List.range i).foldl (fun x k => x.set! k (x.getD k 0.0 + -xi * lu.get k i)) x) x
  pure x.toList

/-- A matrix times a vector, each row accumulated as the matrix-vector kernel does (see
`groupDot`); a zero comes out positive. -/
def apply (a : Matrix) (x : List Float) : List Float :=
  (List.range a.size).map fun i =>
    groupDot (x.zipIdx.map fun (xk, k) => (a.get i k, xk)) + 0.0

/-- The fault of a singular system. -/
def singularFault : Fault := Fault.bare (.other "LinAlgError")

/-- The coefficients `c₀, c₁, c₂, c₃` of the cubic `c₀ + c₁x + c₂x² + c₃x³` that takes the
values `y1`, `y2` and the slopes `d1`, `d2` at `x1` and `x2`. -/
def cubicCoefficients (x1 x2 y1 y2 d1 d2 : Float) : Outcome (List Float) := do
  let sq (x : Float) : Outcome Float := Number.floatPow x 2.0
  let cu (x : Float) : Outcome Float := Number.floatPow x 3.0
  let a : Matrix := #[#[1.0, x1, ← sq x1, ← cu x1], #[1.0, x2, ← sq x2, ← cu x2],
    #[0.0, 1.0, 2.0 * x1, 3.0 * (← sq x1)], #[0.0, 1.0, 2.0 * x2, 3.0 * (← sq x2)]]
  match inverse a with
  | some inv => pure (apply inv [y1, y2, d1, d2])
  | none => throw singularFault

/-- Cubic interpolation at `x` between `(x1, y1)` and `(x2, y2)`, with the slopes at the
two points estimated by forward differences over `dx`. -/
def cubic (x x1 x2 y1 y2 y1Next y2Next dx : Float) : Outcome Float := do
  let d1 ← Real.div (y1Next - y1) dx
  let d2 ← Real.div (y2Next - y2) dx
  let c ← cubicCoefficients x1 x2 y1 y2 d1 d2
  let x2p ← Number.floatPow x 2.0
  let x3p ← Number.floatPow x 3.0
  pure (c.getD 0 0.0 + c.getD 1 0.0 * x + c.getD 2 0.0 * x2p + c.getD 3 0.0 * x3p)

end Interpolation
end RocketSim
