import RocketSim.Core.Fault

/-!
# Sums, piecewise-linear interpolation and histogram distributions

Sampled winds are drawn from distributions given by histograms: the weight of each bin of
a sequence of bin edges.  A draw inverts the cumulative distribution, which is piecewise
linear between the bin edges.

The results are reproduced to the last bit, so the order of every rounding is part of the
definitions:

* an array is summed pairwise: up to eight elements one after the other; up to 128 in
  eight interleaved partial sums combined as a balanced tree, the remainder added last;
  larger arrays split in halves at a multiple of eight.  The sum starts from zero.
* a running sum adds one element after the other.
* linear interpolation takes the last sample point not above the argument, and at a point
  strictly inside an interval evaluates `slope · (x - x₀) + y₀`.
-/

namespace RocketSim
namespace Histogram

/-- Adds the elements one after the other, starting from zero. -/
def sequentialSum (xs : List Float) : Float := xs.foldl (· + ·) 0.0

/-- The eight interleaved partial sums of the first `8·k` elements of an array. -/
def partialSums (xs : List Float) : List Float :=
  let blocks := (List.range (xs.length / 8)).map fun b => (xs.drop (8 * b)).take 8
  match blocks with
  | [] => []
  | first :: rest => rest.foldl (fun acc blk => (acc.zip blk).map fun (a, b) => a + b) first

/-- The pairwise sum of an array. -/
def pairwiseSum (xs : List Float) : Float :=
  let rec go (fuel : Nat) (xs : List Float) : Float :=
    match fuel with
    | 0 => sequentialSum xs
    | fuel + 1 =>
      let n := xs.length
      if n < 8 then sequentialSum xs
      else if n ≤ 128 then
        let r := partialSums xs
        let g (i : Nat) : Float := r.getD i 0.0
        let res := ((g 0 + g 1) + (g 2 + g 3)) + ((g 4 + g 5) + (g 6 + g 7))
        (xs.drop (n - n % 8)).foldl (· + ·) res
      else
        let half := n / 2
        let half := half - half % 8
        go fuel (xs.take half) + go fuel (xs.drop half)
  go xs.length xs

/-- The sum of an array: zero plus its pairwise sum. -/
def sum (xs : List Float) : Float := 0.0 + pairwiseSum xs

/-- The running sums of an array. -/
def cumulative (xs : List Float) : List Float :=
  (xs.foldl (fun (acc : List Float × Option Float) x =>
    match acc.2 with
    | none => (acc.1 ++ [x], some x)
    | some s => (acc.1 ++ [s + x], some (s + x))) ([], none)).1

/-- The index of the last sample point not above `x`, as a count minus one: `-1` below the
first point. -/
def lastNotAbove (xp : List Float) (x : Float) : Int :=
  (xp.filter (· ≤ x)).length - 1

/-- Piecewise-linear interpolation of the samples `(xp, fp)` at `x`, holding the end values
beyond the ends; a NaN argument gives NaN. -/
def interp (x : Float) (xp fp : List Float) : Float :=
  if x.isNaN then x else
  let n := xp.length
  let first := fp.getD 0 0.0
  let last := fp.getD (n - 1) 0.0
  if n == 0 then 0.0
  else if x < xp.getD 0 0.0 then first
  else if x > xp.getD (n - 1) 0.0 then last
  else
    let j := (lastNotAbove xp x).toNat
    if j + 1 ≥ n then fp.getD j 0.0
    else if xp.getD j 0.0 == x then fp.getD j 0.0
    else
      let x0 := xp.getD j 0.0
      let x1 := xp.getD (j + 1) 0.0
      let y0 := fp.getD j 0.0
      let y1 := fp.getD (j + 1) 0.0
      let slope := (y1 - y0) / (x1 - x0)
      let r := slope * (x - x0) + y0
      if !r.isNaN then r
      else
        let r := slope * (x - x1) + y1
        if r.isNaN && y0 == y1 then y0 else r

end Histogram

/-- A distribution given by a histogram: its bin edges and the cumulative probability at
each edge. -/
structure HistogramDistribution where
  edges : List Float
  cdf : List Float
  deriving Inhabited

namespace HistogramDistribution

/-- Whether all bins have the same width, up to the default tolerances of a closeness test
(relative `1e-5`, absolute `1e-8`). -/
def equalWidths (widths : List Float) : Bool :=
  let w0 := widths.getD 0 0.0
  widths.all fun w => Float.abs (w - w0) ≤ 1e-08 + 1e-05 * Float.abs w0

/-- The distribution of a histogram of bin weights over bin edges.  Weights over bins of
equal width are counts, first divided by the width; over bins of varying width they are
densities.  The weights are then normalized so that the distribution integrates to one. -/
def ofHistogram (weights edges : List Float) : Except Fault HistogramDistribution := do
  if weights.length + 1 != edges.length then throw Fault.badValue
  let widths := (edges.drop 1).zip edges |>.map fun (b, a) => b - a
  let pdf := if equalWidths widths then (weights.zip widths).map fun (p, w) => p / w else weights
  let total := Histogram.sum ((pdf.zip widths).map fun (p, w) => p * w)
  let pdf := pdf.map (· / total)
  let cdf := Histogram.cumulative ((pdf.zip widths).map fun (p, w) => p * w)
  pure { edges, cdf := 0.0 :: cdf }

/-- The quantile function: the point below which the given fraction of the distribution
lies, for a fraction strictly between zero and one; the ends of the support for zero and
one; NaN otherwise. -/
def quantile (d : HistogramDistribution) (q : Float) : Float :=
  if 0.0 < q && q < 1.0 then Histogram.interp q d.cdf d.edges * 1.0 + 0.0
  else if q == 0.0 then d.edges.getD 0 0.0 * 1.0 + 0.0
  else if q == 1.0 then d.edges.getD (d.edges.length - 1) 0.0 * 1.0 + 0.0
  else 0.0 / 0.0

end HistogramDistribution
end RocketSim
