import RocketSim.Environment.MeanWind
import RocketSim.Numeric.Histogram
import RocketSim.Definition.Paths

/-!
# Sampled wind data

Two kinds of measured wind data feed the sampled wind models.

**Wind roses** give, for each 10° sector of the heading the wind blows from and each
speed band, the percentage of the time the wind was in that sector and band (the first
band, calm, has one value only).  The wind roses of the chosen month and locations are
averaged with the locations' weights; a ground wind is drawn by first drawing a speed from
the histogram over the speed bands (extended by a tail of extreme winds), then a heading
from the histogram over the sectors of the probabilities at that speed, interpolated
between the bands.

**Radiosonde profiles** are soundings of altitude, wind heading and wind speed (in tenths
of m/s), each starting with a header line `#station year month day hour …`.  A profile is
drawn by choosing a location by weight and then one of its soundings (of the launch month
when one is given); it becomes a list of altitudes above ground and wind vectors.

Draws come from the session's generator.
-/

namespace RocketSim
namespace WindRose

/-- The speed bands of a wind rose (mph): calm, then the band centres. -/
def bandSpeeds : List Float := [1.0, 3.5, 6.0, 8.5, 12.5, 17.5, 23.5]

/-- The conversion factor from mph to m/s. -/
def mphToMs : Float := 0.44704

/-- The extreme winds beyond the last band (m/s). -/
def extremeWinds : List Float := [25.0, 31.0, 50.0].map (· * mphToMs)

/-- The probabilities of reaching the extreme winds. -/
def extremeWindProbabilities : List Value := [.float 0.01, .float 0.004, .int 0]

/-- A wind rose: the probabilities of each speed band by sector (one column per band, one
row per sector), and the sector headings. -/
structure Table where
  bands : List (List Float)
  headings : List Float
  deriving Inhabited

/-- The value of a field of a wind rose file: blank fields are zero. -/
def fieldValue (field : String) : Except Fault Float :=
  let s := Str.strip field
  if s.isEmpty then pure 0.0
  else match FloatText.parse s with
    | some x => pure x
    | none => throw Fault.badValue

/-- Reads a wind rose file: comma-separated rows after a header, `#` comments.  A sector
`a-b` has the heading midway; the first sector's heading is zero. -/
def parse (text : String) : Except Fault Table := do
  let lines := (Str.splitOn text "\n").map fun l => match Str.findStr l "#" with
    | some i => Str.take l i
    | none => l
  let lines := lines.filter fun l => !(Str.strip l).isEmpty
  let rows := (lines.drop 1).map fun l => Str.splitOn l ","
  let parsed ← rows.mapM fun fields => do
    let dir := fields.headD ""
    let (lo, hi) := match Str.findStr dir "-" with
      | some i => (Str.take dir i, Str.drop dir (i + 1))
      | none => (dir, "")
    let lo ← fieldValue lo
    let hi ← fieldValue hi
    let values ← (fields.drop 1).mapM fieldValue
    pure ((lo + hi) / 2.0, values)
  let headings := parsed.zipIdx.map fun ((h, _), i) => if i == 0 then 0.0 else h
  let bands := (List.range bandSpeeds.length).map fun j => parsed.map fun (_, vs) => vs.getD j 0.0
  pure { bands, headings }

/-- The wind rose file of a month and a location. -/
def fileOf (month location : String) : String :=
  "MAPLEAF/Examples/Wind/Windrose" ++ month ++ location ++ ".txt"

/-- Reads the wind rose of a month and a location. -/
def load (month location : String) : Sim Table := do
  let path ← Paths.absolute (fileOf month location)
  Sim.lift (parse (← Paths.readText path))

/-- Adds a weighted wind rose to a sum of wind roses, entry by entry. -/
def addWeighted (acc t : Table) (monthWeight locationWeight : Float) : Table :=
  let w (a x : Float) : Float := a + x * monthWeight * locationWeight
  { bands := (acc.bands.zip t.bands).map fun (a, b) => (a.zip b).map fun (x, y) => w x y
    headings := (acc.headings.zip t.headings).map fun (a, b) => w a b }

/-- The average wind rose of a month over locations with weights. -/
def averaged (month : String) (locations : List String) (weights : List Float) : Sim Table := do
  let base ← load "Apr" "MedecineHat"
  let zero : Table := { bands := base.bands.map (·.map (· * 0.0)), headings := base.headings.map (· * 0.0) }
  locations.zipIdx.foldlM (fun acc (loc, i) => do
    let t ← load month loc
    let some w := weights[i]? | Sim.fail Fault.badIndex
    pure (addWeighted acc t 1.0 w)) zero

/-- The sum of the extreme winds' probabilities. -/
def extremeProbability : Float := (0.0 + 0.01) + 0.004 + 0.0

/-- The distribution of wind speeds (m/s) of a wind rose. -/
def speedDistribution (t : Table) : Except Fault HistogramDistribution := do
  let totals := t.bands.map Histogram.sum
  let total := 0.0 + Histogram.sequentialSum totals
  let probs := totals.map (· / total)
  let probs := probs.zipIdx.map fun (p, i) => if i + 1 == probs.length then p - extremeProbability else p
  let edges := ([0.0, 2.0, 5.0, 7.0, 10.0, 15.0, 20.0, 23.5].map (· * mphToMs)) ++ extremeWinds
  HistogramDistribution.ofHistogram (probs ++ [0.01, 0.004, 0.0]) edges

/-- The distribution of headings (degrees) of a wind rose at a wind speed (m/s): the
probabilities of the sectors at that speed, interpolated between the bands (the calm band
taking the values of the next one), over sector edges from 0° to 360°. -/
def headingDistribution (t : Table) (speed : Float) : Except Fault HistogramDistribution := do
  let n := t.headings.length
  -- the first sector moves to the end as the 360° sector
  let rotate (xs : List Float) : List Float := xs.drop 1 ++ xs.take 1
  let bands := t.bands.map rotate
  let headings := 0.0 :: ((t.headings.drop 1) ++ [360.0])
  let bands := match bands with
    | _ :: second :: rest => second :: second :: rest
    | other => other
  let speeds := (0.0 :: bandSpeeds.drop 1).map (· * mphToMs)
  let probs := (List.range n).map fun i =>
    let row := bands.map fun col => col.getD i 0.0
    match (speeds.zip row).find? (·.1 == speed) with
    | some (_, p) => p
    | none => Histogram.interp speed speeds row
  HistogramDistribution.ofHistogram probs headings

/-- Draws a ground wind (m/s) from the average wind rose of a month over weighted
locations. -/
def sample (locations : List String) (weights : List Float) (month : String) : Sim Vec3 := do
  let t ← averaged month locations weights
  let speeds ← Sim.lift (speedDistribution t)
  let speed := speeds.quantile (← Sim.uniform)
  let headings ← Sim.lift (headingDistribution t speed)
  let heading := headings.quantile (← Sim.uniform)
  let dir ← MeanWind.directionOfHeading (.float heading) (.int 0)
  pure (dir.scale speed)

end WindRose

namespace RadioSonde

/-- The lines of a text, each with its line break. -/
def linesWithEnds (text : String) : List String :=
  let parts := Str.splitOn text "\n"
  let n := parts.length
  (parts.zipIdx.filterMap fun (p, i) =>
    if i + 1 < n then some (p ++ "\n") else if p.isEmpty then none else some p)

/-- The month names, numbered from one. -/
def months : List String :=
  ["noZerothMonth", "Jan", "Feb", "Mar", "Apr", "May", "Jun", "Jul", "Aug", "Sep", "Oct", "Nov",
   "Dec"]

/-- The first character of a line, as text. -/
def firstChar (line : String) : Sim String :=
  match line.toList.head? with
  | some c => pure (String.singleton c)
  | none => Sim.fail Fault.badIndex

/-- The line numbers where the soundings of a file start (those of the given month, when a
month other than `Yearly` is given), and the file's lines. -/
def readFile (path : String) (month : Option String) : Sim (List Nat × List String) := do
  let data := linesWithEnds (← Paths.readText path)
  let month := match month with
    | some "Yearly" => none
    | m => m
  let monthNumber ← match month with
    | some m => match months.idxOf? m with
      | some i => pure (some i)
      | none => Sim.fail Fault.badValue
    | none => pure none
  let starts ← data.zipIdx.filterMapM fun (line, i) => do
    if (← firstChar line) != "#" then return none
    match monthNumber with
    | none => pure (some i)
    | some m =>
      let fields := Str.splitWs line
      let some f := fields[2]? | Sim.fail Fault.badIndex
      let some n := FloatText.parseInt f | Sim.fail Fault.badValue
      pure (if n == (m : Int) then some i else none)
  pure (starts, data)

/-- The header line and the data lines of a sounding, up to the next header. -/
def extract (starts : List Int) (data : List String) (which : Int) : Sim (String × List String) := do
  let n : Int := starts.length
  let k := if which < 0 then which + n else which
  if k < 0 || k ≥ n then Sim.fail Fault.badIndex
  let start := starts.getD k.toNat 0
  let m : Int := data.length
  let s := if start < 0 then start + m else start
  if s < 0 || s ≥ m then Sim.fail Fault.badIndex
  let header := data.getD s.toNat ""
  let rec collect (fuel : Nat) (i : Nat) (acc : List String) : Sim (List String) := do
    match fuel with
    | 0 => pure acc
    | fuel + 1 =>
      match data[i]? with
      | none => pure acc
      | some line => if (← firstChar line) == "#" then pure acc else collect fuel (i + 1) (acc ++ [line])
  pure (header, ← collect data.length (s.toNat + 1) [])

/-- The station, year, month, day and hour of a header line. -/
def header (line : String) : Sim Value := do
  let fields := Str.splitWs line
  let field (i : Nat) : Sim String := match fields[i]? with
    | some f => pure f
    | none => Sim.fail Fault.badIndex
  let number (i : Nat) : Sim Value := do
    match FloatText.parseInt (← field i) with
    | some n => pure (.int n)
    | none => Sim.fail Fault.badValue
  let station := Str.drop (← field 0) 1
  pure (.tuple [.str station, ← number 1, ← number 2, ← number 3, ← number 4])

/-- The altitudes above ground and the wind vectors of a sounding's data lines, by
increasing altitude. -/
def profile (lines : List String) (groundAltitude : Value) : Sim Value := do
  let rows ← lines.mapM fun l => (Str.splitWs l).mapM fun w => match FloatText.parse w with
    | some x => pure x
    | none => Sim.fail Fault.badValue
  let width := (rows.head?.map List.length).getD 0
  if rows.any (·.length != width) then Sim.fail Fault.badValue
  if rows.isEmpty || width < 3 then Sim.fail Fault.badIndex
  let rows := rows.map fun r => r.set 2 (r.getD 2 0.0 / 10.0)
  let rows := rows.mergeSort fun a b => a.getD 0 0.0 ≤ b.getD 0 0.0
  let ground ← Ops.real groundAltitude
  let altitudes := rows.map fun r => Value.float (r.getD 0 0.0 - ground)
  let winds ← rows.mapM fun r => do
    let dir ← MeanWind.directionOfHeading (.float (r.getD 1 0.0)) (.int 0)
    let w := dir.scale (r.getD 2 0.0)
    pure (Value.array [.float w.x, .float w.y, .float w.z])
  pure (.tuple [.array altitudes, .list winds])

/-- Reseeds the session's generator as a seed value directs: an integer or a text seeds
it, nothing leaves it as it is. -/
def reseed (seed : Value) : Sim Unit := do
  match seed with
  | .null => pure ()
  | .str s => modify fun st => { st with random := RandomSource.ofText s }
  | .int n => modify fun st => { st with random := RandomSource.ofInt n }
  | .bool b => modify fun st => { st with random := RandomSource.ofInt (if b then 1 else 0) }
  | _ => Sim.fail Fault.typeMismatch

/-- Chooses an item of a population by weight. -/
def choose (population : List Value) (weights : List Value) : Sim Value := do
  let cum ← weights.foldlM (fun (acc : List Value) w => do
    match acc.getLast? with
    | some s => pure (acc ++ [← Ops.add s w])
    | none => pure [w]) []
  if cum.length != population.length then
    Sim.fail (Fault.raise .valueError "The number of weights does not match the population")
  let total ← Ops.real (← Ops.add (cum.getLastD (.int 0)) (.float 0.0))
  if total ≤ 0.0 then Sim.fail (Fault.raise .valueError "Total of weights must be greater than zero")
  if total.isNaN || total.isInf then Sim.fail (Fault.raise .valueError "Total of weights must be finite")
  let r := (← Sim.uniform) * total
  let hi := population.length - 1
  let rec count (fuel : Nat) (lo hi : Nat) : Sim Nat := do
    match fuel with
    | 0 => pure lo
    | fuel + 1 =>
      if lo < hi then
        let mid := (lo + hi) / 2
        if ← Ops.lt (.float r) (cum.getD mid .null) then count fuel lo mid else count fuel (mid + 1) hi
      else pure lo
  let i ← count (cum.length + 1) 0 hi
  pure (population.getD i .null)

/-- Draws a wind profile: a location by weight, then one of its soundings (of the launch
month unless `Yearly`); returns the altitudes above ground and the wind vectors. -/
def sampleProfile (locations weights groundAltitudes : List Value) (month seed : Value) :
    Sim Value := do
  reseed seed
  let location ← choose locations weights
  let some idx := locations.findIdx? (fun l => match l, location with
      | .str a, .str b => a == b
      | _, _ => false) | Sim.fail Fault.badValue
  let some ground := groundAltitudes[idx]? | Sim.fail Fault.badIndex
  let locText ← match location with
    | .str s => pure s
    | other => Sim.lift (Show.str other)
  let path ← Paths.absolute ("MAPLEAF/Examples/Wind/RadioSonde" ++ locText ++ "_filtered.txt")
  let monthFilter ← match month with
    | .str "Yearly" => pure none
    | .str m => pure (some m)
    | .null => pure none
    | _ => Sim.fail Fault.badValue
  let (starts, data) ← readFile path monthFilter
  if starts.isEmpty then Sim.fail Fault.badValue
  let which ← Sim.below starts.length
  let (hdr, lines) ← extract (starts.map Int.ofNat) data which
  let _ ← header hdr
  profile lines ground

end RadioSonde
end RocketSim
