import RocketSim.Core.Ops
import RocketSim.Definition.Reader
import RocketSim.Core.Methods

/-!
# Turbulence models

The turbulent part of the wind, added to the mean wind:

* none;
* pink noise along the mean wind (one generator), in the horizontal plane (two), or in
  all three directions (the vertical one repeating the second generator's draws), scaled
  by a standard deviation given directly or as an intensity relative to the mean wind
  speed;
* a sine gust: zero below a start altitude, rising along half a cosine over a blending
  distance to a plateau, and falling back over the same distance above it.

Pink noise is white noise passed through an autoregressive filter whose coefficients give
a spectrum falling off as `f^-α`.  The generator has its own random source (seeded by its
seed, or by a number drawn from the session's generator); it samples at a fixed rate and
interpolates linearly between samples.
-/

namespace RocketSim

/-- A pink noise generator. -/
structure PinkNoise where
  alpha : Value
  seed : Value
  rng : RandomSource
  poles : Nat
  coeffs : List Float
  nextIndex : Nat
  lastValTime : Value
  timeStep : Float
  lastValues : List Float
  deriving Inhabited

namespace PinkNoise

/-- The random source of a seed value. -/
def sourceOf (seed : Value) : Sim RandomSource :=
  match seed with
  | .int n => pure (RandomSource.ofInt n)
  | .bool b => pure (RandomSource.ofInt (if b then 1 else 0))
  | .str s => pure (RandomSource.ofText s)
  | _ => Sim.fail Fault.typeMismatch

/-- Draws a standard normal deviate from the generator's source. -/
def normal (g : PinkNoise) : Float × PinkNoise :=
  let (x, r) := g.rng.gauss 0.0 1.0
  (x, { g with rng := r })

/-- The next sample of the filter. -/
def nextSample (g : PinkNoise) : Float × PinkNoise :=
  let (white, g) := g.normal
  let n : Int := g.poles
  let sample := (List.range g.poles).foldl (fun w (i : Nat) =>
    let k := ((g.nextIndex : Int) - (i : Int) - 1) % n
    w - g.coeffs.getD i 0.0 * g.lastValues.getD k.toNat 0.0) white
  let g := { g with lastValues := g.lastValues.set g.nextIndex sample
                    nextIndex := (g.nextIndex + 1) % g.poles }
  (sample, g)

/-- The value between the last two samples at a time, on the line through them. -/
def interpolated (g : PinkNoise) (time lastTime : Float) : Outcome Float := do
  let n : Int := g.lastValues.length
  let entry (i : Int) : Outcome Float := do
    let j := if i < 0 then i + n else i
    if j < 0 || j ≥ n then throw Fault.badIndex
    pure (g.lastValues.getD j.toNat 0.0)
  let last ← entry ((g.nextIndex : Int) - 1)
  let secondLast ← entry ((g.nextIndex : Int) - 2)
  let secondLastTime := lastTime - g.timeStep
  let rate := (last - secondLast) / g.timeStep
  pure (rate * (time - secondLastTime) + secondLast)

/-- The value at a time (a new sample when no time is given): samples are drawn until the
time is reached; between samples the value is interpolated.  The generator is returned as
the samples drawn leave it, also when the value cannot be interpolated. -/
def value (g : PinkNoise) (time : Value) : Sim (Outcome Float × PinkNoise) := do
  if g.poles == 0 then Sim.fail Fault.badIndex
  match time with
  | .null =>
    let (x, g) := g.nextSample
    pure (.ok x, g)
  | _ =>
    let rec advance (fuel : Nat) (g : PinkNoise) : Sim (Option Float × PinkNoise) := do
      match fuel with
      | 0 => pure (none, g)
      | fuel + 1 =>
        if !(← Ops.gt time g.lastValTime) then return (none, g)
        let (sample, g) := g.nextSample
        let t ← Ops.add g.lastValTime (.float g.timeStep)
        let g := { g with lastValTime := t }
        if ← Ops.eq t time then return (some sample, g)
        advance fuel g
    let steps := ((← Ops.real time) - (← Ops.real g.lastValTime)) / g.timeStep
    let fuel := if steps.isNaN || steps.isInf || steps < 0.0 then 1 else steps.toUInt64.toNat + 10
    let (hit, g) ← advance fuel g
    match hit with
    | some s => pure (.ok s, g)
    | none => pure (g.interpolated (← Ops.real time) (← Ops.real g.lastValTime), g)

/-- The value at a time, failing when it cannot be interpolated. -/
def valueAt (g : PinkNoise) (time : Value) : Sim (Float × PinkNoise) := do
  let (x, g) ← g.value time
  pure (← Sim.lift x, g)

/-- A generator with a spectral exponent, a seed (drawn below one million from the
session's generator when absent), a number of poles and a sampling frequency; its history
is filled with normal deviates and then run for ten samples per pole. -/
def make (alpha seed poles frequency : Value) : Sim PinkNoise := do
  let seed ← match seed with
    | .null => (Value.int ∘ Int.ofNat) <$> Sim.below 1000000
    | s => pure s
  let rng ← sourceOf seed
  let n ← match poles with
    | .int k => if k < 0 then pure 0 else pure k.toNat
    | _ => Sim.fail Fault.typeMismatch
  let a ← Ops.real (← Ops.div alpha (.int 2))
  let coeffs := (List.range n).foldl (fun (acc : List Float) i =>
    acc ++ [(Float.ofNat i - a) * acc.getD i 1.0 / Float.ofNat (i + 1)]) [1.0]
  let timeStep ← Ops.real (← Ops.div (.int 1) frequency)
  let g : PinkNoise := { alpha, seed, rng, poles := n, coeffs := coeffs.drop 1, nextIndex := 0,
                         lastValTime := .int 0, timeStep, lastValues := [] }
  let (vals, g) := (List.range n).foldl (fun (acc : List Float × PinkNoise) _ =>
    let (x, g) := acc.2.normal
    (acc.1 ++ [x], g)) ([], g)
  let g := { g with lastValues := vals }
  (List.range (10 * n)).foldlM (fun g _ => do pure (← g.value .null).2) g

/-- The generator of the turbulence models: spectral exponent 5/3, two poles, sampled at
20 Hz. -/
def standard (seed : Value) : Sim PinkNoise :=
  make (.float (5.0 / 3.0)) seed (.int 2) (.int 20)

end PinkNoise

/-- A turbulence model. -/
inductive TurbulenceModel where
  /-- No turbulence. -/
  | none
  /-- Pink noise along the mean wind. -/
  | pink1 (intensity stdDev : Value) (g1 : PinkNoise)
  /-- Pink noise in the horizontal plane. -/
  | pink2 (intensity stdDev : Value) (g1 g2 : PinkNoise)
  /-- Pink noise in three directions. -/
  | pink3 (intensity stdDev : Value) (g1 g2 g3 : PinkNoise)
  /-- A sine gust: start altitude, blending distance, magnitude, direction, and the zone
  boundaries. -/
  | sineGust (start blend magnitude direction : Value) (boundaries : List Value)
  deriving Inhabited

/-! ## The sine gust -/

/-- The operations a sine gust is worked out in, over altitudes and speeds `α` and velocities
`V`, in a monad `m`. -/
structure GustOps (m : Type → Type) (α V : Type) where
  gt : α → α → m Bool
  lt : α → α → m Bool
  add : α → α → m α
  sub : α → α → m α
  mul : α → α → m α
  div : α → α → m α
  cos : α → m α
  int : Int → α
  /-- The number one, as a fraction. -/
  one : α
  pi : α
  /-- A velocity scaled by a speed. -/
  scale : V → α → m V
  /-- The zero velocity. -/
  zero : V

section SineGust

variable {m : Type → Type} [Monad m] {α V : Type} [Inhabited α] (O : GustOps m α V)

/-- The boundaries of a gust's zones: its start, the end of the lower blend, the start of
the upper blend and the end of the gust. -/
def gustBoundsWith (start blend thickness : α) : m (List α) := do
  let b1 ← O.add start blend
  let b2 ← O.add b1 thickness
  let b3 ← O.add b2 blend
  pure [start, b1, b2, b3]

/-- The gust velocity at an altitude (NASA HDBK-1001, eq. 2.69): none up to the start, then
half a cosine rising over the blending distance to the magnitude, the magnitude over the
plateau, half a cosine falling back over the upper blend, and none above, all along the
direction. -/
def gustWith (start blend magnitude : α) (direction : V) (bounds : List α) (altitude : α) :
    m V := do
  if !(← O.gt altitude start) then return O.zero
  let bound (i : Nat) : α := bounds.getD i default
  let half ← O.div magnitude (O.int 2)
  let blendCurve (offset : α) : m α := do
    let arg ← O.div (← O.mul O.pi offset) blend
    let c ← O.cos arg
    O.mul half (← O.sub O.one c)
  let gust ← if ← O.lt altitude (bound 1) then
      blendCurve (← O.sub altitude start)
    else if ← O.lt altitude (bound 2) then pure magnitude
    else if ← O.lt altitude (bound 3) then do
      let thickness ← O.sub (bound 3) (bound 0)
      blendCurve (← O.sub (← O.sub altitude start) thickness)
    else return O.zero
  O.scale direction gust

end SineGust

/-- The sine gust is worked out in the simulator's values. -/
def valueGustOps : GustOps Sim Value Value where
  gt := Ops.gt
  lt := Ops.lt
  add := Ops.add
  sub := Ops.sub
  mul := Ops.mul
  div := Ops.div
  cos x := do pure (.float (← Sim.lift (Real.cos (← Ops.real x))))
  int := .int
  one := .float 1.0
  pi := .float 3.141592653589793
  scale := Ops.mul
  zero := .vec Vec3.zero

namespace TurbulenceModel

/-- The class name of a model. -/
def className : TurbulenceModel → String
  | .none => "NoTurb"
  | .pink1 .. => "PinkNoise1D"
  | .pink2 .. => "PinkNoise2D"
  | .pink3 .. => "PinkNoise3D"
  | .sineGust .. => "CustomSineGust"

/-- A sine gust model. -/
def makeSineGust (start blend thickness magnitude direction : Value) : Sim TurbulenceModel := do
  pure (.sineGust start blend magnitude direction
    (← gustBoundsWith valueGustOps start blend thickness))

/-- The standard deviation of the turbulence: the intensity times the mean wind speed, or
the given standard deviation. -/
def standardDeviation (intensity stdDev meanWind : Value) : Sim Value := do
  match intensity with
  | .null => pure stdDev
  | _ => do
    let (len, _) ← Sim.lift (Methods.call meanWind "length" [] [])
    Ops.mul len intensity

/-- The turbulent wind at an altitude, for a mean wind, at a time; returns the model as the
draw leaves it. -/
def velocity (m : TurbulenceModel) (altitude meanWind time : Value) :
    Sim (Value × TurbulenceModel) := do
  match m with
  | .none => pure (.vec Vec3.zero, m)
  | .pink1 intensity stdDev g1 => do
    let s ← standardDeviation intensity stdDev meanWind
    let (x, g1) ← g1.valueAt time
    let magnitude ← Ops.mul (.float x) s
    let (dir, _) ← Sim.lift (Methods.call meanWind "normalize" [] [])
    pure (← Ops.mul dir magnitude, .pink1 intensity s g1)
  | .pink2 intensity stdDev g1 g2 => do
    let s ← standardDeviation intensity stdDev meanWind
    let (x, g1) ← g1.valueAt time
    let (y, g2) ← g2.valueAt time
    let vx ← Ops.mul (.float x) s
    let vy ← Ops.mul (.float y) s
    let v ← Sim.lift (Construct.vector [vx, vy, .int 0])
    pure (v, .pink2 intensity stdDev g1 g2)
  | .pink3 intensity stdDev g1 g2 g3 => do
    let s ← standardDeviation intensity stdDev meanWind
    let (x, g1) ← g1.valueAt time
    let (y, g2) ← g2.valueAt time
    let (z, g2) ← g2.valueAt time
    let vx ← Ops.mul (.float x) s
    let vy ← Ops.mul (.float y) s
    let vz ← Ops.mul (.float z) s
    let v ← Sim.lift (Construct.vector [vx, vy, vz])
    pure (v, .pink3 intensity stdDev g1 g2 g3)
  | .sineGust start blend magnitude direction bounds => do
    pure (← gustWith valueGustOps start blend magnitude direction bounds altitude, m)

/-- The model the environment settings name (`TurbulenceModel`). -/
def configure (r : Reader) : Config TurbulenceModel := do
  let kind ← r.getString "Environment.TurbulenceModel"
  match kind with
  | .str "None" => pure .none
  | .str "customSineGust" => do
    let start ← r.getFloat "CustomSineGust.startAltitude"
    let magnitude ← r.getFloat "CustomSineGust.magnitude"
    let blend ← r.getFloat "CustomSineGust.sineBlendDistance"
    let thickness ← r.getFloat "CustomSineGust.thickness"
    let direction := (← r.getVector "CustomSineGust.direction").normalize
    Config.sim (makeSineGust (.float start) (.float blend) (.float thickness) (.float magnitude)
      (.vec direction))
  | .str k =>
    if !Str.containsStr k "PinkNoise" then
      Config.fail (Fault.raise .valueError
        "Turbulence Model {} not found. Please choose from: None, PinkNoise1/2/3D or customSineGust")
    let measured : Float := 2.26
    let intensity ← match ← r.tryGetInt "PinkNoiseModel.turbulenceIntensity" with
      | some i => pure (some (Value.float (Float.ofInt i / (measured * 100.0))))
      | Option.none => pure Option.none
    let stdDev ← match ← r.tryGetInt "PinkNoiseModel.velocityStdDeviation" with
      | some v => pure (some (Value.float (Float.ofInt v / measured)))
      | Option.none => pure Option.none
    let seed (k : String) : Config Value := do
      pure (((← r.tryGetInt k).map Value.int).getD .null)
    let s1 ← seed "PinkNoiseModel.randomSeed1"
    let s2 ← seed "PinkNoiseModel.randomSeed2"
    let s3 ← seed "PinkNoiseModel.randomSeed3"
    let intensity := intensity.getD .null
    let stdDev := stdDev.getD .null
    let generator (s : Value) : Config PinkNoise := Config.sim (PinkNoise.standard s)
    match k with
    | "PinkNoise1D" => .pink1 intensity stdDev <$> generator s1
    | "PinkNoise2D" => do
      let g1 ← generator s1
      .pink2 intensity stdDev g1 <$> generator s2
    | "PinkNoise3D" => do
      let g1 ← generator s1
      let g2 ← generator s2
      .pink3 intensity stdDev g1 g2 <$> generator s3
    | _ => Config.fail (Fault.bare .unboundLocalError)
  | _ => Config.fail Fault.typeMismatch

end TurbulenceModel
end RocketSim
