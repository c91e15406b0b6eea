import RocketSim.Definition.Basic
import RocketSim.Motion.Construct
import RocketSim.Core.Show

/-!
# Probabilistic values

A key with a companion `key_stdDev` is a normally distributed parameter.  Its mean is the
companion `key_mean` if there is one; otherwise the key's own value, which is then kept as
`key_mean`.  Sampling replaces the key's value by a draw: a number for a scalar mean, or a
vector of three independent draws for a vector mean with a vector of deviations.  Keys
are visited in definition order, so the draws follow that order.

Each definition draws from its own generator, seeded by `MonteCarlo.randomSeed` (an
integer, or a text seeded through its digest) or, without one, by a number below one
million drawn from the session's generator.
-/

namespace RocketSim
namespace Definition

/-- Reads a value as a number the way the number constructor reads text. -/
def numberOf (v : Value) : Except Fault Float :=
  match v with
  | .str s => match FloatText.parse s with
    | some x => .ok x
    | none => .error Fault.badValue
  | _ => match v.toFloat? with
    | some x => .ok x
    | none => .error Fault.typeMismatch

/-- Reads a value as a vector the way the vector constructor reads text. -/
def vectorOf (v : Value) : Except Fault Vec3 :=
  match v with
  | .str s => Construct.parseVector s
  | _ => .error Fault.typeMismatch

/-- Draws a normal deviate from the definition's generator. -/
def gauss (d : Definition) (mu sigma : Float) : Float × Definition :=
  match d.rng with
  | some r =>
    let (x, r) := r.gauss mu sigma
    (x, { d with rng := some r })
  | none =>
    let (x, r) := (RandomSource.ofInt 0).gauss mu sigma
    (x, { d with rng := some r })

/-- The mean of a probabilistic key, and the definition with it kept: the companion
`key_mean` if there is one; otherwise the key's own value, which is then kept as `key_mean`. -/
def secureMean (d : Definition) (key : String) : Value × Definition :=
  let meanKey := key ++ "_mean"
  match d.find? meanKey with
  | some m => (m, d)
  | none =>
    let m := (d.find? key).getD .null
    (m, { d with entries := setEntry d.entries meanKey m })

/-- Draws a number for a key and writes its shortest text as the key's value; returns the
line reporting the value drawn. -/
def drawScalar (d : Definition) (key : String) (mu sigma : Float) :
    Except Fault (Definition × String) := do
  let (x, d) := d.gauss mu sigma
  let line := "Sampling scalar parameter: " ++ key ++ ", value: " ++ (← Show.format (.float x) "1.3f")
  pure ({ d with entries := setEntry d.entries key (.str (FloatText.repr x)) }, line)

/-- Draws a vector for a key, one number per component, and writes its text as the key's
value; returns the line reporting the value drawn. -/
def drawVector (d : Definition) (key : String) (mu sigma : Vec3) :
    Except Fault (Definition × String) := do
  let (x, d) := d.gauss mu.x sigma.x
  let (y, d) := d.gauss mu.y sigma.y
  let (z, d) := d.gauss mu.z sigma.z
  let v : Value := .vec ⟨x, y, z⟩
  let line := "Sampling vector parameter: " ++ key ++ ", value: (" ++ (← Show.format v "1.3f") ++ ")"
  pure ({ d with entries := setEntry d.entries key (.str (← Show.str v)) }, line)

/-- Draws a sample of a key around a mean with a deviation: a number when both read as
numbers; otherwise, when reading them as numbers fails on a value, a vector when both read
as vectors. -/
def drawSample (d : Definition) (key : String) (mean std : Value) :
    Except Fault (Definition × String) := do
  let scalar : Except Fault (Float × Float) := do
    pure (← numberOf mean, ← numberOf std)
  match scalar with
  | .ok (mu, sigma) => drawScalar d key mu sigma
  | .error f =>
    if f.kind != .valueError then throw f else
    let mu ← vectorOf mean
    let sigma ← vectorOf std
    drawVector d key mu sigma

/-- Samples one probabilistic key; returns the definition and, for a key that was sampled,
the line reporting the value drawn. -/
def sampleKey (d : Definition) (key : String) : Except Fault (Definition × Option String) := do
  let some std := d.find? (key ++ "_stdDev") | pure (d, none)
  let (mean, d) := secureMean d key
  let (d, line) ← drawSample d key mean std
  pure (d, some line)

/-- Samples one key of a run over the keys, adding its report line to the lines so far. -/
def sampleStep (acc : Definition × List String) (key : String) :
    Except Fault (Definition × List String) := do
  let (d, line) ← sampleKey acc.1 key
  pure (d, acc.2 ++ line.toList)

/-- Samples every probabilistic key, unless sampling is disabled; returns the definition and
the lines reporting the values drawn, in definition order. -/
def resampleReporting (d : Definition) : Except Fault (Definition × List String) :=
  if d.sampling then d.keys.foldlM sampleStep (d, []) else pure (d, [])

/-- Samples every probabilistic key, unless sampling is disabled. -/
def resample (d : Definition) : Except Fault Definition := (·.1) <$> resampleReporting d

/-- The generator seeded by a seed value: an integer, or a text through its digest. -/
def sourceOfSeed (v : Value) : RandomSource :=
  match v with
  | .str s => RandomSource.ofText s
  | .int n => RandomSource.ofInt n
  | .bool b => RandomSource.ofInt (if b then 1 else 0)
  | .float x => RandomSource.ofInt ((Number.truncToInt x).getD 0)
  | _ => RandomSource.ofInt 0

/-- Finishes a new definition: starts its usage record and, unless sampling is disabled,
seeds its generator and samples its probabilistic keys. -/
def prepare (d : Definition) : Sim Definition := do
  let d := d.resetUsage
  if !d.sampling then return d
  let (seed, d) ← match d.getValue "MonteCarlo.randomSeed" with
    | .ok (v, d') => pure (v, d')
    | .error f =>
      if f.kind == .keyError then do pure (Value.int (← Sim.below 1000000), d)
      else Sim.fail f
  let d := { d with rng := some (sourceOfSeed seed) }
  Sim.lift (resample d)

end Definition
end RocketSim
