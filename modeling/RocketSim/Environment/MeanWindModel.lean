import RocketSim.Environment.WindData
import RocketSim.Tables.Interpolation
import RocketSim.Tables.NumberTable
import RocketSim.Definition.Reader

/-!
# Mean wind models

The mean wind is a function of the altitude above ground:

* a constant wind;
* the Hellman law `v = v₁₀ · (h / 10)^α`, with the altitude held between 10 m and an
  altitude limit;
* a wind profile interpolated linearly between given altitudes (from a table file, or from
  a sampled radiosonde profile).

The environment settings choose a model (`MeanWindModel`); a ground wind may also be drawn
from wind roses.
-/

namespace RocketSim

/-- A mean wind model. -/
inductive MeanWindModel where
  /-- The same wind at every altitude. -/
  | constant (wind : Value)
  /-- The Hellman power law over a ground wind, up to an altitude limit. -/
  | hellman (groundWind altitudeLimit alpha : Value)
  /-- Winds interpolated between altitudes. -/
  | interpolated (altitudes winds : Value)
  deriving Inhabited

namespace MeanWindModel

/-- The class name of a model. -/
def className : MeanWindModel → String
  | .constant _ => "ConstantWind"
  | .hellman .. => "Hellman"
  | .interpolated .. => "InterpolatedWind"

/-- The elements of a sequence, numbers of a numeric array read as array scalars. -/
def elements (v : Value) : Sim (List Value) :=
  match v with
  | .array xs => pure (xs.map fun x => match x with
    | .float f => .arrayScalar f
    | other => other)
  | _ => match v.items? with
    | some xs => pure xs
    | none => Sim.fail Fault.typeMismatch

/-- The profile of a wind table file: altitudes in the first column, wind components in the
others. -/
def ofTableFile (path : String) : Sim MeanWindModel := do
  let t ← NumberTable.load path 1
  pure (.interpolated (.array ((NumberTable.column t 0).map Value.float))
    (.array ((NumberTable.columnsFrom t 1).map fun row => .array (row.map Value.float))))

/-- An interpolated profile from altitudes and winds, or from a table file when both are
empty. -/
def ofProfile (altitudes winds path : Value) : Sim MeanWindModel := do
  let n ← Sim.lift (Methods.length altitudes)
  let m ← Sim.lift (Methods.length winds)
  if (← Ops.gt (← Ops.add n m) (.int 0)) then return .interpolated altitudes winds
  match path with
  | .null => Sim.fail (Fault.raise .valueError
      "Incomplete initialization info provided. Provide either windAltitudes AND winds, OR windFilePath")
  | .str p => ofTableFile p
  | _ => Sim.fail Fault.typeMismatch

/-- The mean wind at an altitude above ground. -/
def meanWind (m : MeanWindModel) (agl : Value) : Sim Value := do
  match m with
  | .constant w => pure w
  | .hellman ground limit alpha => do
    let h ← Ops.max (← Ops.min limit agl) (.int 10)
    Ops.mul ground (← Ops.pow (← Ops.div h (.int 10)) alpha)
  | .interpolated alts winds => do
    let w ← Interpolation.linear (← elements alts) (← elements winds) agl
    Sim.lift (Construct.vector (← elements w))

/-- The locations and weights of a line `location weight location weight …`. -/
def locationsAndWeights (text : String) : Sim (List String × List Float) := do
  let parts := Str.splitWs text
  let pairs ← (List.range ((parts.length + 1) / 2)).mapM fun i => do
    let some loc := parts[2 * i]? | Sim.fail Fault.badIndex
    let some w := parts[2 * i + 1]? | Sim.fail Fault.badIndex
    let some wf := FloatText.parse w | Sim.fail Fault.badValue
    pure (loc, wf)
  pure (pairs.map (·.1), pairs.map (·.2))

/-- A ground wind drawn from the wind roses the settings name. -/
def sampledGroundWind (r : Reader) : Config Value := do
  let (locations, weights) ← Config.sim (locationsAndWeights
    (← r.getText "SampledGroundWindData.locationsToSample"))
  let month ← r.getText "SampledGroundWindData.launchMonth"
  (.vec ·) <$> Config.sim (WindRose.sample locations weights month)

/-- The model the environment settings name (`MeanWindModel`). -/
def configure (r : Reader) : Config MeanWindModel := do
  match ← r.getString "MeanWindModel" with
  | .str "Constant" => (.constant ∘ .vec) <$> r.getVector "ConstantMeanWind.velocity"
  | .str "SampledGroundWindData" => .constant <$> sampledGroundWind r
  | .str "Hellman" =>
    let ground ← match ← r.getString "Hellman.groundWindModel" with
      | .str "Constant" => (some ∘ .vec) <$> r.getVector "ConstantMeanWind.velocity"
      | .str "SampledGroundWindData" => some <$> sampledGroundWind r
      | _ => pure none
    let alpha ← r.getFloat "Hellman.alphaCoeff"
    let limit ← r.getFloat "Hellman.altitudeLimit"
    let some ground := ground | Config.fail (Fault.bare .unboundLocalError)
    pure (.hellman ground (.float limit) (.float alpha))
  | .str "CustomWindProfile" => do
    let path ← r.getText "CustomWindProfile.filePath"
    Config.sim (ofTableFile path)
  | .str "SampledRadioSondeData" => do
    let (locations, weights) ← Config.sim (locationsAndWeights
      (← r.getText "SampledRadioSondeData.locationsToSample"))
    let altText ← r.getText "SampledRadioSondeData.locationASLAltitudes"
    let alts ← Config.sim ((Str.splitWs altText).mapM fun w => match FloatText.parse w with
      | some x => pure (Value.float x)
      | none => Sim.fail Fault.badValue)
    let month ← r.getString "SampledRadioSondeData.launchMonth"
    let seed := (← r.tryGetString "SampledRadioSondeData.randomSeed").getD .null
    let profile ← Config.sim (RadioSonde.sampleProfile (locations.map Value.str)
      (weights.map Value.float) alts month seed)
    match profile with
    | .tuple [alts, winds] => pure (.interpolated alts winds)
    | _ => Config.fail Fault.typeMismatch
  | other =>
    let text ← Config.sim (Sim.lift (Show.str other))
    Config.fail (Fault.raise .valueError ("Unknown MeanWindModel: " ++ text ++
      ". Please see SimDefinitionTemplate.txt for available options."))

/-- The model of the default settings, without a definition: the default constant wind. -/
def byDefault : Sim MeanWindModel := do
  let text := ((Definition.defaultValues.find? (·.1 == "Environment.ConstantMeanWind.velocity")).map (·.2)).getD ""
  (.constant ∘ .vec) <$> Sim.lift (Construct.parseVector text)

end MeanWindModel
end RocketSim
