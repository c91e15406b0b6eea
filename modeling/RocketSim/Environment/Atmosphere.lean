import RocketSim.Tables.Interpolation
import RocketSim.Tables.NumberTable
import RocketSim.Definition.Reader

/-!
# Atmosphere models

An atmosphere model gives the air's temperature (K), static pressure (Pa), density
(kg/m³) and dynamic viscosity (Pa·s) at an altitude above sea level:

* a constant atmosphere gives the same four values everywhere;
* a tabulated atmosphere interpolates a table of altitude, temperature, pressure, density
  and viscosity (in 10⁻⁵ Pa·s) linearly, holding the end rows beyond its ends;
* the 1976 standard atmosphere is a stack of layers of constant lapse rate in geopotential
  altitude.  Within a layer the temperature changes linearly and the pressure follows the
  hydrostatic law: a power of the temperature ratio, or an exponential in an isothermal
  layer.  Density follows from the ideal gas law and viscosity from Sutherland's law; above
  86 km the altitude is held there and the density is zero.

The temperature and pressure at the base of each standard layer are computed when a
standard atmosphere is set up and kept in the session, one row per layer for every model
set up so far.
-/

namespace RocketSim
namespace Atmosphere

/-- Base altitudes of the standard layers (m, geopotential). -/
def baseHeights : List Int := [-2000, 11000, 20000, 32000, 47000, 51000, 71000, 84852]

/-- Temperature lapse rates of the standard layers (K/m); isothermal layers are exact
zeros. -/
def lapseRates : List Value :=
  [.float (-6.5e-3), .int 0, .float 1.0e-3, .float 2.8e-3, .int 0, .float (-2.8e-3),
   .float (-2.0e-3), .int 0]

/-! ## The standard profile

The profile is written over any numbers with the elementary functions: the simulator runs it
over binary64 values, and over the reals it is the profile's exact meaning.  The base
altitudes are integers and the lapse rates of the isothermal layers are integer zeros; every
operation they take part in gives the same binary64 result as with the numbers below. -/

section Profile

variable {α : Type} [Scalar α] [Elementary α]

/-- Base altitudes of the standard layers (m, geopotential), as numbers. -/
def heights : List α :=
  [-2000.0, 11000.0, 20000.0, 32000.0, 47000.0, 51000.0, 71000.0, 84852.0]

/-- Temperature lapse rates of the standard layers (K/m), as numbers. -/
def rates : List α := [-6.5e-3, 0.0, 1.0e-3, 2.8e-3, 0.0, -2.8e-3, -2.0e-3, 0.0]

/-- Sea-level temperature (K). -/
def seaLevelTemp : α := 288.15
/-- Sea-level pressure (Pa). -/
def seaLevelPressure : α := 101325.0
/-- Molecular weight of air. -/
def molecularWeight : α := 28.9644
/-- Universal gas constant (J/mol·K). -/
def gasConstant : α := 8.31432
/-- Earth radius used for geopotential altitude (m). -/
def earthRadius : α := 6356766.0
/-- Standard gravity (m/s²). -/
def gravity : α := 9.80665
/-- The geopotential altitude the profile is held at above it (m). -/
def ceiling : α := 86000.0

/-- The item of a list at an index, counting from the end when negative. -/
def itemAt {β : Type} (xs : List β) (i : Int) : Outcome β :=
  let j := if i < 0 then i + xs.length else i
  if j < 0 then throw Fault.badIndex
  else match xs[j.toNat]? with
    | some x => pure x
    | none => throw Fault.badIndex

/-- The pressure ratio across a height `dh` of a layer with base temperature `tb` and lapse
rate `rate`: an exponential in an isothermal layer, a power of the temperature ratio
otherwise. -/
def pressureRatio (tb rate dh : α) : Outcome α :=
  if rate == 0.0 then
    Elementary.exp (-gravity * molecularWeight * dh / (gasConstant * tb * 1000.0))
  else
    Elementary.pow ((tb + rate * dh) / tb) (-gravity * molecularWeight / (gasConstant * rate * 1000.0))

/-- The temperature and pressure a height `dh` above the base of a layer with base
temperature `tb`, base pressure `pb` and lapse rate `rate`. -/
def withinLayer (tb pb rate dh : α) : Outcome (α × α) := do
  let ratio ← pressureRatio tb rate dh
  pure (tb + rate * dh, ratio * pb)

/-- One layer up: the bases so far and the last of them, with the base of layer `i`, the
top of layer `i - 1`, appended. -/
def nextBase (acc : List (α × α) × α × α) (i : Nat) : Outcome (List (α × α) × α × α) := do
  let (bases, tb, pb) := acc
  let dh := heights.getD i 0.0 - heights.getD (i - 1) 0.0
  let next ← withinLayer tb pb (rates.getD (i - 1) 0.0) dh
  pure (bases ++ [next], next)

/-- The base temperature and pressure of every standard layer: the lowest from sea level
along its lapse rate, each next one at the top of the layer below. -/
def layerBases : Outcome (List (α × α)) := do
  let rate0 := rates.getD 0 0.0
  let h0 := heights.getD 0 0.0
  let ratio ← Elementary.pow ((seaLevelTemp + rate0 * h0) / seaLevelTemp)
    (-gravity * molecularWeight / (gasConstant * rate0 * 1000.0))
  let first : α × α := (seaLevelTemp + rate0 * h0, ratio * seaLevelPressure)
  let (bases, _) ← (List.range' 1 ((heights : List α).length - 1)).foldlM nextBase
    ([first], first)
  pure bases

/-- The geopotential altitude of an altitude above sea level. -/
def geopotential (z : α) : Outcome α :=
  if earthRadius + z == 0.0 then throw Fault.zeroDivision
  else pure (earthRadius * z / (earthRadius + z))

/-- The layer of a geopotential altitude: one less than the number of base altitudes at or
below it (a bisection of the sorted bases), so `-1`, the top layer counted from the end, for
an altitude below the lowest base. -/
def layerOf (h : α) : Int := (heights.countP fun k => !decide (h < k) : Int) - 1

/-- The temperature and pressure at a geopotential altitude, in its layer, from the recorded
layer bases `bases`. -/
def inLayer (bases : List (α × α)) (h : α) : Outcome (α × α) := do
  let i := layerOf h
  let base ← itemAt heights i
  let rate ← itemAt rates i
  let (tb, pb) ← itemAt bases i
  withinLayer tb pb rate (h - base)

/-- The air at a geopotential altitude, from the recorded layer bases `bases`: temperature,
pressure, density (ideal gas law) and viscosity (Sutherland's law).  Above the ceiling the
altitude is held there and the density is zero. -/
def airAt (bases : List (α × α)) (h : α) : Outcome (List α) := do
  let capped := ceiling < h || ceiling == h
  let (temp, pressure) ← inLayer bases (if capped then ceiling else h)
  let rho := if capped then 0.0 else molecularWeight * pressure / (gasConstant * temp * 1000.0)
  let viscosity := 1.457e-6 * (← Elementary.pow temp 1.5) / (temp + 110.4)
  pure [temp, pressure, rho, viscosity]

/-- The standard atmosphere at an altitude above sea level. -/
def standardAt (bases : List (α × α)) (z : α) : Outcome (List α) := do
  airAt bases (← geopotential z)

end Profile

/-- Sets up a standard atmosphere: records the layer bases in the session. -/
def setUpStandard : Sim Unit := do
  let bases ← Sim.lift layerBases
  modify fun s => { s with atmosphereBase := s.atmosphereBase ++ bases }

/-- The standard atmosphere at an altitude above sea level: temperature, pressure, density
and viscosity, from the layer bases of every standard atmosphere set up so far. -/
def standardProperties (asl : Value) : Sim (List Value) := do
  let z ← Ops.real asl
  let air ← Sim.lift (standardAt (← get).atmosphereBase z)
  pure (air.map Value.float)

end Atmosphere

/-- An atmosphere model. -/
inductive AtmosphereModel where
  /-- The same properties everywhere. -/
  | constant (properties : List Value)
  /-- Properties interpolated in a table: altitudes, and rows of temperature, pressure,
  density and viscosity. -/
  | tabulated (altitudes : List Value) (rows : List Value)
  /-- The standard atmosphere. -/
  | standard
  deriving Inhabited

namespace AtmosphereModel

/-- The class name of a model. -/
def className : AtmosphereModel → String
  | .constant _ => "ConstantAtmosphere"
  | .tabulated _ _ => "TabulatedAtmosphere"
  | .standard => "USStandardAtmosphere"

/-- The standard atmosphere, once its layer bases are recorded. -/
def makeStandard : Sim AtmosphereModel := do
  Atmosphere.setUpStandard
  pure .standard

/-- The tabulated atmosphere of a table file (viscosity in 10⁻⁵ Pa·s). -/
def ofTableFile (path : String) : Sim AtmosphereModel := do
  let t ← NumberTable.load path 1
  let rows := t.map fun row =>
    Value.array ((row.drop 1).zipIdx.map fun (x, j) => .float (if j == 3 then x * 1e-05 else x))
  pure (.tabulated ((NumberTable.column t 0).map Value.float) rows)

/-- The air properties at an altitude above sea level. -/
def properties (m : AtmosphereModel) (asl : Value) : Sim Value := do
  match m with
  | .constant p => pure (.list p)
  | .tabulated keys rows => Interpolation.linear keys rows asl
  | .standard => (.list ·) <$> Atmosphere.standardProperties asl

/-- The model the environment settings name (`AtmosphericPropertiesModel`), read through a
reader of the environment dictionary. -/
def configure (r : Reader) : Config AtmosphereModel := do
  let modelType ← r.getString "AtmosphericPropertiesModel"
  match modelType with
  | .str "Constant" =>
    let c : Reader := { path := "Environment.ConstantAtmosphere" }
    let temp := (← c.getFloat "temp") + 273.15
    let pressure ← c.getFloat "pressure"
    let density ← c.getFloat "density"
    let viscosity ← c.getFloat "viscosity"
    pure (.constant [.float temp, .float pressure, .float density, .float viscosity])
  | .str "TabulatedAtmosphere" =>
    let path ← r.getText "TabulatedAtmosphere.filePath"
    let path ← Config.sim (Paths.absolute path)
    Config.sim (ofTableFile path)
  | .str "USStandardAtmosphere" => Config.sim makeStandard
  | other =>
    let text ← Config.sim (Sim.lift (Show.str other))
    Config.fail (Fault.raise .valueError ("Atmospheric model: " ++ text ++
      " not implemented, try using 'USStandardAtmosphere'"))

/-- The model of the default settings, without a definition. -/
def byDefault : Sim AtmosphereModel := do
  match (Definition.defaultValues.find? (·.1 == "Environment.AtmosphericPropertiesModel")).map (·.2) with
  | some "USStandardAtmosphere" => makeStandard
  | some "TabulatedAtmosphere" => do
    let path := ((Definition.defaultValues.find? (·.1 == "Environment.TabulatedAtmosphere.filePath")).map (·.2)).getD ""
    ofTableFile (← Paths.absolute path)
  | some "Constant" => Sim.fail (Fault.raise .valueError
      "envDictReader required to initialize Constant atm properties model")
  | some other => Sim.fail (Fault.raise .valueError ("Atmospheric model: " ++ other ++
      " not implemented, try using 'USStandardAtmosphere'"))
  | none => Sim.fail (Fault.missingKey "Environment.AtmosphericPropertiesModel")

end AtmosphereModel
end RocketSim
