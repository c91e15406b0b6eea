import RocketSim.Flight.Simulation
import RocketSim.Text.Formula
import RocketSim.Definition.Writer

/-!
# Optimization problems

A definition's `Optimization` dictionary states an optimization problem over its own
simulation:

* `costFunction`, a formula of the launched rocket's flight (`flightTime`, `apogee`,
  `maxSpeed`, `maxHorizontalVel`) to minimize;
* `IndependentVariables`, one key per variable, written `min < path.To.Key < max`: the
  variable, known to formulas by its key's last part, sets the definition key between the
  bounds;
* `DependentVariables`, keys set from the independent variables: their text, with each
  formula between exclamation marks replaced by its value;
* `method`, the search: `PSO` (a particle swarm, the default) or
  `scipy.optimize.minimize` followed by a minimizer's name.

A trial is a list of values, one per independent variable in order (possibly fewer).  Its
cost comes from a whole simulation of a copy of the definition with the trial's values set.
A trial whose simulation crashes has no cost: the crash exits.
-/

namespace RocketSim
namespace Optimize

open Flight

/-- An independent variable: the definition key it sets, the name formulas know it by, and
the bounds of its range. -/
structure Variable where
  key : String
  name : String
  low : Float
  high : Float

/-- A dependent variable: the definition key it sets and the text it is set to, formulas
of the independent variables standing between exclamation marks. -/
structure Dependent where
  key : String
  definition : String

/-- The settings of a particle swarm: its size and number of iterations, the cognitive,
social and inertia weights, the particles' starting positions and velocities, and whether a
convergence plot was asked for (read as a truth setting). -/
structure SwarmSettings where
  particles : Int
  iterations : Int
  cognitive : Float
  social : Float
  inertia : Float
  positions : List (List Float)
  velocities : List (List Float)
  showConvergence : Option Bool

/-- How the optimum is searched for: by a particle swarm, or by a named minimizer started
from the middle of the variables' ranges. -/
inductive Method where
  | swarm (s : SwarmSettings)
  | minimize (name : String) (showConvergence : Option Bool)

/-- An optimization problem read from a definition. -/
structure Problem where
  /-- The definition every trial starts from (plots off). -/
  definition : Definition
  costFunction : String
  independents : List Variable
  dependents : List Dependent
  /-- A best position and cost carried over from an earlier search, given together. -/
  bestPosition : Option (List Float)
  bestCost : Option Float
  method : Method

/-- The reader of the `Optimization` dictionary. -/
def reader : Reader := { path := "Optimization" }

/-- The last part of a dotted key. -/
def lastPart (key : String) : String := ((Str.splitOn key ".").getLast?).getD key

/-- The display of a list of strings, each quoted. -/
def namesText (xs : List String) : Sim String := Sim.lift (Show.str (.list (xs.map .str)))

/-- The display of a number. -/
def numberText (x : Float) : String := FloatText.repr x

/-- The fault of an independent variable not written as `min < key < max`. -/
def boundsFault (key : String) (parts : List String) : Fault :=
  Fault.raise .valueError ("Parameters in the Optimization.IndependentVariables dictionary " ++
    "should be scalars and conform to the following format: " ++
    "'[minValue] < [path.To.Parameter] < [maxValue]'" ++ Str.rep 33 ' ' ++ "Problem key is " ++
    key ++ ", which has a value of " ++ " ".intercalate parts)

/-- Reads a number setting's text. -/
def number (text : String) : Config Float := Config.sim (Sim.lift (Definition.numberOf (.str text)))

/-- Reads the independent variables. -/
def readVariables : Config (List Variable) := do
  let keys ← reader.immediateSubKeys (some "IndependentVariables")
  keys.mapM fun key => do
    let parts := Str.splitOn (← reader.getText key) "<"
    match parts.map Str.strip with
    | [low, path, high] =>
      let low ← number low
      let high ← number high
      pure { key := path, name := lastPart key, low, high }
    | _ => Config.fail (boundsFault key parts)

/-- A dependent variable's key: its full key with everything from `Optimization` up to and
including the last `DependentVariables` and the character after it taken out. -/
def dependentKey (key : String) : String :=
  let prefixText := "Optimization".toList
  let middle := "DependentVariables".toList
  -- The rest after the last `DependentVariables` (and one more character) in `cs`, if any.
  let afterLast (cs : List Char) : Option (List Char) :=
    (List.range cs.length).reverse.findSome? fun k =>
      let rest := cs.drop k
      if Str.listStartsWith rest middle && rest.length > middle.length then
        some (rest.drop (middle.length + 1))
      else none
  let rec strip : List Char → Nat → List Char
    | cs, 0 => cs
    | [], _ => []
    | c :: cs, fuel + 1 =>
      if Str.listStartsWith (c :: cs) prefixText then
        match afterLast ((c :: cs).drop prefixText.length) with
        | some rest => strip rest fuel
        | none => c :: strip cs fuel
      else c :: strip cs fuel
  String.ofList (strip key.toList (key.length + 1))

/-- Reads the dependent variables. -/
def readDependents : Config (List Dependent) := do
  let keys ← reader.subKeys (some "DependentVariables")
  keys.mapM fun key => do pure { key := dependentKey key, definition := ← reader.getText key }

/-- Reads a best position and cost carried over from an earlier search: both or neither. -/
def readBest : Config (Option (List Float) × Option Float) := do
  let position ← reader.tryGetString "IndependentVariables.InitialParticlePositions.bestPosition"
  let cost ← reader.tryGetFloat "IndependentVariables.InitialParticlePositions.bestCost"
  match position, cost with
  | some p, some c =>
    let text ← match p with
      | .str s => pure s
      | _ => Config.fail Fault.noAttribute
    pure (some (← (Str.splitOn text " ").mapM number), some c)
  | none, none => pure (none, none)
  | p, c =>
    let positionText := match p with
      | some (.str s) => s
      | _ => "None"
    let costText := (c.map numberText).getD "None"
    Config.fail (Fault.raise .valueError ("Please specify bestPosition and bestCost or neither, " ++
      "current values: " ++ positionText ++ " and " ++ costText ++ ", respectively"))

/-- The fault of an initial particle position outside its variable's range. -/
def outsideFault (v : Variable) (dict : String) (value : Float) : Fault :=
  Fault.raise .valueError (v.name ++ " value in initial particle position: " ++ dict ++ " (" ++
    numberText value ++ ") outside of expected range (" ++ numberText v.low ++ "-" ++
    numberText v.high)

/-- A draw from the array generator, evenly spread between two bounds. -/
def uniformBetween (low high : Float) : Sim Float := do
  pure (low + (high - low) * (← Sim.arrayUniform))

/-- An array's worth of draws in `[0, 1)`, row by row. -/
def uniformRows (rows columns : Nat) : Sim (List (List Float)) :=
  (List.range rows).mapM fun _ => (List.range columns).mapM fun _ => Sim.arrayUniform

/-- The starting position of the `i`-th particle: the values its dictionary in
`IndependentVariables.InitialParticlePositions` gives, which must lie within range, and
draws between the bounds for the rest. -/
def particlePosition (vars : List Variable) (dicts : List String) (i : Nat) :
    Config (List Float) := do
  let names := vars.map (·.name)
  let (dict, paths) ← match dicts[i]? with
    | some dict => do
      let paths ← reader.immediateSubKeys (some dict)
      for path in paths do
        if !names.contains (lastPart path) then
          Config.fail (Fault.raise .valueError ("Variable " ++ path ++ " not expected in " ++
            dict ++ ". Only expecting independent variables: " ++ (← Config.sim (namesText names))))
      pure (dict, paths)
    | none => pure ("", [])
  vars.mapM fun v => do
    match paths.find? (lastPart · == v.name) with
    | some path =>
      let value ← reader.getFloat path
      if value < v.low || value > v.high then Config.fail (outsideFault v dict value)
      pure value
    | none => Config.sim (uniformBetween v.low v.high)

/-- Reads the particle swarm's settings and places its particles. -/
def readSwarm (vars : List Variable) (best : Option (List Float)) : Config SwarmSettings := do
  let count ← reader.getInt "ParticleSwarm.nParticles"
  let dicts ← reader.immediateSubDicts (some "IndependentVariables.InitialParticlePositions")
  if (dicts.length : Int) > count then
    Config.fail (Fault.raise .valueError ("Number of initial particle positions: " ++
      toString dicts.length ++ "(" ++ (← Config.sim (namesText dicts)) ++
      ") cannot exceed the total number of particles: " ++ toString count))
  if count < 0 then Config.fail Fault.badValue
  let positions ← (List.range count.toNat).mapM (particlePosition vars dicts)
  let swarm : Reader := { path := "Optimization.ParticleSwarm" }
  let particles := (← swarm.tryGetInt "nParticles").getD 20
  let iterations := (← swarm.tryGetInt "nIterations").getD 50
  let cognitive := (← swarm.tryGetFloat "cognitiveParam").getD 0.5
  let social := (← swarm.tryGetFloat "socialParam").getD 0.6
  let inertia := (← swarm.tryGetFloat "inertiaParam").getD 0.9
  if particles < 0 then Config.fail Fault.badValue
  -- The swarm is set up twice, drawing its velocities each time; the second draw stays.
  discard (Config.sim (uniformRows particles.toNat vars.length))
  let velocities ← Config.sim (uniformRows particles.toNat vars.length)
  -- A carried-over best position of several values cannot be told apart from none.
  if (best.map (·.length)).getD 0 > 1 then Config.fail Fault.badValue
  let showConvergence ← reader.tryGetBool "showConvergencePlot"
  pure { particles, iterations, cognitive, social, inertia, positions, velocities,
         showConvergence }

/-- Reads the parts of a problem every method shares, and the method's own settings. -/
def readProblem (method : Config Method) : Config Problem := do
  let costFunction ← reader.getText "costFunction"
  let independents ← readVariables
  let dependents ← readDependents
  let (bestPosition, bestCost) ← readBest
  discard (reader.getText "Optimization.costFunction")
  let m ← method
  pure { definition := ← get, costFunction, independents, dependents, bestPosition, bestCost,
         method := m }

/-- Reads the optimization problem of a definition, with plots turned off for its trials. -/
def read (d : Definition) : Sim Problem := do
  let d := (d.setValue "SimControl.plot" (.str "None")).setValue "SimControl.RocketPlot" (.str "Off")
  let readAll : Config Problem := do
    let method := match ← reader.tryGetString "method" with
      | some (.str s) => s
      | _ => "PSO"
    if method == "PSO" then
      let p ← readProblem (pure (.minimize "" none))
      let swarm ← readSwarm p.independents p.bestPosition
      pure { p with method := .swarm swarm, definition := ← get }
    else if Str.containsStr method "scipy.optimize.minimize" then
      let text ← reader.getText "method"
      let words := Str.splitOn text " "
      if words.length > 2 then
        Config.fail (Fault.raise .valueError ("Unexpected format for optimization method. " ++
          "Expected scipy.optimize.minimize [method], got: " ++ text))
      let some name := words[1]? | Config.fail Fault.badIndex
      readProblem (do pure (.minimize name (← reader.tryGetBool "showConvergencePlot")))
    else
      Config.fail (Fault.raise .valueError ("Optimization method: " ++ method ++
        " not implemented, try PSO"))
  let (p, d) ← readAll.run d
  pure { p with definition := d }

namespace Problem

/-- Sets the independent variables of a definition to a trial's values, in order; returns
the definition and the trial's values by variable name. -/
def setIndependent (p : Problem) (d : Definition) (trial : List Value) :
    Sim (Definition × List (String × Value)) :=
  trial.zipIdx.foldlM (fun (d, named) (x, i) => do
    let some v := p.independents[i]? | Sim.fail Fault.badIndex
    let d := d.setValue v.key (.str (← Sim.lift (Show.str x)))
    pure (d, (named.filter (·.1 != v.name)) ++ [(v.name, x)])) (d, [])

/-- Sets the dependent variables of a definition, each formula between exclamation marks
evaluated with the independent variables' values. -/
def setDependent (p : Problem) (d : Definition) (named : List (String × Value)) :
    Sim Definition :=
  p.dependents.foldlM (fun d dep => do
    let parts ← (Str.splitOn dep.definition "!").zipIdx.mapM fun (part, j) => do
      if j % 2 == 1 then Sim.lift (Show.str (← Sim.lift (Formula.evaluate part named)))
      else pure part
    pure (d.setValue dep.key (.str (String.join parts)))) d

/-- The definition of a trial, and the trial's values by variable name. -/
def trialDefinition (p : Problem) (trial : List Value) :
    Sim (Definition × List (String × Value)) := do
  let (d, named) ← p.setIndependent p.definition trial
  pure (← p.setDependent d named, named)

/-- The cost of a trial: the cost function of the launched rocket's flight in a whole
simulation of the trial's definition. -/
def cost (p : Problem) (trial : List Value) : Sim Value := do
  let (d, _) ← p.trialDefinition trial
  let (_, w) ← Mission.simulate.run (← World.start d)
  let some f := w.flights.head? | Sim.fail Fault.badIndex
  if Str.hasChar p.costFunction ':' then
    -- A cost function named as `module:function` must be importable; none is.
    match Str.splitOn p.costFunction ":" with
    | [m, _] =>
      if m.isEmpty then Sim.fail Fault.badValue
      else Sim.fail (Fault.bare (.other "ModuleNotFoundError"))
    | _ => Sim.fail Fault.badValue
  let flightTime ← f.flightTime
  let apogee ← f.apogee
  let maxSpeed ← f.maxSpeed
  let maxHorizontal ← f.maxHorizontalSpeed
  Sim.lift (Formula.evaluate p.costFunction [("flightTime", flightTime), ("apogee", apogee),
    ("maxSpeed", maxSpeed), ("maxHorizontalVel", maxHorizontal)])

/-- The costs of a list of trials. -/
def costs (p : Problem) (trials : List (List Value)) : Sim (List Value) := trials.mapM p.cost

/-- The starting point of a minimizer: the middle of each variable's range. -/
def center (p : Problem) : List Float := p.independents.map fun v => (v.low + v.high) / 2

/-- The path of the continuation file of the definition's file. -/
def continuationPath (p : Problem) : Sim String := do
  let some name := p.definition.fileName | Sim.fail Fault.noAttribute
  pure (Str.replace name ".mapleaf" "_continue.mapleaf")

/-- Writes a definition as the continuation file, returning its text. -/
def writeContinuation (p : Problem) (d : Definition) : Sim String := do
  let path ← p.continuationPath
  let text ← Sim.lift (d.writtenText path true)
  Paths.writeText path text
  pure text

end Problem

end Optimize
end RocketSim
