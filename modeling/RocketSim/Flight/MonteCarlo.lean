import RocketSim.Flight.Simulation

/-!
# Monte Carlo simulations

A Monte Carlo simulation runs the same definition `MonteCarlo.numberRuns` times.  Before
each run every probabilistic key of the definition is drawn anew from the definition's own
generator, so the runs differ, and one definition (with its generator and its usage record)
carries over from run to run.  From each run the flight of the launched rocket is kept:
its landing point, apogee, greatest speed, duration and greatest horizontal speed.

The Monte Carlo log records the number of runs, the start of each run and every value
drawn for it.
-/

namespace RocketSim
namespace Flight

/-- What a Monte Carlo simulation gathers: the number of runs, its log, and per run the
launched rocket's landing point, apogee, greatest speed, flight time and greatest horizontal
speed; and how many flight paths it kept. -/
structure MonteCarloResults where
  runs : Int
  log : List String
  landings : List Value := []
  apogees : List Value := []
  maxSpeeds : List Value := []
  flightTimes : List Value := []
  maxHorizontalSpeeds : List Value := []
  keptFlights : Nat := 0

namespace MonteCarloResults

/-- Adds the results of one flight. -/
def add (m : MonteCarloResults) (f : FlightRecord) (keepPath : Bool) : Sim MonteCarloResults := do
  let landing ← f.landing
  let apogee ← f.apogee
  let maxSpeed ← f.maxSpeed
  let flightTime ← f.flightTime
  let maxHorizontal ← f.maxHorizontalSpeed
  pure { m with landings := m.landings ++ [landing], apogees := m.apogees ++ [apogee],
                maxSpeeds := m.maxSpeeds ++ [maxSpeed], flightTimes := m.flightTimes ++ [flightTime],
                maxHorizontalSpeeds := m.maxHorizontalSpeeds ++ [maxHorizontal],
                keptFlights := if keepPath then m.keptFlights + 1 else m.keptFlights }

end MonteCarloResults

/-- Runs the Monte Carlo simulation of a definition, with plots off. -/
def monteCarlo (d : Definition) : Sim MonteCarloResults := do
  let d := (d.setValue "SimControl.plot" (.str "None")).setValue "SimControl.RocketPlot" (.str "Off")
  let (runs, d) ← (do Config.sim (Sim.lift (Value.toIntSetting
    (← Config.getValue "MonteCarlo.numberRuns")))).run d
  let (outputs, d) ← (Config.getValue "MonteCarlo.output").run d
  let keepPaths ← match outputs with
    | .str s => pure (Str.containsStr s "flightPaths")
    | _ => Sim.fail Fault.typeMismatch
  let mut results : MonteCarloResults :=
    { runs, log := ["", "Running Monte Carlo Simulation: " ++ toString runs ++ " runs"] }
  let mut d := d
  for i in List.range runs.toNat do
    results := { results with log := results.log ++ ["\nMonte Carlo Run #" ++ toString (i + 1)] }
    let (sampled, lines) ← Sim.lift (Definition.resampleReporting d)
    results := { results with log := results.log ++ lines }
    let w ← World.start sampled
    let (_, w) ← Mission.simulate.run w
    d := w.definition
    let some flight := w.flights.head? | Sim.fail Fault.badIndex
    results ← results.add flight keepPaths
  pure results

end Flight
end RocketSim
