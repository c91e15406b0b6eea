import RocketSim.Flight.Sweep
import RocketSim.Flight.MonteCarlo
import RocketSim.Flight.Convergence
import RocketSim.Console.Rockets

/-!
# Whole simulations on request

A simulation request reads a definition as a rocket request does and runs the whole
simulation.  Its answer summarizes each flight (the launched rocket's, then each dropped
stage's): the number of states recorded, the last time and state, the apogee, the greatest
speed and horizontal speed, the landing point (or the fault computing it), the engine
shut-off and main parachute times, about forty sampled positions and velocities, the last
deflection of the first actuator, whether the rocket hangs under a parachute, and the kind
of body it ended as.  On request it also gives the text of every log file written, by its
path below the working directory.
-/

namespace RocketSim
namespace Console
namespace Simulations

open Flight

/-- The indices of the sampled states of a flight of `n` states: every `⌈n / 40⌉`-th from
the first, and the last. -/
def sampleIndices (n : Nat) : List Nat :=
  let step := (n + 39) / 40
  let picked := (List.range n).filter fun i => i % step == 0
  if n > 0 && (n - 1) % step != 0 then picked ++ [n - 1] else picked

/-- The last deflection of a flight's first actuator, as a one-item list, or nothing for an
uncontrolled flight. -/
def lastDeflection (f : FlightRecord) : Sim Json := do
  match f.actuatorDefls with
  | .null => pure .null
  | v =>
    let some first := (← FlightRecord.itemsOf v).head? | Sim.fail Fault.badIndex
    pure (.arr [encode (← FlightRecord.fromEnd (← FlightRecord.itemsOf first) 1)])

/-- The summary of one flight, with the rocket that flew it as it ended. -/
def summary (f : FlightRecord) (r : Rocket) : Sim Json := do
  let states ← FlightRecord.itemsOf f.states
  let times ← FlightRecord.itemsOf f.times
  let samples ← (sampleIndices states.length).mapM fun i => do
    let s := states.getD i .null
    pure (Json.arr [encode (times.getD i .null), encode (← Ops.attr s "position"),
      encode (← Ops.attr s "velocity")])
  let landing ← tryCatch (encode <$> f.landing) fun e => pure (encodeFault e)
  pure (.obj [("nStates", .int states.length),
    ("finalTime", encode (← f.flightTime)),
    ("finalState", encode (← FlightRecord.fromEnd states 1)),
    ("apogee", encode (← f.apogee)),
    ("maxSpeed", encode (← f.maxSpeed)),
    ("maxHorizontalVel", encode (← f.maxHorizontalSpeed)),
    ("landing", landing),
    ("engineOffTime", encode f.engineOffTime),
    ("mainChuteDeployTime", encode f.mainChuteDeployTime),
    ("samples", .arr samples),
    ("actuatorDefls", ← lastDeflection f),
    ("isUnderChute", .bool r.underChute),
    ("rigidBody", .str r.body.kind.className)])

/-- A log file's path below the working directory: its path there, or its folder's name and
its own for a file elsewhere. -/
def shownPath (path : String) : String :=
  match Paths.below Paths.workingDirectory path with
  | some rel => rel
  | none =>
    let parts := Str.splitOn path "/"
    "/".intercalate (parts.drop (parts.length - 2))

/-- The text of each log file written, by its path below the working directory. -/
def logTexts (paths : Option (List String)) : Sim Json := do
  let logs ← (paths.getD []).filterMapM fun p => do
    match ← tryCatch (some <$> Paths.readText p) fun _ => pure none with
    | some text => pure (some (shownPath p, Json.str text))
    | none => pure none
  pure (.obj logs)

/-- Answers a simulation request. -/
def answer (req : Json) : Sim Json := do
  let d ← Rockets.definitionFor req
  let w ← World.start d
  let (paths, w) ← Mission.simulate.run { w with crashExits := false }
  let stages ← (w.flights.zip w.rockets).mapM fun (f, r) => summary f r
  let wantLogs := match req.get? "logs" with
    | some (.bool b) => b
    | _ => false
  if !wantLogs then return .obj [("stages", .arr stages)]
  pure (.obj [("stages", .arr stages), ("logs", ← logTexts paths)])

/-- The text of a request field, or a default. -/
def textField (req : Json) (key default : String) : String :=
  ((req.get? key).bind Json.getStr?).getD default

/-- Answers a wind-tunnel sweep request. -/
def answerSweep (req : Json) : Sim Json := do
  let d ← Rockets.definitionFor req
  let d := d.setValue "SimControl.loggingLevel" (.str (textField req "loggingLevel" "3"))
  let parameters ← match req.get? "parameters" with
    | some (.arr xs) => xs.mapM fun x => match x with
      | .str k => pure k
      | _ => Sim.fail Fault.typeMismatch
    | _ => pure ({} : Sweep).parameters
  let values ← match req.get? "values" with
    | some (.arr xss) => xss.mapM fun xs => match xs with
      | .arr ys => ys.mapM fun y => Sim.lift (readValue y)
      | _ => Sim.fail Fault.typeMismatch
    | _ => pure ({} : Sweep).values
  let s : Sweep := { parameters, values, smoothLine := .str (textField req "smoothLine" "False") }
  Sim.lift s.check
  let w ← World.start d
  let ((values, paths), _) ← (Mission.sweep s).run w
  pure (.obj [("parameterValues", encode (.list (values.map Value.list))),
    ("logs", ← logTexts paths)])

/-- Answers a Monte Carlo request. -/
def answerMonteCarlo (req : Json) : Sim Json := do
  let m ← monteCarlo (← Rockets.definitionFor req)
  let values (xs : List Value) : Json := .arr (xs.map encode)
  pure (.obj [("nRuns", .int m.runs), ("log", .arr (m.log.map Json.str)),
    ("landingLocations", values m.landings), ("apogees", values m.apogees),
    ("maxSpeeds", values m.maxSpeeds), ("flightTimes", values m.flightTimes),
    ("maxHorizontalVels", values m.maxHorizontalSpeeds), ("nFlights", .int m.keptFlights)])

/-- Answers a convergence study request. -/
def answerConvergence (req : Json) : Sim Json := do
  let d ← Rockets.definitionFor req
  let option (key : String) (default : Value) : Sim Value :=
    match (req.get? "options").bind (·.get? key) with
    | some j => Sim.lift (readValue j)
    | none => pure default
  let o : ConvergenceOptions :=
    { refinementRatio := ← option "refinementRatio" (.int 2),
      simLimit := ← option "simLimit" (.int 10),
      stopAtConvergence := ← option "stopAtConvergence" (.bool false) }
  let w ← World.start d
  let (study, w) ← (Mission.convergeEndPosition o).run w
  let (condition, d) ← (Config.getValue "SimControl.EndCondition").run w.definition
  let (conditionValue, _) ← (Config.getValue "SimControl.EndConditionValue").run d
  pure (.obj [("timeSteps", .arr (study.timeSteps.map encode)),
    ("finalPositions", .arr (study.finalPositions.map encode)),
    ("stoppedAtConvergence", .bool study.stopped),
    ("endCondition", encode condition), ("endConditionValue", encode conditionValue)])

end Simulations
end Console
end RocketSim
