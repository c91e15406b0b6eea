import RocketSim.Flight.Simulation
import RocketSim.Analysis.GridConvergence

/-!
# Time-step convergence

A convergence study runs one simulation again and again, each time with its time step
(or, for adaptive integration, its target error) divided by a refinement ratio, and
watches the final position of the launched rocket converge.  The simulation must end at a
fixed time; one that ends otherwise is first run once to find its end time, which then
becomes its end condition.  Probabilistic keys are not sampled during the study.

From the third run on, the last three final positions are checked for grid convergence,
component by component.  A study told to stop at convergence stops as soon as the mean
asymptotic check of the three components is within 0.1 of one and the checks differ by
less than 0.2.  All runs share the simulation's environment.
-/

namespace RocketSim
namespace Flight

/-- The settings of a convergence study: the refinement ratio, the most runs, and whether to
stop once convergence is asymptotic. -/
structure ConvergenceOptions where
  refinementRatio : Value := .int 2
  simLimit : Value := .int 10
  stopAtConvergence : Value := .bool false

/-- The outcome of a convergence study: the time steps (or target errors) run, the final
position of each run, and whether it stopped at convergence. -/
structure ConvergenceStudy where
  timeSteps : List Value := []
  finalPositions : List Value := []
  stopped : Bool := false

namespace Mission

/-- The last state's position of the launched rocket's flight. -/
def finalPosition : Mission Value := do
  let some f := (← get).flights.head? | fail Fault.badIndex
  sim (Ops.attr (← sim (FlightRecord.fromEnd (← sim (FlightRecord.itemsOf f.states)) 1))
    "position")

/-- Makes the simulation end at a fixed time, running it once to find its end time when it
ends otherwise. -/
def fixEndTime : Mission Unit := do
  let condition ← config (Config.getValue "SimControl.EndCondition")
  if condition.isText "Time" then return
  print "Running simulation to determine end time"
  discard simulate
  let some f := (← get).flights.head? | fail Fault.badIndex
  let endTime ← sim (FlightRecord.fromEnd (← sim (FlightRecord.itemsOf f.times)) 1)
  let text ← textOf endTime
  print ("Setting EndCondition = Time, EndConditionValue = " ++ text)
  let timed (d : Definition) : Definition :=
    (d.setValue "SimControl.EndCondition" (.str "Time")).setValue
      "SimControl.EndConditionValue" (.str text)
  modify fun w => { w with definition := timed w.definition }

/-- Whether the asymptotic checks of a convergence check show asymptotic convergence: their
mean within 0.1 of one and their spread below 0.2. -/
def converged (checks : List Value) : Mission Bool := do
  let total ← checks.foldlM (fun s c => sim (Ops.add s c)) (.int 0)
  let mean ← sim (Ops.div total (.int checks.length))
  let near ← sim (Ops.lt (← sim (Ops.abs (← sim (Ops.sub mean (.int 1))))) (.float 0.1))
  if !near then return false
  let some first := checks.head? | fail Fault.badValue
  let hi ← checks.foldlM (fun m c => sim (Ops.max m c)) first
  let lo ← checks.foldlM (fun m c => sim (Ops.min m c)) first
  sim (Ops.lt (← sim (Ops.sub hi lo)) (.float 0.2))

/-- Runs the simulation with ever finer time steps from the `count`-th run on, at most `fuel`
more runs, while the count stays within the limit. -/
def refine (o : ConvergenceOptions) (key : String) (step : Value) (study : ConvergenceStudy)
    (count : Nat) : Nat → Mission ConvergenceStudy
  | 0 => pure study
  | fuel + 1 => do
    if !(← sim (Ops.le (.int count) o.simLimit)) then return study
    let step ← sim (Ops.div step o.refinementRatio)
    let text ← textOf step
    modify fun w => { w with definition := w.definition.setValue key (.str text) }
    print ("Simulation " ++ toString count ++ ", Time step: " ++ text)
    discard simulate
    let study := { study with timeSteps := study.timeSteps ++ [step],
                              finalPositions := study.finalPositions ++ [← finalPosition] }
    match study.finalPositions.reverse with
    | f :: m :: c :: _ =>
      print "Checking convergence"
      let settings := GridConvergence.Settings.standard GridConvergence.valueOps o.refinementRatio
      let result ← sim (GridConvergence.check settings GridConvergence.uncertaintyTwoGrid c m f)
      let checks := ((result.items?.getD []).getD 3 .null).items?.getD []
      if o.stopAtConvergence.truthy && (← converged checks) then
        print "Simulation Converging Asymptotically"
        return { study with stopped := true }
    | _ => pure ()
    refine o key step study (count + 1) fuel

/-- Runs a convergence study of the world's definition. -/
def convergeEndPosition (o : ConvergenceOptions) : Mission ConvergenceStudy := do
  print ("Will attempt to converge final rocket position of simulation: " ++
    (← get).definition.fileText)
  let steady (d : Definition) : Definition :=
    ({ d with sampling := false }).setValue "SimControl.plot" (.str "None")
  modify fun w => { w with definition := steady w.definition }
  fixEndTime
  let method ← config (Config.getValue "SimControl.timeDiscretization")
  let adaptive := match method with
    | .str m => Str.containsStr m "Adaptive"
    | _ => false
  let key := if adaptive then "SimControl.TimeStepAdaptation.targetError"
    else "SimControl.timeStep"
  print "Starting convergence simulations"
  let first ← config do Config.sim (Sim.lift (Definition.numberOf (← Config.getValue key)))
  let start ← sim (Ops.mul (.float first) o.refinementRatio)
  refine o key start {} 1 100000

end Mission
end Flight
end RocketSim
