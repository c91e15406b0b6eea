import RocketSim.Motion.IntegratorSettings
import RocketSim.Environment.Basic
import RocketSim.Motion.RigidBody
import RocketSim.Control.Actuator
import RocketSim.Control.Stabilizer
import RocketSim.Control.MomentController
import RocketSim.Control.Schedule
import RocketSim.Logs.Log
import RocketSim.Logs.Flight
import RocketSim.Logs.Capture
import RocketSim.Console.Binding

/-!
# Objects on request

A request may build an object of the simulator (an integrator, a wind model, a log, …),
call its methods one after the other and read its attributes.  `Instance` is the closed
family of such objects; values of the state algebra are objects too, and so are
simulation definitions and readers of their dictionaries, which other objects take as
arguments.

An attribute holds a value, an object, or a list of objects, so that a dotted path can
reach into the objects an object holds.  Constructor arguments are values, objects, or
lists of arguments.
-/

namespace RocketSim
namespace Console

/-- The objects a request can build. -/
inductive Instance where
  /-- A value of the state algebra. -/
  | value (v : Value)
  /-- A fixed-step or adaptive integrator, with the function called on discarded steps. -/
  | integrator (i : Integrator) (onDiscard : Value)
  /-- A simulation definition. -/
  | definition (d : Definition)
  /-- A reader of one dictionary of a simulation definition. -/
  | reader (r : Reader) (d : Definition)
  /-- An atmosphere model. -/
  | atmosphere (m : AtmosphereModel)
  /-- An earth model. -/
  | earth (m : EarthModel)
  /-- A mean wind model. -/
  | meanWind (m : MeanWindModel)
  /-- A sampler of ground winds from wind roses. -/
  | windRoses
  /-- A sampler of wind profiles from radio soundings. -/
  | soundings (silent : Bool)
  /-- A turbulence model. -/
  | turbulence (m : TurbulenceModel)
  /-- A pink noise generator. -/
  | pinkNoise (g : PinkNoise)
  /-- A launch rail. -/
  | launchRail (r : LaunchRail)
  /-- The environment of a flight. -/
  | environment (e : Environment)
  /-- A body in motion under a force and an inertia given as function values, with the
  derivative functions of its further state variables and the function called on
  discarded steps. -/
  | body (b : RigidBody) (force inertia : Value) (extras : List Value) (onDiscard : Value)
  /-- A PID controller, under the name of its class (plain, constant-gain, or a constant-gain
  moment controller). -/
  | pid (cls : String) (c : Pid)
  /-- A PID controller with gains scheduled by a table. -/
  | gainTablePid (s : GainTablePid)
  /-- A moment controller with gains scheduled by a table. -/
  | scheduledPid (s : ScheduledPid)
  /-- A first-order system with its response time. -/
  | firstOrderSystem (responseTime : Value)
  /-- A first-order actuator. -/
  | actuator (a : FirstOrderActuator)
  /-- A stabilizing navigator. -/
  | stabilizer (s : Stabilizer)
  /-- A linear interpolator of scattered data that falls back on the nearest point; `flat`
  when each point has a single value rather than a row of them. -/
  | scattered (t : ScatteredTable) (flat : Bool)
  /-- A controller commanding actuators to deflections looked up in a table: the table's
  file, the functions giving its flight-parameter keys, the table and the actuators. -/
  | actuatorTable (path keyFunctions : Value) (t : ScatteredTable) (actuators : List FirstOrderActuator)
  /-- A column log (a time-step log when it says so). -/
  | log (l : Log)
  /-- A flight record. -/
  | flight (f : FlightRecord)
  /-- A capture of console text. -/
  | capture (c : ConsoleCapture)
  deriving Inhabited

namespace Instance

/-- The class name of an object. -/
def className : Instance → String
  | .value v => v.typeName
  | .integrator (.classical _) _ => "ClassicalIntegrator"
  | .integrator (.adaptive _) _ => "AdaptiveIntegrator"
  | .definition _ => "SimDefinition"
  | .reader _ _ => "SubDictReader"
  | .atmosphere m => m.className
  | .earth m => m.className
  | .meanWind m => m.className
  | .windRoses => "WindRoseDataSampler"
  | .soundings _ => "RadioSondeDataSampler"
  | .turbulence m => m.className
  | .pinkNoise _ => "PinkNoiseGenerator"
  | .launchRail _ => "LaunchRail"
  | .environment _ => "Environment"
  | .body b _ _ _ _ => b.kind.className
  | .pid cls _ => cls
  | .gainTablePid _ => "ScheduledGainPIDController"
  | .scheduledPid _ => "ScheduledGainPIDRocketMomentController"
  | .firstOrderSystem _ => "FirstOrderSystem"
  | .actuator _ => "FirstOrderActuator"
  | .stabilizer _ => "Stabilizer"
  | .scattered _ _ => "NoNaNLinearNDInterpolator"
  | .actuatorTable .. => "TableInterpolatingActuatorController"
  | .log l => if l.timeSteps then "TimeStepLog" else "Log"
  | .flight _ => "RocketFlight"
  | .capture _ => "Logger"

/-- An object seen as a value: values are themselves, other objects are known by their
class name. -/
def asValue (o : Instance) : Value :=
  match o with
  | .value v => v
  | _ => .other o.className

end Instance

/-- What an attribute holds. -/
inductive Member where
  | value (v : Value)
  | object (o : Instance)
  | objects (os : List Instance)
  deriving Inhabited

namespace Member

/-- A member seen as a value. -/
def asValue : Member → Value
  | .value v => v
  | .object o => o.asValue
  | .objects os => .list (os.map Instance.asValue)

end Member

/-- A constructor argument. -/
inductive Arg where
  | value (v : Value)
  | object (o : Instance)
  | list (xs : List Arg)
  deriving Inhabited

namespace Arg

/-- An argument seen as a value. -/
def asValue : Arg → Value
  | .value v => v
  | .object o => o.asValue
  | .list xs => .list (xs.attach.map fun ⟨x, _⟩ => x.asValue)

/-- The objects of an argument that is a list of objects. -/
def objects (a : Arg) : Sim (List Instance) :=
  match a with
  | .list xs => xs.mapM fun x => match x with
    | .object o => pure o
    | _ => Sim.fail Fault.noAttribute
  | .object o => pure [o]
  | _ => Sim.fail Fault.typeMismatch

/-- The simulation definition an argument names, if it is one. -/
def definition? : Arg → Option Definition
  | .object (.definition d) => some d
  | _ => none

/-- The dictionary reader an argument names, if it is one. -/
def reader? : Arg → Option (Reader × Definition)
  | .object (.reader r d) => some (r, d)
  | _ => none

/-- Whether an argument is the absent value. -/
def isNull : Arg → Bool
  | .value .null => true
  | _ => false

end Arg

/-- Binds constructor arguments to declared parameters, as `bindParams` binds values. -/
def bindArgs (params : List Param) (args : List Arg) (kwargs : List (String × Arg)) :
    Sim (List Arg) := do
  if args.length > params.length then Sim.fail Fault.typeMismatch
  for (k, _) in kwargs do
    if !params.any (·.name == k) then Sim.fail Fault.typeMismatch
  params.zipIdx.mapM fun (p, i) => do
    let kw := (kwargs.find? (·.1 == p.name)).map (·.2)
    match args[i]?, kw with
    | some _, some _ => Sim.fail Fault.typeMismatch
    | some a, none => pure a
    | none, some v => pure v
    | none, none => match p.default with
      | some d => pure (.value d)
      | none => Sim.fail Fault.typeMismatch

/-- Runs a configuration step on a definition, for its result. -/
def configured {α : Type} (c : Config α) (d : Definition) : Sim α := do
  let (x, _) ← c.run d
  pure x

/-- The text of a value that names something: a string as it is, another value as it
prints. -/
def nameText (v : Value) : Sim String :=
  match v with
  | .str s => pure s
  | _ => Sim.lift (Show.str v)

end Console
end RocketSim
