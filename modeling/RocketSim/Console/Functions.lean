import RocketSim.Console.Calls.Aero
import RocketSim.Console.Calls.Motion
import RocketSim.Console.Calls.Environment
import RocketSim.Console.Calls.Definition
import RocketSim.Console.Calls.Analysis
import RocketSim.Console.Fixtures

/-!
# Library functions by name

The module-level functions a request can call (`fn`), found by module and name in the
tables of `Console.Calls`.  Function values (a library function named by a reference, or a
test callable) are applied through the same tables; functions that take function values
receive the way to apply them, with one level less of the nesting bound.
-/

namespace RocketSim
namespace Console

/-- The entry of the function tables for `module.name`, if there is one. -/
def lookup (apply : Apply) (module name : String) (args : List Value)
    (kwargs : List (String × Value)) : Option (Sim Value) :=
  match module with
  | "AeroParameters" => Calls.aeroParameters apply name args kwargs
  | "AeroFunctions" => Calls.aeroFunctions name args kwargs
  | "noseCone" => Calls.noseCone name args kwargs
  | "CythonFinFunctions" => Calls.finFunctions name args kwargs
  | "Interpolation" => Calls.interpolation name args kwargs
  | "RigidBodyStates" => Calls.rigidBodyStates name args kwargs
  | "Integration" => Calls.integration name args kwargs
  | "MeanWindModelling" => Calls.meanWind name args kwargs
  | "simDefinition" => Calls.definition name args kwargs
  | "gridConvergence" => Calls.gridConvergence apply name args kwargs
  | _ => none

/-- Applies a function value to positional arguments, within a nesting bound. -/
def callValue (fuel : Nat) (f : Value) (args : List Value) : Sim Value :=
  match fuel with
  | 0 => Sim.fail (Fault.bare (.other "RecursionError"))
  | fuel + 1 =>
    match f with
    | .func name p =>
      if name.startsWith "fixture." then
        match args with
        | [t, y] => Fixtures.apply (name.drop 8).toString p t y
        | _ => Sim.fail Fault.typeMismatch
      else
        match name.splitOn "." with
        | [m, n] => match lookup (callValue fuel) m n args [] with
          | some r => r
          | none => Sim.fail Fault.noAttribute
        | _ => Sim.fail Fault.typeMismatch
    | _ => Sim.fail Fault.typeMismatch

/-- The recursion bound of nested calls. -/
def callDepth : Nat := 50

/-- Applies a function value. -/
def applyValue (f : Value) (args : List Value) : Sim Value := callValue callDepth f args

/-- Calls a library function by module and name. -/
def runFunction (module name : String) (args : List Value) (kwargs : List (String × Value)) :
    Sim Value :=
  match lookup applyValue module name args kwargs with
  | some r => r
  | none => Sim.fail Fault.noAttribute

end Console
end RocketSim
