import RocketSim.Core.Ops

/-!
# Binding call arguments

A library function declares its parameters by name, some with defaults.  A call binds its
positional arguments in order and its keyword arguments by name: too many arguments, an
unknown or repeated keyword, or a missing argument without default is a type fault.
Memoized functions take positional arguments only, because their memo is keyed on the
positional arguments.

Functions that call back into user-supplied functions receive an `Apply`, the way to call
a function value.
-/

namespace RocketSim
namespace Console

/-- The way to call a function value with positional arguments. -/
abbrev Apply := Value → List Value → Sim Value

/-- A declared parameter: its name and its default, if it has one. -/
structure Param where
  name : String
  default : Option Value := none

/-- A required parameter. -/
def req (name : String) : Param := { name }

/-- A parameter with a default. -/
def opt (name : String) (v : Value) : Param := { name, default := some v }

/-- Binds arguments to declared parameters. -/
def bindParams (params : List Param) (args : List Value) (kwargs : List (String × Value)) :
    Sim (List Value) := do
  if args.length > params.length then Sim.fail Fault.typeMismatch
  for (k, _) in kwargs do
    if !params.any (·.name == k) then Sim.fail Fault.typeMismatch
  params.zipIdx.mapM fun (p, i) => do
    let kw := (kwargs.find? (·.1 == p.name)).map (·.2)
    match args[i]?, kw with
    | some _, some _ => Sim.fail Fault.typeMismatch
    | some a, none => pure a
    | none, some v => pure v
    | none, none => match p.default with
      | some d => pure d
      | none => Sim.fail Fault.typeMismatch

/-- Binds the positional arguments of a memoized function; keywords are refused. -/
def bindMemo (params : List Param) (args : List Value) (kwargs : List (String × Value)) :
    Sim (List Value) := do
  if !kwargs.isEmpty then Sim.fail Fault.typeMismatch
  bindParams params args []

/-- The items of a sequence argument; array entries read as array scalars. -/
def seqItems (v : Value) : Sim (List Value) :=
  match v with
  | .array xs => pure (xs.map fun x => match x with
    | .float f => .arrayScalar f
    | other => other)
  | .list xs | .tuple xs => pure xs
  | _ => match v.items? with
    | some xs => pure xs
    | none => Sim.fail Fault.typeMismatch

/-- A column vector as a numeric array of one-entry rows. -/
def column (xs : List Float) : Value := .array (xs.map fun x => .array [.float x])

end Console
end RocketSim
