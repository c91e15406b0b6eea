import RocketSim.Definition.Keys
import RocketSim.Definition.Paths
import RocketSim.Console.Binding

/-!
# Simulation definition functions by name

The functions on dotted keys and on file names of simulation definitions.
-/

namespace RocketSim
namespace Console
namespace Calls

/-- The text of a string argument; any other value is a type fault. -/
def text (v : Value) : Sim String :=
  match v with
  | .str s => pure s
  | _ => Sim.fail Fault.typeMismatch

/-- The key and file name functions. -/
def definition (name : String) (args : List Value) (kwargs : List (String × Value)) :
    Option (Sim Value) :=
  match name with
  | "isSubKey" => some <| do
    let [p, c] ← bindParams [req "potentialParent", req "potentialChild"] args kwargs
      | Sim.fail Fault.typeMismatch
    if p matches .str "" then return .bool true
    pure (.bool (Keys.isSubKey (← text p) (← text c)))
  | "getKeyLevel" => some <| do
    let [k] ← bindParams [req "key"] args kwargs | Sim.fail Fault.typeMismatch
    pure (.int (Keys.level (← text k)))
  | "getParentKeyAtLevel" => some <| do
    let [k, l] ← bindParams [req "key", req "desiredLevel"] args kwargs
      | Sim.fail Fault.typeMismatch
    let l ← match l with
      | .int n => pure n
      | _ => Sim.fail Fault.typeMismatch
    pure (.str (Keys.parentAtLevel (← text k) l))
  | "getImmediateSubKey" => some <| do
    let [p, c] ← bindParams [req "parent", req "child"] args kwargs
      | Sim.fail Fault.typeMismatch
    let p ← text p
    let c ← text c
    match Keys.immediateSubKey? p c with
    | some k => pure (.str k)
    | none => Sim.fail (Fault.raise .valueError s!"{c} is not a subkey of {p}")
  | "splitKeyAtLevel" => some <| do
    let [k, l] ← bindParams [req "key", req "prefixLevel"] args kwargs
      | Sim.fail Fault.typeMismatch
    let l ← match l with
      | .int n => pure n
      | _ => Sim.fail Fault.typeMismatch
    let (a, b) := Keys.splitAtLevel (← text k) l
    pure (.tuple [.str a, .str b])
  | "isFileName" => some <| do
    let [v] ← bindParams [req "value"] args kwargs | Sim.fail Fault.typeMismatch
    pure (.bool (Keys.isFileName (← text v)))
  | "pathIsRelativeToRepository" => some <| do
    let [v] ← bindParams [req "possiblePath"] args kwargs | Sim.fail Fault.typeMismatch
    pure (.bool (Keys.isRepositoryPath (← text v)))
  | "getAbsoluteFilePath" => some <| do
    let [r, a, _] ← bindParams [req "relativePath", opt "alternateRelativeLocation" (.str ""),
        opt "silent" (.bool false)] args kwargs
      | Sim.fail Fault.typeMismatch
    (.str ·) <$> Paths.absolute (← text r) (← text a)
  | _ => none

end Calls
end Console
end RocketSim
