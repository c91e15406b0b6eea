import RocketSim.Definition.Sampling

/-!
# Reading settings from a definition

The objects of a simulation read their settings from their own dictionary of the
definition: a reader for `Rocket.Sustainer.Nosecone` reads `mass` as
`Rocket.Sustainer.Nosecone.mass`, and falls back to the key as given when that is missing,
so absolute keys work too.  Settings are text; readers convert them to integers, numbers,
vectors and truth values the way the number and vector constructors read text, and the
`tryGet` forms give a fallback instead of failing on a missing key.

Reading records which keys were used, so reading runs in `Config`, a computation that
carries the definition along.
-/

namespace RocketSim

/-- A computation that reads (and records reads of) a simulation definition. -/
abbrev Config := StateT Definition Sim

namespace Config

/-- Lifts a session computation. -/
def sim {α : Type} (m : Sim α) : Config α := StateT.lift m

/-- Fails with a fault. -/
def fail {α : Type} (f : Fault) : Config α := sim (Sim.fail f)

/-- Reads a key of the definition. -/
def getValue (key : String) : Config Value := do
  match (← get).getValue key with
  | .ok (v, d) => set d; pure v
  | .error f => fail f

/-- Runs a read, giving none when its key is missing. -/
def orNone {α : Type} (m : Config α) : Config (Option α) :=
  tryCatch (some <$> m) fun f => if f.kind == .keyError then pure none else throw f

end Config

/-- The conversion of a setting to an integer: text that reads as one, or a number. -/
def Value.toIntSetting (v : Value) : Except Fault Int :=
  match v with
  | .str s => match FloatText.parseInt s with
    | some n => .ok n
    | none => .error Fault.badValue
  | .int n => .ok n
  | .bool b => .ok (if b then 1 else 0)
  | .float x => match Number.truncToInt x with
    | some n => .ok n
    | none => .error Fault.badValue
  | _ => .error Fault.typeMismatch

/-- The conversion of a setting to a truth value: `y`, `yes`, `t`, `true`, `on`, `1` and
`n`, `no`, `f`, `false`, `off`, `0`, in any case. -/
def Value.toBoolSetting (v : Value) : Except Fault Bool :=
  match v with
  | .str s =>
    let w := Str.lower s
    if ["y", "yes", "t", "true", "on", "1"].contains w then .ok true
    else if ["n", "no", "f", "false", "off", "0"].contains w then .ok false
    else .error Fault.badValue
  | _ => .error Fault.noAttribute

/-- A reader of one dictionary of a definition. -/
structure Reader where
  path : String
  deriving Inhabited

namespace Reader

/-- The setting `key` of the dictionary, or the key as given; a key missing both ways is a
key fault that names both. -/
def getString (r : Reader) (key : String) : Config Value := do
  let full := r.path ++ "." ++ key
  match ← Config.orNone (Config.getValue full) with
  | some v => pure v
  | none =>
    match ← Config.orNone (Config.getValue key) with
    | some v => pure v
    | none =>
      let d ← get
      Config.fail (Fault.missingKey (full ++ " and " ++ key ++ " not found in " ++ d.fileText ++
        " or in default value dictionary"))

/-- The setting as text. -/
def getText (r : Reader) (key : String) : Config String := do
  match ← r.getString key with
  | .str s => pure s
  | _ => Config.fail Fault.typeMismatch

/-- The setting as an integer. -/
def getInt (r : Reader) (key : String) : Config Int := do
  Config.sim (Sim.lift (Value.toIntSetting (← r.getString key)))

/-- The setting as a binary64 number. -/
def getFloat (r : Reader) (key : String) : Config Float := do
  Config.sim (Sim.lift (Definition.numberOf (← r.getString key)))

/-- The setting as a vector. -/
def getVector (r : Reader) (key : String) : Config Vec3 := do
  Config.sim (Sim.lift (Definition.vectorOf (← r.getString key)))

/-- The setting as a truth value. -/
def getBool (r : Reader) (key : String) : Config Bool := do
  Config.sim (Sim.lift (Value.toBoolSetting (← r.getString key)))

/-- The setting, or none when it is missing. -/
def tryGetString (r : Reader) (key : String) : Config (Option Value) :=
  Config.orNone (r.getString key)

/-- The setting as an integer, or none when it is missing. -/
def tryGetInt (r : Reader) (key : String) : Config (Option Int) := do
  match ← r.tryGetString key with
  | some v => some <$> Config.sim (Sim.lift (Value.toIntSetting v))
  | none => pure none

/-- The setting as a number, or none when it is missing. -/
def tryGetFloat (r : Reader) (key : String) : Config (Option Float) := do
  match ← r.tryGetString key with
  | some v => some <$> Config.sim (Sim.lift (Definition.numberOf v))
  | none => pure none

/-- The setting as a vector, or none when it is missing. -/
def tryGetVector (r : Reader) (key : String) : Config (Option Vec3) := do
  match ← r.tryGetString key with
  | some v => some <$> Config.sim (Sim.lift (Definition.vectorOf v))
  | none => pure none

/-- The setting as a truth value, or none when it is missing. -/
def tryGetBool (r : Reader) (key : String) : Config (Option Bool) := do
  match ← r.tryGetString key with
  | some v => some <$> Config.sim (Sim.lift (Value.toBoolSetting v))
  | none => pure none

/-- Runs a query for a key inside the dictionary, and for the key as given when that finds
nothing; without a key, for the dictionary itself. -/
def relative (r : Reader) (query : Definition → String → List String) (key : Option String) :
    Config (List String) := do
  let d ← get
  match key with
  | none => pure (query d r.path)
  | some k =>
    let inside := query d (r.path ++ "." ++ k)
    pure (if inside.isEmpty then query d k else inside)

/-- The dictionaries directly inside a dictionary. -/
def immediateSubDicts (r : Reader) (key : Option String := none) : Config (List String) :=
  r.relative Definition.immediateSubDicts key

/-- The keys inside a dictionary. -/
def subKeys (r : Reader) (key : Option String := none) : Config (List String) :=
  r.relative Definition.subKeys key

/-- The keys directly inside a dictionary. -/
def immediateSubKeys (r : Reader) (key : Option String := none) : Config (List String) :=
  r.relative Definition.immediateSubKeys key

/-- The last part of the dictionary's path. -/
def dictName (r : Reader) : String :=
  match Str.rfindStr r.path "." with
  | some i => Str.drop r.path (i + 1)
  | none => r.path

end Reader
end RocketSim
