import RocketSim.Definition.Defaults
import RocketSim.Definition.Keys
import RocketSim.Definition.KeySet
import RocketSim.Core.Session

/-!
# Simulation definitions

A simulation definition is a flat dictionary from dotted keys to values (normally text),
in the order the keys were defined, backed by a table of default values.  Reading a key
returns its own value, else its default, else a default found through the class of an
enclosing dictionary; a key with none of these is missing.

A definition keeps track of which of its own keys were never read and which defaults were
used, so that a finished simulation can report keys that had no effect.
-/

namespace RocketSim

/-- A simulation definition: the file it came from, its entries in definition order, the
table of defaults, the usage record, and the settings of probabilistic sampling with the
definition's own random generator. -/
structure Definition where
  fileName : Option String := none
  entries : List (String × Value) := []
  defaults : List (String × String) := Definition.defaultValues
  unaccessed : List String := []
  defaultsUsed : List String := []
  silent : Bool := false
  sampling : Bool := true
  rng : Option RandomSource := none
  deriving Inhabited

namespace Definition

/-- The entries as a mapping: a later entry of a key replaces an earlier one in place. -/
def setEntry (es : List (String × Value)) (key : String) (v : Value) : List (String × Value) :=
  if es.any (·.1 == key) then es.map fun (k, w) => if k == key then (k, v) else (k, w)
  else es ++ [(key, v)]

/-- The value of a key among the definition's own entries. -/
def find? (d : Definition) (key : String) : Option Value :=
  (d.entries.find? (·.1 == key)).map (·.2)

/-- Whether the definition itself defines a key (defaults do not count). -/
def contains (d : Definition) (key : String) : Bool := d.entries.any (·.1 == key)

/-- The keys of the definition, in definition order. -/
def keys (d : Definition) : List String := d.entries.map (·.1)

/-- Inserts into a list kept as a set. -/
def addToSet (xs : List String) (x : String) : List String :=
  if xs.contains x then xs else xs ++ [x]

/-- The file name as the definition reports it in messages. -/
def fileText (d : Definition) : String := d.fileName.getD "None"

/-- The class-based default of a key: the nearest enclosing dictionary that names its class
decides; the default of `class.rest` is used if the table has it, and nothing otherwise.
Using it records the default and counts the class key as read. -/
def classDefault? (d : Definition) (key : String) : Option String × Definition :=
  let lvl := Keys.level key
  let rec search (fuel : Nat) (lvl : Int) : Option String × Definition :=
    match fuel with
    | 0 => (none, d)
    | fuel + 1 =>
      if lvl < 0 then (none, d) else
      let (pre, suf) := Keys.splitAtLevel key lvl
      let classKey := pre ++ ".class"
      match d.find? classKey with
      | some (.str cls) =>
        let defaultKey := cls ++ "." ++ suf
        match (d.defaults.find? (·.1 == defaultKey)).map (·.2) with
        | some v =>
          (some v, { d with defaultsUsed := addToSet d.defaultsUsed defaultKey
                            unaccessed := d.unaccessed.erase classKey })
        | none => (none, d)
      | some _ => (none, d)
      | none => search fuel (lvl - 1)
  search (key.length + 1) lvl

/-- Reads a key (surrounding whitespace removed): the definition's own value, its
default, or its class-based default, recording the access; a missing key is a key fault. -/
def getValue (d : Definition) (key : String) : Except Fault (Value × Definition) :=
  let key := Str.strip key
  match d.find? key with
  | some v => .ok (v, { d with unaccessed := d.unaccessed.erase key })
  | none =>
    match (d.defaults.find? (·.1 == key)).map (·.2) with
    | some v => .ok (.str v, { d with defaultsUsed := addToSet d.defaultsUsed key })
    | none =>
      match classDefault? d key with
      | (some v, d') => .ok (.str v, d')
      | (none, _) =>
        .error (Fault.missingKey ("Key: " ++ key ++ " not found in " ++ d.fileText ++
          " or default config values"))

/-- Sets a key (surrounding whitespace removed), adding it if absent. -/
def setValue (d : Definition) (key : String) (v : Value) : Definition :=
  { d with entries := setEntry d.entries (Str.strip key) v }

/-- Removes a key, returning its value if it was defined. -/
def removeKey (d : Definition) (key : String) : Option Value × Definition :=
  match d.find? key with
  | some v => (some v, { d with entries := d.entries.filter (·.1 != key) })
  | none => (none, d)

/-- Sets a key only if the definition does not define it yet. -/
def setIfAbsent (d : Definition) (key : String) (v : Value) : Definition :=
  if d.contains key then d else d.setValue key v

/-- The keys that contain every one of the given texts, in definition order; none if no
key does. -/
def keysContaining (d : Definition) (parts : List String) : Option (List String) :=
  match d.keys.filter fun k => parts.all (Str.containsStr k ·) with
  | [] => none
  | ks => some ks

/-- The keys inside a dictionary, in definition order. -/
def subKeysOf (es : List (String × Value)) (key : String) : List String :=
  (es.filter fun (k, _) => Keys.isSubKey key k).map (·.1)

/-- The keys inside a dictionary, in definition order. -/
def subKeys (d : Definition) (key : String) : List String := subKeysOf d.entries key

/-- The keys directly inside a dictionary that hold values, each once, listed as a set of
texts lists them (see `KeySet.listing`). -/
def immediateSubKeys (d : Definition) (key : String) : List String :=
  KeySet.listing (d.keys.filterMap fun k =>
    match Keys.immediateSubKey? key k with
    | some sub => if d.contains sub then some sub else none
    | none => none)

/-- The dictionaries directly inside a dictionary, each once, listed as a set of texts lists
them (see `KeySet.listing`). -/
def immediateSubDicts (d : Definition) (key : String) : List String :=
  let lvl := Keys.level key
  KeySet.listing ((d.subKeys key).filterMap fun k =>
    if Keys.level k - lvl > 1 then some (Keys.parentAtLevel k (lvl + 1)) else none)

/-- Starts the usage record: no key read yet, no default used. -/
def resetUsage (d : Definition) : Definition :=
  { d with unaccessed := d.keys, defaultsUsed := [] }

end Definition
end RocketSim
