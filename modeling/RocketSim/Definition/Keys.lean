import RocketSim.Text.Str

/-!
# Keys of a simulation definition

A simulation definition is a flat dictionary whose keys are dotted paths through nested
dictionaries: `Rocket.Sustainer.Nosecone.mass` is the `mass` entry of the `Nosecone`
dictionary inside `Sustainer` inside `Rocket`.  The level of a key is its number of dots;
a key is a sub-key of another when it continues it past a dot.  Every key is a sub-key of
the empty key, whose level is `-1`.

Values that name files are recognized by their extension, and a path that starts with the
repository's package directory is read relative to the repository.
-/

namespace RocketSim
namespace Keys

/-- Whether `child` lies inside the dictionary `parent`: it continues `parent` past a dot.
Every key lies inside the empty key. -/
def isSubKey (parent child : String) : Bool :=
  if parent.isEmpty then true
  else
    let p := parent.length
    if child.length ≤ p then false
    else Str.take child p == parent && Str.charAt child p == some '.'

/-- The number of dots of a key; the empty key has level `-1`. -/
def level (key : String) : Int :=
  if key.isEmpty then -1 else ((Str.splitOn key ".").length : Int) - 1

/-- The prefix of a key up to the given level. -/
def parentAtLevel (key : String) (lvl : Int) : String :=
  ".".intercalate ((Str.splitOn key ".").take (lvl + 1).toNat)

/-- A key cut after the given level into its prefix and the rest. -/
def splitAtLevel (key : String) (lvl : Int) : String × String :=
  let parts := Str.splitOn key "."
  let n := (lvl + 1).toNat
  (".".intercalate (parts.take n), ".".intercalate (parts.drop n))

/-- The parent key extended by the next part of the child key, if the child lies inside
the parent. -/
def immediateSubKey? (parent child : String) : Option String :=
  if isSubKey parent child then some (splitAtLevel child (level parent + 1)).1 else none

/-- The extensions that mark a value as a file name. -/
def fileExtensions : List String := [".csv", ".pdf", ".mapleaf", ".txt", ".py", ".eng"]

/-- Whether a value names a file: it contains one of the file extensions anywhere. -/
def isFileName (value : String) : Bool :=
  fileExtensions.any (Str.containsStr value ·)

/-- The directory that paths relative to the repository start with. -/
def packageDirectory : String := "MAPLEAF/"

/-- Whether a path is given relative to the repository: it starts with the package
directory and goes on past it. -/
def isRepositoryPath (path : String) : Bool :=
  path.length > 8 && Str.take path 8 == packageDirectory

end Keys
end RocketSim
