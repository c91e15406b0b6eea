import RocketSim.Core.Session
import RocketSim.Data.Contents
import RocketSim.Text.Str

/-!
# File paths

Paths name files of the working directory (relative paths, or paths under `<tmp>`) or of
the repository (paths under `<repo>`).  A path is normalized the way the path library does:
empty and `.` parts are dropped and an empty path is `.`; its `..` parts stay, and are only
taken back over a directory when the file system reads the path (`resolve`).  A path given relative to the
repository becomes a path under `<repo>` when the repository holds it; otherwise a second
location may be tried, and failing both the normalized path is kept.
-/

namespace RocketSim
namespace Paths

/-- How the working directory is written in paths. -/
def workingDirectory : String := "<tmp>"

/-- The path with empty and `.` parts dropped; the empty path is `.`. -/
def normalize (p : String) : String :=
  let parts := (Str.splitOn p "/").filter fun s => s != "" && s != "."
  let body := "/".intercalate parts
  if Str.startsWith p "/" then "/" ++ body
  else if body.isEmpty then "." else body

/-- Whether a normalized path is absolute: rooted, or under the repository or the working
directory. -/
def isAbsolute (p : String) : Bool :=
  Str.startsWith p "/" || p == Repository.root || Str.startsWith p (Repository.root ++ "/") ||
    p == workingDirectory || Str.startsWith p (workingDirectory ++ "/")

/-- Appends a normalized path to a directory; an absolute path replaces it. -/
def join (dir p : String) : String :=
  if isAbsolute p then p
  else if p == "." then dir
  else if dir == "." then p
  else dir ++ "/" ++ p

/-- The directory holding a normalized path. -/
def parent (p : String) : String :=
  match Str.rfindStr p "/" with
  | some i => if i == 0 then "/" else Str.take p i
  | none => "."

/-- The part of a path below a root directory, if it lies under it. -/
def below (root p : String) : Option String :=
  if p == root then some "."
  else if Str.startsWith p (root ++ "/") then some (Str.drop p (root.length + 1))
  else none

/-- Whether a normalized path names a directory: the working directory or the repository
itself, a directory of the repository, or a directory holding files written in the session. -/
def isDirectory (p : String) : Sim Bool := do
  let files := (← get).files
  let holdsFiles (dir : String) : Bool := files.any fun (name, _) => Str.startsWith name (dir ++ "/")
  match below Repository.root p with
  | some rel => pure (rel == "." || Repository.directories.contains rel || holdsFiles p)
  | none =>
    match below workingDirectory p with
    | some rel => pure (rel == "." || holdsFiles rel)
    | none => pure false

/-- The path a normalized path leads to when each `..` part steps back out of the directory
before it, as the file system reads paths: none when a part before a `..` is no directory,
or when the path steps out of the working directory or the repository.  A relative path is
taken in the working directory, and a path without `..` parts leads to itself. -/
def resolve (p : String) : Sim (Option String) := do
  if !(Str.splitOn p "/").contains ".." then return some p
  let some (root, rel) := match below Repository.root p, below workingDirectory p with
      | some rel, _ => some (Repository.root, rel)
      | none, some rel => some (workingDirectory, rel)
      | none, none => if Str.startsWith p "/" then none else some (workingDirectory, p)
    | pure none
  -- the directories entered so far, innermost first
  let step (entered : Option (List String)) (part : String) : Sim (Option (List String)) := do
    match entered, part == ".." with
    | none, _ => pure none
    | some dirs, false => pure (some (part :: dirs))
    | some [], true => pure none
    | some (dir :: up), true =>
      if ← isDirectory ("/".intercalate (root :: (dir :: up).reverse)) then pure (some up)
      else pure none
  let some dirs ← (Str.splitOn rel "/").foldlM step (some []) | pure none
  pure (some ("/".intercalate (root :: dirs.reverse)))

/-- Whether the working directory holds a file at a relative path. -/
def workingFile (rel : String) : Sim Bool := do
  pure ((← Sim.readFile? rel).isSome)

/-- Whether the working directory holds a file or directory at a relative path. -/
def workingEntry (rel : String) : Sim Bool := do
  if rel == "." then return true
  let files := (← get).files
  pure (files.any fun (name, _) => name == rel || Str.startsWith name (rel ++ "/"))

/-- Whether a file or directory exists at a normalized path. -/
def present (p : String) : Sim Bool := do
  let some p ← resolve p | pure false
  match below Repository.root p with
  | some rel => pure (rel == "." || Repository.holds rel || (← workingEntry p))
  | none =>
    match below workingDirectory p with
    | some rel => workingEntry rel
    | none => if Str.startsWith p "/" then pure false else workingEntry p

/-- Whether a file exists at a normalized path. -/
def isFile (p : String) : Sim Bool := do
  let some p ← resolve p | pure false
  match below Repository.root p with
  | some rel => pure (Repository.holdsFile rel)
  | none =>
    match below workingDirectory p with
    | some rel => workingFile rel
    | none => if Str.startsWith p "/" then pure false else workingFile p

/-- The absolute path of a path given relative to the repository, or relative to a second
location (a directory, or the directory of a file), whichever exists first; otherwise the
normalized path itself. -/
def absolute (relative : String) (alternate : String := "") : Sim String := do
  let rel := normalize relative
  let inRepository := join Repository.root rel
  if ← present inRepository then return inRepository
  if alternate != "" then
    let alt := normalize alternate
    let base ← do if ← isFile alt then pure (parent alt) else pure alt
    let candidate := join base rel
    if ← present candidate then return candidate
  pure rel

/-- The fault of a file that does not exist. -/
def missingFile : Fault := Fault.bare .fileNotFoundError

/-- The text of the file at a path: a file written during the session, a data file of the
repository, or a file of the working directory. -/
def readText (path : String) : Sim String := do
  let some p ← resolve (normalize path) | Sim.fail missingFile
  let inWorking (rel : String) : Sim String := do
    match ← Sim.readFile? rel with
    | some t => pure t
    | none => Sim.fail missingFile
  match below Repository.root p with
  | some rel =>
    match (← Sim.readFile? p) <|> Repository.read? rel with
    | some t => pure t
    | none => Sim.fail missingFile
  | none =>
    match below workingDirectory p with
    | some rel => inWorking rel
    | none => if Str.startsWith p "/" then Sim.fail missingFile else inWorking p

/-- Writes text to a file: relative paths are taken in the working directory, and a file
written beside the repository's own is kept under its full path. -/
def writeText (path text : String) : Sim Unit := do
  let p := normalize path
  match below workingDirectory p with
  | some rel => Sim.writeFile rel text
  | none => Sim.writeFile p text

/-- Whether a file or directory exists at a path. -/
def exists? (path : String) : Sim Bool := present (normalize path)

end Paths
end RocketSim
