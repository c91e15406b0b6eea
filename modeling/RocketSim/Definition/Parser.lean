import RocketSim.Definition.Sampling
import RocketSim.Definition.Paths
import RocketSim.Text.ShellWords

/-!
# Reading simulation definition files

A definition file holds nested dictionaries:

```
Rocket{
    position    (0 0 10)
    Sustainer{
        class   Stage
    }
}
```

A line `name{` opens a dictionary, `}` closes it, and `key value words` sets the key,
prefixed by the names of the open dictionaries, to the remaining words joined by single
spaces.  A `#` starts a comment unless a backslash escapes it; blank lines are ignored.  A
key may be set only once, except inside a derived dictionary.

Two commands reuse other definitions:

* `!include path` copies every key of another definition file into the open dictionary;
* `!create name from path{` starts a dictionary that copies the keys of an existing one
  (of this file, or of another file as `file:path`), renamed; `!replace old new` lines
  then rewrite keys and values, `!removeKeysContaining text` lines drop keys, and the
  dictionary's own lines follow as usual.

A definition that includes itself, directly or through others, is refused.  Values that
name files are replaced by absolute paths: paths relative to the repository, and file
names found next to the definition file.
-/

namespace RocketSim
namespace Definition

/-- How deep definition files may be read within one another (through `!include` and
derived dictionaries of other files). -/
def parseDepth : Nat := 200

/-- One character of comment removal.  The state is whether a comment is open, the previous
character, and the characters kept so far, last first. -/
def commentStep (st : Bool × Char × List Char) (c : Char) : Bool × Char × List Char :=
  let (inComment, prev, acc) := st
  if inComment then
    if c == '\n' then (false, c, c :: acc) else (true, c, acc)
  else if c == '#' && prev != '\\' then (true, c, acc)
  else (false, c, c :: acc)

/-- Removes comments (from an unescaped `#` to the end of its line), then the backslashes
that escape a `#`. -/
def stripComments (text : String) : String :=
  let (_, _, acc) := text.toList.foldl commentStep (false, '\n', [])
  let rec unescape : List Char → List Char
    | [] => []
    | '\\' :: '#' :: rest => '#' :: unescape rest
    | c :: rest => c :: unescape rest
  String.ofList (unescape acc.reverse)

/-- The lines of a definition text that are not blank once comments are removed. -/
def contentLines (text : String) : Array String :=
  ((Str.splitOn (stripComments text) "\n").filter fun l => !(Str.strip l).isEmpty).toArray

/-- The fault of a line that is neither a dictionary boundary nor a key and value. -/
def badLine (i : Nat) (line : String) : Fault :=
  Fault.raise .valueError s!"Problem parsing line {i}: {line}"

/-- The fault of a dictionary that is never closed: its end has no line index. -/
def unclosedDictionary : Fault := Fault.typeMismatch

/-- The name of a dictionary inside the open one. -/
def nested (current name : String) : String :=
  if current.isEmpty then name else current ++ "." ++ name

/-- The parse stack as its text appears in messages: a set of quoted paths. -/
def stackText (stack : List String) : String :=
  "\x7b" ++ ", ".intercalate (stack.map fun s => "'" ++ s ++ "'") ++ "\x7d"

/-- The text of a value, for the commands that rewrite values. -/
def textOf (v : Value) : Sim String :=
  match v with
  | .str s => pure s
  | _ => Sim.fail Fault.noAttribute

/-- A value as the reader leaves it, in a definition file of the directory `dir`: a path
relative to the repository made absolute, and a file name that exists next to the definition
file replaced by that file's path. -/
def absoluteValue (dir s : String) : Sim Value := do
  let val := if Str.take s 2 == "./" then Str.drop s 2 else s
  let v ← if Keys.isRepositoryPath val then (.str ·) <$> Paths.absolute val else pure (.str s)
  if Keys.isFileName val then
    let candidate := Paths.join dir (Paths.normalize val)
    if ← Paths.present candidate then
      return .str (if Paths.isAbsolute val then val else dir ++ "/" ++ val)
  pure v

/-- Replaces file names in values by absolute paths: repository-relative paths by their
path in the repository, and file names that exist next to the definition file by that
path. -/
def absolutePaths (fileName : String) (es : List (String × Value)) : Sim (List (String × Value)) := do
  let dir := Paths.parent (Paths.normalize fileName)
  es.mapM fun (k, v) => do
    match v with
    | .str s => pure (k, ← absoluteValue dir s)
    | _ => pure (k, v)

/-- The text of a definition file. -/
def readText (fileName : String) : Sim String := Paths.readText fileName

/-- Removes single and double quotes from a command argument. -/
def removeQuotes (s : String) : String := Str.replace (Str.replace s "'" "") "\"" ""

/-- Applies the commands that follow a `!create` line, from line `i` on: `!replace old new`
rewrites keys and values, `!removeKeysContaining text` drops keys; the first line that is
not a command ends them.  Returns the derived keys and the number of command lines read. -/
def applyCommands (lines : Array String) (i : Nat) (derived : List (String × Value)) :
    Sim (List (String × Value) × Nat) :=
  if h : i < lines.size then do
    let line := lines[i]
    let command ← Sim.lift (ShellWords.split line)
    match command with
    | "!replace" :: rest => do
      let some old := rest.head? | Sim.fail Fault.badIndex
      let new := (rest.getLast?).getD old
      let old := removeQuotes old
      let new := removeQuotes new
      let derived ← derived.foldlM (fun acc (k, v) => do
        let text ← textOf v
        pure (setEntry acc (Str.replace k old new) (.str (Str.replace text old new)))) []
      let (derived, n) ← applyCommands lines (i + 1) derived
      pure (derived, n + 1)
    | "!removeKeysContaining" :: rest => do
      let some text := rest.head? | Sim.fail Fault.badIndex
      let (derived, n) ← applyCommands lines (i + 1) (derived.filter fun (k, _) => !Str.containsStr k text)
      pure (derived, n + 1)
    | _ =>
      if line.toList.head? != some '!' then pure (derived, 0)
      else
        let first := (Str.splitWs line).headD ""
        Sim.fail (Fault.raise .valueError ("Command: " ++ first ++
          " not implemented. Try using !replace or !removeKeysContaining"))
  else pure (derived, 0)
termination_by lines.size - i

/-- The entries a derived dictionary copies its keys from, and the path of its source
dictionary among them: these entries, or those of another file, read with `load`, when the
source is written `file:path`. -/
def derivationSource (load : String → Sim Definition) (es : List (String × Value))
    (path : String) : Sim (List (String × Value) × String) :=
  if Str.hasChar path ':' then do
    let parts := Str.splitOn path ":"
    let sub ← load (parts.headD "")
    pure (sub.entries, parts.getD 1 "")
  else pure (es, path)

/-- Starts the derived dictionary whose `!create` line is line `i`, inside the dictionary
`current`: copies the keys of the source dictionary (of these entries, or of another file,
read with `load`, when the source is written `file:path`) under the new name, applies the
command lines that follow, and adds the derived keys, none of which may be defined yet.
Returns the derived dictionary's name, the entries and the number of command lines read. -/
def deriveDictionary (load : String → Sim Definition) (fileName : String)
    (es : List (String × Value)) (lines : Array String) (i : Nat) (current : String) :
    Sim (String × List (String × Value) × Nat) := do
  let words ← Sim.lift (ShellWords.split (lines.getD i ""))
  let some name := words[1]? | Sim.fail Fault.badIndex
  let derivedName := nested current name
  let some last := words.getLast? | Sim.fail Fault.badIndex
  if last.isEmpty then Sim.fail Fault.badIndex
  let path := if Str.endsWith last "\x7b" then Str.dropRight last 1 else last
  let (source, path) ← derivationSource load es path
  let parentKeys := subKeysOf source path
  if parentKeys.isEmpty then
    Sim.fail (Fault.raise .valueError ("ERROR: Dictionary to derive from: " ++ path ++
      " is not defined before " ++ derivedName ++ " in " ++ fileName ++ "."))
  let derived := parentKeys.foldl (fun d k =>
    setEntry d (Str.replace k path derivedName) ((source.find? (·.1 == k)).map (·.2) |>.getD .null)) []
  let (derived, n) ← applyCommands lines (i + 1) derived
  for (k, _) in derived do
    if es.any (·.1 == k) then
      Sim.fail (Fault.raise .valueError ("Derived dict key " ++ k ++ " already exists"))
  pure (derivedName, es ++ derived, n)

/-- The file an `!include` line names: the text after its first blank. -/
def includedPath (line : String) : Sim String :=
  match Str.findStr line " " with
  | some k => pure (Str.strip (Str.drop line k))
  | none => Sim.fail Fault.badValue

/-- The entries with an included definition's keys added inside the dictionary `current`;
an included key replaces the value of one already defined. -/
def withIncluded (es : List (String × Value)) (current : String) (sub : List (String × Value)) :
    List (String × Value) :=
  sub.foldl (fun es (k, v) => setEntry es (nested current k) v) es

/-- A dictionary open while a definition is read: its full name, and whether its keys may be
set again (inside a derived dictionary, and the dictionaries nested in one). -/
structure OpenDict where
  name : String
  overwrite : Bool

/-- Reads the lines of a definition from line `i` on, adding their keys to the entries;
`opened` holds the dictionaries open at line `i`, innermost first.  A `}` line closes the
innermost one; at the root it ends the reading, and the lines after it are never read.  A
dictionary still open when the lines run out is a fault (its end has no line index).
Other definition files are read with `load`. -/
def parseLines (load : String → Sim Definition) (fileName : String) (lines : Array String)
    (i : Nat) (opened : List OpenDict) (es : List (String × Value)) :
    Sim (List (String × Value)) :=
  if h : i < lines.size then
    let line := Str.strip lines[i]
    let words := Str.splitWs line
    let current := (opened.head?.map (·.name)).getD ""
    let overwrite := (opened.head?.map (·.overwrite)).getD false
    if words.head? == some "!create" then do
      let (name, es, n) ← deriveDictionary load fileName es lines i current
      parseLines load fileName lines (i + 1 + n) (⟨name, true⟩ :: opened) es
    else if words.head? == some "!include" then do
      let sub ← load (← includedPath line)
      parseLines load fileName lines (i + 1) opened (withIncluded es current sub.entries)
    else
      if Str.endsWith line "\x7b" then
        parseLines load fileName lines (i + 1)
          (⟨nested current (Str.dropRight line 1), overwrite⟩ :: opened) es
      else if line == "\x7d" then
        match opened with
        | [] => pure es
        | _ :: outer => parseLines load fileName lines (i + 1) outer es
      else if words.length > 1 then
        let key := nested current (words.headD "")
        if es.any (·.1 == key) && !overwrite then
          Sim.fail (Fault.raise .valueError ("Duplicate Key: " ++ key ++ " in File: " ++ fileName))
        else
          parseLines load fileName lines (i + 1) opened
            (setEntry es key (.str (" ".intercalate (words.drop 1))))
      else Sim.fail (badLine i line)
  else if opened.isEmpty then pure es else Sim.fail unclosedDictionary
termination_by lines.size - i

/-- Reads the content lines of a definition file (comments and blank lines removed): the
entries of its lines, then the file names in their values, made absolute. -/
def parseContentLines (load : String → Sim Definition) (fileName : String)
    (lines : Array String) : Sim (List (String × Value)) := do
  let es ← parseLines load fileName lines 0 [] []
  absolutePaths fileName es

/-- Reads the text of a definition file. -/
def parseText (load : String → Sim Definition) (fileName text : String) :
    Sim (List (String × Value)) :=
  parseContentLines load fileName (contentLines text)

/-- Reads another definition file named in one being read (relative to that file's
directory or to the repository), refusing one already being read; `fuel` bounds how deep
files are read within one another. -/
def loadFile : Nat → String → List String → String → Sim Definition
  | 0, _, _, _ => Sim.fail (Fault.bare (.other "RecursionError"))
  | fuel + 1, fileName, stack, path => do
    let filePath ← Paths.absolute path (Paths.parent (Paths.normalize fileName))
    if stack.contains filePath then
      Sim.fail (Fault.raise .valueError ("Encountered circular reference while trying to parse " ++
        "SimDefinition file: " ++ fileName ++ ", which references: " ++ filePath ++
        ", which is already in the current parse stack: " ++ stackText stack))
    let es ← parseText (loadFile fuel filePath (stack ++ [filePath])) filePath
      (← readText filePath)
    prepare { fileName := some filePath, entries := es }

/-- Parses a definition file into its entries; `stack` holds the files being read. -/
def parseFile (fileName : String) (stack : List String) : Sim (List (String × Value)) := do
  parseText (loadFile parseDepth fileName stack) fileName (← readText fileName)

end Definition
end RocketSim
