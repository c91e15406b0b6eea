import RocketSim.Logs.Coefficients
import RocketSim.Text.Pattern
import RocketSim.Definition.Paths

/-!
# Finding columns of simulation logs

A regression case names the results it checks by a column specification: a column of a
log file matches when its name contains the specification, or when the specification, read
as a regular expression, matches the start of the name.  The containment test comes first,
so a specification that is not a valid expression fails only once a column does not
contain it.

A log file is read as a table of number columns in the order of its header.
-/

namespace RocketSim
namespace Batch

/-- Whether a column name matches a specification. -/
def columnMatches (spec name : String) : Except Fault Bool :=
  if Str.containsStr name spec then .ok true else Pattern.matchesStart spec name

/-- The columns of a table that match a specification, in the table's order. -/
def matchingColumns (t : Coefficients.Table) (spec : String) :
    Except Fault (List (String × List Float)) :=
  t.filterM fun (name, _) => columnMatches spec name

/-- The table of a log file. -/
def readLog (path : String) : Sim Coefficients.Table := do
  Sim.lift (Coefficients.read (← Paths.readText path))

/-- The columns of a log file that match a specification. -/
def logColumns (path spec : String) : Sim (List (String × List Float)) := do
  Sim.lift (matchingColumns (← readLog path) spec)

end Batch
end RocketSim
