import RocketSim.Data.Repository
import RocketSim.Data.Simulations
import RocketSim.Data.BatchRuns
import RocketSim.Data.Motors
import RocketSim.Data.Tables
import RocketSim.Data.Winds

/-!
# Reading the repository's data files

The text of a data file of the repository, by its path relative to the repository root.
-/

namespace RocketSim
namespace Repository

/-- Every data file whose text the repository provides. -/
def textFiles : List (String × String) :=
  simulationsFiles ++ batchRunsFiles ++ motorsFiles ++ tablesFiles ++ windsFiles

/-- The text of a data file, by its path relative to the repository root. -/
def read? (path : String) : Option String :=
  (textFiles.find? (·.1 == path)).map (·.2)

end Repository
end RocketSim
