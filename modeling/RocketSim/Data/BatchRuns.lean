/-!
# Data files: batch run definitions

The batch run definition that an example simulation names (the cases the canard optimization
scores its trials on).  The entry is a path relative to the repository root and the file's
text.  The other batch definitions of the repository are listed among its files but read by
nothing the simulator runs here.
-/

namespace RocketSim
namespace Repository

/-- The batch run definition an example names, by path. -/
def batchRunsFiles : List (String × String) :=
  [
    ("MAPLEAF/Examples/BatchSims/CanardOptimizationTest.mapleaf",
      "HoldOnTight1\x7b\nsimDefinitionFile ./MAPLEAF/Examples/Simulations/CanardsOptimization.mapleaf\nParameterOverrides\x7b\nRocket.initialDirection (0.1 0.1 1)\nRocket.velocity (1 1 10)\n\x7d\n\x7d\nHoldOnTight2\x7b\nsimDefinitionFile ./MAPLEAF/Examples/Simulations/CanardsOptimization.mapleaf\nParameterOverrides\x7b\nRocket.initialDirection (0.2 0.2 1)\nRocket.velocity (2 2 10)\n\x7d\n\x7d\nHoldOnTight3\x7b\nsimDefinitionFile ./MAPLEAF/Examples/Simulations/CanardsOptimization.mapleaf\nParameterOverrides\x7b\nRocket.initialDirection (0.2 0.2 1)\nRocket.velocity (2 2 10)\n\x7d\n\x7d\nHoldOnTight4\x7b\nsimDefinitionFile ./MAPLEAF/Examples/Simulations/CanardsOptimization.mapleaf\nParameterOverrides\x7b\nRocket.initialDirection (0.6 0.6 1)\nRocket.velocity (6 6 10)\n\x7d\n\x7d")
  ]

end Repository
end RocketSim
