/-!
# The repository's data files

Simulation definitions may name files by their path in the repository that ships the
simulator: example definitions, motor thrust curves, tabulated aerodynamic data, wind and
atmosphere tables.  A path resolves against the repository when the repository holds a
file or directory of that name; these are the directories and data files it holds.
-/

namespace RocketSim
namespace Repository

/-- How the repository's root directory is written in paths. -/
def root : String := "/repo"

/-- The directories of the repository, relative to its root. -/
def directories : List String :=
  [
    "MAPLEAF",
    "MAPLEAF/ENV",
    "MAPLEAF/Examples",
    "MAPLEAF/Examples/BatchSims",
    "MAPLEAF/Examples/Motors",
    "MAPLEAF/Examples/Simulations",
    "MAPLEAF/Examples/TabulatedData",
    "MAPLEAF/Examples/V&V",
    "MAPLEAF/Examples/V&V/AdaptiveIntegration",
    "MAPLEAF/Examples/V&V/B4-4SimpleRocket",
    "MAPLEAF/Examples/V&V/C6-3SimpleRocket",
    "MAPLEAF/Examples/V&V/HaisunaataRocket",
    "MAPLEAF/Examples/V&V/NASABrick",
    "MAPLEAF/Examples/V&V/NASADampedBrick",
    "MAPLEAF/Examples/V&V/NASADraglessSphere",
    "MAPLEAF/Examples/V&V/NASAOrbitalRocket",
    "MAPLEAF/Examples/V&V/NASASphere_RoundEarth",
    "MAPLEAF/Examples/V&V/NASASphere_WGS84",
    "MAPLEAF/Examples/V&V/NASASphere_WGS84Wind",
    "MAPLEAF/Examples/V&V/Parametric",
    "MAPLEAF/Examples/V&V/Parametric/Fin1",
    "MAPLEAF/Examples/V&V/Parametric/Fin10",
    "MAPLEAF/Examples/V&V/Parametric/Fin12",
    "MAPLEAF/Examples/V&V/Parametric/Fin5",
    "MAPLEAF/Examples/V&V/Parametric/Fin9",
    "MAPLEAF/Examples/V&V/RollingRocket",
    "MAPLEAF/Examples/V&V/SooyBodyAlone",
    "MAPLEAF/Examples/V&V/SooyBodyFlare",
    "MAPLEAF/Examples/V&V/SooyConventional",
    "MAPLEAF/Examples/V&V/SooyFinnedBody",
    "MAPLEAF/Examples/V&V/Sparrow",
    "MAPLEAF/Examples/V&V/Sparrow/Case2",
    "MAPLEAF/Examples/V&V/StaticStability",
    "MAPLEAF/Examples/V&V/WindTunnel",
    "MAPLEAF/Examples/Wind",
    "MAPLEAF/GNC",
    "MAPLEAF/IO",
    "MAPLEAF/Motion",
    "MAPLEAF/OptimizationFunctions",
    "MAPLEAF/Rocket",
    "MAPLEAF/SimulationRunners",
    "Resources",
    "Resources/DocTemplate",
    "benchmarks",
    "test"
  ]

/-- The data files of the repository, relative to its root. -/
def files : List String :=
  [
    "CodingStyle.md",
    "LICENSE",
    "MANIFEST.in",
    "MAPLEAF/ENV/US_STANDARD_ATMOSPHERE.txt",
    "MAPLEAF/ENV/sphericalHarmonicGravityCoeffs.txt",
    "MAPLEAF/Examples/BatchSims/CanardOptimizationTest.mapleaf",
    "MAPLEAF/Examples/BatchSims/NASAVerificationCases.mapleaf",
    "MAPLEAF/Examples/BatchSims/OpenRocketCases.mapleaf",
    "MAPLEAF/Examples/BatchSims/ParametricFinBodyCases.mapleaf",
    "MAPLEAF/Examples/BatchSims/SooyAP98DC97Cases.mapleaf",
    "MAPLEAF/Examples/BatchSims/SparrowCases.mapleaf",
    "MAPLEAF/Examples/BatchSims/StaticStabilityCases.mapleaf",
    "MAPLEAF/Examples/BatchSims/regressionTests.mapleaf",
    "MAPLEAF/Examples/Motors/B4-4.txt",
    "MAPLEAF/Examples/Motors/C6-3.txt",
    "MAPLEAF/Examples/Motors/Empty.txt",
    "MAPLEAF/Examples/Motors/J115.txt",
    "MAPLEAF/Examples/Motors/NASAStage1Motor.txt",
    "MAPLEAF/Examples/Motors/NASAStage2Motor.txt",
    "MAPLEAF/Examples/Motors/test.txt",
    "MAPLEAF/Examples/Motors/test2.txt",
    "MAPLEAF/Examples/Simulations/AdaptTimeStep.mapleaf",
    "MAPLEAF/Examples/Simulations/Canards.mapleaf",
    "MAPLEAF/Examples/Simulations/CanardsOptimization.mapleaf",
    "MAPLEAF/Examples/Simulations/ConvergenceTest.mapleaf",
    "MAPLEAF/Examples/Simulations/EventDetector.mapleaf",
    "MAPLEAF/Examples/Simulations/FixedForce.mapleaf",
    "MAPLEAF/Examples/Simulations/Haisunaata.mapleaf",
    "MAPLEAF/Examples/Simulations/InitializedOptimization.mapleaf",
    "MAPLEAF/Examples/Simulations/IntermediateAxisTheorem.mapleaf",
    "MAPLEAF/Examples/Simulations/Jake1.mapleaf",
    "MAPLEAF/Examples/Simulations/Jake1_MonteCarlo.mapleaf",
    "MAPLEAF/Examples/Simulations/Maxus.mapleaf",
    "MAPLEAF/Examples/Simulations/MonteCarlo.mapleaf",
    "MAPLEAF/Examples/Simulations/MultiLoopOptimization.mapleaf",
    "MAPLEAF/Examples/Simulations/NASABrick.mapleaf",
    "MAPLEAF/Examples/Simulations/NASASphere.mapleaf",
    "MAPLEAF/Examples/Simulations/NASATM2005.mapleaf",
    "MAPLEAF/Examples/Simulations/NASATwoStageOrbitalRocket.mapleaf",
    "MAPLEAF/Examples/Simulations/Optimization.mapleaf",
    "MAPLEAF/Examples/Simulations/OrbitingWeight.mapleaf",
    "MAPLEAF/Examples/Simulations/ParametricFinBody.mapleaf",
    "MAPLEAF/Examples/Simulations/Precession.mapleaf",
    "MAPLEAF/Examples/Simulations/Recovery.mapleaf",
    "MAPLEAF/Examples/Simulations/ScipyOptimization.mapleaf",
    "MAPLEAF/Examples/Simulations/Simple_Sim_MAPLEAF_Solution.mapleaf",
    "MAPLEAF/Examples/Simulations/SooyBodyAlone.mapleaf",
    "MAPLEAF/Examples/Simulations/SooyBodyFlare.mapleaf",
    "MAPLEAF/Examples/Simulations/SooyConventional.mapleaf",
    "MAPLEAF/Examples/Simulations/SooyFinnedBody.mapleaf",
    "MAPLEAF/Examples/Simulations/Sparrow.mapleaf",
    "MAPLEAF/Examples/Simulations/Staging.mapleaf",
    "MAPLEAF/Examples/Simulations/StatefulComponent.mapleaf",
    "MAPLEAF/Examples/Simulations/Wind.mapleaf",
    "MAPLEAF/Examples/Simulations/WindTunnel.mapleaf",
    "MAPLEAF/Examples/Simulations/WindTunnelFinsOff.mapleaf",
    "MAPLEAF/Examples/Simulations/benchmarkSim.mapleaf",
    "MAPLEAF/Examples/Simulations/test.mapleaf",
    "MAPLEAF/Examples/Simulations/test2.mapleaf",
    "MAPLEAF/Examples/Simulations/test3.mapleaf",
    "MAPLEAF/Examples/Simulations/test6.mapleaf",
    "MAPLEAF/Examples/Simulations/test9.mapleaf",
    "MAPLEAF/Examples/TabulatedData/NASARocketTabulatedAeroForces.csv",
    "MAPLEAF/Examples/TabulatedData/NASARocketTabulatedAeroMoments.csv",
    "MAPLEAF/Examples/TabulatedData/NASARocketTabulatedAeroMoments2.csv",
    "MAPLEAF/Examples/TabulatedData/NASARocketTabulatedInertia.csv",
    "MAPLEAF/Examples/TabulatedData/constPIDCoeffs.txt",
    "MAPLEAF/Examples/TabulatedData/linearCanardDefls.txt",
    "MAPLEAF/Examples/TabulatedData/testFinDeflectionLaw.txt",
    "MAPLEAF/Examples/TabulatedData/testPIDControlLaw.txt",
    "MAPLEAF/Examples/V&V/AdaptiveIntegration/expectedValues.csv",
    "MAPLEAF/Examples/V&V/B4-4SimpleRocket/B4-4ExpData.csv",
    "MAPLEAF/Examples/V&V/B4-4SimpleRocket/B4-4OriginalOR.csv",
    "MAPLEAF/Examples/V&V/B4-4SimpleRocket/B4-4ReplicatedOR.csv",
    "MAPLEAF/Examples/V&V/B4-4SimpleRocket/B4-4RockSim.csv",
    "MAPLEAF/Examples/V&V/C6-3SimpleRocket/C6-3ExpData.csv",
    "MAPLEAF/Examples/V&V/C6-3SimpleRocket/C6-3OriginalOR.csv",
    "MAPLEAF/Examples/V&V/C6-3SimpleRocket/C6-3ReplicatedOR.csv",
    "MAPLEAF/Examples/V&V/C6-3SimpleRocket/C6-3RockSim.csv",
    "MAPLEAF/Examples/V&V/HaisunaataRocket/HaisunaataExpData.csv",
    "MAPLEAF/Examples/V&V/HaisunaataRocket/HaisunaataOriginalOR.csv",
    "MAPLEAF/Examples/V&V/HaisunaataRocket/HaisunaataReplicatedOR.csv",
    "MAPLEAF/Examples/V&V/HaisunaataRocket/HaisunaataRockSim.csv",
    "MAPLEAF/Examples/V&V/NASABrick/Atmos_02_sim_01.csv",
    "MAPLEAF/Examples/V&V/NASABrick/Atmos_02_sim_02.csv",
    "MAPLEAF/Examples/V&V/NASABrick/Atmos_02_sim_04.csv",
    "MAPLEAF/Examples/V&V/NASABrick/Atmos_02_sim_05.csv",
    "MAPLEAF/Examples/V&V/NASABrick/Atmos_02_sim_06.csv",
    "MAPLEAF/Examples/V&V/NASADampedBrick/Atmos_03_sim_01.csv",
    "MAPLEAF/Examples/V&V/NASADampedBrick/Atmos_03_sim_02.csv",
    "MAPLEAF/Examples/V&V/NASADampedBrick/Atmos_03_sim_04.csv",
    "MAPLEAF/Examples/V&V/NASADampedBrick/Atmos_03_sim_05.csv",
    "MAPLEAF/Examples/V&V/NASADampedBrick/Atmos_03_sim_06.csv",
    "MAPLEAF/Examples/V&V/NASADraglessSphere/Atmos_01_sim_01.csv",
    "MAPLEAF/Examples/V&V/NASADraglessSphere/Atmos_01_sim_02.csv",
    "MAPLEAF/Examples/V&V/NASADraglessSphere/Atmos_01_sim_03.csv",
    "MAPLEAF/Examples/V&V/NASADraglessSphere/Atmos_01_sim_04.csv",
    "MAPLEAF/Examples/V&V/NASADraglessSphere/Atmos_01_sim_05.csv",
    "MAPLEAF/Examples/V&V/NASADraglessSphere/Atmos_01_sim_06.csv",
    "MAPLEAF/Examples/V&V/NASAOrbitalRocket/Atmos_17_sim_06.csv",
    "MAPLEAF/Examples/V&V/NASASphere_RoundEarth/Atmos_05_sim_02.csv",
    "MAPLEAF/Examples/V&V/NASASphere_RoundEarth/Atmos_05_sim_04.csv",
    "MAPLEAF/Examples/V&V/NASASphere_RoundEarth/Atmos_05_sim_05.csv",
    "MAPLEAF/Examples/V&V/NASASphere_RoundEarth/Atmos_05_sim_06.csv",
    "MAPLEAF/Examples/V&V/NASASphere_WGS84/Atmos_06_sim_01.csv",
    "MAPLEAF/Examples/V&V/NASASphere_WGS84/Atmos_06_sim_02.csv",
    "MAPLEAF/Examples/V&V/NASASphere_WGS84/Atmos_06_sim_03.csv",
    "MAPLEAF/Examples/V&V/NASASphere_WGS84/Atmos_06_sim_04.csv",
    "MAPLEAF/Examples/V&V/NASASphere_WGS84/Atmos_06_sim_05.csv",
    "MAPLEAF/Examples/V&V/NASASphere_WGS84/Atmos_06_sim_06.csv",
    "MAPLEAF/Examples/V&V/NASASphere_WGS84Wind/Atmos_07_sim_01.csv",
    "MAPLEAF/Examples/V&V/NASASphere_WGS84Wind/Atmos_07_sim_02.csv",
    "MAPLEAF/Examples/V&V/NASASphere_WGS84Wind/Atmos_07_sim_03.csv",
    "MAPLEAF/Examples/V&V/NASASphere_WGS84Wind/Atmos_07_sim_04.csv",
    "MAPLEAF/Examples/V&V/NASASphere_WGS84Wind/Atmos_07_sim_05.csv",
    "MAPLEAF/Examples/V&V/NASASphere_WGS84Wind/Atmos_07_sim_06.csv",
    "MAPLEAF/Examples/V&V/Parametric/Fin1/ParametricFin1CA.csv",
    "MAPLEAF/Examples/V&V/Parametric/Fin1/ParametricFin1CN.csv",
    "MAPLEAF/Examples/V&V/Parametric/Fin1/ParametricFin1Cm.csv",
    "MAPLEAF/Examples/V&V/Parametric/Fin10/ParametricFin10CA.csv",
    "MAPLEAF/Examples/V&V/Parametric/Fin10/ParametricFin10CAOR.csv",
    "MAPLEAF/Examples/V&V/Parametric/Fin10/ParametricFin10CAOR_0AOA.csv",
    "MAPLEAF/Examples/V&V/Parametric/Fin10/ParametricFin10CA_0AOA.csv",
    "MAPLEAF/Examples/V&V/Parametric/Fin10/ParametricFin10CN.csv",
    "MAPLEAF/Examples/V&V/Parametric/Fin10/ParametricFin10CNOR.csv",
    "MAPLEAF/Examples/V&V/Parametric/Fin10/ParametricFin10CN_0AOA.csv",
    "MAPLEAF/Examples/V&V/Parametric/Fin10/ParametricFin10Cm.csv",
    "MAPLEAF/Examples/V&V/Parametric/Fin10/ParametricFin10Cm_0AOA.csv",
    "MAPLEAF/Examples/V&V/Parametric/Fin12/ParametricFin12CA.csv",
    "MAPLEAF/Examples/V&V/Parametric/Fin12/ParametricFin12CAOR.csv",
    "MAPLEAF/Examples/V&V/Parametric/Fin12/ParametricFin12CAOR_0AOA.csv",
    "MAPLEAF/Examples/V&V/Parametric/Fin12/ParametricFin12CA_0AOA.csv",
    "MAPLEAF/Examples/V&V/Parametric/Fin12/ParametricFin12CN.csv",
    "MAPLEAF/Examples/V&V/Parametric/Fin12/ParametricFin12CNOR.csv",
    "MAPLEAF/Examples/V&V/Parametric/Fin12/ParametricFin12CN_0AOA.csv",
    "MAPLEAF/Examples/V&V/Parametric/Fin12/ParametricFin12Cm.csv",
    "MAPLEAF/Examples/V&V/Parametric/Fin12/ParametricFin12Cm_0AOA.csv",
    "MAPLEAF/Examples/V&V/Parametric/Fin5/ParametricFin5CA.csv",
    "MAPLEAF/Examples/V&V/Parametric/Fin5/ParametricFin5CAOR.csv",
    "MAPLEAF/Examples/V&V/Parametric/Fin5/ParametricFin5CAOR_0AOA.csv",
    "MAPLEAF/Examples/V&V/Parametric/Fin5/ParametricFin5CA_0AOA.csv",
    "MAPLEAF/Examples/V&V/Parametric/Fin5/ParametricFin5CN.csv",
    "MAPLEAF/Examples/V&V/Parametric/Fin5/ParametricFin5CNOR.csv",
    "MAPLEAF/Examples/V&V/Parametric/Fin5/ParametricFin5CN_0AOA.csv",
    "MAPLEAF/Examples/V&V/Parametric/Fin5/ParametricFin5Cm.csv",
    "MAPLEAF/Examples/V&V/Parametric/Fin5/ParametricFin5Cm_0AOA.csv",
    "MAPLEAF/Examples/V&V/Parametric/Fin9/ParametricFin9CA.csv",
    "MAPLEAF/Examples/V&V/Parametric/Fin9/ParametricFin9CN.csv",
    "MAPLEAF/Examples/V&V/Parametric/Fin9/ParametricFin9Cm.csv",
    "MAPLEAF/Examples/V&V/Parametric/ParametricInletProperties.xlsx",
    "MAPLEAF/Examples/V&V/RollingRocket/RollingExpData.csv",
    "MAPLEAF/Examples/V&V/RollingRocket/RollingOriginalOR.csv",
    "MAPLEAF/Examples/V&V/RollingRocket/RollingReplicatedOR.csv",
    "MAPLEAF/Examples/V&V/SimpleRocketOpenRocketC6-3.csv",
    "MAPLEAF/Examples/V&V/SooyBodyAlone/AP98CA.csv",
    "MAPLEAF/Examples/V&V/SooyBodyAlone/AP98CN.csv",
    "MAPLEAF/Examples/V&V/SooyBodyAlone/AP98Cm.csv",
    "MAPLEAF/Examples/V&V/SooyBodyAlone/DC97CN.csv",
    "MAPLEAF/Examples/V&V/SooyBodyAlone/DC97Cm.csv",
    "MAPLEAF/Examples/V&V/SooyBodyAlone/WTCA.csv",
    "MAPLEAF/Examples/V&V/SooyBodyAlone/WTCN.csv",
    "MAPLEAF/Examples/V&V/SooyBodyAlone/WTCm.csv",
    "MAPLEAF/Examples/V&V/SooyBodyFlare/AP98CA.csv",
    "MAPLEAF/Examples/V&V/SooyBodyFlare/AP98CN.csv",
    "MAPLEAF/Examples/V&V/SooyBodyFlare/AP98CP.csv",
    "MAPLEAF/Examples/V&V/SooyBodyFlare/AP98Cm.csv",
    "MAPLEAF/Examples/V&V/SooyBodyFlare/DC97CA.csv",
    "MAPLEAF/Examples/V&V/SooyBodyFlare/DC97CN.csv",
    "MAPLEAF/Examples/V&V/SooyBodyFlare/DC97CP.csv",
    "MAPLEAF/Examples/V&V/SooyBodyFlare/DC97Cm.csv",
    "MAPLEAF/Examples/V&V/SooyBodyFlare/WTCA.csv",
    "MAPLEAF/Examples/V&V/SooyBodyFlare/WTCN.csv",
    "MAPLEAF/Examples/V&V/SooyBodyFlare/WTCP.csv",
    "MAPLEAF/Examples/V&V/SooyBodyFlare/WTCm.csv",
    "MAPLEAF/Examples/V&V/SooyConventional/.~lock.ConventionalWTFinCN.csv#",
    "MAPLEAF/Examples/V&V/SooyConventional/ConventionalAP98CN.csv",
    "MAPLEAF/Examples/V&V/SooyConventional/ConventionalAP98CP.csv",
    "MAPLEAF/Examples/V&V/SooyConventional/ConventionalAP98Cm.csv",
    "MAPLEAF/Examples/V&V/SooyConventional/ConventionalDC97CN.csv",
    "MAPLEAF/Examples/V&V/SooyConventional/ConventionalDC97CP.csv",
    "MAPLEAF/Examples/V&V/SooyConventional/ConventionalDC97Cm.csv",
    "MAPLEAF/Examples/V&V/SooyConventional/ConventionalFLU3MCN.csv",
    "MAPLEAF/Examples/V&V/SooyConventional/ConventionalFLU3MCP.csv",
    "MAPLEAF/Examples/V&V/SooyConventional/ConventionalFLU3MCm.csv",
    "MAPLEAF/Examples/V&V/SooyConventional/ConventionalFLU3MFinCN.csv",
    "MAPLEAF/Examples/V&V/SooyConventional/ConventionalTLNSCN.csv",
    "MAPLEAF/Examples/V&V/SooyConventional/ConventionalTLNSCP.csv",
    "MAPLEAF/Examples/V&V/SooyConventional/ConventionalTLNSCm.csv",
    "MAPLEAF/Examples/V&V/SooyConventional/ConventionalUSER3DCN.csv",
    "MAPLEAF/Examples/V&V/SooyConventional/ConventionalUSER3DCP.csv",
    "MAPLEAF/Examples/V&V/SooyConventional/ConventionalUSER3DCm.csv",
    "MAPLEAF/Examples/V&V/SooyConventional/ConventionalUSER3DFinCN.csv",
    "MAPLEAF/Examples/V&V/SooyConventional/ConventionalWTCN.csv",
    "MAPLEAF/Examples/V&V/SooyConventional/ConventionalWTCP.csv",
    "MAPLEAF/Examples/V&V/SooyConventional/ConventionalWTCm.csv",
    "MAPLEAF/Examples/V&V/SooyConventional/ConventionalWTFinCN.csv",
    "MAPLEAF/Examples/V&V/SooyConventional/OpenRocketResults.csv",
    "MAPLEAF/Examples/V&V/SooyConventional/OpenRocketResults.ods",
    "MAPLEAF/Examples/V&V/SooyFinnedBody/.~lock.DC97Cm.csv#",
    "MAPLEAF/Examples/V&V/SooyFinnedBody/AP98CA.csv",
    "MAPLEAF/Examples/V&V/SooyFinnedBody/AP98CN.csv",
    "MAPLEAF/Examples/V&V/SooyFinnedBody/AP98CP.csv",
    "MAPLEAF/Examples/V&V/SooyFinnedBody/AP98Cm.csv",
    "MAPLEAF/Examples/V&V/SooyFinnedBody/DC97CA.csv",
    "MAPLEAF/Examples/V&V/SooyFinnedBody/DC97CN.csv",
    "MAPLEAF/Examples/V&V/SooyFinnedBody/DC97CP.csv",
    "MAPLEAF/Examples/V&V/SooyFinnedBody/DC97Cm.csv",
    "MAPLEAF/Examples/V&V/SooyFinnedBody/WTCA.csv",
    "MAPLEAF/Examples/V&V/SooyFinnedBody/WTCN.csv",
    "MAPLEAF/Examples/V&V/SooyFinnedBody/WTCP.csv",
    "MAPLEAF/Examples/V&V/SooyFinnedBody/WTCm.csv",
    "MAPLEAF/Examples/V&V/Sparrow/CFD_data.csv",
    "MAPLEAF/Examples/V&V/Sparrow/Case2/ClVsAOA287CFD.csv",
    "MAPLEAF/Examples/V&V/Sparrow/Case2/ClVsAOA287WT.csv",
    "MAPLEAF/Examples/V&V/Sparrow/Case2/ClVsAOA46CFD.csv",
    "MAPLEAF/Examples/V&V/Sparrow/Case2/ClVsAOA46WT.csv",
    "MAPLEAF/Examples/V&V/Sparrow/Case2/CnVsAOA287CFD.csv",
    "MAPLEAF/Examples/V&V/Sparrow/Case2/CnVsAOA287WT.csv",
    "MAPLEAF/Examples/V&V/Sparrow/Case2/CnVsAOA46CFD.csv",
    "MAPLEAF/Examples/V&V/Sparrow/Case2/CnVsAOA46WT.csv",
    "MAPLEAF/Examples/V&V/Sparrow/Case2/CyVsAOA287CFD.csv",
    "MAPLEAF/Examples/V&V/Sparrow/Case2/CyVsAOA287WT.csv",
    "MAPLEAF/Examples/V&V/Sparrow/Case2/CyVsAOA46CFD.csv",
    "MAPLEAF/Examples/V&V/Sparrow/Case2/CyVsAOA46WT.csv",
    "MAPLEAF/Examples/V&V/Sparrow/ExpDataClvsAOA.csv",
    "MAPLEAF/Examples/V&V/Sparrow/SparrowMissleDatcom.csv",
    "MAPLEAF/Examples/V&V/StaticStability/StaticStabilityInletProperties.xlsx",
    "MAPLEAF/Examples/V&V/StaticStability/StaticStabilityLongCACant.csv",
    "MAPLEAF/Examples/V&V/StaticStability/StaticStabilityLongCAFin.csv",
    "MAPLEAF/Examples/V&V/StaticStability/StaticStabilityLongCAFinsOff.csv",
    "MAPLEAF/Examples/V&V/StaticStability/StaticStabilityLongCNCant.csv",
    "MAPLEAF/Examples/V&V/StaticStability/StaticStabilityLongCNFinsOff.csv",
    "MAPLEAF/Examples/V&V/StaticStability/StaticStabilityLongClCant.csv",
    "MAPLEAF/Examples/V&V/StaticStability/StaticStabilityLongCmCant.csv",
    "MAPLEAF/Examples/V&V/StaticStability/StaticStabilityLongCmFin.csv",
    "MAPLEAF/Examples/V&V/StaticStability/StaticStabilityLongCmFinsOff.csv",
    "MAPLEAF/Examples/V&V/StaticStability/StaticStabilityLongCnFin.csv",
    "MAPLEAF/Examples/V&V/StaticStability/StaticStabilityShortCACant.csv",
    "MAPLEAF/Examples/V&V/StaticStability/StaticStabilityShortCAFin.csv",
    "MAPLEAF/Examples/V&V/StaticStability/StaticStabilityShortCAFinsOff.csv",
    "MAPLEAF/Examples/V&V/StaticStability/StaticStabilityShortCNCant.csv",
    "MAPLEAF/Examples/V&V/StaticStability/StaticStabilityShortCNFin.csv",
    "MAPLEAF/Examples/V&V/StaticStability/StaticStabilityShortCNFinsOff.csv",
    "MAPLEAF/Examples/V&V/StaticStability/StaticStabilityShortClCant.csv",
    "MAPLEAF/Examples/V&V/StaticStability/StaticStabilityShortCmCant.csv",
    "MAPLEAF/Examples/V&V/StaticStability/StaticStabilityShortCmFin.csv",
    "MAPLEAF/Examples/V&V/StaticStability/StaticStabilityShortCmFinsOff.csv",
    "MAPLEAF/Examples/V&V/WindTunnel/OpenRocketCdNotBT.csv",
    "MAPLEAF/Examples/V&V/WindTunnel/WindTunnelExpCd.csv",
    "MAPLEAF/Examples/V&V/WindTunnel/WindTunnelOpenRocket.csv",
    "MAPLEAF/Examples/V&V/sampleComparisonData.csv",
    "MAPLEAF/Examples/Wind/BrooksWindData.png",
    "MAPLEAF/Examples/Wind/LocationWeights.ods",
    "MAPLEAF/Examples/Wind/MedecineHatWindProfile.png",
    "MAPLEAF/Examples/Wind/RadioSondetestLocation_filtered.txt",
    "MAPLEAF/Examples/Wind/WindroseAprMedecineHat.txt",
    "MAPLEAF/Examples/Wind/WindroseAprSchuler.txt",
    "MAPLEAF/Examples/Wind/WindroseAprSuffield.txt",
    "MAPLEAF/Examples/Wind/WindroseAugMedecineHat.txt",
    "MAPLEAF/Examples/Wind/WindroseAugSchuler.txt",
    "MAPLEAF/Examples/Wind/WindroseAugSuffield.txt",
    "MAPLEAF/Examples/Wind/WindroseDecMedecineHat.txt",
    "MAPLEAF/Examples/Wind/WindroseDecSchuler.txt",
    "MAPLEAF/Examples/Wind/WindroseDecSuffield.txt",
    "MAPLEAF/Examples/Wind/WindroseFebMedecineHat.txt",
    "MAPLEAF/Examples/Wind/WindroseFebSchuler.txt",
    "MAPLEAF/Examples/Wind/WindroseFebSuffield.txt",
    "MAPLEAF/Examples/Wind/WindroseJanMedecineHat.txt",
    "MAPLEAF/Examples/Wind/WindroseJanSchuler.txt",
    "MAPLEAF/Examples/Wind/WindroseJanSuffield.txt",
    "MAPLEAF/Examples/Wind/WindroseJulMedecineHat.txt",
    "MAPLEAF/Examples/Wind/WindroseJulSchuler.txt",
    "MAPLEAF/Examples/Wind/WindroseJulSuffield.txt",
    "MAPLEAF/Examples/Wind/WindroseJunMedecineHat.txt",
    "MAPLEAF/Examples/Wind/WindroseJunSchuler.txt",
    "MAPLEAF/Examples/Wind/WindroseJunSuffield.txt",
    "MAPLEAF/Examples/Wind/WindroseMarMedecineHat.txt",
    "MAPLEAF/Examples/Wind/WindroseMarSchuler.txt",
    "MAPLEAF/Examples/Wind/WindroseMarSuffield.txt",
    "MAPLEAF/Examples/Wind/WindroseMayMedecineHat.txt",
    "MAPLEAF/Examples/Wind/WindroseMaySchuler.txt",
    "MAPLEAF/Examples/Wind/WindroseMaySuffield.txt",
    "MAPLEAF/Examples/Wind/WindroseNovMedecineHat.txt",
    "MAPLEAF/Examples/Wind/WindroseNovSchuler.txt",
    "MAPLEAF/Examples/Wind/WindroseNovSuffield.txt",
    "MAPLEAF/Examples/Wind/WindroseOctMedecineHat.txt",
    "MAPLEAF/Examples/Wind/WindroseOctSchuler.txt",
    "MAPLEAF/Examples/Wind/WindroseOctSuffield.txt",
    "MAPLEAF/Examples/Wind/WindroseSepMedecineHat.txt",
    "MAPLEAF/Examples/Wind/WindroseSepSchuler.txt",
    "MAPLEAF/Examples/Wind/WindroseSepSuffield.txt",
    "MAPLEAF/Examples/Wind/WindroseYearlyMedecineHat.txt",
    "MAPLEAF/Examples/Wind/WindroseYearlySchuler.txt",
    "MAPLEAF/Examples/Wind/WindroseYearlySuffield.txt",
    "MAPLEAF/Examples/Wind/testWindProfile.txt",
    "MAPLEAF/IO/blue_marble_spherical_splitFlipped.jpg",
    "README.md",
    "README_Dev.md",
    "SimDefinitionTemplate.mapleaf",
    "asv.conf.json",
    "batchRunTemplate.mapleaf",
    "pyproject.toml",
    "requirements.txt",
    "requirements_Dev.txt"
  ]

/-- Whether the repository holds a file or directory at a path relative to its root. -/
def holds (path : String) : Bool := directories.contains path || files.contains path

/-- Whether the repository holds a file at a path relative to its root. -/
def holdsFile (path : String) : Bool := files.contains path

end Repository
end RocketSim
