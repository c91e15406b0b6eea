/-!
# Data files: example simulation definitions

The example simulation definitions that ship with the simulator. Each entry is a path relative to the repository root and the file's text.
-/

namespace RocketSim
namespace Repository

/-- The example simulation definitions, by path. -/
def simulationsFiles : List (String × String) :=
  [
    ("MAPLEAF/Examples/Simulations/AdaptTimeStep.mapleaf",
      "SimControl\x7b\nEndCondition Altitude\nEndConditionValue 0\nplot None\nloggingLevel 2\ntimeDiscretization RK45Adaptive\ntimeStep 0.01\nTimeStepAdaptation\x7b\ncontroller PID\ntargetError 0.001\nminFactor 0.3\nmaxFactor 1.5\nminTimeStep 0.001\nmaxTimeStep 5\nPID.coefficients -0.02 -0.002 0\n\x7d\n\x7d\nEnvironment\x7b\nLaunchSite.elevation 755\nAtmosphericPropertiesModel Constant\nConstantAtmosphere\x7b\ntemp 15\npressure 101325\ndensity 1.225\nviscosity 1.789e-5\n\x7d\nMeanWindModel SampledRadioSondeData\nSampledRadioSondeData\x7b\nlaunchMonth Mar\nlocationsToSample Edmonton 0.48 Glasgow 0.52\nlocationASLAltitudes 710 638\nrandomSeed 228010\n\x7d\nTurbulenceModel PinkNoise2D\nPinkNoiseModel\x7b\nturbulenceIntensity 5\nvelocityStdDeviation 1\nrandomSeed1 63583\nrandomSeed2 63583\n\x7d\n\x7d\nRocket\x7b\nposition (0 0 15)\nvelocity (0 0 50)\nSustainer\x7b\nclass Stage\nstageNumber 0\nconstCG (0 0 -2.8)\nconstMass 50\nconstMOI (85 85 0.3)\nNosecone\x7b\nclass Nosecone\nmass 1.0\nposition (0 0 0)\ncg (0 0 0)\nbaseDiameter 0.1524\naspectRatio 5\nshape tangentOgive\nsurfaceRoughness 0.000050\n\x7d\nRecoverySystem\x7b\nclass RecoverySystem\nmass 5\nposition (0 0 -1)\ncg (0 0 -1)\nnumStages 2\nstage1Trigger Apogee\nstage1TriggerValue 30\nstage1ChuteArea 2\nstage1Cd 1.5\nstage1DelayTime 2\nstage2Trigger Altitude\nstage2TriggerValue 300\nstage2ChuteArea 9\nstage2Cd 1.5\nstage2DelayTime 0\n\x7d\nUpperBodyTube\x7b\nclass Bodytube\nmass 1\nposition (0 0 -0.762)\ncg (0 0 0)\nouterDiameter 0.1524\nlength 3.5538\nsurfaceRoughness 0.000050\n\x7d\nGeneralMass\x7b\nclass Mass\nmass 50\nposition (0 0 -2.6)\ncg (0 0 0)\nMOI (66.6 66.6 0.21)\n\x7d\nMotor\x7b\nclass Motor\npath MAPLEAF/Examples/Motors/test.txt\n\x7d\nTailFins\x7b\nclass FinSet\nmass 1\nposition (0 0 -4.011)\ncg (0 0 0)\nnumFins 4\nsweepAngle 28.61\nrootChord 0.3048\ntipChord 0.1524\nspan 0.1397\nthickness 0.0047625\nsurfaceRoughness 0.000050\n\x7d\n\x7d\n\x7d"),
    ("MAPLEAF/Examples/Simulations/Canards.mapleaf",
      "SimControl\x7b\ntimeDiscretization RK45Adaptive\ntimeStep 0.02\nplot Position Velocity AngularVelocity Deflection&canardsFin FlightAnimation\nloggingLevel 4\nEndCondition Apogee\nEndConditionValue 0\nTimeStepAdaptation\x7b\ncontroller PID\n\x7d\n\x7d\nRocket\x7b\nposition (0 0 10)\ninitialDirection (0 0.1 1)\nvelocity (0 0 10)\nControlSystem\x7b\ndesiredFlightDirection (0 0 1)\nMomentController\x7b\nType ScheduledGainPIDRocket\ngainTableFilePath MAPLEAF/Examples/TabulatedData/constPIDCoeffs.txt\nscheduledBy Mach Altitude\n\x7d\nupdateRate 100\ncontrolledSystem Rocket.Sustainer.Canards\n\x7d\nSustainer\x7b\nclass Stage\nstageNumber 0\nconstCG (0 0 -2.65)\nconstMass 50\nconstMOI (85 85 0.5)\nNosecone\x7b\nclass Nosecone\nmass 20.0\nposition (0 0 0)\ncg (0 0 -0.2)\nbaseDiameter 0.1524\naspectRatio 5\nshape tangentOgive\nsurfaceRoughness 0.000050\n\x7d\nUpperBodyTube\x7b\nclass Bodytube\nmass 5\nposition (0 0 -0.762)\ncg (0 0 -1)\nouterDiameter 0.1524\nlength 3.81\nsurfaceRoughness 0.000050\n\x7d\nCanards\x7b\nclass FinSet\nmass 2\nposition (0 0 -0.8636)\ncg (0 0 -0.8636)\nnumFins 4\nsweepAngle 30\nrootChord 0.1524\ntipChord 0.0762\nspan 0.0635\nthickness 0.0047625\nsurfaceRoughness 0.000050\nActuators\x7b\nclass Actuator\ncontroller TableInterpolating\ndeflectionTablePath MAPLEAF/Examples/TabulatedData/linearCanardDefls.txt\ndeflectionKeyColumns Mach Altitude DesiredMx DesiredMy DesiredMz\nminDeflection -45\nmaxDeflection 45\nresponseModel FirstOrder\nresponseTime 0.1\n\x7d\n\x7d\nGeneralMass\x7b\nclass Mass\nmass 5\nposition (0 0 -2.762)\ncg (0 0 -2.762)\n\x7d\nMotor\x7b\nclass Motor\npath MAPLEAF/Examples/Motors/test2.txt\n\x7d\nTailFins\x7b\nclass FinSet\nmass 2\nposition (0 0 -4.2672)\ncg (0 0 -4.2762)\nnumFins 4\nsweepAngle 28.61\nrootChord 0.3048\ntipChord 0.1524\nspan 0.1397\nthickness 0.0047625\nsurfaceRoughness 0.000050\n\x7d\nRecoverySystem\x7b\nclass RecoverySystem\nmass 0\nposition (0 0 -1)\ncg (0 0 -1)\nnumStages 2\nstage1Trigger Apogee\nstage1TriggerValue 30\nstage1ChuteArea 2\nstage1Cd 1.5\nstage1DelayTime 2\nstage2Trigger Altitude\nstage2TriggerValue 300\nstage2ChuteArea 9\nstage2Cd 1.5\nstage2DelayTime 0\n\x7d\n\x7d\n\x7d"),
    ("MAPLEAF/Examples/Simulations/CanardsOptimization.mapleaf",
      "SimControl\x7b\ntimeDiscretization RK45Adaptive\ntimeStep 0.02\nplot Position Velocity AngularVelocity Deflection&canardsFin FlightAnimation\nloggingLevel 4\nEndCondition Apogee\nEndConditionValue 0\nTimeStepAdaptation\x7b\ncontroller PID\n\x7d\n\x7d\nOptimization\x7b\ncostFunction MAPLEAF.OptimizationFunctions.MomentPIDCostOptimizationFunction:OptimizationFunction\nbatchDefinition MAPLEAF/Examples/BatchSims/CanardOptimizationTest.mapleaf\nIndependentVariables\x7b\nPxy 0 < Rocket.ControlSystem.MomentController.Pxy < 200\nIxy 0 < Rocket.ControlSystem.MomentController.Ixy < 50\nDxy 0 < Rocket.ControlSystem.MomentController.Dxy < 200\nPz 0 < Rocket.ControlSystem.MomentController.Pz < 500\nIz 0 < Rocket.ControlSystem.MomentController.Iz < 200\nDz 0 < Rocket.ControlSystem.MomentController.Dz < 300\n\x7d\nParticleSwarm\x7b\nnParticles 4\nnIterations 2\n\x7d\n\x7d\nRocket\x7b\nposition (0 0 10)\ninitialDirection (0.4 0.4 1)\nvelocity (5 5 10)\nControlSystem\x7b\ndesiredFlightDirection (0 0 1)\nMomentController\x7b\nType ConstantGainPIDRocket\nPxy 100\nIxy 10\nDxy 50\nPz 400\nIz 20\nDz 200\n\x7d\nupdateRate 100\ncontrolledSystem Rocket.Sustainer.Canards\n\x7d\nSustainer\x7b\nclass Stage\nstageNumber 0\nconstCG (0 0 -2.65)\nconstMass 50\nconstMOI (85 85 0.5)\nNosecone\x7b\nclass Nosecone\nmass 20.0\nposition (0 0 0)\ncg (0 0 -0.2)\nbaseDiameter 0.1524\naspectRatio 5\nshape tangentOgive\nsurfaceRoughness 0.000050\n\x7d\nUpperBodyTube\x7b\nclass Bodytube\nmass 5\nposition (0 0 -0.762)\ncg (0 0 -1)\nouterDiameter 0.1524\nlength 3.81\nsurfaceRoughness 0.000050\n\x7d\nCanards\x7b\nclass FinSet\nmass 2\nposition (0 0 -0.8636)\ncg (0 0 -0.8636)\nnumFins 4\nsweepAngle 30\nrootChord 0.1524\ntipChord 0.0762\nspan 0.0635\nthickness 0.0047625\nsurfaceRoughness 0.000050\nActuators\x7b\nclass Actuator\ncontroller TableInterpolating\ndeflectionTablePath MAPLEAF/Examples/TabulatedData/linearCanardDefls.txt\ndeflectionKeyColumns Mach Altitude DesiredMx DesiredMy DesiredMz\nminDeflection -45\nmaxDeflection 45\nresponseModel FirstOrder\nresponseTime 0.1\n\x7d\n\x7d\nGeneralMass\x7b\nclass Mass\nmass 5\nposition (0 0 -2.762)\ncg (0 0 -2.762)\n\x7d\nMotor\x7b\nclass Motor\npath MAPLEAF/Examples/Motors/test2.txt\n\x7d\nTailFins\x7b\nclass FinSet\nmass 2\nposition (0 0 -4.2672)\ncg (0 0 -4.2762)\nnumFins 4\nsweepAngle 28.61\nrootChord 0.3048\ntipChord 0.1524\nspan 0.1397\nthickness 0.0047625\nsurfaceRoughness 0.000050\n\x7d\nRecoverySystem\x7b\nclass RecoverySystem\nmass 0\nposition (0 0 -1)\ncg (0 0 -1)\nnumStages 2\nstage1Trigger Apogee\nstage1TriggerValue 30\nstage1ChuteArea 2\nstage1Cd 1.5\nstage1DelayTime 2\nstage2Trigger Altitude\nstage2TriggerValue 300\nstage2ChuteArea 9\nstage2Cd 1.5\nstage2DelayTime 0\n\x7d\n\x7d\n\x7d"),
    ("MAPLEAF/Examples/Simulations/ConvergenceTest.mapleaf",
      "SimControl\x7b\ntimeDiscretization RK4\ntimeStep 0.5\nEndCondition Time\nEndConditionValue 5\nplot FlightAnimation\nloggingLevel 1\nTimeStepAdaptation\x7b\ncontroller PID\ntargetError 1.39406981820795E-6\nminFactor 0.3\nmaxFactor 1.5\nminTimeStep 0.0001\nmaxTimeStep 5\nPID.coefficients -0.002 0 -0.02\n\x7d\nRocketPlot On\n\x7d\nEnvironment.LaunchSite.elevation 755\nRocket\x7b\nposition (0 0 15)\nvelocity (0 0 50)\nSustainer\x7b\nclass Stage\nconstCG (0 0 -2.65)\nconstMass 50\nconstMOI (85 85 0.5)\nNosecone\x7b\nclass Nosecone\nmass 1.0\nposition (0 0 0)\ncg (0 0 0)\nbaseDiameter 0.1524\naspectRatio 5\nshape tangentOgive\nsurfaceRoughness 0.000050\n\x7d\nRecoverySystem\x7b\nclass RecoverySystem\nmass 5\nposition (0 0 -1)\ncg (0 0 -1)\nnumStages 2\nstage1Trigger Apogee\nstage1TriggerValue 30\nstage1ChuteArea 2\nstage1Cd 1.5\nstage1DelayTime 2\nstage2Trigger Altitude\nstage2TriggerValue 300\nstage2ChuteArea 9\nstage2Cd 1.5\nstage2DelayTime 0\n\x7d\nUpperBodyTube\x7b\nclass Bodytube\nmass 1\nposition (0 0 -0.762)\ncg (0 0 0)\nouterDiameter 0.1524\nlength 3.5538\nsurfaceRoughness 0.000050\n\x7d\nGeneralMass\x7b\nclass Mass\nmass 50\nposition (0 0 -2.6)\ncg (0 0 0)\nMOI (66.6 66.6 0.21)\n\x7d\nMotor\x7b\nclass Motor\npath MAPLEAF/Examples/Motors/test.txt\n\x7d\nTailFins\x7b\nclass FinSet\nmass 1\nposition (0 0 -4.011)\ncg (0 0 0)\nnumFins 4\nfirstFinAngle 0\nsweepAngle 28.61\nrootChord 0.3048\ntipChord 0.1524\nspan 0.1397\nthickness 0.0047625\nsurfaceRoughness 0.000050\n\x7d\n\x7d\n\x7d"),
    ("MAPLEAF/Examples/Simulations/EventDetector.mapleaf",
      "SimControl\x7b\ntimeDiscretization RK45Adaptive\ntimeStep 0.05\nEndCondition Altitude\nEndConditionValue 0\nplot FlightAnimation\nloggingLevel 2\n\x7d\nEnvironment\x7b\nLaunchSite.elevation 755\nMeanWindModel Constant\nConstantMeanWind\x7b\nvelocity ( -10 0 0 )\n\x7d\n\x7d\nRocket\x7b\nposition (0 0 15)\nvelocity (0 0 50)\nSustainer\x7b\nclass Stage\nconstCG (0 0 -2.65)\nconstMass 50\nconstMOI (85 85 0.5)\nNosecone\x7b\nclass Nosecone\nmass 1.0\nposition (0 0 0)\ncg (0 0 0)\nbaseDiameter 0.1524\naspectRatio 5\nshape tangentOgive\nsurfaceRoughness 0.000050\n\x7d\nUpperBodyTube\x7b\nclass Bodytube\nmass 1\nposition (0 0 -0.762)\ncg (0 0 0)\nouterDiameter 0.1524\nlength 3.5538\nsurfaceRoughness 0.000050\n\x7d\nGeneralMass\x7b\nclass Mass\nmass 50\nposition (0 0 -2.6)\ncg (0 0 0)\nMOI (66.6 66.6 0.21)\n\x7d\nMotor\x7b\nclass Motor\npath MAPLEAF/Examples/Motors/test.txt\n\x7d\nTailFins\x7b\nclass FinSet\nmass 1\nposition (0 0 -4.011)\ncg (0 0 0)\nnumFins 4\nsweepAngle 28.61\nrootChord 0.3048\ntipChord 0.1524\nspan 0.1397\nthickness 0.0047625\nsurfaceRoughness 0.000050\n\x7d\n\x7d\n\x7d"),
    ("MAPLEAF/Examples/Simulations/FixedForce.mapleaf",
      "SimControl\x7b\ntimeDiscretization RK45Adaptive\ntimeStep 0.04133\nTimeStepAdaptation\x7b\ncontroller PID\ntargetError 0.005\n\x7d\nEndCondition Time\nEndConditionValue 100\nplot FlightAnimation AngularVelocity Orientation\nloggingLevel 2\n\x7d\nEnvironment\x7b\nLaunchSite.elevation 755\nEarthModel None\nAtmosphericPropertiesModel Constant\nConstantAtmosphere\x7b\ntemp 15\npressure 101325\ndensity 1.225\nviscosity 1.789e-5\n\x7d\n\x7d\nRocket\x7b\nposition (0 0 0)\nangularVelocity (0 0.01 1)\nStage1\x7b\nclass Stage\nMass\x7b\nclass Mass\nmass 1\nposition (0 0 0)\ncg (0 0 0)\nMOI (2 8 4)\n\x7d\nForce\x7b\nclass Force\nposition (0 0 0)\nforce (0 0 0)\nmoment (0 1 0)\n\x7d\n\x7d\n\x7d"),
    ("MAPLEAF/Examples/Simulations/Haisunaata.mapleaf",
      "SimControl\x7b\ntimeDiscretization RK4\ntimeStep 0.01\nEndCondition Apogee\nEndConditionValue 0\nloggingLevel 2\nRocketPlot On\nplot Position Velocity AngularVelocity FlightAnimation TailFinsM TailFinsF\n\x7d\nEnvironment\x7b\nLaunchSite.elevation 0\nAtmosphericPropertiesModel USStandardAtmosphere\nMeanWindModel Constant\nConstantMeanWind\x7b\nvelocity ( 2 0 0 )\n\x7d\nTurbulenceModel None\n\x7d\nRocket\x7b\nposition (0 0 0)\nSustainer\x7b\nclass Stage\nNosecone\x7b\nclass Nosecone\nmass 0.218\nposition (0 0 0)\ncg (0 0 -0.269)\nbaseDiameter 0.102\naspectRatio 3.3333\nshape tangentOgive\nsurfaceRoughness 0.000060\n\x7d\nUpperBodyTube\x7b\nclass Bodytube\nmass 2.225\nposition (0 0 -0.34)\ncg (0 0 -0.775)\nouterDiameter 0.102\nlength 1.55\nsurfaceRoughness 0.000060\n\x7d\nGeneralMass\x7b\nclass Mass\nmass 0.871\nposition (0 0 -1.583)\ncg (0 0 0)\nMOI (0.027522 0.027522 0.00031747)\n\x7d\nMotor\x7b\nclass Motor\npath MAPLEAF/Examples/Motors/J115.txt\n\x7d\nTailFins\x7b\nclass FinSet\nmass 0.107\nposition (0 0 -1.605)\ncg (0 0 -0.165)\nnumFins 3\nsweepAngle 58.5704\nrootChord 0.285\ntipChord 0.055\nspan 0.11\nthickness 0.003\nsurfaceRoughness 0.000060\n\x7d\n\x7d\n\x7d"),
    ("MAPLEAF/Examples/Simulations/InitializedOptimization.mapleaf",
      "Optimization\x7b\ncostFunction 1/apogee if (apogee > 1) else max(1, -1*apogee)\nIndependentVariables\x7b\nbodyWeight 0.01 < Rocket.Sustainer.UpperBodyTube.mass < 0.2\nInitialParticlePositions\x7b\np1\x7b\nbodyWeight 0.1\n\x7d\n\x7d\n\x7d\nDependentVariables\x7b\nRocket.Sustainer.Nosecone.mass !0.007506 + 0.015/bodyWeight!\n\x7d\nParticleSwarm\x7b\nnParticles 2\nnIterations 1\n\x7d\n\x7d\nSimControl\x7b\ntimeDiscretization RK45Adaptive\ntimeStep 0.01\nEndCondition Apogee\nloggingLevel 0\nRocketPlot On\nplot FlightAnimation\n\x7d\nEnvironment\x7b\nConstantMeanWind\x7b\nvelocity ( 2 0 0 )\n\x7d\n\x7d\nRocket\x7b\nposition (0 0 0)\nSustainer\x7b\nclass Stage\nNosecone\x7b\nclass Nosecone\nmass 0.007506\nposition (0 0 0)\ncg (0 0 -0.063527)\nMOI (4.662340917465653e-06 4.662340917465653e-06 9.44342735230976e-07)\nbaseDiameter 0.029\naspectRatio 3.448\nshape tangentOgive\nsurfaceRoughness 0.000060\n\x7d\nGeneralMass\x7b\nclass Mass\nmass 0.00952\nposition (0 0 -0.59)\ncg (0 0 -0.035)\nMOI (4.08e-06 4.08e-06 3.86e-07)\n\x7d\nAltimeterMass\x7b\nclass Mass\nmass 0.015\nposition (0 0 -0.31)\ncg (0 0 0)\nMOI (0 0 0)\n\x7d\nUpperBodyTube\x7b\nclass Bodytube\nmass 0.0531\nposition (0 0 -0.1)\ncg (0 0 -0.28)\nMOI (0.0017118892333333338 0.0017118892333333338 1.1837950000000002e-05)\nouterDiameter 0.029\nlength 0.46\nsurfaceRoughness 0.000060\n\x7d\nMotor\x7b\nclass Motor\npath MAPLEAF/Examples/Motors/C6-3.txt\n\x7d\nTailFins\x7b\nclass FinSet\nmass 0.00245\nposition (0 0 -0.51)\ncg (0 0 -0.024579)\nMOI (4.1639e-07 4.1639e-07 2.151e-06)\nnumFins 3\nsweepAngle 14.7127\nrootChord 0.05\ntipChord 0.02967\nspan 0.0302\nthickness 0.0001\nsurfaceRoughness 0.000060\n\x7d\n\x7d\n\x7d\n"),
    ("MAPLEAF/Examples/Simulations/IntermediateAxisTheorem.mapleaf",
      "SimControl\x7b\ntimeDiscretization RK45Adaptive\ntimeStep 0.04133\nTimeStepAdaptation\x7b\ncontroller PID\ntargetError 0.0005\n\x7d\nEndCondition Time\nEndConditionValue 100\nplot FlightAnimation AngularVelocity Orientation\nloggingLevel 2\n\x7d\nEnvironment\x7b\nLaunchSite.elevation 755\nEarthModel None\nAtmosphericPropertiesModel Constant\nConstantAtmosphere\x7b\ntemp 15\npressure 101325\ndensity 1.225\nviscosity 1.789e-5\n\x7d\n\x7d\nRocket\x7b\nposition (0 0 0)\nangularVelocity (0 0.01 1)\nStage1\x7b\nclass Stage\nMass\x7b\nclass Mass\nmass 1\nposition (0 0 0)\ncg (0 0 0)\nMOI (2 8 4)\n\x7d\n\x7d\n\x7d"),
    ("MAPLEAF/Examples/Simulations/Jake1.mapleaf",
      "SimControl\x7b\ntimeDiscretization RK4\ntimeStep 0.01\nEndCondition Apogee\nloggingLevel 2\nRocketPlot On\nplot FlightAnimation Sustainer.MotorFZ(N) AngularVelocityZ\n\x7d\nEnvironment\x7b\nConstantMeanWind\x7b\nvelocity ( 2 0 0 )\n\x7d\n\x7d\nRocket\x7b\nposition (0 0 0)\nSustainer\x7b\nclass Stage\nNosecone\x7b\nclass Nosecone\nmass 0.007506\nposition (0 0 0)\ncg (0 0 -0.063527)\nMOI (4.662340917465653e-06 4.662340917465653e-06 9.44342735230976e-07)\nbaseDiameter 0.029\naspectRatio 3.448\nshape tangentOgive\nsurfaceRoughness 0.000060\n\x7d\nGeneralMass\x7b\nclass Mass\nmass 0.00952\nposition (0 0 -0.59)\ncg (0 0 -0.035)\nMOI (4.08e-06 4.08e-06 3.86e-07)\n\x7d\nAltimeterMass\x7b\nclass Mass\nmass 0.015\nposition (0 0 -0.31)\ncg (0 0 0)\nMOI (0 0 0)\n\x7d\nUpperBodyTube\x7b\nclass Bodytube\nmass 0.0531\nposition (0 0 -0.1)\ncg (0 0 -0.28)\nMOI (0.0017118892333333338 0.0017118892333333338 1.1837950000000002e-05)\nouterDiameter 0.029\nlength 0.46\nsurfaceRoughness 0.000060\n\x7d\nMotor\x7b\nclass Motor\npath MAPLEAF/Examples/Motors/C6-3.txt\n\x7d\nTailFins\x7b\nclass FinSet\nmass 0.00245\nposition (0 0 -0.51)\ncg (0 0 -0.024579)\nMOI (4.1639e-07 4.1639e-07 2.151e-06)\nnumFins 3\nfinCantAngle 5\nsweepAngle 14.7127\nrootChord 0.05\ntipChord 0.02967\nspan 0.0302\nthickness 0.0001\nsurfaceRoughness 0.000060\n\x7d\n\x7d\n\x7d\n"),
    ("MAPLEAF/Examples/Simulations/Jake1_MonteCarlo.mapleaf",
      "MonteCarlo\x7b\nnumberRuns 5\noutput flightPaths apogees\n\x7d\nSimControl\x7b\ntimeDiscretization RK4\ntimeStep 0.01\nEndCondition Apogee\nloggingLevel 2\nRocketPlot On\nplot FlightAnimation Thrust AngularVelocityZ\n\x7d\nEnvironment\x7b\nConstantMeanWind\x7b\nvelocity ( 2 0 0 )\n\x7d\n\x7d\nRocket\x7b\nposition (0 0 0)\nSustainer\x7b\nclass Stage\nNosecone\x7b\nclass Nosecone\nmass 0.007506\nposition (0 0 0)\ncg (0 0 -0.063527)\nMOI (4.662340917465653e-06 4.662340917465653e-06 9.44342735230976e-07)\nbaseDiameter 0.029\naspectRatio 3.448\nshape tangentOgive\nsurfaceRoughness 0.000060\n\x7d\nGeneralMass\x7b\nclass Mass\nmass 0.00952\nposition (0 0 -0.59)\ncg (0 0 -0.035)\nMOI (4.08e-06 4.08e-06 3.86e-07)\n\x7d\nAltimeterMass\x7b\nclass Mass\nmass 0.015\nposition (0 0 -0.31)\ncg (0 0 0)\nMOI (0 0 0)\n\x7d\nUpperBodyTube\x7b\nclass Bodytube\nmass 0.0531\nposition (0 0 -0.1)\ncg (0 0 -0.28)\nMOI (0.0017118892333333338 0.0017118892333333338 1.1837950000000002e-05)\nouterDiameter 0.029\nlength 0.46\nsurfaceRoughness 0.000060\n\x7d\nMotor\x7b\nclass Motor\npath MAPLEAF/Examples/Motors/B4-4.txt\nimpulseAdjustFactor 1.0\nimpulseAdjustFactor_stdDev 0.02331\nburnTimeAdjustFactor 1.0\nburnTimeAdjustFactor_stdDev 0.10679\n\x7d\nTailFins\x7b\nclass FinSet\nmass 0.00245\nposition (0 0 -0.51)\ncg (0 0 -0.024579)\nMOI (4.1639e-07 4.1639e-07 2.151e-06)\nnumFins 3\nfinCantAngle 5\nsweepAngle 14.7127\nrootChord 0.05\ntipChord 0.02967\nspan 0.0302\nthickness 0.0001\nsurfaceRoughness 0.000060\n\x7d\n\x7d\n\x7d\n"),
    ("MAPLEAF/Examples/Simulations/Maxus.mapleaf",
      "SimControl\x7b\ntimeDiscretization RK4\ntimeStep 0.01\nEndCondition Apogee\nEndConditionValue 6\nloggingLevel 2\nRocketPlot On\nplot Position Velocity AngularVelocity FlightAnimation FinSet1M FinSet1F\n\x7d\nEnvironment\x7b\nLaunchSite.elevation 1\nConstantMeanWind\x7b\nvelocity ( 2 0 0 )\n\x7d\n\x7d\nRocket\x7b\nposition (0 0 0)\nSustainer\x7b\nclass Stage\nNosecone\x7b\nclass Nosecone\nmass 0.007506\nposition (0 0 0)\ncg (0 0 -0.063527)\nMOI (4.662340917465653e-06 4.662340917465653e-06 9.44342735230976e-07)\nbaseDiameter 0.1968\naspectRatio 4.53506098\nshape tangentOgive\nsurfaceRoughness 0.000060\n\x7d\nUpperBodyTube\x7b\nclass Bodytube\nmass 0.0646\nposition (0 0 -1.7019)\ncg (0 0 -0.28)\nMOI (0.0017118892333333338 0.0017118892333333338 1.1837950000000002e-05)\nouterDiameter 0.62991\nlength 4.1091\nsurfaceRoughness 0.000060\n\x7d\nLowerBodyTube\x7b\nclass Bodytube\nmass 0.0646\nposition (0 0 -6.5058)\ncg (0 0 -0.28)\nMOI (0.0017118892333333338 0.0017118892333333338 1.1837950000000002e-05)\nouterDiameter 1.0023\nlength 8.0814\nsurfaceRoughness 0.000060\n\x7d\nMotor\x7b\nclass Motor\npath MAPLEAF/Examples/Motors/Empty.txt\n\x7d\nTailFins\x7b\nclass FinSet\nmass 0.00245\nposition (0 0 -14.1279)\ncg (0 0 -0.024579)\nnumFins 4\nMOI (4.1639e-07 4.1639e-07 2.151e-06)\nfirstFinAngle 0\nfinCantAngle 0\nsweepAngle 34.98175\nrootChord 0.8907\ntipChord 0.4086\nspan 0.688977\nthickness 0.0001\nsurfaceRoughness 0.000060\n\x7d\n\x7d\n\x7d\n"),
    ("MAPLEAF/Examples/Simulations/MonteCarlo.mapleaf",
      "MonteCarlo\x7b\nnumberRuns 10\n\x7d\nSimControl\x7b\ntimeDiscretization RK4\ntimeStep 0.01\nEndCondition Apogee\nloggingLevel 2\nRocketPlot On\nplot FlightAnimation Thrust AngularVelocityZ\n\x7d\nEnvironment\x7b\nConstantMeanWind\x7b\nvelocity ( 2 0 0 )\nvelocity_stdDev ( 5 5 5 )\n\x7d\n\x7d\nRocket\x7b\nposition (0 0 15)\nvelocity (0 0 50)\nSustainer\x7b\nclass Stage\nconstCG (0 0 -2.65)\nconstMass 50\nconstMOI (85 85 0.5)\nNosecone\x7b\nclass Nosecone\nmass 1.0\nposition (0 0 0)\ncg (0 0 0)\nbaseDiameter 0.1524\naspectRatio 5\nshape tangentOgive\nsurfaceRoughness 0.000050\n\x7d\nRecoverySystem\x7b\nclass RecoverySystem\nmass 5\nposition (0 0 -1)\ncg (0 0 -1)\nnumStages 2\nstage1Trigger Apogee\nstage1TriggerValue 30\nstage1ChuteArea 2\nstage1Cd 1.5\nstage1DelayTime 2\nstage2Trigger Altitude\nstage2TriggerValue 300\nstage2ChuteArea 9\nstage2Cd 1.5\nstage2DelayTime 0\n\x7d\nUpperBodyTube\x7b\nclass Bodytube\nmass 1\nposition (0 0 -0.762)\ncg (0 0 0)\nouterDiameter 0.1524\nlength 3.5538\nsurfaceRoughness 0.000050\n\x7d\nGeneralMass\x7b\nclass Mass\nmass 50\nposition (0 0 -2.6)\ncg (0 0 0)\nMOI (66.6 66.6 0.21)\n\x7d\nMotor\x7b\nclass Motor\npath MAPLEAF/Examples/Motors/test.txt\n\x7d\nTailFins\x7b\nclass FinSet\nmass 1\nposition (0 0 -4.011)\ncg (0 0 0)\nnumFins 4\nfirstFinAngle 0\nsweepAngle 28.61\nrootChord 0.3048\ntipChord 0.1524\nspan 0.1397\nthickness 0.0047625\nsurfaceRoughness 0.000050\n\x7d\n\x7d\n\x7d"),
    ("MAPLEAF/Examples/Simulations/MultiLoopOptimization.mapleaf",
      "Optimization\x7b\ncostFunction 1/apogee if (apogee > 1) else max(1, -1*apogee)\nIndependentVariables\x7b\nbodyWeight 0.01 < Rocket.Sustainer.UpperBodyTube.mass < 0.2\n\x7d\nDependentVariables\x7b\nRocket.Sustainer.Nosecone.mass !0.007506 + 0.015/bodyWeight!\n\x7d\nParticleSwarm\x7b\nnParticles 2\nnIterations 5\n\x7d\nInnerOptimization\x7b\ncostFunction 1/apogee if (apogee > 1) else max(1, -1*apogee)\nIndependentVariables\x7b\nGeneralMass 0.0045 < Rocket.Sustainer.GeneralMass.mass < 0.01\n\x7d\nDependentVariables\x7b\nRocket.Sustainer.AltimeterMass.mass !0.01 + 0.0000475/GeneralMass!\n\x7d\nParticleSwarm\x7b\nnParticles 2\nnIterations 5\n\x7d\n\x7d\n\x7d\nSimControl\x7b\ntimeDiscretization RK45Adaptive\ntimeStep 0.01\nEndCondition Apogee\nloggingLevel 0\nRocketPlot On\nplot FlightAnimation\n\x7d\nEnvironment\x7b\nConstantMeanWind\x7b\nvelocity ( 2 0 0 )\n\x7d\n\x7d\nRocket\x7b\nposition (0 0 0)\nSustainer\x7b\nclass Stage\nNosecone\x7b\nclass Nosecone\nmass 0.007506\nposition (0 0 0)\ncg (0 0 -0.063527)\nMOI (4.662340917465653e-06 4.662340917465653e-06 9.44342735230976e-07)\nbaseDiameter 0.029\naspectRatio 3.448\nshape tangentOgive\nsurfaceRoughness 0.000060\n\x7d\nGeneralMass\x7b\nclass Mass\nmass 0.00952\nposition (0 0 -0.59)\ncg (0 0 -0.035)\nMOI (4.08e-06 4.08e-06 3.86e-07)\n\x7d\nAltimeterMass\x7b\nclass Mass\nmass 0.015\nposition (0 0 -0.31)\ncg (0 0 0)\nMOI (0 0 0)\n\x7d\nUpperBodyTube\x7b\nclass Bodytube\nmass 0.0531\nposition (0 0 -0.1)\ncg (0 0 -0.28)\nMOI (0.0017118892333333338 0.0017118892333333338 1.1837950000000002e-05)\nouterDiameter 0.029\nlength 0.46\nsurfaceRoughness 0.000060\n\x7d\nMotor\x7b\nclass Motor\npath MAPLEAF/Examples/Motors/C6-3.txt\n\x7d\nTailFins\x7b\nclass FinSet\nmass 0.00245\nposition (0 0 -0.51)\ncg (0 0 -0.024579)\nMOI (4.1639e-07 4.1639e-07 2.151e-06)\nnumFins 3\nsweepAngle 14.7127\nrootChord 0.05\ntipChord 0.02967\nspan 0.0302\nthickness 0.0001\nsurfaceRoughness 0.000060\n\x7d\n\x7d\n\x7d\n"),
    ("MAPLEAF/Examples/Simulations/NASABrick.mapleaf",
      "SimControl\x7b\ntimeDiscretization RK4\ntimeStep 0.1\nEndCondition Time\nEndConditionValue 30\nloggingLevel 2\nplot FlightAnimation AeroM\n\x7d\nEnvironment\x7b\nLaunchSite\x7b\nelevation 9144\nlatitude 0\nlongitude 0\n\x7d\nEarthModel WGS84\n\x7d\nRocket\x7b\nposition (0 0 0)\nrotationAxis (1 1 0)\nrotationAngle 180\nangularVelocity (0.17446007885 0.349066 0.523599)\nStage\x7b\nclass Stage\nMass\x7b\nclass Mass\nmass 2.2679619056149\nposition (0 0 0)\nMOI (0.00256821747 0.00842101104 0.00975465594)\n\x7d\nAeroDamping\x7b\nclass AeroDamping\nAref 0.02064491355\nLref 0.101598984\nxDampingCoeffs (-1 0 0)\nyDampingCoeffs ( 0 -4 0)\nzDampingCoeffs ( 0 0 -1)\n\x7d\n\x7d\n\x7d"),
    ("MAPLEAF/Examples/Simulations/NASASphere.mapleaf",
      "SimControl\x7b\ntimeDiscretization RK4\ntimeStep 0.05\nEndCondition Time\nEndConditionValue 30\n\x7d\nEnvironment\x7b\nLaunchSite\x7b\nelevation 9144\nlatitude 0\nlongitude 0\n\x7d\nEarthModel WGS84\n\x7d\nRocket\x7b\nposition (0 0 0)\nangularVelocity (0.0 -7.292115e-5 0.0)\nStage\x7b\nclass Stage\nMass\x7b\nclass Mass\nmass 14.5938809\nposition (0 0 0)\nMOI (4.8809446628 4.8809446628 4.8809446628)\n\x7d\nAeroForce\x7b\nclass AeroForce\nposition (0 0 0)\nAref 0.0182414654525\nCd 0.1\n\x7d\n\x7d\n\x7d"),
    ("MAPLEAF/Examples/Simulations/NASATM2005.mapleaf",
      "SimControl\x7b\ntimeDiscretization RK4\ntimeStep 0.01\nEndCondition Time\nEndConditionValue 0.05\nRocketPlot On\nplot None\n\x7d\nEnvironment\x7b\nLaunchSite.elevation 10\nAtmosphericPropertiesModel Constant\nMeanWindModel Constant\nConstantMeanWind\x7b\nvelocity (0 0 0)\n\x7d\nTurbulenceModel None\n\x7d\nRocket\x7b\nposition (0 0 1)\nvelocity (0 0 408.24)\nAero\x7b\nsurfaceRoughness 0.0000005\n\x7d\nSustainer\x7b\nclass Stage\nposition (0 0 0)\nconstCG (0 0 -0.5940298)\nNosecone\x7b\nclass Nosecone\nmass 0.007506\nposition (0 0 0)\ncg (0 0 -0.063527)\nMOI (4.662340917465653e-06 4.662340917465653e-06 9.44342735230976e-07)\nbaseDiameter 0.0684276\naspectRatio 2.3359\nshape tangentOgive\n\x7d\nUpperBodyTube\x7b\nclass Bodytube\nmass 0.0646\nposition (0 0 -0.1598422)\ncg (0 0 -0.3885)\nMOI (0.0017118892333333338 0.0017118892333333338 1.1837950000000002e-05)\nouterDiameter 0.0684276\nlength 0.188214\n\x7d\nTransition\x7b\nclass Transition\nmass 0.1\nposition (0 0 -0.3480562)\ncg (0 0 0)\nMOI (0.01 0.01 0.0001)\nlength 0.098425\nstartDiameter 0.0684276\nendDiameter 0.08001\n\x7d\nLowerBodyTube\x7b\nclass Bodytube\nmass 0.0646\nposition (0 0 -0.4464812)\ncg (0 0 -0.3885)\nMOI (0.0017118892333333338 0.0017118892333333338 1.1837950000000002e-05)\nouterDiameter 0.08001\nlength 0.5989066\n\x7d\nMotor\x7b\nclass Motor\npath MAPLEAF/Examples/Motors/Empty.txt\n\x7d\nStrakeLong\x7b\nclass FinSet\nmass 0.00245\nposition (0 0 -0.994791)\ncg (0 0 -0.024579)\nnumFins 4\nMOI (4.1639e-07 4.1639e-07 2.151e-06)\nsweepAngle 21.745748\nrootChord 0.0505968\ntipChord 0.0308102\nspan 0.0496062\nthickness 0.002794\n\x7d\nTailFins\x7b\nclass FinSet\nmass 0.00245\nposition (0 0 -0.483616)\ncg (0 0 -0.024579)\nnumFins 4\nMOI (4.1639e-07 4.1639e-07 2.151e-06)\nsweepAngle 62.7344\nrootChord 0.4436618\ntipChord 0.3858514\nspan 0.0297942\nthickness 0.00635\n\x7d\nBoatTail\x7b\nclass BoatTail\nmass 0.1\nposition (0 0 -1.0453878)\ncg (0 0 0)\nMOI (0.01 0.01 0.0001)\nlength 0.0348234\nstartDiameter 0.08001\nendDiameter 0.077216\n\x7d\n\x7d\n\x7d\n"),
    ("MAPLEAF/Examples/Simulations/NASATwoStageOrbitalRocket.mapleaf",
      "SimControl\x7b\ntimeDiscretization RK45Adaptive\ntimeStep 0.1\nEndCondition Time\nEndConditionValue 200\nStageDropPaths\x7b\nendCondition Time\nendConditionValue 200\n\x7d\nTimeStepAdaptation\x7b\ntargetError 0.0005\n\x7d\nplot TimeStep FlightAnimation Velocity FlightPaths\n\x7d\nEnvironment\x7b\nEarthModel WGS84\n\x7d\nRocket\x7b\nposition (0 0 13.89622)\nrotationAxis (0 1 0)\nrotationAngle 34.78\nvelocity (0 0 0.1)\nangularVelocity (0 0 0)\nAero\x7b\naddZeroLengthBoatTailsToAccountForBaseDrag false\n\x7d\nUpperStage\x7b\nclass Stage\nstageNumber 1\nTabulatedInertia\x7b\nclass TabulatedInertia\nfilePath ./MAPLEAF/Examples/TabulatedData/NASARocketTabulatedInertia.csv\n\x7d\nTabulatedAeroForces\x7b\nclass TabulatedAeroForce\nposition (0 0 -16.918790)\nAref 7.0\nfilePath ./MAPLEAF/Examples/TabulatedData/NASARocketTabulatedAeroForces.csv\n\x7d\nTabulatedPitchMoment\x7b\nclass TabulatedAeroForce\nposition (0 0 -16.918790)\nAref 7.0\nLref 3.0\nfilePath ./MAPLEAF/Examples/TabulatedData/NASARocketTabulatedAeroMoments.csv\n\x7d\nTabulatedYawMoment\x7b\nclass TabulatedAeroForce\nposition (0 0 -16.918790)\nAref 7.0\nLref 3.0\nfilePath ./MAPLEAF/Examples/TabulatedData/NASARocketTabulatedAeroMoments2.csv\n\x7d\nsecondStageEngineJetDamping\x7b\nclass FractionalJetDamping\nfraction -0.5\n\x7d\nSecondStageMotor\x7b\nclass Motor\npath MAPLEAF/Examples/Motors/NASAStage2Motor.txt\n\x7d\n\x7d\nLowerStage\x7b\nclass Stage\nstageNumber 0\nposition (0 0 -0.000001)\nseparationTriggerType motorBurnout\nseparationDelay 96.79\nTokenMass\x7b\nclass Mass\nmass 0.001\nposition (0 0 -16)\n\x7d\nfirstStageEngineJetDamping\x7b\nclass FractionalJetDamping\nfraction -0.5\n\x7d\nFirstStageMotor\x7b\nclass Motor\npath MAPLEAF/Examples/Motors/NASAStage1Motor.txt\n\x7d\n\x7d\n\x7d"),
    ("MAPLEAF/Examples/Simulations/Optimization.mapleaf",
      "Optimization\x7b\nmethod PSO\ncostFunction 1/apogee if (apogee > 1) else max(1, -1*apogee)\nIndependentVariables\x7b\nbodyWeight 0.01 < Rocket.Sustainer.UpperBodyTube.mass < 0.2\n\x7d\nDependentVariables\x7b\nRocket.Sustainer.Nosecone.mass !0.007506 + 0.015/bodyWeight!\n\x7d\nParticleSwarm\x7b\nnParticles 5\nnIterations 20\n\x7d\n\x7d\nSimControl\x7b\ntimeDiscretization RK45Adaptive\ntimeStep 0.01\nEndCondition Apogee\nloggingLevel 0\nRocketPlot On\nplot FlightAnimation\n\x7d\nEnvironment\x7b\nConstantMeanWind\x7b\nvelocity ( 2 0 0 )\n\x7d\n\x7d\nRocket\x7b\nposition (0 0 0)\nSustainer\x7b\nclass Stage\nNosecone\x7b\nclass Nosecone\nmass 0.007506\nposition (0 0 0)\ncg (0 0 -0.063527)\nMOI (4.662340917465653e-06 4.662340917465653e-06 9.44342735230976e-07)\nbaseDiameter 0.029\naspectRatio 3.448\nshape tangentOgive\nsurfaceRoughness 0.000060\n\x7d\nGeneralMass\x7b\nclass Mass\nmass 0.00952\nposition (0 0 -0.59)\ncg (0 0 -0.035)\nMOI (4.08e-06 4.08e-06 3.86e-07)\n\x7d\nAltimeterMass\x7b\nclass Mass\nmass 0.015\nposition (0 0 -0.31)\ncg (0 0 0)\nMOI (0 0 0)\n\x7d\nUpperBodyTube\x7b\nclass Bodytube\nmass 0.0531\nposition (0 0 -0.1)\ncg (0 0 -0.28)\nMOI (0.0017118892333333338 0.0017118892333333338 1.1837950000000002e-05)\nouterDiameter 0.029\nlength 0.46\nsurfaceRoughness 0.000060\n\x7d\nMotor\x7b\nclass Motor\npath MAPLEAF/Examples/Motors/C6-3.txt\n\x7d\nTailFins\x7b\nclass FinSet\nmass 0.00245\nposition (0 0 -0.51)\ncg (0 0 -0.024579)\nMOI (4.1639e-07 4.1639e-07 2.151e-06)\nnumFins 3\nsweepAngle 14.7127\nrootChord 0.05\ntipChord 0.02967\nspan 0.0302\nthickness 0.0001\nsurfaceRoughness 0.000060\n\x7d\n\x7d\n\x7d\n"),
    ("MAPLEAF/Examples/Simulations/OrbitingWeight.mapleaf",
      "SimControl\x7b\ntimeDiscretization RK78Adaptive\nTimeStepAdaptation\x7b\nmaxTimeStep 60\n\x7d\nEndCondition Time\nEndConditionValue 30000\nplot FlightAnimation\n\x7d\nEnvironment\x7b\nLaunchSite\x7b\nelevation 409e3\n\x7d\nEarthModel WGS84\n\x7d\nRocket\x7b\nposition (0 0 0)\ninitialDirection (1 0 0)\nvelocity (7701 0 0)\nStage1\x7b\nclass Stage\nMass\x7b\nclass Mass\nmass 1\nposition (0 0 0)\ncg (0 0 0)\nMOI (2 2 8)\n\x7d\n\x7d\n\x7d"),
    ("MAPLEAF/Examples/Simulations/ParametricFinBody.mapleaf",
      "SimControl\x7b\ntimeDiscretization RK4\ntimeStep 0.01\nEndCondition Apogee\nEndConditionValue 6\nloggingLevel 2\nRocketPlot On\nplot Position Velocity AngularVelocity FlightAnimation FinSet1M FinSet1F\n\x7d\nEnvironment\x7b\nAtmosphericPropertiesModel Constant\nConstantAtmosphere\x7b\ntemp -92.7\npressure 7673.6\ndensity 0.1486\nviscosity 1.22e-05\n\x7d\n\x7d\nRocket\x7b\nposition (0 0 0)\ninitialDirection (1 0 0)\nAero\x7b\naddZeroLengthBoatTailsToAccountForBaseDrag false\nsurfaceRoughness 2e-6\n\x7d\nSustainer\x7b\nclass Stage\nconstCG (0 0 -0.5334)\nNosecone\x7b\nclass Nosecone\nmass 0.007506\nposition (0 0 0)\ncg (0 0 -0.063527)\nMOI (4.662340917465653e-06 4.662340917465653e-06 9.44342735230976e-07)\nbaseDiameter 0.0762\naspectRatio 3\nshape tangentOgive\n\x7d\nUpperBodyTube\x7b\nclass Bodytube\nmass 0.0646\nposition (0 0 -0.2286)\ncg (0 0 -0.28)\nMOI (0.0017118892333333338 0.0017118892333333338 1.1837950000000002e-05)\nouterDiameter 0.0762\nlength 0.6858\n\x7d\nMotor\x7b\nclass Motor\npath MAPLEAF/Examples/Motors/Empty.txt\n\x7d\nTailFins\x7b\nclass FinSet\nmass 0.00245\nposition (0 0 -0.59436)\ncg (0 0 -0.024579)\nMOI (4.1639e-07 4.1639e-07 2.151e-06)\nnumFins 2\nfirstFinAngle 90\nsweepAngle 33.69\nrootChord 0.1524\ntipChord 0.0762\nspan 0.11\nthickness 0.002546\n\x7d\n\x7d\n\x7d"),
    ("MAPLEAF/Examples/Simulations/Precession.mapleaf",
      "SimControl\x7b\ntimeDiscretization RK45Adaptive\ntimeStep 0.001133\nTimeStepAdaptation\x7b\ncontroller PID\ntargetError 0.005\n\x7d\nEndCondition Time\nEndConditionValue 10\nplot FlightAnimation AngularVelocity Orientation\nloggingLevel 2\n\x7d\nEnvironment\x7b\nLaunchSite.elevation 755\nEarthModel None\n\x7d\nRocket\x7b\nposition (0 0 0)\nangularVelocity (1 0 1)\nStage1\x7b\nclass Stage\nMass\x7b\nclass Mass\nmass 1\nposition (0 0 0)\ncg (0 0 0)\nMOI (2 2 8)\n\x7d\n\x7d\n\x7d"),
    ("MAPLEAF/Examples/Simulations/Recovery.mapleaf",
      "SimControl\x7b\ntimeDiscretization RK45Adaptive\ntimeStep 0.05\nEndCondition Altitude\nEndConditionValue 0\nplot FlightAnimation\nloggingLevel 0\n\x7d\nRocket\x7b\nposition (0 0 15)\ninitialDirection (0.2 0.2 1)\nvelocity (0 0 50)\nSustainer\x7b\nclass Stage\nconstCG (0 0 -2.65)\nconstMass 50\nconstMOI (85 85 0.5)\nNosecone\x7b\nclass Nosecone\nmass 1.0\nposition (0 0 0)\ncg (0 0 0)\nbaseDiameter 0.1524\naspectRatio 5\nshape tangentOgive\nsurfaceRoughness 0.000050\n\x7d\nRecoverySystem\x7b\nclass RecoverySystem\nmass 5\nposition (0 0 -1)\ncg (0 0 -1)\nnumStages 3\nstage1Trigger Apogee\nstage1ChuteArea 2\nstage1Cd 1.5\nstage1DelayTime 2\nstage2Trigger Altitude\nstage2TriggerValue 300\nstage2ChuteArea 9\nstage2Cd 1.51\nstage2DelayTime 0\nstage3Trigger Time\nstage3TriggerValue 301\nstage3ChuteArea 15\nstage3Cd 1.52\nstage3DelayTime 0\n\x7d\nUpperBodyTube\x7b\nclass Bodytube\nmass 1\nposition (0 0 -0.762)\ncg (0 0 0)\nouterDiameter 0.1524\nlength 3.5538\nsurfaceRoughness 0.000050\n\x7d\nGeneralMass\x7b\nclass Mass\nmass 50\nposition (0 0 -2.6)\ncg (0 0 0)\nMOI (66.6 66.6 0.21)\n\x7d\nMotor\x7b\nclass Motor\npath MAPLEAF/Examples/Motors/test.txt\n\x7d\nTailFins\x7b\nclass FinSet\nmass 1\nposition (0 0 -4.011)\ncg (0 0 0)\nnumFins 3\nfirstFinAngle 0\nsweepAngle 28.61\nrootChord 0.3048\ntipChord 0.1524\nspan 0.1397\nthickness 0.0047625\nsurfaceRoughness 0.000050\n\x7d\n\x7d\n\x7d\n"),
    ("MAPLEAF/Examples/Simulations/ScipyOptimization.mapleaf",
      "Optimization\x7b\nmethod scipy.optimize.minimize BFGS\ncostFunction 1/apogee if (apogee > 1) else max(1, -1*apogee)\nIndependentVariables\x7b\nbodyWeight 0.01 < Rocket.Sustainer.UpperBodyTube.mass < 0.2\n\x7d\nDependentVariables\x7b\nRocket.Sustainer.Nosecone.mass !0.007506 + 0.015/bodyWeight!\n\x7d\nScipyMinimize\x7b\ntolerance 0.01\n\x7d\n\x7d\nSimControl\x7b\ntimeDiscretization RK45Adaptive\ntimeStep 0.01\nEndCondition Apogee\nloggingLevel 0\nRocketPlot On\nplot FlightAnimation\n\x7d\nEnvironment\x7b\nConstantMeanWind\x7b\nvelocity ( 0 0 0 )\n\x7d\n\x7d\nRocket\x7b\nposition (0 0 0)\nSustainer\x7b\nclass Stage\nNosecone\x7b\nclass Nosecone\nmass 0.11889\nposition (0 0 0)\ncg (0 0 -0.063527)\nMOI (4.662340917465653e-06 4.662340917465653e-06 9.44342735230976e-07)\nbaseDiameter 0.029\naspectRatio 3.448\nshape tangentOgive\nsurfaceRoughness 0.000060\n\x7d\nGeneralMass\x7b\nclass Mass\nmass 0.00952\nposition (0 0 -0.59)\ncg (0 0 -0.035)\nMOI (4.08e-06 4.08e-06 3.86e-07)\n\x7d\nAltimeterMass\x7b\nclass Mass\nmass 0.015\nposition (0 0 -0.31)\ncg (0 0 0)\nMOI (0 0 0)\n\x7d\nUpperBodyTube\x7b\nclass Bodytube\nmass 0.1347\nposition (0 0 -0.1)\ncg (0 0 -0.28)\nMOI (0.0017118892333333338 0.0017118892333333338 1.1837950000000002e-05)\nouterDiameter 0.029\nlength 0.46\nsurfaceRoughness 0.000060\n\x7d\nMotor\x7b\nclass Motor\npath MAPLEAF/Examples/Motors/C6-3.txt\n\x7d\nTailFins\x7b\nclass FinSet\nmass 0.00245\nposition (0 0 -0.51)\ncg (0 0 -0.024579)\nMOI (4.1639e-07 4.1639e-07 2.151e-06)\nnumFins 3\nsweepAngle 14.7127\nrootChord 0.05\ntipChord 0.02967\nspan 0.0302\nthickness 0.0001\nsurfaceRoughness 0.000060\n\x7d\n\x7d\n\x7d\n"),
    ("MAPLEAF/Examples/Simulations/Simple_Sim_MAPLEAF_Solution.mapleaf",
      "SimControl\x7b\ntimeDiscretization RK4\ntimeStep 0.05\nplot Position Velocity FlightAnimation\nEndCondition Altitude\nEndConditionValue -0.01\n\x7d\nEnvironment\x7b\nLaunchSite\x7b\nelevation 0\nlatitude 0\nlongitude 0\n\x7d\nEarthModel Flat\n\x7d\nRocket\x7b\nposition (0 0 0)\nvelocity (0 0 50)\nStage\x7b\nclass Stage\nMass\x7b\nclass Mass\nmass 454\nposition (0 0 0.5)\nMOI (4.8809446628 4.8809446628 4.8809446628)\n\x7d\nAeroForce\x7b\nclass AeroForce\nposition (0 0 0)\nAref 0.0182414654525\nCd 0\n\x7d\n\x7d\n\x7d"),
    ("MAPLEAF/Examples/Simulations/SooyBodyAlone.mapleaf",
      "SimControl\x7b\nEndCondition Apogee\nloggingLevel 2\nRocketPlot On\n\x7d\nEnvironment\x7b\nAtmosphericPropertiesModel Constant\nConstantAtmosphere\x7b\ntemp -101.15\npressure 7139.646\ndensity 0.144612\nviscosity 1.1646e-05\n\x7d\n\x7d\nRocket\x7b\nposition (0 0 0)\ninitialDirection (1 0 0)\nAero\x7b\naddZeroLengthBoatTailsToAccountForBaseDrag false\nsurfaceRoughness 0.000002\n\x7d\nSustainer\x7b\nclass Stage\nconstCG (0 0 -0.381)\nNosecone\x7b\nclass Nosecone\nmass 0.007506\nposition (0 0 0)\ncg (0 0 -0.033527)\nMOI (4.662340917465653e-06 4.662340917465653e-06 9.44342735230976e-07)\nbaseDiameter 0.0762\naspectRatio 5\nshape tangentOgive\n\x7d\nUpperBodyTube\x7b\nclass Bodytube\nmass 0.0646\nposition (0 0 -0.381)\ncg (0 0 -0.15)\nMOI (0.0017118892333333338 0.0017118892333333338 1.1837950000000002e-05)\nouterDiameter 0.0762\nlength 0.381\n\x7d\n\x7d\n\x7d\n"),
    ("MAPLEAF/Examples/Simulations/SooyBodyFlare.mapleaf",
      "SimControl\x7b\nEndCondition Apogee\nloggingLevel 2\nRocketPlot On\n\x7d\nEnvironment\x7b\nAtmosphericPropertiesModel Constant\nConstantAtmosphere\x7b\ntemp -101.15\npressure 7139.646\ndensity 0.144612\nviscosity 1.1646e-05\n\x7d\n\x7d\nRocket\x7b\nposition (0 0 0)\ninitialDirection (1 0 0)\nAero\x7b\naddZeroLengthBoatTailsToAccountForBaseDrag false\nsurfaceRoughness 0.000002\n\x7d\nSustainer\x7b\nclass Stage\nconstCG (0 0 -0.381)\nNosecone\x7b\nclass Nosecone\nmass 0.007506\nposition (0 0 0)\ncg (0 0 -0.033527)\nMOI (1 1 1)\nbaseDiameter 0.0762\naspectRatio 5\nshape tangentOgive\n\x7d\nUpperBodyTube\x7b\nclass Bodytube\nmass 0.0646\nposition (0 0 -0.381)\ncg (0 0 -0.15)\nMOI (1 1 1)\nouterDiameter 0.0762\nlength 0.228346\n\x7d\nFlare\x7b\nclass Transition\nmass 0.1\nposition (0 0 -0.609346)\ncg (0 0 -0.1)\nMOI (1 1 1)\nlength 0.152654\nstartDiameter 0.0762\nendDiameter 0.130302\n\x7d\n\x7d\n\x7d\n"),
    ("MAPLEAF/Examples/Simulations/SooyConventional.mapleaf",
      "SimControl\x7b\nEndCondition Apogee\nloggingLevel 2\nRocketPlot On\n\x7d\nEnvironment\x7b\nAtmosphericPropertiesModel Constant\nConstantAtmosphere\x7b\ntemp -92.7\npressure 2683.881\ndensity 0.051816\nviscosity 1.2151e-05\n\x7d\n\x7d\nRocket\x7b\nposition (0 0 0)\ninitialDirection (1 0 0)\nSustainer\x7b\nclass Stage\nconstCG (0 0 -2.4384)\nNosecone\x7b\nclass Nosecone\nmass 0.007506\nposition (0 0 0)\ncg (0 0 -0.063527)\nMOI (4.662340917465653e-06 4.662340917465653e-06 9.44342735230976e-07)\nbaseDiameter 0.3048\naspectRatio 3\nshape tangentOgive\nsurfaceRoughness 0.000060\n\x7d\nUpperBodyTube\x7b\nclass Bodytube\nmass 0.0646\nposition (0 0 -0.9144)\ncg (0 0 -0.28)\nMOI (0.0017118892333333338 0.0017118892333333338 1.1837950000000002e-05)\nouterDiameter 0.3048\nlength 3.9624\nsurfaceRoughness 0.000060\n\x7d\nTailFins\x7b\nclass FinSet\nmass 0.00245\nposition (0 0 -4.470397968)\ncg (0 0 -0.203)\nMOI (4.1639e-07 4.1639e-07 2.151e-06)\nnumFins 4\nsweepAngle 33.69\nrootChord 0.406398984\ntipChord 0.2031997968\nspan 0.3048\nthickness 0.021336\nsurfaceRoughness 0.000060\n\x7d\n\x7d\n\x7d\n"),
    ("MAPLEAF/Examples/Simulations/SooyFinnedBody.mapleaf",
      "SimControl\x7b\nEndCondition Apogee\nloggingLevel 2\nRocketPlot On\n\x7d\nEnvironment\x7b\nAtmosphericPropertiesModel Constant\nConstantAtmosphere\x7b\ntemp -101.15\npressure 7139.646\ndensity 0.144612\nviscosity 1.1646e-05\n\x7d\n\x7d\nRocket\x7b\nposition (0 0 0)\ninitialDirection (1 0 0)\nAero\x7b\naddZeroLengthBoatTailsToAccountForBaseDrag false\nsurfaceRoughness 0.000002\n\x7d\nSustainer\x7b\nclass Stage\nconstCG (0 0 -0.381)\nNosecone\x7b\nclass Nosecone\nmass 0.007506\nposition (0 0 0)\ncg (0 0 -0.033527)\nMOI (1 1 1)\nbaseDiameter 0.0762\naspectRatio 5\nshape tangentOgive\n\x7d\nUpperBodyTube\x7b\nclass Bodytube\nmass 0.0646\nposition (0 0 -0.381)\ncg (0 0 -0.15)\nMOI (1 1 1)\nouterDiameter 0.0762\nlength 0.381\n\x7d\nFins\x7b\nclass FinSet\nmass 0.1\nposition (0 0 -0.610362)\ncg (0 0 -0.1)\nMOI (1 1 1)\nnumFins 4\nsweepAngle 75\nrootChord 0.151638\ntipChord 0\nspan 0.04064\nthickness 0.002\nLeadingEdge\x7b\nshape Round\nradius 0.002\n\x7d\nTrailingEdge\x7b\nshape Blunt\nthickness 0.002\n\x7d\n\x7d\n\x7d\n\x7d\n"),
    ("MAPLEAF/Examples/Simulations/Sparrow.mapleaf",
      "SimControl\x7b\ntimeDiscretization RK4\ntimeStep 0.01\nEndCondition Apogee\nloggingLevel 2\nRocketPlot On\nplot Position Velocity AngularVelocity FlightAnimation\n\x7d\nEnvironment\x7b\nAtmosphericPropertiesModel Constant\nConstantAtmosphere\x7b\ntemp -39.36\npressure 18123.2\ndensity 0.270047\nviscosity 1.51418e-05\n\x7d\n\x7d\nRocket\x7b\nposition (0 0 0)\ninitialDirection (1 0 0)\nSustainer\x7b\nclass Stage\nNosecone\x7b\nclass Nosecone\nmass 0.007506\nposition (0 0 0)\ncg (0 0 -0.063527)\nMOI (4.662340917465653e-06 4.662340917465653e-06 9.44342735230976e-07)\nbaseDiameter 0.03048\naspectRatio 2.25065\nshape tangentOgive\nsurfaceRoughness 0.000060\n\x7d\nUpperBodyTube\x7b\nclass Bodytube\nmass 0.0646\nposition (0 0 -0.0686)\ncg (0 0 -0.28)\nMOI (0.0017118892333333338 0.0017118892333333338 1.1837950000000002e-05)\nouterDiameter 0.03048\nlength 0.4684\nsurfaceRoughness 0.000060\n\x7d\nMotor\x7b\nclass Motor\npath MAPLEAF/Examples/Motors/Empty.txt\n\x7d\nTailFinsFore1\x7b\nclass FinSet\nmass 0.00245\nposition (0 0 -0.2321)\ncg (0 0 -0.024579)\nnumFins 2\nMOI (4.1639e-07 4.1639e-07 2.151e-06)\nfirstFinAngle -45\nfinCantAngle 5\nsweepAngle 45.475867\nrootChord 0.0742\ntipChord 0.0145\nspan 0.0597\nthickness 0.0001\nsurfaceRoughness 0.000060\n\x7d\nTailFinsFore2\x7b\nclass FinSet\nmass 0.00245\nposition (0 0 -0.2321)\ncg (0 0 -0.024579)\nnumFins 2\nMOI (4.1639e-07 4.1639e-07 2.151e-06)\nfirstFinAngle 45\nfinCantAngle 0\nsweepAngle 45.475867\nrootChord 0.0742\ntipChord 0.0145\nspan 0.0597\nthickness 0.0001\nsurfaceRoughness 0.000060\n\x7d\nTailFinsAft\x7b\nclass FinSet\nmass 0.00245\nposition (0 0 -0.4777)\ncg (0 0 -0.024579)\nnumFins 4\nMOI (4.1639e-07 4.1639e-07 2.151e-06)\nfirstFinAngle 45\nsweepAngle 56.910849\nrootChord 0.0709\ntipChord 0.0\nspan 0.0462\nthickness 0.0001\nsurfaceRoughness 0.000060\n\x7d\n\x7d\n\x7d\n"),
    ("MAPLEAF/Examples/Simulations/Staging.mapleaf",
      "SimControl\x7b\ntimeDiscretization RK45Adaptive\ntimeStep 0.05\nTimeStepAdaptation\x7b\ncontroller PID\n\x7d\nEndCondition Altitude\nEndConditionValue 0\nplot FlightAnimation FlightPaths Position Velocity NoseconeF\nloggingLevel 2\n\x7d\nEnvironment\x7b\nLaunchSite.elevation 755\nConstantMeanWind\x7b\nvelocity ( -10 0 0 )\n\x7d\n\x7d\nRocket\x7b\nposition (0 0 15)\nvelocity (0 0 50)\nSecondStage\x7b\nclass Stage\nstageNumber 2\nconstCG (0 0 -2.65)\nconstMass 30\nconstMOI (85 85 0.5)\nNosecone\x7b\nclass Nosecone\nmass 1.0\nposition (0 0 0)\ncg (0 0 -0.477)\nbaseDiameter 0.1524\naspectRatio 5\nshape tangentOgive\nsurfaceRoughness 0.000050\n\x7d\nRecoverySystem\x7b\nclass RecoverySystem\nmass 5\nposition (0 0 -1)\ncg (0 0 -1)\nnumStages 2\nstage1Trigger Apogee\nstage1TriggerValue 30\nstage1ChuteArea 2\nstage1Cd 1.5\nstage1DelayTime 2\nstage2Trigger Altitude\nstage2TriggerValue 300\nstage2ChuteArea 9\nstage2Cd 1.5\nstage2DelayTime 0\n\x7d\nUpperBodyTube\x7b\nclass Bodytube\nmass 1\nposition (0 0 -0.762)\ncg (0 0 -1.6245)\nouterDiameter 0.1524\nlength 3.5538\nsurfaceRoughness 0.000050\n\x7d\nGeneralMass\x7b\nclass Mass\nmass 50\nposition (0 0 -2.6)\ncg (0 0 0)\nMOI (66.6 66.6 0.21)\n\x7d\nMotor\x7b\nclass Motor\npath MAPLEAF/Examples/Motors/test.txt\n\x7d\nTailFins\x7b\nclass FinSet\nmass 1\nposition (0 0 -3.7062)\ncg (0 0 -0.1524)\nnumFins 4\nfirstFinAngle 0\nsweepAngle 28.61\nrootChord 0.3048\ntipChord 0.1524\nspan 0.1397\nthickness 0.0047625\nsurfaceRoughness 0.000050\n\x7d\n\x7d\nFirstStage\x7b\nclass Stage\nposition (0 0 -4.011)\nconstCG (0 0 -2.65)\nconstMass 30\nconstMOI (85 85 0.5)\nstageNumber 1\nseparationTriggerType motorBurnout\nseparationDelay 5\nRecoverySystem\x7b\nclass RecoverySystem\nmass 5\nposition (0 0 -1)\ncg (0 0 -1)\nnumStages 2\nstage1Trigger Apogee\nstage1TriggerValue 30\nstage1ChuteArea 2\nstage1Cd 1.5\nstage1DelayTime 2\nstage2Trigger Altitude\nstage2TriggerValue 300\nstage2ChuteArea 9\nstage2Cd 1.5\nstage2DelayTime 0\n\x7d\nUpperBodyTube\x7b\nclass Bodytube\nmass 1\nposition (0 0 0)\ncg (0 0 -1.6245)\nouterDiameter 0.1524\nlength 3.5538\nsurfaceRoughness 0.000050\n\x7d\nGeneralMass\x7b\nclass Mass\nmass 50\nposition (0 0 -2.6)\ncg (0 0 0)\nMOI (66.6 66.6 0.21)\n\x7d\nMotor\x7b\nclass Motor\npath MAPLEAF/Examples/Motors/test.txt\n\x7d\nTailFins\x7b\nclass FinSet\nmass 1\nposition (0 0 -2.9442)\ncg (0 0 -.1524)\nnumFins 4\nfirstFinAngle 0\nsweepAngle 28.61\nrootChord 0.3048\ntipChord 0.1524\nspan 0.1397\nthickness 0.0047625\nsurfaceRoughness 0.000050\n\x7d\n\x7d\n\x7d"),
    ("MAPLEAF/Examples/Simulations/StatefulComponent.mapleaf",
      "SimControl\x7b\ntimeDiscretization RK45Adaptive\nEndCondition Apogee\nplot tankLevel StatefulComponentFZ(N)\n\x7d\nRocket\x7b\nposition (0 0 4)\nvelocity (10 0 50)\nangularVelocity (0 0 1)\nSustainer\x7b\nclass Stage\nFixedMass\x7b\nclass Mass\nmass 50\nposition (0 0 0)\ncg (0 0 0)\n\x7d\nMotor\x7b\nclass Motor\npath MAPLEAF/Examples/Motors/test.txt\n\x7d\nStatefulComponent\x7b\nclass StatefulSample\n\x7d\n\x7d\n\x7d"),
    ("MAPLEAF/Examples/Simulations/Wind.mapleaf",
      "SimControl\x7b\ntimeDiscretization RK4\ntimeStep 0.05\nEndCondition Altitude\nEndConditionValue 0\nplot FlightAnimation FlightPaths Position Velocity NoseconeF AeroF AeroM GravityF TotalF\nloggingLevel 2\n\x7d\nEnvironment\x7b\nLaunchSite.elevation 755\nAtmosphericPropertiesModel USStandardAtmosphere\nMeanWindModel SampledRadioSondeData\nConstantMeanWind\x7b\nvelocity ( -10 0 0 )\n\x7d\nSampledGroundWindData\x7b\nlaunchMonth Mar\nlocationsToSample Suffield 0.52 MedecineHat 0.30 Schuler 0.18\n\x7d\nSampledRadioSondeData\x7b\nlaunchMonth Mar\nlocationsToSample Edmonton 0.48 Glasgow 0.52\nlocationASLAltitudes 710 638\nrandomSeed 228010\n\x7d\nHellman\x7b\ngroundWindModel Constant\nalphaCoeff 0.1429\naltitudeLimit 1000\n\x7d\nCustomWindProfile\x7b\nfilePath MAPLEAF/Examples/Wind/testWindProfile.txt\n\x7d\nTurbulenceModel PinkNoise2D\nturbulenceOffWhenUnderChute True\nPinkNoiseModel\x7b\nturbulenceIntensity 5\nvelocityStdDeviation 1\nrandomSeed1 63583\nrandomSeed2 63583\nrandomSeed3 63583\n\x7d\nCustomSineGust\x7b\nstartAltitude 2000\nmagnitude 9\nsineBlendDistance 30\nthickness 200\ndirection (0 1 0 )\n\x7d\n\x7d\nRocket\x7b\nposition (0 0 15)\nvelocity (0 0 50)\nSustainer\x7b\nclass Stage\nconstCG (0 0 -2.65)\nconstMass 50\nconstMOI (85 85 0.5)\nNosecone\x7b\nclass Nosecone\nmass 1.0\nposition (0 0 0)\ncg (0 0 0)\nbaseDiameter 0.1524\naspectRatio 5\nshape tangentOgive\nsurfaceRoughness 0.000050\n\x7d\nRecoverySystem\x7b\nclass RecoverySystem\nmass 5\nposition (0 0 -1)\ncg (0 0 -1)\nnumStages 2\nstage1Trigger Apogee\nstage1TriggerValue 30\nstage1ChuteArea 2\nstage1Cd 1.5\nstage1DelayTime 2\nstage2Trigger Altitude\nstage2TriggerValue 300\nstage2ChuteArea 9\nstage2Cd 1.5\nstage2DelayTime 0\n\x7d\nUpperBodyTube\x7b\nclass Bodytube\nmass 1\nposition (0 0 -0.762)\ncg (0 0 0)\nouterDiameter 0.1524\nlength 3.5538\nsurfaceRoughness 0.000050\n\x7d\nGeneralMass\x7b\nclass Mass\nmass 50\nposition (0 0 -2.6)\ncg (0 0 0)\nMOI (66.6 66.6 0.21)\n\x7d\nMotor\x7b\nclass Motor\npath MAPLEAF/Examples/Motors/test.txt\n\x7d\nTailFins\x7b\nclass FinSet\nmass 1\nposition (0 0 -4.011)\ncg (0 0 0)\nnumFins 4\nsweepAngle 28.61\nrootChord 0.3048\ntipChord 0.1524\nspan 0.1397\nthickness 0.0047625\nsurfaceRoughness 0.000050\n\x7d\n\x7d\n\x7d"),
    ("MAPLEAF/Examples/Simulations/WindTunnel.mapleaf",
      "SimControl\x7b\ntimeDiscretization RK4\ntimeStep 0.01\nEndCondition Time\nEndConditionValue 0.05\nRocketPlot On\nplot FlightAnimation\n\x7d\nEnvironment\x7b\nLaunchSite.elevation 10\nAtmosphericPropertiesModel Constant\n\x7d\nRocket\x7b\nposition (0 0 1)\nvelocity (0 0 408.24)\nAero\x7b\nsurfaceRoughness 0.0000005\n\x7d\nSustainer\x7b\nconstCG (0 0 -0.90170)\nclass Stage\nstageNumber 0\nNosecone\x7b\nclass Nosecone\nmass 0.007506\nposition (0 0 0)\ncg (0 0 -0.063527)\nMOI (4.662340917465653e-06 4.662340917465653e-06 9.44342735230976e-07)\nbaseDiameter 0.0572\naspectRatio 4.72027\nshape tangentOgive\n\x7d\nUpperBodyTube\x7b\nclass Bodytube\nmass 0.0646\nposition (0 0 -0.269412)\ncg (0 0 -0.3885)\nMOI (0.0017118892333333338 0.0017118892333333338 1.1837950000000002e-05)\nouterDiameter 0.0572\nlength 0.7242\n\x7d\nMotor\x7b\nclass Motor\npath MAPLEAF/Examples/Motors/Empty.txt\n\x7d\nTailFins\x7b\nclass FinSet\nmass 0.00245\nposition (0 0 -0.94742)\ncg (0 0 -0.024579)\nnumFins 4\nMOI (4.1639e-07 4.1639e-07 2.151e-06)\nsweepAngle 30\nrootChord 0.08585\ntipChord 0.05499\nspan 0.05342\nthickness 0.00381\n\x7d\nBoatTail\x7b\nclass BoatTail\nmass 0.1\nposition (0 0 -0.99344)\ncg (0 0 0)\nMOI (0.01 0.01 0.0001)\nlength 0.04576\nstartDiameter 0.0572\nendDiameter 0.0372\n\x7d\n\x7d\n\x7d\n"),
    ("MAPLEAF/Examples/Simulations/WindTunnelFinsOff.mapleaf",
      "SimControl\x7b\ntimeDiscretization RK4\ntimeStep 0.01\nEndCondition Time\nEndConditionValue 0.05\nRocketPlot On\nplot FlightAnimation\n\x7d\nEnvironment\x7b\nLaunchSite.elevation 10\nAtmosphericPropertiesModel Constant\n\x7d\nRocket\x7b\nposition (0 0 1)\nvelocity (0 0 408.24)\nAero\x7b\nsurfaceRoughness 0.0000005\n\x7d\nSustainer\x7b\nclass Stage\nconstCG (0 0 -0.90170)\nNosecone\x7b\nclass Nosecone\nmass 0.007506\nposition (0 0 0)\ncg (0 0 -0.063527)\nMOI (4.662340917465653e-06 4.662340917465653e-06 9.44342735230976e-07)\nbaseDiameter 0.0572\naspectRatio 4.72027\nshape tangentOgive\n\x7d\nUpperBodyTube\x7b\nclass Bodytube\nmass 0.0646\nposition (0 0 -0.269412)\ncg (0 0 -0.3885)\nMOI (0.0017118892333333338 0.0017118892333333338 1.1837950000000002e-05)\nouterDiameter 0.0572\nlength 0.7242\n\x7d\nMotor\x7b\nclass Motor\npath MAPLEAF/Examples/Motors/Empty.txt\n\x7d\nBoatTail\x7b\nclass BoatTail\nmass 0.1\nposition (0 0 -0.99344)\ncg (0 0 0)\nMOI (0.01 0.01 0.0001)\nlength 0.04576\nstartDiameter 0.0572\nendDiameter 0.0372\n\x7d\n\x7d\n\x7d\n"),
    ("MAPLEAF/Examples/Simulations/benchmarkSim.mapleaf",
      "SimControl\x7b\ntimeDiscretization Euler\ntimeStep 0.002\nplot None\nloggingLevel 0\n\x7d\nRocket\x7b\nposition (0 0 10)\ninitialDirection (0 0.4 1)\nangularVelocity (0 0 1)\nAero\x7b\nsurfaceRoughness 0.000050\n\x7d\nSustainer\x7b\nclass Stage\nconstCG (0 0 -2.05)\nconstMass 50\nconstMOI (85 85 0.5)\nNosecone\x7b\nclass Nosecone\nmass 20.0\nposition (0 0 0)\ncg (0 0 -0.2)\nbaseDiameter 0.1524\naspectRatio 5\nshape tangentOgive\n\x7d\nUpperBodyTube\x7b\nclass Bodytube\nmass 5\nposition (0 0 -0.762)\ncg (0 0 -1)\nouterDiameter 0.1524\nlength 2\n\x7d\nCanards\x7b\nclass FinSet\nmass 2\nposition (0 0 -0.762)\ncg (0 0 -0.762)\nnumFins 4\nsweepAngle 30\nrootChord 0.1\ntipChord 0.05\nspan 0.075\nthickness 0.0047625\n\x7d\nGeneralMass\x7b\nclass Mass\nmass 5\nposition (0 0 -2.762)\ncg (0 0 -2.762)\n\x7d\nMotor\x7b\nclass Motor\npath MAPLEAF/Examples/Motors/test2.txt\n\x7d\nTailFins\x7b\nclass FinSet\nmass 2\nposition (0 0 -2.762)\ncg (0 0 -2.762)\nnumFins 3\nsweepAngle 28.61\nrootChord 0.3048\ntipChord 0.1524\nspan 0.1397\nthickness 0.0047625\n\x7d\n\x7d\n\x7d"),
    ("MAPLEAF/Examples/Simulations/test.mapleaf",
      "Rocket\x7b\nvelocity (10 0 50)\nSustainer\x7b\nclass Stage\nUpperBodyTubeMass\x7b\nclass Mass\nmass 50\nposition (0 0 0)\ncg (0 0 0)\n\x7d\n\x7d\n\x7d"),
    ("MAPLEAF/Examples/Simulations/test2.mapleaf",
      "Rocket\x7b\nposition (0 0 4)\nvelocity (10 0 50)\nangularVelocity (0 0 1)\nSustainer\x7b\nclass Stage\nUpperBodyTubeMass\x7b\nclass Mass\nmass 50\nposition (0 0 0)\ncg (0 0 0)\n\x7d\nMotor\x7b\nclass Motor\npath MAPLEAF/Examples/Motors/test.txt\n\x7d\n\x7d\n\x7d"),
    ("MAPLEAF/Examples/Simulations/test3.mapleaf",
      "Rocket\x7b\nposition (0 0 4)\nvelocity (1 0 200)\nangularVelocity (0 0 1)\nSustainer\x7b\nclass Stage\nNosecone\x7b\nclass Nosecone\nmass 5\nposition (0 0 0)\ncg (0 0 -0.2)\nbaseDiameter 0.1524\naspectRatio 5\nshape tangentOgive\nsurfaceRoughness 0.000050\n\x7d\nUpperBodyTube\x7b\nclass Bodytube\nmass 50\nposition (0 0 -0.762)\ncg (0 0 -0.238)\nouterDiameter 0.1524\nlength 2\nsurfaceRoughness 0.000050\n\x7d\nGeneralMass\x7b\nclass Mass\nmass 100\nposition (0 0 -2.762)\ncg (0 0 2.762)\n\x7d\n\x7d\n\x7d"),
    ("MAPLEAF/Examples/Simulations/test6.mapleaf",
      "Rocket\x7b\nposition (0 0 10)\ninitialDirection (0 0.25 1)\nvelocity (0 0 0)\nangularVelocity (0 0 0.25)\nSustainer\x7b\nclass Stage\nstageNumber 0\nNosecone\x7b\nclass Nosecone\nmass 15.0\nposition (0 0 0)\ncg (0 0 -0.55)\nbaseDiameter 0.1524\naspectRatio 5\nshape tangentOgive\nsurfaceRoughness 0.000050\n\x7d\nUpperBodyTube\x7b\nclass Bodytube\nmass 20\nposition (0 0 -0.762)\ncg (0 0 -1.15024)\nouterDiameter 0.1524\nlength 2.3048\nsurfaceRoughness 0.000050\n\x7d\nCanards\x7b\nclass FinSet\nmass 2\nposition (0 0 -0.762)\ncg (0 0 -0.05)\nnumFins 4\nsweepAngle 30\nrootChord 0.1\ntipChord 0.05\nspan 0.075\nthickness 0.0047625\nsurfaceRoughness 0.000050\n\x7d\nGeneralMass\x7b\nclass Mass\nmass 10\nposition (0 0 -2.762)\ncg (0 0 0)\n\x7d\nMotor\x7b\nclass Motor\npath MAPLEAF/Examples/Motors/test2.txt\n\x7d\nTailFins\x7b\nclass FinSet\nmass 2\nposition (0 0 -2.762)\ncg (0 0 -0.1524)\nnumFins 4\nsweepAngle 28.61\nrootChord 0.3048\ntipChord 0.1524\nspan 0.1397\nthickness 0.0047625\nsurfaceRoughness 0.000050\n\x7d\n\x7d\n\x7d"),
    ("MAPLEAF/Examples/Simulations/test9.mapleaf",
      "SimControl\x7b\ntimeDiscretization Euler\ntimeStep 0.01\nplot FlightAnimation\nloggingLevel 0\nEndCondition Apogee\n\x7d\nRocket\x7b\nposition (0 0 10)\nvelocity (0 0 40)\nangularVelocity (0 0 1)\nSustainer\x7b\nclass Stage\nNosecone\x7b\nclass Nosecone\nmass 20.0\nposition (0 0 0)\ncg (0 0 -0.2)\nbaseDiameter 0.1524\naspectRatio 5\nshape tangentOgive\nsurfaceRoughness 0.000050\n\x7d\nUpperBodyTube\x7b\nclass Bodytube\nmass 5\nposition (0 0 -0.762)\ncg (0 0 -1)\nouterDiameter 0.1524\nlength 3.81\nsurfaceRoughness 0.000050\n\x7d\nCanards\x7b\nclass FinSet\nmass 2\nposition (0 0 -0.8636)\ncg (0 0 -0.8636)\nnumFins 4\nsweepAngle 30\nrootChord 0.1524\ntipChord 0.0762\nspan 0.0635\nthickness 0.0047625\nsurfaceRoughness 0.000050\n\x7d\nGeneralMass\x7b\nclass Mass\nmass 5\nposition (0 0 -2.762)\ncg (0 0 -2.762)\n\x7d\nMotor\x7b\nclass Motor\npath MAPLEAF/Examples/Motors/test2.txt\n\x7d\nTailFins\x7b\nclass FinSet\nmass 2\nposition (0 0 -4.2672)\ncg (0 0 -4.2762)\nnumFins 4\nsweepAngle 28.61\nrootChord 0.3048\ntipChord 0.1524\nspan 0.1397\nthickness 0.0047625\nsurfaceRoughness 0.000050\n\x7d\n\x7d\n\x7d")
  ]

end Repository
end RocketSim
