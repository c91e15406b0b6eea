/-!
# Default values of simulation definitions

A simulation definition leaves out most settings; every key it does not set reads its
value from this table.  Keys under a dictionary that names its class (`Rocket.Sustainer.
Nosecone.class Nosecone`) also find defaults under the class name (`Nosecone.shape`).
-/

namespace RocketSim
namespace Definition

/-- The default value of each key, in the order the table lists them. -/
def defaultValues : List (String × String) :=
  [
    ("Optimization.showConvergencePlot", "True"),
    ("MonteCarlo.output", "landingLocations"),
    ("SimControl.plot", "Position FlightAnimation"),
    ("SimControl.loggingLevel", "2"),
    ("SimControl.EndCondition", "Altitude"),
    ("SimControl.EndConditionValue", "-1"),
    ("SimControl.StageDropPaths.compute", "true"),
    ("SimControl.StageDropPaths.endCondition", "Altitude"),
    ("SimControl.StageDropPaths.endConditionValue", "0"),
    ("SimControl.timeDiscretization", "RK45Adaptive"),
    ("SimControl.timeStep", "0.01"),
    ("SimControl.TimeStepAdaptation.controller", "PID"),
    ("SimControl.TimeStepAdaptation.targetError", "0.001"),
    ("SimControl.TimeStepAdaptation.minFactor", "0.3"),
    ("SimControl.TimeStepAdaptation.maxFactor", "1.5"),
    ("SimControl.TimeStepAdaptation.Elementary.safetyFactor", "0.9"),
    ("SimControl.TimeStepAdaptation.maxTimeStep", "30"),
    ("SimControl.TimeStepAdaptation.minTimeStep", "0.0001"),
    ("SimControl.TimeStepAdaptation.PID.coefficients", "-0.01 -0.001 0"),
    ("SimControl.TimeStepAdaptation.eventTimingAccuracy", "0.001"),
    ("SimControl.RocketPlot", "Off"),
    ("Environment.EarthModel", "Flat"),
    ("Environment.AtmosphericPropertiesModel", "USStandardAtmosphere"),
    ("Environment.LaunchSite.elevation", "0"),
    ("Environment.LaunchSite.railLength", "0"),
    ("Environment.LaunchSite.latitude", "0"),
    ("Environment.LaunchSite.longitude", "0"),
    ("Environment.MeanWindModel", "Constant"),
    ("Environment.ConstantMeanWind.velocity", "(0 0 0)"),
    ("Environment.SampledGroundWindData.launchMonth", "Yearly"),
    ("Environment.SampledRadioSondeData.launchMonth", "Yearly"),
    ("Environment.Hellman.alphaCoeff", "0.1429"),
    ("Environment.Hellman.altitudeLimit", "1000"),
    ("Environment.TurbulenceModel", "None"),
    ("Environment.turbulenceOffWhenUnderChute", "True"),
    ("Environment.ConstantAtmosphere.temp", "15"),
    ("Environment.ConstantAtmosphere.pressure", "101325"),
    ("Environment.ConstantAtmosphere.density", "1.225"),
    ("Environment.ConstantAtmosphere.viscosity", "1.789e-5"),
    ("Environment.TabulatedAtmosphere.filePath", "MAPLEAF/ENV/US_STANDARD_ATMOSPHERE.txt"),
    ("Rocket.HIL.quatUpdateRate", "100"),
    ("Rocket.HIL.posUpdateRate", "20"),
    ("Rocket.HIL.velUpdateRate", "20"),
    ("Rocket.HIL.teensyComPort", "COM20"),
    ("Rocket.HIL.imuComPort", "COM15"),
    ("Rocket.HIL.teensyBaudrate", "9600"),
    ("Rocket.HIL.imuBaudrate", "57600"),
    ("Rocket.ControlSystem.desiredFlightDirection", "(0 0 1)"),
    ("Rocket.ControlSystem.MomentController.Type", "ScheduledGainPIDRocket"),
    ("Rocket.ControlSystem.updateRate", "0"),
    ("Rocket.name", "Rocket"),
    ("Rocket.position", "(0 0 10)"),
    ("Rocket.initialDirection", "(0 0 1)"),
    ("Rocket.velocity", "(0 0 0)"),
    ("Rocket.angularVelocity", "(0 0 0)"),
    ("Rocket.Aero.fullyTurbulentBL", "true"),
    ("Rocket.Aero.addZeroLengthBoatTailsToAccountForBaseDrag", "true"),
    ("Rocket.Aero.surfaceRoughness", "0.000005"),
    ("Stage.stageNumber", "0"),
    ("Stage.separationTriggerType", "None"),
    ("Stage.separationTriggerValue", "0"),
    ("Stage.separationDelay", "0"),
    ("Stage.position", "(0 0 0)"),
    ("AeroForce.Lref", "0"),
    ("AeroForce.Cd", "0"),
    ("AeroForce.Cl", "0"),
    ("AeroForce.momentCoeffs", "(0 0 0)"),
    ("AeroDamping.zDampingCoeffs", "(0 0 0)"),
    ("AeroDamping.yDampingCoeffs", "(0 0 0)"),
    ("AeroDamping.xDampingCoeffs", "(0 0 0)"),
    ("FinSet.finCantAngle", "0"),
    ("FinSet.firstFinAngle", "0"),
    ("FinSet.LeadingEdge.shape", "Round"),
    ("FinSet.TrailingEdge.shape", "Tapered"),
    ("FinSet.numFinSpanSlicesForIntegration", "10"),
    ("Nosecone.shape", "tangentOgive"),
    ("BoatTail.shape", "cone"),
    ("Mass.cg", "(0 0 0)"),
    ("Motor.impulseAdjustFactor", "1.0"),
    ("Motor.burnTimeAdjustFactor", "1.0"),
    ("Actuator.controller", "TableInterpolating"),
    ("Actuator.responseModel", "FirstOrder"),
    ("Actuator.responseTime", "0.1"),
    ("RecoverySystem.cg", "(0 0 0)"),
    ("TabulatedAeroForce.Lref", "0"),
    ("testValue.testDefaultValue1", "asdf"),
    ("testDefaultValue2", "jkl;")
  ]

end Definition
end RocketSim
