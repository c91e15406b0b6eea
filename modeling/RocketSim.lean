import RocketSim.Console.Run
import RocketSim.Proofs.ExactSteps
import RocketSim.Proofs.StoredTableaus
import RocketSim.Proofs.DerivativeCache
import RocketSim.Proofs.DiscardedSteps
import RocketSim.Proofs.EvaluationTimes
import RocketSim.Proofs.DefinitionReading
import RocketSim.Proofs.DefinitionRoundTrip
import RocketSim.Proofs.SimRuns
import RocketSim.Proofs.MemoTransparency
import RocketSim.Proofs.RailForce
import RocketSim.Proofs.StepSizeSearch
import RocketSim.Proofs.QuaternionRotations
import RocketSim.Proofs.RotationAngles
import RocketSim.Proofs.StateInterpolation
import RocketSim.Proofs.MassProperties
import RocketSim.Proofs.ForceMomentSystems
import RocketSim.Proofs.StepLimits
import RocketSim.Proofs.DerivedDictionaries
import RocketSim.Proofs.EventChecks
import RocketSim.Proofs.EndTimes
import RocketSim.Proofs.StandardAtmosphere
import RocketSim.Proofs.SurfaceFrames
import RocketSim.Proofs.RailTests
import RocketSim.Proofs.MotorAdjustment
import RocketSim.Proofs.NoseConeGeometry
import RocketSim.Proofs.NumberOrder
import RocketSim.Proofs.LogAlignment
import RocketSim.Proofs.PinkNoiseQueries
import RocketSim.Proofs.Resampling
import RocketSim.Proofs.LinearInterpolation
import RocketSim.Proofs.SphereCoordinates
import RocketSim.Proofs.ActuatorLimits
import RocketSim.Proofs.SweepSmoothing
import RocketSim.Proofs.IntegralLimits
import RocketSim.Proofs.FinSetPrecomputation
import RocketSim.Proofs.IncludeCycles
import RocketSim.Proofs.SeparatorSplits
import RocketSim.Proofs.DecimalLiterals
import RocketSim.Proofs.VectorText
import RocketSim.Proofs.LandingPoint
import RocketSim.Proofs.SineGust
import RocketSim.Proofs.FinSlicing
import RocketSim.Proofs.PowerLawConvergence
