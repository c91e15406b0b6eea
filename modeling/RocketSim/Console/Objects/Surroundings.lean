import RocketSim.Console.Objects.Instance

/-!
# Environment objects on request

The models of the flight environment (atmosphere, earth, mean wind, turbulence), the
samplers of wind data, pink noise generators, launch rails and whole environments, built
by class or by the factories that read a definition's environment settings.

A factory takes a reader of a definition's dictionary; without one it gives the model of
the default settings.  Anything else in place of the reader is an object without the
reader's methods.
-/

namespace RocketSim
namespace Console
namespace Objects

/-- The reader a factory argument gives, if any. -/
def factoryReader (a : Arg) : Sim (Option (Reader × Definition)) :=
  match a.reader?, a with
  | some rd, _ => pure (some rd)
  | none, .value .null => pure none
  | none, _ => Sim.fail Fault.noAttribute

/-- The text of a value that must be text. -/
def textOf (v : Value) : Sim String :=
  match v with
  | .str s => pure s
  | _ => Sim.fail Fault.typeMismatch

/-- Builds an environment object by class, or by one of the model factories. -/
def surroundings? (cls : String) (args : List Arg) (kwargs : List (String × Arg)) :
    Option (Sim Instance) :=
  match cls with
  | "ConstantAtmosphere" => some do
    let ps ← bindArgs [req "temp", req "pressure", req "density", req "viscosity"] args kwargs
    pure (.atmosphere (.constant (ps.map Arg.asValue)))
  | "TabulatedAtmosphere" => some do
    let [path] ← bindArgs [req "filePath"] args kwargs | Sim.fail Fault.typeMismatch
    .atmosphere <$> AtmosphereModel.ofTableFile (← textOf path.asValue)
  | "USStandardAtmosphere" => some do
    let _ ← bindArgs [] args kwargs
    .atmosphere <$> AtmosphereModel.makeStandard
  | "AtmosphereModelling.atmosphericModelFactory" => some do
    let [r] ← bindArgs [opt "envDictReader" .null] args kwargs | Sim.fail Fault.typeMismatch
    match ← factoryReader r with
    | some (r, d) => .atmosphere <$> configured (AtmosphereModel.configure r) d
    | none => .atmosphere <$> AtmosphereModel.byDefault
  | "NoEarth" => some do
    let _ ← bindArgs [] args kwargs
    pure (.earth .none)
  | "FlatEarth" => some do
    let _ ← bindArgs [] args kwargs
    pure (.earth .flat)
  | "SphericalEarth" => some do
    let _ ← bindArgs [] args kwargs
    pure (.earth .spherical)
  | "WGS84" => some do
    let _ ← bindArgs [] args kwargs
    .earth <$> EarthModel.makeWgs84
  | "EarthModelling.earthModelFactory" => some do
    let [r] ← bindArgs [opt "envDictReader" .null] args kwargs | Sim.fail Fault.typeMismatch
    match ← factoryReader r with
    | some (r, d) => .earth <$> configured (EarthModel.configure r) d
    | none => pure (.earth .flat)
  | "ConstantWind" => some do
    let [w] ← bindArgs [req "wind"] args kwargs | Sim.fail Fault.typeMismatch
    pure (.meanWind (.constant w.asValue))
  | "Hellman" => some do
    let [g, limit, alpha] ← bindArgs [opt "groundMeanWind" (.vec Vec3.zero),
        opt "altitudeLimit" (.int 1500), opt "hellmanAlphaCoeff" (.float 0.14)] args kwargs
      | Sim.fail Fault.typeMismatch
    pure (.meanWind (.hellman g.asValue limit.asValue alpha.asValue))
  | "InterpolatedWind" => some do
    let [alts, winds, path] ← bindArgs [opt "windAltitudes" (.list []), opt "winds" (.list []),
        opt "windFilePath" .null] args kwargs
      | Sim.fail Fault.typeMismatch
    .meanWind <$> MeanWindModel.ofProfile alts.asValue winds.asValue path.asValue
  | "MeanWindModelling.meanWindModelFactory" => some do
    let [r, _] ← bindArgs [opt "envReader" .null, opt "silent" (.bool false)] args kwargs
      | Sim.fail Fault.typeMismatch
    match ← factoryReader r with
    | some (r, d) => .meanWind <$> configured (MeanWindModel.configure r) d
    | none => .meanWind <$> MeanWindModel.byDefault
  | "WindRoseDataSampler" => some do
    let _ ← bindArgs [opt "silent" (.bool false)] args kwargs
    pure .windRoses
  | "RadioSondeDataSampler" => some do
    let [s, _] ← bindArgs [opt "silent" (.bool false), opt "monteCarloDataLogger" .null] args
        kwargs
      | Sim.fail Fault.typeMismatch
    pure (.soundings (s.asValue.truthy))
  | "NoTurb" => some do
    let _ ← bindArgs [] args kwargs
    pure (.turbulence .none)
  | "CustomSineGust" => some do
    let [start, blend, thickness, magnitude, direction] ← bindArgs [req "GustStartAltitude",
        req "GustSineBlendDistance", req "GustLayerThickness", req "GustMagnitude",
        req "GustDirection"] args kwargs
      | Sim.fail Fault.typeMismatch
    .turbulence <$> TurbulenceModel.makeSineGust start.asValue blend.asValue thickness.asValue
      magnitude.asValue direction.asValue
  | "PinkNoiseGenerator" => some do
    let [alpha, seed, poles, frequency] ← bindArgs [opt "alpha" (.float (5.0 / 3.0)),
        opt "seed" .null, opt "nPoles" (.int 2), opt "simulatedSamplingFreqHz" (.int 20)] args
        kwargs
      | Sim.fail Fault.typeMismatch
    .pinkNoise <$> PinkNoise.make alpha.asValue seed.asValue poles.asValue frequency.asValue
  | "PinkNoise1D" => some do
    let [intensity, stdDev, s1] ← bindArgs [req "turbulenceIntensity", req "velocityStdDev",
        req "randomSeed"] args kwargs
      | Sim.fail Fault.typeMismatch
    let g1 ← PinkNoise.standard s1.asValue
    pure (.turbulence (.pink1 intensity.asValue stdDev.asValue g1))
  | "PinkNoise2D" => some do
    let [intensity, stdDev, s1, s2] ← bindArgs [req "turbulenceIntensity",
        req "velocityStdDev", req "randomSeed", req "randomSeed2"] args kwargs
      | Sim.fail Fault.typeMismatch
    let g1 ← PinkNoise.standard s1.asValue
    let g2 ← PinkNoise.standard s2.asValue
    pure (.turbulence (.pink2 intensity.asValue stdDev.asValue g1 g2))
  | "PinkNoise3D" => some do
    let [intensity, stdDev, s1, s2, s3] ← bindArgs [req "turbulenceIntensity",
        req "velocityStdDev", req "randomSeed", req "randomSeed2", req "randomSeed3"] args kwargs
      | Sim.fail Fault.typeMismatch
    let g1 ← PinkNoise.standard s1.asValue
    let g2 ← PinkNoise.standard s2.asValue
    let g3 ← PinkNoise.standard s3.asValue
    pure (.turbulence (.pink3 intensity.asValue stdDev.asValue g1 g2 g3))
  | "TurbulenceModelling.turbulenceModelFactory" => some do
    let [r, _] ← bindArgs [req "envReader", opt "silent" (.bool false)] args kwargs
      | Sim.fail Fault.typeMismatch
    match ← factoryReader r with
    | some (r, d) => .turbulence <$> configured (TurbulenceModel.configure r) d
    | none => Sim.fail Fault.noAttribute
  | "LaunchRail" => some do
    let [p, dir, len, rate] ← bindArgs [req "initialPosition", req "initialDirection",
        req "length", opt "earthRotationRate" (.int 0)] args kwargs
      | Sim.fail Fault.typeMismatch
    .launchRail <$> LaunchRail.make p.asValue dir.asValue len.asValue rate.asValue
  | "Environment" => some do
    let [sd, _] ← bindArgs [opt "simDefinition" .null, opt "silent" (.bool false)] args kwargs
      | Sim.fail Fault.typeMismatch
    match sd.definition?, sd with
    | some d, _ => .environment <$> configured Environment.configure d
    | none, .value .null => .environment <$> Environment.byDefault
    | none, _ => Sim.fail Fault.typeMismatch
  | _ => none

/-- The three coordinates of a call. -/
def coordinatesOf (ps : List Value) : Sim (Value × Value × Value) :=
  match ps with
  | x :: y :: z :: _ => pure (x, y, z)
  | _ => Sim.fail Fault.typeMismatch

/-- Calls a method of an earth model. -/
def earthCall (m : EarthModel) (method : String) (args : List Value)
    (kwargs : List (String × Value)) : Option (Sim Value) :=
  let xyz : Sim (Value × Value × Value) := do
    coordinatesOf (← bindParams [req "x", req "y", req "z"] args kwargs)
  let round := match m with
    | .spherical | .wgs84 _ _ => true
    | _ => false
  let ellipsoid := match m with
    | .wgs84 _ _ => true
    | _ => false
  match method with
  | "getGravityForce" => some do
    let [i, s] ← bindParams [req "inertia", req "state"] args kwargs | Sim.fail Fault.typeMismatch
    m.gravity i s
  | "getInertialToENUFrameRotation" => some do
    let (x, y, z) ← xyz
    m.toEnu x y z
  | "getInertialToNEDFrameRotation" => some do
    let (x, y, z) ← xyz
    m.toNed x y z
  | "getAltitude" => some do
    let (x, y, z) ← xyz
    m.altitude x y z
  | "convertIntoGlobalFrame" => some do
    let [s, lat, lon] ← bindParams [req "launchTowerFrameState", req "latitude",
        req "longitude"] args kwargs
      | Sim.fail Fault.typeMismatch
    m.toGlobal s lat lon
  | "geodeticToCartesian" => if !round then none else some do
    let [lat, lon, h, t] ← bindParams [req "lat", req "lon", req "height",
        opt "timeOffset" (.int 0)] args kwargs
      | Sim.fail Fault.typeMismatch
    .tuple <$> m.toCartesian lat lon h t
  | "cartesianToGeodetic" => if !round then none else some do
    let [x, y, z, t] ← bindParams [req "x", req "y", req "z", opt "timeOffset" (.int 0)] args
        kwargs
      | Sim.fail Fault.typeMismatch
    .tuple <$> m.toGeodetic x y z t
  | "sphericalToCartesian" => if !ellipsoid then none else some do
    let [lat, lon, h, t] ← bindParams [req "lat", req "lon", req "height",
        opt "timeOffset" (.int 0)] args kwargs
      | Sim.fail Fault.typeMismatch
    .tuple <$> Earth.sphericalToCartesian lat lon h t
  | "cartesianToSpherical" => if !ellipsoid then none else some do
    let [x, y, z, t] ← bindParams [req "x", req "y", req "z", opt "timeOffset" (.int 0)] args
        kwargs
      | Sim.fail Fault.typeMismatch
    .tuple <$> Earth.cartesianToSpherical x y z t
  | _ => none

/-- The strings of a list of lines. -/
def linesOf (v : Value) : Sim (List String) := do
  (← seqItems v).mapM fun l => match l with
    | .str s => pure s
    | _ => Sim.fail Fault.noAttribute

/-- The integers of a list of line numbers. -/
def lineNumbersOf (v : Value) : Sim (List Int) := do
  (← seqItems v).mapM fun l => match l with
    | .int n => pure n
    | .bool b => pure (if b then 1 else 0)
    | _ => Sim.fail Fault.typeMismatch

/-- Calls a method of a radio sounding sampler. -/
def soundingsCall (method : String) (args : List Value) (kwargs : List (String × Value)) :
    Option (Sim Value) :=
  match method with
  | "getRadioSondeWindProfile" => some do
    let [locs, weights, alts, month, seed] ← bindParams
        [opt "locations" (.list [.str "Edmonton", .str "Glasgow"]),
         opt "locationWeights" (.list [.float 0.48, .float 0.52]),
         opt "locationASLAltitudes" (.list [.int 710, .int 638]), opt "launchMonth" .null,
         opt "randomSeed" .null] args kwargs
      | Sim.fail Fault.typeMismatch
    RadioSonde.sampleProfile (← seqItems locs) (← seqItems weights) (← seqItems alts) month seed
  | "_readRadioSondeDataFile" => some do
    let [path, month] ← bindParams [req "radioSondeFilePath", opt "filterByMonth" .null] args
        kwargs
      | Sim.fail Fault.typeMismatch
    let month ← match month with
      | .null => pure none
      | .str m => pure (some m)
      | _ => Sim.fail Fault.badValue
    let (starts, data) ← RadioSonde.readFile (← textOf path) month
    pure (.tuple [.list (starts.map fun (i : Nat) => Value.int i), .list (data.map Value.str)])
  | "_extractRadioSondeDataSet" => some do
    let [starts, data, which] ← bindParams [req "datasetStartLines", req "data",
        req "desiredDataSetNumber"] args kwargs
      | Sim.fail Fault.typeMismatch
    let which ← match which with
      | .int n => pure n
      | _ => Sim.fail Fault.typeMismatch
    let (header, lines) ← RadioSonde.extract (← lineNumbersOf starts) (← linesOf data) which
    pure (.tuple [.str header, .list (lines.map Value.str)])
  | "_parseRadioSondeHeader" => some do
    let [h] ← bindParams [req "headerString"] args kwargs | Sim.fail Fault.typeMismatch
    match h with
    | .str s => RadioSonde.header s
    | _ => Sim.fail Fault.noAttribute
  | "_parseRadioSondeData" => some do
    let [data, ground] ← bindParams [req "data", req "locationASLAltitude"] args kwargs
      | Sim.fail Fault.typeMismatch
    RadioSonde.profile (← linesOf data) ground
  | _ => none

/-- The names of a list of locations. -/
def locationNames (v : Value) : Sim (List String) := do
  (← seqItems v).mapM nameText

/-- Calls a method of an environment object; returns the result and the object afterwards. -/
def surroundingsCall (o : Instance) (method : String) (args : List Value)
    (kwargs : List (String × Value)) : Option (Sim (Value × Instance)) :=
  let same (m : Option (Sim Value)) : Option (Sim (Value × Instance)) :=
    m.map fun r => do pure (← r, o)
  match o with
  | .atmosphere m => match method with
    | "getAirProperties" => some do
      let params := match m with
        | .standard => [req "ASLElevation", req "time"]
        | _ => [req "ASLElevation", opt "time" .null]
      let [asl, _] ← bindParams params args kwargs | Sim.fail Fault.typeMismatch
      pure (← m.properties asl, o)
    | _ => none
  | .earth m => same (earthCall m method args kwargs)
  | .meanWind m => match method with
    | "getMeanWind" => some do
      let [agl] ← bindParams [req "AGLAltitude"] args kwargs | Sim.fail Fault.typeMismatch
      pure (← m.meanWind agl, o)
    | _ => none
  | .windRoses => match method with
    | "sampleWindRoses" => some do
      let [locs, weights, month] ← bindParams [req "locationsSampled", req "locationWeights",
          req "launchMonth"] args kwargs
        | Sim.fail Fault.typeMismatch
      let weights ← (← seqItems weights).mapM Ops.real
      let w ← WindRose.sample (← locationNames locs) weights (← nameText month)
      pure (.vec w, o)
    | _ => none
  | .soundings _ => same (soundingsCall method args kwargs)
  | .turbulence m => match method with
    | "getTurbVelocity" => some do
      let [alt, mean, t] ← bindParams [req "altitude", req "meanWindVelocity", req "time"] args
          kwargs
        | Sim.fail Fault.typeMismatch
      let (v, m) ← m.velocity alt mean t
      pure (v, .turbulence m)
    | _ => none
  | .launchRail r => match method with
    | "getPosition" => some do
      let [t] ← bindParams [req "time"] args kwargs | Sim.fail Fault.typeMismatch
      pure (← r.position t, o)
    | "getDirection" => some do
      let [t] ← bindParams [req "time"] args kwargs | Sim.fail Fault.typeMismatch
      pure (← r.direction t, o)
    | "getVelocity" => some do
      let [t] ← bindParams [req "time"] args kwargs | Sim.fail Fault.typeMismatch
      pure (← r.velocity t, o)
    | "applyLaunchTowerForce" => some do
      let [s, t, f] ← bindParams [req "state", req "time", req "unadjustedForce"] args kwargs
        | Sim.fail Fault.typeMismatch
      pure (← r.constrainForce s t f, o)
    | "applyLaunchTowerMotionConstraint" => some do
      let [s, t] ← bindParams [req "state", req "time"] args kwargs | Sim.fail Fault.typeMismatch
      let (onRail, s) ← r.constrainMotion s t
      pure (.tuple [.bool onRail, s], o)
    | _ => none
  | .environment e => match method with
    | "convertInitialStateToGlobalFrame" => some do
      let [s] ← bindParams [req "initialStateInLaunchTowerFrame"] args kwargs
        | Sim.fail Fault.typeMismatch
      pure (← e.toGlobal s, o)
    | "convertStateToENUFrame" => some do
      let [s] ← bindParams [req "globalFrameState"] args kwargs | Sim.fail Fault.typeMismatch
      pure (← e.toEnu s, o)
    | "getAirProperties" => some do
      let [p, t] ← bindParams [req "position", opt "time" .null] args kwargs
        | Sim.fail Fault.typeMismatch
      let (c, e) ← e.conditions p t
      pure (c, .environment e)
    | "getWind" => some do
      let [agl, t] ← bindParams [req "AGLElevation", opt "time" .null] args kwargs
        | Sim.fail Fault.typeMismatch
      let ((mean, turb), e) ← e.wind agl t
      pure (.tuple [mean, turb], .environment e)
    | "applyLaunchRailMotionConstraints" => some do
      let [s, t] ← bindParams [req "state", req "time"] args kwargs | Sim.fail Fault.typeMismatch
      let (s, e) ← e.constrainMotion s t
      pure (s, .environment e)
    | "applyLaunchTowerForce" => some do
      let [s, t, f] ← bindParams [req "state", req "time", req "unadjustedForce"] args kwargs
        | Sim.fail Fault.typeMismatch
      pure (← e.constrainForce s t f, o)
    | "getGravityForce" => some do
      let [i, s] ← bindParams [req "inertia", req "state"] args kwargs
        | Sim.fail Fault.typeMismatch
      pure (← e.gravity i s, o)
    | _ => none
  | _ => none

/-- Calls a method of an environment object: its result or fault, and the object as the
call leaves it.  A pink noise generator keeps the samples it drew before failing to
interpolate. -/
def surroundingsReply (o : Instance) (method : String) (args : List Value)
    (kwargs : List (String × Value)) : Option (Sim (Outcome Value × Instance)) :=
  match o, method with
  | .pinkNoise g, "getValue" => some do
    let [t] ← bindParams [opt "time" .null] args kwargs | Sim.fail Fault.typeMismatch
    let (x, g) ← g.value t
    pure (x.map Value.float, .pinkNoise g)
  | _, _ => (surroundingsCall o method args kwargs).map fun m => do
    let (r, o) ← m
    pure (.ok r, o)

/-- The layer bases of the standard atmospheres set up so far, as the session keeps them. -/
def layerBaseLists : Sim (Value × Value) := do
  let bases := (← get).atmosphereBase
  pure (.list (bases.map fun b => .float b.1), .list (bases.map fun b => .float b.2))

/-- An attribute of an environment object. -/
def surroundingsAttr (o : Instance) (name : String) : Option (Sim Member) :=
  let value (v : Value) : Option (Sim Member) := some (pure (.value v))
  match o, name with
  | .atmosphere .standard, "baseTemps" => some do pure (.value (← layerBaseLists).1)
  | .atmosphere .standard, "basePressures" => some do pure (.value (← layerBaseLists).2)
  | .atmosphere .standard, "baseHeights" => value (.list (Atmosphere.baseHeights.map Value.int))
  | .atmosphere .standard, "dt_dh" => value (.list Atmosphere.lapseRates)
  | .atmosphere (.constant ps), "properties" => value (.list ps)
  | .earth m, "rotationRate" => value m.rotationRate
  | .earth .flat, "GM" => value (.float Earth.flatMu)
  | .earth .spherical, "GM" | .earth (.wgs84 _ _), "GM" => value (.float Earth.mu)
  | .earth .spherical, "radius" | .earth (.wgs84 _ _), "radius" =>
    value (.float Earth.sphereRadius)
  | .earth (.wgs84 c _), "C" => value c
  | .earth (.wgs84 _ s), "S" => value s
  | .earth (.wgs84 _ _), "a" => value (.int Earth.semiMajor)
  | .earth (.wgs84 _ _), "b" => value (.float Earth.semiMinor)
  | .earth (.wgs84 _ _), "f" => value (.float Earth.flattening)
  | .earth (.wgs84 _ _), "e2" => value (.float Earth.e2)
  | .earth (.wgs84 _ _), "eP" => value (.float Earth.secondEccentricity)
  | .meanWind (.constant w), "wind" => value w
  | .meanWind (.hellman g _ _), "groundMeanWind" => value g
  | .meanWind (.hellman _ l _), "altitudeLimit" => value l
  | .meanWind (.hellman _ _ a), "hellmanAlphaCoeff" => value a
  | .meanWind (.interpolated a _), "windAltitudes" => value a
  | .meanWind (.interpolated _ w), "winds" => value w
  | .windRoses, "extremeWinds" => value (.list (WindRose.extremeWinds.map Value.float))
  | .windRoses, "extremeWindProbabilities" => value (.list WindRose.extremeWindProbabilities)
  | .soundings s, "silent" => value (.bool s)
  | .turbulence (.sineGust start _ _ _ _), "GustStartAltitude" => value start
  | .turbulence (.sineGust _ blend _ _ _), "GustSineBlendDistance" => value blend
  | .turbulence (.sineGust _ _ magnitude _ _), "GustMagnitude" => value magnitude
  | .turbulence (.sineGust _ _ _ direction _), "GustDirection" => value direction
  | .turbulence (.sineGust _ _ _ _ bounds), "GustZoneBoundaries" => value (.list bounds)
  | .turbulence (.pink1 i _ _), "turbulenceIntensity" | .turbulence (.pink2 i _ _ _),
    "turbulenceIntensity" | .turbulence (.pink3 i _ _ _ _), "turbulenceIntensity" => value i
  | .turbulence (.pink1 _ s _), "velStdDev" | .turbulence (.pink2 _ s _ _), "velStdDev"
  | .turbulence (.pink3 _ s _ _ _), "velStdDev" => value s
  | .turbulence (.pink1 _ _ g), "png1" | .turbulence (.pink2 _ _ g _), "png1"
  | .turbulence (.pink3 _ _ g _ _), "png1" => some (pure (.object (.pinkNoise g)))
  | .turbulence (.pink2 _ _ _ g), "png2" | .turbulence (.pink3 _ _ _ g _), "png2" =>
    some (pure (.object (.pinkNoise g)))
  | .turbulence (.pink3 _ _ _ _ g), "png3" => some (pure (.object (.pinkNoise g)))
  | .pinkNoise g, "alpha" => value g.alpha
  | .pinkNoise g, "seed" => value g.seed
  | .pinkNoise g, "nPoles" => value (.int g.poles)
  | .pinkNoise g, "coeffs" => value (.list (g.coeffs.map Value.float))
  | .pinkNoise g, "nextIndexToOverwrite" => value (.int g.nextIndex)
  | .pinkNoise g, "lastValTime" => value g.lastValTime
  | .pinkNoise g, "timeStep" => value (.float g.timeStep)
  | .pinkNoise g, "lastValues" => value (.list (g.lastValues.map Value.float))
  | .launchRail r, "initialPosition" => value r.initialPosition
  | .launchRail r, "initialDirection" => value r.initialDirection
  | .launchRail r, "length" => value r.length
  | .launchRail r, "earthAngVel" => value r.earthRotationRate
  | .environment e, "launchRail" => some (pure (match e.launchRail with
    | some r => .object (.launchRail r)
    | none => .value .null))
  | .environment e, "launchSiteElevation" => value e.elevation
  | .environment e, "launchSiteLatitude" => value e.latitude
  | .environment e, "launchSiteLongitude" => value e.longitude
  | .environment e, "meanWindModel" => some (pure (.object (.meanWind e.meanWind)))
  | .environment e, "turbulenceModel" => some (pure (match e.turbulence with
    | some t => .object (.turbulence t)
    | none => .value .null))
  | .environment e, "atmosphericModel" => some (pure (.object (.atmosphere e.atmosphere)))
  | .environment e, "earthModel" => some (pure (.object (.earth e.earth)))
  | _, _ => none

end Objects
end Console
end RocketSim
