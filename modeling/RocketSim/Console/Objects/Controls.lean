import RocketSim.Console.Objects.Instance

/-!
# Control objects on request

PID controllers (plain, with constant gains, with gains scheduled by a table, and the
constant-gain and gain-scheduled moment controllers of a rocket), first-order systems and actuators, the stabilizing
navigator, linear interpolators of scattered data and table-driven actuator controllers.

An interpolator of scattered data is called with one argument, an array of points (a flat
array being cut into points), and answers an array with a row per point; or with the
coordinates of one point as separate arguments, and answers that point's row alone.  When
any interpolated value is undefined (a point outside the data's hull) every point takes
the row of its nearest data point instead.
-/

namespace RocketSim
namespace Console
namespace Objects

/-- The numbers of a sequence. -/
def numbersOf (v : Value) : Sim (List Float) := do
  (← Sim.lift (Arith.iterItems v)).mapM Ops.real

/-- The rows of numbers of a sequence of sequences. -/
def rowsOf (v : Value) : Sim (List (List Float)) := do
  (← Sim.lift (Arith.iterItems v)).mapM numbersOf

/-- Builds a control object by class. -/
def control? (cls : String) (args : List Arg) (kwargs : List (String × Arg)) :
    Option (Sim Instance) :=
  let values (ps : List Param) : Sim (List Value) := do
    pure ((← bindArgs ps args kwargs).map Arg.asValue)
  match cls with
  | "PIDController" => some do
    let [p, i, d, e, m] ← values [req "P", req "I", req "D", opt "initialError" (.int 0),
        opt "maxIntegral" .null]
      | Sim.fail Fault.typeMismatch
    .pid cls <$> Pid.make p i d e (some m)
  | "ConstantGainPIDController" => some do
    let [p, i, d, e, m] ← values [opt "P" (.int 0), opt "I" (.int 0), opt "D" (.int 0),
        opt "initialError" (.int 0), opt "maxIntegral" .null]
      | Sim.fail Fault.typeMismatch
    .pid cls <$> Pid.make p i d e (some m)
  | "ConstantGainPIDRocketMomentController" => some do
    let [pxy, ixy, dxy, pz, iz, dz] ← values [req "Pxy", req "Ixy", req "Dxy", req "Pz",
        req "Iz", req "Dz"]
      | Sim.fail Fault.typeMismatch
    .pid cls <$> Pid.momentController pxy ixy dxy pz iz dz
  | "FirstOrderSystem" => some do
    let [t] ← values [req "responseTime"] | Sim.fail Fault.typeMismatch
    pure (.firstOrderSystem t)
  | "FirstOrderActuator" => some do
    let [t, d, _, mx, mn] ← values [req "responseTime", opt "initialDeflection" (.int 0),
        opt "initialTime" (.int 0), opt "maxDeflection" .null, opt "minDeflection" .null]
      | Sim.fail Fault.typeMismatch
    pure (.actuator (FirstOrderActuator.make t d mx mn))
  | "Stabilizer" => some do
    let [d] ← values [req "desiredFlightDirection"] | Sim.fail Fault.typeMismatch
    .stabilizer <$> Stabilizer.make d
  | "NoNaNLinearNDInterpolator" => some do
    let [keys, vals, _] ← values [req "keys", req "values", opt "tablePath" .null]
      | Sim.fail Fault.typeMismatch
    let points ← rowsOf keys
    let items ← Sim.lift (Arith.iterItems vals)
    let flat := items.all Value.isNumber
    let rows ← if flat then items.mapM fun v => do pure [← Ops.real v] else rowsOf vals
    if rows.length != points.length then Sim.fail Fault.badValue
    let width := (points.headD []).length
    if points.any (·.length != width) || rows.any (·.length != (rows.headD []).length) then
      Sim.fail Fault.badValue
    let t ← Sim.lift (ScatteredTable.build (points.map List.toArray).toArray
      (rows.map List.toArray).toArray)
    pure (.scattered t flat)
  | "ScheduledGainPIDController" => some do
    let [path, n, pCol, dCol, e, m] ← values [req "gainTableFilePath", opt "nKeyColumns" (.int 2),
        opt "PCol" (.int 3), opt "DCol" (.int 5), opt "initialError" (.int 0),
        opt "maxIntegral" .null]
      | Sim.fail Fault.typeMismatch
    let column (v : Value) : Sim Int := match v with
      | .int k => pure k
      | _ => Sim.fail Fault.typeMismatch
    .gainTablePid <$> GainTablePid.load (← Ops.text path) (← column n) (← column pCol)
      (← column dCol) e (some m)
  | "ScheduledGainPIDRocketMomentController" => some do
    let [path, names] ← values [req "gainTableFilePath", req "keyColumnNames"]
      | Sim.fail Fault.typeMismatch
    let names ← (← Sim.lift (Arith.iterItems names)).mapM fun n => match n with
      | .str s => pure s
      | _ => Sim.fail (Fault.bare .keyError)
    .scheduledPid <$> ScheduledPid.load (← Ops.text path) names
  | "TableInterpolatingActuatorController" => some do
    let [path, n, fns, acts] ← bindArgs [req "deflectionTableFilePath", req "nKeyColumns",
        req "keyFunctionList", req "actuatorList"] args kwargs
      | Sim.fail Fault.typeMismatch
    let actuators ← (← acts.objects).mapM fun o => match o with
      | .actuator a => pure a
      | _ => Sim.fail Fault.noAttribute
    let n ← match n.asValue with
      | .int k => pure k.toNat
      | _ => Sim.fail Fault.typeMismatch
    let rows ← NumberTable.load (← Ops.text path.asValue) 1
    let columns := ((rows.headD []).drop n).length
    if actuators.length != columns then
      Sim.fail (Fault.raise .valueError ("Number of actuators: " ++ toString actuators.length ++
        ", must match number of actuator deflection columns in deflection table: " ++
        toString columns))
    let t ← Sim.lift (ScatteredTable.ofColumns rows n)
    pure (.actuatorTable path.asValue fns.asValue t actuators)
  | _ => none

/-- The position of a first-order system, as its method takes it. -/
def positionCall (responseTime : Value) (args : List Value) (kwargs : List (String × Value)) :
    Sim Value := do
  let [now, last, pos, target] ← bindParams [req "currentTime", req "lastTime",
      req "lastPosition", req "lastTarget"] args kwargs
    | Sim.fail Fault.typeMismatch
  firstOrderPosition responseTime now last pos target

/-- Calls a method every PID controller has: returns the result and the controller
afterwards. -/
def pidCall (c : Pid) (method : String) (args : List Value) (kwargs : List (String × Value)) :
    Option (Sim (Value × Pid)) :=
  match method with
  | "getNewSetPoint" => some do
    let [e, dt] ← bindParams [req "currentError", req "dt"] args kwargs
      | Sim.fail Fault.typeMismatch
    c.step e dt
  | "updateCoefficients" => some do
    let [p, i, d, m] ← bindParams [req "P", req "I", req "D", opt "maxIntegral" .null] args
        kwargs
      | Sim.fail Fault.typeMismatch
    pure (.null, ← c.retune p i d (some m))
  | "updateMaxIntegral" => some do
    let [m] ← bindParams [req "maxIntegral"] args kwargs | Sim.fail Fault.typeMismatch
    pure (.null, { c with maxIntegral := ← Pid.limitOf (some m) })
  | "resetIntegral" => some do
    let [] ← bindParams [] args kwargs | Sim.fail Fault.typeMismatch
    pure (.null, ← c.resetIntegral)
  | _ => none

/-- The values an interpolator of scattered data answers at points: a row per point (a
single value when the data is flat), all from the nearest data points when any
interpolated value is undefined; `lead` keeps the axis of points. -/
def interpolated (t : ScatteredTable) (flat : Bool) (points : List (Array Float)) (lead : Bool) :
    Sim Value := do
  let linear := points.map t.linear
  let defined := linear.all fun r => match r with
    | some v => !v.any (·.isNaN)
    | none => false
  let rows ← if defined then pure (linear.map (·.getD #[]))
    else points.mapM fun x => Sim.lift (t.nearestRow x)
  let rowValue (r : Array Float) : Value :=
    if flat then .float (r.getD 0 0.0) else .array (r.toList.map Value.float)
  pure (if lead then .array (rows.map rowValue) else rowValue (rows.headD #[]))

/-- The points of a call to an interpolator of `d`-dimensional data, and whether the answer
keeps an axis of points. -/
def queryPoints (d : Nat) (args : List Value) : Sim (List (Array Float) × Bool) :=
  match args with
  | [a] => do
    let items ← Sim.lift (Arith.iterItems a)
    if items.all Value.isNumber then
      let xs ← items.mapM Ops.real
      if d == 0 || xs.length % d != 0 then Sim.fail Fault.badValue
      pure ((List.range (xs.length / d)).map fun k => ((xs.drop (k * d)).take d).toArray, true)
    else
      let rows ← items.mapM numbersOf
      if rows.any (·.length != d) then Sim.fail Fault.badValue
      pure (rows.map List.toArray, true)
  | _ => do
    let xs ← args.mapM Ops.real
    if xs.length != d then Sim.fail Fault.badValue
    pure ([xs.toArray], false)

/-- Calls a method of a control object: returns the result and the object afterwards. -/
def controlCall (apply : Apply) (o : Instance) (method : String) (args : List Value)
    (kwargs : List (String × Value)) : Option (Sim (Value × Instance)) :=
  match o, method with
  | .pid "ConstantGainPIDRocketMomentController" c, "getDesiredMoments" => some do
    let [s, _, target, _, dt] ← bindParams [req "rocketState", req "environment",
        req "targetOrientation", req "time", req "dt"] args kwargs
      | Sim.fail Fault.typeMismatch
    let (r, c) ← c.desiredMoments s target dt
    pure (r, .pid "ConstantGainPIDRocketMomentController" c)
  | .pid "ConstantGainPIDRocketMomentController" _, "_getOrientationError" => some do
    let [s, target] ← bindParams [req "rocketState", req "targetOrientation"] args kwargs
      | Sim.fail Fault.typeMismatch
    pure (← orientationError s target, o)
  | .pid cls c, _ => (pidCall c method args kwargs).map fun m => do
    let (r, c) ← m
    pure (r, .pid cls c)
  | .gainTablePid s, "updateCoefficientsFromGainTable" => some do
    let [key] ← bindParams [req "keyList"] args kwargs | Sim.fail Fault.typeMismatch
    pure (.null, .gainTablePid (← s.retuneAt (← Sim.lift (Arith.iterItems key))))
  | .gainTablePid s, _ => (pidCall s.pid method args kwargs).map fun m => do
    let (r, c) ← m
    pure (r, .gainTablePid { s with pid := c })
  | .scheduledPid s, "updateCoefficientsFromGainTable" => some do
    let [key] ← bindParams [req "keyList"] args kwargs | Sim.fail Fault.typeMismatch
    pure (.null, .scheduledPid (← s.retuneAt (← Sim.lift (Arith.iterItems key))))
  | .scheduledPid s, "getDesiredMoments" => some do
    let [st, env, target, _, dt] ← bindParams [req "rocketState", req "environment",
        req "targetOrientation", req "time", req "dt"] args kwargs
      | Sim.fail Fault.typeMismatch
    let (r, s) ← s.desiredMoments st env target dt
    pure (r, .scheduledPid s)
  | .scheduledPid _, "_getOrientationError" => some do
    let [st, target] ← bindParams [req "rocketState", req "targetOrientation"] args kwargs
      | Sim.fail Fault.typeMismatch
    pure (← orientationError st target, o)
  | .scheduledPid s, _ => (pidCall s.pid method args kwargs).map fun m => do
    let (r, c) ← m
    pure (r, .scheduledPid { s with pid := c })
  | .scattered t flat, "__call__" => some do
    let (points, lead) ← queryPoints t.dims args
    pure (← interpolated t flat points lead, o)
  | .actuatorTable path fns t acts, "setTargetActuatorDeflections" => some do
    let [moments, state, env, time] ← bindParams [req "desiredMoments", req "state",
        req "environment", req "time"] args kwargs
      | Sim.fail Fault.typeMismatch
    let params ← (← Sim.lift (Arith.iterItems fns)).mapM fun f => apply f [state, env, .int 1]
    let key := params ++ (← Sim.lift (Arith.iterItems moments))
    let (targets, acts) ← commandFromTable t key acts time
    pure (.list targets, .actuatorTable path fns t acts)
  | .firstOrderSystem t, "getPosition" => some do
    pure (← positionCall t args kwargs, o)
  | .actuator a, "getPosition" => some do
    pure (← positionCall a.responseTime args kwargs, o)
  | .actuator a, "getDeflection" => some do
    let [t] ← bindParams [req "time"] args kwargs | Sim.fail Fault.typeMismatch
    pure (← a.deflection t, o)
  | .actuator a, "setTargetDeflection" => some do
    let [target, t] ← bindParams [req "newTarget", req "time"] args kwargs
      | Sim.fail Fault.typeMismatch
    pure (.null, .actuator (← a.command target t))
  | .actuator _, "getDeflectionDerivative" => some do
    let [_, _, _] ← bindParams [req "_", req "_2", req "_3"] args kwargs
      | Sim.fail Fault.typeMismatch
    pure (.null, o)
  | .stabilizer s, "getTargetOrientation" => some do
    let [_, _, _] ← bindParams [req "rocketState", req "targetState", req "time"] args kwargs
      | Sim.fail Fault.typeMismatch
    pure (s.target, o)
  | _, _ => none

/-- An attribute every PID controller has. -/
def pidAttr (c : Pid) (name : String) : Option Value :=
  match name with
  | "P" => some c.p
  | "I" => some c.i
  | "D" => some c.d
  | "lastError" => some c.lastError
  | "errorIntegral" => some c.errorIntegral
  | "maxIntegralMagnitude" => some (c.maxIntegral.getD .null)
  | _ => none

/-- An attribute of a control object that holds other objects. -/
def controlMember (o : Instance) (name : String) : Option Member :=
  match o, name with
  | .actuatorTable _ _ _ acts, "actuatorList" => some (.objects (acts.map Instance.actuator))
  | .actuatorTable _ fns _ _, "keyFunctionList" => some (.value fns)
  | .actuatorTable path _ _ _, "deflectionTablePath" => some (.value path)
  | _, _ => none

/-- An attribute of a control object. -/
def controlAttr (o : Instance) (name : String) : Option Value :=
  match o, name with
  | .pid _ c, _ => pidAttr c name
  | .gainTablePid s, _ => pidAttr s.pid name
  | .scheduledPid s, _ => pidAttr s.pid name
  | .firstOrderSystem t, "responseTime" => some t
  | .actuator a, "responseTime" => some a.responseTime
  | .actuator a, "lastDeflection" => some a.lastDeflection
  | .actuator a, "lastTime" => some a.lastTime
  | .actuator a, "targetDeflection" => some a.targetDeflection
  | .actuator a, "maxDeflection" => some (a.maxDeflection.getD .null)
  | .actuator a, "minDeflection" => some (a.minDeflection.getD .null)
  | .stabilizer s, "targetOrientation" => some s.target
  | _, _ => none

end Objects
end Console
end RocketSim
