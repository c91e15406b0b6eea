import RocketSim.Core.Ops

/-!
# Aerodynamic parameters

The quantities the aerodynamic models are written in: Mach and Reynolds numbers, the air
velocity seen from the rocket, the angles of attack and sideslip, the roll angle of the
normal-force plane and the dynamic pressure.  Each takes the rocket's state and the local
atmospheric conditions as values, so a state carrying extra state variables works as well
as a plain rigid-body state.

Most of these quantities are memoized on their arguments (see `Sim.memoized`).  The angle
of attack and the angle of sideslip zero a component of the remembered local-frame air
velocity in place; later calls with equal arguments see the changed vector.
-/

namespace RocketSim
namespace Aero

/-- The altitude above sea level of the conditions. -/
def altitude (env : Value) : Sim Value := Ops.attr env "ASLAltitude"

/-- The air velocity relative to the rocket, in the rocket's frame: the conjugate of the
orientation rotates the negated air-relative velocity. -/
def localFrameAirVel (state env : Value) : Sim Vec3 := do
  let r ← Sim.memoized "getLocalFrameAirVel" [state, env] do
    let q ← Ops.quat (← Ops.attr state "orientation")
    let rel ← Ops.sub (← Ops.attr state "velocity") (← Ops.attr env "Wind")
    let (r, _) ← Sim.lift (q.conj.rotate (← Ops.vec rel))
    pure (.vec (r.scale (-1.0)))
  Ops.vec r

/-- The air velocity relative to a point-mass rocket, in the earth frame. -/
def airVelRelativeToVehicle (state env : Value) : Sim Vec3 := do
  let rel ← Ops.sub (← Ops.attr state "velocity") (← Ops.attr env "Wind")
  pure ((← Ops.vec rel).scale (-1.0))

/-- The Mach number, with the speed of sound of air at the conditions' temperature. -/
def machNumber (args : List Value) (state env : Value) : Sim Value :=
  Sim.memoized "getMachNumber" args do
    let rel ← Ops.sub (← Ops.attr state "velocity") (← Ops.attr env "Wind")
    let speed := (← Ops.vec rel).length
    let t ← Ops.realAttr env "Temp"
    let c ← Sim.lift (Real.sqrt (1.4 * 287.0 * t))
    pure (.float (← Sim.lift (Real.div speed c)))

/-- The Reynolds number over a reference length. -/
def reynoldsNumber (args : List Value) (state env length : Value) : Sim Value :=
  Sim.memoized "getReynoldsNumber" args do
    let speed := (← localFrameAirVel state env).length
    let unit ← Ops.div (← Ops.mul (.float speed) (← Ops.attr env "Density"))
      (← Ops.attr env "DynamicViscosity")
    Ops.mul unit length

/-- The total angle of attack: the angle between the local-frame air velocity and the
rocket's nose-to-tail axis, the integer zero in still air. -/
def totalAOA (args : List Value) (state env : Value) : Sim Value :=
  Sim.memoized "getTotalAOA" args do
    let v ← localFrameAirVel state env
    if v.length == 0.0 then pure (.int 0)
    else pure (.float (← Sim.lift (v.angle ⟨0.0, 0.0, -1.0⟩)))

/-- The angle of attack in the rocket's x-z plane, signed by the air velocity's x part.
It zeroes the remembered local-frame air velocity's y component. -/
def angleOfAttack (state env : Value) : Sim Value := do
  let v ← localFrameAirVel state env
  if v.length == 0.0 then return .int 0
  let v := { v with y := 0.0 }
  Sim.updateMemo "getLocalFrameAirVel" (.vec v)
  let a ← Sim.lift (v.angle ⟨0.0, 0.0, -1.0⟩)
  pure (.float (if v.x > 0.0 then a else -a))

/-- The angle of sideslip in the rocket's y-z plane, signed by the air velocity's y part.
It zeroes the remembered local-frame air velocity's x component. -/
def sideslip (state env : Value) : Sim Value := do
  let v ← localFrameAirVel state env
  if v.length == 0.0 then return .int 0
  let v := { v with x := 0.0 }
  Sim.updateMemo "getLocalFrameAirVel" (.vec v)
  let a ← Sim.lift (v.angle ⟨0.0, 0.0, -1.0⟩)
  pure (.float (if v.y < 0.0 then a else -a))

/-- The direction of the normal aerodynamic force: the unit projection of the local-frame
air velocity on the rocket's x-y plane, or the x axis when that projection vanishes. -/
def normalForceDirection (state env : Value) : Sim Vec3 := do
  let r ← Sim.memoized "getNormalAeroForceDirection" [state, env] do
    let v ← localFrameAirVel state env
    if v.x == 0.0 && v.y == 0.0 then pure (.vec ⟨1.0, 0.0, 0.0⟩)
    else pure (.vec (Vec3.normalize ⟨v.x, v.y, 0.0⟩))
  Ops.vec r

/-- The roll angle of the normal-force plane in degrees, in `[0, 360)`; the integer zero
when there is no normal force direction to speak of. -/
def rollAngle (args : List Value) (state env : Value) : Sim Value :=
  Sim.memoized "getRollAngle" args do
    let n ← normalForceDirection state env
    let y := n.scale (-1.0)
    if y.length < 0.01 then pure (.int 0)
    else
      let a := -1.0 * Number.degrees (Float.atan2 (-y.y) y.x)
      pure (.float (← Sim.lift (Number.floatMod a 360.0)))

/-- The dynamic pressure `ρv²/2`, from the local-frame air speed, or for a point-mass
state from its earth-frame air speed. -/
def dynamicPressure (state env : Value) : Sim Value :=
  Sim.memoized "getDynamicPressure" [state, env] do
    let speed ← tryCatch (do pure (← localFrameAirVel state env).length) fun e =>
      if e.kind == .attributeError then do pure (← airVelRelativeToVehicle state env).length
      else throw e
    let q ← Ops.mul (.float (speed * speed)) (← Ops.attr env "Density")
    Ops.div q (.int 2)

/-- The compressibility factor `√|1 - M²|`, undefined between Mach 0.9 and 1.1. -/
def beta (mach : Value) : Sim Value :=
  Sim.memoized "getBeta" [mach] do
    if ← Ops.le mach (.float 0.9) then
      let m2 ← Ops.pow mach (.int 2)
      pure (.float (← Sim.lift (Real.sqrt (← Ops.real (← Ops.sub (.int 1) m2)))))
    else if ← Ops.le (.float 1.1) mach then
      let m2 ← Ops.pow mach (.int 2)
      pure (.float (← Sim.lift (Real.sqrt (← Ops.real (← Ops.sub m2 (.int 1))))))
    else Sim.fail (Fault.raise .notImplementedError
      "Beta not valid in the range 0.9 < M < 1.1 - goes to infinity")

/-- The parameters that tabulated data and gain schedules can be keyed on. -/
inductive Parameter where
  | mach
  | altitude
  | unitReynolds
  | totalAOA
  | rollAngle
  | angleOfAttack
  | sideslip
  deriving DecidableEq, Inhabited

namespace Parameter

/-- The parameter a column name of a table or schedule stands for. -/
def ofName? : String → Option Parameter
  | "Mach" => some .mach
  | "Altitude" => some .altitude
  | "UnitReynolds" => some .unitReynolds
  | "TotalAOA" => some .totalAOA
  | "RollAngle" => some .rollAngle
  | "AOA" => some .angleOfAttack
  | "AOSS" => some .sideslip
  | _ => none

/-- The column names, in the order the library lists them. -/
def names : List String := ["Mach", "Altitude", "UnitReynolds", "TotalAOA", "RollAngle", "AOA", "AOSS"]

/-- The library function name of a parameter. -/
def functionName : Parameter → String
  | .mach => "getMachNumber"
  | .altitude => "getAltitude"
  | .unitReynolds => "getReynoldsNumber"
  | .totalAOA => "getTotalAOA"
  | .rollAngle => "getRollAngle"
  | .angleOfAttack => "getAOA"
  | .sideslip => "getAOSS"

/-- Evaluates a parameter with the third argument the keyed functions take (a reference
length for the Reynolds number, ignored by the others). -/
def eval (p : Parameter) (state env extra : Value) : Sim Value :=
  match p with
  | .mach => Aero.machNumber [state, env, extra] state env
  | .altitude => Aero.altitude env
  | .unitReynolds => Aero.reynoldsNumber [state, env, extra] state env extra
  | .totalAOA => Aero.totalAOA [state, env, extra] state env
  | .rollAngle => Aero.rollAngle [state, env, extra] state env
  | .angleOfAttack => Aero.angleOfAttack state env
  | .sideslip => Aero.sideslip state env

end Parameter

end Aero
end RocketSim
