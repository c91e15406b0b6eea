import RocketSim.Core.Ops
import RocketSim.Tables.NumberTable
import RocketSim.Definition.Reader
import RocketSim.Core.Methods

/-!
# Earth models

An earth model gives the gravity force on a vehicle, the altitude above sea level of a
point of the global inertial frame, the rotation from that frame to the local
east-north-up frame under a point, and the conversion of a launch-site state into the
global frame.

* Without an earth the launch-tower frame is the global frame and there is no gravity.
* A flat earth adds inverse-square gravity towards `-z`, measured from a mean radius.
* A spherical earth is a uniform rotating sphere: geodetic and cartesian coordinates are
  spherical coordinates, gravity points to the centre.  Its conversions are written over any
  numbers (`SphereOps`), so that over the reals they are exact.
* The WGS84 ellipsoid converts coordinates on the ellipsoid (the latitude by a fixed-point
  iteration on the ratio of normals) and adds the J2 term of the gravity field.

A launch-site state is converted by placing its position at the site's latitude and
longitude, rotating its velocity and orientation into the global frame, and adding the
earth's rotation to velocity and angular velocity.
-/

namespace RocketSim
namespace Earth

/-- The mean radius used by the flat earth (m). -/
def flatRadius : Int := 6371000
/-- The gravitational parameter of the flat earth (m³/s²). -/
def flatMu : Float := 398600.5e9
/-- The radius of the spherical earth (m). -/
def sphereRadius {α : Type} [OfScientific α] : α := 6371007.1809
/-- The rotation rate of the rotating models (rad/s). -/
def rotationRate {α : Type} [OfScientific α] : α := 7.292115e-5
/-- The gravitational parameter of the round models (m³/s²). -/
def mu : Float := 3.98600436e14
/-- The semi-major axis of the ellipsoid (m). -/
def semiMajor : Int := 6378137
/-- The flattening of the ellipsoid. -/
def flattening : Float := 1.0 / 298.257223563
/-- The semi-minor axis of the ellipsoid (m). -/
def semiMinor : Float := Float.ofInt semiMajor * (1.0 - flattening)
/-- The first eccentricity squared. -/
def e2 : Float := flattening * (2.0 - flattening)
/-- The second eccentricity. -/
def secondEccentricity : Float :=
  Float.sqrt (e2 / Float.pow (1.0 - flattening) 2.0)
/-- The second zonal coefficient of the gravity field. -/
def j2 : Float := 0.00108262982

/-! ## Surface frames

The frames under a point are written over any numbers: the simulator runs them over binary64
values, and over the reals they are exact. -/

section Frames

variable {α : Type} [Scalar α]

/-- The rotation from the global frame to the east-north-up frame at a latitude and longitude
(degrees): a quarter turn past the longitude about the polar axis, after a turn by the
colatitude about the global x axis. -/
def enuRotation (lat lon : α) : Quat α :=
  Quat.mul (Quat.ofAxisAngle ⟨0.0, 0.0, 1.0⟩ (Number.radians (lon + 90.0)))
    (Quat.ofAxisAngle ⟨1.0, 0.0, 0.0⟩ (Number.radians (90.0 - lat)))

/-- The half turn from the east-north-up frame to the north-east-down frame, about the
diagonal of east and north. -/
def enuToNed : Quat α := Quat.ofAxisAngle ⟨1.0, 1.0, 0.0⟩ Scalar.pi

/-- The sphere's latitude and longitude (degrees) of a point, from its coordinates and its
distance `axial` from the polar axis, the longitude turned back by `turn` radians. -/
def sphericalLatLon (x y z axial turn : α) : α × α :=
  (Number.degrees (Scalar.atan2 z axial), Number.degrees (Scalar.atan2 y x - turn))

end Frames

/-- Calls a method of a value, keeping the receiver as the call leaves it. -/
def callOn (v : Value) (name : String) (args : List Value) : Sim (Value × Value) :=
  Sim.lift (Methods.call v name args [])

/-- The operations the sphere's coordinate conversions are written in, in a monad `m`: the
simulator's values `V`, and the numbers `α` they are read as. -/
structure SphereOps (m : Type → Type) (V α : Type) where
  /-- A value read as a number. -/
  real : V → m α
  /-- A number as a value. -/
  ofReal : α → V
  /-- The sum of two values. -/
  add : V → V → m V
  /-- The product of two values. -/
  mul : V → V → m V
  sqrt : α → m α
  sin : α → m α
  cos : α → m α

section Sphere

variable {m : Type → Type} [Monad m] {V α : Type} [Scalar α] (O : SphereOps m V α)

/-- The sphere's cartesian coordinates of a latitude, longitude (degrees) and height, the
longitude advanced by the earth's rotation over a time offset. -/
def sphericalToCartesianWith (lat lon height offset : V) : m (α × α × α) := do
  let lat := Number.radians (← O.real lat)
  let lon := Number.radians (← O.real lon)
  let lon := lon + rotationRate * (← O.real offset)
  let radius ← O.real (← O.add (O.ofReal sphereRadius) height)
  let cosLat ← O.cos lat
  let x := radius * cosLat * (← O.cos lon)
  let y := radius * cosLat * (← O.sin lon)
  let z := radius * (← O.sin lat)
  pure (x, y, z)

/-- The sphere's latitude, longitude (degrees) and height of cartesian coordinates, the
longitude turned back by the earth's rotation over a time offset. -/
def cartesianToSphericalWith (x y z offset : V) : m (α × α × α) := do
  let xx ← O.mul x x
  let yy ← O.mul y y
  let zz ← O.mul z z
  let p ← O.sqrt (← O.real (← O.add xx yy))
  let yf ← O.real y
  let xf ← O.real x
  let turn := rotationRate * (← O.real offset)
  let (lat, lon) := sphericalLatLon xf yf (← O.real z) p turn
  let height := (← O.sqrt (← O.real (← O.add (← O.add xx yy) zz))) - sphereRadius
  pure (lat, lon, height)

end Sphere

/-- The value arithmetic of the sphere's conversions. -/
def sphereOps : SphereOps Sim Value Float where
  real := Ops.real
  ofReal := .float
  add := Ops.add
  mul := Ops.mul
  sqrt x := Sim.lift (Real.sqrt x)
  sin x := Sim.lift (Real.sin x)
  cos x := Sim.lift (Real.cos x)

/-- The sphere's cartesian coordinates of values. -/
def sphericalToCartesian (lat lon height offset : Value) : Sim (List Value) := do
  let (x, y, z) ← sphericalToCartesianWith sphereOps lat lon height offset
  pure [.float x, .float y, .float z]

/-- The sphere's latitude, longitude and height of values. -/
def cartesianToSpherical (x y z offset : Value) : Sim (List Value) := do
  let (lat, lon, height) ← cartesianToSphericalWith sphereOps x y z offset
  pure [.float lat, .float lon, .float height]

/-- The ellipsoid's cartesian coordinates of a geodetic latitude, longitude (degrees) and
height. -/
def geodeticToCartesian (lat lon height offset : Value) : Sim (List Value) := do
  let lat := Number.radians (← Ops.real lat)
  let lon := Number.radians (← Ops.real lon)
  let lon := lon + rotationRate * (← Ops.real offset)
  let sinLat ← Sim.lift (Real.sin lat)
  let n := Float.ofInt semiMajor /
    (← Sim.lift (Real.sqrt (1.0 - e2 * (← Sim.lift (Real.pow sinLat 2.0)))))
  let h ← Ops.real height
  let cosLat ← Sim.lift (Real.cos lat)
  let x := (n + h) * cosLat * (← Sim.lift (Real.cos lon))
  let y := (n + h) * cosLat * (← Sim.lift (Real.sin lon))
  let a2 := Float.ofInt (semiMajor * semiMajor)
  let z := ((← Sim.lift (Real.pow semiMinor 2.0)) / a2 * n + h) * sinLat
  pure [.float x, .float y, .float z]

/-- The iteration bound of the geodetic latitude. -/
def latitudeIterations : Nat := 100000

/-- The ellipsoid's geodetic latitude, longitude (degrees) and height of cartesian
coordinates. -/
def cartesianToGeodetic (x y z offset : Value) : Sim (List Value) := do
  let lon := Float.atan2 (← Ops.real y) (← Ops.real x)
  let lon := lon - rotationRate * (← Ops.real offset)
  let xx ← Ops.mul x x
  let yy ← Ops.mul y y
  let p ← Sim.lift (Real.sqrt (← Ops.real (← Ops.add xx yy)))
  let zf ← Ops.real z
  let zz ← Ops.real (← Ops.mul z z)
  let a := Float.ofInt semiMajor
  let kOrig := 1.0 / (1.0 - e2)
  let rec iterate (fuel : Nat) (kOld : Float) : Sim Float := do
    match fuel with
    | 0 => Sim.fail (Fault.bare .runtimeError)
    | fuel + 1 =>
      let ci := (← Sim.lift (Real.pow (p * p + (1.0 - e2) * zf * zf * (← Sim.lift (Real.pow kOld 2.0))) 1.5)) /
        (a * e2)
      let num := p * p + (1.0 - e2) * zf * zf * (← Sim.lift (Real.pow kOld 3.0))
      let kNew := 1.0 + (← Sim.lift (Real.div num (ci - p * p)))
      if Float.abs (kNew - kOld) < 1e-10 then pure kNew else iterate fuel kNew
  let k ← iterate latitudeIterations kOrig
  let lat := Float.atan2 (k * zf) p
  let h := 1.0 / e2 * (1.0 / k - 1.0 / kOrig) * (← Sim.lift (Real.sqrt (p * p + zz * k * k)))
  pure [.float (Number.degrees lat), .float (Number.degrees lon), .float h]

/-- The gravity coefficients of a table file (degree, order, C, S per row), as nested
mappings by degree and order. -/
def coefficients (t : NumberTable) : Value × Value :=
  let add (m : List (Value × Value)) (deg order c : Float) : List (Value × Value) :=
    let inner : List (Value × Value) := match m.find? (fun (k, _) => match k with
        | .float d => d == deg
        | _ => false) with
      | some (_, .dict es) => es
      | _ => []
    let inner := if inner.any (fun (k, _) => match k with
        | .float o => o == order
        | _ => false)
      then inner.map fun (k, v) => match k with
        | .float o => if o == order then (k, .float c) else (k, v)
        | _ => (k, v)
      else inner ++ [(.float order, .float c)]
    if m.any (fun (k, _) => match k with
        | .float d => d == deg
        | _ => false)
    then m.map fun (k, v) => match k with
      | .float d => if d == deg then (k, .dict inner) else (k, v)
      | _ => (k, v)
    else m ++ [(.float deg, .dict inner)]
  let (cs, ss) := t.foldl (fun (cs, ss) row =>
    let deg := row.getD 0 0.0
    let order := row.getD 1 0.0
    (add cs deg order (row.getD 2 0.0), add ss deg order (row.getD 3 0.0))) ([], [])
  (.dict cs, .dict ss)

end Earth

/-- An earth model. -/
inductive EarthModel where
  /-- No earth: no gravity, the launch-tower frame is the global frame. -/
  | none
  /-- A flat earth with inverse-square gravity. -/
  | flat
  /-- A uniform rotating sphere. -/
  | spherical
  /-- The rotating WGS84 ellipsoid with its gravity coefficients by degree and order. -/
  | wgs84 (c s : Value)
  deriving Inhabited

namespace EarthModel

/-- The class name of a model. -/
def className : EarthModel → String
  | .none => "NoEarth"
  | .flat => "FlatEarth"
  | .spherical => "SphericalEarth"
  | .wgs84 _ _ => "WGS84"

/-- The WGS84 model, with the gravity coefficients of the repository's table. -/
def makeWgs84 : Sim EarthModel := do
  let path ← Paths.absolute "./MAPLEAF/ENV/sphericalHarmonicGravityCoeffs.txt"
  let (c, s) := Earth.coefficients (← NumberTable.load path 2)
  pure (.wgs84 c s)

/-- The rotation rate of the earth (rad/s). -/
def rotationRate : EarthModel → Value
  | .none | .flat => .int 0
  | .spherical | .wgs84 _ _ => .float Earth.rotationRate

/-- Geodetic (or spherical) coordinates of cartesian coordinates. -/
def toGeodetic (m : EarthModel) (x y z offset : Value) : Sim (List Value) :=
  match m with
  | .wgs84 _ _ => Earth.cartesianToGeodetic x y z offset
  | _ => Earth.cartesianToSpherical x y z offset

/-- Cartesian coordinates of geodetic (or spherical) coordinates. -/
def toCartesian (m : EarthModel) (lat lon height offset : Value) : Sim (List Value) :=
  match m with
  | .wgs84 _ _ => Earth.geodeticToCartesian lat lon height offset
  | _ => Earth.sphericalToCartesian lat lon height offset

/-- The altitude above sea level of a point of the global frame. -/
def altitude (m : EarthModel) (x y z : Value) : Sim Value := do
  match m with
  | .none | .flat => pure z
  | _ => do
    let c ← m.toGeodetic x y z (.int 0)
    pure (c.getD 2 .null)

/-- The rotation from the global frame to the east-north-up frame under a point, at the
latitude and longitude of the point. -/
def enuAt (m : EarthModel) (x y z : Value) : Sim Quat := do
  match m with
  | .none | .flat => pure Quat.identity
  | _ => do
    let c ← m.toGeodetic x y z (.int 0)
    let lat ← Ops.real (c.getD 0 .null)
    let lon ← Ops.real (c.getD 1 .null)
    pure (Earth.enuRotation lat lon)

/-- The rotation from the global frame to the east-north-up frame under a point. -/
def toEnu (m : EarthModel) (x y z : Value) : Sim Value := do
  pure (.quat (← m.enuAt x y z))

/-- The rotation from the global frame to the north-east-down frame under a point. -/
def toNed (m : EarthModel) (x y z : Value) : Sim Value := do
  pure (.quat (Quat.mul (← m.enuAt x y z) Earth.enuToNed))

/-- The gravity force on a body of the given mass properties in a state, in the global
frame. -/
def gravity (m : EarthModel) (inertia state : Value) : Sim Value := do
  match m with
  | .none => pure (.vec Vec3.zero)
  | .flat => do
    let z ← Ops.attr (← Ops.attr state "position") "Z"
    let d ← Ops.add z (.int Earth.flatRadius)
    let mass ← Ops.attr inertia "mass"
    let magnitude ← Ops.div (← Ops.mul mass (.float Earth.flatMu)) (← Ops.pow d (.int 2))
    Ops.mul (.vec ⟨0.0, 0.0, -1.0⟩) magnitude
  | .spherical => do
    let position ← Ops.attr state "position"
    let (unit, _) ← Earth.callOn position "normalize" []
    let direction ← Ops.neg unit
    let (d, _) ← Earth.callOn position "length" []
    let mass ← Ops.attr inertia "mass"
    let magnitude ← Ops.div (← Ops.mul mass (.float Earth.mu)) (← Ops.pow d (.int 2))
    Ops.mul direction magnitude
  | .wgs84 _ _ => do
    let position ← Ops.attr state "position"
    let comp (i : Int) : Sim Float := do
      let (c, _) ← Earth.callOn position "__getitem__" [.int i]
      Ops.real c
    let x ← comp 0
    let y ← comp 1
    let z ← comp 2
    let (rv, _) ← Earth.callOn position "length" []
    let r ← Ops.real rv
    let re := Float.ofInt Earth.semiMajor
    let mass ← Ops.real (← Ops.attr inertia "mass")
    let frac ← Sim.lift (Real.div (3.0 * Earth.j2 * re * re) (2.0 * (← Sim.lift (Real.pow r 4.0))))
    let multiplier ← Sim.lift (Real.div (-Earth.mu * mass) (← Sim.lift (Real.pow r 3.0)))
    let fx := x * multiplier * (1.0 - frac * (5.0 * z * z - r * r))
    let fy := y * multiplier * (1.0 - frac * (5.0 * z * z - r * r))
    let fz := z * multiplier * (1.0 - frac * (5.0 * z * z - 3.0 * r * r))
    pure (.vec ⟨fx, fy, fz⟩)

/-- Converts a state in the launch-tower frame (its height measured from sea level) at a
latitude and longitude into the global frame. -/
def toGlobal (m : EarthModel) (state lat lon : Value) : Sim Value := do
  match m with
  | .none | .flat => pure state
  | _ => do
    let position ← Ops.attr state "position"
    let height ← Ops.attr position "Z"
    let c ← m.toCartesian lat lon height (.int 0)
    let globalPosition ← Sim.lift (Construct.vector c)
    let towerToGlobal ← m.toEnu (c.getD 0 .null) (c.getD 1 .null) (c.getD 2 .null)
    let (rotatedVelocity, towerToGlobal) ← Earth.callOn towerToGlobal "rotate"
      [← Ops.attr state "velocity"]
    let earthAngVel : Value := .vec ⟨0.0, 0.0, Earth.rotationRate⟩
    let (surfaceVelocity, _) ← Earth.callOn earthAngVel "crossProduct" [globalPosition]
    let globalVelocity ← Ops.add rotatedVelocity surfaceVelocity
    match state with
    | .state _ _ orientation angularVelocity => do
      let globalOrientation ← Ops.mul towerToGlobal orientation
      let (conj, _) ← Earth.callOn globalOrientation "conjugate" []
      let (earthInBody, _) ← Earth.callOn conj "rotate" [earthAngVel]
      let w ← Ops.add angularVelocity earthInBody
      pure (.state globalPosition globalVelocity globalOrientation w)
    | _ => pure (.pointState globalPosition globalVelocity)

/-- The model the environment settings name (`EarthModel`). -/
def configure (r : Reader) : Config EarthModel := do
  match ← r.getString "EarthModel" with
  | .str "Flat" => pure .flat
  | .str "Round" => pure .spherical
  | .str "WGS84" => Config.sim makeWgs84
  | .str "None" => pure .none
  | other =>
    let text ← Config.sim (Sim.lift (Show.str other))
    Config.fail (Fault.raise .notImplementedError ("Earth model: " ++ text ++
      " not found. Try 'Flat', 'Round' or 'WGS84'"))

end EarthModel
end RocketSim
