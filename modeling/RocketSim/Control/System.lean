import RocketSim.Control.Schedule
import RocketSim.Control.Stabilizer
import RocketSim.Logs.Log

/-!
# Rocket control systems

A rocket's control system ties a navigator (which gives the orientation to hold), a moment
controller (which turns the orientation error into the moments wanted) and, unless the
controller is ideal, a controlled fin set whose actuators are commanded to produce those
moments.  It runs at a fixed update rate: at most once per control time step, the inverse of
the rate.  An ideal controller runs at every time step and sets the rocket's orientation
to the target directly, stopping its rotation.

A fixed update rate needs time steps that divide the control time step, so a control system
with a positive rate switches adaptive integration off (for the rest of the powered flight)
and adjusts the definition's time step to the nearest divisor.
-/

namespace RocketSim

/-- How a control system turns orientation errors into moments. -/
inductive MomentLaw where
  /-- A PID controller with constant gains. -/
  | constantGain (c : Pid)
  /-- A PID controller with gains scheduled by a table against flight parameters. -/
  | scheduledGain (s : ScheduledPid)
  /-- An ideal controller: the rocket takes the target orientation at once. -/
  | ideal
  deriving Inhabited

/-- A rocket's control system: its navigator and moment law, its update rate and control
time step, the time of its last run, the controlled fin set (known by its stage's and its
own numbers), whether it changed the time stepping (and the time step it found), and its
log. -/
structure ControlSystem where
  navigator : Stabilizer
  law : MomentLaw
  updateRate : Float
  controlTimeStep : Value
  lastRun : Value := .int 0
  controlled : Option (Nat × Nat)
  timeSteppingModified : Bool := false
  originalTimeStep : Option Float := none
  log : Option Log := none
  deriving Inhabited

end RocketSim
