import RocketSim.Flight.Simulation

/-!
# Wind-tunnel sweeps

A sweep evaluates a rocket's forces once at each of a list of conditions, as a wind tunnel
would, without flying it.  It names the definition keys it varies and, for each key, the
values to give it, one per condition; every key must have as many values as the others.
At each condition the keys take their values, the environment and the rocket are built
anew, and the rocket's forces are evaluated at time zero in its initial state.  All the
evaluations go into the first rocket's force log, which is written out (with its
aerodynamic coefficients) when the sweep ends.

A smoothed sweep first fills each interval between given conditions with nine evenly
spaced ones: vectors are interpolated component by component, other values as numbers, and
the new values are written as the display text of the result.
-/

namespace RocketSim
namespace Flight

/-- The keys a sweep varies and the values each key takes, one per condition. -/
structure Sweep where
  parameters : List String := ["Rocket.velocity"]
  values : List (List Value) := [[.str "(0 0 100)", .str "(0 0 200)", .str "(0 0 300)"]]
  smoothLine : Value := .str "False"

namespace Sweep

/-- The list of a few numbers as it is displayed. -/
def countsText (ns : List Nat) : String := "[" ++ ", ".intercalate (ns.map toString) ++ "]"

/-- Checks that every key has a list of values and that the lists are equally long. -/
def check (s : Sweep) : Outcome Unit := do
  if s.parameters.length != s.values.length then
    throw (Fault.raise .valueError ("Must have a list of values for each parameter to sweep " ++
      "over. Currently have " ++ toString s.parameters.length ++ " parameters, and " ++
      toString s.values.length ++ " lists of values."))
  let counts := s.values.map (·.length)
  if !counts.all (· == counts.headD 0) then
    throw (Fault.raise .valueError ("All lists of parameter values must be of equal length. " ++
      "Currently, list lengths are: " ++ countsText counts))

/-- The value a fraction of the way from one value to another, as display text: as vectors
when both read as vectors, otherwise as numbers. -/
def between (first second : Value) (fraction : Float) : Sim Value := do
  let asVectors : Sim Value := do
    let a ← Sim.lift (Construct.vector [first])
    let b ← Sim.lift (Construct.vector [second])
    let change ← Ops.sub b a
    let v ← Ops.add (← Ops.mul (.float fraction) change) a
    pure (.str (← Sim.lift (Show.str v)))
  tryCatch asVectors fun f => do
    if f.kind != .valueError then throw f
    let a ← Sim.lift (Definition.numberOf first)
    let b ← Sim.lift (Definition.numberOf second)
    pure (.str (← Sim.lift (Show.str (.float (fraction * (b - a) + a)))))

/-- Inserts a value into a list before a position (at the end past it). -/
def insertAt {β : Type} (xs : List β) (i : Nat) (v : β) : List β :=
  xs.take i ++ v :: xs.drop i

section Smoothing

variable {m : Type → Type} [Monad m] [MonadExcept Fault m] {β : Type}

/-- Inserts condition `p` of interval `i` into every list: at `10 i + p`, the value `p`
tenths of the way from the condition at `10 i` to the one now at `10 i + p`. -/
def insertBetweenWith (between : β → β → Nat → m β) (i p : Nat) (values : List (List β)) :
    m (List (List β)) :=
  values.mapM fun xs => do
    let some a := xs[10 * i]? | throw Fault.badIndex
    let some b := xs[10 * i + p]? | throw Fault.badIndex
    pure (insertAt xs (10 * i + p) (← between a b p))

/-- Inserts the nine conditions of interval `i` into every list, one after another. -/
def fillIntervalWith (between : β → β → Nat → m β) (values : List (List β)) (i : Nat) :
    m (List (List β)) :=
  List.foldlM (fun values p => insertBetweenWith between i p values) values (List.range' 1 9)

/-- The values with nine evenly spaced conditions inserted into each interval between two
given ones, interval by interval from the first. -/
def addPointsWith (between : β → β → Nat → m β) (values : List (List β)) :
    m (List (List β)) := do
  let some firstList := values.head? | throw Fault.badIndex
  List.foldlM (fillIntervalWith between) values (List.range (firstList.length - 1))

end Smoothing

/-- The values with nine evenly spaced conditions inserted into each interval between two
given ones. -/
def addPoints (values : List (List Value)) : Sim (List (List Value)) :=
  addPointsWith (fun a b p => between a b (p.toFloat / 10.0)) values

end Sweep

namespace Mission

/-- Evaluates a rocket's forces at each condition of a sweep, all into one force log, and
writes the logs; returns the sweep's values (with any inserted conditions) and the paths of
the logs written. -/
def sweep (s : Sweep) : Mission (List (List Value) × Option (List String)) := do
  let quiet (d : Definition) : Definition :=
    let d := d.setValue "SimControl.loggingLevel" (.str "3")
    let d := d.setValue "SimControl.plot" (.str "None")
    d.setValue "SimControl.RocketPlot" (.str "Off")
  modify fun w => { w with definition := quiet w.definition }
  let smooth ← sim (Sim.lift (Value.toBoolSetting s.smoothLine))
  let values ← if smooth then sim (Sweep.addPoints s.values) else pure s.values
  let some firstList := values.head? | fail Fault.badIndex
  let mut shared : Option Log := none
  for i in List.range firstList.length do
    for (key, xs) in s.parameters.zip values do
      let some v := xs[i]? | fail Fault.badIndex
      modify fun w => { w with definition := w.definition.setValue key v }
    let environment ← config Environment.configure
    modify fun w => { w with environment }
    let r ← createRocket none
    let r := if i == 0 then r else { r with forceLog := shared, componentColumns := false }
    modify fun w => { w with stagingIndex := .int 0, rockets := [r] }
    discard (appliedForce 0 (.float 0.0) r.body.state)
    shared := (← rocket 0).forceLog
  modify fun w => { w with flights := [{}] }
  pure (values, ← finish)

end Mission
end Flight
end RocketSim
