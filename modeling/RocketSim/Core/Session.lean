import RocketSim.Core.Arith
import RocketSim.Numeric.Twister

/-!
# Sessions

Everything a request may change besides its own values: the one-entry memo of each
memoized function, the generators behind random draws, and the files written into the
working directory.  A computation that may fail and may touch the session runs in `Sim`.

A memoized function remembers only its last call.  A new call whose arguments equal the
remembered ones, compared as the arguments' classes compare, returns the remembered result
itself; callers that change that result in place therefore change what later equal calls
return, and the memo records such changes (`Sim.updateMemo`).
-/

namespace RocketSim

/-- The remembered last call of a memoized function. -/
structure MemoEntry where
  name : String
  args : List Value
  result : Value

/-- The state a request runs against. -/
structure Session where
  memo : List MemoEntry := []
  random : RandomSource := RandomSource.ofInt 0
  arrayRandom : RandomSource := { gen := Twister.ofWord 0 }
  files : List (String × String) := []
  atmosphereBase : List (Float × Float) := []
  objects : Nat := 0
  deriving Inhabited

/-- A computation against a session that may fail with a fault; changes made to the
session before a fault stay made. -/
abbrev Sim := ExceptT Fault (StateM Session)

namespace Sim

/-- Lifts a computation that does not touch the session. -/
def lift {α : Type} (r : Outcome α) : Sim α :=
  match r with
  | .ok a => pure a
  | .error e => throw e

/-- Runs a computation against a session. -/
def run {α : Type} (m : Sim α) (s : Session) : Outcome α × Session := (ExceptT.run m).run s

/-- Fails with a fault. -/
def fail {α : Type} (f : Fault) : Sim α := lift (throw f)

/-- Whether two argument tuples are equal, item by item up to the shorter one and then by
length, as tuples compare. -/
def sameArgs (xs ys : List Value) : Outcome Bool :=
  match xs, ys with
  | x :: xs, y :: ys => do
    if ← Arith.eq x y then sameArgs xs ys else pure false
  | [], [] => pure true
  | _, _ => pure false

/-- Runs a memoized function: the remembered result when the arguments equal the last
call's, otherwise the computation, whose result is then remembered. -/
def memoized (name : String) (args : List Value) (compute : Sim Value) : Sim Value := do
  let s ← get
  match s.memo.find? (·.name == name) with
  | some e =>
    if ← lift (sameArgs e.args args) then return e.result
  | none => pure ()
  let r ← compute
  modify fun s => { s with memo := ⟨name, args, r⟩ :: s.memo.filter (·.name != name) }
  pure r

/-- Runs a memoized function whose computation has effects besides its result: on a call
with the last call's arguments, the remembered result and no effects; otherwise the
computation's result (then remembered) and its effects. -/
def memoizedWith {α : Type} (name : String) (args : List Value) (compute : Sim (Value × α)) :
    Sim (Value × Option α) := do
  let s ← get
  match s.memo.find? (·.name == name) with
  | some e =>
    if ← lift (sameArgs e.args args) then return (e.result, none)
  | none => pure ()
  let (r, a) ← compute
  modify fun s => { s with memo := ⟨name, args, r⟩ :: s.memo.filter (·.name != name) }
  pure (r, some a)

/-- Replaces the remembered result of a memoized function, as a change made in place to
the result it handed out. -/
def updateMemo (name : String) (result : Value) : Sim Unit :=
  modify fun s => { s with memo := s.memo.map fun e =>
    if e.name == name then { e with result := result } else e }

/-- A binary64 number in `[0, 1)` from the session's generator. -/
def uniform : Sim Float := do
  let s ← get
  let (x, r) := s.random.uniform
  set { s with random := r }
  pure x

/-- A binary64 number in `[0, 1)` from the session's array generator, the one behind
whole arrays of draws. -/
def arrayUniform : Sim Float := do
  let s ← get
  let (x, r) := s.arrayRandom.uniform
  set { s with arrayRandom := r }
  pure x

/-- A normal deviate from the session's generator. -/
def gauss (mu sigma : Float) : Sim Float := do
  let s ← get
  let (x, r) := s.random.gauss mu sigma
  set { s with random := r }
  pure x

/-- A random natural number below a positive bound from the session's generator. -/
def below (n : Nat) : Sim Nat := do
  let s ← get
  let (x, r) := s.random.below n
  set { s with random := r }
  pure x

/-- A number no object of the session has had yet, to tell objects apart. -/
def freshObject : Sim Nat := do
  let s ← get
  set { s with objects := s.objects + 1 }
  pure s.objects

/-- Writes a file of the working directory. -/
def writeFile (path text : String) : Sim Unit :=
  modify fun s => { s with files := (path, text) :: s.files.filter (·.1 != path) }

/-- Reads a file of the working directory. -/
def readFile? (path : String) : Sim (Option String) := do
  pure (((← get).files.find? (·.1 == path)).map (·.2))

end Sim

end RocketSim
