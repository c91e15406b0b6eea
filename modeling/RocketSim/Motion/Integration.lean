import RocketSim.Control.Pid

/-!
# Time integration

Explicit Runge-Kutta integration of `y' = f(t, y)` for any state the value algebra adds
and scales: numbers, vectors, rigid-body states, lists of state variables.

A method is a Butcher tableau, written as rows: each stage row holds its time fraction `c`
followed by its weights `a`; the last row (two rows for an embedded adaptive pair, the
more accurate first) holds the weights `b` of the result.  A consistent tableau has each
`c` equal to the sum of its row's `a` (up to a relative tolerance) and each `b` row summing
to one; once checked, every zero entry is replaced by `1e-16`, because the stages are
combined by dividing by the reciprocal of each weight, which keeps a state derivative a
derivative until it is multiplied by the time step.

A fixed-step integrator takes one step of the given size.  An adaptive one tries three
times the suggested step first, divides it by three while the error estimate exceeds
twenty times the target (never going below the minimum step), and proposes the next step
through its step-size controller: the elementary controller `√(target / 2·error)`, a PID
controller on the relative error, or a constant factor of one.  The proposal is limited by
the minimum and maximum factors and step sizes and multiplied by a safety factor.

The derivative function receives the time and the state and returns the derivative and the
state as it leaves it; adding a rotation to a rigid-body state normalizes the state's
orientation in place, so the state passed from stage to stage is threaded through.
-/

namespace RocketSim

/-- A derivative function evaluated in a monad `m` (which may carry the state of the
system the derivative belongs to): from the time and the state, the derivative and the state
as the evaluation leaves it. -/
abbrev DerivativeIn (m : Type → Type) := Value → Value → m (Value × Value)

/-- A derivative function evaluated in the simulation monad. -/
abbrev Derivative := DerivativeIn Sim

/-- A Butcher tableau, by rows; integer entries stay integers. -/
abbrev Tableau := List (List Value)

/-- The numbers a Butcher tableau is written with: integers, and ratios of integers (a
decimal such as `0.5` is written as the ratio it denotes). -/
structure Coefficients (α : Type) where
  int : Int → α
  ratio : Int → Nat → α

/-- The operations a Runge-Kutta step is written in, over numbers and states `α` in a
monad `m`. -/
structure StepOps (m : Type → Type) (α : Type) where
  add : α → α → m α
  addIn : α → α → m α
  mul : α → α → m α
  div : α → α → m α
  neg : α → m α
  abs : α → m α
  /-- A state plus an increment, and the state as the addition leaves it. -/
  advance : α → α → m (α × α)
  one : α
  /-- The fault of a tableau entry that is not there. -/
  missing : {β : Type} → m β

/-- The operations the step-size search of an adaptive step is written in, over numbers
`α` in a monad `m`. -/
structure SearchOps (m : Type → Type) (α : Type) where
  int : Int → α
  mul : α → α → m α
  div : α → α → m α
  /-- `max(a, b)`: `a` unless `b` is greater. -/
  max : α → α → m α
  gt : α → α → m Bool
  eq : α → α → m Bool
  /-- Whether two numbers agree up to the relative tolerance `1e-9`. -/
  isClose : α → α → m Bool
  /-- The fault of reading the results of a loop that never ran. -/
  unbound : m Unit

/-- The limits of an adaptive integrator's step: the safety factor, the least and greatest
factor by which one step may change the next, and the least and greatest step. -/
structure StepLimits (α : Type) where
  safety : α
  minFactor : α
  maxFactor : α
  minStep : α
  maxStep : α

/-- The operations the step limiter is written in, over numbers `α` in a monad `m`. -/
structure LimitOps (m : Type → Type) (α : Type) where
  mul : α → α → m α
  div : α → α → m α
  /-- `max(a, b)`: `a` unless `b` is greater. -/
  max : α → α → m α
  /-- `min(a, b)`: `a` unless `b` is less. -/
  min : α → α → m α

namespace StepLimits

variable {m : Type → Type} [Monad m] {α : Type} (S : LimitOps m α)

/-- The factor for the next step: the proposed factor, kept between the factor limits and
the factors that keep the step between its bounds (whichever limit is the tighter), then
multiplied by the safety factor. -/
def limit (L : StepLimits α) (desired dt : α) : m α := do
  let minF2 ← S.div L.minStep dt
  let maxF2 ← S.div L.maxStep dt
  let minF ← S.max minF2 L.minFactor
  let maxF ← S.min maxF2 L.maxFactor
  S.mul L.safety (← S.min (← S.max desired minF) maxF)

end StepLimits

namespace Butcher

section Tableaus

variable {α : Type} (n : Coefficients α)

/-- The midpoint method. -/
def midpoint : List (List α) := [[n.ratio 1 2, n.ratio 1 2], [n.int 0, n.int 1]]

/-- Heun's method. -/
def heun : List (List α) := [[n.int 1, n.int 1], [n.ratio 1 2, n.ratio 1 2]]

/-- The classical fourth-order method. -/
def rk4 : List (List α) :=
  [[n.ratio 1 2, n.ratio 1 2], [n.ratio 1 2, n.int 0, n.ratio 1 2], [n.int 1, n.int 0, n.int 0, n.int 1],
   [n.ratio 1 6, n.ratio 1 3, n.ratio 1 3, n.ratio 1 6]]

/-- The fourth-order 3/8 rule. -/
def rk4ThreeEighths : List (List α) :=
  [[n.ratio 1 3, n.ratio 1 3], [n.ratio 2 3, n.ratio (-1) 3, n.ratio 1 1],
   [n.ratio 1 1, n.ratio 1 1, n.ratio (-1) 1, n.ratio 1 1],
   [n.ratio 1 8, n.ratio 3 8, n.ratio 3 8, n.ratio 1 8]]

/-- An embedded first/second-order pair (for testing). -/
def rk12 : List (List α) :=
  [[n.ratio 1 2, n.ratio 1 2], [n.ratio 0 1, n.ratio 1 1], [n.ratio 1 1, n.ratio 0 1]]

/-- The Bogacki-Shampine third/second-order pair. -/
def rk23 : List (List α) :=
  [[n.ratio 1 2, n.ratio 1 2], [n.ratio 3 4, n.ratio 0 1, n.ratio 3 4],
   [n.ratio 1 1, n.ratio 2 9, n.ratio 1 3, n.ratio 4 9],
   [n.ratio 2 9, n.ratio 1 3, n.ratio 4 9, n.ratio 0 1],
   [n.ratio 7 24, n.ratio 1 4, n.ratio 1 3, n.ratio 1 8]]

/-- The Dormand-Prince fifth/fourth-order pair. -/
def rk45 : List (List α) :=
  [[n.ratio 1 5, n.ratio 1 5], [n.ratio 3 10, n.ratio 3 40, n.ratio 9 40],
   [n.ratio 4 5, n.ratio 44 45, n.ratio (-56) 15, n.ratio 32 9],
   [n.ratio 8 9, n.ratio 19372 6561, n.ratio (-25360) 2187, n.ratio 64448 6561, n.ratio (-212) 729],
   [n.ratio 1 1, n.ratio 9017 3168, n.ratio (-355) 33, n.ratio 46732 5247, n.ratio 49 176,
    n.ratio (-5103) 18656],
   [n.ratio 1 1, n.ratio 35 384, n.ratio 0 1, n.ratio 500 1113, n.ratio 125 192,
    n.ratio (-2187) 6784, n.ratio 11 84],
   [n.ratio 35 384, n.ratio 0 1, n.ratio 500 1113, n.ratio 125 192, n.ratio (-2187) 6784,
    n.ratio 11 84, n.ratio 0 1],
   [n.ratio 5179 57600, n.ratio 0 1, n.ratio 7571 16695, n.ratio 393 640, n.ratio (-92097) 339200,
    n.ratio 187 2100, n.ratio 1 40]]

/-- The Dormand-Prince eighth/seventh-order pair, in rational approximation. -/
def rk78 : List (List α) :=
  [[n.ratio 1 18, n.ratio 1 18],
   [n.ratio 1 12, n.ratio 1 48, n.ratio 1 16],
   [n.ratio 1 8, n.ratio 1 32, n.int 0, n.ratio 3 32],
   [n.ratio 5 16, n.ratio 5 16, n.int 0, n.ratio (-75) 64, n.ratio 75 64],
   [n.ratio 3 8, n.ratio 3 80, n.int 0, n.int 0, n.ratio 3 16, n.ratio 3 20],
   [n.ratio 59 400, n.ratio 29443841 614563906, n.int 0, n.int 0, n.ratio 77736538 692538347,
    n.ratio (-28693883) 1125000000, n.ratio 23124283 1800000000],
   [n.ratio 93 200, n.ratio 16016141 946692911, n.int 0, n.int 0, n.ratio 61564180 158732637,
    n.ratio 22789713 633445777, n.ratio 545815736 2771057229, n.ratio (-180193667) 1043307555],
   [n.ratio 5490023248 9719169821, n.ratio 39632708 573591083, n.int 0, n.int 0,
    n.ratio (-433636366) 683701615, n.ratio (-421739975) 2616292301, n.ratio 100302831 723423059,
    n.ratio 790204164 839813087, n.ratio 800635310 3783071287],
   [n.ratio 13 20, n.ratio 246121993 1340847787, n.int 0, n.int 0,
    n.ratio (-37695042795) 15268766246, n.ratio (-309121744) 1061227803,
    n.ratio (-12992083) 490766935, n.ratio 6005943493 2108947869, n.ratio 393006217 1396673457,
    n.ratio 123872331 1001029789],
   [n.ratio 1201146811 1299019798, n.ratio (-1028468189) 846180014, n.int 0, n.int 0,
    n.ratio 8478235783 508512852, n.ratio 1311729495 1432422823, n.ratio (-10304129995) 1701304382,
    n.ratio (-48777925059) 3047939560, n.ratio 15336726248 1032824649,
    n.ratio (-45442868181) 3398467696, n.ratio 3065993473 597172653],
   [n.int 1, n.ratio 185892177 718116043, n.int 0, n.int 0, n.ratio (-3185094517) 667107341,
    n.ratio (-477755414) 1098053517, n.ratio (-703635378) 230739211, n.ratio 5731566787 1027545527,
    n.ratio 5232866602 850066563, n.ratio (-4093664535) 808688257, n.ratio 3962137247 1805957418,
    n.ratio 65686358 487910083],
   [n.int 1, n.ratio 403863854 491063109, n.int 0, n.int 0, n.ratio (-5068492393) 434740067,
    n.ratio (-411421997) 543043805, n.ratio 652783627 914296604, n.ratio 11173962825 925320556,
    n.ratio (-13158990841) 6184727034, n.ratio 3936647629 1978049680,
    n.ratio (-160528059) 685178525, n.ratio 248638103 1413531060, n.int 0],
   [n.ratio 14005451 335480064, n.int 0, n.int 0, n.int 0, n.int 0, n.ratio (-59238493) 1068277825,
    n.ratio 181606767 758867731, n.ratio 561292985 797845732, n.ratio (-1041891430) 1371343529,
    n.ratio 760417239 1151165299, n.ratio 118820643 751138087, n.ratio (-528747749) 2220607170,
    n.ratio 1 4],
   [n.ratio 13451932 455176623, n.int 0, n.int 0, n.int 0, n.int 0, n.ratio (-808719846) 976000145,
    n.ratio 1757004468 5645159321, n.ratio 656045339 265891186, n.ratio (-3867574721) 1518517206,
    n.ratio 465885868 322736535, n.ratio 53011238 667516719, n.ratio 2 45, n.int 0]]

/-- The tableau of a fixed-step method by name (Euler's method has none). -/
def ofFixedMethod : String → Option (List (List α))
  | "RK2Midpoint" => some (midpoint n)
  | "RK2Heun" => some (heun n)
  | "RK4" => some (rk4 n)
  | "RK4_3/8" => some (rk4ThreeEighths n)
  | _ => none

/-- The tableau of an adaptive method by name, and whether its last stage is taken where the
next step starts, so that its derivative can be reused as the next step's first
(first same as last). -/
def ofAdaptiveMethod : String → Option (List (List α) × Bool)
  | "RK12Adaptive" => some (rk12 n, false)
  | "RK23Adaptive" => some (rk23 n, true)
  | "RK45Adaptive" => some (rk45 n, true)
  | "RK78Adaptive" => some (rk78 n, false)
  | _ => none

end Tableaus

section Steps

variable {m : Type → Type} [Monad m] {α : Type} [Inhabited α] (A : StepOps m α)

/-- Replaces every entry of a tableau that is zero by `tiny`. -/
def replaceZeros (isZero : α → m Bool) (tiny : α) (t : List (List α)) : m (List (List α)) :=
  t.mapM fun row => row.mapM fun x => do if ← isZero x then pure tiny else pure x

/-- The entry of a row, or the missing-entry fault. -/
def entry (row : List α) (i : Nat) : m α :=
  match row[i]? with
  | some x => pure x
  | none => A.missing

/-- The row of a tableau, counting from the end when negative. -/
def row (t : List (List α)) (i : Int) : m (List α) :=
  let j := if i < 0 then i + t.length else i
  if j < 0 then A.missing
  else match t[j.toNat]? with
    | some r => pure r
    | none => A.missing

/-- `x / (1 / w)`: a weight applied by dividing by its reciprocal. -/
def weighted (x w : α) : m α := do
  A.div x (← A.div A.one w)

/-- One stage of a fixed-step tableau: the stage row `[c, a₁, …, aᵢ]` gives the derivative
at `t + c·dt` and `y + Σ kⱼ / (1 / (aⱼ·dt))`, appended to the derivatives so far. -/
def fixedStage (t dt : α) (f : α → α → m (α × α)) (acc : List α × α) (row : List α) :
    m (List α × α) := do
  let (ks, y) := acc
  let c ← entry A row 0
  let evalTime ← A.add t (← A.mul dt c)
  let a1 ← entry A row 1
  let first ← A.div (ks.headD default) (← A.div A.one (← A.mul a1 dt))
  let evalK ← (List.range' 2 (row.length - 2)).foldlM (fun evalK a => do
    let w ← entry A row a
    let k ← entry A ks (a - 1)
    A.add evalK (← A.div k (← A.div A.one (← A.mul w dt)))) first
  let (evalY, y) ← A.advance y (← A.mul evalK A.one)
  let (k, _) ← f evalTime evalY
  pure (ks ++ [k], y)

/-- One step of a fixed-step tableau from `y` at `t`: every row but the last is a stage, the
last row holds the weights `b`; returns the new state and the derivative estimate
`Σ kᵢ / (1 / bᵢ)`. -/
def fixedStep (tab : List (List α)) (y t : α) (f : α → α → m (α × α)) (dt : α) :
    m (α × α) := do
  let (k0, y) ← f t y
  let (ks, y) ← tab.dropLast.foldlM (fixedStage A t dt f) ([k0], y)
  let last ← row A tab (-1)
  let b0 ← entry A last 0
  let d0 ← weighted A k0 b0
  let derivative ← (List.range' 1 (last.length - 1)).foldlM (fun d i => do
    let bi ← entry A last i
    let ki ← entry A ks i
    A.add d (← weighted A ki bi)) d0
  let (r, _) ← A.advance y (← A.mul derivative dt)
  pure (r, derivative)

/-- One stage of an embedded pair: the stage row `[c, a₁, …, aᵢ]` gives the derivative at
`t + c·dt` and `y + (Σ kⱼ·aⱼ)·dt`, appended to the derivatives so far. -/
def embeddedStage (t dt : α) (f : α → α → m (α × α)) (acc : List α × α) (row : List α) :
    m (List α × α) := do
  let (ks, y) := acc
  let c ← entry A row 0
  let evalTime ← A.add t (← A.mul dt c)
  let a1 ← entry A row 1
  let first ← A.mul (ks.headD default) a1
  let evalK ← (List.range' 2 (row.length - 2)).foldlM (fun evalK a => do
    let w ← entry A row a
    let k ← entry A ks (a - 1)
    A.addIn evalK (← A.mul k w)) first
  let (evalY, y) ← A.advance y (← A.mul evalK dt)
  let (k, _) ← f evalTime evalY
  pure (ks ++ [k], y)

/-- An attempt at a step of an embedded pair from `y` at `t` once its first derivative `k0`
is known: every row but the last two is a stage, and the last two hold the weights of the
more and the less accurate result.  Returns the more accurate prediction, its derivative
estimate, the error magnitude (the difference of the two predictions), the last stage's
derivative, and the state as the attempt leaves it. -/
def embeddedFrom (tab : List (List α)) (y t : α) (f : α → α → m (α × α)) (dt k0 : α) :
    m (α × α × α × α × α) := do
  let (ks, y) ← (tab.take (tab.length - 2)).foldlM (embeddedStage A t dt f) ([k0], y)
  let lastEval := ks.getLastD k0
  let fineRow ← row A tab (-2)
  let coarseRow ← row A tab (-1)
  let fine0 ← weighted A k0 (← entry A fineRow 0)
  let coarse0 ← weighted A k0 (← entry A coarseRow 0)
  let (fine, coarse) ← (List.range' 1 (coarseRow.length - 1)).foldlM (fun (acc : α × α) i => do
    let ki ← entry A ks i
    let fine ← A.addIn acc.1 (← weighted A ki (← entry A fineRow i))
    let coarse ← A.addIn acc.2 (← weighted A ki (← entry A coarseRow i))
    pure (fine, coarse)) (fine0, coarse0)
  let (finePred, y) ← A.advance y (← A.mul fine dt)
  let (coarsePred, y) ← A.advance y (← A.mul coarse dt)
  let err ← A.add (← A.neg coarsePred) finePred
  let errMag ← A.abs err
  pure (finePred, fine, errMag, lastEval, y)

/-- One attempt at a step of an embedded pair, its first derivative taken from `cached` when
given and evaluated at the start otherwise. -/
def embeddedAttempt (tab : List (List α)) (y t : α) (f : α → α → m (α × α)) (dt : α)
    (cached : Option α) : m (α × α × α × α × α) := do
  let (k0, y) ← match cached with
    | some k => pure (k, y)
    | none => f t y
  embeddedFrom A tab y t f dt k0

end Steps

end Butcher

namespace StepSearch

variable {m : Type → Type} [Monad m] {α : Type} (S : SearchOps m α)

/-- The rounds of the step-size search.  A round after the first (one whose previous error
is not the sentinel) announces that the step before is discarded; then it tries a third of
the previous step, never less than `minStep`.  The search ends at the floor, or once the
error is within `limit`, or when no round is left; it returns the attempt's prediction,
derivative estimate, error and last stage derivative, and the step it tried. -/
def loop (attempt : α → α → m (α × α × α × α × α)) (onDiscard : m Unit)
    (minStep limit sentinel : α) : Nat → α → α → α → m (α × α × α × α × α)
  | rounds, lastErr, dt, y => do
    if !(← S.eq lastErr sentinel) then onDiscard
    let dt ← S.max minStep (← S.div dt (S.int 3))
    let (r, d, e, last, y) ← attempt y dt
    if ← S.isClose dt minStep then return (r, d, e, last, dt)
    if ← S.gt e limit then
      match rounds with
      | 0 => return (r, d, e, last, dt)
      | rounds + 1 => loop attempt onDiscard minStep limit sentinel rounds e dt y
    else return (r, d, e, last, dt)

/-- The step-size search of an adaptive step from the state `y`, starting from the
suggested step `dt`: a `while` loop entered with the error `10000000` standing in for the
first round's, so that its first round tries `dt` itself (three times `dt`, divided by three).
When that sentinel does not exceed the error limit `20·targetError` the loop never runs, and
reading its results fails.  `rounds` bounds the rounds after the first. -/
def search (attempt : α → α → m (α × α × α × α × α)) (onDiscard : m Unit)
    (targetError minStep dt y : α) (rounds : Nat) : m (α × α × α × α × α) := do
  let limit ← S.mul (S.int 20) targetError
  let start ← S.mul dt (S.int 3)
  let sentinel := S.int 10000000
  if !(← S.gt sentinel limit) then S.unbound
  loop S attempt onDiscard minStep limit sentinel rounds sentinel start y

end StepSearch

namespace Tableau

/-- The sum of numbers, starting from the integer zero. -/
def sum (xs : List Value) : Sim Value := xs.foldlM Ops.add (.int 0)

/-- Tableau entries as values: integers, and binary64 ratios correctly rounded. -/
def numbers : Coefficients Value :=
  { int := .int, ratio := fun p q => .float (Float.ofInt p / Float.ofNat q) }

/-- The value arithmetic, lifted into a monad that can run simulation steps. -/
def ops {m : Type → Type} [Monad m] [MonadLiftT Sim m] : StepOps m Value where
  add a b := liftM (Ops.add a b)
  addIn a b := liftM (Ops.iadd a b)
  mul a b := liftM (Ops.mul a b)
  div a b := liftM (Ops.div a b)
  neg a := liftM (Ops.neg a)
  abs a := liftM (Ops.abs a)
  advance a b := liftM (Ops.binaryMut .add a b)
  one := .int 1
  missing := liftM (Sim.fail Fault.badIndex)

/-- Checks that a tableau is consistent and replaces its zero entries by `1e-16`. -/
def check (t : Tableau) : Sim Tableau := do
  let _ ← t.zipIdx.foldlM (fun (lastLength : Nat) (row, i) => do
    if row.length == lastLength then
      let s ← sum row
      if !Real.isClose (← Ops.real s) 1.0 then
        Sim.fail (Fault.raise .assertionError ("Sum of 'b' coefficients (" ++ (← Sim.lift (Show.str s)) ++
          ") of butcher tableau row " ++ toString i ++ " don't = 1"))
    else
      let c ← match row with
        | c :: _ => pure c
        | [] => Sim.fail Fault.badIndex
      let s ← sum row.tail
      if !Real.isClose (← Ops.real c) (← Ops.real s) then
        Sim.fail (Fault.raise .assertionError ("Sum of 'a' coefficients (" ++ (← Sim.lift (Show.str s)) ++
          ") of butcher tableau row " ++ toString i ++ " don't = 'c' coefficient from the same row " ++
          (← Sim.lift (Show.str c))))
    pure row.length) 0
  Butcher.replaceZeros (fun x => Ops.eq x (.int 0)) (.float 1e-16) t

end Tableau

/-- The result of one integration step: the new state, the step actually taken, the
derivative estimate over the step, the suggested factor for the next step and the error
estimate. -/
def stepResult (newValue dt derivative : Value) (factor : Value := .float 1.0)
    (error : Value := .float 0.0) : Value :=
  .integration newValue dt derivative factor error

/-- A fixed-step integrator: Euler's method, or an explicit Runge-Kutta tableau. -/
structure ClassicalIntegrator where
  method : String
  tableau : Option Tableau
  deriving Inhabited

namespace ClassicalIntegrator

/-- The integrator of a named method. -/
def make (method : String) : Sim ClassicalIntegrator := do
  if method == "Euler" then return { method := method, tableau := none }
  match Butcher.ofFixedMethod Tableau.numbers method with
  | some t => pure { method := method, tableau := some (← Tableau.check t) }
  | none => Sim.fail (Fault.raise .valueError ("Integration method: " ++ method ++
      " not implemented. See SimDefinitionTemplate.txt for options."))

/-- One step of size `dt` from `y` at time `t`. -/
def step {m : Type → Type} [Monad m] [MonadLiftT Sim m] (I : ClassicalIntegrator)
    (y t : Value) (f : DerivativeIn m) (dt : Value) : m Value := do
  match I.tableau with
  | none => do
    let (k, y) ← f t y
    let (r, _) ← Ops.binaryMut .add y (← Ops.mul k dt)
    pure (stepResult r dt k)
  | some tab => do
    let (r, derivative) ← Butcher.fixedStep Tableau.ops tab y t f dt
    pure (stepResult r dt derivative)

end ClassicalIntegrator

/-- How an adaptive integrator proposes the next step size. -/
inductive StepController where
  | elementary
  /-- One plus the output of a PID controller on the relative error. -/
  | pid (c : Pid)
  /-- Always one. -/
  | constant
  deriving Inhabited

/-- An adaptive integrator: an embedded Runge-Kutta pair with error control. -/
structure AdaptiveIntegrator where
  method : String
  tableau : Tableau
  firstSameAsLast : Bool
  derivativeCache : Option Value
  maxFactor : Value
  minFactor : Value
  safetyFactor : Value
  targetError : Value
  maxTimeStep : Value
  minTimeStep : Value
  controller : StepController
  deriving Inhabited

namespace AdaptiveIntegrator

/-- The integrator of a named method, with its controller, target error, factor limits
`[max, min, safety]`, PID gains (for the PID controller) and step limits. -/
def make (method : String) (controller : String) (targetError : Value) (factors : List Value)
    (pidGains : Value) (maxTimeStep minTimeStep : Value) : Sim AdaptiveIntegrator := do
  let (t, fsal) ← match Butcher.ofAdaptiveMethod Tableau.numbers method with
    | some p => pure p
    | none => Sim.fail (Fault.raise .valueError ("Integration method: " ++ method ++
        " not implemented. See SimDefinitionTemplate.txt for options."))
  let t ← Tableau.check t
  let (maxF, minF, safety) ← match factors with
    | [a, b, c] => pure (a, b, c)
    | _ => Sim.fail Fault.badValue
  let base : AdaptiveIntegrator :=
    { method := method, tableau := t, firstSameAsLast := fsal, derivativeCache := none,
      maxFactor := maxF, minFactor := minF, safetyFactor := safety, targetError := targetError,
      maxTimeStep := maxTimeStep, minTimeStep := minTimeStep, controller := .constant }
  match controller with
  | "elementary" => pure { base with controller := .elementary }
  | "PID" => do
    let gains ← match pidGains.items? with
      | some [p, i, d] => pure (p, i, d)
      | some _ => Sim.fail Fault.typeMismatch
      | none => Sim.fail Fault.typeMismatch
    let c ← Pid.make gains.1 gains.2.1 gains.2.2 (.int 0) (some (.int 1))
    pure { base with controller := .pid c, safetyFactor := .int 1 }
  | "Constant" => pure base
  | _ => Sim.fail (Fault.raise .valueError
      "Adaptive Integrator requires non-constant step size controller such as 'PID' or 'elementary'")

/-- One attempt at a step of size `dt`: the more accurate prediction, its derivative
estimate, the error magnitude (the difference of the two predictions), the last stage's
derivative, and the state as the attempt leaves it. -/
def attempt {m : Type → Type} [Monad m] [MonadLiftT Sim m] (I : AdaptiveIntegrator)
    (y t : Value) (f : DerivativeIn m) (dt : Value) (cached : Option Value) :
    m (Value × Value × Value × Value × Value) :=
  Butcher.embeddedAttempt Tableau.ops I.tableau y t f dt cached

/-- The factor the controller proposes for the next step. -/
def proposeFactor (I : AdaptiveIntegrator) (errMag dt : Value) : Sim (Value × AdaptiveIntegrator) := do
  match I.controller with
  | .elementary =>
    let r ← Ops.pow (← Ops.div I.targetError (← Ops.mul (.int 2) errMag)) (.float 0.5)
    pure (r, I)
  | .pid c =>
    let e ← Ops.div (← Ops.sub errMag I.targetError) I.targetError
    let e ← Ops.min (.int 1) e
    let (out, c) ← c.step e dt
    pure (← Ops.add (.int 1) out, { I with controller := .pid c })
  | .constant => pure (.int 1, I)

/-- The limits of the integrator's steps. -/
def limits (I : AdaptiveIntegrator) : StepLimits Value :=
  { safety := I.safetyFactor, minFactor := I.minFactor, maxFactor := I.maxFactor,
    minStep := I.minTimeStep, maxStep := I.maxTimeStep }

/-- The value arithmetic of the step limiter. -/
def limitOps : LimitOps Sim Value where
  mul := Ops.mul
  div := Ops.div
  max := Ops.max
  min := Ops.min

/-- The proposed factor within the factor limits and the step-size limits, times the
safety factor. -/
def limitFactor (I : AdaptiveIntegrator) (desired dt : Value) : Sim Value :=
  I.limits.limit limitOps desired dt

/-- The value arithmetic of the step-size search, lifted into a monad that can run
simulation steps. -/
def searchOps {m : Type → Type} [Monad m] [MonadLiftT Sim m] : SearchOps m Value where
  int n := .int n
  mul a b := liftM (Ops.mul a b)
  div a b := liftM (Ops.div a b)
  max a b := liftM (Ops.max a b)
  gt a b := liftM (Ops.gt a b)
  eq a b := liftM (Ops.eq a b)
  isClose a b := do
    let x ← liftM (Ops.real a)
    let y ← liftM (Ops.real b)
    pure (Real.isClose x y)
  unbound := liftM (Sim.fail (Fault.bare .unboundLocalError) : Sim Unit)

/-- One adaptive step from `y` at time `t`, starting from the suggested step `dt`.
`onDiscard` runs each time a computed step is thrown away for a smaller one.  Returns the
step's result and the integrator with its cached derivative and controller updated.

The search gets 2000 rounds after its first: a binary64 step divided by three reaches any
positive floor in fewer than 1400. -/
def step {m : Type → Type} [Monad m] [MonadLiftT Sim m] (I : AdaptiveIntegrator)
    (y t : Value) (f : DerivativeIn m) (dt : Value) (onDiscard : m Unit := pure ()) :
    m (Value × AdaptiveIntegrator) := do
  let (r, d, e, last, dt) ← StepSearch.search searchOps
    (fun y dt => I.attempt y t f dt I.derivativeCache) onDiscard I.targetError I.minTimeStep dt y
    2000
  let I := if I.firstSameAsLast then { I with derivativeCache := some last } else I
  let (desired, I) ← I.proposeFactor e dt
  let factor ← I.limitFactor desired dt
  pure (stepResult r dt d factor e, I)

end AdaptiveIntegrator

/-- An integrator of either kind. -/
inductive Integrator where
  | classical (i : ClassicalIntegrator)
  | adaptive (i : AdaptiveIntegrator)
  deriving Inhabited

namespace Integrator

/-- The method name. -/
def method : Integrator → String
  | .classical i => i.method
  | .adaptive i => i.method

/-- One step; returns the step's result and the integrator as the step leaves it. -/
def step {m : Type → Type} [Monad m] [MonadLiftT Sim m] (I : Integrator) (y t : Value)
    (f : DerivativeIn m) (dt : Value) (onDiscard : m Unit := pure ()) :
    m (Value × Integrator) := do
  match I with
  | .classical c => pure (← c.step y t f dt, I)
  | .adaptive a => do
    let (r, a) ← a.step y t f dt onDiscard
    pure (r, .adaptive a)

end Integrator

end RocketSim
