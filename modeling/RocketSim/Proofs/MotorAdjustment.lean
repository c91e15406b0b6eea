import Mathlib
import RocketSim.Proofs.DiscardedSteps
import RocketSim.Proofs.RailForce
import RocketSim.Proofs.QuaternionRotations

/-!
# The adjustment factors of a motor

A motor file tabulates a thrust curve: times `t₀ < … < tₙ` and thrust levels `f₀, …, fₙ`.
Loading it with an impulse factor `a` and a burn-time factor `k` adjusts the curve
(`Motor.adjustCurve`): the times are stretched to `k tᵢ` and the levels scaled to `fᵢ a / k`.
The trapezoid rule (`Motor.trapezoid`), which is exact for the linear interpolation of the
levels, then gives `a` times the file's impulse, each interval growing by `k` while the levels
shrink by it (`trapezoid_adjust`); and the adjusted curve ends at `k tₙ`.

The motor's thrust is zero once the time since ignition is past the adjusted curve's last
time (`thrustAt_afterBurnout`).  But the motor also keeps the file's last time `tₙ`, unscaled,
as its raw burnout (`load_fromCurve`), and that is the engine shut-off time a stage records
when it is read (`readStage_recordsRawBurnout`): it is `k tₙ` only when `k = 1`.

**Results.**
* `trapezoid_adjust`, `adjustCurve_eq`: the adjusted curve and its impulse, exactly.
* `load_fromCurve`: a loaded motor is its file's curve adjusted, with the raw last time kept.
* `thrustAt_afterBurnout`: no thrust past the adjusted curve's end.
* `readStage_recordsRawBurnout`: a stage records its motor's raw last time.
* `motorAdjustment_burnoutUnscaled`: the adjusted curve, the thrust past it and the stage's
  record together.
-/

namespace RocketSim
namespace Vehicle
namespace Motor

/-! ## The adjusted curve in exact arithmetic -/

theorem real_div_eq (x : ℝ) {k : ℝ} (hk : k ≠ 0) : Real.div x k = pure (x / k) := by
  simp [Real.div, hk]

/-- Adjusting a curve by factors `a` and `k ≠ 0` stretches the times by `k` and scales the
levels by `a / k`. -/
theorem adjustCurve_eq (a : ℝ) {k : ℝ} (hk : k ≠ 0) (ts fs : List ℝ) :
    adjustCurve a k ts fs = pure (ts.map (· * k), fs.map fun f => f * a / k) := by
  rw [adjustCurve, mapM_eq_pure_map _ (fun f => f * a / k) fs
    fun f _ => real_div_eq _ hk]
  rfl

/-- Reading a mapped list with a zero default reads the list, when the map keeps zero. -/
theorem getD_map_zero (xs : List ℝ) {f : ℝ → ℝ} (hf : f 0 = 0) (i : ℕ) :
    (xs.map f).getD i 0 = f (xs.getD i 0) := by
  simp only [List.getD_eq_getElem?_getD, List.getElem?_map]
  cases xs[i]? <;> simp [hf]

/-- A sum accumulated term by term scales with its terms. -/
theorem foldl_add_scale (l : List ℕ) (f g : ℕ → ℝ) (a : ℝ) (h : ∀ i ∈ l, g i = a * f i) :
    ∀ c c' : ℝ, c' = a * c →
      l.foldl (fun t i => t + g i) c' = a * l.foldl (fun t i => t + f i) c := by
  induction l with
  | nil => intro c c' hc; exact hc
  | cons i l ih =>
    intro c c' hc
    simp only [List.foldl_cons]
    exact ih (fun j hj => h j (List.mem_cons_of_mem i hj)) _ _
      (by rw [hc, h i List.mem_cons_self, mul_add])

/-- **The impulse of an adjusted curve.**  Stretching the times by `k ≠ 0` and scaling the
levels by `a / k` multiplies the trapezoid-rule impulse by `a`. -/
theorem trapezoid_adjust (a : ℝ) {k : ℝ} (hk : k ≠ 0) (ts fs : List ℝ) :
    trapezoid (ts.map (· * k)) (fs.map fun f => f * a / k) = a * trapezoid ts fs := by
  unfold trapezoid
  rw [List.length_map]
  refine foldl_add_scale _ _ _ a (fun i _ => ?_) _ _ (by simp)
  -- each interval grows by `k` and each mean level shrinks by it
  simp only [real_zero_point, real_two_point, getD_map_zero ts (f := (· * k)) (zero_mul k),
    getD_map_zero fs (f := fun f => f * a / k) (by simp)]
  field_simp

/-! ## A loaded motor -/

/-- Whatever the arithmetic, an adjusted curve, when there is one, has its times stretched
by `k`. -/
theorem adjustCurve_times {α : Type} [Scalar α] {a k : α} {ts fs times thrusts : List α}
    (h : adjustCurve a k ts fs = .ok (times, thrusts)) : times = ts.map (· * k) := by
  unfold adjustCurve at h
  cases hm : fs.mapM (fun f => Real.div (f * a) k) with
  | error e => rw [hm] at h; cases h
  | ok v => rw [hm] at h; cases h; rfl

/-- What a motor loaded with impulse factor `a` and burn-time factor `k` keeps of its file's
curve, times `ts` ending at `T` and thrust levels `fs`: the curve adjusted, which ends at
`T * k`, and `T` itself, unscaled, as its raw burnout. -/
def FromCurve (a k : Float) (m : Motor) : Prop :=
  ∃ ts fs : List Float, ∃ T, ts.getLast? = some T ∧ m.rawBurnout = .float T ∧
    m.times.getLast? = some (T * k) ∧ adjustCurve a k ts fs = .ok (m.times, m.thrustLevels)

/-- **A loaded motor.**  The curve a motor runs is its file's curve adjusted, and its raw
burnout is the file's last time. -/
theorem load_fromCurve (text : String) (z : Float) (cls : Value) (a k : Float) :
    SatisfiesM (FromCurve a k) (load text z cls a k) := by
  unfold load
  dsimp only
  -- the centres of gravity and the rows are read first; the rows give the file's curve
  iterate 5 refine SatisfiesM.bind_pre (SatisfiesM.of_true fun _ => ?_)
  split
  · rename_i T hT
    rw [pure_bind]
    refine SatisfiesM.bind (Sim.satisfiesM_lift fun c h => h) fun ⟨times, thrusts⟩ hc => ?_
    -- the propellant masses are integrated from the adjusted times
    iterate 2 refine SatisfiesM.bind_pre (SatisfiesM.of_true fun _ => ?_)
    have hlast : times.getLast? = some (T * k) := by
      rw [adjustCurve_times hc, List.getLast?_map, hT]
      rfl
    exact SatisfiesM.pure ⟨_, _, T, hT, rfl, hlast, hc⟩
  · exact SatisfiesM.bind_pre (Sim.satisfiesM_fail _ _)

/-! ## The thrust past burnout -/

/-- A computation that leaves the session alone gives what it computes. -/
theorem satisfiesM_of_computes {α : Type} {x : Sim α} {p : α → Prop} (hx : Sim.Computes x p) :
    SatisfiesM (fun a => x = pure a ∧ p a) x := by
  obtain ⟨e, he, hp⟩ := hx.self
  rw [he]
  exact Sim.satisfiesM_lift fun a ha => by rw [← he]; exact hp a ha

theorem sim_pure_inj {α : Type} {a b : α} (h : (pure a : Sim α) = pure b) : a = b := by
  have hrun := congrArg (fun x : Sim α => x.run default) h
  simp only [Sim.run_pure, Prod.mk.injEq] at hrun
  exact Except.ok.inj hrun.1

theorem computes_sinceIgnition (m : Motor) (time : Value) :
    Sim.Computes (m.sinceIgnition time) fun _ => True := by
  unfold sinceIgnition
  exact (Sim.computes_lift _).bind fun _ _ => (LaunchRail.computes_lt _ _).bind fun _ _ => by
    split <;> exact (Sim.computes_pure _).mono fun _ _ => trivial

theorem computes_itemAt (xs : List Value) (i : Int) :
    Sim.Computes (Interpolation.itemAt xs i) fun _ => True := by
  unfold Interpolation.itemAt Sim.fail
  dsimp only
  generalize (if i < 0 then i + (xs.length : Int) else i) = j
  split
  · exact (Sim.computes_lift _).mono fun _ _ => trivial
  · split
    · exact (Sim.computes_pure _).mono fun _ _ => trivial
    · exact (Sim.computes_lift _).mono fun _ _ => trivial

/-- The thrust `thrust` at a time is off when the time since ignition is past the last time of
the motor's curve. -/
def ThrustOffAfter (m : Motor) (time thrust : Value) : Prop :=
  ∀ t last, m.sinceIgnition time = pure t →
    Interpolation.itemAt (m.times.map .float) (-1) = pure last →
    Ops.gt t last = pure true → thrust = .int 0

/-- **No thrust after burnout.**  Once the time since ignition is past the last time of the
motor's curve, the thrust is zero. -/
theorem thrustAt_afterBurnout (m : Motor) (time : Value) :
    SatisfiesM (ThrustOffAfter m time) (m.thrustAt time) := by
  unfold thrustAt
  refine SatisfiesM.bind (satisfiesM_of_computes (computes_sinceIgnition m time))
    fun t ⟨ht, _⟩ => ?_
  refine SatisfiesM.bind (satisfiesM_of_computes (computes_itemAt _ _)) fun last ⟨hlast, _⟩ => ?_
  refine SatisfiesM.bind_pre (SatisfiesM.of_true fun before => ?_)
  refine SatisfiesM.bind (satisfiesM_of_computes (LaunchRail.computes_lt last t))
    fun past ⟨hpast, _⟩ => ?_
  split
  · exact SatisfiesM.pure fun _ _ _ _ _ => rfl
  · -- the thrust is interpolated only when the time is not past the last: then nothing is
    -- claimed
    rename_i hon
    refine SatisfiesM.of_true fun thrust t' last' ht' hlast' hgt => ?_
    obtain rfl : t = t' := sim_pure_inj (ht.symm.trans ht')
    obtain rfl : last = last' := sim_pure_inj (hlast.symm.trans hlast')
    have : past = true := sim_pure_inj (hpast.symm.trans hgt)
    simp [this] at hon

/-- A part that is a motor was loaded from a curve, with some adjustment factors. -/
def LoadedPart (part : Part) : Prop :=
  ∀ m, part = .motor m → ∃ a k, FromCurve a k m

end Motor
end Vehicle

namespace Flight

open Vehicle Motor

/-! ## The burnout a stage records -/

theorem satisfiesM_stateT_lift {m : Type → Type} [Monad m] [LawfulMonad m] {σ α : Type}
    {p : α → Prop} {x : m α} (hx : SatisfiesM p x) :
    SatisfiesM p (StateT.lift x : StateT σ m α) := by
  rw [SatisfiesM_StateT_eq]
  exact fun _ => SatisfiesM.bind hx fun _ ha => SatisfiesM.pure ha

theorem Assembling.satisfiesM_sim {α : Type} {p : α → Prop} {x : Sim α}
    (hx : SatisfiesM p x) : SatisfiesM p (Assembling.sim x) :=
  satisfiesM_stateT_lift (satisfiesM_stateT_lift hx)

theorem Assembling.satisfiesM_fail {α : Type} (p : α → Prop) (f : Fault) :
    SatisfiesM p (Assembling.fail f : Assembling α) :=
  Assembling.satisfiesM_sim (Sim.satisfiesM_fail p f)

/-- Every motor among the parts read is one loaded from its file. -/
theorem readPart_loaded (r : Reader) (cls : Value) (stageUid uid : Nat) (pos : Vec3) :
    SatisfiesM (fun res => LoadedPart res.2.2) (readPart r cls stageUid uid pos) := by
  unfold readPart
  refine SatisfiesM.bind_pre (SatisfiesM.of_true fun _ => ?_)
  split
  case h_7 =>
    -- the factors, the path and the file's text are read before the motor is loaded
    iterate 5 refine SatisfiesM.bind_pre (SatisfiesM.of_true fun _ => ?_)
    refine SatisfiesM.bind (Assembling.satisfiesM_sim (load_fromCurve _ _ _ _ _)) fun m hm => ?_
    have loaded : LoadedPart (.motor m) := fun _ h => by cases h; exact ⟨_, _, hm⟩
    refine SatisfiesM.bind_pre (SatisfiesM.of_true fun _ => ?_)
    dsimp only
    split <;>
    · iterate 4 refine SatisfiesM.bind_pre (SatisfiesM.of_true fun _ => ?_)
      exact SatisfiesM.pure loaded
  -- every other branch reads, may fail, and ends in a part that is no motor
  all_goals
    dsimp only
    repeat' first
      | with_reducible exact SatisfiesM.pure fun _ h => nomatch h
      | with_reducible exact Assembling.satisfiesM_fail _ _
      | with_reducible refine SatisfiesM.bind_pre (SatisfiesM.of_true fun _ => ?_)
      | split

theorem readComponent_loaded (path : String) (stageUid : Nat) (pos : Vec3) :
    SatisfiesM (fun c : Component => LoadedPart c.part) (readComponent path stageUid pos) := by
  unfold readComponent
  dsimp only
  refine SatisfiesM.bind_pre (SatisfiesM.of_true fun _ => ?_)
  refine SatisfiesM.bind_pre (SatisfiesM.of_true fun _ => ?_)
  refine SatisfiesM.bind (readPart_loaded _ _ _ _ _) fun ⟨_, _, _⟩ hpart => ?_
  exact SatisfiesM.bind_pre (SatisfiesM.of_true fun _ => SatisfiesM.pure hpart)

/-- What a stage records of its motor: when it has one, the motor is one of its components,
loaded from a curve, and the stage's engine shut-off time is that motor's raw burnout. -/
def RecordsRawBurnout (s : Stage) : Prop :=
  ∀ u, s.motor = some u → ∃ c ∈ s.components, c.uid = u ∧
    ∃ m, c.part = .motor m ∧ (∃ a k, FromCurve a k m) ∧ s.engineShutOff = m.rawBurnout

/-- Sorting out the fixed-mass components keeps the stage's components, motor and shut-off
time. -/
theorem recomputeFixed_records (s : Stage) (hs : RecordsRawBurnout s) :
    SatisfiesM RecordsRawBurnout s.recomputeFixed := by
  unfold Stage.recomputeFixed
  dsimp only
  split
  · exact SatisfiesM.pure hs
  · refine SatisfiesM.bind_pre (SatisfiesM.of_true fun _ => ?_)
    exact SatisfiesM.bind_pre (SatisfiesM.of_true fun _ => SatisfiesM.pure hs)

/-- **A stage records its motor's raw burnout.**  Reading a stage, each motor component read
becomes the stage's motor, and its raw burnout, the last time of its file's curve before
adjustment, the stage's engine shut-off time. -/
theorem readStage_recordsRawBurnout (path : String) :
    SatisfiesM RecordsRawBurnout (readStage path) := by
  unfold readStage
  dsimp only
  iterate 8 refine SatisfiesM.bind_pre (SatisfiesM.of_true fun _ => ?_)
  -- the components are read one by one; the invariant holds of the stage read so far
  refine SatisfiesM.bind (List.satisfiesM_foldlM (motive := RecordsRawBurnout)
    (fun _ h => nomatch h) fun s hs p _ => ?_) fun stage hstage => ?_
  · refine SatisfiesM.bind (readComponent_loaded _ _ _) fun c hc => ?_
    split
    · rename_i m hm
      exact SatisfiesM.pure fun u hu =>
        ⟨c, List.mem_append_right _ (List.mem_singleton_self c), Option.some.inj hu,
          m, hm, hc m hm, rfl⟩
    · exact SatisfiesM.pure fun u hu =>
        have ⟨c', hc', huid, rest⟩ := hs u hu
        ⟨c', List.mem_append_left _ hc', huid, rest⟩
  · iterate 3 refine SatisfiesM.bind_pre (SatisfiesM.of_true fun _ => ?_)
    exact Assembling.satisfiesM_sim (recomputeFixed_records _ hstage)

/-- **A motor's adjustment, and the burnout its stage keeps.**  In exact arithmetic,
adjusting a curve multiplies its impulse by `a` and moves its last time from `T` to `k T`; a
motor's thrust is zero once past its adjusted curve's last time; but a stage records as its
engine shut-off time its motor's raw burnout, the file's last time `T` unscaled. -/
theorem motorAdjustment_burnoutUnscaled (a k : ℝ) :
    (k ≠ 0 → ∀ ts fs : List ℝ, ∃ ts' fs' : List ℝ,
      adjustCurve a k ts fs = pure (ts', fs') ∧ trapezoid ts' fs' = a * trapezoid ts fs ∧
        ts'.getLast? = ts.getLast?.map (· * k)) ∧
    (∀ (m : Motor) (time : Value), SatisfiesM (ThrustOffAfter m time) (m.thrustAt time)) ∧
    ∀ path, SatisfiesM RecordsRawBurnout (readStage path) :=
  ⟨fun hk ts fs => ⟨_, _, adjustCurve_eq a hk ts fs, trapezoid_adjust a hk ts fs,
      List.getLast?_map⟩,
    thrustAt_afterBurnout, readStage_recordsRawBurnout⟩

/-- A curve of constant thrust `10` from `0` to `5`, its impulse tripled and its burn
doubled: the adjusted curve ends at `10`. -/
theorem motorAdjustment_burnoutUnscaled_doubled :
    (2 : ℝ) ≠ 0 ∧ ∃ ts' fs' : List ℝ,
      adjustCurve (3 : ℝ) 2 [0, 5] [10, 10] = pure (ts', fs') ∧
        trapezoid ts' fs' = 3 * trapezoid [0, 5] [10, 10] ∧ ts'.getLast? = some 10 := by
  obtain ⟨ts', fs', h, himp, hlast⟩ :=
    (motorAdjustment_burnoutUnscaled 3 2).1 two_ne_zero [0, 5] [10, 10]
  refine ⟨two_ne_zero, ts', fs', h, himp, ?_⟩
  rw [hlast]
  norm_num

end Flight
end RocketSim
