import Mathlib
import RocketSim.Proofs.StandardAtmosphere
import RocketSim.Tables.Interpolation

/-!
# Linear interpolation in exact arithmetic

Linear interpolation in a table of keys `X` and values `Y` first counts, by bisection, the
keys not greater than the requested key `x`.  In a sorted table that count `r` splits the
keys at `x` (`Splits`): the keys before it are at most `x`, the keys from it on exceed `x`.
Past the top end (`r` the whole table) the last value is the answer, below the bottom end
(`r = 0`) the first one; otherwise `x` lies in `[X[r-1], X[r])`, an interval of positive
length, and the two values at its ends are combined.  The weights of the same point name the
two values and their shares, the last value by the index `-1`.

Over the reals, with a division by zero a fault as in the simulator, the two agree and
interpolate correctly: every answer is a value without a fault, the weighted sum of the two
values the weights name is the interpolated value, the weights lie in `[0, 1]` and add up to
one, a key that occurs once gives its own value, and between two keys the answer lies
between their values.

**Results.**
* `bisect_splits`: bisection finds the index that splits a sorted table.
* `linear_of_splits_between`, `weights_of_splits_between`: the interpolation and the weights
  inside the table; `linear_of_length_le`, `linear_of_zero` and their weight twins at the
  ends.
* `linearInterpolation_exact`: the whole contract.
-/

open Set

namespace RocketSim
namespace Interpolation

/-! ## Exact arithmetic -/

/-- Real arithmetic for interpolation: a division by zero is a fault, as in the simulator, and
items are read as sequences index them. -/
noncomputable def exactOps : LinearOps Outcome ℝ where
  lt a b := pure (decide (a < b))
  add a b := pure (a + b)
  sub a b := pure (a - b)
  mul a b := pure (a * b)
  div a b := if b = 0 then throw Fault.zeroDivision else pure (a / b)
  item := Atmosphere.itemAt
  int n := n

@[simp] theorem exactOps_lt (a b : ℝ) : exactOps.lt a b = pure (decide (a < b)) := rfl
@[simp] theorem exactOps_add (a b : ℝ) : exactOps.add a b = pure (a + b) := rfl
@[simp] theorem exactOps_sub (a b : ℝ) : exactOps.sub a b = pure (a - b) := rfl
@[simp] theorem exactOps_mul (a b : ℝ) : exactOps.mul a b = pure (a * b) := rfl
@[simp] theorem exactOps_item (xs : List ℝ) (i : ℤ) : exactOps.item xs i = Atmosphere.itemAt xs i :=
  rfl
@[simp] theorem exactOps_int (n : ℤ) : exactOps.int n = n := rfl

theorem exactOps_div_of_ne {a b : ℝ} (h : b ≠ 0) : exactOps.div a b = pure (a / b) := if_neg h

/-! ## Bisection -/

/-- The index `r` splits the keys at `x`: the keys before it are at most `x`, the keys from it
on exceed `x`. -/
structure Splits (keys : List ℝ) (x : ℝ) (r : ℕ) : Prop where
  le_length : r ≤ keys.length
  le_of_lt : ∀ k (hk : k < keys.length), k < r → keys[k] ≤ x
  lt_of_le : ∀ k (hk : k < keys.length), r ≤ k → x < keys[k]

variable {keys : List ℝ} {x : ℝ} {r : ℕ}

namespace Splits

/-- A table splits at one index only. -/
theorem unique {r' : ℕ} (h : Splits keys x r) (h' : Splits keys x r') : r = r' := by
  by_contra hne
  rcases Nat.lt_or_gt_of_ne hne with hlt | hlt
  · have hk : r < keys.length := hlt.trans_le h'.le_length
    exact (h.lt_of_le r hk le_rfl).not_ge (h'.le_of_lt r hk hlt)
  · have hk : r' < keys.length := hlt.trans_le h.le_length
    exact (h'.lt_of_le r' hk le_rfl).not_ge (h.le_of_lt r' hk hlt)

/-- Inside the table, the key before the split is below the key at it. -/
theorem gap_pos (h : Splits keys x r) (h0 : 0 < r) (hr : r < keys.length) :
    keys[r - 1] < keys[r] :=
  (h.le_of_lt (r - 1) (by omega) (by omega)).trans_lt (h.lt_of_le r hr le_rfl)

end Splits

/-- Below the first key, a sorted table splits at its start. -/
theorem splits_zero (hs : keys.SortedLE) (hne : 0 < keys.length) (hx : x < keys[0]) :
    Splits keys x 0 :=
  ⟨Nat.zero_le _, fun _ _ h => absurd h (Nat.not_lt_zero _),
    fun k _ _ => hx.trans_le (hs.getElem_le_getElem_of_le (Nat.zero_le k))⟩

/-- From the last key on, a sorted table splits at its end. -/
theorem splits_length (hs : keys.SortedLE) (hne : 0 < keys.length)
    (hx : keys[keys.length - 1] ≤ x) : Splits keys x keys.length :=
  ⟨le_rfl, fun k _ _ => (hs.getElem_le_getElem_of_le (by omega)).trans hx,
    fun _ hk h => absurd hk (not_lt.2 h)⟩

/-- Between two neighbouring keys, a sorted table splits after the lower one. -/
theorem splits_succ (hs : keys.SortedLE) {i : ℕ} (hi : i + 1 < keys.length)
    (hlo : keys[i] ≤ x) (hhi : x < keys[i + 1]) : Splits keys x (i + 1) :=
  ⟨hi.le, fun k _ hk => (hs.getElem_le_getElem_of_le (by omega)).trans hlo,
    fun k _ hk => hhi.trans_le (hs.getElem_le_getElem_of_le hk)⟩

/-- At a key that occurs once, a sorted table splits right after it. -/
theorem splits_key (hs : keys.SortedLE) {j : ℕ} (hj : j < keys.length)
    (hone : ∀ k (hk : k < keys.length), keys[k] = keys[j] → k = j) :
    Splits keys keys[j] (j + 1) := by
  refine ⟨hj, fun k _ hk => hs.getElem_le_getElem_of_le (by omega), fun k hk hjk => ?_⟩
  have hle : keys[j] ≤ keys[k] := hs.getElem_le_getElem_of_le (by omega)
  exact hle.lt_of_ne fun heq => absurd (hone k hk heq.symm) (by omega)

/-- One round of bisection keeps the keys before `lo` at most `x` and those from `hi` on above
it; it ends, within its fuel, at the split. -/
theorem bisect_go (hs : keys.SortedLE) :
    ∀ fuel lo hi, lo ≤ hi → hi ≤ keys.length → hi - lo < fuel →
      (∀ k (hk : k < keys.length), k < lo → keys[k] ≤ x) →
      (∀ k (hk : k < keys.length), hi ≤ k → x < keys[k]) →
      ∃ r, bisectWith.go exactOps keys x lo hi fuel = pure r ∧ Splits keys x r := by
  intro fuel
  induction fuel with
  | zero => intro lo hi _ _ hfuel; omega
  | succ fuel ih =>
    intro lo hi hlohi hhi hfuel hlow hhigh
    by_cases hlt : lo < hi
    · -- the midpoint is a key of the table, and the comparison with it halves the interval
      have hmid : (lo + hi) / 2 < keys.length := by omega
      by_cases hx : x < keys[(lo + hi) / 2]
      · obtain ⟨r, hr, hsplit⟩ := ih lo ((lo + hi) / 2) (by omega) (by omega) (by omega) hlow
          fun k hk hmk => hx.trans_le (hs.getElem_le_getElem_of_le hmk)
        exact ⟨r, by simp [bisectWith.go, hlt, List.getElem?_eq_getElem hmid, hx, hr], hsplit⟩
      · obtain ⟨r, hr, hsplit⟩ := ih ((lo + hi) / 2 + 1) hi (by omega) hhi (by omega)
          (fun k hk hkm => (hs.getElem_le_getElem_of_le (by omega)).trans (not_lt.1 hx))
          hhigh
        exact ⟨r, by simp [bisectWith.go, hlt, List.getElem?_eq_getElem hmid, hx, hr], hsplit⟩
    · exact ⟨lo, by simp [bisectWith.go, hlt],
        ⟨by omega, hlow, fun k hk hk' => hhigh k hk (by omega)⟩⟩

/-- **Bisection.**  In a sorted table, bisection finds the index that splits it at `x`. -/
theorem bisect_splits (hs : keys.SortedLE) (x : ℝ) :
    ∃ r, bisectWith exactOps keys x = pure r ∧ Splits keys x r :=
  bisect_go hs _ 0 keys.length (Nat.zero_le _) le_rfl (by omega)
    (fun _ _ h => absurd h (Nat.not_lt_zero _)) (fun _ hk h => absurd hk (not_lt.2 h))

theorem bisect_eq (hs : keys.SortedLE) (h : Splits keys x r) :
    bisectWith exactOps keys x = pure r := by
  obtain ⟨r', hr', hsplit⟩ := bisect_splits hs x
  rw [hr', hsplit.unique h]

/-! ## Interpolation and weights at a split -/

variable {xs ys : List ℝ}

/-- Past the top end, the interpolation is the last value. -/
theorem linear_of_length_le (hb : bisectWith exactOps xs x = pure r) (hr : xs.length ≤ r) :
    linearWith exactOps xs ys x = Atmosphere.itemAt ys ((xs.length : ℤ) - 1) := by
  simp [linearWith, hb, hr]

/-- Below the bottom end, the interpolation is the first value. -/
theorem linear_of_zero (hb : bisectWith exactOps xs x = pure 0) (hne : 0 < xs.length) :
    linearWith exactOps xs ys x = Atmosphere.itemAt ys 0 := by
  simp [linearWith, hb, Nat.not_le.2 hne]

/-- Inside the table, the interpolation on the interval `[xs[r-1], xs[r]]` of the split. -/
theorem linear_of_splits_between (hs : xs.SortedLE) (h : Splits xs x r) (h0 : 0 < r)
    (hr : r < xs.length) (hy : r < ys.length) :
    linearWith exactOps xs ys x =
      pure ((ys[r] - ys[r - 1]) * (x - xs[r - 1]) / (xs[r] - xs[r - 1]) + ys[r - 1]) := by
  have hgap : xs[r] - xs[r - 1] ≠ 0 := (sub_pos.2 (h.gap_pos h0 hr)).ne'
  simp [linearWith, bisect_eq hs h, Nat.not_le.2 hr, h0.ne',
    Atmosphere.itemAt_natCast _ hr, Atmosphere.itemAt_natCast _ hy,
    Atmosphere.itemAt_natCast xs (i := r - 1) (by omega),
    Atmosphere.itemAt_natCast ys (i := r - 1) (by omega), exactOps_div_of_ne hgap]

/-- Past the top end, all the weight is on the last value, named by the index `-1`. -/
theorem weights_of_length_le (hb : bisectWith exactOps xs x = pure r) (hr : xs.length ≤ r) :
    weightsWith exactOps xs x = pure (0, 0, -1, 1) := by
  simp [weightsWith, hb, hr]

/-- Below the bottom end, all the weight is on the first value. -/
theorem weights_of_zero (hb : bisectWith exactOps xs x = pure 0) (hne : 0 < xs.length) :
    weightsWith exactOps xs x = pure (0, 1, 0, 0) := by
  simp [weightsWith, hb, Nat.not_le.2 hne]

/-- Inside the table, the weights of the two ends of the interval of the split: the upper one
gets the share of the interval that `x` has passed. -/
theorem weights_of_splits_between (hs : xs.SortedLE) (h : Splits xs x r) (h0 : 0 < r)
    (hr : r < xs.length) :
    weightsWith exactOps xs x =
      pure (((r - 1 : ℕ) : ℤ), 1 - (x - xs[r - 1]) / (xs[r] - xs[r - 1]), (r : ℤ),
        (x - xs[r - 1]) / (xs[r] - xs[r - 1])) := by
  have hgap : xs[r] - xs[r - 1] ≠ 0 := (sub_pos.2 (h.gap_pos h0 hr)).ne'
  simp [weightsWith, bisect_eq hs h, Nat.not_le.2 hr, h0.ne', Atmosphere.itemAt_natCast _ hr,
    Atmosphere.itemAt_natCast xs (i := r - 1) (by omega), exactOps_div_of_ne hgap]

/-- The share of the interval of the split that `x` has passed is in `[0, 1)`. -/
theorem Splits.share_mem (h : Splits xs x r) (h0 : 0 < r) (hr : r < xs.length) :
    (x - xs[r - 1]) / (xs[r] - xs[r - 1]) ∈ Ico 0 1 := by
  have hlo : xs[r - 1] ≤ x := h.le_of_lt (r - 1) (by omega) (by omega)
  have hhi : x < xs[r] := h.lt_of_le r hr le_rfl
  have hgap : 0 < xs[r] - xs[r - 1] := by linarith
  exact ⟨div_nonneg (by linarith) hgap.le, (div_lt_one hgap).2 (by linarith)⟩

theorem itemAt_zero (hne : 0 < ys.length) : Atmosphere.itemAt ys 0 = pure ys[0] := by
  simpa using Atmosphere.itemAt_natCast ys hne

theorem itemAt_last (hne : 0 < ys.length) :
    Atmosphere.itemAt ys ((ys.length : ℤ) - 1) = pure ys[ys.length - 1] := by
  have hcast : (ys.length : ℤ) - 1 = ((ys.length - 1 : ℕ) : ℤ) := by omega
  rw [hcast, Atmosphere.itemAt_natCast]

theorem itemAt_neg_one_eq (hne : 0 < ys.length) :
    Atmosphere.itemAt ys (-1) = pure ys[ys.length - 1] := by
  rw [Atmosphere.itemAt_neg_one ys (List.ne_nil_of_length_pos hne), List.getLast_eq_getElem]

/-! ## The contract -/

/-- The interpolated value is the weighted sum of the two values the weights name, with
weights in `[0, 1]` that add up to one. -/
theorem linear_eq_weighted (hs : xs.SortedLE) (hne : 0 < xs.length)
    (hy : ys.length = xs.length) (x : ℝ) :
    ∃ s ws l wl vs vl, weightsWith exactOps xs x = pure (s, ws, l, wl) ∧
      Atmosphere.itemAt ys s = pure vs ∧ Atmosphere.itemAt ys l = pure vl ∧
      linearWith exactOps xs ys x = pure (vs * ws + vl * wl) ∧
      ws ∈ Icc 0 1 ∧ wl ∈ Icc 0 1 ∧ ws + wl = 1 := by
  obtain ⟨r, hb, h⟩ := bisect_splits hs x
  rcases Nat.lt_or_ge r xs.length with hr | hr
  · rcases Nat.eq_zero_or_pos r with rfl | h0
    · -- below the bottom end: everything on the first value
      refine ⟨0, 1, 0, 0, ys[0], ys[0], weights_of_zero hb hne, itemAt_zero (by omega),
        itemAt_zero (by omega), ?_, by simp, by simp, by simp⟩
      rw [linear_of_zero hb hne, itemAt_zero (by omega)]
      simp
    · -- inside: the share `w` of the interval on the upper value, the rest on the lower one
      have hw := h.share_mem h0 hr
      refine ⟨(r - 1 : ℕ), 1 - (x - xs[r - 1]) / (xs[r] - xs[r - 1]), r,
        (x - xs[r - 1]) / (xs[r] - xs[r - 1]), ys[r - 1], ys[r],
        weights_of_splits_between hs h h0 hr,
        Atmosphere.itemAt_natCast ys (by omega), Atmosphere.itemAt_natCast ys (by omega), ?_,
        ⟨by linarith [hw.2], by linarith [hw.1]⟩, Ico_subset_Icc_self hw, by ring⟩
      rw [linear_of_splits_between hs h h0 hr (by omega)]
      congr 1
      ring
  · -- past the top end: everything on the last value
    refine ⟨0, 0, -1, 1, ys[0], ys[ys.length - 1], weights_of_length_le hb hr,
      itemAt_zero (by omega), itemAt_neg_one_eq (by omega), ?_, by simp, by simp, by simp⟩
    rw [linear_of_length_le hb hr, ← hy, itemAt_last (by omega)]
    simp

/-- A key that occurs once gives its own value. -/
theorem linear_at_key (hs : xs.SortedLE) (hy : ys.length = xs.length) {j : ℕ}
    (hj : j < xs.length) (hone : ∀ k (hk : k < xs.length), xs[k] = xs[j] → k = j) :
    linearWith exactOps xs ys xs[j] = pure ys[j] := by
  have h := splits_key hs hj hone
  rcases Nat.lt_or_ge (j + 1) xs.length with hr | hr
  · rw [linear_of_splits_between hs h (Nat.succ_pos j) hr (by omega)]
    simp
  · have hlast : j = ys.length - 1 := by omega
    rw [linear_of_length_le (bisect_eq hs h) hr, ← hy, itemAt_last (by omega)]
    simp only [hlast]

/-- Below the first key, the first value. -/
theorem linear_below (hs : xs.SortedLE) (hne : 0 < xs.length) (hy : ys.length = xs.length)
    (hx : x < xs[0]) : linearWith exactOps xs ys x = pure ys[0] := by
  rw [linear_of_zero (bisect_eq hs (splits_zero hs hne hx)) hne, itemAt_zero (by omega)]

/-- From the last key on, the last value. -/
theorem linear_above (hs : xs.SortedLE) (hne : 0 < xs.length) (hy : ys.length = xs.length)
    (hx : xs[xs.length - 1] ≤ x) : linearWith exactOps xs ys x = pure ys[xs.length - 1] := by
  rw [linear_of_length_le (bisect_eq hs (splits_length hs hne hx)) le_rfl]
  simp only [← hy]
  exact itemAt_last (by omega)

/-- A point a share `t ∈ [0, 1]` of the way from `a` to `b` lies between them. -/
theorem add_mul_sub_mem_uIcc {a b t : ℝ} (ht : t ∈ Icc 0 1) : a + t * (b - a) ∈ uIcc a b := by
  rcases le_total a b with hab | hba
  · rw [uIcc_of_le hab]
    constructor <;> nlinarith [ht.1, ht.2]
  · rw [uIcc_of_ge hba]
    constructor <;> nlinarith [ht.1, ht.2]

/-- Between two neighbouring keys, the value is on the line through their values, so between
those values. -/
theorem linear_between (hs : xs.SortedLE) (hy : ys.length = xs.length) {i : ℕ}
    (hi : i + 1 < xs.length) (hlo : xs[i] ≤ x) (hhi : x < xs[i + 1]) :
    ∃ v, linearWith exactOps xs ys x = pure v ∧ v ∈ uIcc ys[i] ys[i + 1] := by
  have h := splits_succ hs hi hlo hhi
  have hw := h.share_mem (Nat.succ_pos i) hi
  refine ⟨_, linear_of_splits_between hs h (Nat.succ_pos i) hi (by omega), ?_⟩
  simp only [Nat.add_sub_cancel] at hw ⊢
  have hform : (ys[i + 1] - ys[i]) * (x - xs[i]) / (xs[i + 1] - xs[i]) + ys[i] =
      ys[i] + (x - xs[i]) / (xs[i + 1] - xs[i]) * (ys[i + 1] - ys[i]) := by ring
  rw [hform]
  exact add_mul_sub_mem_uIcc (Ico_subset_Icc_self hw)

/-- **Linear interpolation and its weights, exactly.**  For a sorted table of keys `xs` with
as many values `ys`: every answer is a value, so no division by zero occurs; the weights name
two values whose weighted sum is the interpolated value, and lie in `[0, 1]` adding up to one;
a key that occurs once gives its own value; below the first key comes the first value, from
the last key on the last one; and between two neighbouring keys the value lies between
theirs. -/
theorem linearInterpolation_exact (hs : xs.SortedLE) (hne : 0 < xs.length)
    (hy : ys.length = xs.length) :
    (∀ x, ∃ s ws l wl vs vl, weightsWith exactOps xs x = pure (s, ws, l, wl) ∧
      Atmosphere.itemAt ys s = pure vs ∧ Atmosphere.itemAt ys l = pure vl ∧
      linearWith exactOps xs ys x = pure (vs * ws + vl * wl) ∧
      ws ∈ Icc 0 1 ∧ wl ∈ Icc 0 1 ∧ ws + wl = 1) ∧
    (∀ j (hj : j < xs.length), (∀ k (hk : k < xs.length), xs[k] = xs[j] → k = j) →
      linearWith exactOps xs ys xs[j] = pure ys[j]) ∧
    (∀ x, x < xs[0] → linearWith exactOps xs ys x = pure ys[0]) ∧
    (∀ x, xs[xs.length - 1] ≤ x → linearWith exactOps xs ys x = pure ys[xs.length - 1]) ∧
    (∀ x i (hi : i + 1 < xs.length), xs[i] ≤ x → x < xs[i + 1] →
      ∃ v, linearWith exactOps xs ys x = pure v ∧ v ∈ uIcc ys[i] ys[i + 1]) :=
  ⟨linear_eq_weighted hs hne hy, fun _ hj hone => linear_at_key hs hy hj hone,
    fun _ hx => linear_below hs hne hy hx, fun _ hx => linear_above hs hne hy hx,
    fun _ _ hi hlo hhi => linear_between hs hy hi hlo hhi⟩

/-- The contract on the table of keys `0, 1, 2, 3` with values `0, 1, 3, 5`. -/
theorem linearInterpolation_exact_table :
    ([0, 1, 2, 3] : List ℝ).SortedLE ∧ 0 < ([0, 1, 2, 3] : List ℝ).length ∧
    ([0, 1, 3, 5] : List ℝ).length = ([0, 1, 2, 3] : List ℝ).length ∧
    ((∀ x, ∃ s ws l wl vs vl, weightsWith exactOps [0, 1, 2, 3] x = pure (s, ws, l, wl) ∧
      Atmosphere.itemAt [0, 1, 3, 5] s = pure vs ∧ Atmosphere.itemAt [0, 1, 3, 5] l = pure vl ∧
      linearWith exactOps [0, 1, 2, 3] [0, 1, 3, 5] x = pure (vs * ws + vl * wl) ∧
      ws ∈ Icc 0 1 ∧ wl ∈ Icc 0 1 ∧ ws + wl = 1) ∧
    (∀ j (hj : j < ([0, 1, 2, 3] : List ℝ).length),
      (∀ k (hk : k < ([0, 1, 2, 3] : List ℝ).length),
        ([0, 1, 2, 3] : List ℝ)[k] = ([0, 1, 2, 3] : List ℝ)[j] → k = j) →
      linearWith exactOps [0, 1, 2, 3] [0, 1, 3, 5] ([0, 1, 2, 3] : List ℝ)[j] =
        pure ([0, 1, 3, 5] : List ℝ)[j]) ∧
    (∀ x, x < ([0, 1, 2, 3] : List ℝ)[0] →
      linearWith exactOps [0, 1, 2, 3] [0, 1, 3, 5] x = pure ([0, 1, 3, 5] : List ℝ)[0]) ∧
    (∀ x, ([0, 1, 2, 3] : List ℝ)[3] ≤ x →
      linearWith exactOps [0, 1, 2, 3] [0, 1, 3, 5] x = pure ([0, 1, 3, 5] : List ℝ)[3]) ∧
    (∀ x i (hi : i + 1 < ([0, 1, 2, 3] : List ℝ).length)
      (hiy : i + 1 < ([0, 1, 3, 5] : List ℝ).length), ([0, 1, 2, 3] : List ℝ)[i] ≤ x → x < ([0, 1, 2, 3] : List ℝ)[i + 1] →
      ∃ v, linearWith exactOps [0, 1, 2, 3] [0, 1, 3, 5] x = pure v ∧
        v ∈ uIcc ([0, 1, 3, 5] : List ℝ)[i] ([0, 1, 3, 5] : List ℝ)[i + 1])) := by
  have hs : ([0, 1, 2, 3] : List ℝ).SortedLE := by
    rw [List.sortedLE_iff_isChain]
    norm_num
  obtain ⟨hweighted, hkey, hbelow, habove, hbetween⟩ :=
    linearInterpolation_exact hs (by simp)
      (show ([0, 1, 3, 5] : List ℝ).length = ([0, 1, 2, 3] : List ℝ).length by simp)
  exact ⟨hs, by simp, by simp, hweighted, hkey, hbelow, habove,
    fun x i hi _ => hbetween x i hi⟩

end Interpolation
end RocketSim
