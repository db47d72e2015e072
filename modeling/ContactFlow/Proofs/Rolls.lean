import ContactFlow.Proofs.Comparing
import ContactFlow.Proofs.Spelled
import Mathlib.Algebra.BigOperators.Group.List.Basic
import Mathlib.Algebra.Order.BigOperators.Group.List
import Mathlib.Algebra.Order.Ring.Int

/-!
Shares of a split. Percents that are asked for one after another are granted as long as they fit into
a hundred. The shares that are granted end where the percents so far add up to, and the conditions of
a split ask whether a roll is below one of those bounds. By the first condition that holds, each share
gets as many of a hundred rolls as its percent says.
-/

namespace ContactFlow

namespace Split

/-! ### Percents -/

/-- A percent is granted if it is positive and fits in with those that were granted before. -/
def grant (given : List Int) (p : Int) : List Int :=
  if 1 ≤ p ∧ p + given.sum ≤ 100 then given ++ [p] else given

/-- The percents that are granted of those that are asked for, in their order. -/
def granted (asked : List Int) : List Int := asked.foldl grant []

/-- Percents that fit into a hundred. -/
structure Fit (ps : List Int) : Prop where
  positive : ∀ p ∈ ps, 1 ≤ p
  within : ps.sum ≤ 100

variable {ps : List Int} {p start : Int}

theorem granted_concat (asked : List Int) (p : Int) :
    granted (asked ++ [p]) = grant (granted asked) p := by
  rw [granted, List.foldl_append]
  rfl

theorem Fit.grant (fit : Fit ps) (p : Int) : Fit (grant ps p) := by
  unfold Split.grant
  split
  · rename_i free
    refine ⟨fun q member => ?_, ?_⟩
    · rcases List.mem_append.1 member with before | last
      · exact fit.positive q before
      · rw [List.mem_singleton.1 last]
        exact free.1
    · rw [List.sum_append, List.sum_singleton]
      omega
  · exact fit

theorem sum_nonneg (positive : ∀ p ∈ ps, 1 ≤ p) : 0 ≤ ps.sum :=
  List.sum_nonneg fun p member => Int.le_trans (by decide) (positive p member)

/-! ### Bounds -/

/-- Where the shares end, the first of which begins at a number. -/
def bounds (start : Int) : List Int → List Int
  | [] => []
  | p :: rest => (start + p) :: bounds (start + p) rest

theorem bounds_concat (start : Int) (ps : List Int) (p : Int) :
    bounds start (ps ++ [p]) = bounds start ps ++ [start + ps.sum + p] := by
  induction ps generalizing start with
  | nil => simp [bounds]
  | cons q rest ih => simp [bounds, ih, Int.add_assoc]

theorem length_bounds (start : Int) (ps : List Int) : (bounds start ps).length = ps.length := by
  induction ps generalizing start with
  | nil => rfl
  | cons p rest ih => rw [bounds, List.length_cons, ih, List.length_cons]

theorem bounds_within (positive : ∀ p ∈ ps, 1 ≤ p) {bound : Int} (among : bound ∈ bounds start ps) :
    start < bound ∧ bound ≤ start + ps.sum := by
  induction ps generalizing start with
  | nil => cases among
  | cons p rest ih =>
    have first := positive p List.mem_cons_self
    have later := fun q member => positive q (List.mem_cons_of_mem _ member)
    have beyond := sum_nonneg later
    rw [List.sum_cons]
    rcases List.mem_cons.1 among with rfl | after
    · omega
    · have within := ih later after
      omega

/-- A number goes to the share that it stands in. -/
theorem findIdx?_bounds (positive : ∀ p ∈ ps, 1 ≤ p) {x : Int} (begun : start ≤ x) {k : Nat}
    (known : k < ps.length) : (bounds start ps).findIdx? (x < ·) = some k ↔
      start + (ps.take k).sum ≤ x ∧ x < start + (ps.take k).sum + ps[k] := by
  induction ps generalizing start k with
  | nil => cases known
  | cons p rest ih =>
    have later := fun q member => positive q (List.mem_cons_of_mem _ member)
    rw [bounds, List.findIdx?_cons]
    cases k with
    | zero =>
      by_cases here : x < start + p
      · simp [here, begun]
      · simp [here]
    | succ k =>
      rw [List.take_succ_cons, List.sum_cons, List.getElem_cons_succ]
      by_cases here : x < start + p
      · have beyond := sum_nonneg fun q (member : q ∈ rest.take k) =>
          later q (List.mem_of_mem_take member)
        rw [if_pos (by simpa using here)]
        exact ⟨nofun, fun stands => by omega⟩
      · have begins : start + p ≤ x := by omega
        have onward := ih later begins (Nat.lt_of_succ_lt_succ known)
        rw [Int.add_assoc start p] at onward
        rw [if_neg (by simpa using here), ← onward]
        cases (bounds (start + p) rest).findIdx? (x < ·) <;> simp

/-- A number that is beyond all shares goes to none of them. -/
theorem findIdx?_bounds_none (positive : ∀ p ∈ ps, 1 ≤ p) {x : Int} (begun : start ≤ x) :
    (bounds start ps).findIdx? (x < ·) = none ↔ start + ps.sum ≤ x := by
  induction ps generalizing start with
  | nil => simp [bounds, begun]
  | cons p rest ih =>
    have later := fun q member => positive q (List.mem_cons_of_mem _ member)
    rw [bounds, List.findIdx?_cons, List.sum_cons]
    by_cases here : x < start + p
    · have beyond := sum_nonneg later
      rw [if_pos (by simpa using here)]
      exact ⟨nofun, fun past => by omega⟩
    · have begins : start + p ≤ x := by omega
      have onward := ih later begins
      rw [Int.add_assoc] at onward
      rw [if_neg (by simpa using here), ← onward, Option.map_eq_none_iff]

/-! ### Conditions -/

/-- The condition for rolls below a bound, and the key that it is known by. -/
def below (bound : Int) : Guard := .compare "NumberLessThan" [.text (toString bound)]
def bucketKey (bound : Int) : List Scalar := [.text "bucket", .text (toString bound)]

/-- Numbers that are not below zero are written apart. -/
theorem eq_of_toString {a b : Int} (low : 0 ≤ a) (low' : 0 ≤ b) (same : toString a = toString b) :
    a = b := by
  obtain ⟨m, rfl⟩ := Int.eq_ofNat_of_zero_le low
  obtain ⟨n, rfl⟩ := Int.eq_ofNat_of_zero_le low'
  have digits : Nat.toDigits 10 m = Nat.toDigits 10 n := String.ofList_injective same
  rw [← Nat.ofDigitChars_ten_toDigits (n := m), digits, Nat.ofDigitChars_ten_toDigits]

theorem holds_below {roll : Nat} {bound : Int} (low : 0 ≤ bound) (high : bound ≤ 100)
    (drawn : roll < 100) :
    (below bound).holds (toString (roll : Int)) = decide ((roll : Int) < bound) := by
  obtain ⟨n, rfl⟩ := Int.eq_ofNat_of_zero_le low
  have writable {m : Nat} (small : m ≤ 100) : Numeral.isWritable m = true := by
    have room : 100 < Numeral.limit := by decide +kernel
    simp only [Numeral.isWritable, Int.natAbs_natCast, decide_eq_true_eq]
    omega
  simp only [below, Guard.holds, relation?, List.any_cons, List.any_nil, Bool.or_false, numerically,
    Spelling.whole_toString (writable (Nat.le_of_lt drawn)),
    Spelling.whole_toString (writable (Int.ofNat_le.1 high))]

end Split

/-- The place of the first condition that holds for a roll, if one does. -/
def Node.bucketOf (n : Node) (roll : Nat) : Option Nat :=
  n.transitions.conditions.findIdx? (·.guard.holds (toString (roll : Int)))

namespace Split

variable {ps : List Int} {n : Node}

theorem findIdx?_congr {α : Type} {l : List α} {p q : α → Bool} (same : ∀ a ∈ l, p a = q a) :
    l.findIdx? p = l.findIdx? q := by
  induction l with
  | nil => rfl
  | cons a rest ih =>
    rw [List.findIdx?_cons, List.findIdx?_cons, same a List.mem_cons_self,
      ih fun b member => same b (List.mem_cons_of_mem _ member)]

theorem bucketOf_eq (fit : Fit ps) (conditions : n.transitions.guards = (bounds 0 ps).map below)
    {roll : Nat} (drawn : roll < 100) :
    n.bucketOf roll = (bounds 0 ps).findIdx? ((roll : Int) < ·) := by
  have mapped : n.bucketOf roll =
      n.transitions.guards.findIdx? (·.holds (toString (roll : Int))) := by
    rw [Transitions.guards, List.findIdx?_map]
    rfl
  rw [mapped, conditions, List.findIdx?_map]
  refine findIdx?_congr fun bound among => ?_
  obtain ⟨above, within⟩ := bounds_within fit.positive among
  have total := fit.within
  exact holds_below (Int.le_of_lt above) (by omega) drawn

/-- How many of a number of rolls stand between two others. -/
theorem countP_between (low high n : Nat) :
    (List.range n).countP (fun r => low ≤ r ∧ r < high) = min high n - min low n := by
  induction n with
  | zero => simp
  | succ n ih =>
    rw [List.range_succ, List.countP_append, ih, List.countP_singleton]
    split <;> simp_all <;> omega

/-- Each share has as many of a hundred rolls as its percent says, and the rest goes to none. -/
theorem countP_bucketOf (fit : Fit ps) (conditions : n.transitions.guards = (bounds 0 ps).map below) :
    (∀ k (known : k < ps.length),
      ((List.range 100).countP fun roll => n.bucketOf roll = some k : Int) = ps[k]) ∧
    ((List.range 100).countP fun roll => n.bucketOf roll = none : Int) = 100 - ps.sum := by
  have total := fit.within
  constructor
  · intro k known
    obtain ⟨low, start⟩ := Int.eq_ofNat_of_zero_le
      (sum_nonneg fun q (member : q ∈ ps.take k) => fit.positive q (List.mem_of_mem_take member))
    obtain ⟨size, here⟩ := Int.eq_ofNat_of_zero_le
      (Int.le_trans (by decide) (fit.positive ps[k] (List.getElem_mem known)))
    have stands : ∀ roll ∈ List.range 100, decide (n.bucketOf roll = some k) = true ↔
        decide (low ≤ roll ∧ roll < low + size) = true := by
      intro roll drawn
      rw [decide_eq_true_iff, decide_eq_true_iff, bucketOf_eq fit conditions (List.mem_range.1 drawn),
        findIdx?_bounds fit.positive (Int.natCast_nonneg roll) known]
      omega
    -- the share ends before a hundred, since the shares after it are no less than nothing
    have rest := sum_nonneg fun q (member : q ∈ ps.drop (k + 1)) =>
      fit.positive q (List.mem_of_mem_drop member)
    have parts : ps.sum = (ps.take k).sum + (ps[k] + (ps.drop (k + 1)).sum) := by
      rw [← List.sum_cons, ← List.drop_eq_getElem_cons known, List.sum_take_add_sum_drop]
    rw [List.countP_congr stands, countP_between]
    omega
  · obtain ⟨given, all⟩ := Int.eq_ofNat_of_zero_le (sum_nonneg fit.positive)
    have past : ∀ roll ∈ List.range 100, decide (n.bucketOf roll = none) = true ↔
        decide (given ≤ roll ∧ roll < 100) = true := by
      intro roll drawn
      have drawn := List.mem_range.1 drawn
      rw [decide_eq_true_iff, decide_eq_true_iff, bucketOf_eq fit conditions drawn,
        findIdx?_bounds_none fit.positive (Int.natCast_nonneg roll)]
      omega
    rw [List.countP_congr past, countP_between]
    omega

end Split

end ContactFlow
