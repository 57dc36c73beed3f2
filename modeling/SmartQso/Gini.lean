/-
This file develops the Gini coefficient of a list of numbers: the sum of the absolute
differences of all pairs, in proportion to the largest sum that numbers with the same total
can have. Its formula for sorted numbers, a sum that is weighted by rank, is proved equal
to it. Nothing here names a particular program.
-/

import Mathlib.Algebra.Order.BigOperators.Group.List
import Mathlib.Algebra.Order.Field.Basic
import Mathlib.Algebra.BigOperators.Ring.List
import Mathlib.Algebra.Order.Ring.Abs
import Mathlib.Tactic.Linarith
import Mathlib.Tactic.Ring

namespace Gini

variable {Value : Type*} [Field Value] [LinearOrder Value] [IsStrictOrderedRing Value]

/-! ### Differences -/

/-- The absolute differences of a value from others. -/
def distances (value : Value) (others : List Value) : Value :=
  (others.map fun other => |other - value|).sum

/-- The absolute differences of all pairs. -/
def differences : List Value → Value
  | [] => 0
  | first :: rest => distances first rest + differences rest

omit [IsStrictOrderedRing Value] in
theorem distances_cons (value other : Value) (others : List Value) :
    distances value (other :: others) = |other - value| + distances value others := by
  rw [distances, List.map_cons, List.sum_cons]
  rfl

theorem distances_nonneg (value : Value) (others : List Value) : 0 ≤ distances value others :=
  List.sum_nonneg (List.forall_mem_map.mpr fun _ _ => abs_nonneg _)

theorem distances_eq_zero_iff (value : Value) (others : List Value) :
    distances value others = 0 ↔ ∀ other ∈ others, other = value := by
  induction others with
  | nil => exact iff_of_true rfl fun _ member => absurd member List.not_mem_nil
  | cons other others inductionHypothesis =>
    rw [distances_cons,
      add_eq_zero_iff_of_nonneg (abs_nonneg _) (distances_nonneg value others), abs_eq_zero,
      sub_eq_zero, inductionHypothesis, List.forall_mem_cons]

theorem differences_nonneg (values : List Value) : 0 ≤ differences values := by
  induction values with
  | nil => exact le_refl 0
  | cons first rest inductionHypothesis =>
    exact add_nonneg (distances_nonneg first rest) inductionHypothesis

/-- There are no differences exactly when all values are equal. -/
theorem differences_eq_zero_iff (values : List Value) :
    differences values = 0 ↔ ∀ first ∈ values, ∀ second ∈ values, first = second := by
  induction values with
  | nil => exact iff_of_true rfl fun _ member => absurd member List.not_mem_nil
  | cons first rest inductionHypothesis =>
    rw [differences,
      add_eq_zero_iff_of_nonneg (distances_nonneg first rest) (differences_nonneg rest),
      distances_eq_zero_iff, inductionHypothesis]
    constructor
    · rintro ⟨same, _⟩ one isOne other isOther
      have equal : ∀ value ∈ first :: rest, value = first :=
        List.forall_mem_cons.mpr ⟨rfl, same⟩
      exact (equal one isOne).trans (equal other isOther).symm
    · intro same
      exact ⟨fun other member => same other (List.mem_cons_of_mem _ member) first
          List.mem_cons_self,
        fun one isOne other isOther => same one (List.mem_cons_of_mem _ isOne) other
          (List.mem_cons_of_mem _ isOther)⟩

omit [IsStrictOrderedRing Value] in
theorem distances_perm (value : Value) {others permuted : List Value}
    (perm : others.Perm permuted) : distances value others = distances value permuted :=
  (perm.map fun other => |other - value|).sum_eq

omit [IsStrictOrderedRing Value] in
/-- The order of the values does not matter. -/
theorem differences_perm {values permuted : List Value} (perm : values.Perm permuted) :
    differences values = differences permuted := by
  induction perm with
  | nil => rfl
  | cons value perm inductionHypothesis =>
    rw [differences, differences, distances_perm value perm, inductionHypothesis]
  | swap first second rest =>
    rw [differences, differences, differences, differences, distances_cons, distances_cons,
      abs_sub_comm first second]
    ring
  | trans _ _ firstHypothesis secondHypothesis => exact firstHypothesis.trans secondHypothesis

/-- Scaled values have scaled differences. -/
theorem differences_scale {factor : Value} (nonneg : 0 ≤ factor) (values : List Value) :
    differences (values.map (factor * ·)) = factor * differences values := by
  induction values with
  | nil => exact (mul_zero factor).symm
  | cons first rest inductionHypothesis =>
    have scaled : distances (factor * first) (rest.map (factor * ·)) =
        factor * distances first rest := by
      rw [distances, distances, List.map_map, ← List.sum_map_mul_left]
      refine congrArg List.sum (List.map_congr_left fun other _ => ?_)
      rw [Function.comp_apply, ← mul_sub, abs_mul, abs_of_nonneg nonneg]
    rw [List.map_cons, differences, differences, scaled, inductionHypothesis, mul_add]

/-- Two values that are not negative differ by at most their sum. -/
theorem distances_le {value : Value} {others : List Value} (nonneg : 0 ≤ value)
    (othersNonneg : ∀ other ∈ others, 0 ≤ other) :
    distances value others ≤ others.length * value + others.sum := by
  induction others with
  | nil => simp [distances]
  | cons other others inductionHypothesis =>
    obtain ⟨otherNonneg, restNonneg⟩ := List.forall_mem_cons.mp othersNonneg
    have pair : |other - value| ≤ other + value := by
      refine abs_le.mpr ⟨?_, ?_⟩ <;> linarith
    rw [distances_cons, List.sum_cons, List.length_cons, Nat.cast_succ, add_mul, one_mul]
    linarith [inductionHypothesis restNonneg]

/-- The differences are largest when one value is the whole total. -/
theorem differences_le {values : List Value} (nonneg : ∀ value ∈ values, 0 ≤ value) :
    differences values ≤ (values.length - 1) * values.sum := by
  induction values with
  | nil => simp [differences]
  | cons first rest inductionHypothesis =>
    obtain ⟨firstNonneg, restNonneg⟩ := List.forall_mem_cons.mp nonneg
    have apart := distances_le firstNonneg restNonneg
    have behind := inductionHypothesis restNonneg
    rw [differences, List.length_cons, List.sum_cons, Nat.cast_succ, add_sub_cancel_right]
    linarith

/-! ### Sorted values -/

/-- Values that are weighted by their rank, with weights two apart. -/
def rankSum (weight : Value) : List Value → Value
  | [] => 0
  | first :: rest => weight * first + rankSum (weight + 2) rest

omit [LinearOrder Value] [IsStrictOrderedRing Value] in
/-- Larger weights add the total. -/
theorem rankSum_add (weight more : Value) (values : List Value) :
    rankSum (weight + more) values = rankSum weight values + more * values.sum := by
  induction values generalizing weight with
  | nil => exact ((zero_add _).trans (mul_zero more)).symm
  | cons first rest inductionHypothesis =>
    rw [rankSum, rankSum, add_right_comm, inductionHypothesis, List.sum_cons]
    ring

/-- The distances from a smallest value. -/
theorem distances_of_le {value : Value} {others : List Value}
    (least : ∀ other ∈ others, value ≤ other) :
    distances value others = others.sum - others.length * value := by
  induction others with
  | nil => simp [distances]
  | cons other others inductionHypothesis =>
    obtain ⟨below, restBelow⟩ := List.forall_mem_cons.mp least
    rw [distances_cons, inductionHypothesis restBelow, abs_of_nonneg (sub_nonneg.mpr below),
      List.sum_cons, List.length_cons, Nat.cast_succ]
    ring

/-- For sorted values the sum that is weighted by rank is the sum of all differences. -/
theorem rankSum_sorted {values : List Value} (sorted : values.Pairwise (· ≤ ·)) :
    rankSum (1 - (values.length : Value)) values = differences values := by
  induction values with
  | nil => rfl
  | cons first rest inductionHypothesis =>
    obtain ⟨least, sortedRest⟩ := List.pairwise_cons.mp sorted
    have weights : 1 - ((first :: rest).length : Value) + 2 = 1 - (rest.length : Value) + 1 := by
      rw [List.length_cons, Nat.cast_succ]
      ring
    rw [rankSum, weights, rankSum_add, inductionHypothesis sortedRest, differences,
      distances_of_le least, List.length_cons, Nat.cast_succ]
    ring

/-! ### The coefficient -/

/-- The Gini coefficient. It is zero when the total is. -/
def coefficient (values : List Value) : Value :=
  differences values / (values.length * values.sum)

omit [IsStrictOrderedRing Value] in
theorem coefficient_perm {values permuted : List Value} (perm : values.Perm permuted) :
    coefficient values = coefficient permuted := by
  rw [coefficient, coefficient, differences_perm perm, perm.length_eq, perm.sum_eq]

theorem coefficient_scale {factor : Value} (positive : 0 < factor) (values : List Value) :
    coefficient (values.map (factor * ·)) = coefficient values := by
  have total : (values.map (factor * ·)).sum = factor * values.sum := by
    rw [List.sum_map_mul_left, List.map_id']
  rw [coefficient, coefficient, differences_scale (le_of_lt positive), total, List.length_map,
    mul_left_comm, mul_div_mul_left _ _ (ne_of_gt positive)]

section

variable {values : List Value} (nonneg : ∀ value ∈ values, 0 ≤ value)

include nonneg

theorem coefficient_nonneg : 0 ≤ coefficient values :=
  div_nonneg (differences_nonneg values)
    (mul_nonneg (Nat.cast_nonneg _) (List.sum_nonneg nonneg))

/-- Values that are not negative and whose total is zero are all zero. -/
theorem eq_zero_of_sum_eq_zero (empty : values.sum = 0) : ∀ value ∈ values, value = 0 := by
  intro value member
  refine le_antisymm ?_ (nonneg value member)
  rw [← empty]
  exact List.single_le_sum nonneg value member

/-- The coefficient leaves out the share of one of the values. -/
theorem coefficient_le (nonempty : values ≠ []) :
    coefficient values ≤ (values.length - 1) / values.length := by
  have count : (0 : Value) < values.length := Nat.cast_pos.mpr (List.length_pos_iff.mpr nonempty)
  have one : (1 : Value) ≤ values.length := Nat.one_le_cast.mpr (List.length_pos_iff.mpr nonempty)
  rcases (List.sum_nonneg nonneg).eq_or_lt with empty | positive
  · rw [coefficient, ← empty, mul_zero, div_zero]
    exact div_nonneg (sub_nonneg.mpr one) (le_of_lt count)
  · rw [coefficient, div_le_div_iff₀ (mul_pos count positive) count]
    calc differences values * values.length
        ≤ (values.length - 1) * values.sum * values.length :=
          mul_le_mul_of_nonneg_right (differences_le nonneg) (le_of_lt count)
      _ = (values.length - 1) * (values.length * values.sum) := by ring

theorem coefficient_eq_zero_iff :
    coefficient values = 0 ↔ ∀ first ∈ values, ∀ second ∈ values, first = second := by
  rw [coefficient, div_eq_zero_iff, differences_eq_zero_iff, mul_eq_zero, Nat.cast_eq_zero,
    List.length_eq_zero_iff]
  refine ⟨fun zero => ?_, Or.inl⟩
  rcases zero with same | rfl | empty
  · exact same
  · exact fun _ member => absurd member List.not_mem_nil
  · intro first isFirst second isSecond
    have zero := eq_zero_of_sum_eq_zero nonneg empty
    exact (zero first isFirst).trans (zero second isSecond).symm

end

end Gini
