/-
This file develops the cutting of a sequence into pieces of one size, the last one
taking what is left, and putting numbered pieces back in order. A receiver that
knows nothing of the cut but the numbers restores the order by sorting, whatever
the order of arrival.
-/

import Mathlib.Data.List.Sort

namespace Fragments

variable {Entry Piece : Type*}

/-! ### Cutting -/

/-- The number of pieces. -/
def count (size length : Nat) : Nat := (length + size - 1) / size

/-- The pieces start at the multiples of the size. -/
def cut (size : Nat) (entries : List Entry) : List (List Entry) :=
  (List.range' 0 (count size entries.length) size).map fun start =>
    (entries.take (start + size)).drop start

@[simp] theorem length_cut (size : Nat) (entries : List Entry) :
    (cut size entries).length = count size entries.length := by
  rw [cut, List.length_map, List.length_range']

theorem count_le_iff {size limit length : Nat} (positive : 0 < size) :
    count size length ≤ limit ↔ length ≤ limit * size := by
  rw [count, ← Nat.lt_succ_iff, Nat.div_lt_iff_lt_mul positive, Nat.succ_mul]
  omega

/-- The pieces up to a place are the entries up to it. -/
theorem flatten_pieces (size pieces : Nat) (entries : List Entry) :
    ((List.range' 0 pieces size).map fun start =>
      (entries.take (start + size)).drop start).flatten = entries.take (pieces * size) := by
  induction pieces with
  | zero => rw [List.range'_zero, List.map_nil, List.flatten_nil, Nat.zero_mul, List.take_zero]
  | succ pieces inductionHypothesis =>
    have start : 0 + size * pieces = pieces * size := by rw [Nat.zero_add, Nat.mul_comm]
    rw [List.range'_concat, List.map_append, List.flatten_append, inductionHypothesis,
      List.map_singleton, List.flatten_singleton, start, Nat.succ_mul]
    have cover : entries.take (pieces * size) =
        (entries.take (pieces * size + size)).take (pieces * size) := by
      rw [List.take_take, Nat.min_eq_left (Nat.le_add_right _ _)]
    rw [cover, List.take_append_drop]

/-- Nothing is lost by the cut. -/
theorem flatten_cut {size : Nat} (positive : 0 < size) (entries : List Entry) :
    (cut size entries).flatten = entries := by
  have covered : entries.length ≤ count size entries.length * size :=
    (count_le_iff positive).mp (Nat.le_refl _)
  rw [cut, flatten_pieces, List.take_of_length_le covered]

/-- No piece is empty, and none is longer than the size. -/
theorem length_of_mem_cut {size : Nat} {entries piece : List Entry} (positive : 0 < size)
    (member : piece ∈ cut size entries) : 1 ≤ piece.length ∧ piece.length ≤ size := by
  obtain ⟨start, listed, rfl⟩ := List.mem_map.mp member
  obtain ⟨index, bound, rfl⟩ := List.mem_range'.mp listed
  have inside : size * index < entries.length := by
    have reached : index + 1 ≤ (entries.length + size - 1) / size := bound
    rw [Nat.le_div_iff_mul_le positive, Nat.succ_mul, Nat.mul_comm] at reached
    omega
  rw [List.length_drop, List.length_take]
  omega

/-! ### Putting back in order -/

/-- Pieces whose labels increase are restored from any order by sorting. -/
theorem mergeSort_of_perm {label : Piece → Nat} {pieces received : List Piece}
    (increasing : (pieces.map label).Pairwise (· < ·)) (arrived : received.Perm pieces) :
    received.mergeSort (fun first second => decide (label first ≤ label second)) = pieces := by
  have permuted : (received.mergeSort fun first second =>
      decide (label first ≤ label second)).Perm pieces :=
    (List.mergeSort_perm received _).trans arrived
  have sorted : (received.mergeSort fun first second =>
      decide (label first ≤ label second)).Pairwise fun first second =>
        label first ≤ label second := by
    have ordered := @List.pairwise_mergeSort Piece
      (fun first second => decide (label first ≤ label second))
      (fun first second third earlier later => by
        rw [decide_eq_true_iff] at earlier later ⊢
        exact earlier.trans later)
      (fun first second => by
        rw [Bool.or_eq_true, decide_eq_true_iff, decide_eq_true_iff]
        exact Nat.le_total _ _) received
    exact ordered.imp fun related => of_decide_eq_true related
  have given : pieces.Pairwise fun first second => label first ≤ label second :=
    (List.pairwise_map.mp increasing).imp Nat.le_of_lt
  have separated : (pieces.map label).Nodup := increasing.imp Nat.ne_of_lt
  refine permuted.eq_of_pairwise (fun first second sortedMember member least most => ?_)
    sorted given
  exact List.inj_on_of_nodup_map separated (permuted.mem_iff.mp sortedMember) member
    (Nat.le_antisymm least most)

end Fragments
