/-
This file develops the copy of a block within one memory, one cell after the other. A
copy from the front is right when no cell is read after it was written, which is the case
when the block moves down or does not meet its source; a copy from the back is right when
it moves up. Nothing here names a particular program.
-/

import Mathlib.Logic.Function.Basic

namespace BlockCopies

variable {Value : Type*}

/-- The memory a move of a block should leave: the block holds what its source held before, and
every other cell is as it was. -/
def moved (dest source count : Nat) (memory : Nat → Value) : Nat → Value := fun place =>
  if dest ≤ place ∧ place < dest + count then memory (source + (place - dest)) else memory place

/-- Copy one cell of a block. -/
def copyCell (dest source index : Nat) (memory : Nat → Value) : Nat → Value :=
  Function.update memory (dest + index) (memory (source + index))

/-- Copy a block from its first cell to its last one. -/
def copyForward (dest source : Nat) : Nat → (Nat → Value) → Nat → Value
  | 0, memory => memory
  | count + 1, memory => copyCell dest source count (copyForward dest source count memory)

/-- Copy a block from its last cell to its first one. -/
def copyBackward (dest source : Nat) : Nat → (Nat → Value) → Nat → Value
  | 0, memory => memory
  | count + 1, memory => copyBackward dest source count (copyCell dest source count memory)

section

variable {dest source count : Nat} {memory : Nat → Value}

theorem moved_inside {index : Nat} (inside : index < count) :
    moved dest source count memory (dest + index) = memory (source + index) := by
  unfold moved
  rw [if_pos ⟨Nat.le_add_right _ _, Nat.add_lt_add_left inside dest⟩, Nat.add_sub_cancel_left]

theorem moved_outside {place : Nat} (outside : place < dest ∨ dest + count ≤ place) :
    moved dest source count memory place = memory place := by
  unfold moved
  exact if_neg (by omega)

@[simp] theorem moved_zero : moved dest source 0 memory = memory := by
  funext place
  exact moved_outside (by omega)

/-- A block that is moved to where it is stays as it is. -/
@[simp] theorem moved_self : moved dest dest count memory = memory := by
  funext place
  unfold moved
  by_cases inside : dest ≤ place ∧ place < dest + count
  · rw [if_pos inside, Nat.add_sub_cancel' inside.1]
  · rw [if_neg inside]

/-- A memory with the block in it and everything else as it was. -/
theorem eq_moved {after : Nat → Value}
    (inside : ∀ index < count, after (dest + index) = memory (source + index))
    (outside : ∀ place, place < dest ∨ dest + count ≤ place → after place = memory place) :
    after = moved dest source count memory := by
  funext place
  by_cases within : dest ≤ place ∧ place < dest + count
  · obtain ⟨index, rfl⟩ := Nat.exists_eq_add_of_le within.1
    have below : index < count := Nat.lt_of_add_lt_add_left within.2
    rw [inside index below, moved_inside below]
  · have away : place < dest ∨ dest + count ≤ place := by omega
    rw [outside place away, moved_outside away]

/-- After some cells the block is moved that far, and the next cell to be read is untouched. -/
theorem copyForward_eq (apart : dest ≤ source ∨ source + count ≤ dest) :
    copyForward dest source count memory = moved dest source count memory := by
  induction count with
  | zero => exact moved_zero.symm
  | succ count inductionHypothesis =>
    have before := inductionHypothesis (apart.imp_right (Nat.le_of_succ_le ·))
    have untouched : moved dest source count memory (source + count) = memory (source + count) :=
      moved_outside (by omega)
    rw [copyForward, before, copyCell, untouched]
    refine eq_moved (fun index below => ?_) fun place outside => ?_
    · rcases Nat.lt_succ_iff_lt_or_eq.mp below with earlier | rfl
      · rw [Function.update_of_ne (by omega), moved_inside earlier]
      · rw [Function.update_self]
    · rw [Function.update_of_ne (by omega), moved_outside (by omega)]

/-- What the last cell overwrites is not read by the cells before it. -/
theorem copyBackward_eq (apart : source ≤ dest ∨ dest + count ≤ source) :
    copyBackward dest source count memory = moved dest source count memory := by
  induction count generalizing memory with
  | zero => exact moved_zero.symm
  | succ count inductionHypothesis =>
    rw [copyBackward, inductionHypothesis (apart.imp_right (Nat.le_of_succ_le ·))]
    refine eq_moved (fun index below => ?_) fun place outside => ?_
    · rcases Nat.lt_succ_iff_lt_or_eq.mp below with earlier | rfl
      · rw [moved_inside earlier, copyCell, Function.update_of_ne (by omega)]
      · rw [moved_outside (by omega), copyCell, Function.update_self]
    · rw [moved_outside (by omega), copyCell, Function.update_of_ne (by omega)]

end

end BlockCopies
