/-
This file develops arrays that are used up to a count: what the slots in use hold
after a write, after a read into them and after they all move one to the front, and
the compaction in place. There a loop reads each slot once and moves what is to be
kept to the front, into slots it has read before; whatever was in the array, its first
slots then hold the entries to be kept in their order. Nothing here names a particular
system.
-/

import Mathlib.Data.List.Basic

namespace CountedArray

variable {Entry : Type*} {capacity : Nat}

/-! ### Arrays -/

/-- What the first slots of an array hold. -/
def held (slots : Vector Entry capacity) (count : Nat) : List Entry := slots.toList.take count

/-- The array with its first slots overwritten, as far as the array reaches. -/
def fill (slots : Vector Entry capacity) (read : List Entry) : Vector Entry capacity :=
  Vector.ofFn fun position => read[position.val]?.getD (slots.get position)

theorem length_held {slots : Vector Entry capacity} {count : Nat} (fits : count ≤ capacity) :
    (held slots count).length = count := by
  rw [held, List.length_take, Vector.length_toList, Nat.min_eq_left fits]

theorem held_succ (slots : Vector Entry capacity) (position : Fin capacity) :
    held slots (position + 1) = held slots position ++ [slots.get position] := by
  have bound : position.val < slots.toList.length := by
    rw [Vector.length_toList]
    exact position.isLt
  rw [held, held, ← List.take_append_getElem bound]
  rfl

/-- The slot behind the first ones can be written without a change to these. -/
theorem held_set (slots : Vector Entry capacity) (entry : Entry) (position : Fin capacity) :
    held (slots.set position entry position.isLt) (position + 1) =
      held slots position ++ [entry] := by
  rw [held_succ]
  congr 1
  · rw [held, Vector.toList_set, List.take_set_of_le (Nat.le_refl _), held]
  · exact congrArg (fun stored => [stored]) (Vector.getElem_set_self position.isLt)

theorem get_set_of_ne {slots : Vector Entry capacity} {entry : Entry}
    {position other : Fin capacity} (different : position ≠ other) :
    (slots.set position entry position.isLt).get other = slots.get other :=
  Vector.getElem_set_ne position.isLt other.isLt (Fin.val_ne_of_ne different)

/-- The array with every entry moved one slot to the front; the last slot keeps its own. -/
def shift (slots : Vector Entry capacity) : Vector Entry capacity :=
  Vector.ofFn fun position =>
    if next : position.val + 1 < capacity then slots.get ⟨position + 1, next⟩
    else slots.get position

theorem held_shift (slots : Vector Entry capacity) {count : Nat} (fits : count + 1 ≤ capacity) :
    held (shift slots) count = (held slots (count + 1)).drop 1 := by
  refine List.ext_getElem ?_ fun index inside _ => ?_
  · rw [length_held (Nat.le_of_succ_le fits), List.length_drop, length_held fits]
    rfl
  · rw [length_held (Nat.le_of_succ_le fits)] at inside
    have next : index + 1 < capacity := Nat.lt_of_lt_of_le (Nat.succ_lt_succ inside) fits
    simp only [held, shift, List.getElem_take, Vector.getElem_toList, Vector.getElem_ofFn,
      List.drop_one, List.getElem_tail, dif_pos next]
    rfl

/-- A write to a slot in use changes its entry. -/
theorem held_modify (slots : Vector Entry capacity) (change : Entry → Entry)
    (position : Fin capacity) (count : Nat) :
    held (slots.set position (change (slots.get position)) position.isLt) count =
      (held slots count).modify position change := by
  refine List.ext_getElem ?_ fun index inside _ => ?_
  · simp only [held, List.length_modify, List.length_take, Vector.length_toList]
  · simp only [held, List.getElem_take, Vector.getElem_toList, List.getElem_modify,
      Vector.getElem_set]
    by_cases same : position.val = index
    · rw [if_pos same, if_pos same]
      subst same
      rfl
    · rw [if_neg same, if_neg same]

/-- The slots that are read into hold what was read. -/
theorem held_fill (slots : Vector Entry capacity) {read : List Entry}
    (fits : read.length ≤ capacity) : held (fill slots read) read.length = read := by
  refine List.ext_getElem (length_held fits) fun index _ inside => ?_
  simp only [held, fill, List.getElem_take, Vector.getElem_toList, Vector.getElem_ofFn,
    List.getElem?_eq_getElem inside, Option.getD_some]

/-! ### The loop -/

/-- The array while it is compacted, and how many of its first slots hold what is kept. -/
structure Progress (Entry : Type*) (capacity : Nat) where
  slots : Vector Entry capacity
  kept : Nat

/-- One round of the loop: an entry that is to be kept is moved to the front, unless it is there
already. -/
def keepRound (keep : Entry → Bool) (progress : Progress Entry capacity)
    (position : Fin capacity) : Progress Entry capacity :=
  let entry := progress.slots.get position
  if keep entry then
    let slots :=
      if progress.kept ≠ position then progress.slots.setIfInBounds progress.kept entry
      else progress.slots
    ⟨slots, progress.kept + 1⟩
  else progress

/-- The array after so many rounds. -/
def compact (keep : Entry → Bool) (slots : Vector Entry capacity) :
    (rounds : Nat) → rounds ≤ capacity → Progress Entry capacity
  | 0, _ => ⟨slots, 0⟩
  | rounds + 1, fits =>
    keepRound keep (compact keep slots rounds (Nat.le_of_succ_le fits)) ⟨rounds, fits⟩

/-- What holds after each round: the first slots hold what is kept of the slots read so far, and
the slots still to be read are as they were. -/
structure Compacted (keep : Entry → Bool) (slots : Vector Entry capacity) (rounds : Nat)
    (progress : Progress Entry capacity) : Prop where
  behind : progress.kept ≤ rounds
  kept : held progress.slots progress.kept = (held slots rounds).filter keep
  ahead : ∀ position : Fin capacity, rounds ≤ position →
    progress.slots.get position = slots.get position

/-- The assignment of an entry to the slot it is in changes nothing. -/
theorem move_eq (slots : Vector Entry capacity) (target position : Fin capacity) :
    (if target.val ≠ position then slots.setIfInBounds target (slots.get position) else slots) =
      slots.set target (slots.get position) target.isLt := by
  by_cases same : target = position
  · rw [if_neg (not_not_intro (congrArg Fin.val same)), same]
    exact (Vector.set_getElem_self position.isLt).symm
  · rw [if_pos (Fin.val_ne_of_ne same)]
    refine Vector.ext fun index bound => ?_
    rw [Vector.getElem_setIfInBounds bound, Vector.getElem_set target.isLt bound]

theorem Compacted.round {keep : Entry → Bool} {slots : Vector Entry capacity}
    {progress : Progress Entry capacity} {position : Fin capacity}
    (compacted : Compacted keep slots position progress) :
    Compacted keep slots (position + 1) (keepRound keep progress position) := by
  have current := compacted.ahead position (Nat.le_refl _)
  have read := held_succ slots position
  unfold keepRound
  dsimp only
  by_cases wanted : keep (progress.slots.get position) = true
  · -- The entry goes to a slot that has been read, or stays where it is.
    let target : Fin capacity := ⟨progress.kept, Nat.lt_of_le_of_lt compacted.behind position.isLt⟩
    have moved := move_eq progress.slots target position
    rw [if_pos wanted, moved]
    refine ⟨Nat.succ_le_succ compacted.behind, ?_, fun other ahead => ?_⟩
    · have written := held_set progress.slots (progress.slots.get position) target
      refine written.trans ?_
      rw [read, List.filter_append, List.filter_cons_of_pos (current ▸ wanted), List.filter_nil,
        current, ← compacted.kept]
    · have different : target ≠ other :=
        Fin.ne_of_lt (Nat.lt_of_le_of_lt compacted.behind ahead)
      rw [get_set_of_ne different]
      exact compacted.ahead other (Nat.le_of_succ_le ahead)
  · rw [if_neg wanted]
    refine ⟨Nat.le_succ_of_le compacted.behind, ?_, fun other ahead =>
      compacted.ahead other (Nat.le_of_succ_le ahead)⟩
    rw [read, List.filter_append, List.filter_cons_of_neg (current ▸ wanted), List.filter_nil,
      List.append_nil, compacted.kept]

theorem compact_compacted (keep : Entry → Bool) (slots : Vector Entry capacity) (rounds : Nat)
    (fits : rounds ≤ capacity) : Compacted keep slots rounds (compact keep slots rounds fits) := by
  induction rounds with
  | zero => exact ⟨Nat.le_refl _, rfl, fun _ _ => rfl⟩
  | succ rounds inductionHypothesis =>
    have earlier := inductionHypothesis (Nat.le_of_succ_le fits)
    exact @Compacted.round _ _ keep slots _ ⟨rounds, fits⟩ earlier

/-- The compacted array holds the entries to be kept, in their order. -/
theorem held_compact (keep : Entry → Bool) (slots : Vector Entry capacity) {count : Nat}
    (fits : count ≤ capacity) :
    held (compact keep slots count fits).slots (compact keep slots count fits).kept =
      (held slots count).filter keep :=
  (compact_compacted keep slots count fits).kept

theorem kept_compact (keep : Entry → Bool) (slots : Vector Entry capacity) {count : Nat}
    (fits : count ≤ capacity) :
    (compact keep slots count fits).kept = ((held slots count).filter keep).length := by
  rw [← held_compact keep slots fits, length_held]
  exact Nat.le_trans (compact_compacted keep slots count fits).behind fits

theorem kept_compact_le (keep : Entry → Bool) (slots : Vector Entry capacity) {count : Nat}
    (fits : count ≤ capacity) : (compact keep slots count fits).kept ≤ capacity :=
  Nat.le_trans (compact_compacted keep slots count fits).behind fits

end CountedArray
