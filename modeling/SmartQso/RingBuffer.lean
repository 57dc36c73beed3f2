/-
This file develops the ring buffer that never refuses an entry: two indices that wrap
at the capacity and a count that stops there. A full ring overwrites its oldest entry,
so whatever is pushed, it holds the newest entries in the order of arrival.
-/

import Mathlib.Data.Nat.ModEq
import SmartQso.Newest

namespace RingBuffer

open BoundedHistory

/-- The next index, which wraps at the capacity. -/
def advance (capacity index : Nat) : Nat := if index + 1 ≥ capacity then 0 else index + 1

theorem advance_eq {capacity index : Nat} (bound : index < capacity) :
    advance capacity index = (index + 1) % capacity := by
  unfold advance
  split
  case isTrue last =>
    have same : index + 1 = capacity := Nat.le_antisymm bound last
    rw [same, Nat.mod_self]
  case isFalse inside =>
    rw [Nat.mod_eq_of_lt (Nat.lt_of_not_le inside)]

/-- A ring with its cells, the next cell to write, the oldest entry and the number of entries. -/
structure Ring (Entry : Type*) (capacity : Nat) where
  cells : Vector Entry capacity
  writeIndex : Nat
  readIndex : Nat
  count : Nat
  readBound : readIndex < capacity
  countBound : count ≤ capacity
  aligned : writeIndex = (readIndex + count) % capacity

namespace Ring

variable {Entry : Type*} {capacity : Nat}

/-- A new ring, whose cells hold a blank entry. -/
def blank (entry : Entry) (positive : 0 < capacity) : Ring Entry capacity where
  cells := Vector.replicate capacity entry
  writeIndex := 0
  readIndex := 0
  count := 0
  readBound := positive
  countBound := Nat.zero_le _
  aligned := by rw [Nat.add_zero, Nat.zero_mod]

/-- A ring without entries. -/
def clear (ring : Ring Entry capacity) : Ring Entry capacity where
  cells := ring.cells
  writeIndex := 0
  readIndex := 0
  count := 0
  readBound := Nat.zero_lt_of_lt ring.readBound
  countBound := Nat.zero_le _
  aligned := by rw [Nat.add_zero, Nat.zero_mod]

/-- The cell of an entry, by its distance from the oldest one. -/
def slot (ring : Ring Entry capacity) (offset : Nat) : Fin capacity :=
  ⟨(ring.readIndex + offset) % capacity, Nat.mod_lt _ (Nat.zero_lt_of_lt ring.readBound)⟩

/-- An entry, by its distance from the oldest one. -/
def get? (ring : Ring Entry capacity) (offset : Nat) : Option Entry :=
  if offset ≥ ring.count then none else some (ring.cells.get (ring.slot offset))

/-- The entries from the oldest to the newest one. -/
def contents (ring : Ring Entry capacity) : List Entry :=
  (List.range ring.count).map fun offset => ring.cells.get (ring.slot offset)

theorem writeBound (ring : Ring Entry capacity) : ring.writeIndex < capacity := by
  rw [ring.aligned]
  exact Nat.mod_lt _ (Nat.zero_lt_of_lt ring.readBound)

/-- Write an entry and advance. A full ring gives up its oldest entry. -/
def push (ring : Ring Entry capacity) (entry : Entry) : Ring Entry capacity where
  cells := ring.cells.set ring.writeIndex entry ring.writeBound
  writeIndex := advance capacity ring.writeIndex
  readIndex :=
    if ring.count < capacity then ring.readIndex else advance capacity ring.readIndex
  count := if ring.count < capacity then ring.count + 1 else ring.count
  readBound := by
    split
    · exact ring.readBound
    · rw [advance_eq ring.readBound]
      exact Nat.mod_lt _ (Nat.zero_lt_of_lt ring.readBound)
  countBound := by
    split
    case isTrue room => exact room
    case isFalse => exact ring.countBound
  aligned := by
    rw [advance_eq ring.writeBound, ring.aligned]
    split
    case isTrue => rw [Nat.mod_add_mod, Nat.add_assoc]
    case isFalse =>
      rw [advance_eq ring.readBound, Nat.mod_add_mod, Nat.mod_add_mod, Nat.add_right_comm]

/-- Write an entry to the next cell and stay in front of it. -/
def write (ring : Ring Entry capacity) (entry : Entry) : Ring Entry capacity :=
  { ring with cells := ring.cells.set ring.writeIndex entry ring.writeBound }

/-- Take in the entry of the next cell. A full ring gives up its oldest entry. -/
def takeIn (ring : Ring Entry capacity) : Ring Entry capacity :=
  { ring.push (ring.cells.get ⟨ring.writeIndex, ring.writeBound⟩) with cells := ring.cells }

/-- A push writes an entry and takes it in. -/
theorem takeIn_write (ring : Ring Entry capacity) (entry : Entry) :
    (ring.write entry).takeIn = ring.push entry := rfl

@[simp] theorem length_contents (ring : Ring Entry capacity) :
    ring.contents.length = ring.count := by
  rw [contents, List.length_map, List.length_range]

@[simp] theorem contents_blank (entry : Entry) (positive : 0 < capacity) :
    (blank entry positive).contents = [] := rfl

@[simp] theorem contents_clear (ring : Ring Entry capacity) : ring.clear.contents = [] := rfl

theorem getElem_contents (ring : Ring Entry capacity) {offset : Nat}
    (bound : offset < ring.contents.length) :
    ring.contents[offset] = ring.cells.get (ring.slot offset) := by
  simp only [contents, List.getElem_map, List.getElem_range]

/-- The entries that can be read are the contents, and nothing else. -/
theorem get?_eq (ring : Ring Entry capacity) (offset : Nat) :
    ring.get? offset = ring.contents[offset]? := by
  unfold get?
  split
  case isTrue outside =>
    rw [List.getElem?_eq_none (by rw [length_contents]; exact outside)]
  case isFalse inside =>
    have bound : offset < ring.contents.length := by
      rw [length_contents]
      exact Nat.lt_of_not_le inside
    rw [List.getElem?_eq_getElem bound, getElem_contents]

/-- The cell that is written is the one behind the newest entry. -/
theorem slot_count (ring : Ring Entry capacity) :
    (ring.slot ring.count).val = ring.writeIndex := ring.aligned.symm

/-- Different distances below the capacity are different cells. -/
theorem slot_inj (ring : Ring Entry capacity) {first second : Nat} (firstBound : first < capacity)
    (secondBound : second < capacity) (same : (ring.slot first).val = (ring.slot second).val) :
    first = second := by
  have congruent : first ≡ second [MOD capacity] := Nat.ModEq.add_left_cancel' _ same
  exact Nat.ModEq.eq_of_lt_of_lt congruent firstBound secondBound

/-- A push writes one cell. -/
theorem get_push (ring : Ring Entry capacity) (entry : Entry) (position : Fin capacity) :
    (ring.push entry).cells.get position =
      if ring.writeIndex = position.val then entry else ring.cells.get position :=
  Vector.getElem_set ring.writeBound position.isLt

/-- With room left the entry goes behind the others. -/
theorem contents_push_of_lt (ring : Ring Entry capacity) (entry : Entry)
    (room : ring.count < capacity) : (ring.push entry).contents = ring.contents ++ [entry] := by
  have count : (ring.push entry).count = ring.count + 1 := if_pos room
  have start : (ring.push entry).readIndex = ring.readIndex := if_pos room
  have slots : ∀ offset, (ring.push entry).slot offset = ring.slot offset := fun offset =>
    Fin.ext (by simp only [slot, start])
  refine List.ext_getElem ?_ fun offset before after => ?_
  · rw [length_contents, count, List.length_append, length_contents, List.length_singleton]
  · rw [length_contents, count] at before
    rw [getElem_contents, slots, get_push, ← slot_count]
    rcases Nat.lt_succ_iff_lt_or_eq.mp before with older | last
    · rw [List.getElem_append_left (by rw [length_contents]; exact older), getElem_contents,
        if_neg]
      exact fun same => Nat.ne_of_gt older (slot_inj ring room (older.trans room) same)
    · subst last
      rw [if_pos rfl, List.getElem_append_right (by rw [length_contents])]
      simp only [length_contents, Nat.sub_self, List.getElem_cons_zero]

/-- A full ring loses its oldest entry. -/
theorem contents_push_of_full (ring : Ring Entry capacity) (entry : Entry)
    (full : ring.count = capacity) :
    (ring.push entry).contents = ring.contents.drop 1 ++ [entry] := by
  have noRoom : ¬ring.count < capacity := by rw [full]; exact Nat.lt_irrefl _
  have positive := Nat.zero_lt_of_lt ring.readBound
  have count : (ring.push entry).count = capacity := (if_neg noRoom).trans full
  have start : (ring.push entry).readIndex = (ring.readIndex + 1) % capacity :=
    (if_neg noRoom).trans (advance_eq ring.readBound)
  have slots : ∀ offset, (ring.push entry).slot offset = ring.slot (offset + 1) := by
    intro offset
    refine Fin.ext ?_
    simp only [slot, start, Nat.mod_add_mod, Nat.add_assoc, Nat.add_comm 1 offset]
  -- the entry that is overwritten is the oldest one
  have written : ring.writeIndex = (ring.slot 0).val := by
    rw [ring.aligned, full, Nat.add_mod_right]
    rfl
  refine List.ext_getElem ?_ fun offset before after => ?_
  · rw [length_contents, count, List.length_append, List.length_drop, length_contents, full,
      List.length_singleton, Nat.sub_add_cancel positive]
  · rw [length_contents, count] at before
    rw [getElem_contents, slots, get_push]
    rcases Nat.lt_or_ge (offset + 1) capacity with older | last
    · rw [List.getElem_append_left (by rw [List.length_drop, length_contents, full]; omega),
        List.getElem_drop, getElem_contents, if_neg, Nat.add_comm 1 offset]
      rw [written]
      exact fun same => absurd (slot_inj ring positive older same) (Nat.succ_ne_zero _).symm
    · have newest : offset + 1 = ring.count := by omega
      rw [newest, if_pos (slot_count ring).symm, List.getElem_append_right
        (by rw [List.length_drop, length_contents]; omega)]
      simp only [List.length_drop, length_contents, ← newest, Nat.add_sub_cancel, Nat.sub_self,
        List.getElem_cons_zero]

/-- Change the entry in a cell. -/
def change (ring : Ring Entry capacity) (position : Fin capacity) (edit : Entry → Entry) :
    Ring Entry capacity :=
  { ring with
    cells := ring.cells.set position (edit (ring.cells.get position)) position.isLt }

/-- A change of a cell in use changes its entry. -/
theorem contents_change (ring : Ring Entry capacity) (edit : Entry → Entry) {offset : Nat}
    (inside : offset < ring.count) :
    (ring.change (ring.slot offset) edit).contents = ring.contents.modify offset edit := by
  refine List.ext_getElem ?_ fun index before after => ?_
  · rw [length_contents, List.length_modify, length_contents]
    rfl
  · rw [length_contents] at before
    have indexBound : index < capacity := Nat.lt_of_lt_of_le before ring.countBound
    have offsetBound : offset < capacity := Nat.lt_of_lt_of_le inside ring.countBound
    rw [getElem_contents, List.getElem_modify, getElem_contents]
    by_cases same : offset = index
    · rw [if_pos same, ← same]
      exact Vector.getElem_set_self (ring.slot offset).isLt
    · rw [if_neg same]
      refine Vector.getElem_set_ne (ring.slot offset).isLt (ring.slot index).isLt fun cell => ?_
      exact same (slot_inj ring offsetBound indexBound cell)

/-- A push keeps the newest entries. -/
theorem contents_push (ring : Ring Entry capacity) (entry : Entry) :
    (ring.push entry).contents = newest capacity (ring.contents ++ [entry]) := by
  by_cases room : ring.count < capacity
  · rw [contents_push_of_lt ring entry room, newest_of_length_le]
    rw [List.length_append, length_contents, List.length_singleton]
    exact room
  · have full : ring.count = capacity := Nat.le_antisymm ring.countBound (Nat.le_of_not_lt room)
    rw [contents_push_of_full ring entry full,
      newest_concat_of_full entry (by rw [length_contents, full])
        (Nat.zero_lt_of_lt ring.readBound)]

end Ring

end RingBuffer
