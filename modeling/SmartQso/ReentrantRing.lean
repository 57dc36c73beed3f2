/-
This file develops the ring buffer whose pushes are interrupted: an entry is written,
other entries are pushed, and only then is the first one taken in. The inner pushes
write the same cell, so the outer entry is gone and a cell that nobody wrote is taken
in at the end; the ring holds what was pushed exactly when nothing is pushed inside.
Nothing here names a particular system.
-/

import SmartQso.RingBuffer

namespace RingBuffer

variable {Entry : Type*} {capacity : Nat}

/-- An entry with the pushes made between its write and its taking in. -/
inductive Nest (Entry : Type*)
  | node (entry : Entry) (inner : List (Nest Entry))

mutual

/-- The entries of a nest, in the order in which they are written. -/
def Nest.entries : Nest Entry → List Entry
  | .node entry inner => entry :: Nest.entriesAll inner

def Nest.entriesAll : List (Nest Entry) → List Entry
  | [] => []
  | nest :: rest => nest.entries ++ Nest.entriesAll rest

end

theorem Nest.entriesAll_append (first second : List (Nest Entry)) :
    entriesAll (first ++ second) = entriesAll first ++ entriesAll second := by
  induction first with
  | nil => rfl
  | cons nest rest inductionHypothesis =>
    rw [List.cons_append, entriesAll, entriesAll, inductionHypothesis, List.append_assoc]

theorem Nest.entriesAll_singleton (nest : Nest Entry) : entriesAll [nest] = nest.entries := by
  rw [entriesAll, entriesAll, List.append_nil]

namespace Ring

mutual

/-- Write an entry, push what is inside, and take in the entry of the next cell. -/
def pushNest (ring : Ring Entry capacity) : Nest Entry → Ring Entry capacity
  | .node entry inner => (pushNests (ring.write entry) inner).takeIn

def pushNests (ring : Ring Entry capacity) : List (Nest Entry) → Ring Entry capacity
  | [] => ring
  | nest :: rest => pushNests (pushNest ring nest) rest

end

theorem pushNests_append (ring : Ring Entry capacity) (first second : List (Nest Entry)) :
    ring.pushNests (first ++ second) = (ring.pushNests first).pushNests second := by
  induction first generalizing ring with
  | nil => rfl
  | cons nest rest inductionHypothesis =>
    rw [List.cons_append, pushNests, pushNests, inductionHypothesis]

/-! ### Cells -/

/-- The cell at a distance from the oldest entry, whether or not an entry is in it. -/
def cell (ring : Ring Entry capacity) (offset : Nat) : Entry := ring.cells.get (ring.slot offset)

theorem getElem_contents_cell (ring : Ring Entry capacity) {offset : Nat}
    (bound : offset < ring.contents.length) : ring.contents[offset] = ring.cell offset :=
  getElem_contents ring bound

/-- The write reaches the cell behind the newest entry only. -/
theorem cell_write (ring : Ring Entry capacity) (entry : Entry) {offset : Nat}
    (inside : offset < capacity) (room : ring.count < capacity) :
    (ring.write entry).cell offset = if offset = ring.count then entry else ring.cell offset := by
  have written : (ring.write entry).cell offset =
      if ring.writeIndex = (ring.slot offset).val then entry else ring.cell offset :=
    Vector.getElem_set ring.writeBound (ring.slot offset).isLt
  rw [written, ← slot_count]
  by_cases same : offset = ring.count
  · rw [if_pos same, same, if_pos rfl]
  · rw [if_neg same, if_neg]
    exact fun slots => same (slot_inj ring room inside slots).symm

theorem takeIn_count {ring : Ring Entry capacity} (room : ring.count < capacity) :
    ring.takeIn.count = ring.count + 1 := if_pos room

theorem takeIn_cell {ring : Ring Entry capacity} (room : ring.count < capacity) (offset : Nat) :
    ring.takeIn.cell offset = ring.cell offset := by
  have start : ring.takeIn.readIndex = ring.readIndex := if_pos room
  have slots : ring.takeIn.slot offset = ring.slot offset :=
    Fin.ext (by simp only [slot, start])
  exact congrArg ring.cells.get slots

/-! ### What a nest does to the cells -/

/-- As many entries are taken in as are written, the older ones stay, and the first cell behind
these holds one of those written. -/
structure Absorbs (before after : Ring Entry capacity) (entries : List Entry) : Prop where
  count : after.count = before.count + entries.length
  older : ∀ offset, offset < before.count → after.cell offset = before.cell offset
  first : entries ≠ [] → after.cell before.count ∈ entries
  none : entries = [] → after = before

theorem Absorbs.trans {before middle after : Ring Entry capacity} {first second : List Entry}
    (earlier : Absorbs before middle first) (later : Absorbs middle after second) :
    Absorbs before after (first ++ second) := by
  refine ⟨?_, fun offset inside => ?_, fun written => ?_, fun nothing => ?_⟩
  · rw [later.count, earlier.count, List.length_append, Nat.add_assoc]
  · have still : offset < middle.count := by
      rw [earlier.count]
      exact Nat.lt_add_right _ inside
    rw [later.older offset still, earlier.older offset inside]
  · by_cases idle : first = []
    · obtain rfl := earlier.none idle
      rw [idle, List.nil_append] at written ⊢
      exact later.first written
    · have still : before.count < middle.count := by
        rw [earlier.count]
        exact Nat.lt_add_of_pos_right (List.length_pos_iff.mpr idle)
      rw [later.older _ still]
      exact List.mem_append_left _ (earlier.first idle)
  · obtain ⟨firstIdle, secondIdle⟩ := List.append_eq_nil_iff.mp nothing
    rw [later.none secondIdle, earlier.none firstIdle]

/-- An entry is written, the inner ones are absorbed, and the entry of the next cell is taken
in. -/
theorem Absorbs.takeIn {ring after : Ring Entry capacity} {entry : Entry} {inner : List Entry}
    (absorbed : Absorbs (ring.write entry) after inner)
    (room : ring.count + inner.length < capacity) :
    Absorbs ring after.takeIn (entry :: inner) := by
  have before : ring.count < capacity := Nat.lt_of_le_of_lt (Nat.le_add_right _ _) room
  have count : after.count = ring.count + inner.length := absorbed.count
  have still : after.count < capacity := Nat.lt_of_le_of_lt (Nat.le_of_eq count) room
  refine ⟨?_, fun offset inside => ?_, fun _ => ?_,
    fun absent => absurd absent (List.cons_ne_nil _ _)⟩
  · rw [takeIn_count still, count, List.length_cons, Nat.add_assoc]
  · rw [takeIn_cell still, absorbed.older offset inside,
      cell_write ring entry (Nat.lt_trans inside before) before, if_neg (Nat.ne_of_lt inside)]
  · rw [takeIn_cell still]
    by_cases idle : inner = []
    · rw [absorbed.none idle, cell_write ring entry before before, if_pos rfl]
      exact List.mem_cons_self
    · exact List.mem_cons_of_mem _ (absorbed.first idle)

mutual

theorem pushNest_absorbs (ring : Ring Entry capacity) (nest : Nest Entry)
    (room : ring.count + nest.entries.length ≤ capacity) :
    Absorbs ring (ring.pushNest nest) nest.entries :=
  match nest with
  | .node entry inner => by
    rw [Nest.entries, List.length_cons] at room
    rw [Nest.entries, pushNest]
    have inside : ring.count + (Nest.entriesAll inner).length < capacity := room
    exact (pushNests_absorbs (ring.write entry) inner (Nat.le_of_lt inside)).takeIn inside

theorem pushNests_absorbs (ring : Ring Entry capacity) (nests : List (Nest Entry))
    (room : ring.count + (Nest.entriesAll nests).length ≤ capacity) :
    Absorbs ring (ring.pushNests nests) (Nest.entriesAll nests) :=
  match nests with
  | [] => ⟨rfl, fun _ _ => rfl, fun written => absurd rfl written, fun _ => rfl⟩
  | nest :: rest => by
    rw [Nest.entriesAll, List.length_append, ← Nat.add_assoc] at room
    rw [Nest.entriesAll, pushNests]
    have earlier := pushNest_absorbs ring nest (Nat.le_of_add_right_le room)
    refine earlier.trans (pushNests_absorbs (ring.pushNest nest) rest ?_)
    rw [earlier.count]
    exact room

end

/-- With room for all of them, the entries of a nest are all kept, in order, exactly when none is
pushed inside. -/
theorem contents_pushNest_iff (ring : Ring Entry capacity) (entry : Entry)
    (inner : List (Nest Entry))
    (room : ring.count + (Nest.node entry inner).entries.length ≤ capacity)
    (distinct : (Nest.node entry inner).entries.Nodup) :
    (ring.pushNest (.node entry inner)).contents =
        ring.contents ++ (Nest.node entry inner).entries ↔ Nest.entriesAll inner = [] := by
  rw [Nest.entries] at room distinct ⊢
  rw [pushNest]
  have inside : ring.count + (Nest.entriesAll inner).length < capacity := room
  have before : ring.count < capacity := Nat.lt_of_le_of_lt (Nat.le_add_right _ _) inside
  have absorbed := pushNests_absorbs (ring.write entry) inner (Nat.le_of_lt inside)
  constructor
  · intro kept
    by_contra pushed
    -- The cell of the outer entry holds an inner one.
    have still : ((ring.write entry).pushNests inner).count < capacity := by
      rw [absorbed.count]
      exact inside
    have length : ring.count < ((ring.write entry).pushNests inner).takeIn.contents.length := by
      rw [length_contents, takeIn_count still, absorbed.count]
      exact Nat.lt_succ_of_le (Nat.le_add_right _ _)
    have found := getElem_contents_cell _ length
    rw [takeIn_cell still] at found
    have overwritten : entry ∈ Nest.entriesAll inner := by
      have outer : ((ring.write entry).pushNests inner).takeIn.contents[ring.count] = entry := by
        simp only [kept, List.getElem_append_right (Nat.le_of_eq (length_contents ring)),
          length_contents, Nat.sub_self, List.getElem_cons_zero]
      rw [← outer, found]
      exact absorbed.first pushed
    exact (List.nodup_cons.mp distinct).1 overwritten
  · intro nothing
    rw [absorbed.none nothing, nothing, takeIn_write]
    exact contents_push_of_lt ring entry before

end Ring

end RingBuffer
