/-
This file develops the bounded history: of everything appended to a log of fixed
capacity, the newest entries are kept. `newest` says which entries those are, in
terms of the whole sequence appended so far; the rules below let an implementation
that discards one old entry at a time be compared with it.
-/

import Mathlib.Data.List.Basic

namespace BoundedHistory

variable {Entry Other : Type*}

/-- The last `capacity` entries of a sequence, or all of it when it is shorter. -/
def newest (capacity : Nat) (entries : List Entry) : List Entry :=
  entries.drop (entries.length - capacity)

theorem length_newest (capacity : Nat) (entries : List Entry) :
    (newest capacity entries).length = min entries.length capacity := by
  rw [newest, List.length_drop]
  omega

theorem newest_of_length_le {capacity : Nat} {entries : List Entry}
    (short : entries.length ≤ capacity) : newest capacity entries = entries := by
  rw [newest, Nat.sub_eq_zero_of_le short, List.drop_zero]

/-- Discarding early and discarding late keep the same entries. -/
theorem newest_append_newest (capacity : Nat) (older added : List Entry) :
    newest capacity (newest capacity older ++ added) = newest capacity (older ++ added) := by
  have split : newest capacity older ++ added =
      (older ++ added).drop (older.length - capacity) := by
    rw [newest, List.drop_append_of_le_length (Nat.sub_le _ _)]
  rw [newest, split, List.drop_drop, List.length_drop, newest]
  congr 1
  rw [List.length_append]
  omega

/-- A full log makes room for one entry by giving up its oldest one. -/
theorem newest_concat_of_full {capacity : Nat} {entries : List Entry} (entry : Entry)
    (full : entries.length = capacity) (positive : 0 < capacity) :
    newest capacity (entries ++ [entry]) = entries.drop 1 ++ [entry] := by
  rw [newest, List.length_append, List.length_singleton, full, Nat.add_sub_cancel_left,
    List.drop_append_of_le_length (by omega)]

/-- Whatever was appended before, the last entry is kept with the newest ones before it. -/
theorem newest_succ_concat (capacity : Nat) (entries : List Entry) (entry : Entry) :
    newest (capacity + 1) (entries ++ [entry]) = newest capacity entries ++ [entry] := by
  rw [newest, List.length_append, List.length_singleton, Nat.add_sub_add_right,
    List.drop_append_of_le_length (Nat.sub_le _ _), newest]

theorem newest_map (capacity : Nat) (change : Entry → Other) (entries : List Entry) :
    newest capacity (entries.map change) = (newest capacity entries).map change := by
  rw [newest, newest, List.length_map, List.map_drop]

/-- A change of one of the newest entries is a change of the history. -/
theorem newest_modify (capacity index : Nat) (change : Entry → Entry) (entries : List Entry) :
    newest capacity (entries.modify (entries.length - capacity + index) change) =
      (newest capacity entries).modify index change := by
  rw [newest, newest, List.length_modify, List.drop_modify_of_ge _ _ _ _ (Nat.le_add_right _ _),
    Nat.add_sub_cancel_left]

end BoundedHistory
