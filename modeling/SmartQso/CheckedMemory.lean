/-
This file develops a memory of which a program may access some cells only. A load from any
other cell and a store to it fail, so a program that returns has stayed within the cells it
was given. What it has stored in consecutive cells is described by one list. Nothing here
names a particular program.
-/

import Mathlib.Data.List.Basic
import Mathlib.Logic.Function.Basic

namespace CheckedMemory

/-- The cells that may be accessed, with what they hold. -/
abbrev Memory (Value : Type*) := Nat → Option Value

variable {Value : Type*}

/-! ### Cells -/

/-- Store a value in a cell. -/
def store (memory : Memory Value) (place : Nat) (value : Value) : Option (Memory Value) :=
  (memory place).map fun _ => Function.update memory place (some value)

/-- Store values in consecutive cells. -/
def storeAll (memory : Memory Value) (start : Nat) : List Value → Option (Memory Value)
  | [] => some memory
  | value :: values => (store memory start value).bind fun memory =>
    storeAll memory (start + 1) values

/-- The memory with values in consecutive cells. -/
def written (memory : Memory Value) (start : Nat) (values : List Value) : Memory Value :=
  fun place => if start ≤ place then values[place - start]?.or (memory place) else memory place

/-- The cells from a place on that belong to no program, except those of a list. -/
def block (start : Nat) (values : List Value) : Memory Value :=
  written (fun _ => none) start values

/-- Consecutive cells hold values. -/
def Contains (memory : Memory Value) (start : Nat) (values : List Value) : Prop :=
  ∀ index < values.length, memory (start + index) = values[index]?

/-- Consecutive cells may be accessed. -/
def Accessible (memory : Memory Value) (start count : Nat) : Prop :=
  ∀ index < count, (memory (start + index)).isSome = true

/-- Two blocks of cells have no cell in common. -/
def Apart (first firstCount second secondCount : Nat) : Prop :=
  ∀ place, first ≤ place → place < first + firstCount →
    ¬ (second ≤ place ∧ place < second + secondCount)

section

variable {memory : Memory Value} {start : Nat} {values : List Value}

/-! ### Written cells -/

theorem written_inside {index : Nat} (inside : index < values.length) :
    written memory start values (start + index) = values[index]? := by
  rw [written, if_pos (Nat.le_add_right start index), Nat.add_sub_cancel_left,
    List.getElem?_eq_getElem inside, Option.some_or]

theorem written_outside {place : Nat} (outside : place < start ∨ start + values.length ≤ place) :
    written memory start values place = memory place := by
  unfold written
  split_ifs with behind
  · rw [List.getElem?_eq_none (by omega), Option.none_or]
  · rfl

@[simp] theorem written_nil : written memory start [] = memory := by
  funext place
  exact written_outside (Nat.lt_or_ge place start)

theorem written_singleton (value : Value) :
    written memory start [value] = Function.update memory start (some value) := by
  funext place
  by_cases here : place = start
  · subst here
    rw [Function.update_self]
    exact @written_inside _ memory place [value] 0 Nat.zero_lt_one
  · rw [Function.update_of_ne here]
    refine written_outside ?_
    rw [List.length_singleton]
    omega

/-- Values that are stored behind others. -/
theorem written_append (front back : List Value) :
    written memory start (front ++ back) =
      written (written memory start front) (start + front.length) back := by
  funext place
  by_cases inside : start ≤ place ∧ place < start + (front ++ back).length
  · obtain ⟨index, rfl⟩ := Nat.exists_eq_add_of_le inside.1
    have bound : index < (front ++ back).length := Nat.lt_of_add_lt_add_left inside.2
    rw [written_inside bound]
    by_cases early : index < front.length
    · rw [written_outside (Or.inl (Nat.add_lt_add_left early start)), written_inside early,
        List.getElem?_append_left early]
    · obtain ⟨rest, rfl⟩ := Nat.exists_eq_add_of_le (Nat.not_lt.mp early)
      rw [List.length_append] at bound
      rw [← Nat.add_assoc, written_inside (Nat.lt_of_add_lt_add_left bound),
        List.getElem?_append_right (Nat.le_add_right _ _), Nat.add_sub_cancel_left]
  · rw [List.length_append] at inside
    rw [written_outside (by rw [List.length_append]; omega), written_outside (by omega),
      written_outside (by omega)]

/-! ### Contained values -/

theorem contains_written : Contains (written memory start values) start values :=
  fun _ inside => written_inside inside

/-- Values that are there already change nothing when they are stored again. -/
theorem Contains.written_eq (contains : Contains memory start values) :
    written memory start values = memory := by
  funext place
  by_cases inside : start ≤ place ∧ place < start + values.length
  · obtain ⟨index, rfl⟩ := Nat.exists_eq_add_of_le inside.1
    have bound : index < values.length := Nat.lt_of_add_lt_add_left inside.2
    rw [written_inside bound, contains index bound]
  · exact written_outside (by omega)

theorem contains_append {front back : List Value} :
    Contains memory start (front ++ back) ↔
      Contains memory start front ∧ Contains memory (start + front.length) back := by
  constructor
  · intro contains
    constructor
    · intro index inside
      rw [contains index (by rw [List.length_append]; omega), List.getElem?_append_left inside]
    · intro index inside
      rw [Nat.add_assoc, contains (front.length + index) (by rw [List.length_append]; omega),
        List.getElem?_append_right (Nat.le_add_right _ _), Nat.add_sub_cancel_left]
  · rintro ⟨frontContained, backContained⟩ index inside
    by_cases early : index < front.length
    · rw [frontContained index early, List.getElem?_append_left early]
    · obtain ⟨rest, rfl⟩ := Nat.exists_eq_add_of_le (Nat.not_lt.mp early)
      rw [List.length_append] at inside
      rw [← Nat.add_assoc, backContained rest (Nat.lt_of_add_lt_add_left inside),
        List.getElem?_append_right (Nat.le_add_right _ _), Nat.add_sub_cancel_left]

theorem contains_singleton {value : Value} :
    Contains memory start [value] ↔ memory start = some value := by
  constructor
  · intro contains
    exact contains 0 (Nat.zero_lt_succ 0)
  · intro held index inside
    obtain rfl : index = 0 := Nat.lt_one_iff.mp inside
    exact held

theorem contains_cons {value : Value} {values : List Value} :
    Contains memory start (value :: values) ↔
      memory start = some value ∧ Contains memory (start + 1) values := by
  rw [← contains_singleton]
  exact @contains_append _ memory start [value] values

/-- Parts of blocks that are apart are apart. -/
theorem Apart.part {first firstCount second secondCount : Nat}
    (apart : Apart first firstCount second secondCount)
    {firstPart firstFew secondPart secondFew : Nat} (afterFirst : first ≤ firstPart)
    (inFirst : firstPart + firstFew ≤ first + firstCount) (afterSecond : second ≤ secondPart)
    (inSecond : secondPart + secondFew ≤ second + secondCount) :
    Apart firstPart firstFew secondPart secondFew := by
  rintro place reaches within ⟨reachesOther, withinOther⟩
  exact apart place (Nat.le_trans afterFirst reaches) (Nat.lt_of_lt_of_le within inFirst)
    ⟨Nat.le_trans afterSecond reachesOther, Nat.lt_of_lt_of_le withinOther inSecond⟩

/-- What is stored in one block leaves another one as it was. -/
theorem Contains.written_apart (contains : Contains memory start values) {other : Nat}
    {stored : List Value} (apart : Apart other stored.length start values.length) :
    Contains (written memory other stored) start values := by
  intro index inside
  rw [written_outside, contains index inside]
  have away := apart (start + index)
  omega

/-! ### Cells that may be accessed -/

theorem Contains.accessible (contains : Contains memory start values) :
    Accessible memory start values.length := by
  intro index inside
  rw [contains index inside, List.getElem?_eq_getElem inside]
  rfl

/-- No store takes a cell away. -/
theorem isSome_written {place : Nat} (accessible : (memory place).isSome = true) :
    (written memory start values place).isSome = true := by
  unfold written
  split_ifs
  · rw [Option.isSome_or, accessible, Bool.or_true]
  · exact accessible

theorem Accessible.kept {first count : Nat} (accessible : Accessible memory first count) :
    Accessible (written memory start values) first count :=
  fun index inside => isSome_written (accessible index inside)

/-- A part of a block. -/
theorem Accessible.part {first count : Nat} (accessible : Accessible memory first count)
    {skipped few : Nat} (inside : skipped + few ≤ count) :
    Accessible memory (first + skipped) few := by
  intro index bound
  rw [Nat.add_assoc]
  exact accessible (skipped + index) (by omega)

theorem store_eq {place : Nat} (accessible : (memory place).isSome = true) (value : Value) :
    store memory place value = some (written memory place [value]) := by
  obtain ⟨old, held⟩ := Option.isSome_iff_exists.mp accessible
  rw [store, held, written_singleton]
  rfl

/-- Values are stored when all of their cells may be accessed. -/
theorem storeAll_eq (accessible : Accessible memory start values.length) :
    storeAll memory start values = some (written memory start values) := by
  induction values generalizing memory start with
  | nil => rw [storeAll, written_nil]
  | cons value values inductionHypothesis =>
    have first : (memory start).isSome = true := accessible 0 (Nat.zero_lt_succ _)
    have rest : Accessible (written memory start [value]) (start + 1) values.length :=
      (accessible.part (by rw [List.length_cons]; omega)).kept
    rw [storeAll, store_eq first, Option.bind_some, inductionHypothesis rest]
    exact congrArg some (written_append [value] values).symm

end

end CheckedMemory
