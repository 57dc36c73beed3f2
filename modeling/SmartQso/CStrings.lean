/-
This file develops C strings and their comparison: two strings are read character by
character, up to a limit, and a string that has ended reads as its terminator. Only the
characters before the terminator and within the limit matter, so a string in an array
that is shorter than the limit is equal to no string that fills the limit. Nothing here
names a particular system.
-/

import Mathlib.Data.List.TakeWhile

namespace CStrings

/-- The characters of a string that a comparison up to a limit looks at. -/
def compared (limit : Nat) (text : List UInt8) : List UInt8 :=
  (text.take limit).takeWhile (· != 0)

/-- Compare two strings up to a limit, by an order of the characters. -/
def compareUpTo (less : UInt8 → UInt8 → Bool) : Nat → List UInt8 → List UInt8 → Ordering
  | 0, _, _ => .eq
  | limit + 1, first, second =>
    let left := first.headD 0
    let right := second.headD 0
    if left ≠ right then if less left right then .lt else .gt
    else if left = 0 then .eq
    else compareUpTo less limit first.tail second.tail

theorem compared_zero (text : List UInt8) : compared 0 text = [] := by
  rw [compared, List.take_zero, List.takeWhile_nil]

theorem compared_of_ended (limit : Nat) {text : List UInt8} (ended : text.headD 0 = 0) :
    compared limit text = [] := by
  cases limit with
  | zero => exact compared_zero text
  | succ limit =>
    cases text with
    | nil => rfl
    | cons character rest =>
      have terminator : character = 0 := ended
      rw [compared, List.take_succ_cons, List.takeWhile_cons_of_neg]
      rw [terminator]
      decide

theorem compared_succ (limit : Nat) {text : List UInt8} (more : text.headD 0 ≠ 0) :
    compared (limit + 1) text = text.headD 0 :: compared limit text.tail := by
  cases text with
  | nil => exact absurd rfl more
  | cons character rest =>
    have kept : (character != 0) = true := bne_iff_ne.mpr more
    rw [compared, List.take_succ_cons, List.takeWhile_cons, if_pos kept]
    rfl

/-- Strings compare equal exactly when the characters looked at are the same. -/
theorem compareUpTo_eq_iff (less : UInt8 → UInt8 → Bool) (limit : Nat)
    (first second : List UInt8) :
    compareUpTo less limit first second = .eq ↔ compared limit first = compared limit second := by
  induction limit generalizing first second with
  | zero => exact iff_of_true rfl (by rw [compared_zero, compared_zero])
  | succ limit inductionHypothesis =>
    unfold compareUpTo
    dsimp only
    by_cases same : first.headD 0 = second.headD 0
    · rw [if_neg (not_not_intro same)]
      by_cases ended : first.headD 0 = 0
      · rw [if_pos ended, compared_of_ended _ ended, compared_of_ended _ (same.symm.trans ended)]
        exact iff_of_true rfl rfl
      · rw [if_neg ended, inductionHypothesis, compared_succ limit ended,
          compared_succ limit (same ▸ ended), same]
        exact (List.cons_inj_right _).symm
    · rw [if_pos same]
      refine iff_of_false (by split <;> decide) fun equal => ?_
      by_cases ended : first.headD 0 = 0
      · have more : second.headD 0 ≠ 0 := fun zero => same (ended.trans zero.symm)
        rw [compared_of_ended _ ended, compared_succ limit more] at equal
        cases equal
      · by_cases otherEnded : second.headD 0 = 0
        · rw [compared_of_ended _ otherEnded, compared_succ limit ended] at equal
          cases equal
        · rw [compared_succ limit ended, compared_succ limit otherEnded] at equal
          exact same (List.cons.inj equal).1

/-! ### Strings and arrays -/

/-- The characters of a string before its terminator. -/
structure Text where
  characters : List UInt8
  plain : 0 ∉ characters
  deriving DecidableEq

/-- The string in an array of a size, terminated within the array. -/
structure TextArray (size : Nat) extends Text where
  fits : characters.length < size
  deriving DecidableEq

/-- The first characters of a string. -/
def Text.take (text : Text) (limit : Nat) : Text where
  characters := text.characters.take limit
  plain member := text.plain (List.mem_of_mem_take member)

/-- The copy of a string into an array, cut where it does not fit. -/
def Text.copy (text : Text) (size : Nat) (positive : 0 < size) : TextArray size where
  toText := text.take (size - 1)
  fits := (List.length_take_le _ _).trans_lt (Nat.sub_one_lt_of_lt positive)

theorem TextArray.eq_of_characters {size : Nat} {first second : TextArray size}
    (same : first.characters = second.characters) : first = second := by
  obtain ⟨⟨characters, plain⟩, fits⟩ := first
  obtain ⟨⟨otherCharacters, otherPlain⟩, otherFits⟩ := second
  cases same
  rfl

/-- Characters without a terminator are read to the end. -/
theorem takeWhile_plain {characters : List UInt8} (plain : 0 ∉ characters) :
    characters.takeWhile (· != 0) = characters :=
  List.takeWhile_eq_self_iff.mpr fun _ member => bne_iff_ne.mpr fun zero => plain (zero ▸ member)

/-- A string is read up to its terminator. -/
theorem Text.takeWhile_terminated (text : Text) (rest : List UInt8) :
    (text.characters ++ 0 :: rest).takeWhile (· != 0) = text.characters := by
  have before : ∀ character ∈ text.characters, (character != 0) = true :=
    fun _ member => bne_iff_ne.mpr fun zero => text.plain (zero ▸ member)
  rw [List.takeWhile_append_of_pos before, List.takeWhile_cons_of_neg (by decide),
    List.append_nil]

/-- All characters of a string are looked at, up to the limit. -/
theorem Text.compared_eq (text : Text) (limit : Nat) :
    compared limit text.characters = text.characters.take limit :=
  takeWhile_plain (text.take limit).plain

/-- Up to its size the string in an array is equal to its own one only. -/
theorem TextArray.compareUpTo_eq_iff {size : Nat} (less : UInt8 → UInt8 → Bool)
    (stored : TextArray size) (text : Text) :
    compareUpTo less size stored.characters text.characters = .eq ↔
      stored.characters = text.characters := by
  rw [CStrings.compareUpTo_eq_iff, Text.compared_eq, Text.compared_eq,
    List.take_of_length_le (Nat.le_of_lt stored.fits)]
  constructor
  · intro same
    have short := stored.fits
    rw [same, List.length_take] at short
    rw [same, List.take_of_length_le (by omega)]
  · intro same
    rw [← same, List.take_of_length_le (Nat.le_of_lt stored.fits)]

theorem Text.copy_characters_of_lt (text : Text) {size : Nat} (positive : 0 < size)
    (short : text.characters.length < size) :
    (text.copy size positive).characters = text.characters :=
  List.take_of_length_le (Nat.le_sub_one_of_lt short)

end CStrings
