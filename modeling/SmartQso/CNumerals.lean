/-
This file reads decimal integers the way the C library does.

`strtol` and `strtoul` skip white space, take a sign and the longest run of digits, and
report where they stopped. What number they return where the integer does not fit is
theirs, so the reader takes that conversion as a parameter.
-/

import Mathlib.Data.Int.Notation
import Mathlib.Data.List.TakeWhile

namespace CNumerals

/-- `isspace` in the default locale. -/
def isSpace (char : Char) : Bool := char == ' ' || ('\t' ≤ char && char ≤ '\r')

/-! ### Numerals -/

/-- The sign of a numeral. -/
inductive Sign
  | none
  | plus
  | minus
  deriving DecidableEq

/-- How a sign is written. -/
def Sign.text : Sign → List Char
  | none => []
  | plus => ['+']
  | minus => ['-']

/-- The integer of a sign and a magnitude. -/
def Sign.apply : Sign → ℕ → ℤ
  | minus, magnitude => -magnitude
  | _, magnitude => magnitude

/-- White space, a sign and digits denote an integer. -/
def Denotes (text : List Char) (value : ℤ) : Prop :=
  ∃ (spaces : List Char) (sign : Sign) (digits : List Char),
    text = spaces ++ (sign.text ++ digits) ∧ (∀ char ∈ spaces, isSpace char = true) ∧
      digits ≠ [] ∧ (∀ char ∈ digits, char.isDigit = true) ∧
      value = sign.apply (Nat.ofDigitChars 10 digits 0)

/-! ### Reading -/

/-- The sign that a text starts with, and the text behind it. -/
def splitSign : List Char → Sign × List Char
  | '+' :: rest => (.plus, rest)
  | '-' :: rest => (.minus, rest)
  | text => (.none, text)

/-- The integer that a text starts with, and the text behind it. -/
def numeral (text : List Char) : Option (ℤ × List Char) :=
  let (sign, rest) := splitSign (text.dropWhile isSpace)
  if rest.takeWhile Char.isDigit = [] then none
  else some (sign.apply (Nat.ofDigitChars 10 (rest.takeWhile Char.isDigit) 0),
    rest.dropWhile Char.isDigit)

/-- The number returned for a text, and the text at `endptr`. -/
def convert {α : Type*} (wide : ℤ → α) (text : List Char) : α × List Char :=
  match numeral text with
  | none => (wide 0, text)
  | some (value, rest) => (wide value, rest)

/-- `strtol` with base 10, for a `long` of 64 bits. -/
def strtol (text : List Char) : Int64 × List Char := convert Int64.ofIntClamp text

/-- A magnitude that fits is negated as an unsigned number, any other one gives the greatest. -/
def toUnsignedLong (value : ℤ) : UInt64 :=
  if value.natAbs < UInt64.size then UInt64.ofInt value else UInt64.ofNat (UInt64.size - 1)

/-- `strtoul` with base 10, for an `unsigned long` of 64 bits. -/
def strtoul (text : List Char) : UInt64 × List Char := convert toUnsignedLong text

/-! ### What is read -/

theorem splitSign_eq {text : List Char} {sign : Sign} {rest : List Char}
    (split : splitSign text = (sign, rest)) : text = sign.text ++ rest := by
  revert split
  fun_cases splitSign text <;> (rintro ⟨rfl, rfl⟩; rfl)

/-- Digits start with neither white space nor a sign. -/
theorem head_isDigit {char : Char} (digit : char.isDigit = true) :
    isSpace char = false ∧ char ≠ '+' ∧ char ≠ '-' := by
  obtain ⟨low, -⟩ := Char.isDigit_iff_toNat.mp digit
  refine ⟨?_, ?_, ?_⟩
  · rw [← Bool.not_eq_true]
    intro space
    simp only [isSpace, Bool.or_eq_true, beq_iff_eq, Bool.and_eq_true, decide_eq_true_eq] at space
    obtain rfl | ⟨-, high⟩ := space
    · exact absurd low (by decide)
    · exact absurd (low.trans high) (by decide)
  · rintro rfl
    exact absurd low (by decide)
  · rintro rfl
    exact absurd low (by decide)

theorem splitSign_text (sign : Sign) {digits : List Char} (some : digits ≠ [])
    (all : ∀ char ∈ digits, char.isDigit = true) :
    splitSign (sign.text ++ digits) = (sign, digits) := by
  obtain ⟨first, rest, rfl⟩ := List.exists_cons_of_ne_nil some
  obtain ⟨-, plus, minus⟩ := head_isDigit (all first List.mem_cons_self)
  cases sign with
  | none =>
    show splitSign (first :: rest) = _
    unfold splitSign
    split
    case h_1 same => exact absurd (List.cons.inj same).1 plus
    case h_2 same => exact absurd (List.cons.inj same).1 minus
    case h_3 => rfl
  | plus => rfl
  | minus => rfl

/-- Behind the white space stands a sign or a digit. -/
theorem dropWhile_isSpace {spaces : List Char} (blank : ∀ char ∈ spaces, isSpace char = true)
    (sign : Sign) {digits : List Char} (some : digits ≠ [])
    (all : ∀ char ∈ digits, char.isDigit = true) :
    (spaces ++ (sign.text ++ digits)).dropWhile isSpace = sign.text ++ digits := by
  rw [List.dropWhile_append_of_pos blank]
  obtain ⟨first, rest, rfl⟩ := List.exists_cons_of_ne_nil some
  obtain ⟨plain, -, -⟩ := head_isDigit (all first List.mem_cons_self)
  cases sign with
  | none => exact List.dropWhile_cons_of_neg (by rw [plain]; exact Bool.false_ne_true)
  | plus => rfl
  | minus => rfl

/-- A whole text is read exactly when it denotes the integer. -/
theorem numeral_eq_iff_denotes {text : List Char} {value : ℤ} :
    numeral text = some (value, []) ↔ Denotes text value := by
  unfold numeral
  constructor
  · intro whole
    generalize split : splitSign (text.dropWhile isSpace) = signed at whole
    obtain ⟨sign, rest⟩ := signed
    dsimp only at whole
    split_ifs at whole with empty
    obtain ⟨rfl, ended⟩ := Prod.mk.inj (Option.some.inj whole)
    have all := List.dropWhile_eq_nil_iff.mp ended
    rw [List.takeWhile_eq_self_iff.mpr all] at empty ⊢
    refine ⟨text.takeWhile isSpace, sign, rest, ?_, fun char => List.mem_takeWhile_imp, empty, all,
      rfl⟩
    rw [← splitSign_eq split, List.takeWhile_append_dropWhile]
  · rintro ⟨spaces, sign, digits, rfl, blank, some, all, rfl⟩
    have whole : digits.takeWhile Char.isDigit = digits := List.takeWhile_eq_self_iff.mpr all
    have ended : digits.dropWhile Char.isDigit = [] := List.dropWhile_eq_nil_iff.mpr all
    rw [dropWhile_isSpace blank sign some all, splitSign_text sign some all]
    dsimp only
    rw [whole, ended, if_neg some]

/-- A text denotes one integer at most. -/
theorem Denotes.unique {text : List Char} {value other : ℤ} (this : Denotes text value)
    (that : Denotes text other) : value = other := by
  have same := (numeral_eq_iff_denotes.mpr this).symm.trans (numeral_eq_iff_denotes.mpr that)
  exact congrArg Prod.fst (Option.some.inj same)

/-- A text that denotes an integer is converted as a whole. -/
theorem Denotes.convert {α : Type*} {text : List Char} {value : ℤ} (denotes : Denotes text value)
    (wide : ℤ → α) : convert wide text = (wide value, []) := by
  unfold CNumerals.convert
  rw [numeral_eq_iff_denotes.mpr denotes]

theorem isDigit_of_mem_toDigits {char : Char} {number : ℕ}
    (member : char ∈ Nat.toDigits 10 number) : char.isDigit = true :=
  Nat.isDigit_of_mem_toDigits (Nat.succ_pos 9) (Nat.le_refl 10) member

/-- The codes of digits. -/
theorem toNat_of_mem_toDigits {char : Char} {number : ℕ}
    (member : char ∈ Nat.toDigits 10 number) : 48 ≤ char.toNat ∧ char.toNat ≤ 57 :=
  Char.isDigit_iff_toNat.mp (isDigit_of_mem_toDigits member)

/-- A sign and the digits of a magnitude denote the integer of both. -/
theorem Sign.denotes (sign : Sign) (number : ℕ) :
    Denotes (sign.text ++ Nat.toDigits 10 number) (sign.apply number) :=
  ⟨[], sign, Nat.toDigits 10 number, rfl, fun _ absent => absurd absent List.not_mem_nil,
    Nat.toDigits_ne_nil, fun _ => isDigit_of_mem_toDigits,
    by rw [Nat.ofDigitChars_ten_toDigits]⟩

/-- Digits denote their number. -/
theorem denotes_toDigits (number : ℕ) : Denotes (Nat.toDigits 10 number) number :=
  Sign.none.denotes number

/-- A conversion that stops elsewhere than at its start has read an integer. -/
theorem denotes_of_convert {α : Type*} {wide : ℤ → α} {text : List Char}
    (moved : (CNumerals.convert wide text).2 ≠ text)
    (ended : (CNumerals.convert wide text).2 = []) : ∃ value, Denotes text value := by
  unfold CNumerals.convert at moved ended
  cases read : numeral text with
  | none =>
    rw [read] at moved
    exact absurd rfl moved
  | some pair =>
    obtain ⟨value, rest⟩ := pair
    rw [read] at ended
    cases ended
    exact ⟨value, numeral_eq_iff_denotes.mp read⟩

/-- A natural number that fits is converted to itself. -/
theorem toNat_toUnsignedLong {number : ℕ} (fits : number < UInt64.size) :
    (toUnsignedLong number).toNat = number := by
  unfold toUnsignedLong
  rw [Int.natAbs_natCast, if_pos fits, UInt64.ofInt, UInt64.toNat_ofNat']
  have size : UInt64.size = 18446744073709551616 := rfl
  omega

end CNumerals
