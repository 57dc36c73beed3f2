/-
This file models `yaml_parse_int` and `yaml_parse_uint`.

Both convert with the C library, to a type of 64 bits, and cast what it returns to 32
bits. A whole numeral is accepted whatever its integer is, so what is stored is the
integer exactly where it fits the narrow type.
-/

import SmartQso.CNumerals

namespace SmartQso

open CNumerals

/-! ### The parsers -/

/-- What the two parsers share: a conversion of the C library and the cast of its number. -/
def yamlParseNumber {α β : Type*} (convert : List Char → α × List Char) (cast : α → β)
    (value : Option (List Char)) (result : Option β) : Bool × Option β :=
  match value, result with
  | some value, some _ =>
    let (val, endptr) := convert value
    if endptr = value ∨ endptr ≠ [] then (false, result) else (true, some (cast val))
  | _, _ => (false, result)

/-- `yaml_parse_int`, with what the result holds before and after. -/
def yamlParseInt (value : Option (List Char)) (result : Option Int32) : Bool × Option Int32 :=
  yamlParseNumber CNumerals.strtol Int64.toInt32 value result

/-- `yaml_parse_uint`, with what the result holds before and after. -/
def yamlParseUint (value : Option (List Char)) (result : Option UInt32) : Bool × Option UInt32 :=
  yamlParseNumber CNumerals.strtoul UInt64.toUInt32 value result

/-! ### Exact parsing -/

/-- The integers of an `int32_t`. -/
def FitsInt (value : ℤ) : Prop := Int32.minValue.toInt ≤ value ∧ value ≤ Int32.maxValue.toInt

/-- The integer of a `uint32_t`. -/
def uintValue (number : UInt32) : ℤ := number.toNat

/-- The integers of a `uint32_t`. -/
def FitsUint (value : ℤ) : Prop := 0 ≤ value ∧ value < UInt32.size

/-- A text is parsed without wrap. Success stores the integer that the text denotes, which fits, and
a text whose integer does not fit is rejected with the result untouched. -/
structure ParsesExactly {β : Type*} (parse : Option (List Char) → Option β → Bool × Option β)
    (integer : β → ℤ) (Fits : ℤ → Prop) (text : List Char) (before : β) : Prop where
  stores : (parse (some text) (some before)).1 = true → ∃ value, Fits value ∧ Denotes text value ∧
    (parse (some text) (some before)).2.map integer = some value
  rejects : ∀ value, Denotes text value → ¬ Fits value →
    parse (some text) (some before) = (false, some before)

section

variable {α β : Type*} {wide : ℤ → α} {cast : α → β}

/-- A numeral is accepted, and its converted integer stored. -/
theorem yamlParseNumber_of_denotes {text : List Char} {value : ℤ} (denotes : Denotes text value)
    (before : β) : yamlParseNumber (convert wide) cast (some text) (some before) =
      (true, some (cast (wide value))) := by
  have some : text ≠ [] := by
    rintro rfl
    have none := numeral_eq_iff_denotes.mpr denotes
    cases none
  unfold yamlParseNumber
  dsimp only
  rw [denotes.convert wide]
  exact if_neg fun failed => failed.elim (fun same => some same.symm) (fun behind => behind rfl)

/-- Only numerals are accepted. -/
theorem denotes_of_yamlParseNumber {text : List Char} {before : β}
    (accepted : (yamlParseNumber (convert wide) cast (some text) (some before)).1 = true) :
    ∃ value, Denotes text value := by
  unfold yamlParseNumber at accepted
  dsimp only at accepted
  split_ifs at accepted with failed
  obtain ⟨moved, ended⟩ := not_or.mp failed
  exact denotes_of_convert moved (not_not.mp ended)

/-- Texts are parsed without wrap exactly when the cast keeps every integer that they denote. -/
theorem parsesExactly_iff_fits {integer : β → ℤ} {Fits : ℤ → Prop}
    (narrows : ∀ value, integer (cast (wide value)) = value ↔ Fits value) (text : List Char)
    (before : β) : ParsesExactly (yamlParseNumber (convert wide) cast) integer Fits text before ↔
      ∀ value, Denotes text value → Fits value := by
  constructor
  · intro exactly value denotes
    by_contra misfit
    have rejected := exactly.rejects value denotes misfit
    rw [yamlParseNumber_of_denotes denotes] at rejected
    cases rejected
  · intro fits
    refine ⟨fun accepted => ?_, fun value denotes misfit => absurd (fits value denotes) misfit⟩
    obtain ⟨value, denotes⟩ := denotes_of_yamlParseNumber accepted
    refine ⟨value, fits value denotes, denotes, ?_⟩
    rw [yamlParseNumber_of_denotes denotes]
    exact congrArg some ((narrows value).mpr (fits value denotes))

end

/-! ### The casts -/

/-- The cast to `int32_t` keeps the integers that fit and no others. -/
theorem toInt_toInt32_iff (value : ℤ) :
    (Int64.ofIntClamp value).toInt32.toInt = value ↔ FitsInt value := by
  constructor
  · intro same
    rw [← same]
    exact ⟨Int32.minValue_le_toInt _, Int32.toInt_le _⟩
  · rintro ⟨low, high⟩
    have least : Int32.minValue.toInt = -2147483648 := rfl
    have greatest : Int32.maxValue.toInt = 2147483647 := rfl
    rw [Int64.toInt32_ofIntClamp (by omega) (by omega)]
    exact Int32.toInt_ofInt_of_le (by omega) (by omega)

/-- The cast to `uint32_t` keeps the integers that fit and no others. -/
theorem toNat_toUInt32_iff (value : ℤ) :
    uintValue (toUnsignedLong value).toUInt32 = value ↔ FitsUint value := by
  unfold uintValue
  constructor
  · intro same
    rw [← same]
    exact ⟨Int.natCast_nonneg _, Int.ofNat_lt.mpr (UInt32.toNat_lt_size _)⟩
  · rintro ⟨low, high⟩
    obtain ⟨number, rfl⟩ := Int.eq_ofNat_of_zero_le low
    have fits : number < UInt32.size := Int.ofNat_lt.mp high
    rw [UInt64.toNat_toUInt32, toNat_toUnsignedLong (fits.trans (by decide))]
    exact congrArg Nat.cast (Nat.mod_eq_of_lt fits)

/-! ### The two parsers -/

/-- The two parsers are exact on a text exactly when it denotes no integer outside of their
ranges. -/
theorem parsesExactly_iff (text : List Char) (int : Int32) (uint : UInt32) :
    (ParsesExactly yamlParseInt Int32.toInt FitsInt text int ↔
        ∀ value, Denotes text value → FitsInt value) ∧
      (ParsesExactly yamlParseUint uintValue FitsUint text uint ↔
        ∀ value, Denotes text value → FitsUint value) :=
  ⟨parsesExactly_iff_fits toInt_toInt32_iff text int,
    parsesExactly_iff_fits toNat_toUInt32_iff text uint⟩

/-- `INT32_MAX + 1` is stored as `INT32_MIN`, and `-1` as `UINT32_MAX`. -/
theorem parsesExactly_fails :
    ¬ ParsesExactly yamlParseInt Int32.toInt FitsInt "2147483648".toList 0 ∧
      ¬ ParsesExactly yamlParseUint uintValue FitsUint "-1".toList 0 := by
  constructor
  · intro claimed
    have denotes : Denotes "2147483648".toList 2147483648 :=
      numeral_eq_iff_denotes.mp (by decide)
    have rejected := claimed.rejects _ denotes (by unfold FitsInt; decide)
    revert rejected
    decide
  · intro claimed
    have denotes : Denotes "-1".toList (-1) := numeral_eq_iff_denotes.mp (by decide)
    have rejected := claimed.rejects _ denotes (by unfold FitsUint; decide)
    revert rejected
    decide

end SmartQso
