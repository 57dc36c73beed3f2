/-
This file models the two functions of `safe_string.c` that write integers in decimal. The digits
come out in the wrong order, so they are collected in a local array first. The file proves that
the array is large enough for every integer and that the text is read back as the integer.
-/

import Mathlib.Data.List.Induction
import SmartQso.Beacon
import SmartQso.CNumerals
import SmartQso.SafeStrings

namespace SmartQso

open CheckedMemory CNumerals

/-! ### The functions -/

/-- The loop that stores the digits of a number in reverse order. -/
def storeDigits (pos : Nat) (uvalue : UInt32) (temp : Memory UInt8) :
    Option (Nat × Memory UInt8) := do
  let temp ← store temp pos (48 + uvalue % 10).toUInt8
  if more : uvalue / 10 > 0 then storeDigits (pos + 1) (uvalue / 10) temp
  else some (pos + 1, temp)
termination_by uvalue.toNat
decreasing_by
  have positive : 0 < uvalue.toNat / 10 := more
  show uvalue.toNat / 10 < uvalue.toNat
  omega

/-- The sign of a negative number, behind its digits. -/
def storeSign (negative : Bool) (pos : Nat) (temp : Memory UInt8) :
    Option (Nat × Memory UInt8) :=
  if negative then (store temp pos 45).map fun temp => (pos + 1, temp) else some (pos, temp)

/-- The loop that copies the characters to the buffer, the last one first. -/
def copyReversed (temp : Memory UInt8) (buffer : Nat) :
    Nat → Nat → Memory UInt8 → Option (Nat × Memory UInt8)
  | 0, out, memory => some (out, memory)
  | pos + 1, out, memory => do
    let character ← temp pos
    let memory ← store memory (buffer + out) character
    copyReversed temp buffer pos (out + 1) memory

/-- What `safe_itoa` and `safe_utoa` do with the characters they have collected. -/
def writeNumeral (temp : Memory UInt8) (pos : Nat) (memory : Memory UInt8)
    (buffer bufferSize : Nat) (length : Option Nat) : Option StringOutcome :=
  if pos ≥ bufferSize then
    (store memory buffer 0).map fun memory => ⟨.errorTruncated, memory, length⟩
  else do
    let copied ← copyReversed temp buffer pos 0 memory
    let memory ← store copied.2 (buffer + copied.1) 0
    some ⟨.ok, memory, length.map fun _ => copied.1⟩

/-- The magnitude of an integer; its negation does not overflow. -/
def magnitude (value : Int32) : UInt32 :=
  if value < 0 then (-(value + 1)).toUInt32 + 1 else value.toUInt32

/-- `safe_itoa`, with what is in its local array when it starts. -/
def safeItoa (temp : Vector UInt8 12) (memory : Memory UInt8) (value : Int32)
    (buffer : Option Nat) (bufferSize : Nat) (length : Option Nat) : Option StringOutcome :=
  match buffer with
  | none => some ⟨.errorParam, memory, length⟩
  | some buffer =>
    if bufferSize < 2 then some ⟨.errorParam, memory, length⟩
    else do
      let digits ← storeDigits 0 (magnitude value) (block 0 temp.toList)
      let signed ← storeSign (value < 0) digits.1 digits.2
      writeNumeral signed.2 signed.1 memory buffer bufferSize length

/-- `safe_utoa`, with what is in its local array when it starts. -/
def safeUtoa (temp : Vector UInt8 11) (memory : Memory UInt8) (value : UInt32)
    (buffer : Option Nat) (bufferSize : Nat) (length : Option Nat) : Option StringOutcome :=
  match buffer with
  | none => some ⟨.errorParam, memory, length⟩
  | some buffer =>
    if bufferSize < 2 then some ⟨.errorParam, memory, length⟩
    else do
      let digits ← storeDigits 0 value (block 0 temp.toList)
      writeNumeral digits.2 digits.1 memory buffer bufferSize length

/-! ### The numerals -/

theorem toInt_eq_toUInt32 (value : Int32) :
    value.toInt = if value.toUInt32.toNat < 2147483648 then (value.toUInt32.toNat : Int)
      else (value.toUInt32.toNat : Int) - 4294967296 := by
  have word : value.toInt = if 2 * value.toUInt32.toNat < 4294967296
      then (value.toUInt32.toNat : Int) else (value.toUInt32.toNat : Int) - 4294967296 :=
    BitVec.toInt_eq_toNat_cond value.toBitVec
  rw [word]
  split_ifs <;> omega

theorem toNat_magnitude (value : Int32) : (magnitude value).toNat = value.toInt.natAbs := by
  have bound : value.toUInt32.toNat < 4294967296 := UInt32.toNat_lt _
  have word := toInt_eq_toUInt32 value
  unfold magnitude
  split_ifs with negative
  · have sign : value.toInt < 0 := Int32.lt_iff_toInt_lt.mp negative
    have flip : (-(value + 1)).toUInt32 = -(value.toUInt32 + 1) := rfl
    have one : (1 : UInt32).toNat = 1 := rfl
    have size : UInt32.size = 4294967296 := rfl
    rw [flip, UInt32.toNat_add, UInt32.toNat_neg, UInt32.toNat_add, one, size]
    split_ifs at word <;> omega
  · have sign : ¬ value.toInt < 0 := fun less => negative (Int32.lt_iff_toInt_lt.mpr less)
    split_ifs at word <;> omega

theorem digitByte_eq (uvalue : UInt32) :
    (48 + uvalue % 10).toUInt8 = (Nat.digitChar (uvalue.toNat % 10)).toNat.toUInt8 := by
  have small : uvalue.toNat % 10 < 10 := Nat.mod_lt _ (Nat.succ_pos 9)
  have digit : (uvalue % 10).toNat = uvalue.toNat % 10 := UInt32.toNat_mod _ _
  have zero : (48 : UInt32).toNat = 48 := rfl
  rw [Nat.toNat_digitChar_of_lt_ten small]
  refine UInt8.toNat_inj.mp ?_
  rw [UInt32.toNat_toUInt8, UInt32.toNat_add, digit, zero, Nat.toUInt8, UInt8.toNat_ofNat']
  omega

/-- One digit, or those of the tenth part and one digit. -/
theorem formatUnsigned_cases (number : Nat) :
    formatUnsigned number =
      (if number / 10 > 0 then formatUnsigned (number / 10) else []) ++
        [(Nat.digitChar (number % 10)).toNat.toUInt8] := by
  unfold formatUnsigned
  split_ifs with more
  · rw [Nat.toDigits_of_base_le (Nat.lt_of_sub_eq_succ rfl) (by omega), List.map_append]
    rfl
  · have small : number < 10 := by omega
    rw [Nat.toDigits_of_lt_base small, Nat.mod_eq_of_lt small]
    rfl

/-- The loop stores the digits in reverse order. -/
theorem storeDigits_eq {pos : Nat} {uvalue : UInt32} {temp : Memory UInt8}
    (accessible : Accessible temp pos (formatUnsigned uvalue.toNat).length) :
    storeDigits pos uvalue temp =
      some (pos + (formatUnsigned uvalue.toNat).length,
        written temp pos (formatUnsigned uvalue.toNat).reverse) := by
  induction size : uvalue.toNat using Nat.strong_induction_on generalizing pos uvalue temp with
  | _ number inductionHypothesis =>
    subst size
    have tenth : (uvalue / 10).toNat = uvalue.toNat / 10 := UInt32.toNat_div _ _
    rw [formatUnsigned_cases] at accessible ⊢
    rw [List.length_append, List.length_singleton] at accessible ⊢
    have cell : (temp pos).isSome = true := accessible 0 (Nat.succ_pos _)
    rw [List.reverse_append, List.reverse_singleton, storeDigits, store_eq cell,
      Option.bind_eq_bind, Option.bind_some, digitByte_eq]
    by_cases more : uvalue / 10 > 0
    · have positive : uvalue.toNat / 10 > 0 := tenth ▸ more
      rw [if_pos positive] at accessible ⊢
      rw [← tenth] at accessible ⊢
      have rest : Accessible (written temp pos [(uvalue.toNat % 10).digitChar.toNat.toUInt8])
          (pos + 1) (formatUnsigned (uvalue / 10).toNat).length :=
        (accessible.part (by omega)).kept
      rw [dif_pos more, inductionHypothesis _ (by omega) rest rfl, List.singleton_append]
      refine congrArg some (Prod.ext (by dsimp only; omega) ?_)
      exact (written_append [_] _).symm
    · have small : ¬ uvalue.toNat / 10 > 0 := tenth ▸ more
      rw [dif_neg more, if_neg small]
      rfl

/-- The loop copies the characters in reverse order. -/
theorem copyReversed_eq {temp memory : Memory UInt8} {buffer out : Nat} {values : List UInt8}
    (contains : Contains temp 0 values)
    (accessible : Accessible memory (buffer + out) values.length) :
    copyReversed temp buffer values.length out memory =
      some (out + values.length, written memory (buffer + out) values.reverse) := by
  induction values using List.reverseRecOn generalizing out memory with
  | nil =>
    rw [List.reverse_nil, written_nil]
    rfl
  | append_singleton values last inductionHypothesis =>
    obtain ⟨front, back⟩ := contains_append.mp contains
    have read : temp values.length = some last := by
      rw [← Nat.zero_add values.length]
      exact contains_singleton.mp back
    rw [List.length_append, List.length_singleton] at accessible ⊢
    have cell : (memory (buffer + out)).isSome = true := accessible 0 (Nat.succ_pos _)
    have rest : Accessible (written memory (buffer + out) [last]) (buffer + (out + 1))
        values.length :=
      (accessible.part (Nat.le_of_eq (Nat.add_comm _ _))).kept
    rw [copyReversed, read, Option.bind_eq_bind, Option.bind_some, store_eq cell,
      Option.bind_eq_bind, Option.bind_some, inductionHypothesis front rest, List.reverse_append,
      List.reverse_singleton]
    refine congrArg some (Prod.ext (by dsimp only; omega) ?_)
    exact (written_append [last] values.reverse).symm

/-! ### Reading back -/

/-- The characters of a text in memory. -/
def readText (text : List UInt8) : List Char := text.map Char.ofUInt8

theorem readText_formatUnsigned (number : Nat) :
    readText (formatUnsigned number) = Nat.toDigits 10 number := by
  unfold readText formatUnsigned
  rw [List.map_map]
  refine (List.map_congr_left fun digit member => ?_).trans (List.map_id _)
  have bounds := toNat_of_mem_toDigits member
  refine Char.toNat_inj.mp ?_
  show digit.toNat.toUInt8.toNat = digit.toNat
  rw [Nat.toUInt8, UInt8.toNat_ofNat']
  exact Nat.mod_eq_of_lt (Nat.lt_of_le_of_lt bounds.2 (by decide))

theorem ascii_natural (number : Nat) : ascii (toString number) = formatUnsigned number := by
  rw [ascii, formatUnsigned]
  simp

theorem ascii_integer (value : Int) :
    ascii (toString value) =
      (if value < 0 then [45] else []) ++ formatUnsigned value.natAbs := by
  cases value with
  | ofNat number => exact ascii_natural number
  | negSucc number =>
    have text : toString (Int.negSucc number) = "-" ++ toString (number + 1) := rfl
    rw [text, if_pos (Int.negSucc_lt_zero number), Int.natAbs_negSucc, ← ascii_natural, ascii,
      String.toList_append, List.map_append]
    rfl

/-- The text of an integer denotes it. -/
theorem denotes_integer (value : Int) : Denotes (readText (ascii (toString value))) value := by
  rw [ascii_integer]
  split_ifs with negative
  · have integer : Sign.minus.apply value.natAbs = value := by
      rw [Sign.apply, Int.ofNat_natAbs_of_nonpos (Int.le_of_lt negative), Int.neg_neg]
    have text : readText ([45] ++ formatUnsigned value.natAbs) =
        Sign.minus.text ++ Nat.toDigits 10 value.natAbs := by
      rw [← readText_formatUnsigned]
      rfl
    have denotes := Sign.minus.denotes value.natAbs
    rwa [integer, ← text] at denotes
  · have integer : (value.natAbs : Int) = value := Int.natAbs_of_nonneg (Int.not_lt.mp negative)
    have denotes := denotes_toDigits value.natAbs
    rwa [integer, ← readText_formatUnsigned] at denotes

/-- A text is read back as its integer. -/
theorem strtol_integer (value : Int32) :
    strtol (readText (ascii (toString value.toInt))) = (value.toInt64, []) := by
  have same : Int64.ofIntClamp value.toInt = value.toInt64 := by
    have low := Int32.le_toInt value
    have high := Int32.toInt_lt value
    refine Int64.toInt_inj.mp ?_
    rw [Int32.toInt_toInt64, Int64.toInt_ofIntClamp]
    · exact Int.le_trans (by decide) low
    · exact Int.le_trans (Int.le_of_lt high) (by decide)
  rw [strtol, (denotes_integer value.toInt).convert, same]

theorem strtoul_natural (value : UInt32) :
    strtoul (readText (ascii (toString value.toNat))) = (value.toUInt64, []) := by
  have same : toUnsignedLong value.toNat = value.toUInt64 := by
    refine UInt64.toNat_inj.mp ?_
    rw [toNat_toUnsignedLong (Nat.lt_trans value.toNat_lt (by decide)), UInt32.toNat_toUInt64]
  rw [strtoul, ascii_natural, readText_formatUnsigned, (denotes_toDigits value.toNat).convert, same]

/-! ### The texts -/

/-- A numeral in a buffer of a size: all of it with its terminator and its length, or nothing. -/
def numeralOutcome (memory : Memory UInt8) (buffer bufferSize : Nat) (text : List UInt8)
    (length : Option Nat) : StringOutcome :=
  if text.length < bufferSize then
    ⟨.ok, written memory buffer (text ++ [0]), length.map fun _ => text.length⟩
  else ⟨.errorTruncated, written memory buffer [0], length⟩

section

variable {memory : Memory UInt8} {buffer : Nat} {bytes : List UInt8}

theorem writeNumeral_eq {temp : Memory UInt8} {text : List UInt8}
    (collected : Contains temp 0 text.reverse) (contains : Contains memory buffer bytes)
    (some : bytes ≠ []) (length : Option Nat) :
    writeNumeral temp text.length memory buffer bytes.length length =
      Option.some (numeralOutcome memory buffer bytes.length text length) := by
  unfold writeNumeral numeralOutcome
  by_cases fits : text.length < bytes.length
  · have room : Accessible memory (buffer + 0) text.reverse.length := by
      rw [List.length_reverse]
      exact contains.accessible.part (by omega)
    have copied := copyReversed_eq collected room
    rw [List.length_reverse, List.reverse_reverse, Nat.zero_add, Nat.add_zero] at copied
    have cell : (written memory buffer text (buffer + text.length)).isSome = true :=
      isSome_written (contains.accessible text.length fits)
    rw [if_neg (Nat.not_le.mpr fits), if_pos fits, copied, Option.bind_eq_bind, Option.bind_some,
      store_eq cell, Option.bind_eq_bind, Option.bind_some, ← written_append]
  · have cell : (memory buffer).isSome = true :=
      contains.accessible 0 (List.length_pos_iff.mpr some)
    rw [if_pos (Nat.not_lt.mp fits), if_neg fits, store_eq cell, Option.map_some]

theorem length_formatUnsigned_le {number : Nat} (word : number < 4294967296) :
    (formatUnsigned number).length ≤ 10 := by
  unfold formatUnsigned
  rw [List.length_map]
  exact (Nat.length_toDigits_le_iff (by decide) (by decide)).mpr (Nat.lt_trans word (by decide))

/-- The digits of a number fit into a local array. -/
theorem storeDigits_array {array : List UInt8} (room : 10 ≤ array.length) (uvalue : UInt32) :
    storeDigits 0 uvalue (block 0 array) = some ((formatUnsigned uvalue.toNat).length,
      written (block 0 array) 0 (formatUnsigned uvalue.toNat).reverse) := by
  have contained : Contains (block 0 array) 0 array := contains_written
  have few := length_formatUnsigned_le uvalue.toNat_lt
  have cells : Accessible (block 0 array) 0 (formatUnsigned uvalue.toNat).length :=
    fun index inside => contained.accessible index (by omega)
  rw [storeDigits_eq cells, Nat.zero_add]

/-- The sign of an integer fits behind its digits. -/
theorem storeSign_array {array digits : List UInt8} (room : digits.length < array.length)
    (negative : Bool) :
    storeSign negative digits.length (written (block 0 array) 0 digits.reverse) =
      some (((if negative then [45] else []) ++ digits).length,
        written (block 0 array) 0 ((if negative then [45] else []) ++ digits).reverse) := by
  cases negative with
  | false => rfl
  | true =>
    have contained : Contains (block 0 array) 0 array := contains_written
    have cell : (written (block 0 array) 0 digits.reverse digits.length).isSome = true := by
      rw [← Nat.zero_add digits.length]
      exact isSome_written (contained.accessible digits.length room)
    have placed : written (block 0 array) 0 (digits.reverse ++ [45]) =
        written (written (block 0 array) 0 digits.reverse) (0 + digits.reverse.length) [45] :=
      written_append digits.reverse [45]
    rw [List.length_reverse, Nat.zero_add] at placed
    rw [storeSign, if_pos rfl, if_pos rfl, store_eq cell, Option.map_some, ← placed,
      List.reverse_append]
    rfl

theorem safeItoa_eq (room : 2 ≤ bytes.length) (contains : Contains memory buffer bytes)
    (length : Option Nat) (temp : Vector UInt8 12) (value : Int32) :
    safeItoa temp memory value (some buffer) bytes.length length =
      some (numeralOutcome memory buffer bytes.length (ascii (toString value.toInt)) length) := by
  have size : temp.toList.length = 12 := temp.length_toList
  have few := length_formatUnsigned_le (magnitude value).toNat_lt
  have sign : decide (value < 0) = decide (value.toInt < 0) :=
    decide_eq_decide.mpr Int32.lt_iff_toInt_lt
  have numeral : ascii (toString value.toInt) = (if decide (value < 0) = true then [45] else []) ++
      formatUnsigned (magnitude value).toNat := by
    rw [ascii_integer, toNat_magnitude, sign]
    simp only [decide_eq_true_eq]
  dsimp only [safeItoa]
  rw [if_neg (Nat.not_lt.mpr room), storeDigits_array (by omega), Option.bind_eq_bind,
    Option.bind_some, storeSign_array (by omega), Option.bind_some, ← numeral]
  exact writeNumeral_eq contains_written contains
    (List.length_pos_iff.mp (Nat.lt_of_lt_of_le Nat.zero_lt_two room)) length

theorem safeUtoa_eq (room : 2 ≤ bytes.length) (contains : Contains memory buffer bytes)
    (length : Option Nat) (temp : Vector UInt8 11) (value : UInt32) :
    safeUtoa temp memory value (some buffer) bytes.length length =
      some (numeralOutcome memory buffer bytes.length (ascii (toString value.toNat)) length) := by
  have size : temp.toList.length = 11 := temp.length_toList
  dsimp only [safeUtoa]
  rw [if_neg (Nat.not_lt.mpr room), storeDigits_array (by omega), Option.bind_eq_bind,
    Option.bind_some, ascii_natural]
  exact writeNumeral_eq contains_written contains
    (List.length_pos_iff.mp (Nat.lt_of_lt_of_le Nat.zero_lt_two room)) length

/-- The decimal text of every integer is written to a buffer with its terminator and its length when
it fits, and an empty text otherwise; the text is read back as the integer. This is so with anything
in the local array, which is the only other memory that may be accessed: no character is stored
behind its end. -/
theorem integer_texts (room : 2 ≤ bytes.length) (contains : Contains memory buffer bytes)
    (length : Option Nat) :
    (∀ (temp : Vector UInt8 12) (value : Int32),
      safeItoa temp memory value (some buffer) bytes.length length =
        some (numeralOutcome memory buffer bytes.length (ascii (toString value.toInt)) length) ∧
      strtol (readText (ascii (toString value.toInt))) = (value.toInt64, [])) ∧
    ∀ (temp : Vector UInt8 11) (value : UInt32),
      safeUtoa temp memory value (some buffer) bytes.length length =
        some (numeralOutcome memory buffer bytes.length (ascii (toString value.toNat)) length) ∧
      strtoul (readText (ascii (toString value.toNat))) = (value.toUInt64, []) :=
  ⟨fun temp value => ⟨safeItoa_eq room contains length temp value, strtol_integer value⟩,
    fun temp value => ⟨safeUtoa_eq room contains length temp value, strtoul_natural value⟩⟩

end

/-- The least integer fills a buffer of twelve cells and does not fit into one of eleven. -/
theorem integer_texts_sample :
    (safeItoa (Vector.replicate 12 0xFF) (block 0 (List.replicate 12 0)) (-2147483648) (some 0) 12
      none = some (numeralOutcome (block 0 (List.replicate 12 0)) 0 12
        (ascii (toString (-2147483648 : Int))) none)) ∧
    safeItoa (Vector.replicate 12 0xFF) (block 0 (List.replicate 11 0)) (-2147483648) (some 0) 11
      none = some (numeralOutcome (block 0 (List.replicate 11 0)) 0 11
        (ascii (toString (-2147483648 : Int))) none) :=
  ⟨((@integer_texts _ 0 (List.replicate 12 0) (by decide) contains_written none).1 _ _).1,
    ((@integer_texts _ 0 (List.replicate 11 0) (by decide) contains_written none).1 _ _).1⟩

end SmartQso
