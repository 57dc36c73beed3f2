/-
This file proves what the checksum is good for: two buffers that differ in a single byte
have different checksums, whatever the byte is and wherever it stands. The top bytes of
the table are all different, so a round loses nothing.
-/

import Mathlib.Data.List.Nodup
import Mathlib.Data.List.Perm.Subperm
import SmartQso.Crc32

namespace SmartQso

/-! ### The table -/

/-- A number with the bits set that the list names. -/
def bitsAt (numbers : List Nat) : Nat :=
  numbers.foldr (fun number seen => seen ||| 1 <<< number) 0

theorem testBit_bitsAt (numbers : List Nat) (value : Nat) :
    (bitsAt numbers).testBit value = decide (value ∈ numbers) := by
  induction numbers with
  | nil => exact Nat.zero_testBit value
  | cons number rest inductionHypothesis =>
    rw [bitsAt, List.foldr_cons, ← bitsAt, Nat.testBit_or, inductionHypothesis, Nat.one_shiftLeft,
      Nat.testBit_two_pow, ← Bool.decide_or]
    refine decide_eq_decide.mpr ?_
    rw [List.mem_cons, or_comm, eq_comm]

/-- Numbers that name as many bits as they are, from the lowest one on, are all different. -/
theorem nodup_of_bitsAt {numbers : List Nat}
    (all : bitsAt numbers = (1 <<< numbers.length) - 1) : numbers.Nodup := by
  have named : List.range numbers.length ⊆ numbers := by
    intro value inside
    have bit := testBit_bitsAt numbers value
    rw [all, Nat.one_shiftLeft, Nat.testBit_two_pow_sub_one,
      decide_eq_true (List.mem_range.mp inside)] at bit
    exact of_decide_eq_true bit.symm
  have reordered := (List.subperm_of_subset List.nodup_range named).perm_of_length_le
    (Nat.le_of_eq List.length_range.symm)
  exact reordered.nodup_iff.mp List.nodup_range

/-- The top byte of every entry of a table. -/
def topBytes (table : Vector UInt32 256) : List Nat :=
  table.toList.map fun entry => entry.toNat >>> 24

theorem length_topBytes (table : Vector UInt32 256) : (topBytes table).length = 256 := by
  rw [topBytes, List.length_map, Vector.length_toList]

/-- In a table whose top bytes are all different, an entry is known by its top byte. -/
theorem index_of_topByte {table : Vector UInt32 256} (different : (topBytes table).Nodup)
    {first second : Fin 256} (same : table.get first >>> 24 = table.get second >>> 24) :
    first = second := by
  have inside : ∀ index : Fin 256, index < (topBytes table).length := by
    intro index
    rw [length_topBytes]
    exact index.isLt
  have entry : ∀ index : Fin 256,
      (topBytes table).get ⟨index, inside index⟩ = (table.get index >>> 24).toNat := by
    intro index
    rw [List.get_eq_getElem, UInt32.toNat_shiftRight]
    exact List.getElem_map _
  have places := List.nodup_iff_injective_get.mp different
    ((entry first).trans ((congrArg UInt32.toNat same).trans (entry second).symm))
  exact Fin.ext (Fin.mk.inj places)

/-- The top bytes of the table are all different. -/
theorem crc32Table_topBytes : (topBytes crc32Table).Nodup := by
  refine nodup_of_bitsAt ?_
  rw [length_topBytes]
  decide +kernel

/-! ### One round -/

/-- A round looks up the low byte of the register, taken together with the byte of the buffer. -/
theorem crc32Byte_eq (crc : UInt32) (byte : UInt8) :
    crc32Byte crc byte = (crc >>> 8) ^^^ crc32Table.get (crc.toUInt8 ^^^ byte).toFin := by
  have index : ((crc ^^^ byte.toUInt32) &&& 0xFF).toUInt8 = crc.toUInt8 ^^^ byte := by
    rw [UInt32.toUInt8_and, UInt32.toUInt8_xor, UInt8.toUInt8_toUInt32]
    exact UInt8.and_neg_one
  rw [crc32Byte, index]

/-- Only the entry of the table reaches the top byte. -/
theorem crc32Byte_top (crc : UInt32) (byte : UInt8) :
    crc32Byte crc byte >>> 24 = crc32Table.get (crc.toUInt8 ^^^ byte).toFin >>> 24 := by
  have shifted : (crc >>> 8) >>> 24 = 0 := by
    have bound := crc.toNat_lt
    refine UInt32.toNat_inj.mp ?_
    rw [UInt32.toNat_shiftRight, UInt32.toNat_shiftRight, Nat.shiftRight_eq_div_pow,
      Nat.shiftRight_eq_div_pow, Nat.div_div_eq_div_mul]
    exact Nat.div_eq_of_lt bound
  rw [crc32Byte_eq, UInt32.shiftRight_xor, shifted, UInt32.zero_xor]

/-- What a round leaves tells the upper part of the register before it, and what was looked up. -/
theorem crc32Byte_inj {first second : UInt32} {firstByte secondByte : UInt8}
    (same : crc32Byte first firstByte = crc32Byte second secondByte) :
    first >>> 8 = second >>> 8 ∧ first.toUInt8 ^^^ firstByte = second.toUInt8 ^^^ secondByte := by
  have tops := congrArg (fun crc : UInt32 => crc >>> 24) same
  rw [crc32Byte_top, crc32Byte_top] at tops
  have looked : first.toUInt8 ^^^ firstByte = second.toUInt8 ^^^ secondByte :=
    UInt8.toFin_inj.mp (index_of_topByte crc32Table_topBytes tops)
  rw [crc32Byte_eq, crc32Byte_eq, looked, UInt32.xor_left_inj] at same
  exact ⟨same, looked⟩

/-- Rounds over the same bytes keep different registers different. -/
theorem foldl_crc32Byte_injective (data : List UInt8) :
    Function.Injective fun crc => data.foldl crc32Byte crc := by
  induction data with
  | nil => exact fun _ _ same => same
  | cons byte rest inductionHypothesis =>
    intro first second same
    obtain ⟨upper, looked⟩ := crc32Byte_inj (inductionHypothesis same)
    have low : first.toUInt8 = second.toUInt8 := (UInt8.xor_left_inj byte).mp looked
    have upperNat := congrArg UInt32.toNat upper
    have lowNat := congrArg UInt8.toNat low
    rw [UInt32.toNat_shiftRight, UInt32.toNat_shiftRight, Nat.shiftRight_eq_div_pow,
      Nat.shiftRight_eq_div_pow] at upperNat
    rw [UInt32.toNat_toUInt8, UInt32.toNat_toUInt8] at lowNat
    exact UInt32.toNat_inj.mp (Nat.ext_div_mod upperNat lowNat)

/-! ### A changed byte -/

/-- A change of a single byte changes the checksum. -/
theorem smartQsoCrc32_byte_inj (front back : List UInt8) {first second : UInt8}
    (same : smartQsoCrc32 (front ++ first :: back) = smartQsoCrc32 (front ++ second :: back)) :
    first = second := by
  have filled : ∀ byte : UInt8, (front ++ byte :: back).length ≠ 0 := by
    intro byte
    rw [List.length_append, List.length_cons]
    exact Nat.succ_ne_zero _
  rw [smartQsoCrc32, smartQsoCrc32, if_neg (filled first), if_neg (filled second),
    UInt32.xor_left_inj, List.foldl_append, List.foldl_append, List.foldl_cons,
    List.foldl_cons] at same
  exact (UInt8.xor_right_inj _).mp (crc32Byte_inj (foldl_crc32Byte_injective back same)).2

end SmartQso
