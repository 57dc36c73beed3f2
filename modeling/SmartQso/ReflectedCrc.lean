/-
This file defines reflected cyclic redundancy checks of any width: a register that
takes a byte into its low bits and then shifts them out one by one. A program that
computes one in another representation of the register, a machine word or an
unbounded integer, is related to it by the image of the register there.
-/

import Mathlib.Logic.Function.Iterate

namespace ReflectedCrc

variable {width : Nat}

/-- Shift one bit out of the register. -/
def shiftBit (poly crc : BitVec width) : BitVec width :=
  if crc.getLsbD 0 then (crc >>> 1) ^^^ poly else crc >>> 1

/-- The bit that is shifted out, as a mask finds it. -/
theorem lowBit_iff (crc : BitVec width) : crc.getLsbD 0 = true ↔ crc.toNat &&& 1 ≠ 0 := by
  rw [BitVec.getLsbD, Nat.testBit_zero, Nat.and_one_is_mod, decide_eq_true_iff]
  omega

/-- Take a byte into the register and shift its bits out. -/
def feedByte (poly crc : BitVec width) (byte : UInt8) : BitVec width :=
  (shiftBit poly)^[8] (crc ^^^ byte.toBitVec.setWidth width)

/-- The check of a message: the register starts with all bits set and is complemented. -/
def checksum (poly : BitVec width) (data : List UInt8) : BitVec width :=
  data.foldl (feedByte poly) (.allOnes width) ^^^ .allOnes width

section

variable {Register : Type*} {poly : BitVec width} {image : BitVec width → Register}
  {bit : Register → Register}

/-- A loop whose steps follow the register through its image ends in the image of the register. -/
theorem foldl_image (absorb : Register → UInt8 → Register)
    (shifts : Function.Semiconj image (shiftBit poly) bit)
    (absorbs : ∀ crc byte,
      absorb (image crc) byte = image (crc ^^^ byte.toBitVec.setWidth width))
    (start : BitVec width) (data : List UInt8) :
    data.foldl (fun register byte => bit^[8] (absorb register byte)) (image start) =
      image (data.foldl (feedByte poly) start) := by
  induction data generalizing start with
  | nil => rfl
  | cons byte rest inductionHypothesis =>
    have round : bit^[8] (absorb (image start) byte) = image (feedByte poly start byte) := by
      rw [absorbs]
      exact ((shifts.iterate_right 8) _).symm
    rw [List.foldl_cons, List.foldl_cons, round]
    exact inductionHypothesis (feedByte poly start byte)

end

/-! ### Unbounded registers -/

/-- A shift as a program computes it that keeps the register in an unbounded number. -/
theorem toNat_shiftBit (poly crc : BitVec width) :
    (shiftBit poly crc).toNat =
      if crc.toNat &&& 1 ≠ 0 then (crc.toNat >>> 1) ^^^ poly.toNat else crc.toNat >>> 1 := by
  have low := lowBit_iff crc
  unfold shiftBit
  by_cases odd : crc.getLsbD 0 = true
  · rw [if_pos odd, if_pos (low.mp odd), BitVec.toNat_xor, BitVec.toNat_ushiftRight]
  · rw [if_neg odd, if_neg fun set => odd (low.mpr set), BitVec.toNat_ushiftRight]

/-- The check as a program computes it that keeps the register in an unbounded number. -/
theorem toNat_checksum {poly : BitVec width} {bit : Nat → Nat} (wide : 8 ≤ width)
    (shifts : ∀ crc : BitVec width, bit crc.toNat = (shiftBit poly crc).toNat)
    (data : List UInt8) :
    (checksum poly data).toNat =
      data.foldl (fun register byte => bit^[8] (register ^^^ byte.toNat))
        (BitVec.allOnes width).toNat ^^^ (BitVec.allOnes width).toNat := by
  have absorbs : ∀ (crc : BitVec width) (byte : UInt8), crc.toNat ^^^ byte.toNat =
      (crc ^^^ byte.toBitVec.setWidth width).toNat := by
    intro crc byte
    rw [BitVec.toNat_xor, BitVec.toNat_setWidth_of_le wide]
    rfl
  rw [checksum, BitVec.toNat_xor, ← foldl_image (fun register byte => register ^^^ byte.toNat)
    (fun crc => (shifts crc).symm) absorbs]

/-! ### Tables -/

/-- Shifts of a sum are the sum of the shifts. -/
theorem shiftBit_xor (poly first second : BitVec width) :
    shiftBit poly (first ^^^ second) = shiftBit poly first ^^^ shiftBit poly second := by
  unfold shiftBit
  rw [BitVec.getLsbD_xor, BitVec.ushiftRight_xor_distrib]
  cases first.getLsbD 0 <;> cases second.getLsbD 0
  · rfl
  · exact BitVec.xor_assoc _ _ _
  · show first >>> 1 ^^^ second >>> 1 ^^^ poly = first >>> 1 ^^^ poly ^^^ second >>> 1
    rw [BitVec.xor_assoc, BitVec.xor_assoc, BitVec.xor_comm poly]
  · show first >>> 1 ^^^ second >>> 1 = first >>> 1 ^^^ poly ^^^ (second >>> 1 ^^^ poly)
    rw [BitVec.xor_assoc, ← BitVec.xor_assoc poly, BitVec.xor_comm poly, BitVec.xor_assoc _ poly,
      BitVec.xor_self, BitVec.xor_zero]

theorem iterate_shiftBit_xor (poly first second : BitVec width) (count : Nat) :
    (shiftBit poly)^[count] (first ^^^ second) =
      (shiftBit poly)^[count] first ^^^ (shiftBit poly)^[count] second := by
  induction count with
  | zero => rfl
  | succ count inductionHypothesis =>
    rw [Function.iterate_succ_apply', Function.iterate_succ_apply', Function.iterate_succ_apply',
      inductionHypothesis, shiftBit_xor]

/-- Bits that are not set are shifted out without a trace. -/
theorem iterate_shiftBit_clear (poly register : BitVec width) (count : Nat)
    (clear : ∀ place < count, register.getLsbD place = false) :
    (shiftBit poly)^[count] register = register >>> count := by
  induction count with
  | zero => rw [BitVec.ushiftRight_zero, Function.iterate_zero_apply]
  | succ count inductionHypothesis =>
    have next : (register >>> count).getLsbD 0 = false := by
      rw [BitVec.getLsbD_ushiftRight]
      exact clear _ (Nat.lt_succ_self count)
    rw [Function.iterate_succ_apply',
      inductionHypothesis fun place below => clear place (Nat.lt_succ_of_lt below), shiftBit, next,
      if_neg Bool.false_ne_true, BitVec.shiftRight_add]

/-- To feed a byte is to look up the low byte of the register, taken together with it. -/
theorem feedByte_eq_lookup (poly crc : BitVec width) (byte : UInt8) :
    feedByte poly crc byte =
      (crc >>> 8) ^^^ (shiftBit poly)^[8] ((crc.setWidth 8 ^^^ byte.toBitVec).setWidth width) := by
  have split : crc ^^^ byte.toBitVec.setWidth width =
      ((crc >>> 8) <<< 8) ^^^ (crc.setWidth 8 ^^^ byte.toBitVec).setWidth width := by
    refine BitVec.eq_of_getLsbD_eq fun place inside => ?_
    simp only [BitVec.getLsbD_xor, BitVec.getLsbD_setWidth, BitVec.getLsbD_shiftLeft,
      BitVec.getLsbD_ushiftRight, inside, decide_true, Bool.true_and]
    by_cases low : place < 8
    · simp only [low, decide_true, Bool.not_true, Bool.false_and, Bool.true_and, Bool.false_xor]
    · rw [Nat.add_sub_cancel' (Nat.le_of_not_lt low),
        BitVec.getLsbD_of_ge byte.toBitVec _ (Nat.le_of_not_lt low)]
      simp only [low, decide_false, Bool.not_false, Bool.true_and, Bool.false_and, Bool.xor_false]
  have clear : ∀ place < 8, ((crc >>> 8) <<< 8).getLsbD place = false := by
    intro place below
    rw [BitVec.getLsbD_shiftLeft, decide_eq_true below, Bool.not_true, Bool.and_false,
      Bool.false_and]
  have back : ((crc >>> 8) <<< 8) >>> 8 = crc >>> 8 := by
    refine BitVec.eq_of_getLsbD_eq fun place _ => ?_
    rw [BitVec.getLsbD_ushiftRight, BitVec.getLsbD_shiftLeft, Nat.add_sub_cancel_left,
      decide_eq_false (Nat.not_lt.mpr (Nat.le_add_right 8 place)), Bool.not_false, Bool.and_true]
    by_cases within : 8 + place < width
    · rw [decide_eq_true within, Bool.true_and]
    · rw [BitVec.getLsbD_ushiftRight, BitVec.getLsbD_of_ge crc _ (Nat.le_of_not_lt within),
        Bool.and_false]
  rw [feedByte, split, iterate_shiftBit_xor, iterate_shiftBit_clear _ _ _ clear, back]

end ReflectedCrc
