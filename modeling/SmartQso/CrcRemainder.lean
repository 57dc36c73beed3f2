/-
This file relates a reflected cyclic redundancy check to its definition by division:
a sequence of bits is a polynomial over the field of two elements, the first bit the
highest power, and the register of the check is a remainder of the message modulo the
generator. What errors a check detects follows from what the generator divides.
-/

import Mathlib.Algebra.Field.ZMod
import Mathlib.Data.List.GetD
import Mathlib.RingTheory.AdjoinRoot
import SmartQso.ByteOrder
import SmartQso.ReflectedCrc

namespace ReflectedCrc

open Polynomial

noncomputable section

/-! ### Bits as polynomials -/

/-- A bit as a coefficient. -/
def coefficient (bit : Bool) : ZMod 2 := if bit then 1 else 0

@[simp] theorem coefficient_true : coefficient true = 1 := rfl

@[simp] theorem coefficient_false : coefficient false = 0 := rfl

theorem coefficient_inj {first second : Bool} (same : coefficient first = coefficient second) :
    first = second := by
  revert first second
  decide

theorem coefficient_xor (first second : Bool) :
    coefficient (first ^^ second) = coefficient first + coefficient second := by
  revert first second
  decide

/-- The polynomial of the first bits of a sequence, the first one the highest power. -/
def bitsPolynomial (length : Nat) (bits : Nat → Bool) : (ZMod 2)[X] :=
  ∑ place ∈ Finset.range length, C (coefficient (bits place)) * X ^ (length - 1 - place)

theorem bitsPolynomial_one (bits : Nat → Bool) :
    bitsPolynomial 1 bits = C (coefficient (bits 0)) := by
  rw [bitsPolynomial, Finset.sum_range_one, pow_zero, mul_one]

/-- A sequence in two parts: the first part is moved up by the length of the second. -/
theorem bitsPolynomial_add (front back : Nat) (bits : Nat → Bool) :
    bitsPolynomial (front + back) bits =
      X ^ back * bitsPolynomial front bits +
        bitsPolynomial back (fun place => bits (front + place)) := by
  unfold bitsPolynomial
  rw [Finset.sum_range_add, Finset.mul_sum]
  refine congrArg₂ _ (Finset.sum_congr rfl fun place inside => ?_)
    (Finset.sum_congr rfl fun place inside => ?_)
  · have below := Finset.mem_range.mp inside
    rw [show front + back - 1 - place = back + (front - 1 - place) by omega, pow_add]
    ring
  · rw [show front + back - 1 - (front + place) = back - 1 - place by omega]

theorem bitsPolynomial_congr {length : Nat} {first second : Nat → Bool}
    (same : ∀ place < length, first place = second place) :
    bitsPolynomial length first = bitsPolynomial length second :=
  Finset.sum_congr rfl fun place inside => by rw [same place (Finset.mem_range.mp inside)]

theorem bitsPolynomial_false (length : Nat) : bitsPolynomial length (fun _ => false) = 0 :=
  Finset.sum_eq_zero fun _ _ => by rw [coefficient_false, C_0, zero_mul]

theorem bitsPolynomial_xor (length : Nat) (first second : Nat → Bool) :
    bitsPolynomial length (fun place => first place ^^ second place) =
      bitsPolynomial length first + bitsPolynomial length second := by
  unfold bitsPolynomial
  rw [← Finset.sum_add_distrib]
  refine Finset.sum_congr rfl fun place _ => ?_
  rw [coefficient_xor, C_add, add_mul]

/-- The coefficient of a power is the bit that stands that far from the end. -/
theorem coeff_bitsPolynomial {length power : Nat} (bits : Nat → Bool) (inside : power < length) :
    (bitsPolynomial length bits).coeff power = coefficient (bits (length - 1 - power)) := by
  unfold bitsPolynomial
  rw [finsetSum_coeff, Finset.sum_eq_single (length - 1 - power)]
  · rw [coeff_C_mul_X_pow, if_pos (by omega)]
  · intro place member other
    have below := Finset.mem_range.mp member
    rw [coeff_C_mul_X_pow, if_neg (by omega)]
  · intro outside
    exact absurd (Finset.mem_range.mpr (by omega)) outside

theorem degree_bitsPolynomial (length : Nat) (bits : Nat → Bool) :
    (bitsPolynomial length bits).degree < length := by
  refine (degree_sum_le _ _).trans_lt ((Finset.sup_lt_iff (WithBot.bot_lt_coe length)).mpr ?_)
  intro place member
  have below := Finset.mem_range.mp member
  refine (degree_C_mul_X_pow_le _ _).trans_lt (Nat.cast_lt.mpr ?_)
  omega

/-- Sequences of one length are told apart by their polynomials. -/
theorem bitsPolynomial_inj {length : Nat} {first second : Nat → Bool}
    (same : bitsPolynomial length first = bitsPolynomial length second) :
    ∀ place < length, first place = second place := by
  intro place inside
  have coefficients := congrArg (coeff · (length - 1 - place)) same
  rw [coeff_bitsPolynomial _ (by omega), coeff_bitsPolynomial _ (by omega),
    show length - 1 - (length - 1 - place) = place by omega] at coefficients
  exact coefficient_inj coefficients

/-! ### Registers -/

variable {width : Nat}

/-- The polynomial of a register, its lowest bit the highest power. -/
def registerPolynomial (register : BitVec width) : (ZMod 2)[X] :=
  bitsPolynomial width register.getLsbD

/-- The register a polynomial is held in. -/
def polynomialRegister (width : Nat) (polynomial : (ZMod 2)[X]) : BitVec width :=
  (BitVec.ofBoolListLE ((List.range width).map fun place =>
    decide (polynomial.coeff (width - 1 - place) = 1))).setWidth width

theorem registerPolynomial_xor (first second : BitVec width) :
    registerPolynomial (first ^^^ second) =
      registerPolynomial first + registerPolynomial second := by
  unfold registerPolynomial
  rw [← bitsPolynomial_xor]
  exact bitsPolynomial_congr fun place _ => BitVec.getLsbD_xor

/-- A register is read back from its polynomial. -/
theorem polynomialRegister_registerPolynomial (register : BitVec width) :
    polynomialRegister width (registerPolynomial register) = register := by
  have decided : ∀ bit : Bool, decide (coefficient bit = 1) = bit := by decide
  refine BitVec.eq_of_getLsbD_eq fun place inside => ?_
  unfold polynomialRegister registerPolynomial
  rw [BitVec.getLsbD_setWidth, decide_eq_true inside, Bool.true_and, BitVec.getLsbD_ofBoolListLE,
    List.getD_eq_getElem?_getD, List.getElem?_map, List.getElem?_range inside, Option.map_some,
    Option.getD_some, coeff_bitsPolynomial _ (by omega), decided]
  exact congrArg register.getLsbD (Nat.sub_sub_self (Nat.le_pred_of_lt inside))

/-- The generator of a reflected check: its highest power is left out of the constant. -/
def generator (poly : BitVec width) : (ZMod 2)[X] := X ^ width + registerPolynomial poly

theorem generator_monic (poly : BitVec width) : (generator poly).Monic :=
  monic_X_pow_add (degree_bitsPolynomial width _)

theorem degree_generator (poly : BitVec width) : (generator poly).degree = width := by
  unfold generator
  rw [degree_add_eq_left_of_degree_lt, degree_X_pow]
  rw [degree_X_pow]
  exact degree_bitsPolynomial width _

/-! ### The register as a remainder -/

/-- Modulo the generator the highest power is the constant. -/
theorem root_pow_width (poly : BitVec width) :
    AdjoinRoot.root (generator poly) ^ width =
      AdjoinRoot.mk (generator poly) (registerPolynomial poly) := by
  rw [← AdjoinRoot.mk_X, ← map_pow, AdjoinRoot.mk_eq_mk]
  have minus : X ^ width - registerPolynomial poly = generator poly := CharTwo.sub_eq_add _ _
  rw [minus]

/-- A register is its lowest bit and what is left of it when that is shifted out. -/
theorem registerPolynomial_shift {count : Nat} (crc : BitVec (count + 1)) :
    X * registerPolynomial crc =
      C (coefficient (crc.getLsbD 0)) * X ^ (count + 1) + registerPolynomial (crc >>> 1) := by
  have high : crc.getLsbD (1 + count) = false := BitVec.getLsbD_of_ge crc _ (by omega)
  have lowFirst := bitsPolynomial_add 1 count crc.getLsbD
  rw [Nat.add_comm 1 count, bitsPolynomial_one] at lowFirst
  have shifted : bitsPolynomial count (crc >>> 1).getLsbD =
      bitsPolynomial count fun place => crc.getLsbD (1 + place) :=
    bitsPolynomial_congr fun place _ => BitVec.getLsbD_ushiftRight crc 1 place
  have last : (crc >>> 1).getLsbD (count + 0) = false := by
    rw [BitVec.getLsbD_ushiftRight]
    exact high
  unfold registerPolynomial
  rw [lowFirst, bitsPolynomial_add count 1, bitsPolynomial_one, last, shifted, coefficient_false,
    C_0]
  ring

/-- To shift a bit out is to multiply by the variable. -/
theorem mk_shiftBit (poly crc : BitVec width) :
    AdjoinRoot.mk (generator poly) (registerPolynomial (shiftBit poly crc)) =
      AdjoinRoot.root (generator poly) *
        AdjoinRoot.mk (generator poly) (registerPolynomial crc) := by
  cases width with
  | zero =>
    have empty : ∀ register : BitVec 0, registerPolynomial register = 0 := fun _ => rfl
    rw [empty, empty, map_zero, mul_zero]
  | succ count =>
    rw [← AdjoinRoot.mk_X, ← map_mul, registerPolynomial_shift, map_add, map_mul, map_pow,
      AdjoinRoot.mk_X, root_pow_width]
    unfold shiftBit
    cases crc.getLsbD 0 with
    | false => rw [if_neg Bool.false_ne_true, coefficient_false, C_0, map_zero, zero_mul, zero_add]
    | true =>
      rw [if_pos rfl, coefficient_true, C_1, map_one, one_mul, registerPolynomial_xor, map_add]
      exact add_comm _ _

theorem mk_shiftBit_iterate (poly crc : BitVec width) (count : Nat) :
    AdjoinRoot.mk (generator poly) (registerPolynomial ((shiftBit poly)^[count] crc)) =
      AdjoinRoot.root (generator poly) ^ count *
        AdjoinRoot.mk (generator poly) (registerPolynomial crc) := by
  induction count with
  | zero => rw [Function.iterate_zero_apply, pow_zero, one_mul]
  | succ count inductionHypothesis =>
    rw [Function.iterate_succ_apply', mk_shiftBit, inductionHypothesis, pow_succ', mul_assoc]

/-- The bit of a message at a place: the bytes in their order, the lowest bit of each first. -/
def bitAt (data : List UInt8) (place : Nat) : Bool :=
  (data.getD (place / 8) 0).toBitVec.getLsbD (place % 8)

/-- The polynomial of a message. -/
def messagePolynomial (data : List UInt8) : (ZMod 2)[X] :=
  bitsPolynomial (8 * data.length) (bitAt data)

theorem bitAt_append_left {front back : List UInt8} {place : Nat}
    (inside : place < 8 * front.length) : bitAt (front ++ back) place = bitAt front place := by
  unfold bitAt
  rw [List.getD_append _ _ _ _ (by omega)]

theorem bitAt_append_right (front back : List UInt8) (place : Nat) :
    bitAt (front ++ back) (8 * front.length + place) = bitAt back place := by
  have byte : (8 * front.length + place) / 8 = front.length + place / 8 := by omega
  have bit : (8 * front.length + place) % 8 = place % 8 := by omega
  unfold bitAt
  rw [byte, bit, List.getD_append_right _ _ _ _ (by omega), Nat.add_sub_cancel_left]

theorem messagePolynomial_append (front back : List UInt8) :
    messagePolynomial (front ++ back) =
      X ^ (8 * back.length) * messagePolynomial front + messagePolynomial back := by
  unfold messagePolynomial
  rw [List.length_append, Nat.mul_add, bitsPolynomial_add,
    bitsPolynomial_congr fun place inside => bitAt_append_left inside,
    bitsPolynomial_congr fun place _ => bitAt_append_right front back place]

/-- A byte in the low bits of a register. -/
theorem registerPolynomial_byte (byte : UInt8) (wide : 8 ≤ width) :
    registerPolynomial (byte.toBitVec.setWidth width) =
      X ^ (width - 8) * messagePolynomial [byte] := by
  obtain ⟨rest, rfl⟩ := Nat.exists_eq_add_of_le wide
  have low : ∀ place < 8,
      (byte.toBitVec.setWidth (8 + rest)).getLsbD place = bitAt [byte] place := by
    intro place inside
    have first : place / 8 = 0 := Nat.div_eq_of_lt inside
    rw [BitVec.getLsbD_setWidth, decide_eq_true (by omega), Bool.true_and, bitAt, first,
      Nat.mod_eq_of_lt inside]
    rfl
  have high : ∀ place < rest, (byte.toBitVec.setWidth (8 + rest)).getLsbD (8 + place) = false := by
    intro place _
    rw [BitVec.getLsbD_setWidth, BitVec.getLsbD_of_ge _ (8 + place) (by omega), Bool.and_false]
  unfold registerPolynomial messagePolynomial
  rw [bitsPolynomial_add, bitsPolynomial_congr low, bitsPolynomial_congr high,
    bitsPolynomial_false, add_zero, Nat.add_sub_cancel_left]
  rfl

theorem mk_feedByte (poly crc : BitVec width) (byte : UInt8) (wide : 8 ≤ width) :
    AdjoinRoot.mk (generator poly) (registerPolynomial (feedByte poly crc byte)) =
      AdjoinRoot.root (generator poly) ^ 8 *
          AdjoinRoot.mk (generator poly) (registerPolynomial crc) +
        AdjoinRoot.root (generator poly) ^ width *
          AdjoinRoot.mk (generator poly) (messagePolynomial [byte]) := by
  have whole : 8 + (width - 8) = width := Nat.add_sub_cancel' wide
  rw [feedByte, mk_shiftBit_iterate, registerPolynomial_xor, registerPolynomial_byte byte wide,
    map_add, map_mul, map_pow, AdjoinRoot.mk_X, mul_add, ← mul_assoc, ← pow_add, whole]

/-- The register after a message: what it started with, moved past the message, and the message
moved past the register. -/
theorem mk_foldl (poly start : BitVec width) (data : List UInt8) (wide : 8 ≤ width) :
    AdjoinRoot.mk (generator poly) (registerPolynomial (data.foldl (feedByte poly) start)) =
      AdjoinRoot.mk (generator poly)
        (X ^ (8 * data.length) * registerPolynomial start +
          X ^ width * messagePolynomial data) := by
  induction data using List.reverseRecOn with
  | nil =>
    have empty : messagePolynomial [] = 0 := rfl
    rw [empty, mul_zero, add_zero, List.length_nil, Nat.mul_zero, pow_zero, one_mul, List.foldl_nil]
  | append_singleton front byte inductionHypothesis =>
    rw [List.foldl_append, List.foldl_cons, List.foldl_nil, mk_feedByte _ _ _ wide,
      inductionHypothesis, messagePolynomial_append, List.length_append, List.length_singleton]
    simp only [map_add, map_mul, map_pow, AdjoinRoot.mk_X]
    ring

/-! ### The check as a remainder -/

/-- The check of a message by division: the message moved past the register, with the register
of ones in front of it, is divided, and the remainder is complemented. -/
def remainderChecksum (width : Nat) (divisor : (ZMod 2)[X]) (data : List UInt8) : BitVec width :=
  polynomialRegister width
    ((X ^ (8 * data.length) * registerPolynomial (.allOnes width) +
      X ^ width * messagePolynomial data) %ₘ divisor) ^^^ .allOnes width

/-- The register is the remainder. -/
theorem registerPolynomial_foldl (poly start : BitVec width) (data : List UInt8)
    (wide : 8 ≤ width) :
    (X ^ (8 * data.length) * registerPolynomial start + X ^ width * messagePolynomial data) %ₘ
        generator poly =
      registerPolynomial (data.foldl (feedByte poly) start) := by
  have small : (registerPolynomial (data.foldl (feedByte poly) start)).degree <
      (generator poly).degree := by
    rw [degree_generator]
    exact degree_bitsPolynomial width _
  obtain ⟨quotient, difference⟩ := AdjoinRoot.mk_eq_mk.mp (mk_foldl poly start data wide).symm
  refine (div_modByMonic_unique quotient _ (generator_monic poly) ⟨?_, small⟩).2
  rw [← difference, add_sub_cancel]

/-- The check computed bit by bit is the check by division. -/
theorem checksum_eq_remainderChecksum (poly : BitVec width) (data : List UInt8)
    (wide : 8 ≤ width) : checksum poly data = remainderChecksum width (generator poly) data := by
  unfold checksum remainderChecksum
  rw [registerPolynomial_foldl poly _ data wide, polynomialRegister_registerPolynomial]

/-! ### Bursts -/

/-- Two messages of one length that differ, and only within a number of consecutive bits. -/
structure Burst (length : Nat) (first second : List UInt8) : Prop where
  sameLength : first.length = second.length
  different : first ≠ second
  confined : ∃ start, ∀ place, bitAt first place ≠ bitAt second place →
    start ≤ place ∧ place < start + length

theorem Burst.mono {length longer : Nat} {first second : List UInt8}
    (burst : Burst length first second) (fits : length ≤ longer) : Burst longer first second := by
  obtain ⟨sameLength, different, start, confined⟩ := burst
  refine ⟨sameLength, different, start, fun place changed => ?_⟩
  have near := confined place changed
  omega

/-- Changed bytes between bytes that are kept are a burst. -/
theorem burst_of_changed (front back : List UInt8) {first second : List UInt8}
    (sameLength : first.length = second.length) (different : first ≠ second) :
    Burst (8 * first.length) (front ++ (first ++ back)) (front ++ (second ++ back)) where
  sameLength := by
    simp only [List.length_append, sameLength]
  different := fun same =>
    different (List.append_inj_left (List.append_cancel_left same) sameLength)
  confined := by
    refine ⟨8 * front.length, fun place changed => ?_⟩
    by_contra away
    refine changed ?_
    by_cases before : place < 8 * front.length
    · rw [bitAt_append_left before, bitAt_append_left before]
    · obtain ⟨rest, rfl⟩ : ∃ rest, place = 8 * front.length + (8 * first.length + rest) :=
        ⟨place - 8 * front.length - 8 * first.length, by omega⟩
      have inSecond := bitAt_append_right second back rest
      rw [← sameLength] at inSecond
      rw [bitAt_append_right, bitAt_append_right, bitAt_append_right, inSecond]

/-- Messages of one length are told apart by their bits. -/
theorem eq_of_bitAt {first second : List UInt8} (sameLength : first.length = second.length)
    (same : ∀ place < 8 * first.length, bitAt first place = bitAt second place) :
    first = second := by
  refine List.ext_getElem sameLength fun index firstInside secondInside => ?_
  refine UInt8.toBitVec_inj.mp (BitVec.eq_of_getLsbD_eq fun place inside => ?_)
  have byte : (8 * index + place) / 8 = index := by omega
  have bit : (8 * index + place) % 8 = place := by omega
  have here := same (8 * index + place) (by omega)
  unfold bitAt at here
  rwa [byte, bit, List.getD_eq_getElem _ _ firstInside, List.getD_eq_getElem _ _ secondInside]
    at here

/-- The difference of a burst is a short polynomial, moved up. -/
theorem Burst.factor {length : Nat} {first second : List UInt8}
    (burst : Burst length first second) :
    ∃ power, ∃ error : (ZMod 2)[X], error ≠ 0 ∧ error.degree < length ∧
      messagePolynomial first + messagePolynomial second = X ^ power * error := by
  obtain ⟨sameLength, different, start, confined⟩ := burst
  have outside : ∀ place, place < start ∨ start + length ≤ place →
      coefficient (bitAt first place ^^ bitAt second place) = 0 := by
    intro place away
    have equal : bitAt first place = bitAt second place := by
      by_contra changed
      have near := confined place changed
      omega
    rw [equal, Bool.xor_self, coefficient_false]
  have difference : messagePolynomial first + messagePolynomial second =
      bitsPolynomial (8 * first.length) fun place => bitAt first place ^^ bitAt second place := by
    rw [bitsPolynomial_xor]
    unfold messagePolynomial
    rw [sameLength]
  have divides : X ^ (8 * first.length - (start + length)) ∣
      bitsPolynomial (8 * first.length) fun place => bitAt first place ^^ bitAt second place := by
    refine X_pow_dvd_iff.mpr fun power below => ?_
    rw [coeff_bitsPolynomial _ (by omega)]
    exact outside _ (Or.inr (by omega))
  obtain ⟨error, factored⟩ := divides
  refine ⟨_, error, ?_, ?_, difference.trans factored⟩
  · rintro rfl
    rw [mul_zero, ← bitsPolynomial_false (8 * first.length)] at factored
    refine different (eq_of_bitAt sameLength fun place inside => ?_)
    exact bne_eq_false_iff_eq.mp (bitsPolynomial_inj factored place inside)
  · refine degree_lt_iff_coeff_zero _ _ |>.mpr fun power large => ?_
    rw [← coeff_X_pow_mul error (8 * first.length - (start + length)) power, ← factored]
    by_cases inside : power + (8 * first.length - (start + length)) < 8 * first.length
    · rw [coeff_bitsPolynomial _ inside]
      exact outside _ (Or.inl (by omega))
    · refine coeff_eq_zero_of_degree_lt ((degree_bitsPolynomial _ _).trans_le ?_)
      exact Nat.cast_le.mpr (Nat.le_of_not_lt inside)

/-- The variable can be divided out when the generator has a constant term. -/
theorem isCoprime_generator_pow {poly : BitVec width} (constant : poly.getLsbD (width - 1) = true)
    (power : Nat) : IsCoprime (generator poly) (X ^ power) := by
  have positive : 0 < width := by
    by_contra empty
    rw [BitVec.getLsbD_of_ge _ _ (by omega)] at constant
    exact Bool.false_ne_true constant
  have one : (generator poly).coeff 0 = 1 := by
    unfold generator registerPolynomial
    rw [coeff_add, coeff_X_pow, if_neg (by omega), zero_add, coeff_bitsPolynomial _ positive,
      Nat.sub_zero, constant, coefficient_true]
  have divided := divX_mul_X_add (generator poly)
  rw [one, C_1] at divided
  refine IsCoprime.pow_right ⟨1, -divX (generator poly), ?_⟩
  rw [one_mul, neg_mul, ← sub_eq_add_neg, sub_eq_iff_eq_add', divided]

/-- Factors of the variable can be cancelled modulo the generator. -/
theorem mk_cancel_pow {poly : BitVec width} (constant : poly.getLsbD (width - 1) = true)
    {power : Nat} {first second : (ZMod 2)[X]}
    (same : AdjoinRoot.mk (generator poly) (X ^ power * first) =
      AdjoinRoot.mk (generator poly) (X ^ power * second)) :
    AdjoinRoot.mk (generator poly) first = AdjoinRoot.mk (generator poly) second := by
  have divides := AdjoinRoot.mk_eq_mk.mp same
  rw [← mul_sub] at divides
  exact AdjoinRoot.mk_eq_mk.mpr
    ((isCoprime_generator_pow constant power).dvd_of_dvd_mul_left divides)

/-- A burst that is no longer than the register changes the remainder of the message. -/
theorem Burst.mk_ne {poly : BitVec width} (constant : poly.getLsbD (width - 1) = true)
    {first second : List UInt8} (burst : Burst width first second) :
    AdjoinRoot.mk (generator poly) (messagePolynomial first) ≠
      AdjoinRoot.mk (generator poly) (messagePolynomial second) := by
  obtain ⟨power, error, nonzero, degree, difference⟩ := burst.factor
  intro same
  have divides := AdjoinRoot.mk_eq_mk.mp same
  rw [CharTwo.sub_eq_add, difference] at divides
  refine (generator_monic poly).not_dvd_of_degree_lt nonzero ?_
    ((isCoprime_generator_pow constant power).dvd_of_dvd_mul_left divides)
  rw [degree_generator]
  exact degree

/-- A burst that is no longer than the register changes the check. -/
theorem Burst.checksum_ne {poly : BitVec width} (constant : poly.getLsbD (width - 1) = true)
    (wide : 8 ≤ width) {first second : List UInt8} (burst : Burst width first second) :
    checksum poly first ≠ checksum poly second := by
  intro same
  have registers := congrArg (fun register => AdjoinRoot.mk (generator poly)
    (registerPolynomial register)) ((BitVec.xor_left_inj _).mp same)
  rw [mk_foldl _ _ _ wide, mk_foldl _ _ _ wide, burst.sameLength, map_add, map_add,
    add_right_inj] at registers
  exact burst.mk_ne constant (mk_cancel_pow constant registers)

/-! ### A check behind its message -/

/-- The bytes of a number hold its bits, the lowest one first. -/
theorem testBit_valueOf (field : List UInt8) (place : Nat) :
    (ByteOrder.valueOf field).testBit place = bitAt field place := by
  induction field generalizing place with
  | nil => exact (Nat.zero_testBit place).trans (BitVec.getLsbD_zero (w := 8)).symm
  | cons byte rest inductionHypothesis =>
    have bound : byte.toNat < 2 ^ 8 := byte.toNat_lt
    rw [ByteOrder.valueOf, Nat.add_comm, Nat.testBit_two_pow_mul_add (i := 8) _ bound]
    by_cases inside : place < 8
    · have first : place / 8 = 0 := Nat.div_eq_of_lt inside
      rw [if_pos inside, bitAt, first, Nat.mod_eq_of_lt inside]
      rfl
    · have shifted := bitAt_append_right [byte] rest (place - 8)
      rw [List.length_singleton, Nat.add_sub_cancel' (Nat.le_of_not_lt inside)] at shifted
      rw [if_neg inside, inductionHypothesis]
      exact shifted.symm

/-- A field behind a message carries its check, the least significant byte first. -/
def CarriesCheck (poly : BitVec width) (data field : List UInt8) : Prop :=
  8 * field.length = width ∧ ByteOrder.valueOf field = (checksum poly data).toNat

theorem CarriesCheck.messagePolynomial {poly : BitVec width} {data field : List UInt8}
    (carries : CarriesCheck poly data field) :
    messagePolynomial field = registerPolynomial (checksum poly data) := by
  obtain ⟨length, value⟩ := carries
  unfold ReflectedCrc.messagePolynomial registerPolynomial
  rw [length]
  refine bitsPolynomial_congr fun place _ => ?_
  rw [← testBit_valueOf, value]
  rfl

/-- The remainder of a message with its check depends on the length of the message only. -/
theorem CarriesCheck.mk {poly : BitVec width} {data field : List UInt8}
    (carries : CarriesCheck poly data field) (wide : 8 ≤ width) :
    AdjoinRoot.mk (generator poly) (ReflectedCrc.messagePolynomial (data ++ field)) =
      AdjoinRoot.mk (generator poly)
        (X ^ (8 * data.length) * registerPolynomial (.allOnes width) +
          registerPolynomial (.allOnes width)) := by
  rw [messagePolynomial_append, carries.messagePolynomial, carries.1, checksum,
    registerPolynomial_xor, map_add, map_add, mk_foldl _ _ _ wide, ← map_add, ← map_add]
  refine congrArg _ ?_
  have twice := CharTwo.add_self_eq_zero (X ^ width * ReflectedCrc.messagePolynomial data)
  linear_combination twice

/-- A burst that is no longer than the check is noticed, also where it reaches into the check. -/
theorem Burst.not_carries {poly : BitVec width} (constant : poly.getLsbD (width - 1) = true)
    (wide : 8 ≤ width) {data field changed changedField : List UInt8}
    (burst : Burst width (data ++ field) (changed ++ changedField))
    (carries : CarriesCheck poly data field) : ¬ CarriesCheck poly changed changedField := by
  intro again
  have lengths := burst.sameLength
  rw [List.length_append, List.length_append] at lengths
  have fields := carries.1.trans again.1.symm
  have sameLength : data.length = changed.length := by omega
  refine burst.mk_ne constant ?_
  rw [carries.mk wide, again.mk wide, sameLength]

end

end ReflectedCrc
