/-
This file compares the checksum of the flight software with the one of the ground tool:
the table holds eight shifts for every byte, so both are the remainder of a division by
the IEEE polynomial. A burst of no more than 32 bits therefore never passes the check of
a stored record.
-/

import SmartQso.BeaconTool
import SmartQso.ChecksumErrors
import SmartQso.CrcRemainder
import SmartQso.Eps
import SmartQso.MissionData
import SmartQso.SealedState
import SmartQso.StatePersistence

namespace SmartQso

open Polynomial ReflectedCrc

/-! ### The polynomial -/

/-- The polynomial of IEEE 802.3. -/
noncomputable def ieeePolynomial : (ZMod 2)[X] :=
  X ^ 32 + X ^ 26 + X ^ 23 + X ^ 22 + X ^ 16 + X ^ 12 + X ^ 11 + X ^ 10 + X ^ 8 + X ^ 7 + X ^ 5 +
    X ^ 4 + X ^ 2 + X + 1

/-- The constant of both programs is the polynomial with its bits reversed. -/
theorem generator_ieee : generator 0xEDB88320#32 = ieeePolynomial := by
  have low : registerPolynomial 0xEDB88320#32 =
      X ^ 26 + X ^ 23 + X ^ 22 + X ^ 16 + X ^ 12 + X ^ 11 + X ^ 10 + X ^ 8 + X ^ 7 + X ^ 5 +
        X ^ 4 + X ^ 2 + X + 1 := by
    simp [registerPolynomial, bitsPolynomial, Finset.sum_range_succ]
  rw [generator, low, ieeePolynomial]
  ring

theorem ieee_constant : (0xEDB88320#32).getLsbD (32 - 1) = true := by decide

/-! ### The table -/

/-- An entry of the table is its index, shifted out. -/
theorem crc32Table_shifts : ∀ index : Fin 256,
    (crc32Table.get index).toBitVec =
      (shiftBit 0xEDB88320#32)^[8] (BitVec.ofNat 32 index.val) := by
  decide +kernel

/-- A round of the table feeds a byte. -/
theorem toBitVec_crc32Byte (crc : UInt32) (byte : UInt8) :
    (crc32Byte crc byte).toBitVec = feedByte 0xEDB88320#32 crc.toBitVec byte := by
  have index : ∀ value : UInt8, BitVec.ofNat 32 value.toFin.val = value.toBitVec.setWidth 32 :=
    fun value => BitVec.ofNat_toNat 32 value.toBitVec
  rw [crc32Byte_eq, feedByte_eq_lookup, UInt32.toBitVec_xor, crc32Table_shifts, index,
    UInt8.toBitVec_xor, UInt32.toBitVec_toUInt8]
  rfl

theorem toBitVec_foldl_crc32Byte (data : List UInt8) (crc : UInt32) :
    (data.foldl crc32Byte crc).toBitVec = data.foldl (feedByte 0xEDB88320#32) crc.toBitVec := by
  induction data generalizing crc with
  | nil => rfl
  | cons byte rest inductionHypothesis =>
    rw [List.foldl_cons, List.foldl_cons, inductionHypothesis, toBitVec_crc32Byte]

/-- The checksum of the flight software is the reflected check. The empty buffer is no exception:
the register is complemented back to zero. -/
theorem toBitVec_smartQsoCrc32 (data : List UInt8) :
    (smartQsoCrc32 data).toBitVec = checksum 0xEDB88320#32 data := by
  unfold smartQsoCrc32
  by_cases empty : data.length = 0
  · rw [if_pos empty, List.length_eq_zero_iff.mp empty]
    rfl
  · rw [if_neg empty, UInt32.toBitVec_xor, toBitVec_foldl_crc32Byte]
    rfl

/-- The checksum of the ground tool is the reflected check. -/
theorem calculateCrc32_eq (data : List UInt8) :
    Tools.calculateCrc32 data = (checksum 0xEDB88320#32 data).toNat :=
  (@toNat_checksum _ 0xEDB88320#32 _ (by decide)
    (fun crc => (toNat_shiftBit 0xEDB88320#32 crc).symm) data).symm

/-- The checksums of the flight software and of the ground tool are the same for every buffer, and
both are the remainder of the division by the IEEE polynomial. -/
theorem crc32_implementations (data : List UInt8) :
    (smartQsoCrc32 data).toNat = Tools.calculateCrc32 data ∧
      (smartQsoCrc32 data).toBitVec = remainderChecksum 32 ieeePolynomial data ∧
      Tools.calculateCrc32 data = (remainderChecksum 32 ieeePolynomial data).toNat := by
  have remainder : checksum 0xEDB88320#32 data = remainderChecksum 32 ieeePolynomial data := by
    rw [checksum_eq_remainderChecksum _ _ (by decide), generator_ieee]
  rw [calculateCrc32_eq, ← remainder, toBitVec_smartQsoCrc32]
  exact ⟨congrArg BitVec.toNat (toBitVec_smartQsoCrc32 data), rfl, rfl⟩

/-! ### Bursts -/

/-- A burst of no more than 32 bits changes the checksum. -/
theorem smartQsoCrc32_burst {first second : List UInt8} (burst : Burst 32 first second) :
    smartQsoCrc32 first ≠ smartQsoCrc32 second := by
  intro same
  refine burst.checksum_ne ieee_constant (by decide) ?_
  rw [← toBitVec_smartQsoCrc32, ← toBitVec_smartQsoCrc32, same]

section

variable {Record : Type} [CLayout Record]

/-- A record that verifies is refused once its protected part is changed in a burst. -/
def RefusesBursts (refused : Sealed Record → Prop) : Prop :=
  ∀ intact corrupted : Sealed Record, intact.verifies = true → corrupted.crc32 = intact.crc32 →
    Burst 32 (CLayout.bytes intact.record) (CLayout.bytes corrupted.record) → refused corrupted

/-- Who refuses what does not verify refuses bursts. -/
theorem refusesBursts_of_verifies {refused : Sealed Record → Prop}
    (refuses : ∀ stored : Sealed Record, stored.verifies = false → refused stored) :
    RefusesBursts refused := by
  intro intact corrupted verifies kept burst
  have right : recordCrc intact.record = intact.crc32 := beq_iff_eq.mp verifies
  refine refuses corrupted (beq_eq_false_iff_ne.mpr fun wrong => smartQsoCrc32_burst burst ?_)
  exact right.trans (kept.symm.trans wrong.symm)

end

/-- A burst of no more than 32 bits changes the checksum of a buffer, and one in the protected part
of a stored record makes its verification fail: an entry is left out of the fault log, and a
configuration, a mission record and a system state are refused by their load. -/
theorem crc32_detects_bursts [CLayout FaultRecord] [CLayout EpsRecord] [CLayout MissionRecord]
    [CLayout SystemRecord] :
    (∀ first second, Burst 32 first second → smartQsoCrc32 first ≠ smartQsoCrc32 second ∧
      smartQsoVerifyCrc32 second (smartQsoCrc32 first) = false) ∧
    RefusesBursts (fun entry : FaultLogEntry =>
      entry.verifies = false ∧ ∀ file, entry ∉ (FaultLog.ofFile file).entries) ∧
    RefusesBursts (fun config : Sealed EpsRecord =>
      config.verifies = false ∧
        ∀ eps : Eps, eps.written.head? = some config → epsLoadConfig eps = none) ∧
    RefusesBursts (fun data : Sealed MissionRecord =>
      data.verifies = false ∧
        ∀ mission : MissionData, mission.file = some data → missionDataLoad mission = none) ∧
    RefusesBursts (fun sys : SystemState =>
      sysStateVerifyCrc sys = false ∧ ∀ now, acceptState sys now = sysStateInit now) := by
  refine ⟨fun first second burst => ?_, refusesBursts_of_verifies fun entry wrong => ⟨wrong, ?_⟩,
    refusesBursts_of_verifies fun config wrong => ⟨wrong, ?_⟩,
    refusesBursts_of_verifies fun data wrong => ⟨wrong, ?_⟩,
    refusesBursts_of_verifies fun sys wrong => ⟨wrong, ?_⟩⟩
  · have different := smartQsoCrc32_burst burst
    exact ⟨different, beq_eq_false_iff_ne.mpr different.symm⟩
  · intro file member
    exact Bool.false_ne_true (wrong.symm.trans (List.mem_filter.mp member).2)
  · intro eps stored
    simp only [epsLoadConfig, stored, wrong, Bool.false_eq_true, if_false]
  · intro mission stored
    simp only [missionDataLoad, stored, wrong, Bool.false_eq_true, if_false]
  · exact fun now => acceptState_of_wrong (beq_eq_false_iff_ne.mp wrong).symm now

end SmartQso
