/-
This file asks whether the command line decoder notices a corrupted health beacon. The
checksum in the payload would give every burst away, but the decoder only copies it:
what is changed behind the type byte is decoded and called valid.
-/

import SmartQso.BeaconTool
import SmartQso.ChecksumBursts

namespace SmartQso.Tools

open ReflectedCrc

/-! ### Health payloads -/

/-- The checksum of a health payload is right. -/
def HealthChecks (payload : List UInt8) : Prop :=
  unpackUnsigned (Ground.slice payload 21 25) = calculateCrc32 (payload.take 21)

/-- A health payload as it is sent. -/
structure WellFormedHealth (payload : List UInt8) : Prop where
  length : payload.length = 25
  typed : payload.head? = some BeaconType.health.value
  checks : HealthChecks payload

theorem unpackUnsigned_eq_valueOf (data : List UInt8) :
    unpackUnsigned data = ByteOrder.valueOf data := by
  induction data with
  | nil => rfl
  | cons byte rest inductionHypothesis =>
    rw [ByteOrder.valueOf, ← inductionHypothesis]
    rfl

/-- The checksum stands behind what it protects. -/
theorem healthChecks_iff {payload : List UInt8} (length : payload.length = 25) :
    HealthChecks payload ↔ CarriesCheck 0xEDB88320#32 (payload.take 21) (payload.drop 21) := by
  have field : Ground.slice payload 21 25 = payload.drop 21 := by
    rw [Ground.slice, List.take_of_length_le (le_of_eq length)]
  have fieldLength : 8 * (payload.drop 21).length = 32 := by
    rw [List.length_drop, length]
  unfold HealthChecks CarriesCheck
  rw [field, unpackUnsigned_eq_valueOf, calculateCrc32_eq]
  exact (and_iff_right fieldLength).symm

/-- A burst in a payload makes its checksum wrong. -/
theorem WellFormedHealth.not_checks {payload changed : List UInt8}
    (wellFormed : WellFormedHealth payload) (burst : Burst 32 payload changed) :
    ¬ HealthChecks changed := by
  have carries := (healthChecks_iff wellFormed.length).mp wellFormed.checks
  rw [healthChecks_iff (burst.sameLength.symm.trans wellFormed.length)]
  rw [← List.take_append_drop 21 payload, ← List.take_append_drop 21 changed] at burst
  exact burst.not_carries ieee_constant (by decide) carries

/-! ### The decoder -/

/-- Whatever has the length and the type of a health payload is decoded without an error. -/
theorem decodePayload_health {payload : List UInt8} (long : 25 ≤ payload.length)
    (typed : payload.head? = some BeaconType.health.value) : (decodePayload payload).2 = [] := by
  obtain ⟨rest, rfl⟩ := List.head?_eq_some_iff.mp typed
  simp only [decodePayload, if_true, decodeHealthBeacon, if_neg (Nat.not_lt_of_le long)]

/-- A frame with a whole header is valid when its payload adds no error. -/
theorem decodeBeacon_valid {rawHex : List Char} {header payload : List UInt8} (now : String)
    (headerLength : header.length = 16) (noErrors : (decodePayload payload).2 = [])
    (read : fromHex (cleanHex rawHex) = .ok (header ++ payload)) :
    (decodeBeacon rawHex now).valid = true := by
  have long : ¬ (header ++ payload).length < 16 := by
    rw [List.length_append, headerLength]
    exact Nat.not_lt.mpr (Nat.le_add_right 16 _)
  have behind : (header ++ payload).drop 16 = payload := List.drop_left' headerLength
  simp only [decodeBeacon, read, decodeAx25Header, if_neg long, behind, noErrors, reduceCtorEq,
    if_false, List.append_nil, List.length_nil, decide_true]

/-- Every corruption of a health beacon in a burst of at most 32 bits that leaves the type byte as
it is passes for a valid beacon, although the checksum in it is wrong. -/
theorem health_corruption_unnoticed {rawHex : List Char} {header payload changed rest : List UInt8}
    (now : String) (headerLength : header.length = 16) (wellFormed : WellFormedHealth payload)
    (burst : Burst 32 payload changed)
    (typed : changed.head? = some BeaconType.health.value)
    (read : fromHex (cleanHex rawHex) = .ok (header ++ (changed ++ rest))) :
    (decodeBeacon rawHex now).valid = true ∧ ¬ HealthChecks changed := by
  have length : changed.length = 25 := burst.sameLength.symm.trans wellFormed.length
  refine ⟨decodeBeacon_valid now headerLength (decodePayload_health ?_ ?_) read,
    wellFormed.not_checks burst⟩
  · rw [List.length_append, length]
    exact Nat.le_add_right 25 _
  · rw [List.head?_append, typed]
    rfl

/-- A header between two stations. -/
def sampleHeader : List UInt8 :=
  [0x86, 0xA2, 0x40, 0x40, 0x40, 0x40, 0x60, 0xA6, 0xA2, 0xA6, 0x9E, 0x5A, 0x62, 0x63, 0x03, 0xF0]

/-- The payload of a satellite that has just booted, with a battery voltage in its tenth byte. -/
def sampleHealth (voltage : UInt8) : List UInt8 :=
  [0x01] ++ List.replicate 8 0 ++ [voltage] ++ List.replicate 11 0 ++ [0x15, 0x46, 0xDE, 0xDE]

theorem sampleHealth_wellFormed : WellFormedHealth (sampleHealth 0) where
  length := rfl
  typed := rfl
  checks := by
    unfold HealthChecks
    decide +kernel

/-- A change of the voltage alone is a burst. -/
theorem sampleHealth_burst : Burst 32 (sampleHealth 0) (sampleHealth 0xFF) := by
  have sameLength : ([0x00] : List UInt8).length = ([0xFF] : List UInt8).length := rfl
  have different : ([0x00] : List UInt8) ≠ [0xFF] := by decide
  have byte := burst_of_changed ([0x01] ++ List.replicate 8 0)
    (List.replicate 11 0 ++ [0x15, 0x46, 0xDE, 0xDE]) sameLength different
  exact byte.mono (Nat.le_add_right 8 24)

theorem health_corruption_unnoticed_sample :
    (decodeBeacon (hexString (sampleHeader ++ (sampleHealth 0xFF ++ []))) "").valid = true ∧
      ¬ HealthChecks (sampleHealth 0xFF) :=
  health_corruption_unnoticed "" rfl sampleHealth_wellFormed sampleHealth_burst rfl
    (fromHex_hexString _)

/-- A health beacon whose battery voltage was changed in its lower byte is reported valid. -/
theorem corrupted_health_valid :
    ¬ ∀ rawHex header payload changed now, header.length = 16 → WellFormedHealth payload →
      Burst 32 payload changed → changed.head? = some BeaconType.health.value →
      fromHex (cleanHex rawHex) = .ok (header ++ changed) →
      (decodeBeacon rawHex now).valid ≠ true := by
  intro claimed
  refine claimed (hexString (sampleHeader ++ sampleHealth 0xFF)) sampleHeader (sampleHealth 0)
    (sampleHealth 0xFF) "" rfl sampleHealth_wellFormed sampleHealth_burst rfl
    (fromHex_hexString _) ?_
  exact decodeBeacon_valid "" rfl (decodePayload_health (by decide) rfl) (fromHex_hexString _)

end SmartQso.Tools
