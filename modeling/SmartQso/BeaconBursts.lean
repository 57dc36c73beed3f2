/-
This file says what the check sequence of a beacon is good for: a burst of no more than
16 bits anywhere between the flags, also one that reaches from the information into the
check sequence, is noticed by the parser of the ground station.
-/

import SmartQso.BeaconDownlink
import SmartQso.CrcRemainder

namespace SmartQso

open Ground ReflectedCrc

/-! ### The check of the parser -/

/-- The bytes a number of two bytes is unpacked from. -/
theorem unpackUint16_eq_some_iff {data : List UInt8} {value : Nat} :
    unpackUint16 data = some value ↔ data.length = 2 ∧ ByteOrder.valueOf data = value := by
  constructor
  · intro unpacked
    match data, unpacked with
    | [low, high], unpacked => exact ⟨rfl, Option.some.inj unpacked⟩
  · rintro ⟨length, rfl⟩
    match data, length with
    | [low, high], _ => rfl

/-- A check sequence that is unpacked and compares equal is the check of the data. -/
theorem carries_of_unpacked {data field : List UInt8}
    (unpacked : unpackUint16 field = some (calculateFcs data)) :
    CarriesCheck 0x8408#16 data field := by
  obtain ⟨length, value⟩ := unpackUint16_eq_some_iff.mp unpacked
  exact ⟨by rw [length], value.trans (calculateFcs_eq data)⟩

/-- A frame whose check sequence is found valid ends with the check of what stands before it. -/
theorem carries_of_fcsValid {data : List UInt8} {parsed : AX25Frame}
    (isParsed : parseFields data = some parsed) (valid : parsed.fcsValid = true) :
    CarriesCheck 0x8408#16 (data.take (data.length - 2)) (data.drop (data.length - 2)) := by
  unfold parseFields at isParsed
  by_cases short : data.length < minFrameSize
  · rw [if_pos short] at isParsed
    cases isParsed
  · rw [if_neg short] at isParsed
    simp only [Option.bind_eq_bind, Option.bind_eq_some_iff, Option.some_inj] at isParsed
    obtain ⟨_, _, _, _, _, _, _, _, fcs, unpacked, rfl⟩ := isParsed
    rw [of_decide_eq_true valid] at unpacked
    exact carries_of_unpacked unpacked

/-! ### Bursts -/

/-- A frame that is built and serialized and then changed in a burst of no more than 16 bits
between its flags is not parsed, or its check sequence is found wrong. -/
theorem beacon_detects_bursts (content : BeaconContent) (bufferLen : Nat)
    (built : (beaconBuildAx25Frame content).1 = .ok)
    (room : 20 + (beaconBuildAx25Frame content).2.infoLen ≤ bufferLen) :
    let sent := beaconSerializeAx25 (beaconBuildAx25Frame content).2 bufferLen
    ∀ changed, Burst 16 (sent.drop 1).dropLast changed →
      ∀ parsed, parseAx25 ([ax25Flag] ++ changed ++ [ax25Flag]) = some parsed →
        parsed.fcsValid = false := by
  intro sent changed burst parsed isParsed
  rw [beaconSerializeAx25_unflagged built room, Ax25.UiFrame.body] at burst
  have unflagged : parseAx25 ([ax25Flag] ++ changed ++ [ax25Flag]) = parseFields changed :=
    congrArg parseFields (removeFlags_flags changed)
  rw [unflagged] at isParsed
  refine Bool.eq_false_iff.mpr fun valid => ?_
  rw [← List.take_append_drop (changed.length - 2) changed] at burst
  exact burst.not_carries (by decide) (by decide) (carries_of_unpacked (check_littleEndian _))
    (carries_of_fcsValid isParsed valid)

theorem beacon_detects_bursts_boot :
    let sent := beaconSerializeAx25 (beaconBuildAx25Frame (bootContent 0)).2 ax25MaxFrameLen
    ∀ changed, Burst 16 (sent.drop 1).dropLast changed →
      ∀ parsed, parseAx25 ([ax25Flag] ++ changed ++ [ax25Flag]) = some parsed →
        parsed.fcsValid = false :=
  beacon_detects_bursts (bootContent 0) ax25MaxFrameLen (by decide +kernel) (by decide +kernel)

end SmartQso
