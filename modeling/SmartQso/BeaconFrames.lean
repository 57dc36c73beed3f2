/-
This file says when a beacon becomes a frame, and which: the line of text has to fit
into the information field with its terminator, and the frame then carries the whole
line. Whoever reasons about frames cites these results and unfolds no buffer.
-/

import SmartQso.Beacon

namespace SmartQso

/-! ### The printed line -/

theorem length_beaconLine (content : BeaconContent) :
    (beaconLine content).length =
      11 + (cString content.text).length + (telemetryTail content.telemetry).length := by
  unfold beaconLine
  rw [List.length_append, List.length_append, List.length_append, List.length_append]
  rfl

/-- A line with room for its terminator is printed as it is. -/
theorem beaconFormatPayload_fits {content : BeaconContent} {size : Nat}
    (fits : (beaconLine content).length < size) (buffer : Vector UInt8 size) :
    beaconFormatPayload content buffer =
      (overwrite (beaconLine content ++ [0]) buffer, (beaconLine content).length) := by
  have nonempty : size ≠ 0 := Nat.ne_of_gt (Nat.zero_lt_of_lt fits)
  unfold beaconFormatPayload
  dsimp only
  rw [if_neg nonempty, if_neg (Nat.not_le_of_lt fits), List.take_of_length_le]
  omega

/-- A longer line is an error. -/
theorem beaconFormatPayload_long {content : BeaconContent} {size : Nat}
    (long : size ≤ (beaconLine content).length) (buffer : Vector UInt8 size) :
    (beaconFormatPayload content buffer).2 = 0 := by
  unfold beaconFormatPayload
  dsimp only
  by_cases empty : size = 0
  · rw [if_pos empty]
  · rw [if_neg empty, if_pos long]

/-! ### The frame -/

/-- A frame is built exactly from a line of at most 255 characters. -/
theorem beaconBuildAx25Frame_ok_iff (content : BeaconContent) :
    (beaconBuildAx25Frame content).1 = .ok ↔ (beaconLine content).length < 256 := by
  have printable : (beaconLine content).length ≠ 0 := by
    rw [length_beaconLine]
    omega
  unfold beaconBuildAx25Frame
  dsimp only
  by_cases fits : (beaconLine content).length < 256
  · rw [beaconFormatPayload_fits fits, if_neg printable]
    exact iff_of_true rfl fits
  · rw [if_pos (beaconFormatPayload_long (Nat.le_of_not_lt fits) _)]
    exact iff_of_false SmartQsoResult.noConfusion fits

/-- The bytes a check sequence of a beacon runs over. -/
def fcsData (line : List UInt8) : List UInt8 :=
  (encodeAx25Address "CQ" 0 false).toList ++ (encodeAx25Address beaconCallsign 1 true).toList ++
    [ax25CtrlUi, ax25PidNoL3] ++ line

/-- The frame that is built from a line. -/
structure Ax25Frame.Carries (frame : Ax25Frame) (line : List UInt8) : Prop where
  destAddr : frame.destAddr = encodeAx25Address "CQ" 0 false
  srcAddr : frame.srcAddr = encodeAx25Address beaconCallsign 1 true
  ctrl : frame.ctrl = ax25CtrlUi
  pid : frame.pid = ax25PidNoL3
  infoLen : frame.infoLen = line.length
  info : frame.info.toList.take frame.infoLen = line
  fcs : frame.fcs = beaconCrc16 (fcsData line)

theorem beaconBuildAx25Frame_carries {content : BeaconContent}
    (built : (beaconBuildAx25Frame content).1 = .ok) :
    (beaconBuildAx25Frame content).2.Carries (beaconLine content) := by
  have fits := (beaconBuildAx25Frame_ok_iff content).mp built
  have printable : (beaconLine content).length ≠ 0 := by
    rw [length_beaconLine]
    omega
  have room : (beaconLine content ++ [0]).length ≤ beaconMaxPayloadLen := by
    rw [List.length_append]
    exact fits
  have info : (overwrite (beaconLine content ++ [0]) (zeroed beaconMaxPayloadLen)).toList.take
      (beaconLine content).length = beaconLine content := by
    rw [overwrite_toList _ _ room, List.append_assoc, List.take_left]
  unfold beaconBuildAx25Frame
  dsimp only
  rw [beaconFormatPayload_fits fits, if_neg printable]
  refine ⟨rfl, rfl, rfl, rfl, rfl, info, ?_⟩
  show beaconCrc16 _ = beaconCrc16 _
  rw [info]
  rfl

/-- Masking the lower byte of a number changes nothing about it. -/
theorem toUInt8_lowByte (value : UInt16) : (value &&& 0xFF).toUInt8 = value.toUInt8 := by
  apply UInt8.toNat_inj.mp
  rw [UInt16.toNat_toUInt8, UInt16.toNat_and, UInt16.toNat_toUInt8]
  exact (Nat.and_two_pow_sub_one_eq_mod value.toNat 8).symm ▸ Nat.mod_mod _ _

/-- The serialization of a frame that carries a line, in a buffer that is long enough. -/
theorem beaconSerializeAx25_carries {frame : Ax25Frame} {line : List UInt8}
    (carries : frame.Carries line) {bufferLen : Nat} (room : 20 + line.length ≤ bufferLen) :
    beaconSerializeAx25 frame bufferLen =
      [ax25Flag] ++ fcsData line ++ [frame.fcs.toUInt8, (frame.fcs >>> 8).toUInt8] ++
        [ax25Flag] := by
  have fits : ¬ 1 + ax25AddrLen * 2 + 1 + 1 + frame.infoLen + 2 + 1 > bufferLen := by
    rw [carries.infoLen]
    show ¬ 1 + 7 * 2 + 1 + 1 + line.length + 2 + 1 > bufferLen
    omega
  unfold beaconSerializeAx25 fcsData
  dsimp only
  rw [if_neg fits, toUInt8_lowByte, toUInt8_lowByte, carries.info, carries.destAddr,
    carries.srcAddr, carries.ctrl, carries.pid]
  simp only [List.append_assoc]

/-- A beacon is transmitted exactly when a frame can be built from it: the frame fits into the
transmit buffer. -/
theorem beaconTransmit_ok_iff (beacon : Beacon) (content : BeaconContent) :
    (beaconTransmit beacon content).2 = .ok ↔ (beaconLine content).length < 256 := by
  rw [← beaconBuildAx25Frame_ok_iff]
  unfold beaconTransmit
  dsimp only
  by_cases built : (beaconBuildAx25Frame content).1 = .ok
  · have fits := (beaconBuildAx25Frame_ok_iff content).mp built
    have room : 20 + (beaconLine content).length ≤ ax25MaxFrameLen := by
      unfold ax25MaxFrameLen
      omega
    rw [if_neg (not_not.mpr built),
      beaconSerializeAx25_carries (beaconBuildAx25Frame_carries built) room, if_neg]
    · exact iff_of_true rfl built
    · exact Nat.succ_ne_zero _
  · rw [if_pos built]

end SmartQso
