/-
This file follows a beacon from the flight software to the ground station. What is
serialized are the bytes of a frame of the protocol without digipeaters, so the
parser gives back what was encoded. A terminal node controller delivers the same bytes
without the flags; the parser then takes the last byte of the check sequence for a
flag when it looks like one.
-/

import SmartQso.AddressList
import SmartQso.BeaconFrames

namespace SmartQso

open Ground

/-! ### The frame of the protocol -/

/-- The frame a line is sent in. -/
def uiFrame (line : List UInt8) : Ax25.UiFrame where
  destination := cqAddress
  source := beaconAddress
  digipeaters := []
  control := ax25CtrlUi
  pid := ax25PidNoL3
  info := line

theorem encodeAx25Address_cq :
    (encodeAx25Address "CQ" 0 false).toList = cqAddress.field false := by
  decide

theorem encodeAx25Address_beacon :
    (encodeAx25Address beaconCallsign 1 true).toList = beaconAddress.field true := by
  decide

theorem fcsData_eq (line : List UInt8) : fcsData line = (uiFrame line).content := by
  unfold fcsData
  rw [encodeAx25Address_cq, encodeAx25Address_beacon]
  rfl

theorem crc16Bit_semiconj :
    Function.Semiconj UInt16.ofBitVec (ReflectedCrc.shiftBit 0x8408#16) crc16Bit := by
  intro crc
  have masked : (UInt16.ofBitVec crc &&& 0x0001).toNat = crc.toNat &&& 1 := UInt16.toNat_and _ _
  have low : crc.getLsbD 0 = true ↔ UInt16.ofBitVec crc &&& 0x0001 ≠ 0 := by
    rw [ReflectedCrc.lowBit_iff, ← masked]
    exact not_congr (UInt16.toNat_inj (b := 0))
  have shifted : UInt16.ofBitVec crc >>> 1 = .ofBitVec (crc >>> 1) := rfl
  unfold ReflectedCrc.shiftBit crc16Bit
  by_cases odd : crc.getLsbD 0 = true
  · rw [if_pos odd, if_pos (low.mp odd), shifted]
    rfl
  · rw [if_neg odd, if_neg fun set => odd (low.mpr set), shifted]

/-- The flight software computes the check sequence of the protocol. -/
theorem beaconCrc16_eq (data : List UInt8) : beaconCrc16 data = .ofBitVec (Ax25.fcs data) := by
  have absorbs : ∀ (crc : BitVec 16) (byte : UInt8), UInt16.ofBitVec crc ^^^ byte.toUInt16 =
      .ofBitVec (crc ^^^ byte.toBitVec.setWidth 16) := fun _ _ => rfl
  have loop := ReflectedCrc.foldl_image (fun crc byte => crc ^^^ byte.toUInt16)
    crc16Bit_semiconj absorbs (.allOnes 16) data
  unfold beaconCrc16 Ax25.fcs ReflectedCrc.checksum
  rw [show crc16Init = .ofBitVec (.allOnes 16) from rfl, loop]
  rfl

/-- The two bytes a check sequence is written as. -/
theorem fcsBytes (value : BitVec 16) :
    [(UInt16.ofBitVec value).toUInt8, (UInt16.ofBitVec value >>> 8).toUInt8] =
      Ax25.littleEndian value := by
  have low : (UInt16.ofBitVec value).toUInt8 = .ofBitVec (value.extractLsb' 0 8) := by
    apply UInt8.toNat_inj.mp
    rw [UInt16.toNat_toUInt8]
    exact (BitVec.extractLsb'_toNat 0 8 value).symm
  have high : (UInt16.ofBitVec value >>> 8).toUInt8 = .ofBitVec (value.extractLsb' 8 8) := by
    apply UInt8.toNat_inj.mp
    rw [UInt16.toNat_toUInt8, UInt16.toNat_shiftRight]
    exact (BitVec.extractLsb'_toNat 8 8 value).symm
  rw [low, high]
  rfl

/-- What is serialized is the frame of the protocol. -/
theorem beaconSerializeAx25_bytes {frame : Ax25Frame} {line : List UInt8}
    (carries : frame.Carries line) {bufferLen : Nat} (room : 20 + line.length ≤ bufferLen) :
    beaconSerializeAx25 frame bufferLen = (uiFrame line).bytes := by
  rw [beaconSerializeAx25_carries carries room, carries.fcs, beaconCrc16_eq, fcsBytes, fcsData_eq]
  unfold Ax25.UiFrame.bytes Ax25.UiFrame.body
  rw [List.append_assoc [ax25Flag]]
  rfl

/-! ### The round trip -/

/-- What the ground station should make of a line. -/
def beaconReceived (info : List UInt8) : AX25Frame where
  destination := ⟨['C', 'Q'], 0, false, false⟩
  source := ⟨['S', 'Q', 'S', 'O', '-', '1'], 1, false, true⟩
  digipeaters := []
  control := 0x03
  pid := 0xF0
  info := info
  fcsValid := true

theorem receivedFrame_uiFrame (line : List UInt8) :
    receivedFrame (uiFrame line) = beaconReceived line := by
  have destination : received cqAddress false = ⟨['C', 'Q'], 0, false, false⟩ := by decide
  have source : received beaconAddress true = ⟨['S', 'Q', 'S', 'O', '-', '1'], 1, false, true⟩ := by
    decide
  show AX25Frame.mk (received cqAddress false) (received beaconAddress true) _ _ _ _ _ = _
  rw [destination, source]
  rfl

/-- A frame that is built and serialized into a large enough buffer comes back from the parser
with the addresses, the fields and the information it was built with, and its check sequence is
found valid. -/
theorem beacon_round_trip (content : BeaconContent) (bufferLen : Nat)
    (built : (beaconBuildAx25Frame content).1 = .ok)
    (room : 20 + (beaconBuildAx25Frame content).2.infoLen ≤ bufferLen) :
    let frame := (beaconBuildAx25Frame content).2
    parseAx25 (beaconSerializeAx25 frame bufferLen) =
      some (beaconReceived (frame.info.toList.take frame.infoLen)) := by
  have carries := beaconBuildAx25Frame_carries built
  rw [carries.infoLen] at room
  dsimp only
  rw [beaconSerializeAx25_bytes carries room, carries.info, ← receivedFrame_uiFrame]
  unfold parseAx25 Ax25.UiFrame.bytes
  rw [removeFlags_flags]
  exact parseFields_body rfl

/-- A content with a short text and the telemetry of a satellite that has just booted. -/
def bootContent (now : UInt64) : BeaconContent :=
  (beaconGenerateContent beaconInit (some (ascii "hi")) (Eps.boot [] FaultMgmt.boot)
    (MissionData.boot none) now).2

theorem beacon_round_trip_boot :
    let frame := (beaconBuildAx25Frame (bootContent 0)).2
    parseAx25 (beaconSerializeAx25 frame ax25MaxFrameLen) =
      some (beaconReceived (frame.info.toList.take frame.infoLen)) :=
  beacon_round_trip (bootContent 0) ax25MaxFrameLen (by decide +kernel) (by decide +kernel)

/-! ### Frames without flags -/

/-- The parser finds the same valid frame in the bytes with their flags and without. -/
def FlagsIgnored (body : List UInt8) : Prop :=
  ∃ parsed : AX25Frame, parsed.fcsValid = true ∧ parseAx25 body = some parsed ∧
    parseAx25 ([ax25Flag] ++ body ++ [ax25Flag]) = some parsed

/-- The last byte of the check sequence is the last byte of the frame. -/
theorem uiFrame_body (line : List UInt8) :
    (uiFrame line).body = (uiFrame line).content ++
      [(beaconCrc16 (fcsData line)).toUInt8] ++ [(beaconCrc16 (fcsData line) >>> 8).toUInt8] := by
  unfold Ax25.UiFrame.body
  rw [beaconCrc16_eq, fcsData_eq, ← fcsBytes, List.append_assoc]
  rfl

/-- Without flags the last byte of the check sequence is taken for one when it looks like it. -/
theorem removeFlags_body (line : List UInt8) :
    removeFlags (uiFrame line).body =
      if (beaconCrc16 (fcsData line) >>> 8).toUInt8 = ax25Flag then (uiFrame line).body.dropLast
      else (uiFrame line).body := by
  have opening : ¬ (uiFrame line).body.head? = some Ground.flag := by
    show ¬ some _ = some _
    decide
  have closing : (uiFrame line).body.getLast? =
      some (beaconCrc16 (fcsData line) >>> 8).toUInt8 := by
    rw [uiFrame_body, List.getLast?_concat]
  unfold removeFlags
  dsimp only
  rw [if_neg opening, closing]
  exact if_congr Option.some_inj rfl rfl

/-- With the last byte the parser loses the last character of the line. -/
theorem parseFields_cut {line : List UInt8} (nonempty : line ≠ []) :
    ∃ parsed, parseFields (uiFrame line).body.dropLast = some parsed ∧
      parsed.info = line.dropLast := by
  have split : (uiFrame line).content =
      (uiFrame line.dropLast).content ++ [line.getLast nonempty] := by
    unfold Ax25.UiFrame.content
    rw [List.append_assoc _ _ [line.getLast nonempty]]
    exact congrArg _ (List.dropLast_append_getLast nonempty).symm
  rw [uiFrame_body, List.dropLast_concat, split, List.append_assoc]
  exact ⟨_, parseFields_direct cqAddress beaconAddress ax25CtrlUi ax25PidNoL3 _ _ line.dropLast,
    rfl⟩

theorem beaconLine_nonempty (content : BeaconContent) : beaconLine content ≠ [] := by
  refine List.ne_nil_of_length_pos ?_
  rw [length_beaconLine]
  omega

theorem flagsIgnored_body_iff {line : List UInt8} (nonempty : line ≠ []) :
    FlagsIgnored (uiFrame line).body ↔ (beaconCrc16 (fcsData line) >>> 8).toUInt8 ≠ ax25Flag := by
  have flagged : parseAx25 ([ax25Flag] ++ (uiFrame line).body ++ [ax25Flag]) =
      some (receivedFrame (uiFrame line)) :=
    (congrArg parseFields (removeFlags_flags _)).trans (parseFields_body rfl)
  unfold FlagsIgnored
  rw [flagged, parseAx25, removeFlags_body]
  by_cases ending : (beaconCrc16 (fcsData line) >>> 8).toUInt8 = ax25Flag
  · rw [if_pos ending]
    refine iff_of_false ?_ (not_not.mpr ending)
    rintro ⟨parsed, _, unflagged, whole⟩
    obtain ⟨cut, isCut, info⟩ := parseFields_cut nonempty
    have same : cut = receivedFrame (uiFrame line) :=
      Option.some.inj (isCut.symm.trans (unflagged.trans whole.symm))
    have shorter : line.dropLast.length = line.length := by
      rw [← info, same]
      rfl
    have positive := List.length_pos_of_ne_nil nonempty
    rw [List.length_dropLast] at shorter
    omega
  · rw [if_neg ending]
    exact iff_of_true ⟨_, rfl, parseFields_body rfl, rfl⟩ ending

/-- What is serialized, without the flags. -/
theorem beaconSerializeAx25_unflagged {content : BeaconContent} {bufferLen : Nat}
    (built : (beaconBuildAx25Frame content).1 = .ok)
    (room : 20 + (beaconBuildAx25Frame content).2.infoLen ≤ bufferLen) :
    ((beaconSerializeAx25 (beaconBuildAx25Frame content).2 bufferLen).drop 1).dropLast =
      (uiFrame (beaconLine content)).body := by
  have carries := beaconBuildAx25Frame_carries built
  rw [carries.infoLen] at room
  rw [beaconSerializeAx25_bytes carries room]
  exact List.dropLast_concat

/-- For a frame that is built and serialized the parser finds the same valid frame with the flags
and without exactly when the check sequence does not end like a flag. -/
theorem flags_ignored_iff (content : BeaconContent) (bufferLen : Nat)
    (built : (beaconBuildAx25Frame content).1 = .ok)
    (room : 20 + (beaconBuildAx25Frame content).2.infoLen ≤ bufferLen) :
    let frame := (beaconBuildAx25Frame content).2
    FlagsIgnored ((beaconSerializeAx25 frame bufferLen).drop 1).dropLast ↔
      (frame.fcs >>> 8).toUInt8 ≠ ax25Flag := by
  dsimp only
  rw [beaconSerializeAx25_unflagged built room, (beaconBuildAx25Frame_carries built).fcs]
  exact flagsIgnored_body_iff (beaconLine_nonempty content)

theorem flags_ignored_boot :
    let frame := (beaconBuildAx25Frame (bootContent 0)).2
    FlagsIgnored ((beaconSerializeAx25 frame ax25MaxFrameLen).drop 1).dropLast ↔
      (frame.fcs >>> 8).toUInt8 ≠ ax25Flag :=
  flags_ignored_iff (bootContent 0) ax25MaxFrameLen (by decide +kernel) (by decide +kernel)

/-- The two programs compute the same check sequence. -/
theorem beaconCrc16_toNat (data : List UInt8) : (beaconCrc16 data).toNat = calculateFcs data := by
  rw [beaconCrc16_eq, calculateFcs_eq]
  rfl

/-- One minute after the boot the check sequence is `0x7E0F`. The parser drops its last byte. -/
theorem check_taken_for_flag :
    let content := bootContent 60000
    let body := ((beaconSerializeAx25 (beaconBuildAx25Frame content).2 ax25MaxFrameLen).drop
      1).dropLast
    (beaconBuildAx25Frame content).1 = .ok ∧ ¬ FlagsIgnored body := by
  intro content body
  have built : (beaconBuildAx25Frame content).1 = .ok := by decide +kernel
  have unflagged : body = (uiFrame (beaconLine content)).body :=
    beaconSerializeAx25_unflagged built (by decide +kernel)
  have check : beaconCrc16 (fcsData (beaconLine content)) = 0x7E0F := by
    rw [← UInt16.toNat_inj, beaconCrc16_toNat]
    decide +kernel
  refine ⟨built, ?_⟩
  rw [unflagged, flagsIgnored_body_iff (beaconLine_nonempty content), check]
  decide

end SmartQso
