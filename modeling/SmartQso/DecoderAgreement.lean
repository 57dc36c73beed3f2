/-
This file compares the two decoders of the ground station on the frames the flight
software serializes. The command line tool expects the destination at the first byte,
which holds the flag, so every field it reports is read one byte too early.
-/

import SmartQso.BeaconDownlink
import SmartQso.BeaconTool

namespace SmartQso

open Ground

/-- The header of a parsed frame in the form of the tool. -/
def Ground.AX25Frame.header (frame : AX25Frame) : Tools.AX25Header where
  destCallsign := frame.destination.callsign
  destSsid := frame.destination.ssid
  srcCallsign := frame.source.callsign
  srcSsid := frame.source.ssid
  control := frame.control
  pid := frame.pid

/-- What the flight software encodes into the header of a beacon. -/
def beaconHeader : Tools.AX25Header where
  destCallsign := "CQ".toList
  destSsid := 0
  srcCallsign := beaconCallsign.toList
  srcSsid := 1
  control := ax25CtrlUi
  pid := ax25PidNoL3

/-- Both decoders report what was encoded: the tool from a hexadecimal text, the other one from
the bytes. -/
def DecodersAgree (rawHex : List Char) (now : String) (bytes : List UInt8) : Prop :=
  (Tools.decodeBeacon rawHex now).ax25Header = some beaconHeader ∧
    (parseAx25 bytes).map AX25Frame.header = some beaconHeader

/-- The header the tool reports: the flag is taken for the first character of the destination, the
end of the destination for that of the source, and the end of the source for the control byte. -/
def shiftedHeader : Tools.AX25Header where
  destCallsign := "?CQ".toList
  destSsid := 0
  srcCallsign := "0SQSO-".toList
  srcSsid := 1
  control := 0x63
  pid := ax25CtrlUi

theorem decodeAx25Header_uiFrame (line : List UInt8) :
    (Tools.decodeAx25Header (uiFrame line).bytes).1 = some shiftedHeader := by
  have split : (uiFrame line).bytes =
      (Ax25.flag :: (cqAddress.field false ++ beaconAddress.field true ++
          [ax25CtrlUi, ax25PidNoL3])) ++
        (line ++ Ax25.littleEndian (Ax25.fcs (uiFrame line).content) ++ [Ax25.flag]) := by
    unfold Ax25.UiFrame.bytes Ax25.UiFrame.body Ax25.UiFrame.content
    simp only [List.append_assoc, List.cons_append]
    rfl
  rw [split, Tools.decodeAx25Header_front (by decide)]
  decide

/-- The tool reports the same wrong header for every beacon. -/
theorem decodeBeacon_serialized {content : BeaconContent} {bufferLen : Nat} {rawHex : List Char}
    (built : (beaconBuildAx25Frame content).1 = .ok)
    (room : 20 + (beaconBuildAx25Frame content).2.infoLen ≤ bufferLen)
    (read : Tools.fromHex (Tools.cleanHex rawHex) =
      .ok (beaconSerializeAx25 (beaconBuildAx25Frame content).2 bufferLen)) (now : String) :
    (Tools.decodeBeacon rawHex now).ax25Header = some shiftedHeader := by
  have carries := beaconBuildAx25Frame_carries built
  rw [carries.infoLen] at room
  rw [Tools.decodeBeacon_header read, beaconSerializeAx25_bytes carries room,
    decodeAx25Header_uiFrame]

/-- On no frame that is built and serialized, and on no text of it, do the two decoders agree on
what was encoded. -/
theorem decoders_never_agree (content : BeaconContent) (bufferLen : Nat) (rawHex : List Char)
    (now : String) (built : (beaconBuildAx25Frame content).1 = .ok)
    (room : 20 + (beaconBuildAx25Frame content).2.infoLen ≤ bufferLen)
    (read : Tools.fromHex (Tools.cleanHex rawHex) =
      .ok (beaconSerializeAx25 (beaconBuildAx25Frame content).2 bufferLen)) :
    ¬ DecodersAgree rawHex now
      (beaconSerializeAx25 (beaconBuildAx25Frame content).2 bufferLen) := by
  rintro ⟨reported, _⟩
  rw [decodeBeacon_serialized built room read] at reported
  exact absurd reported (by decide)

theorem decoders_never_agree_boot :
    let bytes := beaconSerializeAx25 (beaconBuildAx25Frame (bootContent 0)).2 ax25MaxFrameLen
    ¬ DecodersAgree (Tools.hexString bytes) "" bytes :=
  decoders_never_agree (bootContent 0) ax25MaxFrameLen _ "" (by decide +kernel) (by decide +kernel)
    (Tools.fromHex_hexString _)

/-- The tool reads the beacon of a satellite that has just booted as one to `?CQ`. -/
theorem tool_reads_flag_as_callsign :
    let bytes := beaconSerializeAx25 (beaconBuildAx25Frame (bootContent 0)).2 ax25MaxFrameLen
    (Tools.decodeBeacon (Tools.hexString bytes) "").ax25Header = some shiftedHeader ∧
      ¬ DecodersAgree (Tools.hexString bytes) "" bytes := by
  intro bytes
  have built : (beaconBuildAx25Frame (bootContent 0)).1 = .ok := by decide +kernel
  have reported : (Tools.decodeBeacon (Tools.hexString bytes) "").ax25Header =
      some shiftedHeader :=
    decodeBeacon_serialized built (by decide +kernel) (Tools.fromHex_hexString bytes) ""
  refine ⟨reported, fun agree => ?_⟩
  exact absurd (reported.symm.trans agree.1) (by decide)

end SmartQso
