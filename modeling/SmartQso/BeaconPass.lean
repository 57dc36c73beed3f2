/-
This file follows the beacons of a pass from the flight software to the ground: each is
built and serialized on board, framed with KISS without its flags, and the stream of all of
them decoded. Every beacon comes out once and in order. One whose check sequence ends like a
flag comes out without the last character of its line, and is then never taken for valid.
-/

import SmartQso.BeaconDownlink
import SmartQso.DownlinkTelemetry
import SmartQso.KissFrames

namespace SmartQso.Ground

open ByteStuffing TextPattern

/-! ### The decoder -/

/-- `BeaconType`. -/
inductive BeaconType
  | status
  | science
  | greeting
  | emergency
  | test
  | unknown
  deriving DecidableEq

/-- `DecodedBeacon`, without the time the decoding took. -/
structure DecodedBeacon where
  rawFrame : List UInt8
  ax25Frame : Option AX25Frame
  beaconType : BeaconType
  callsign : List Char
  sequence : Option Int
  timestamp : Option Int
  aiGenerated : Bool
  infoText : List Char
  telemetry : Telemetry
  valid : Bool
  errors : List String

/-- `BeaconDecoder`: its statistics. -/
structure BeaconDecoder where
  decodeCount : Nat
  errorCount : Nat
  deriving DecidableEq

/-- The pattern of `_extract_sequence`. -/
def sequencePattern : Pattern Char where
  before := literal "#".toList
  group := List.replicate 4 (.one Char.isDigit)
  after := []

/-- `_extract_sequence`. -/
def extractSequence (info : List Char) : Option Int :=
  (sequencePattern.search info).map parseInt

/-- `word in text`. -/
def contains (word : String) (text : List Char) : Bool := decide (word.toList <:+: text)

/-- `_detect_beacon_type`. -/
def detectBeaconType (info : List Char) : BeaconType :=
  let infoUpper := info.map Char.toUpper
  if contains "EMERGENCY" infoUpper then .emergency
  else if contains "TEST" infoUpper then .test
  else if contains "SCIENCE" infoUpper then .science
  else if contains "GREETING" infoUpper || contains "CQ" infoUpper then .greeting
  else .status

/-- What `decode` returns for bytes that are no frame. -/
def DecodedBeacon.failed (rawFrame : List UInt8) : DecodedBeacon where
  rawFrame := rawFrame
  ax25Frame := none
  beaconType := .unknown
  callsign := []
  sequence := none
  timestamp := none
  aiGenerated := false
  infoText := []
  telemetry := ⟨none, none, none, none, none, none⟩
  valid := false
  errors := ["Failed to parse AX.25 frame"]

/-- What `decode` returns for a frame; the decoding of its text never fails. -/
def DecodedBeacon.ofFrame (rawFrame : List UInt8) (frame : AX25Frame) : DecodedBeacon :=
  let infoText := decodeAscii frame.info
  { rawFrame := rawFrame
    ax25Frame := some frame
    beaconType := detectBeaconType infoText
    callsign := frame.source.callsign
    sequence := extractSequence infoText
    timestamp := extractTimestamp infoText
    aiGenerated := contains "[AI]" infoText
    infoText := infoText
    telemetry := extractTelemetry infoText
    valid := frame.fcsValid
    errors := [] }

/-- `decode`. -/
def BeaconDecoder.decode (decoder : BeaconDecoder) (rawFrame : List UInt8) :
    BeaconDecoder × DecodedBeacon :=
  match parseAx25 rawFrame with
  | none => ({ decoder with errorCount := decoder.errorCount + 1 }, .failed rawFrame)
  | some frame =>
    ({ decoder with decodeCount := decoder.decodeCount + 1 }, .ofFrame rawFrame frame)

/-- The loop of `decode_kiss`. -/
def BeaconDecoder.decodeFrames (decoder : BeaconDecoder) :
    List (List UInt8) → BeaconDecoder × List DecodedBeacon
  | [] => (decoder, [])
  | frame :: frames =>
    let decoded := decoder.decode frame
    let rest := decoded.1.decodeFrames frames
    (rest.1, decoded.2 :: rest.2)

/-- `decode_kiss`. -/
def BeaconDecoder.decodeKiss (decoder : BeaconDecoder) (kissData : List UInt8) :
    BeaconDecoder × List DecodedBeacon :=
  decoder.decodeFrames (extractKissFrames kissData)

/-! ### The cut check sequence -/

/-- One round of the check sequence from a register whose low byte is `0xFF`. -/
theorem crc16Round_ends (high : UInt8) :
    ((crc16Bit^[8] (high.toUInt16 <<< 8 ^^^ (0xFFFF : UInt16)) ^^^
      (0xFFFF : UInt16)) >>> 8).toUInt8 = 0xF0 := by
  have each : ∀ value : ℕ, value < 256 →
      ((crc16Bit^[8] (value.toUInt8.toUInt16 <<< 8 ^^^ (0xFFFF : UInt16)) ^^^
        (0xFFFF : UInt16)) >>> 8).toUInt8 = 0xF0 := by
    decide +kernel
  have here := each high.toNat high.toNat_lt
  rw [show high.toNat.toUInt8 = high from UInt8.ofNat_toNat] at here
  exact here

/-- Without its low byte a word is its high byte. -/
theorem word_xor_low (word : UInt16) :
    word ^^^ (0xFFFF : UInt16) ^^^ word.toUInt8.toUInt16 =
      (word >>> 8).toUInt8.toUInt16 <<< 8 ^^^ (0xFFFF : UInt16) := by
  apply UInt16.toBitVec_inj.mp
  apply BitVec.eq_of_getLsbD_eq
  intro index bound
  have eight : UInt16.toBitVec 8 % 16 = 8#16 := by decide
  have ones : (UInt16.toBitVec 0xFFFF).getLsbD index = true := by
    have each : ∀ index < 16, (UInt16.toBitVec 0xFFFF).getLsbD index = true := by decide
    exact each index bound
  simp only [UInt16.toBitVec_xor, UInt8.toBitVec_toUInt16, UInt16.toBitVec_toUInt8,
    UInt16.toBitVec_shiftLeft, UInt16.toBitVec_shiftRight, BitVec.getLsbD_xor,
    BitVec.getLsbD_setWidth, eight, ones]
  rw [BitVec.shiftLeft_eq', BitVec.ushiftRight_eq']
  simp only [BitVec.getLsbD_shiftLeft, BitVec.getLsbD_setWidth, BitVec.getLsbD_ushiftRight]
  by_cases low : index < 8
  · simp [low, bound]
  · have back : 8 + (index - 8) = index := by omega
    have inside : index < 24 := by omega
    simp [low, bound, back, inside, Nat.sub_lt_iff_lt_add (Nat.not_lt.mp low)]

theorem beaconCrc16_concat (front : List UInt8) (byte : UInt8) :
    beaconCrc16 (front ++ [byte]) =
      crc16Bit^[8] (beaconCrc16 front ^^^ (0xFFFF : UInt16) ^^^ byte.toUInt16) ^^^
        (0xFFFF : UInt16) := by
  have again : ∀ crc : UInt16, crc ^^^ (0xFFFF : UInt16) ^^^ (0xFFFF : UInt16) = crc := by
    intro crc
    rw [UInt16.xor_assoc, UInt16.xor_self, UInt16.xor_zero]
  unfold beaconCrc16
  rw [List.foldl_concat, again]

/-- When two bytes are the check sequence of what stands before them, that of one byte more ends in
`0xF0`, not like a flag. -/
theorem check_ends {front : List UInt8} {byte high : UInt8}
    (checks : byte.toNat + 256 * high.toNat = calculateFcs front) :
    (beaconCrc16 (front ++ [byte]) >>> 8).toUInt8 = 0xF0 := by
  rw [← beaconCrc16_toNat] at checks
  have low : (beaconCrc16 front).toUInt8 = byte := by
    apply UInt8.toNat_inj.mp
    rw [UInt16.toNat_toUInt8, ← checks]
    have bound := byte.toNat_lt
    omega
  rw [beaconCrc16_concat, ← low, word_xor_low]
  exact crc16Round_ends _

/-! ### One beacon -/

/-- A received beacon shows the line that was sent: whole and valid, or without its last character
and not valid when the check sequence of the line ends like a flag. -/
structure Shows (line : List UInt8) (decoded : DecodedBeacon) : Prop where
  callsign : decoded.callsign = "SQSO-1".toList
  errors : decoded.errors = []
  valid : decoded.valid = true ↔ (beaconCrc16 (fcsData line) >>> 8).toUInt8 ≠ ax25Flag
  infoText : decoded.infoText = decodeAscii (if decoded.valid then line else line.dropLast)

theorem source_received : (received beaconAddress true).callsign = "SQSO-1".toList := by decide

/-- A frame whose last byte has been taken for a flag is not valid. -/
theorem parseFields_cut_invalid {line : List UInt8} (nonempty : line ≠ [])
    (ending : (beaconCrc16 (fcsData line) >>> 8).toUInt8 = ax25Flag) :
    ∃ parsed, parseFields (uiFrame line).body.dropLast = some parsed ∧
      parsed.source = received beaconAddress true ∧ parsed.info = line.dropLast ∧
      parsed.fcsValid = false := by
  have split : (uiFrame line).content =
      (uiFrame line.dropLast).content ++ [line.getLast nonempty] := by
    unfold Ax25.UiFrame.content
    rw [List.append_assoc _ _ [line.getLast nonempty]]
    exact congrArg _ (List.dropLast_append_getLast nonempty).symm
  rw [uiFrame_body, List.dropLast_concat, split, List.append_assoc]
  refine ⟨_, parseFields_direct cqAddress beaconAddress ax25CtrlUi ax25PidNoL3 _ _ line.dropLast,
    rfl, rfl, decide_eq_false fun checks => ?_⟩
  have ends := check_ends checks
  change (beaconCrc16 ((uiFrame line.dropLast).content ++ [line.getLast nonempty]) >>> 8).toUInt8 =
    0xF0 at ends
  rw [← split, ← fcsData_eq, ending] at ends
  exact absurd ends (by decide)

/-- A frame sent without its flags is decoded, and shows its line. -/
theorem BeaconDecoder.decode_body (decoder : BeaconDecoder) {line : List UInt8}
    (nonempty : line ≠ []) :
    (decoder.decode (uiFrame line).body).1 =
        { decoder with decodeCount := decoder.decodeCount + 1 } ∧
      Shows line (decoder.decode (uiFrame line).body).2 := by
  unfold BeaconDecoder.decode parseAx25
  rw [removeFlags_body]
  by_cases ending : (beaconCrc16 (fcsData line) >>> 8).toUInt8 = ax25Flag
  · obtain ⟨parsed, isParsed, source, info, invalid⟩ := parseFields_cut_invalid nonempty ending
    rw [if_pos ending, isParsed]
    have notValid : (DecodedBeacon.ofFrame (uiFrame line).body parsed).valid = false := invalid
    refine ⟨rfl, ?_, rfl, ?_, ?_⟩
    · exact (congrArg AX25Address.callsign source).trans source_received
    · dsimp only
      rw [notValid]
      exact iff_of_false Bool.false_ne_true (not_not.mpr ending)
    · dsimp only
      rw [notValid, if_neg Bool.false_ne_true, ← info]
      rfl
  · rw [if_neg ending, parseFields_body rfl]
    exact ⟨rfl, source_received, rfl, iff_of_true rfl ending, rfl⟩

/-! ### A pass -/

/-- A beacon that the flight software has built, and the frame ends the ground hears behind it. -/
structure SentBeacon where
  content : BeaconContent
  built : (beaconBuildAx25Frame content).1 = .ok
  idle : Nat

/-- The serialized frame without its flags. -/
def SentBeacon.frame (sent : SentBeacon) : List UInt8 :=
  ((beaconSerializeAx25 (beaconBuildAx25Frame sent.content).2 ax25MaxFrameLen).drop 1).dropLast

theorem SentBeacon.frame_eq (sent : SentBeacon) :
    sent.frame = (uiFrame (beaconLine sent.content)).body := by
  have carries := beaconBuildAx25Frame_carries sent.built
  have short : (beaconBuildAx25Frame sent.content).2.infoLen ≤ beaconMaxPayloadLen := by
    have stored := congrArg List.length carries.info
    rw [← carries.infoLen, List.length_take, Vector.length_toList] at stored
    exact min_eq_left_iff.mp stored
  have room : 20 + beaconMaxPayloadLen ≤ ax25MaxFrameLen := by decide
  exact beaconSerializeAx25_unflagged sent.built (by omega)

theorem SentBeacon.long (sent : SentBeacon) : minFrameSize ≤ sent.frame.length := by
  have positive := List.length_pos_of_ne_nil (beaconLine_nonempty sent.content)
  have content : (uiFrame (beaconLine sent.content)).content.length =
      16 + (beaconLine sent.content).length := by
    unfold Ax25.UiFrame.content
    rw [List.length_append]
    rfl
  rw [sent.frame_eq, uiFrame_body, List.length_append, List.length_append, content]
  change 17 ≤ 16 + (beaconLine sent.content).length + 1 + 1
  omega

/-- The bytes of a beacon on the link. -/
def SentBeacon.bytes (sent : SentBeacon) : List UInt8 :=
  (KissFrame.mk sent.frame sent.idle sent.long).bytes

theorem extractKissFrames_pass (idle : Nat) (sent : List SentBeacon) :
    extractKissFrames (List.replicate idle fend ++ sent.flatMap SentBeacon.bytes) =
      sent.map SentBeacon.frame := by
  refine (frames_replicate fend kissFrame rfl idle _).trans ?_
  change extractKissFrames _ = _
  induction sent with
  | nil => rfl
  | cons beacon rest inductionHypothesis =>
    rw [List.flatMap_cons, List.map_cons, ← inductionHypothesis]
    exact extractKissFrames_sent _ _

/-- The loop returns a beacon for each frame that was sent. -/
theorem BeaconDecoder.decodeFrames_sent (decoder : BeaconDecoder) (sent : List SentBeacon) :
    (decoder.decodeFrames (sent.map SentBeacon.frame)).1 =
        { decoder with decodeCount := decoder.decodeCount + sent.length } ∧
      List.Forall₂ (fun beacon decoded => Shows (beaconLine beacon.content) decoded) sent
        (decoder.decodeFrames (sent.map SentBeacon.frame)).2 := by
  induction sent generalizing decoder with
  | nil => exact ⟨rfl, .nil⟩
  | cons beacon rest inductionHypothesis =>
    obtain ⟨counted, shows⟩ := decoder.decode_body (beaconLine_nonempty beacon.content)
    rw [← beacon.frame_eq] at counted shows
    obtain ⟨counts, others⟩ := inductionHypothesis (decoder.decode beacon.frame).1
    rw [List.map_cons, decodeFrames]
    refine ⟨counts.trans ?_, .cons shows others⟩
    rw [counted, List.length_cons, Nat.add_right_comm, Nat.add_assoc]

/-- Over every pass, whatever beacons the flight software builds and however long the link idles
between them, the decoder returns one beacon for each that was sent, in order, and counts no error;
each shows the line it was sent with. -/
theorem beaconPass_decoded (decoder : BeaconDecoder) (idle : Nat) (sent : List SentBeacon) :
    let result := decoder.decodeKiss (List.replicate idle fend ++ sent.flatMap SentBeacon.bytes)
    result.1 = { decoder with decodeCount := decoder.decodeCount + sent.length } ∧
      List.Forall₂ (fun beacon decoded => Shows (beaconLine beacon.content) decoded) sent
        result.2 := by
  unfold BeaconDecoder.decodeKiss
  rw [extractKissFrames_pass]
  exact decoder.decodeFrames_sent sent

/-- The first beacon after a boot, with two frame ends behind it. -/
def bootBeacon : SentBeacon := ⟨bootContent 0, by decide +kernel, 2⟩

/-- A pass with the first beacon sent twice. -/
theorem beaconPass_decoded_boot :
    let result := (BeaconDecoder.mk 0 0).decodeKiss
      (List.replicate 1 fend ++ [bootBeacon, bootBeacon].flatMap SentBeacon.bytes)
    result.1 = ⟨0 + 2, 0⟩ ∧
      List.Forall₂ (fun beacon decoded => Shows (beaconLine beacon.content) decoded)
        [bootBeacon, bootBeacon] result.2 :=
  beaconPass_decoded ⟨0, 0⟩ 1 [bootBeacon, bootBeacon]

end SmartQso.Ground
