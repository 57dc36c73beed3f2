/-
This file models `beacon.c`: the beacon's schedule and stored text, the content it
is generated from, the line of text that content is printed as, and the AX.25 frame
the line is sent in. The clock, the EPS, the mission data and the fault log are
arguments of the functions that look at them. A buffer is an array of the length its
caller passes; the print of a transmitted beacon is left out.
-/

import Mathlib.Logic.Function.Iterate
import SmartQso.CNumerals
import SmartQso.Eps
import SmartQso.MissionData

namespace SmartQso

/-! ### Constants of `beacon.h` -/

/-- `BEACON_MAX_TEXT_LEN`. -/
abbrev beaconMaxTextLen : Nat := 200

/-- `BEACON_MAX_PAYLOAD_LEN`. -/
abbrev beaconMaxPayloadLen : Nat := 256

/-- `BEACON_CALLSIGN`. -/
def beaconCallsign : String := "SQSO-1"

/-- `BEACON_INTERVAL_SAFE_MS`, `BEACON_INTERVAL_IDLE_MS` and `BEACON_INTERVAL_ACTIVE_MS`. -/
def PowerMode.beaconIntervalMs : PowerMode → UInt32
  | .safe => 180000
  | .idle => 60000
  | .active => 30000

/-- `AX25_FLAG`. -/
def ax25Flag : UInt8 := 0x7E

/-- `AX25_CTRL_UI`. -/
def ax25CtrlUi : UInt8 := 0x03

/-- `AX25_PID_NO_L3`. -/
def ax25PidNoL3 : UInt8 := 0xF0

/-- `AX25_ADDR_LEN`. -/
abbrev ax25AddrLen : Nat := 7

/-- `AX25_MAX_FRAME_LEN`. -/
def ax25MaxFrameLen : Nat := 330

/-- `CRC16_INIT`. -/
def crc16Init : UInt16 := 0xFFFF

/-- `CRC16_POLY`. -/
def crc16Poly : UInt16 := 0x8408

/-! ### Types -/

/-- `BeaconSource_t`. -/
inductive BeaconSource
  | template
  | ai
  | custom
  deriving DecidableEq

/-- `BeaconTelemetry_t`. -/
structure BeaconTelemetry where
  timestamp : UInt32
  powerMode : UInt8
  soc : UInt8
  batteryMv : UInt16
  tempObc : Int8
  tempPayload : Int8
  sunlit : UInt8
  rfPower : UInt8
  qsoCount : UInt16
  orbitNumber : UInt16
  faultFlags : UInt8
  deriving DecidableEq

/-- `BeaconContent_t`. -/
structure BeaconContent where
  text : Vector UInt8 beaconMaxTextLen
  textLen : Nat
  source : BeaconSource
  telemetry : BeaconTelemetry
  sequence : UInt32
  deriving DecidableEq

/-- `Ax25Frame_t`. -/
structure Ax25Frame where
  destAddr : Vector UInt8 ax25AddrLen
  srcAddr : Vector UInt8 ax25AddrLen
  ctrl : UInt8
  pid : UInt8
  info : Vector UInt8 beaconMaxPayloadLen
  infoLen : Nat
  fcs : UInt16
  deriving DecidableEq

/-- `BeaconState_t`. -/
structure BeaconState where
  lastBeaconMs : UInt32
  intervalMs : UInt32
  sequence : UInt32
  aiBeaconCount : UInt32
  templateCount : UInt32
  totalBytesTx : UInt32
  aiAvailable : Bool
  lastAiText : Vector UInt8 beaconMaxTextLen
  deriving DecidableEq

/-- `beacon_templates`. -/
def beaconTemplates : Vector String 8 :=
  #v["SMART-QSO beacon - autonomous AI transponder demo",
    "Hello from space! CubeSat systems nominal",
    "Amateur radio in orbit - powered by AI",
    "SMART-QSO 1U - technology demonstration mission",
    "Greetings from LEO! All systems go",
    "CubeSat beacon - AI payload standby",
    "SMART-QSO mission - thanks for listening!",
    "Amateur satellite beacon - 73 de SQSO-1"]

/-- The statics of `beacon.c`. -/
structure Beacon where
  state : BeaconState
  templateIndex : Fin 8
  initialized : Bool

/-! ### Strings and arrays -/

/-- The bytes of a string of ASCII characters. -/
def ascii (string : String) : List UInt8 := string.toList.map fun char => char.toNat.toUInt8

/-- The string an array holds, up to its terminator. Reading on behind an array without one is
undefined in C; here the string then ends with the array. -/
def cString {size : Nat} (array : Vector UInt8 size) : List UInt8 :=
  array.toList.takeWhile fun char => char != 0

/-- Copy bytes to the start of an array. -/
def overwrite {size : Nat} (bytes : List UInt8) (array : Vector UInt8 size) : Vector UInt8 size :=
  Vector.ofFn fun index => bytes.getD index.val (array.get index)

/-- `memset` with zero. -/
def zeroed (size : Nat) : Vector UInt8 size := Vector.replicate size 0

theorem overwrite_getElem {size : Nat} (bytes : List UInt8) (array : Vector UInt8 size)
    {index : Nat} (inside : index < size) :
    (overwrite bytes array)[index] = bytes.getD index array[index] :=
  Vector.getElem_ofFn inside

/-- The bytes are followed by what the array held behind them. -/
theorem overwrite_toList {size : Nat} (bytes : List UInt8) (array : Vector UInt8 size)
    (fits : bytes.length ≤ size) :
    (overwrite bytes array).toList = bytes ++ array.toList.drop bytes.length := by
  have lengths : (overwrite bytes array).toList.length =
      (bytes ++ array.toList.drop bytes.length).length := by
    rw [Vector.length_toList, List.length_append, List.length_drop, Vector.length_toList]
    omega
  refine List.ext_getElem lengths fun index inside _ => ?_
  rw [Vector.length_toList] at inside
  rw [Vector.getElem_toList, overwrite_getElem, List.getD_eq_getElem?_getD]
  by_cases copied : index < bytes.length
  · rw [List.getElem_append_left copied, List.getElem?_eq_getElem copied, Option.getD_some]
  · rw [List.getElem_append_right (Nat.le_of_not_lt copied), List.getElem_drop,
      List.getElem?_eq_none (Nat.le_of_not_lt copied), Option.getD_none, Vector.getElem_toList]
    simp only [Nat.add_sub_cancel' (Nat.le_of_not_lt copied)]

/-- A text that is copied with its terminator is read back. -/
theorem cString_overwrite {size : Nat} {text : List UInt8} (array : Vector UInt8 size)
    (fits : text.length < size) (terminated : ∀ char ∈ text, char ≠ 0) :
    cString (overwrite (text ++ [0]) array) = text := by
  have room : (text ++ [0]).length ≤ size := by
    rw [List.length_append]
    exact fits
  have inText : ∀ char ∈ text, (char != 0) = true :=
    fun char member => bne_iff_ne.mpr (terminated char member)
  rw [cString, overwrite_toList _ array room, List.append_assoc,
    List.takeWhile_append_of_pos inText]
  exact List.append_nil text

/-! ### Schedule -/

/-- `beacon_init`. -/
def beaconInit : Beacon where
  state := ⟨0, PowerMode.active.beaconIntervalMs, 0, 0, 0, 0, false, zeroed _⟩
  templateIndex := 0
  initialized := true

/-- `beacon_should_transmit`. -/
def beaconShouldTransmit (beacon : Beacon) (now : UInt64) : Bool :=
  if beacon.initialized then
    let elapsed := now - beacon.state.lastBeaconMs.toUInt64
    decide (elapsed ≥ beacon.state.intervalMs.toUInt64)
  else false

/-- `beacon_update_interval`. A value that names no mode is treated as the active mode. -/
def beaconUpdateInterval (beacon : Beacon) (powerMode : UInt32) : Beacon :=
  if beacon.initialized then
    let mode := (PowerMode.ofValue? powerMode).getD .active
    { beacon with state.intervalMs := mode.beaconIntervalMs }
  else beacon

/-- `beacon_mark_transmitted`. -/
def beaconMarkTransmitted (beacon : Beacon) (now : UInt64) : Beacon :=
  if beacon.initialized then { beacon with state.lastBeaconMs := now.toUInt32 } else beacon

/-! ### Texts -/

/-- A character that `beacon_validate_text` accepts. -/
def isTextChar (char : UInt8) : Bool :=
  if char < 0x20 ∨ char > 0x7E then decide (char = 0x09 ∨ char = 0x0A ∨ char = 0x0D) else true

/-- `beacon_validate_text`. -/
def beaconValidateText (text : List UInt8) : Bool :=
  if text.length = 0 ∨ text.length > beaconMaxTextLen then false else text.all isTextChar

/-- `beacon_set_ai_available`. -/
def beaconSetAiAvailable (beacon : Beacon) (available : Bool) : Beacon :=
  if beacon.initialized then { beacon with state.aiAvailable := available } else beacon

/-- The length a text is copied with, which leaves room for the terminator. -/
def copyLen (len : Nat) : Nat := if len ≥ beaconMaxTextLen then beaconMaxTextLen - 1 else len

/-- `beacon_store_ai_text`. -/
def beaconStoreAiText (beacon : Beacon) (text : List UInt8) : Beacon × SmartQsoResult :=
  if beacon.initialized = false then (beacon, .error)
  else if beaconValidateText text = false then (beacon, .error)
  else
    let copied := text.take (copyLen text.length) ++ [0]
    ({ beacon with state.lastAiText := overwrite copied beacon.state.lastAiText }, .ok)

/-- `beacon_get_template`. -/
def beaconGetTemplate (beacon : Beacon) : Beacon × String :=
  let next := beacon.templateIndex.val + 1
  ({ beacon with templateIndex := if inside : next < 8 then ⟨next, inside⟩ else 0 },
    beaconTemplates.get beacon.templateIndex)

/-- `beacon_reset_stats`. -/
def beaconResetStats (beacon : Beacon) : Beacon :=
  if beacon.initialized then
    { beacon with
      state :=
        { beacon.state with
          aiBeaconCount := 0
          templateCount := 0
          totalBytesTx := 0
          sequence := 0 } }
  else beacon

/-! ### Content -/

/-- A text that `beacon_generate_content` has chosen, and the statics afterwards. -/
structure ChosenText where
  beacon : Beacon
  text : List UInt8
  source : BeaconSource

/-- The text source of `beacon_generate_content`: the text given, if it is valid, the stored one,
or the next template. -/
def chooseText (beacon : Beacon) (aiText : Option (List UInt8)) : ChosenText :=
  match aiText.filter fun text => decide (text.length > 0) && beaconValidateText text with
  | some text => ⟨beacon, text.take (copyLen text.length), .ai⟩
  | none =>
    if beacon.state.aiAvailable && beacon.state.lastAiText.get 0 != 0 then
      ⟨beacon, cString beacon.state.lastAiText, .ai⟩
    else
      let template := beaconGetTemplate beacon
      ⟨template.1, ascii template.2, .template⟩

/-- The telemetry of `beacon_generate_content`. The state of charge, the battery voltage and the
sunlit flag are constants, and the count of contacts is the reset count. -/
def beaconTelemetry (eps : Eps) (mission : MissionData) (now : UInt64) : BeaconTelemetry :=
  let blank : BeaconTelemetry :=
    { timestamp := (now / 1000).toUInt32
      powerMode := epsGetPowerMode eps
      soc := 0
      batteryMv := 0
      tempObc := 0
      tempPayload := 0
      sunlit := 0
      rfPower := 0
      qsoCount := 0
      orbitNumber := 0
      faultFlags := 0 }
  let powered :=
    match epsGetState eps with
    | some record =>
      { blank with
        soc := 75
        batteryMv := 7400
        sunlit := 1
        rfPower := if record.radioEnabled then 1 else 0 }
    | none => blank
  let counted :=
    match missionDataGet mission with
    | some record =>
      { powered with
        qsoCount := record.resetCount.toUInt16
        orbitNumber := (record.totalUptimeMs / 5400000).toUInt16 }
    | none => powered
  match faultLogGetLast eps.faults with
  | some fault =>
    { counted with
      faultFlags := if fault.record.severity ≥ FaultSeverity.error.code then 1 else 0 }
  | none => counted

/-- `beacon_generate_content`, which answers `SMART_QSO_OK`. -/
def beaconGenerateContent (beacon : Beacon) (aiText : Option (List UInt8)) (eps : Eps)
    (mission : MissionData) (now : UInt64) : Beacon × BeaconContent :=
  let chosen := chooseText beacon aiText
  let sequence := chosen.beacon.state.sequence + 1
  ({ chosen.beacon with state.sequence := sequence },
    { text := overwrite (chosen.text ++ [0]) (zeroed _)
      textLen := chosen.text.length
      source := chosen.source
      telemetry := beaconTelemetry eps mission now
      sequence := sequence })

/-! ### The printed line -/

/-- The conversion `%u`. -/
def formatUnsigned (value : Nat) : List UInt8 :=
  (Nat.toDigits 10 value).map fun digit => digit.toNat.toUInt8

theorem digit_of_mem_formatUnsigned {value : Nat} {byte : UInt8}
    (member : byte ∈ formatUnsigned value) : 48 ≤ byte.toNat ∧ byte.toNat ≤ 57 := by
  obtain ⟨digit, inDigits, rfl⟩ := List.mem_map.mp member
  have bounds := CNumerals.toNat_of_mem_toDigits inDigits
  rw [Nat.toUInt8, UInt8.toNat_ofNat']
  omega

/-- A quotient rounded to the nearest integer, to the even one in the middle. -/
def roundHalfEven (num den : Nat) : Nat :=
  let quotient := num / den
  let twice := 2 * (num % den)
  if twice < den then quotient
  else if den < twice then quotient + 1
  else if quotient % 2 = 0 then quotient
  else quotient + 1

/-- The binary places that leave 53 significant bits of a quotient from 2^(-11) on. -/
def binaryPlaces (num den : Nat) : Nat :=
  ((List.range 64).find? fun places => decide (2 ^ 52 * den ≤ num * 2 ^ places)).getD 0

/-- The conversion `%.1f` of a number of millivolts divided by 1000.0: the quotient is rounded to
a `double`, and that is rounded to tenths. -/
def formatVolts (millivolts : UInt16) : List UInt8 :=
  let places := binaryPlaces millivolts.toNat 1000
  let significand := roundHalfEven (millivolts.toNat * 2 ^ places) 1000
  let tenths := roundHalfEven (10 * significand) (2 ^ places)
  formatUnsigned (tenths / 10) ++ ascii "." ++ formatUnsigned (tenths % 10)

/-- The name a beacon gives to a power mode. -/
def powerModeName (powerMode : UInt8) : String :=
  if powerMode = 0 then "SAFE" else if powerMode = 1 then "IDLE" else "ACTIVE"

/-- The telemetry at the end of the line. -/
def telemetryTail (telemetry : BeaconTelemetry) : List UInt8 :=
  ascii " | T=" ++ formatUnsigned telemetry.timestamp.toNat ++
    ascii " M=" ++ ascii (powerModeName telemetry.powerMode) ++
    ascii " SOC=" ++ formatUnsigned telemetry.soc.toNat ++
    ascii " BV=" ++ formatVolts telemetry.batteryMv ++
    ascii " SUN=" ++ formatUnsigned telemetry.sunlit.toNat ++
    ascii " RF=" ++ formatUnsigned telemetry.rfPower.toNat ++
    ascii " QSO=" ++ formatUnsigned telemetry.qsoCount.toNat

/-- What the format of `beacon_format_payload` expands to. -/
def beaconLine (content : BeaconContent) : List UInt8 :=
  ascii "de " ++ ascii beaconCallsign ++ ascii ": " ++ cString content.text ++
    telemetryTail content.telemetry

/-- `beacon_format_payload`: the buffer afterwards and the result. -/
def beaconFormatPayload (content : BeaconContent) {size : Nat} (buffer : Vector UInt8 size) :
    Vector UInt8 size × Nat :=
  if size = 0 then (buffer, 0)
  else
    let line := beaconLine content
    let printed := overwrite (line.take (size - 1) ++ [0]) buffer
    if line.length ≥ size then (printed, 0) else (printed, line.length)

/-! ### Frames -/

/-- `toupper` on ASCII. -/
def toUpper (char : UInt8) : UInt8 := if 0x61 ≤ char ∧ char ≤ 0x7A then char - 0x20 else char

/-- `encode_ax25_address`. -/
def encodeAx25Address (callsign : String) (ssid : UInt8) (isLast : Bool) :
    Vector UInt8 ax25AddrLen :=
  let chars := ascii callsign
  let endFlag : UInt8 := if isLast then 0x01 else 0x00
  Vector.ofFn fun index =>
    if index.val = 6 then (0x60 : UInt8) ||| (ssid &&& 0x0F) <<< 1 ||| endFlag
    else if index.val < chars.length then toUpper (chars.getD index.val 0) <<< 1
    else (0x20 : UInt8) <<< 1

/-- The inner loop of `beacon_crc16`. -/
def crc16Bit (crc : UInt16) : UInt16 :=
  if crc &&& 0x0001 ≠ 0 then (crc >>> 1) ^^^ crc16Poly else crc >>> 1

/-- `beacon_crc16`. -/
def beaconCrc16 (data : List UInt8) : UInt16 :=
  data.foldl (fun crc byte => crc16Bit^[8] (crc ^^^ byte.toUInt16)) crc16Init ^^^ 0xFFFF

/-- `beacon_build_ax25_frame`. -/
def beaconBuildAx25Frame (content : BeaconContent) : SmartQsoResult × Ax25Frame :=
  let printed := beaconFormatPayload content (zeroed beaconMaxPayloadLen)
  let frame : Ax25Frame :=
    { destAddr := encodeAx25Address "CQ" 0 false
      srcAddr := encodeAx25Address beaconCallsign 1 true
      ctrl := ax25CtrlUi
      pid := ax25PidNoL3
      info := printed.1
      infoLen := printed.2
      fcs := 0 }
  if frame.infoLen = 0 then (.error, frame)
  else
    let fcsData := frame.destAddr.toList ++ frame.srcAddr.toList ++ [frame.ctrl, frame.pid] ++
      frame.info.toList.take frame.infoLen
    (.ok, { frame with fcs := beaconCrc16 fcsData })

/-- `beacon_serialize_ax25`: the bytes written to the buffer, none when it is too short. -/
def beaconSerializeAx25 (frame : Ax25Frame) (bufferLen : Nat) : List UInt8 :=
  let frameSize := 1 + ax25AddrLen * 2 + 1 + 1 + frame.infoLen + 2 + 1
  if frameSize > bufferLen then []
  else
    [ax25Flag] ++ frame.destAddr.toList ++ frame.srcAddr.toList ++ [frame.ctrl, frame.pid] ++
      frame.info.toList.take frame.infoLen ++
      [(frame.fcs &&& 0xFF).toUInt8, ((frame.fcs >>> 8) &&& 0xFF).toUInt8] ++ [ax25Flag]

/-- `beacon_transmit`. -/
def beaconTransmit (beacon : Beacon) (content : BeaconContent) : Beacon × SmartQsoResult :=
  let built := beaconBuildAx25Frame content
  if built.1 ≠ .ok then (beacon, built.1)
  else
    let txBuffer := beaconSerializeAx25 built.2 ax25MaxFrameLen
    if txBuffer.length = 0 then (beacon, .error)
    else
      let counted :=
        { beacon.state with
          totalBytesTx := beacon.state.totalBytesTx + txBuffer.length.toUInt32 }
      let state :=
        if content.source = .ai then { counted with aiBeaconCount := counted.aiBeaconCount + 1 }
        else { counted with templateCount := counted.templateCount + 1 }
      ({ beacon with state := state }, .ok)

end SmartQso
