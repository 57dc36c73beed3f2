/-
This file models the command line decoder `tools/beacon_decoder.py`: the hexadecimal
text it reads, the header it expects at the first byte, and the payload behind it. A
temperature is kept in tenths of a degree, and the time of decoding is an argument.
-/

import SmartQso.GroundDecoder

namespace SmartQso.Tools

open Ground

/-! ### Types -/

/-- The members of `BeaconType` the decoder looks for. -/
inductive BeaconType
  | health
  | emergency
  deriving DecidableEq

/-- The value of a `BeaconType`. -/
def BeaconType.value : BeaconType → UInt8
  | .health => 0x01
  | .emergency => 0xFF

/-- The names of `PowerMode`, in the order of their values. -/
def powerModeNames : List String := ["EMERGENCY", "SAFE", "IDLE", "ACTIVE", "BURST"]

/-- The names of `SystemState`, in the order of their values. -/
def systemStateNames : List String := ["BOOT", "SAFE", "DETUMBLE", "IDLE", "ACTIVE", "EMERGENCY"]

/-- `AX25Header`. -/
structure AX25Header where
  destCallsign : List Char
  destSsid : UInt8
  srcCallsign : List Char
  srcSsid : UInt8
  control : UInt8
  pid : UInt8
  deriving DecidableEq

/-- `HealthTelemetry`. -/
structure HealthTelemetry where
  beaconType : UInt8
  sequenceNumber : Nat
  timestamp : Nat
  systemState : String
  powerMode : String
  batteryVoltageMv : Nat
  batteryCurrentMa : Nat
  stateOfChargePct : UInt8
  obcTempDeciC : Int
  batteryTempDeciC : Int
  solarTempDeciC : Int
  epsFault : Bool
  commFault : Bool
  thermalFault : Bool
  adcsFault : Bool
  crc32 : Nat
  deriving DecidableEq

/-- The payload of a decoded beacon: health telemetry, or a type with the raw bytes. -/
inductive Payload
  | telemetry (health : HealthTelemetry)
  | raw (type : String) (raw : List Char)
  deriving DecidableEq

/-- `DecodedBeacon`. -/
structure DecodedBeacon where
  rawHex : List Char
  timestampUtc : String
  ax25Header : Option AX25Header
  payload : Option Payload
  valid : Bool
  errors : List String
  deriving DecidableEq

/-! ### Python -/

/-- The value of a hexadecimal digit. -/
def hexDigit (char : Char) : Option Nat :=
  if '0' ≤ char ∧ char ≤ '9' then some (char.toNat - '0'.toNat)
  else if 'a' ≤ char ∧ char ≤ 'f' then some (char.toNat - 'a'.toNat + 10)
  else if 'A' ≤ char ∧ char ≤ 'F' then some (char.toNat - 'A'.toNat + 10)
  else none

/-- The white space `bytes.fromhex` skips between two bytes. -/
def isAsciiSpace (char : Char) : Bool :=
  decide (9 ≤ char.toNat ∧ char.toNat ≤ 13 ∨ char.toNat = 32)

/-- `bytes.fromhex` from a position on: the bytes, or the position of the character that is no
digit. -/
def fromHexAt : Nat → List Char → Except Nat (List UInt8)
  | _, [] => .ok []
  | position, top :: rest =>
    if isAsciiSpace top then fromHexAt (position + 1) rest
    else
      match hexDigit top with
      | none => .error position
      | some high =>
        match rest with
        | [] => .error (position + 1)
        | bottom :: rest =>
          match hexDigit bottom with
          | none => .error (position + 1)
          | some low =>
            (fromHexAt (position + 2) rest).map fun bytes => UInt8.ofNat (16 * high + low) :: bytes

/-- `bytes.fromhex`. -/
def fromHex (text : List Char) : Except Nat (List UInt8) :=
  match text.findIdx? fun char => decide (char.toNat ≥ 128) with
  | some position => .error position
  | none => fromHexAt 0 text

/-- The digit for a value below 16. -/
def hexChar (value : Nat) : Char := "0123456789abcdef".toList.getD value '0'

/-- `bytes.hex`. -/
def hexString (bytes : List UInt8) : List Char :=
  bytes.flatMap fun byte => [hexChar (byte.toNat / 16), hexChar (byte.toNat % 16)]

/-- `struct.unpack` of an unsigned number, the least significant byte first. -/
def unpackUnsigned (data : List UInt8) : Nat :=
  data.foldr (fun byte value => byte.toNat + 256 * value) 0

/-- `struct.unpack` of a signed number of two bytes. -/
def unpackInt16 (data : List UInt8) : Int :=
  if unpackUnsigned data < 0x8000 then unpackUnsigned data else unpackUnsigned data - 0x10000

/-! ### Decoding -/

/-- `decode_callsign`. -/
def decodeCallsign (data : List UInt8) : List Char × UInt8 :=
  if data.length < 7 then ([], 0)
  else
    let chars := ((data.take 6).map fun byte : UInt8 => (byte >>> 1) &&& 0x7F).filter (· != 0x20)
    (strip (chars.map chr), (data.getD 6 0 >>> 1) &&& 0x0F)

/-- The inner loop of `calculate_crc32`. -/
def crc32Bit (crc : Nat) : Nat := if crc &&& 1 ≠ 0 then (crc >>> 1) ^^^ 0xEDB88320 else crc >>> 1

/-- `calculate_crc32`. -/
def calculateCrc32 (data : List UInt8) : Nat :=
  data.foldl (fun crc byte => crc32Bit^[8] (crc ^^^ byte.toNat)) 0xFFFFFFFF ^^^ 0xFFFFFFFF

/-- `decode_ax25_header`. -/
def decodeAx25Header (frame : List UInt8) : Option AX25Header × List UInt8 :=
  if frame.length < 16 then (none, [])
  else
    let dest := decodeCallsign (slice frame 0 7)
    let src := decodeCallsign (slice frame 7 14)
    (some
      { destCallsign := dest.1
        destSsid := dest.2
        srcCallsign := src.1
        srcSsid := src.2
        control := frame.getD 14 0
        pid := frame.getD 15 0 },
      frame.drop 16)

/-- The name of a value, or the value as unknown. -/
def nameOf (names : List String) (value : UInt8) : String :=
  names.getD value.toNat ("UNKNOWN(" ++ value.toNat.repr ++ ")")

/-- `decode_health_beacon`. The checksum is read and not compared with anything. -/
def decodeHealthBeacon (payload : List UInt8) : Option HealthTelemetry :=
  if payload.length < 25 then none
  else
    let faults := payload.getD 20 0
    some
      { beaconType := payload.getD 0 0
        sequenceNumber := unpackUnsigned (slice payload 1 3)
        timestamp := unpackUnsigned (slice payload 3 7)
        systemState := nameOf systemStateNames (payload.getD 7 0)
        powerMode := nameOf powerModeNames (payload.getD 8 0)
        batteryVoltageMv := unpackUnsigned (slice payload 9 11)
        batteryCurrentMa := unpackUnsigned (slice payload 11 13)
        stateOfChargePct := payload.getD 13 0
        obcTempDeciC := unpackInt16 (slice payload 14 16)
        batteryTempDeciC := unpackInt16 (slice payload 16 18)
        solarTempDeciC := unpackInt16 (slice payload 18 20)
        epsFault := decide (faults &&& 0x01 ≠ 0)
        commFault := decide (faults &&& 0x02 ≠ 0)
        thermalFault := decide (faults &&& 0x04 ≠ 0)
        adcsFault := decide (faults &&& 0x08 ≠ 0)
        crc32 := unpackUnsigned (slice payload 21 25) }

/-- The payload of `decode_beacon` and the errors it adds. -/
def decodePayload (payloadBytes : List UInt8) : Option Payload × List String :=
  match payloadBytes with
  | [] => (none, [])
  | beaconType :: _ =>
    if beaconType = BeaconType.health.value then
      match decodeHealthBeacon payloadBytes with
      | some health => (some (.telemetry health), [])
      | none => (none, ["Failed to decode health beacon payload"])
    else if beaconType = BeaconType.emergency.value then
      (some (.raw "EMERGENCY" (hexString payloadBytes)), ["Emergency beacon detected"])
    else
      (some (.raw ("UNKNOWN(" ++ beaconType.toNat.repr ++ ")") (hexString payloadBytes)), [])

/-- `raw_hex_clean`. -/
def cleanHex (rawHex : List Char) : List Char :=
  rawHex.filter fun char => char != ' ' && char != '\n'

/-- `decode_beacon`. The text of a value error is that of `bytes.fromhex`. -/
def decodeBeacon (rawHex : List Char) (now : String) : DecodedBeacon :=
  match fromHex (cleanHex rawHex) with
  | .error position =>
    { rawHex := rawHex
      timestampUtc := now
      ax25Header := none
      payload := none
      valid := false
      errors :=
        ["Invalid hex string: non-hexadecimal number found in fromhex() arg at position " ++
          position.repr] }
  | .ok frame =>
    let header := decodeAx25Header frame
    let payload := decodePayload header.2
    let errors := (if header.1 = none then ["Failed to decode AX.25 header"] else []) ++ payload.2
    { rawHex := cleanHex rawHex
      timestampUtc := now
      ax25Header := header.1
      payload := payload.1
      valid := decide (errors.length = 0)
      errors := errors }

/-! ### Hexadecimal text -/

theorem hexDigit_hexChar : ∀ value < 16, hexDigit (hexChar value) = some value := by
  decide

/-- A digit is no white space, and a character of ASCII. -/
theorem hexChar_plain : ∀ value < 16, isAsciiSpace (hexChar value) = false ∧
    (hexChar value).toNat < 128 ∧ hexChar value ≠ ' ' ∧ hexChar value ≠ '\n' := by
  decide

theorem mem_hexString {bytes : List UInt8} {char : Char} (member : char ∈ hexString bytes) :
    ∃ value < 16, char = hexChar value := by
  obtain ⟨byte, _, digits⟩ := List.mem_flatMap.mp member
  have bound := byte.toNat_lt
  rcases List.mem_pair.mp digits with high | low
  · exact ⟨_, by omega, high⟩
  · exact ⟨_, Nat.mod_lt _ (by decide), low⟩

theorem fromHexAt_hexString (bytes : List UInt8) (position : Nat) :
    fromHexAt position (hexString bytes) = .ok bytes := by
  induction bytes generalizing position with
  | nil => rfl
  | cons byte rest inductionHypothesis =>
    have bound := byte.toNat_lt
    have top : byte.toNat / 16 < 16 := by omega
    have bottom : byte.toNat % 16 < 16 := Nat.mod_lt _ (by decide)
    have whole : UInt8.ofNat (16 * (byte.toNat / 16) + byte.toNat % 16) = byte := by
      rw [Nat.div_add_mod, UInt8.ofNat_toNat]
    show fromHexAt position (hexChar _ :: hexChar _ :: hexString rest) = _
    rw [fromHexAt, (hexChar_plain _ top).1, if_neg Bool.false_ne_true, hexDigit_hexChar _ top]
    dsimp only
    rw [hexDigit_hexChar _ bottom, inductionHypothesis]
    exact congrArg (fun char => Except.ok (char :: rest)) whole

/-- The hexadecimal text of a frame is read back, and nothing in it is removed first. -/
theorem fromHex_hexString (bytes : List UInt8) :
    fromHex (cleanHex (hexString bytes)) = .ok bytes := by
  have clean : cleanHex (hexString bytes) = hexString bytes := by
    refine List.filter_eq_self.mpr fun char member => ?_
    obtain ⟨value, bound, rfl⟩ := mem_hexString member
    obtain ⟨_, _, space, newline⟩ := hexChar_plain value bound
    rw [bne_iff_ne.mpr space, bne_iff_ne.mpr newline]
    rfl
  have ascii : (hexString bytes).findIdx? (fun char => decide (char.toNat ≥ 128)) = none := by
    refine List.findIdx?_eq_none_iff.mpr fun char member => ?_
    obtain ⟨value, bound, rfl⟩ := mem_hexString member
    exact decide_eq_false (Nat.not_le_of_lt (hexChar_plain value bound).2.1)
  rw [clean, fromHex, ascii]
  exact fromHexAt_hexString bytes 0

/-! ### The header -/

/-- A slice that ends within the front of the data is a slice of the front. -/
theorem slice_front {front rest : List UInt8} {start stop : Nat} (inside : stop ≤ front.length) :
    slice (front ++ rest) start stop = slice front start stop := by
  unfold slice
  rw [List.take_append_of_le_length inside]

theorem getD_front {front rest : List UInt8} {index : Nat} (inside : index < front.length) :
    (front ++ rest).getD index 0 = front.getD index 0 := by
  rw [List.getD_eq_getElem?_getD, List.getD_eq_getElem?_getD, List.getElem?_append_left inside]

/-- The header is read from the first sixteen bytes. -/
theorem decodeAx25Header_front {front rest : List UInt8} (enough : 16 ≤ front.length) :
    (decodeAx25Header (front ++ rest)).1 = (decodeAx25Header front).1 := by
  have large : ¬ (front ++ rest).length < 16 := by
    rw [List.length_append]
    omega
  unfold decodeAx25Header
  dsimp only
  rw [if_neg large, if_neg (Nat.not_lt_of_le enough), slice_front (by omega),
    slice_front (by omega), getD_front (by omega), getD_front (by omega)]

/-- A text that is read as a frame is decoded to the header of the frame. -/
theorem decodeBeacon_header {rawHex : List Char} {frame : List UInt8}
    (read : fromHex (cleanHex rawHex) = .ok frame) (now : String) :
    (decodeBeacon rawHex now).ax25Header = (decodeAx25Header frame).1 := by
  unfold decodeBeacon
  rw [read]

end SmartQso.Tools
