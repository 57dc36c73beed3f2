/-
This file models `telemetry.c`: the packed header and payloads, the four generators
with the statistics they share, and the serializer. Numbers are stored with the least
significant byte first. What a conversion of a scaled `double` or `float` to an integer
gives is a parameter, so nothing here depends on rounding, or on values out of range.
The buffer of the serializer and the frame are different objects.
-/

import SmartQso.ByteOrder
import SmartQso.CountedArray
import SmartQso.SystemState

namespace SmartQso

open ByteOrder CountedArray

/-! ### Frames -/

/-- The types of `TlmType_t` that a generator uses. -/
inductive TlmType
  | housekeeping
  | beacon
  | adcs
  | eps
  deriving DecidableEq

def TlmType.code : TlmType → UInt8
  | .housekeeping => 1
  | .beacon => 4
  | .adcs => 5
  | .eps => 6

/-- `TLM_SYNC_WORD`. -/
def tlmSyncWord : UInt32 := 0x1ACFFC1D

/-- `TLM_VERSION`. -/
def tlmVersion : UInt8 := 1

/-- `sizeof(TlmHeader_t)`. -/
def tlmHeaderSize : Nat := 14

/-- The size of the member `payload` of `TlmFrame_t`. -/
def tlmPayloadSize : Nat := 256 - tlmHeaderSize - 4

/-- `TlmHeader_t`. -/
structure TlmHeader where
  syncWord : UInt32
  version : UInt8
  type : UInt8
  sequence : UInt16
  timestampS : UInt32
  dataLen : UInt16
  deriving DecidableEq

/-- The bytes of a packed header. -/
def TlmHeader.bytes (header : TlmHeader) : List UInt8 :=
  littleEndian 4 header.syncWord.toNat ++ [header.version, header.type] ++
    littleEndian 2 header.sequence.toNat ++ littleEndian 4 header.timestampS.toNat ++
    littleEndian 2 header.dataLen.toNat

theorem TlmHeader.length_bytes (header : TlmHeader) : header.bytes.length = tlmHeaderSize := by
  simp only [bytes, List.length_append, length_littleEndian, List.length_cons, List.length_nil]
  rfl

/-- `TlmFrame_t`. -/
structure TlmFrame where
  header : TlmHeader
  payload : Vector UInt8 tlmPayloadSize
  crc32 : UInt32

/-- The bytes of a frame from its header to its checksum. -/
def TlmFrame.bytes (frame : TlmFrame) : List UInt8 :=
  frame.header.bytes ++ frame.payload.toList ++ littleEndian 4 frame.crc32.toNat

/-! ### Payloads -/

/-- The conversions of a scaled number to an integer, as the bytes of the integer. -/
structure TlmCasts where
  toUint8 : ℚ → ℚ → UInt8
  toInt8 : ℚ → UInt8
  toUint16 : ℚ → ℚ → UInt16
  toInt16 : ℚ → ℚ → UInt16

/-- Two bytes of a payload. -/
def halfword (value : UInt16) : List UInt8 := littleEndian 2 value.toNat

/-- A flag as a byte. -/
def flagByte (flag : Bool) (value : UInt8) : UInt8 := if flag then value else 0

section

variable (casts : TlmCasts)

/-- The bytes of `TlmHousekeeping_t`. -/
def housekeepingBytes (sys : SystemState) : List UInt8 :=
  let power := sys.record.power
  let thermal := sys.record.thermal
  let comm := sys.record.comm
  halfword (casts.toUint16 power.batteryVoltage 1000) ++
    halfword (casts.toInt16 power.batteryCurrent 1000) ++
    [casts.toUint8 power.stateOfCharge 100, power.powerMode.code, casts.toInt8 thermal.obcTempC,
      casts.toInt8 thermal.epsTempC, casts.toInt8 thermal.batteryTempC,
      casts.toInt8 thermal.payloadTempC, (sysGetOperationalState sys).code,
      flagByte (sysHasThermalFault sys) 1] ++
    halfword (sysGetBootCount sys).toUInt16 ++ littleEndian 4 (sysGetUptimeS sys).toNat ++
    halfword comm.packetsSent.toUInt16 ++ halfword comm.packetsReceived.toUInt16 ++
    halfword comm.beaconCount.toUInt16 ++ [0, flagByte sys.record.adcs.detumbled 1]

/-- The bytes of `TlmEps_t`. -/
def epsBytes (sys : SystemState) : List UInt8 :=
  let power := sys.record.power
  let thermal := sys.record.thermal
  halfword (casts.toUint16 power.batteryVoltage 1000) ++
    halfword (casts.toInt16 power.batteryCurrent 1000) ++
    halfword (casts.toUint16 power.solarPower 100) ++ halfword 0 ++
    [casts.toUint8 power.stateOfCharge 100, power.powerMode.code,
      flagByte thermal.heaterEnabled 1, flagByte power.payloadEnabled 1,
      casts.toInt8 thermal.batteryTempC, casts.toInt8 thermal.epsTempC]

/-- The bytes of `TlmAdcs_t`. -/
def adcsBytes (sys : SystemState) : List UInt8 :=
  let adcs := sys.record.adcs
  halfword (casts.toInt16 adcs.magXUt 10) ++ halfword (casts.toInt16 adcs.magYUt 10) ++
    halfword (casts.toInt16 adcs.magZUt 10) ++ halfword (casts.toInt16 adcs.gyroXDps 10) ++
    halfword (casts.toInt16 adcs.gyroYDps 10) ++ halfword (casts.toInt16 adcs.gyroZDps 10) ++
    halfword (casts.toInt16 adcs.sunVectorX 100) ++
    halfword (casts.toInt16 adcs.sunVectorY 100) ++
    halfword (casts.toInt16 adcs.sunVectorZ 100) ++
    [0, flagByte adcs.detumbled 1 ||| flagByte adcs.sunAcquired 2]

/-- The payload of a beacon frame. -/
def beaconBytes (sys : SystemState) : List UInt8 :=
  [(sysGetOperationalState sys).code, casts.toUint8 sys.record.power.stateOfCharge 100,
    (sysGetPowerMode sys).code, flagByte (sysHasThermalFault sys) 1]

end

/-! ### State -/

/-- `TlmStats_t`. -/
structure TlmStats where
  framesGenerated : UInt32
  framesTransmitted : UInt32
  framesFailed : UInt32
  lastTxTimeMs : UInt32
  sequenceNumber : UInt16
  deriving DecidableEq

/-- The statics of `telemetry.c`. -/
structure Telemetry where
  stats : TlmStats
  rateMs : UInt32
  lastTlmTimeMs : UInt64
  initialized : Bool
  deriving DecidableEq

/-- `tlm_init`. -/
def tlmInit : Telemetry where
  stats := ⟨0, 0, 0, 0, 0⟩
  rateMs := 60000
  lastTlmTimeMs := 0
  initialized := true

/-- `tlm_set_rate`. -/
def tlmSetRate (tlm : Telemetry) (rateMs : UInt32) : Telemetry :=
  let clamped := if rateMs < 10000 then 10000 else if rateMs > 300000 then 300000 else rateMs
  { tlm with rateMs := clamped }

/-- `tlm_is_due`. -/
def tlmIsDue (tlm : Telemetry) (now : UInt64) : Bool :=
  tlm.initialized && decide (now - tlm.lastTlmTimeMs ≥ tlm.rateMs.toUInt64)

/-- `tlm_mark_transmitted`. -/
def tlmMarkTransmitted (tlm : Telemetry) (sys : SystemState) (success : Bool) (now : UInt64) :
    Telemetry × SystemState :=
  let marked := { tlm.stats with lastTxTimeMs := now.toUInt32 }
  if success then
    ({ tlm with
        stats := { marked with framesTransmitted := marked.framesTransmitted + 1 }
        lastTlmTimeMs := now }, sysIncrementPacketsSent sys now)
  else
    ({ tlm with
        stats := { marked with framesFailed := marked.framesFailed + 1 }
        lastTlmTimeMs := now }, sys)

/-! ### Generating frames -/

/-- `fill_header`: the header, and the statistics with the next sequence number. -/
def fillHeader (stats : TlmStats) (sys : SystemState) (type : TlmType) (dataLen : Nat) :
    TlmHeader × TlmStats :=
  ({ syncWord := tlmSyncWord
     version := tlmVersion
     type := type.code
     sequence := stats.sequenceNumber
     timestampS := sysGetUptimeS sys
     dataLen := UInt16.ofNat dataLen },
    { stats with sequenceNumber := stats.sequenceNumber + 1 })

/-- `calculate_frame_crc`. -/
def calculateFrameCrc (frame : TlmFrame) (payloadLen : Nat) : UInt32 :=
  smartQsoCrc32 (frame.bytes.take (tlmHeaderSize + payloadLen))

/-- What the four generators share: the payload is written into the caller's frame, then the
header, then the checksum. The result is the frame, its length and the statistics. -/
def generateFrame (tlm : Telemetry) (sys : SystemState) (type : TlmType) (payload : List UInt8)
    (frame : TlmFrame) : TlmFrame × Nat × Telemetry :=
  let filled := fillHeader tlm.stats sys type payload.length
  let written := { frame with payload := fill frame.payload payload, header := filled.1 }
  ({ written with crc32 := calculateFrameCrc written payload.length },
    tlmHeaderSize + payload.length + 4,
    { tlm with stats := { filled.2 with framesGenerated := filled.2.framesGenerated + 1 } })

section

variable (casts : TlmCasts)

/-- `tlm_generate_housekeeping`. -/
def tlmGenerateHousekeeping (tlm : Telemetry) (sys : SystemState) (frame : TlmFrame) :
    TlmFrame × Nat × Telemetry :=
  generateFrame tlm sys .housekeeping (housekeepingBytes casts sys) frame

/-- `tlm_generate_eps`. -/
def tlmGenerateEps (tlm : Telemetry) (sys : SystemState) (frame : TlmFrame) :
    TlmFrame × Nat × Telemetry :=
  generateFrame tlm sys .eps (epsBytes casts sys) frame

/-- `tlm_generate_adcs`. -/
def tlmGenerateAdcs (tlm : Telemetry) (sys : SystemState) (frame : TlmFrame) :
    TlmFrame × Nat × Telemetry :=
  generateFrame tlm sys .adcs (adcsBytes casts sys) frame

/-- `tlm_generate_beacon`, which also counts the beacon in the system state. -/
def tlmGenerateBeacon (tlm : Telemetry) (sys : SystemState) (frame : TlmFrame) (now : UInt64) :
    (TlmFrame × Nat × Telemetry) × SystemState :=
  (generateFrame tlm sys .beacon (beaconBytes casts sys) frame, sysIncrementBeaconCount sys now)

end

/-! ### Serializing frames -/

/-- Write bytes into a buffer that reaches behind them. -/
def writeAt (buffer : List UInt8) (offset : Nat) (bytes : List UInt8) : List UInt8 :=
  buffer.take offset ++ bytes ++ buffer.drop (offset + bytes.length)

/-- The checksum with the most significant byte first, as the serializer shifts it out. -/
def checksumBytes (crc32 : UInt32) : List UInt8 :=
  [(crc32 >>> 24).toUInt8, (crc32 >>> 16).toUInt8, (crc32 >>> 8).toUInt8, crc32.toUInt8]

/-- `tlm_serialize` into the caller's buffer, with the caller's count of bytes written. The payload
is read as far as the frame reaches. -/
def tlmSerialize (frame : TlmFrame) (payloadLen : Nat) (buffer : List UInt8)
    (bytesWritten : Nat) : SmartQsoResult × List UInt8 × Nat :=
  let totalLen := tlmHeaderSize + payloadLen + 4
  if buffer.length < totalLen then (.errorNoMem, buffer, bytesWritten)
  else
    let payload := (frame.bytes.drop tlmHeaderSize).take payloadLen
    let headed := writeAt buffer 0 frame.header.bytes
    let loaded := writeAt headed tlmHeaderSize payload
    (.ok, writeAt loaded (tlmHeaderSize + payloadLen) (checksumBytes frame.crc32), totalLen)

end SmartQso
