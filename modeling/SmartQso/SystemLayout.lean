/-
This file lays `SystemState_t` out in memory, as a compiler for a 64-bit machine does:
every member aligned to its size, an enumeration as four bytes, the least significant
byte first, and zeros between the members, as `sys_state_init` leaves them. The
representation of a `double` and of a `float` stays a parameter.
-/

import SmartQso.ByteOrder
import SmartQso.SystemState

namespace SmartQso

open ByteOrder

/-- The bytes of floating-point numbers. -/
structure FloatFormat where
  double : ℚ → Vector UInt8 8
  float : ℚ → Vector UInt8 4

/-- The bytes between two members. -/
def padding (count : Nat) : List UInt8 := List.replicate count 0

/-- A `bool`. -/
def boolByte (value : Bool) : UInt8 := if value then 1 else 0

def wordBytes (value : UInt32) : List UInt8 := littleEndian 4 value.toNat

def longBytes (value : UInt64) : List UInt8 := littleEndian 8 value.toNat

section

variable (format : FloatFormat)

/-- The bytes of `PowerState_t`. -/
def PowerState.bytes (power : PowerState) : List UInt8 :=
  (format.double power.batteryVoltage).toList ++ (format.double power.batteryCurrent).toList ++
    (format.double power.stateOfCharge).toList ++ (format.double power.solarPower).toList ++
    (format.double power.totalEnergyWh).toList ++ wordBytes power.powerMode.code.toUInt32 ++
    [boolByte power.payloadEnabled] ++ padding 3 ++ wordBytes power.modeEntryTimeMs ++ padding 4

/-- The bytes of `ThermalState_t`. -/
def ThermalState.bytes (thermal : ThermalState) : List UInt8 :=
  (format.float thermal.obcTempC).toList ++ (format.float thermal.epsTempC).toList ++
    (format.float thermal.batteryTempC).toList ++ (format.float thermal.payloadTempC).toList ++
    (format.float thermal.externalTempC).toList ++
    [boolByte thermal.heaterEnabled, boolByte thermal.overTempFlag,
      boolByte thermal.underTempFlag] ++ padding 1

/-- The bytes of `AdcsState_t`. -/
def AdcsState.bytes (adcs : AdcsState) : List UInt8 :=
  (format.float adcs.magXUt).toList ++ (format.float adcs.magYUt).toList ++
    (format.float adcs.magZUt).toList ++ (format.float adcs.gyroXDps).toList ++
    (format.float adcs.gyroYDps).toList ++ (format.float adcs.gyroZDps).toList ++
    (format.float adcs.sunVectorX).toList ++ (format.float adcs.sunVectorY).toList ++
    (format.float adcs.sunVectorZ).toList ++
    [boolByte adcs.detumbled, boolByte adcs.sunAcquired] ++ padding 2 ++
    wordBytes adcs.lastUpdateMs

/-- The bytes of `CommState_t`. -/
def CommState.bytes (comm : CommState) : List UInt8 :=
  wordBytes comm.packetsSent ++ wordBytes comm.packetsReceived ++ wordBytes comm.packetsFailed ++
    wordBytes comm.lastGroundContactMs ++ wordBytes comm.beaconCount ++
    littleEndian 2 comm.beaconIntervalS.toNat ++ [boolByte comm.commActive, comm.rssiDbm.toUInt8]

/-- The bytes of `MissionState_t`. -/
def MissionState.bytes (mission : MissionState) : List UInt8 :=
  wordBytes mission.bootCount ++ wordBytes mission.uptimeS ++ wordBytes mission.totalUptimeS ++
    padding 4 ++ longBytes mission.missionTimeMs ++ wordBytes mission.qsoCount ++
    wordBytes mission.commandCount ++ wordBytes mission.anomalyCount ++
    [boolByte mission.safeModeEntry] ++ padding 3

/-- The bytes of `SmContext_t`. -/
def SmContext.bytes (context : SmContext) : List UInt8 :=
  wordBytes context.currentState.code.toUInt32 ++ wordBytes context.previousState.code.toUInt32 ++
    wordBytes context.transitionCount ++ padding 4 ++ longBytes context.lastTransitionMs ++
    longBytes context.stateEntryMs ++ [boolByte context.isInitialized] ++ padding 7

/-- The members before `last_persist_ms`. -/
def SystemRecord.head (record : SystemRecord) : List UInt8 :=
  record.power.bytes format ++ record.thermal.bytes format ++ record.adcs.bytes format ++
    record.comm.bytes ++ padding 4 ++ record.mission.bytes ++ record.smContext.bytes ++
    [boolByte record.initialized, boolByte record.watchdogOk, boolByte record.persistenceDirty] ++
    padding 5 ++ longBytes record.lastUpdateMs

/-- The bytes the checksum of the state runs over: all but the last four, which are padding. The
checksum itself is among them, and zero. -/
def SystemRecord.bytes (record : SystemRecord) : List UInt8 :=
  record.head format ++ longBytes record.lastPersistMs ++ wordBytes 0

/-- `sizeof(SystemState_t)`. -/
def systemStateSize : Nat := 264

theorem SystemRecord.length_bytes (record : SystemRecord) :
    (record.bytes format).length = systemStateSize - 4 := by
  simp only [SystemRecord.bytes, head, PowerState.bytes, ThermalState.bytes, AdcsState.bytes,
    CommState.bytes, MissionState.bytes, SmContext.bytes, wordBytes, longBytes, padding,
    List.length_append, length_littleEndian, Vector.length_toList, List.length_replicate,
    List.length_cons, List.length_nil]
  rfl

/-- The layout of the state. -/
@[reducible] def systemLayout : CLayout SystemRecord := ⟨SystemRecord.bytes format⟩

end

end SmartQso
