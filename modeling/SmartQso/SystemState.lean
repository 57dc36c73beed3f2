/-
This file models `system_state.c`: the one record of the spacecraft's state, its
defaults, and the accessors that change it. The record is the whole `SystemState_t`;
its checksum is computed with the checksum member set to zero, and only when it is
asked for, so an accessor leaves it stale.
-/

import SmartQso.StateMachine

namespace SmartQso

/-! ### The record -/

/-- `PowerState_t`. -/
structure PowerState where
  batteryVoltage : ℚ
  batteryCurrent : ℚ
  stateOfCharge : ℚ
  solarPower : ℚ
  totalEnergyWh : ℚ
  powerMode : PowerMode
  payloadEnabled : Bool
  modeEntryTimeMs : UInt32
  deriving DecidableEq

/-- `ThermalState_t`. -/
structure ThermalState where
  obcTempC : ℚ
  epsTempC : ℚ
  batteryTempC : ℚ
  payloadTempC : ℚ
  externalTempC : ℚ
  heaterEnabled : Bool
  overTempFlag : Bool
  underTempFlag : Bool
  deriving DecidableEq

/-- `AdcsState_t`. -/
structure AdcsState where
  magXUt : ℚ
  magYUt : ℚ
  magZUt : ℚ
  gyroXDps : ℚ
  gyroYDps : ℚ
  gyroZDps : ℚ
  sunVectorX : ℚ
  sunVectorY : ℚ
  sunVectorZ : ℚ
  detumbled : Bool
  sunAcquired : Bool
  lastUpdateMs : UInt32
  deriving DecidableEq

/-- `CommState_t`. -/
structure CommState where
  packetsSent : UInt32
  packetsReceived : UInt32
  packetsFailed : UInt32
  lastGroundContactMs : UInt32
  beaconCount : UInt32
  beaconIntervalS : UInt16
  commActive : Bool
  rssiDbm : Int8
  deriving DecidableEq

/-- `MissionState_t`. -/
structure MissionState where
  bootCount : UInt32
  uptimeS : UInt32
  totalUptimeS : UInt32
  missionTimeMs : UInt64
  qsoCount : UInt32
  commandCount : UInt32
  anomalyCount : UInt32
  safeModeEntry : Bool
  deriving DecidableEq

/-- `SystemState_t` without its checksum. -/
structure SystemRecord where
  power : PowerState
  thermal : ThermalState
  adcs : AdcsState
  comm : CommState
  mission : MissionState
  smContext : SmContext
  initialized : Bool
  watchdogOk : Bool
  persistenceDirty : Bool
  lastUpdateMs : UInt64
  lastPersistMs : UInt64
  deriving DecidableEq

/-- `SystemState_t`. -/
abbrev SystemState := Sealed SystemRecord

/-- Change members of the state; the checksum keeps its value. -/
def Sealed.update {Record : Type} (stored : Sealed Record) (change : Record → Record) :
    Sealed Record :=
  { stored with record := change stored.record }

/-! ### Defaults -/

/-- The record `sys_state_init` fills in. -/
def systemDefaults (now : UInt64) : SystemRecord where
  power :=
    { batteryVoltage := 37 / 10
      batteryCurrent := 0
      stateOfCharge := 1 / 2
      solarPower := 0
      totalEnergyWh := 0
      powerMode := .safe
      payloadEnabled := false
      modeEntryTimeMs := 0 }
  thermal :=
    { obcTempC := 25
      epsTempC := 25
      batteryTempC := 25
      payloadTempC := 25
      externalTempC := 0
      heaterEnabled := false
      overTempFlag := false
      underTempFlag := false }
  adcs := ⟨0, 0, 0, 0, 0, 0, 0, 0, 0, false, false, 0⟩
  comm := ⟨0, 0, 0, 0, 0, 60, false, 0⟩
  mission := ⟨0, 0, 0, 0, 0, 0, 0, false⟩
  smContext := smInit .boot now
  initialized := true
  watchdogOk := true
  persistenceDirty := false
  lastUpdateMs := now
  lastPersistMs := 0

/-- `sys_state_init`. -/
def sysStateInit [CLayout SystemRecord] (now : UInt64) : SystemState :=
  Sealed.updateCrc ⟨systemDefaults now, 0⟩

/-! ### Accessors -/

/-- `mark_dirty`. -/
def markDirty (sys : SystemState) (now : UInt64) : SystemState :=
  sys.update fun record => { record with persistenceDirty := true, lastUpdateMs := now }

/-- `sys_set_battery_voltage`. -/
def sysSetBatteryVoltage (sys : SystemState) (voltageV : ℚ) (now : UInt64) : SystemState :=
  let changed := sys.update fun record =>
    { record with power := { record.power with batteryVoltage := voltageV } }
  markDirty changed now

/-- `sys_set_battery_current`. -/
def sysSetBatteryCurrent (sys : SystemState) (currentA : ℚ) (now : UInt64) : SystemState :=
  let changed := sys.update fun record =>
    { record with power := { record.power with batteryCurrent := currentA } }
  markDirty changed now

/-- `sys_set_state_of_charge`. -/
def sysSetStateOfCharge (sys : SystemState) (soc : ℚ) (now : UInt64) : SystemState :=
  let clamped := if soc < 0 then 0 else if 1 < soc then 1 else soc
  let changed := sys.update fun record =>
    { record with power := { record.power with stateOfCharge := clamped } }
  markDirty changed now

/-- `sys_set_power_mode`. -/
def sysSetPowerMode (sys : SystemState) (mode : PowerMode) (now : UInt64) : SystemState :=
  let changed := sys.update fun record =>
    { record with
      power := { record.power with powerMode := mode, modeEntryTimeMs := now.toUInt32 } }
  markDirty changed now

/-- `sys_set_payload_enabled`. -/
def sysSetPayloadEnabled (sys : SystemState) (enabled : Bool) (now : UInt64) : SystemState :=
  let changed := sys.update fun record =>
    { record with power := { record.power with payloadEnabled := enabled } }
  markDirty changed now

/-- The switch of `sys_set_temperature`; none stands for its default. -/
def assignTemperature (thermal : ThermalState) (sensor : UInt8) (tempC : ℚ) :
    Option ThermalState :=
  if sensor = 0 then some { thermal with obcTempC := tempC }
  else if sensor = 1 then some { thermal with epsTempC := tempC }
  else if sensor = 2 then some { thermal with batteryTempC := tempC }
  else if sensor = 3 then some { thermal with payloadTempC := tempC }
  else if sensor = 4 then some { thermal with externalTempC := tempC }
  else none

/-- `sys_set_temperature`; none stands for `SMART_QSO_ERROR_INVALID`. -/
def sysSetTemperature (sys : SystemState) (sensor : UInt8) (tempC : ℚ) (now : UInt64) :
    Option SystemState :=
  match assignTemperature sys.record.thermal sensor tempC with
  | none => none
  | some assigned =>
    let thermal :=
      { assigned with
        overTempFlag := decide (60 < tempC)
        underTempFlag := decide (tempC < -20) }
    some (markDirty (sys.update fun record => { record with thermal := thermal }) now)

/-- `sys_set_magnetometer`. -/
def sysSetMagnetometer (sys : SystemState) (x y z : ℚ) (now : UInt64) : SystemState :=
  let changed := sys.update fun record =>
    { record with
      adcs :=
        { record.adcs with
          magXUt := x
          magYUt := y
          magZUt := z
          lastUpdateMs := now.toUInt32 } }
  markDirty changed now

/-- `sys_set_gyroscope`. -/
def sysSetGyroscope (sys : SystemState) (x y z : ℚ) (now : UInt64) : SystemState :=
  let changed := sys.update fun record =>
    { record with
      adcs :=
        { record.adcs with
          gyroXDps := x
          gyroYDps := y
          gyroZDps := z
          lastUpdateMs := now.toUInt32 } }
  markDirty changed now

/-- `sys_set_detumbled`. -/
def sysSetDetumbled (sys : SystemState) (achieved : Bool) (now : UInt64) : SystemState :=
  let changed := sys.update fun record =>
    { record with adcs := { record.adcs with detumbled := achieved } }
  markDirty changed now

/-- `sys_increment_packets_sent`. -/
def sysIncrementPacketsSent (sys : SystemState) (now : UInt64) : SystemState :=
  let changed := sys.update fun record =>
    { record with comm := { record.comm with packetsSent := record.comm.packetsSent + 1 } }
  markDirty changed now

/-- `sys_increment_packets_received`. -/
def sysIncrementPacketsReceived (sys : SystemState) (now : UInt64) : SystemState :=
  let changed := sys.update fun record =>
    { record with
      comm := { record.comm with packetsReceived := record.comm.packetsReceived + 1 } }
  markDirty changed now

/-- `sys_increment_beacon_count`. -/
def sysIncrementBeaconCount (sys : SystemState) (now : UInt64) : SystemState :=
  let changed := sys.update fun record =>
    { record with comm := { record.comm with beaconCount := record.comm.beaconCount + 1 } }
  markDirty changed now

/-- `sys_update_ground_contact`. -/
def sysUpdateGroundContact (sys : SystemState) (now : UInt64) : SystemState :=
  let changed := sys.update fun record =>
    { record with
      comm := { record.comm with lastGroundContactMs := now.toUInt32, commActive := true } }
  markDirty changed now

/-- `sys_set_beacon_interval`; none stands for `SMART_QSO_ERROR_INVALID`. -/
def sysSetBeaconInterval (sys : SystemState) (intervalS : UInt16) (now : UInt64) :
    Option SystemState :=
  if intervalS < 10 ∨ intervalS > 120 then none
  else
    let changed := sys.update fun record =>
      { record with comm := { record.comm with beaconIntervalS := intervalS } }
    some (markDirty changed now)

/-- `sys_increment_boot_count`. -/
def sysIncrementBootCount (sys : SystemState) (now : UInt64) : SystemState :=
  let changed := sys.update fun record =>
    { record with mission := { record.mission with bootCount := record.mission.bootCount + 1 } }
  markDirty changed now

/-- `sys_update_uptime`, with the static `s_last_uptime_update`. -/
def sysUpdateUptime (sys : SystemState) (lastUptimeUpdate now : UInt64) : SystemState × UInt64 :=
  let last := if lastUptimeUpdate = 0 then now else lastUptimeUpdate
  let elapsedMs := now - last
  let elapsedS := (elapsedMs / 1000).toUInt32
  if elapsedS > 0 then
    let changed := sys.update fun record =>
      { record with
        mission :=
          { record.mission with
            uptimeS := record.mission.uptimeS + elapsedS
            totalUptimeS := record.mission.totalUptimeS + elapsedS
            missionTimeMs := record.mission.missionTimeMs + elapsedMs } }
    (markDirty changed now, now)
  else (sys, last)

/-- `sys_increment_qso_count`. -/
def sysIncrementQsoCount (sys : SystemState) (now : UInt64) : SystemState :=
  let changed := sys.update fun record =>
    { record with mission := { record.mission with qsoCount := record.mission.qsoCount + 1 } }
  markDirty changed now

/-- `sys_increment_anomaly_count`. -/
def sysIncrementAnomalyCount (sys : SystemState) (now : UInt64) : SystemState :=
  let changed := sys.update fun record =>
    { record with
      mission := { record.mission with anomalyCount := record.mission.anomalyCount + 1 } }
  markDirty changed now

/-- `sys_increment_command_count`. -/
def sysIncrementCommandCount (sys : SystemState) (now : UInt64) : SystemState :=
  let changed := sys.update fun record =>
    { record with
      mission := { record.mission with commandCount := record.mission.commandCount + 1 } }
  markDirty changed now

/-- An assignment through `sys_get_sm_context`, which does not mark the state dirty. -/
def setSmContext (sys : SystemState) (context : SmContext) : SystemState :=
  sys.update fun record => { record with smContext := context }

/-- `sys_get_power_mode`. -/
def sysGetPowerMode (sys : SystemState) : PowerMode := sys.record.power.powerMode

/-- `sys_is_payload_enabled`. -/
def sysIsPayloadEnabled (sys : SystemState) : Bool := sys.record.power.payloadEnabled

/-- `sys_has_thermal_fault`. -/
def sysHasThermalFault (sys : SystemState) : Bool :=
  sys.record.thermal.overTempFlag || sys.record.thermal.underTempFlag

/-- `sys_get_boot_count`. -/
def sysGetBootCount (sys : SystemState) : UInt32 := sys.record.mission.bootCount

/-- `sys_get_uptime_s`. -/
def sysGetUptimeS (sys : SystemState) : UInt32 := sys.record.mission.uptimeS

/-- `sys_get_operational_state`. -/
def sysGetOperationalState (sys : SystemState) : SmState := sys.record.smContext.currentState

end SmartQso
