/-
This file models `mission_data.c`: the sealed statistics record, its file, and the
functions that keep the members up to date. File operations succeed.
-/

import SmartQso.FaultMgmt

namespace SmartQso

/-- `MissionPhase_t`. -/
inductive MissionPhase
  | commissioning
  | idle
  | active
  | eol
  deriving DecidableEq

def MissionPhase.code : MissionPhase → UInt8
  | .commissioning => 0
  | .idle => 1
  | .active => 2
  | .eol => 3

/-- `MissionData_t` without its checksum. -/
structure MissionRecord where
  missionStartMs : UInt64
  totalUptimeMs : UInt64
  resetCount : UInt32
  lastResetMs : UInt64
  totalEnergyWh : ℚ
  faultCount : UInt32
  missionPhase : UInt8
  lastFault : String
  deriving DecidableEq

/-- The statics of `mission_data.c`, with the contents of `MISSION_DATA_FILE`. -/
structure MissionData where
  data : Sealed MissionRecord
  initialized : Bool
  file : Option (Sealed MissionRecord)

/-- The record of a first session. -/
def missionDefaults (now : UInt64) : MissionRecord where
  missionStartMs := now
  totalUptimeMs := 0
  resetCount := 1
  lastResetMs := now
  totalEnergyWh := 0
  faultCount := 0
  missionPhase := MissionPhase.idle.code
  lastFault := copyDescription "System startup"

/-- The statics before `mission_data_init` has run, over what earlier sessions saved. -/
def MissionData.boot (file : Option (Sealed MissionRecord)) : MissionData where
  data.record :=
    { missionDefaults 0 with resetCount := 0, missionPhase := 0, lastFault := "" }
  data.crc32 := 0
  initialized := false
  file := file

/-- `mission_data_get`; none stands for `SMART_QSO_ERROR`. -/
def missionDataGet (mission : MissionData) : Option MissionRecord :=
  if mission.initialized then some mission.data.record else none

section

variable [CLayout MissionRecord]

/-- Assign members of the record and recompute its checksum. -/
def MissionData.updateSealed (mission : MissionData)
    (change : MissionRecord → MissionRecord) : MissionData :=
  { mission with data := { mission.data with record := change mission.data.record }.updateCrc }

/-- `mission_data_load`: a missing file and a wrong checksum are both errors. -/
def missionDataLoad (mission : MissionData) : Option MissionData :=
  match mission.file with
  | none => none
  | some loaded => if loaded.verifies then some { mission with data := loaded } else none

/-- `mission_data_init`. -/
def missionDataInit (mission : MissionData) (now : UInt64) : MissionData :=
  let started :=
    match missionDataLoad mission with
    | none => mission.updateSealed fun _ => missionDefaults now
    | some loaded => loaded.updateSealed fun record =>
        { record with resetCount := record.resetCount + 1, lastResetMs := now }
  { started with initialized := true }

/-- `mission_data_update_uptime`. -/
def missionDataUpdateUptime (mission : MissionData) (uptimeMs : UInt64) : MissionData :=
  mission.updateSealed fun record => { record with totalUptimeMs := uptimeMs }

/-- `mission_data_set_start`. -/
def missionDataSetStart (mission : MissionData) (startMs : UInt64) : MissionData :=
  mission.updateSealed fun record => { record with missionStartMs := startMs }

/-- `mission_data_increment_reset`. -/
def missionDataIncrementReset (mission : MissionData) (now : UInt64) : MissionData :=
  mission.updateSealed fun record =>
    { record with resetCount := record.resetCount + 1, lastResetMs := now }

/-- `mission_data_set_phase`. The check of the phase only reports. -/
def missionDataSetPhase (mission : MissionData) (phase : UInt32) : MissionData :=
  mission.updateSealed fun record => { record with missionPhase := phase.toUInt8 }

/-- `mission_data_record_fault`. -/
def missionDataRecordFault (mission : MissionData) (description : String) : MissionData :=
  mission.updateSealed fun record =>
    { record with
      faultCount := record.faultCount + 1
      lastFault := copyDescription description }

/-- `mission_data_add_energy`. -/
def missionDataAddEnergy (mission : MissionData) (energyWh : ℚ) : MissionData :=
  mission.updateSealed fun record =>
    { record with totalEnergyWh := record.totalEnergyWh + energyWh }

/-- `mission_data_save`. -/
def missionDataSave (mission : MissionData) : MissionData :=
  { mission with data := mission.data.updateCrc, file := some mission.data.updateCrc }

end

end SmartQso
