/-
This file models how `system_state.c` stores the state: `sys_state_save` and
`sys_state_load` over a file, with what the C library can make of their calls. A file
that is as long as the record holds the record its bytes represent. The file also
models the runs of the state between a save and a load.
-/

import SmartQso.Runs
import SmartQso.SystemState

namespace SmartQso

open Runs

/-! ### Accessors as steps -/

/-- The statics behind the accessors, with the fault log the state machine writes to. -/
structure SysStatics where
  state : SystemState
  lastUptimeUpdate : UInt64
  faults : FaultMgmt

/-- The accessors that change the state, and the events of its state machine. -/
inductive SysAccess
  | setBatteryVoltage (voltageV : ℚ)
  | setBatteryCurrent (currentA : ℚ)
  | setStateOfCharge (soc : ℚ)
  | setPowerMode (mode : PowerMode)
  | setPayloadEnabled (enabled : Bool)
  | setTemperature (sensor : UInt8) (tempC : ℚ)
  | setMagnetometer (x y z : ℚ)
  | setGyroscope (x y z : ℚ)
  | setDetumbled (achieved : Bool)
  | incrementPacketsSent
  | incrementPacketsReceived
  | incrementBeaconCount
  | updateGroundContact
  | setBeaconInterval (intervalS : UInt16)
  | incrementBootCount
  | updateUptime
  | incrementQsoCount
  | incrementCommandCount
  | incrementAnomalyCount
  | processEvent (event : UInt32)
  | forceState (newState : SmState)

/-- An access, with the time at which it happens. A refused value leaves the state as it is. -/
def sysAccess [CLayout FaultRecord] (statics : SysStatics) (access : SysAccess × UInt64) :
    SysStatics :=
  let state := statics.state
  let now := access.2
  match access.1 with
  | .setBatteryVoltage voltageV =>
    { statics with state := sysSetBatteryVoltage state voltageV now }
  | .setBatteryCurrent currentA =>
    { statics with state := sysSetBatteryCurrent state currentA now }
  | .setStateOfCharge soc => { statics with state := sysSetStateOfCharge state soc now }
  | .setPowerMode mode => { statics with state := sysSetPowerMode state mode now }
  | .setPayloadEnabled enabled =>
    { statics with state := sysSetPayloadEnabled state enabled now }
  | .setTemperature sensor tempC =>
    { statics with state := (sysSetTemperature state sensor tempC now).getD state }
  | .setMagnetometer x y z => { statics with state := sysSetMagnetometer state x y z now }
  | .setGyroscope x y z => { statics with state := sysSetGyroscope state x y z now }
  | .setDetumbled achieved => { statics with state := sysSetDetumbled state achieved now }
  | .incrementPacketsSent => { statics with state := sysIncrementPacketsSent state now }
  | .incrementPacketsReceived => { statics with state := sysIncrementPacketsReceived state now }
  | .incrementBeaconCount => { statics with state := sysIncrementBeaconCount state now }
  | .updateGroundContact => { statics with state := sysUpdateGroundContact state now }
  | .setBeaconInterval intervalS =>
    { statics with state := (sysSetBeaconInterval state intervalS now).getD state }
  | .incrementBootCount => { statics with state := sysIncrementBootCount state now }
  | .updateUptime =>
    let updated := sysUpdateUptime state statics.lastUptimeUpdate now
    { statics with state := updated.1, lastUptimeUpdate := updated.2 }
  | .incrementQsoCount => { statics with state := sysIncrementQsoCount state now }
  | .incrementCommandCount => { statics with state := sysIncrementCommandCount state now }
  | .incrementAnomalyCount => { statics with state := sysIncrementAnomalyCount state now }
  | .processEvent event =>
    let processed := smProcessEvent state.record.smContext statics.faults event now
    { statics with state := setSmContext state processed.1, faults := processed.2.1 }
  | .forceState newState =>
    let forced := smForceState state.record.smContext statics.faults newState now
    { statics with state := setSmContext state forced.1, faults := forced.2 }

/-- `sys_state_is_dirty`. -/
def sysStateIsDirty (sys : SystemState) : Bool := sys.record.persistenceDirty

/-! ### The file -/

/-- What is in `STATE_FILE`: fewer bytes than a record has, or the record they represent. -/
inductive StateFile
  | short
  | image (stored : SystemState)

/-- What the C library makes of the calls of `sys_state_save`. `fwrite` fills a buffer, so a disk
without room may only be noticed when `fclose` writes the buffer out. -/
inductive SaveIo
  | openFails
  | writeFails
  | closeFails
  | succeeds
  deriving DecidableEq

section

variable [CLayout SystemRecord]

/-- The part of `sys_state_load` that accepts a record or refuses it. -/
def acceptState (loaded : SystemState) (now : UInt64) : SystemState :=
  if loaded.crc32 ≠ recordCrc loaded.record then sysStateInit now
  else
    { record :=
        { loaded.record with
          smContext := smInit loaded.record.smContext.currentState now
          initialized := true
          persistenceDirty := false }
      crc32 := 0 }

/-- `sys_state_load`, which always answers `SMART_QSO_OK`. Nothing is left of the state before. -/
def sysStateLoad (file : Option StateFile) (now : UInt64) : SystemState :=
  match file with
  | none => sysStateInit now
  | some .short => sysStateInit now
  | some (.image loaded) => acceptState loaded now

/-- A load in the course of a run; `s_last_uptime_update` is not stored and keeps its value. -/
def loadState (statics : SysStatics) (file : Option StateFile) (now : UInt64) : SysStatics :=
  { statics with state := sysStateLoad file now }

/-- The members assigned after a save. -/
def markSaved (sys : SystemState) (now : UInt64) : SystemState :=
  sys.update fun record => { record with persistenceDirty := false, lastPersistMs := now }

/-- `sys_state_save`. What `fclose` answers is not looked at. -/
def sysStateSave (sys : SystemState) (file : Option StateFile) (io : SaveIo) (now : UInt64) :
    SystemState × Option StateFile × SmartQsoResult :=
  if sys.record.initialized then
    let sealed := sys.updateCrc
    match io with
    | .openFails => (sealed, file, .errorIo)
    | .writeFails => (sealed, some .short, .errorIo)
    | .closeFails => (markSaved sealed now, some .short, .ok)
    | .succeeds => (markSaved sealed now, some (.image sealed), .ok)
  else (sys, file, .errorInvalid)

/-! ### Interrupted saves -/

/-- Where a reset can stop `sys_state_save`. Before `fclose` has returned, the buffer may have
been written out or not. -/
inductive SaveStop
  | beforeOpen
  | beforeWrite
  | beforeClose (flushed : Bool)
  deriving DecidableEq

/-- The file a reset leaves behind. -/
def fileAtReset (sys : SystemState) (file : Option StateFile) : SaveStop → Option StateFile
  | .beforeOpen => file
  | .beforeWrite => some .short
  | .beforeClose flushed => some (if flushed then .image sys.updateCrc else .short)

/-- What can come between the start of a save and its end. -/
inductive SaveInterruption
  | answer (io : SaveIo)
  | reset (stop : SaveStop)
  deriving DecidableEq

/-- The file after a save that may be interrupted. -/
def fileAfter (sys : SystemState) (file : Option StateFile) (saveMs : UInt64) :
    SaveInterruption → Option StateFile
  | .answer io => (sysStateSave sys file io saveMs).2.1
  | .reset stop => fileAtReset sys file stop

/-- What becomes of the record that was in the file. -/
inductive FileFate
  | kept
  | lost
  | replaced
  deriving DecidableEq

/-- The file is emptied when it is opened, and holds the new record once the buffer is written. -/
def SaveInterruption.fate : SaveInterruption → FileFate
  | .answer .openFails => .kept
  | .answer .writeFails => .lost
  | .answer .closeFails => .lost
  | .answer .succeeds => .replaced
  | .reset .beforeOpen => .kept
  | .reset .beforeWrite => .lost
  | .reset (.beforeClose flushed) => if flushed then .replaced else .lost

/-! ### What is restored -/

/-- The blocks of the state and the operational state. -/
structure SystemView where
  power : PowerState
  thermal : ThermalState
  adcs : AdcsState
  comm : CommState
  mission : MissionState
  operational : SmState
  deriving DecidableEq

/-- What a save is meant to keep. -/
def systemView (sys : SystemState) : SystemView where
  power := sys.record.power
  thermal := sys.record.thermal
  adcs := sys.record.adcs
  comm := sys.record.comm
  mission := sys.record.mission
  operational := sysGetOperationalState sys

end

end SmartQso
