/-
This file models `eps_control.c`, the load switches and power modes of the
electrical power subsystem with the configuration file they are saved to, and the
two recovery actions of `fault_mgmt.c` that work on them. File operations succeed,
so `EPS_CONFIG_FILE` always holds the snapshot written last; the snapshots before
it are kept as well, since a reset may come after any write. The clock stands
still within one call, and its prints are not modelled.
-/

import Mathlib.Tactic.NormNum
import SmartQso.FaultMgmt

namespace SmartQso

/-! ### Constants of `eps_control.h` -/

/-- `EPS_SOC_PAYLOAD_THRESHOLD`. -/
def epsSocPayloadThreshold : ℚ := 55 / 100

/-- `EPS_SOC_SAFE_THRESHOLD`. -/
def epsSocSafeThreshold : ℚ := 25 / 100

/-- `EPS_SOC_IDLE_THRESHOLD`. -/
def epsSocIdleThreshold : ℚ := 40 / 100

namespace PowerMode

/-- `EPS_POWER_LIMIT_SAFE_W`, `EPS_POWER_LIMIT_IDLE_W` and `EPS_POWER_LIMIT_ACTIVE_W`. -/
def powerLimitW : PowerMode → ℚ
  | safe => 1 / 2
  | idle => 3 / 2
  | active => 3

/-- Only the active mode asks for the payload. -/
def wantsPayload (mode : PowerMode) : Bool := mode == active

/-- Only the safe mode drops the radio and the attitude control. -/
def wantsBus (mode : PowerMode) : Bool := mode != safe

/-- The severity and the text of the fault entered with a mode. -/
def entryFault : PowerMode → FaultSeverity × String
  | safe => (.warning, "Entered SAFE mode")
  | idle => (.info, "Entered IDLE mode")
  | active => (.info, "Entered ACTIVE mode")

theorem powerLimitW_injective {first second : PowerMode}
    (same : first.powerLimitW = second.powerLimitW) : first = second := by
  cases first <;> cases second <;> norm_num [powerLimitW] at same <;> rfl

end PowerMode

/-! ### State -/

/-- `EpsControlState_t` without its checksum. -/
structure EpsRecord where
  payloadEnabled : Bool
  radioEnabled : Bool
  adcsEnabled : Bool
  beaconEnabled : Bool
  powerMode : UInt8
  powerLimitW : ℚ
  lastControlMs : UInt32
  deriving DecidableEq

/-- The statics of `eps_control.c`, the snapshots written to `EPS_CONFIG_FILE` with the newest
one first, and the fault log. -/
structure Eps where
  state : Sealed EpsRecord
  initialized : Bool
  written : List (Sealed EpsRecord)
  faults : FaultMgmt

/-- The defaults of `eps_control.c`, with the time they are taken at. -/
def epsDefaults (lastControlMs : UInt32) : EpsRecord where
  payloadEnabled := false
  radioEnabled := true
  adcsEnabled := true
  beaconEnabled := true
  powerMode := PowerMode.idle.code
  powerLimitW := PowerMode.idle.powerLimitW
  lastControlMs := lastControlMs

/-- The statics before `eps_init` has run, over what earlier sessions wrote. -/
def Eps.boot (written : List (Sealed EpsRecord)) (faults : FaultMgmt) : Eps where
  state := ⟨epsDefaults 0, 0⟩
  initialized := false
  written := written
  faults := faults

/-- Change members of the state; the checksum keeps its value. -/
def Eps.update (eps : Eps) (change : EpsRecord → EpsRecord) : Eps :=
  { eps with state.record := change eps.state.record }

/-- The switches with an `eps_control_*` function that takes no state of charge. -/
inductive LoadSwitch
  | radio
  | adcs
  | beacon
  deriving DecidableEq

/-- The member of the record that holds a switch. -/
def EpsRecord.switch (record : EpsRecord) : LoadSwitch → Bool
  | .radio => record.radioEnabled
  | .adcs => record.adcsEnabled
  | .beacon => record.beaconEnabled

/-- Assign the member of the record that holds a switch. -/
def EpsRecord.setSwitch (record : EpsRecord) (switch : LoadSwitch) (enable : Bool) : EpsRecord :=
  match switch with
  | .radio => { record with radioEnabled := enable }
  | .adcs => { record with adcsEnabled := enable }
  | .beacon => { record with beaconEnabled := enable }

/-! ### The operations -/

/-- The assignments of `eps_set_power_mode` before its `switch`. -/
def storeMode (eps : Eps) (mode : UInt32) (now : UInt64) : Eps :=
  eps.update fun record =>
    { record with powerMode := mode.toUInt8, lastControlMs := now.toUInt32 }

section

variable [CLayout EpsRecord]

/-- `eps_update_crc`. -/
def epsUpdateCrc (eps : Eps) : Eps :=
  { eps with state := eps.state.updateCrc }

/-- `eps_save_config`. -/
def epsSaveConfig (eps : Eps) : Eps :=
  { epsUpdateCrc eps with written := eps.state.updateCrc :: eps.written }

/-- `eps_load_config`: a missing file and a wrong checksum are both errors. -/
def epsLoadConfig (eps : Eps) : Option Eps :=
  match eps.written.head? with
  | none => none
  | some loaded => if loaded.verifies then some { eps with state := loaded } else none

/-- `eps_init`. -/
def epsInit (eps : Eps) (now : UInt64) : Eps :=
  match epsLoadConfig eps with
  | some loaded => { loaded with initialized := true }
  | none =>
    { epsUpdateCrc (eps.update fun _ => epsDefaults now.toUInt32) with initialized := true }

/-- What `eps_control_radio`, `eps_control_adcs` and `eps_control_beacon` do to their switch. -/
def controlSwitch (switch : LoadSwitch) (eps : Eps) (enable : Bool) (now : UInt64) :
    Eps × SmartQsoResult :=
  if eps.state.record.switch switch = enable then (eps, .ok)
  else
    let switched := eps.update fun record =>
      { record.setSwitch switch enable with lastControlMs := now.toUInt32 }
    (epsSaveConfig (epsUpdateCrc switched), .ok)

/-- `eps_control_radio`. -/
def epsControlRadio : Eps → Bool → UInt64 → Eps × SmartQsoResult := controlSwitch .radio

/-- `eps_control_adcs`. -/
def epsControlAdcs : Eps → Bool → UInt64 → Eps × SmartQsoResult := controlSwitch .adcs

/-- `eps_control_beacon`. -/
def epsControlBeacon : Eps → Bool → UInt64 → Eps × SmartQsoResult := controlSwitch .beacon

variable [CLayout FaultRecord]

/-- `fault_log_add`, called from the EPS. -/
def Eps.logFault (eps : Eps) (faultType : FaultType) (severity : FaultSeverity)
    (description : String) (soc : ℚ) (now : UInt64) : Eps :=
  { eps with faults := faultLogAdd eps.faults faultType severity description soc now }

/-- `eps_control_payload`. -/
def epsControlPayload (eps : Eps) (enable : Bool) (soc : ℚ) (now : UInt64) :
    Eps × SmartQsoResult :=
  if eps.state.record.payloadEnabled = enable then (eps, .ok)
  else if enable = true ∧ soc < epsSocPayloadThreshold then
    (eps.logFault .power .warning "Payload enable blocked: low SOC" soc now, .error)
  else
    let switched := epsUpdateCrc <| eps.update fun record =>
      { record with payloadEnabled := enable, lastControlMs := now.toUInt32 }
    let logged := switched.logFault .power .info
      (if enable then "Payload enabled" else "Payload disabled") soc now
    (epsSaveConfig logged, .ok)

/-- A branch of the `switch` of `eps_set_power_mode`: the four load switches in order, the
power limit and the fault entry. -/
def enterPowerMode (mode : PowerMode) (eps : Eps) (soc : ℚ) (now : UInt64) : Eps :=
  let payload := (epsControlPayload eps mode.wantsPayload soc now).1
  let radio := (epsControlRadio payload mode.wantsBus now).1
  let adcs := (epsControlAdcs radio mode.wantsBus now).1
  let beacon := (epsControlBeacon adcs true now).1
  let limited := beacon.update fun record => { record with powerLimitW := mode.powerLimitW }
  limited.logFault .modeChange mode.entryFault.1 mode.entryFault.2 soc now

/-- `eps_set_power_mode`. The mode is stored before it is looked at, so a value that names no
mode is stored too. -/
def epsSetPowerMode (eps : Eps) (mode : UInt32) (soc : ℚ) (now : UInt64) :
    Eps × SmartQsoResult :=
  if eps.state.record.powerMode.toUInt32 = mode then (eps, .ok)
  else
    let requested := storeMode eps mode now
    match PowerMode.ofValue? mode with
    | none => (requested, .errorInvalid)
    | some mode => (epsSaveConfig (epsUpdateCrc (enterPowerMode mode requested soc now)), .ok)

/-- `eps_get_state`; none stands for `SMART_QSO_ERROR`. -/
def epsGetState (eps : Eps) : Option EpsRecord :=
  if eps.initialized then some eps.state.record else none

/-- `eps_get_power_mode`. -/
def epsGetPowerMode (eps : Eps) : UInt8 := eps.state.record.powerMode

/-- `eps_is_payload_enabled`. -/
def epsIsPayloadEnabled (eps : Eps) : Bool := eps.state.record.payloadEnabled

/-- `eps_get_power_limit`. -/
def epsGetPowerLimit (eps : Eps) : ℚ := eps.state.record.powerLimitW

/-! ### The recovery actions of `fault_mgmt.c` -/

/-- `fault_recover_thermal`. -/
def faultRecoverThermal (eps : Eps) (soc : ℚ) (now : UInt64) : Eps :=
  if epsIsPayloadEnabled eps then
    let logged := eps.logFault .thermal .warning
      "Thermal fault recovery: disabling payload" soc now
    let unloaded := (epsControlPayload logged false soc now).1
    (epsSetPowerMode unloaded PowerMode.idle.value soc now).1
  else eps

/-- `fault_recover_power`. -/
def faultRecoverPower (eps : Eps) (soc : ℚ) (now : UInt64) : Eps :=
  if soc < epsSocSafeThreshold then
    let logged := eps.logFault .powerCritical .error
      "Critical power fault: entering SAFE mode" soc now
    (epsSetPowerMode logged PowerMode.safe.value soc now).1
  else if soc < epsSocIdleThreshold then
    let logged := eps.logFault .power .warning
      "Power fault recovery: entering IDLE mode" soc now
    (epsSetPowerMode logged PowerMode.idle.value soc now).1
  else eps

end

end SmartQso
