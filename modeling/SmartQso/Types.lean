/-
This file holds the vocabulary of `smart_qso.h`: return codes, power modes, fault
types and severities, with the numbers the C enumerations give them where the
code stores or compares numbers.
-/

import Mathlib.Data.Rat.Defs

namespace SmartQso

/-- `SmartQsoResult_t`. -/
inductive SmartQsoResult
  | ok
  | error
  | errorNullPtr
  | errorInvalid
  | errorTimeout
  | errorBusy
  | errorNoMem
  | errorIo
  | errorTruncated
  | errorParam
  deriving DecidableEq

/-! ### Power modes -/

/-- `PowerMode_t`. -/
inductive PowerMode
  | safe
  | idle
  | active
  deriving DecidableEq

/-- The number of a power mode, in the width of the `uint8_t` that stores it. -/
def PowerMode.code : PowerMode → UInt8
  | .safe => 0
  | .idle => 1
  | .active => 2

/-- A power mode as a C argument of type `PowerMode_t`, which may hold any 32-bit value. -/
def PowerMode.value (mode : PowerMode) : UInt32 := mode.code.toUInt32

/-- The power mode with a given number, if there is one. -/
def PowerMode.ofValue? (value : UInt32) : Option PowerMode :=
  if value = 0 then some .safe
  else if value = 1 then some .idle
  else if value = 2 then some .active
  else none

@[simp] theorem PowerMode.ofValue?_value (mode : PowerMode) :
    PowerMode.ofValue? mode.value = some mode := by
  cases mode <;> rfl

@[simp] theorem PowerMode.value_toUInt8 (mode : PowerMode) : mode.value.toUInt8 = mode.code := by
  cases mode <;> rfl

/-- Only the number of a mode names it. -/
theorem PowerMode.eq_value {value : UInt32} {mode : PowerMode}
    (named : PowerMode.ofValue? value = some mode) : value = mode.value := by
  unfold ofValue? at named
  split_ifs at named with zero one two
  · exact Option.some.inj named ▸ zero
  · exact Option.some.inj named ▸ one
  · exact Option.some.inj named ▸ two

/-- A byte names a power mode when it is the number of that mode. -/
theorem PowerMode.ofValue?_byte (byte : UInt8) (mode : PowerMode) :
    PowerMode.ofValue? byte.toUInt32 = some mode ↔ byte = mode.code := by
  constructor
  · intro named
    rw [← UInt8.toUInt8_toUInt32 byte, PowerMode.eq_value named, value_toUInt8]
  · rintro rfl
    exact ofValue?_value mode

theorem PowerMode.code_injective {first second : PowerMode} (same : first.code = second.code) :
    first = second := by
  have decoded : PowerMode.ofValue? first.value = PowerMode.ofValue? second.value := by
    rw [value, value, same]
  rw [ofValue?_value, ofValue?_value] at decoded
  exact Option.some.inj decoded

@[simp] theorem PowerMode.code_inj {first second : PowerMode} :
    first.code = second.code ↔ first = second :=
  ⟨code_injective, congrArg code⟩

/-! ### Faults -/

/-- `FaultSeverity_t`. -/
inductive FaultSeverity
  | info
  | warning
  | error
  | critical
  deriving DecidableEq

def FaultSeverity.code : FaultSeverity → UInt8
  | .info => 1
  | .warning => 2
  | .error => 3
  | .critical => 4

/-- `FaultType_t`. -/
inductive FaultType
  | power
  | modeChange
  | thermal
  | powerCritical
  | watchdog
  | uart
  | voltageLow
  | voltageRange
  | currentHigh
  | tempHigh
  | tempLow
  | recovery
  | healthThermal
  | healthPower
  | healthComm
  | init
  | adcs
  | assertion
  | command
  | telemetry
  | deployment
  | swInternal
  deriving DecidableEq

def FaultType.code : FaultType → UInt8
  | .power => 1
  | .modeChange => 2
  | .thermal => 3
  | .powerCritical => 4
  | .watchdog => 5
  | .uart => 6
  | .voltageLow => 7
  | .voltageRange => 8
  | .currentHigh => 9
  | .tempHigh => 10
  | .tempLow => 11
  | .recovery => 12
  | .healthThermal => 13
  | .healthPower => 14
  | .healthComm => 15
  | .init => 16
  | .adcs => 17
  | .assertion => 18
  | .command => 19
  | .telemetry => 20
  | .deployment => 21
  | .swInternal => 22

/-- `SMART_QSO_MAX_FAULT_ENTRIES`. -/
def smartQsoMaxFaultEntries : Nat := 100

/-- `SMART_QSO_FAULT_DESC_LEN`. -/
def smartQsoFaultDescLen : Nat := 64

/-- `SMART_QSO_WATCHDOG_TIMEOUT_MS`. -/
def smartQsoWatchdogTimeoutMs : UInt64 := 30000

end SmartQso
