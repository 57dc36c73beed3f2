/-
This file gives the rules for properties of the EPS record in the main loop. After
the power management of an iteration, its health check and its polling of the
sensors reach the record through the two recovery actions only, so a property that
these keep holds until the next power management.
-/

import SmartQso.MainLoop
import SmartQso.Runs

namespace SmartQso

open Runs

section

variable [CLayout EpsRecord] [CLayout FaultRecord]

/-- Thermal recovery at a state of charge keeps a property of the record. -/
def KeptByThermal (good : EpsRecord → Prop) (soc : ℚ) : Prop :=
  ∀ (eps : Eps) (now : UInt64), good eps.state.record →
    good (faultRecoverThermal eps soc now).state.record

/-- Power recovery at a state of charge keeps a property of the record. -/
def KeptByPower (good : EpsRecord → Prop) (soc : ℚ) : Prop :=
  ∀ (eps : Eps) (now : UInt64), good eps.state.record →
    good (faultRecoverPower eps soc now).state.record

/-! ### The parts that only enter faults -/

omit [CLayout EpsRecord] in
theorem manageWatchdog_record (eps : Eps) (lastWatchdogResetMs : UInt64) (soc : ℚ)
    (now : UInt64) :
    (manageWatchdog eps lastWatchdogResetMs soc now).1.state.record = eps.state.record := by
  unfold manageWatchdog
  split <;> rfl

omit [CLayout EpsRecord] in
theorem checkCommunication_record (eps : Eps) (uartInitialized uartOpens : Bool) (soc : ℚ)
    (now : UInt64) :
    (checkCommunication eps uartInitialized uartOpens soc now).1.state.record =
      eps.state.record := by
  unfold checkCommunication
  split <;> rfl

omit [CLayout EpsRecord] in
theorem readEpsVoltage_record (sensor : Sensor) (bank : Sensors) (eps : Eps) (now : UInt64) :
    (readEpsVoltage sensor bank eps now).state.record = eps.state.record := by
  unfold readEpsVoltage
  dsimp only
  repeat' split
  all_goals rfl

omit [CLayout EpsRecord] in
theorem readEpsCurrent_record (sensor : Sensor) (bank : Sensors) (eps : Eps) (now : UInt64) :
    (readEpsCurrent sensor bank eps now).state.record = eps.state.record := by
  unfold readEpsCurrent
  extract_lets value
  repeat' split
  all_goals rfl

omit [CLayout EpsRecord] in
theorem uartCheckHealth_record (eps : Eps) (uartInitialized uartAnswers uartReopens : Bool)
    (now : UInt64) :
    (uartCheckHealth eps uartInitialized uartAnswers uartReopens now).1.state.record =
      eps.state.record := by
  unfold uartCheckHealth
  split
  · rfl
  · split <;> rfl

omit [CLayout EpsRecord] in
theorem sendAndCheck_record (flight : Flight) (input : LoopInput) :
    (sendAndCheck flight input).1.state.record = flight.eps.state.record := by
  unfold sendAndCheck
  dsimp only
  split
  · exact uartCheckHealth_record _ _ _ _ _
  · rfl

/-! ### The health check -/

variable {good : EpsRecord → Prop}

theorem checkSensor_keeps {soc : ℚ} (thermal : KeptByThermal good soc) {eps : Eps}
    (initial : good eps.state.record) (now : UInt64) (sensor : Sensor) :
    good (checkSensor eps soc now sensor).state.record := by
  unfold checkSensor
  split
  · refine thermal _ now ?_
    exact initial
  · exact initial

theorem checkPower_keeps {soc : ℚ} (power : KeptByPower good soc) {eps : Eps}
    (initial : good eps.state.record) (now : UInt64) :
    good (checkPower eps soc now).state.record := by
  unfold checkPower
  split
  · refine power _ now ?_
    exact initial
  · exact initial

theorem monitorSystemHealth_keeps {flight : Flight} (thermal : KeptByThermal good flight.soc)
    (power : KeptByPower good flight.soc) (initial : good flight.eps.state.record)
    (uartOpens : Bool) (now : UInt64) :
    good (monitorSystemHealth flight uartOpens now).eps.state.record := by
  unfold monitorSystemHealth
  split
  · exact initial
  · show good (Eps.state (checkCommunication _ _ _ _ _).1).record
    rw [checkCommunication_record]
    have kept : ∀ (eps : Eps) (sensor : Sensor), good eps.state.record →
        good (checkSensor eps flight.soc now sensor).state.record :=
      fun eps sensor held => checkSensor_keeps thermal held now sensor
    exact checkPower_keeps power (finalState_of_invariant kept initial flight.bank.sensors) now

/-! ### The polling of the sensors -/

theorem readEpsTemperature_keeps {bank : Sensors} (thermal : KeptByThermal good bank.soc)
    {eps : Eps} (initial : good eps.state.record) (now : UInt64) :
    good (readEpsTemperature bank eps now).state.record := by
  unfold readEpsTemperature
  extract_lets base
  split
  · refine thermal _ now ?_
    exact initial
  · split <;> exact initial

theorem readSensor_keeps {bank : Sensors} (thermal : KeptByThermal good bank.soc) {eps : Eps}
    (initial : good eps.state.record) (sensor : Sensor) (now : UInt64) :
    good (readSensor sensor bank eps now).state.record := by
  unfold readSensor
  cases sensor.sensorType with
  | softwareTimer => exact initial
  | epsVoltage =>
    show good (readEpsVoltage sensor bank eps now).state.record
    rw [readEpsVoltage_record]
    exact initial
  | epsCurrent =>
    show good (readEpsCurrent sensor bank eps now).state.record
    rw [readEpsCurrent_record]
    exact initial
  | epsTemperature => exact readEpsTemperature_keeps thermal initial now
  | statusHex2 => exact initial

theorem pollFrom_keeps {bank : Sensors} (thermal : KeptByThermal good bank.soc)
    (currentMs : UInt64) (values : Nat → ℚ) :
    ∀ (sensors : List Sensor) (index : Nat) (eps : Eps), good eps.state.record →
      good (pollFrom bank currentMs values index eps sensors).1.state.record
  | [], _, _, initial => initial
  | sensor :: rest, index, eps, initial => by
    refine pollFrom_keeps thermal currentMs values rest (index + 1) _ ?_
    unfold pollSensor
    split
    · exact readSensor_keeps thermal initial sensor currentMs
    · exact initial

variable [CLayout MissionRecord]

theorem pollAndSave_keeps {flight : Flight} (thermal : KeptByThermal good flight.bank.soc)
    (initial : good flight.eps.state.record) (input : LoopInput) :
    good (pollAndSave flight input).eps.state.record := by
  unfold pollAndSave sensorsPoll
  dsimp only
  split <;> refine pollFrom_keeps thermal _ _ _ _ _ ?_ <;> rw [sendAndCheck_record] <;>
    exact initial

end

end SmartQso
