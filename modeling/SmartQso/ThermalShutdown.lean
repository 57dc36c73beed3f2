/-
This file is about the thermal shutdown of the payload over runs of the main loop.
A health check that finds a hot sensor has the payload switched off, and nothing in
an iteration switches it on again except the power management, which runs in every
iteration and looks at the state of charge and at the sunlight, not at the
temperature. So the shutdown lasts exactly as long as the conditions for the active
mode are not met.
-/

import Mathlib.Tactic.Linarith
import SmartQso.LoadShedding
import SmartQso.LoopRules

namespace SmartQso

open Runs

/-! ### Watching the shutdown -/

/-- Some sensor of the health check is above its limit. -/
def FoundHot (bank : Sensors) : Prop :=
  ∃ sensor ∈ bank.sensors, sensor.sensorType = .epsTemperature ∧ 40 < sensor.lastValue

instance (bank : Sensors) : Decidable (FoundHot bank) := List.decidableBEx _ _

/-- The main loop with a ghost: whether a health check has shut the payload down, and none
since has found every sensor below the limit. -/
structure Watched where
  flight : Flight
  shutDown : Bool

/-- The state of charge after the integration of `update_mission_state`. -/
def integratedSoc (flight : Flight) : ℚ :=
  integrateSoc (decide (flight.tick % 180 < 100)) (epsIsPayloadEnabled flight.eps) flight.soc

/-- The power management of an iteration goes to the active mode. -/
def EntersActive (flight : Flight) : Prop :=
  flight.tick % 180 < 100 ∧ 55 / 100 < integratedSoc flight ∧
    epsGetPowerMode flight.eps < PowerMode.active.code

section

variable [CLayout EpsRecord] [CLayout FaultRecord]

/-- The EPS after the power management of an iteration. -/
def managedEps (flight : Flight) (now : UInt64) : Eps :=
  managePower flight.eps (decide (flight.tick % 180 < 100)) (integratedSoc flight) now

/-- The EPS after the thermal check of `monitor_system_health`. -/
def thermalCheck (flight : Flight) (now : UInt64) : Eps :=
  flight.bank.sensors.foldl (fun eps sensor => checkSensor eps flight.soc now sensor) flight.eps

/-- The ghost after a health check at a given time. -/
def shutDownAfter (flight : Flight) (shutDown : Bool) (now : UInt64) : Bool :=
  if now - flight.lastHealthCheckMs < healthCheckIntervalMs then shutDown
  else if FoundHot flight.bank then
    shutDown || (epsIsPayloadEnabled flight.eps && !epsIsPayloadEnabled (thermalCheck flight now))
  else false

variable [CLayout MissionRecord]

/-- An iteration of the main loop, watched. -/
def watchedIteration (watched : Watched) (input : LoopInput) : Watched where
  flight := mainLoopIteration watched.flight input
  shutDown :=
    shutDownAfter (updateMissionState watched.flight input.updateMs) watched.shutDown input.healthMs

/-- While the payload is shut down, an iteration finds it off at every point, and leaves it off
when it ends with the payload shut down. -/
structure StaysOff (watched : Watched) (input : LoopInput) : Prop where
  managed : watched.shutDown = true →
    epsIsPayloadEnabled (managedEps watched.flight input.updateMs) = false
  updated : watched.shutDown = true →
    epsIsPayloadEnabled (updateMissionState watched.flight input.updateMs).eps = false
  finished : (watchedIteration watched input).shutDown = true →
    epsIsPayloadEnabled (watchedIteration watched input).flight.eps = false

/-! ### The payload stays off outside the power management -/

omit [CLayout MissionRecord] in
/-- A request of a mode without the payload leaves the payload off. -/
theorem epsSetPowerMode_off {eps : Eps} (off : epsIsPayloadEnabled eps = false)
    {target : PowerMode} (inactive : target ≠ .active) (soc : ℚ) (now : UInt64) :
    epsIsPayloadEnabled (epsSetPowerMode eps target.value soc now).1 = false := by
  refine Bool.eq_false_iff.mpr fun on => ?_
  have before := epsSetPowerMode_payload eps inactive soc now on
  exact absurd (off.symm.trans before) Bool.false_ne_true

omit [CLayout MissionRecord] in
theorem payloadOff_keptByThermal (soc : ℚ) :
    KeptByThermal (fun record => record.payloadEnabled = false) soc := by
  intro eps now off
  unfold faultRecoverThermal epsIsPayloadEnabled
  rw [if_neg (Bool.eq_false_iff.mp off)]
  exact off

omit [CLayout MissionRecord] in
theorem payloadOff_keptByPower (soc : ℚ) :
    KeptByPower (fun record => record.payloadEnabled = false) soc := by
  intro eps now off
  unfold faultRecoverPower
  split
  · refine epsSetPowerMode_off ?_ PowerMode.noConfusion soc now
    exact off
  · split
    · refine epsSetPowerMode_off ?_ PowerMode.noConfusion soc now
      exact off
    · exact off

omit [CLayout MissionRecord] in
theorem recoverFromSafe_off {eps : Eps} (off : epsIsPayloadEnabled eps = false)
    (currentMode : UInt8) (tick : UInt64) (soc : ℚ) (now : UInt64) :
    epsIsPayloadEnabled (recoverFromSafe eps currentMode tick soc now) = false := by
  unfold recoverFromSafe
  split
  · split
    · exact epsSetPowerMode_off off PowerMode.noConfusion soc now
    · exact off
  · exact off

/-- After the power management the iteration switches the payload on at no point. -/
theorem updateMissionState_off {flight : Flight} {now : UInt64}
    (off : epsIsPayloadEnabled (managedEps flight now) = false) :
    epsIsPayloadEnabled (updateMissionState flight now).eps = false := by
  unfold updateMissionState
  refine recoverFromSafe_off ?_ _ _ _ now
  unfold epsIsPayloadEnabled
  rw [manageWatchdog_record]
  exact off

theorem mainLoopIteration_off {flight : Flight} {input : LoopInput}
    (off : epsIsPayloadEnabled (updateMissionState flight input.updateMs).eps = false) :
    epsIsPayloadEnabled (mainLoopIteration flight input).eps = false :=
  pollAndSave_keeps (payloadOff_keptByThermal _)
    (monitorSystemHealth_keeps (payloadOff_keptByThermal _) (payloadOff_keptByPower _) off
      input.uartOpens input.healthMs) input

/-- A shutdown in this iteration's health check lasts to the end of the iteration. -/
theorem mainLoopIteration_off_of_thermalCheck {flight : Flight} {input : LoopInput}
    (due : ¬ input.healthMs - (updateMissionState flight input.updateMs).lastHealthCheckMs <
      healthCheckIntervalMs)
    (off : epsIsPayloadEnabled
      (thermalCheck (updateMissionState flight input.updateMs) input.healthMs) = false) :
    epsIsPayloadEnabled (mainLoopIteration flight input).eps = false := by
  refine pollAndSave_keeps (payloadOff_keptByThermal _) ?_ input
  unfold updateAndMonitor monitorSystemHealth
  rw [if_neg due]
  show EpsRecord.payloadEnabled (Eps.state (checkCommunication _ _ _ _ _).1).record = false
  rw [checkCommunication_record]
  exact checkPower_keeps (payloadOff_keptByPower _) off input.healthMs

/-! ### The power management ends the shutdown -/

omit [CLayout MissionRecord] in
/-- A request of the active mode from another one switches the payload on when the state of
charge allows it. -/
theorem epsSetPowerMode_active_on {eps : Eps}
    (other : eps.state.record.powerMode ≠ PowerMode.active.code) {soc : ℚ}
    (charged : epsSocPayloadThreshold ≤ soc) (now : UInt64) :
    epsIsPayloadEnabled (epsSetPowerMode eps PowerMode.active.value soc now).1 = true := by
  rw [epsSetPowerMode_change other]
  set stored := storeMode eps PowerMode.active.value now
  show (enterPowerMode .active stored soc now).state.record.payloadEnabled = true
  rw [(enterPowerMode_frame .active stored soc now).2]
  exact (epsControlPayload_on_iff stored _ soc now).mpr ⟨rfl, Or.inr charged⟩

omit [CLayout MissionRecord] in
theorem managedEps_off_iff {flight : Flight} (off : epsIsPayloadEnabled flight.eps = false)
    (now : UInt64) :
    epsIsPayloadEnabled (managedEps flight now) = false ↔ ¬ EntersActive flight := by
  unfold managedEps managePower
  dsimp only
  by_cases critical : integratedSoc flight < epsSocSafeThreshold
  · rw [if_pos critical]
    refine iff_of_true ?_ fun enters => ?_
    · split
      · exact epsSetPowerMode_off off PowerMode.noConfusion _ now
      · exact off
    · have charged := enters.2.1
      unfold epsSocSafeThreshold at critical
      linarith
  rw [if_neg critical]
  by_cases low : integratedSoc flight < epsSocIdleThreshold
  · rw [if_pos low]
    refine iff_of_true ?_ fun enters => ?_
    · split
      · exact epsSetPowerMode_off off PowerMode.noConfusion _ now
      · exact off
    · have charged := enters.2.1
      unfold epsSocIdleThreshold at low
      linarith
  rw [if_neg low]
  by_cases enters : EntersActive flight
  · obtain ⟨sunlit, charged, below⟩ := enters
    rw [if_pos ⟨decide_eq_true sunlit, charged, below⟩]
    have on := epsSetPowerMode_active_on (UInt8.ne_of_lt below) (le_of_lt charged) now
    refine iff_of_false (fun stays => ?_) (not_not.mpr ⟨sunlit, charged, below⟩)
    exact absurd (on.symm.trans stays) Bool.false_ne_true.symm
  · rw [if_neg fun met => enters ⟨of_decide_eq_true met.1, met.2⟩]
    exact iff_of_true off enters

/-! ### Every run -/

/-- In a shutdown the payload is off. -/
def Watched.Effective (watched : Watched) : Prop :=
  watched.shutDown = true → epsIsPayloadEnabled watched.flight.eps = false

/-- While the payload is shut down, the iteration does not enter the active mode. -/
def NoReentry (watched : Watched) (_ : LoopInput) : Prop :=
  watched.shutDown = true → ¬ EntersActive watched.flight

/-- The shutdown after an iteration is one from before, which the update has not ended, or one of
the iteration's own health check. -/
theorem watchedIteration_effective {watched : Watched} {input : LoopInput}
    (updated : watched.shutDown = true →
      epsIsPayloadEnabled (updateMissionState watched.flight input.updateMs).eps = false) :
    (watchedIteration watched input).Effective := by
  intro shut
  replace shut : shutDownAfter (updateMissionState watched.flight input.updateMs)
    watched.shutDown input.healthMs = true := shut
  unfold shutDownAfter at shut
  show epsIsPayloadEnabled (mainLoopIteration watched.flight input).eps = false
  split_ifs at shut with early hot
  · exact mainLoopIteration_off (updated shut)
  · rcases Bool.or_eq_true_iff.mp shut with earlier | now
    · exact mainLoopIteration_off (updated earlier)
    · have cooled := (Bool.and_eq_true_iff.mp now).2
      rw [Bool.not_eq_true'] at cooled
      exact mainLoopIteration_off_of_thermalCheck early cooled

theorem staysOff_iff {watched : Watched} (effective : watched.Effective) (input : LoopInput) :
    StaysOff watched input ↔ NoReentry watched input := by
  constructor
  · intro stays shut
    exact (managedEps_off_iff (effective shut) input.updateMs).mp (stays.managed shut)
  · intro kept
    have managed : watched.shutDown = true →
        epsIsPayloadEnabled (managedEps watched.flight input.updateMs) = false :=
      fun shut => (managedEps_off_iff (effective shut) input.updateMs).mpr (kept shut)
    have updated : watched.shutDown = true →
        epsIsPayloadEnabled (updateMissionState watched.flight input.updateMs).eps = false :=
      fun shut => updateMissionState_off (managed shut)
    exact ⟨managed, updated, watchedIteration_effective updated⟩

/-- The main loop after `init_system`, with no shutdown yet. -/
def Watched.launch (faults : FaultMgmt) (sensors : List Sensor)
    (missionFile : Option (Sealed MissionRecord)) (uartOpens : Bool)
    (telemetryIntervalMs : UInt32) (soc : ℚ) (now : UInt64) : Watched :=
  ⟨Flight.launch faults sensors missionFile uartOpens telemetryIntervalMs soc now, false⟩

/-- In a run of the main loop every thermal shutdown of the payload lasts until a health check
finds no sensor above the limit, if and only if no iteration enters the active mode before. -/
theorem thermal_shutdown_lasts_iff (faults : FaultMgmt) (sensors : List Sensor)
    (missionFile : Option (Sealed MissionRecord)) (uartOpens : Bool)
    (telemetryIntervalMs : UInt32) (soc : ℚ) (now : UInt64) (inputs : List LoopInput) :
    EachStep watchedIteration StaysOff
        (Watched.launch faults sensors missionFile uartOpens telemetryIntervalMs soc now) inputs ↔
      EachStep watchedIteration NoReentry
        (Watched.launch faults sensors missionFile uartOpens telemetryIntervalMs soc now)
        inputs := by
  have initial : (Watched.launch faults sensors missionFile uartOpens telemetryIntervalMs soc
      now).Effective := fun shut => absurd shut Bool.false_ne_true
  have preserved : ∀ (watched : Watched) (input : LoopInput), watched.Effective →
      StaysOff watched input → (watchedIteration watched input).Effective :=
    fun _ _ _ stays => stays.finished
  have agree : ∀ (watched : Watched) (input : LoopInput), watched.Effective →
      (StaysOff watched input ↔ NoReentry watched input) :=
    fun _ input effective => staysOff_iff effective input
  exact eachStep_iff_of_invariant preserved agree initial inputs

/-! ### A shutdown that does not last -/

/-- An iteration at a given time, with a working UART and one value for every sensor. -/
def LoopInput.steady (now : UInt64) (value : ℚ) : LoopInput :=
  ⟨now, now, now, true, true, true, true, fun _ => value⟩

omit [CLayout EpsRecord] [CLayout FaultRecord] [CLayout MissionRecord] in
/-- In sunlight with a full battery the payload is on after the first iteration, in which the
sensor reads 41 degrees. The health check of the second iteration shuts the payload down, and the
third switches it on again. -/
theorem payload_back_on_while_hot :
    letI := CLayout.blank EpsRecord
    letI := CLayout.blank FaultRecord
    letI := CLayout.blank MissionRecord
    ¬ EachStep watchedIteration StaysOff
      (Watched.launch FaultMgmt.boot [⟨.epsTemperature, "battery", 1000, 0, 0⟩] none true 1000
        (3 / 4) 0)
      [.steady 1000 41, .steady 11000 41, .steady 12000 41] := by
  let := CLayout.blank EpsRecord
  let := CLayout.blank FaultRecord
  let := CLayout.blank MissionRecord
  intro stays
  have third := stays.2.2.1.updated
  exact absurd (third (by decide +kernel)) (by decide +kernel)

end

end SmartQso
