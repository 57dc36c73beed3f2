/-
This file proves the power safety of the main loop. The invariant of a whole
iteration is that the EPS record is consistent; the bound on the mode by the state
of charge is established anew by the power management of every iteration, whatever
the mode was before, and kept by the recovery actions after it.
-/

import Mathlib.Tactic.Linarith
import SmartQso.EpsModes
import SmartQso.LoopRules

namespace SmartQso

open Runs

/-- The state of charge allows a mode. -/
structure PowerMode.AllowedAt (mode : PowerMode) (soc : ℚ) : Prop where
  critical : soc < epsSocSafeThreshold → mode = .safe
  low : soc < epsSocIdleThreshold → mode ≠ .active

/-- The record is the one of a mode that the state of charge allows. -/
def EpsRecord.SafeAt (record : EpsRecord) (soc : ℚ) : Prop :=
  ∃ mode, record.InMode mode ∧ mode.AllowedAt soc

/-- What the main loop guarantees at the end of an iteration. -/
def PowerSafe (flight : Flight) : Prop :=
  (flight.soc < 25 / 100 →
      epsGetPowerMode flight.eps = PowerMode.safe.code ∧
        epsIsPayloadEnabled flight.eps = false) ∧
    (flight.soc < 40 / 100 →
      epsGetPowerMode flight.eps ≠ PowerMode.active.code ∧
        epsIsPayloadEnabled flight.eps = false) ∧
    (epsIsPayloadEnabled flight.eps = true →
      epsGetPowerMode flight.eps = PowerMode.active.code) ∧
    ∃ mode : PowerMode, epsGetPowerMode flight.eps = mode.code ∧
      epsGetPowerLimit flight.eps = mode.powerLimitW

theorem PowerMode.safe_allowedAt (soc : ℚ) : PowerMode.safe.AllowedAt soc :=
  ⟨fun _ => rfl, fun _ => PowerMode.noConfusion⟩

theorem PowerMode.idle_allowedAt {soc : ℚ} (uncritical : ¬ soc < epsSocSafeThreshold) :
    PowerMode.idle.AllowedAt soc :=
  ⟨fun critical => absurd critical uncritical, fun _ => PowerMode.noConfusion⟩

/-- Below the safe threshold is below the idle threshold. -/
theorem low_of_critical {soc : ℚ} (critical : soc < epsSocSafeThreshold) :
    soc < epsSocIdleThreshold := by
  unfold epsSocSafeThreshold at critical
  unfold epsSocIdleThreshold
  linarith

theorem PowerMode.allowedAt_of_charged {mode : PowerMode} {soc : ℚ}
    (charged : ¬ soc < epsSocIdleThreshold) : mode.AllowedAt soc :=
  ⟨fun critical => absurd (low_of_critical critical) charged, fun low => absurd low charged⟩

theorem EpsRecord.SafeAt.consistent {record : EpsRecord} {soc : ℚ} (safe : record.SafeAt soc) :
    record.Consistent := by
  obtain ⟨mode, inMode, _⟩ := safe
  exact ⟨mode, inMode⟩

theorem powerSafe_of_safeAt {flight : Flight} (safe : flight.eps.state.record.SafeAt flight.soc) :
    PowerSafe flight := by
  obtain ⟨mode, inMode, allowed⟩ := safe
  refine ⟨fun critical => ?_, fun low => ?_, fun on => ?_, mode, inMode.stored, inMode.limited⟩
  · have safe : mode = .safe := allowed.critical critical
    exact ⟨safe ▸ inMode.stored, inMode.unloaded (safe ▸ PowerMode.noConfusion)⟩
  · have inactive : mode ≠ .active := allowed.low low
    refine ⟨fun active => ?_, inMode.unloaded inactive⟩
    exact inactive (PowerMode.code_injective (inMode.stored.symm.trans active))
  · exact inMode.loaded on ▸ inMode.stored

section

variable [CLayout EpsRecord] [CLayout FaultRecord]

/-! ### The power management reaches an allowed mode -/

theorem managePower_safeAt {eps : Eps} (consistent : eps.state.record.Consistent) (sunlit : Bool)
    (soc : ℚ) (now : UInt64) : (managePower eps sunlit soc now).state.record.SafeAt soc := by
  have requested := fun mode => epsSetPowerMode_inMode consistent mode soc now
  obtain ⟨mode, inMode⟩ := consistent
  unfold managePower epsGetPowerMode
  by_cases critical : soc < epsSocSafeThreshold
  · rw [if_pos critical]
    split
    · exact ⟨.safe, requested .safe, PowerMode.safe_allowedAt soc⟩
    · next stored =>
      have safe : mode = .safe :=
        PowerMode.code_injective (inMode.stored.symm.trans (not_not.mp stored))
      exact ⟨mode, inMode, safe ▸ PowerMode.safe_allowedAt soc⟩
  rw [if_neg critical]
  by_cases low : soc < epsSocIdleThreshold
  · rw [if_pos low]
    split
    · exact ⟨.idle, requested .idle, PowerMode.idle_allowedAt critical⟩
    · next notAbove =>
      refine ⟨mode, inMode, fun below => absurd below critical, fun _ active => notAbove ?_⟩
      rw [inMode.stored, active]
      decide
  · rw [if_neg low]
    split
    · exact ⟨.active, requested .active, PowerMode.allowedAt_of_charged low⟩
    · exact ⟨mode, inMode, PowerMode.allowedAt_of_charged low⟩

/-- The recovery goes to idle only above the idle threshold, so a stale mode does no harm. -/
theorem recoverFromSafe_safeAt {eps : Eps} {soc : ℚ} (safe : eps.state.record.SafeAt soc)
    (currentMode : UInt8) (tick : UInt64) (now : UInt64) :
    (recoverFromSafe eps currentMode tick soc now).state.record.SafeAt soc := by
  unfold recoverFromSafe
  split
  · split
    · next recovers =>
      have charged : ¬ soc < epsSocIdleThreshold := not_lt.mpr (le_of_lt recovers.2)
      have idle := epsSetPowerMode_inMode safe.consistent .idle soc now
      exact ⟨.idle, idle, PowerMode.allowedAt_of_charged charged⟩
    · exact safe
  · exact safe

theorem updateMissionState_safeAt [CLayout MissionRecord] {flight : Flight}
    (consistent : flight.eps.state.record.Consistent) (now : UInt64) :
    (updateMissionState flight now).eps.state.record.SafeAt
      (updateMissionState flight now).soc := by
  unfold updateMissionState
  refine recoverFromSafe_safeAt ?_ _ _ now
  rw [manageWatchdog_record]
  exact managePower_safeAt consistent _ _ now

/-! ### The health check keeps the mode allowed -/

theorem faultRecoverThermal_safeAt {eps : Eps} {soc : ℚ} (safe : eps.state.record.SafeAt soc)
    (now : UInt64) : (faultRecoverThermal eps soc now).state.record.SafeAt soc := by
  rcases faultRecoverThermal_spec safe.consistent soc now with ⟨on, idle⟩ | ⟨_, same⟩
  · obtain ⟨mode, inMode, allowed⟩ := safe
    -- The payload was on, so the mode was active and the state of charge above the threshold.
    refine ⟨.idle, idle, PowerMode.idle_allowedAt fun critical => ?_⟩
    exact allowed.low (low_of_critical critical) (inMode.loaded on)
  · rw [same]
    exact safe

theorem faultRecoverPower_safeAt {eps : Eps} {soc : ℚ} (safe : eps.state.record.SafeAt soc)
    (now : UInt64) : (faultRecoverPower eps soc now).state.record.SafeAt soc := by
  rcases faultRecoverPower_spec safe.consistent soc now with
    ⟨_, inSafe⟩ | ⟨uncritical, idle⟩ | ⟨_, _, same⟩
  · exact ⟨.safe, inSafe, PowerMode.safe_allowedAt soc⟩
  · exact ⟨.idle, idle, PowerMode.idle_allowedAt uncritical⟩
  · rw [same]
    exact safe

theorem monitorSystemHealth_safeAt {flight : Flight}
    (safe : flight.eps.state.record.SafeAt flight.soc) (uartOpens : Bool) (now : UInt64) :
    (monitorSystemHealth flight uartOpens now).eps.state.record.SafeAt
      (monitorSystemHealth flight uartOpens now).soc := by
  have thermal : KeptByThermal (fun record => record.SafeAt flight.soc) flight.soc :=
    fun _ now safe => faultRecoverThermal_safeAt safe now
  have power : KeptByPower (fun record => record.SafeAt flight.soc) flight.soc :=
    fun _ now safe => faultRecoverPower_safeAt safe now
  have soc : (monitorSystemHealth flight uartOpens now).soc = flight.soc := by
    unfold monitorSystemHealth
    split <;> rfl
  rw [soc]
  exact monitorSystemHealth_keeps thermal power safe uartOpens now

/-! ### Polling keeps the record consistent -/

theorem pollAndSave_consistent [CLayout MissionRecord] {flight : Flight}
    (consistent : flight.eps.state.record.Consistent) (input : LoopInput) :
    (pollAndSave flight input).eps.state.record.Consistent :=
  pollAndSave_keeps (fun _ now consistent => faultRecoverThermal_consistent consistent _ now)
    consistent input

variable [CLayout MissionRecord]

/-! ### Every iteration of every run -/

theorem updateAndMonitor_safeAt {flight : Flight}
    (consistent : flight.eps.state.record.Consistent) (input : LoopInput) :
    (updateAndMonitor flight input).eps.state.record.SafeAt (updateAndMonitor flight input).soc :=
  monitorSystemHealth_safeAt (updateMissionState_safeAt consistent input.updateMs) _ _

theorem launch_consistent (faults : FaultMgmt) (sensors : List Sensor)
    (missionFile : Option (Sealed MissionRecord)) (uartOpens : Bool)
    (telemetryIntervalMs : UInt32) (soc : ℚ) (now : UInt64) :
    (Flight.launch faults sensors missionFile uartOpens telemetryIntervalMs soc
      now).eps.state.record.Consistent := by
  refine ⟨.idle, ?_⟩
  unfold Flight.launch
  dsimp only
  split <;> exact epsDefaults_inMode now.toUInt32

/-- In every run of the main loop started without an EPS configuration file, each iteration is
power safe once its health check is done. -/
theorem main_loop_power_safe (faults : FaultMgmt) (sensors : List Sensor)
    (missionFile : Option (Sealed MissionRecord)) (uartOpens : Bool)
    (telemetryIntervalMs : UInt32) (soc : ℚ) (now : UInt64) (inputs : List LoopInput)
    (input : LoopInput) :
    PowerSafe (updateAndMonitor
      (finalState mainLoopIteration
        (Flight.launch faults sensors missionFile uartOpens telemetryIntervalMs soc now) inputs)
      input) := by
  have kept : ∀ (flight : Flight) (input : LoopInput), flight.eps.state.record.Consistent →
      (mainLoopIteration flight input).eps.state.record.Consistent := by
    intro flight input consistent
    exact pollAndSave_consistent (updateAndMonitor_safeAt consistent input).consistent input
  have consistent := finalState_of_invariant kept
    (launch_consistent faults sensors missionFile uartOpens telemetryIntervalMs soc now) inputs
  exact powerSafe_of_safeAt (updateAndMonitor_safeAt consistent input)

end

end SmartQso
