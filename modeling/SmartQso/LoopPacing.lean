/-
This file is about the times at which the main loop acts: when it sends telemetry, when it
checks the health of the system and when its watchdog enters a fault. Each of them keeps a
mark in a static. The watchdog shares its mark with the health check, so it notices that
the loop has stood still between two iterations, and nothing of how long one of them took.
-/

import SmartQso.FlightSessions
import SmartQso.Pacing

namespace SmartQso

open Runs Pacing

/-! ### Actions of an iteration -/

/-- The readings of the clock on which an iteration acts, in their order. -/
def LoopInput.times (input : LoopInput) : List UInt64 :=
  [input.updateMs, input.loopMs, input.healthMs]

section

variable [CLayout EpsRecord] [CLayout FaultRecord] [CLayout MissionRecord]

/-- The time at which an iteration sends telemetry. -/
def telemetryTime (flight : Flight) (input : LoopInput) : Option ℕ :=
  if telemetryDue (updateAndMonitor flight input) input then some input.loopMs.toNat else none

omit [CLayout EpsRecord] [CLayout FaultRecord] [CLayout MissionRecord]

/-- The time at which an iteration checks the health of the system. -/
def healthCheckTime (flight : Flight) (input : LoopInput) : Option ℕ :=
  if input.healthMs - flight.lastHealthCheckMs < healthCheckIntervalMs then none
  else some input.healthMs.toNat

/-- The time at which the watchdog of an iteration enters a fault. -/
def watchdogTime (flight : Flight) (input : LoopInput) : Option ℕ :=
  if input.updateMs - flight.lastWatchdogResetMs > smartQsoWatchdogTimeoutMs then
    some input.updateMs.toNat
  else none

end

/-! ### The marks -/

section

variable [CLayout FaultRecord]

/-- The power management of an iteration is followed by a watchdog fault when it is time for
one. -/
theorem manageWatchdog_eq (flight : Flight) (input : LoopInput) (eps : Eps) (soc : ℚ) :
    (manageWatchdog eps flight.lastWatchdogResetMs soc input.updateMs).1 =
      if (watchdogTime flight input).isSome then
        { eps with faults := faultHandleWatchdog eps.faults soc input.updateMs }
      else eps := by
  unfold manageWatchdog watchdogTime
  split <;> rfl

theorem manageWatchdog_resetMs (flight : Flight) (input : LoopInput) (eps : Eps) (soc : ℚ) :
    (manageWatchdog eps flight.lastWatchdogResetMs soc input.updateMs).2.toNat =
      (watchdogTime flight input).getD flight.lastWatchdogResetMs.toNat := by
  unfold manageWatchdog watchdogTime
  split <;> rfl

variable [CLayout EpsRecord]

theorem monitorSystemHealth_lastHealthCheckMs (flight : Flight) (input : LoopInput) :
    (monitorSystemHealth flight input.uartOpens input.healthMs).lastHealthCheckMs.toNat =
      (healthCheckTime flight input).getD flight.lastHealthCheckMs.toNat := by
  unfold monitorSystemHealth healthCheckTime
  split <;> rfl

theorem monitorSystemHealth_lastWatchdogResetMs (flight : Flight) (input : LoopInput) :
    (monitorSystemHealth flight input.uartOpens input.healthMs).lastWatchdogResetMs.toNat =
      (healthCheckTime flight input).getD flight.lastWatchdogResetMs.toNat := by
  unfold monitorSystemHealth healthCheckTime
  split <;> rfl

theorem monitorSystemHealth_telemetry (flight : Flight) (uartOpens : Bool) (now : UInt64) :
    (monitorSystemHealth flight uartOpens now).lastTelemetryMs = flight.lastTelemetryMs ∧
      (monitorSystemHealth flight uartOpens now).telemetryIntervalMs =
        flight.telemetryIntervalMs := by
  unfold monitorSystemHealth
  split <;> exact ⟨rfl, rfl⟩

variable [CLayout MissionRecord]

theorem updateAndMonitor_telemetry (flight : Flight) (input : LoopInput) :
    (updateAndMonitor flight input).lastTelemetryMs = flight.lastTelemetryMs ∧
      (updateAndMonitor flight input).telemetryIntervalMs = flight.telemetryIntervalMs :=
  monitorSystemHealth_telemetry _ input.uartOpens input.healthMs

/-- An iteration moves the mark of the telemetry when it sends some. -/
theorem mainLoopIteration_lastTelemetryMs (flight : Flight) (input : LoopInput) :
    (mainLoopIteration flight input).lastTelemetryMs.toNat =
      (telemetryTime flight input).getD flight.lastTelemetryMs.toNat := by
  unfold mainLoopIteration pollAndSave telemetryTime
  dsimp only
  split
  · rfl
  · rw [(updateAndMonitor_telemetry flight input).1]
    rfl

/-- An iteration moves the mark of the health check when it makes one. -/
theorem mainLoopIteration_lastHealthCheckMs (flight : Flight) (input : LoopInput) :
    (mainLoopIteration flight input).lastHealthCheckMs.toNat =
      (healthCheckTime flight input).getD flight.lastHealthCheckMs.toNat :=
  monitorSystemHealth_lastHealthCheckMs (updateMissionState flight input.updateMs) input

/-- An iteration moves the mark of the watchdog with a fault, and further with a health check. -/
theorem mainLoopIteration_lastWatchdogResetMs (flight : Flight) (input : LoopInput) :
    (mainLoopIteration flight input).lastWatchdogResetMs.toNat =
      (healthCheckTime flight input).getD
        ((watchdogTime flight input).getD flight.lastWatchdogResetMs.toNat) := by
  refine (monitorSystemHealth_lastWatchdogResetMs
    (updateMissionState flight input.updateMs) input).trans ?_
  exact congrArg (healthCheckTime flight input).getD (manageWatchdog_resetMs flight input _ _)

/-! ### The clock -/

/-- The flight software, and the reading of the clock on which it acted last. -/
structure Clocked where
  flight : Flight
  clockMs : UInt64

/-- An iteration. The reading on which it acts last is the one of its health check. -/
def clockedStep (clocked : Clocked) (input : LoopInput) : Clocked :=
  ⟨mainLoopIteration clocked.flight input, input.healthMs⟩

/-- The readings of an iteration are in order, after the ones before it. -/
def Clocked.InOrder (clocked : Clocked) (input : LoopInput) : Prop :=
  (clocked.clockMs :: input.times).Pairwise (· ≤ ·)

/-- What holds of the marks between two iterations: none is ahead of the clock, and the last health
check was less than its interval ago. -/
structure Clocked.InTime (intervalMs : UInt32) (clocked : Clocked) : Prop where
  interval : clocked.flight.telemetryIntervalMs = intervalMs
  telemetry : clocked.flight.lastTelemetryMs.toNat ≤ clocked.clockMs.toNat
  checked : clocked.clockMs.toNat <
    clocked.flight.lastHealthCheckMs.toNat + healthCheckIntervalMs.toNat
  reset : clocked.flight.lastHealthCheckMs.toNat ≤ clocked.flight.lastWatchdogResetMs.toNat
  watchdog : clocked.flight.lastWatchdogResetMs.toNat ≤ clocked.clockMs.toNat

omit [CLayout FaultRecord] [CLayout EpsRecord] [CLayout MissionRecord] in
theorem Clocked.InOrder.readings {clocked : Clocked} {input : LoopInput}
    (inOrder : clocked.InOrder input) :
    clocked.clockMs.toNat ≤ input.updateMs.toNat ∧
      input.updateMs.toNat ≤ input.loopMs.toNat ∧
      input.loopMs.toNat ≤ input.healthMs.toNat := by
  obtain ⟨first, rest⟩ := List.pairwise_cons.mp inOrder
  obtain ⟨second, rest⟩ := List.pairwise_cons.mp rest
  obtain ⟨third, _⟩ := List.pairwise_cons.mp rest
  simp only [← UInt64.le_iff_toNat_le]
  exact ⟨first _ List.mem_cons_self, second _ List.mem_cons_self, third _ List.mem_cons_self⟩

/-! ### Paced actions -/

/-- Telemetry is sent when its interval has passed. -/
theorem telemetryTime_due {flight : Flight} {input : LoopInput} {time : ℕ}
    (inOrder : flight.lastTelemetryMs.toNat ≤ input.loopMs.toNat)
    (due : telemetryTime flight input = some time) :
    flight.lastTelemetryMs.toNat + flight.telemetryIntervalMs.toNat ≤ time ∧
      time = input.loopMs.toNat := by
  unfold telemetryTime telemetryDue at due
  rw [(updateAndMonitor_telemetry flight input).1, (updateAndMonitor_telemetry flight input).2]
    at due
  split at due
  case isFalse => cases due
  case isTrue permitted =>
    cases due
    rw [Bool.and_eq_true, decide_eq_true_eq, ge_iff_le, UInt64.le_iff_toNat_le,
      UInt64.toNat_sub_of_le _ _ (UInt64.le_iff_toNat_le.mpr inOrder), UInt32.toNat_toUInt64]
      at permitted
    exact ⟨by omega, rfl⟩

omit [CLayout FaultRecord] [CLayout EpsRecord] [CLayout MissionRecord] in
/-- A health check is made exactly when its interval has passed. -/
theorem healthCheckTime_due {flight : Flight} {input : LoopInput}
    (inOrder : flight.lastHealthCheckMs.toNat ≤ input.healthMs.toNat) :
    healthCheckTime flight input =
      if flight.lastHealthCheckMs.toNat + healthCheckIntervalMs.toNat ≤ input.healthMs.toNat then
        some input.healthMs.toNat
      else none := by
  have recent : input.healthMs - flight.lastHealthCheckMs < healthCheckIntervalMs ↔
      ¬flight.lastHealthCheckMs.toNat + healthCheckIntervalMs.toNat ≤ input.healthMs.toNat := by
    rw [UInt64.lt_iff_toNat_lt,
      UInt64.toNat_sub_of_le _ _ (UInt64.le_iff_toNat_le.mpr inOrder)]
    omega
  unfold healthCheckTime
  simp only [recent, ite_not]

omit [CLayout FaultRecord] [CLayout EpsRecord] [CLayout MissionRecord] in
/-- The watchdog enters a fault exactly when its timeout has passed. -/
theorem watchdogTime_due {flight : Flight} {input : LoopInput}
    (inOrder : flight.lastWatchdogResetMs.toNat ≤ input.updateMs.toNat) :
    watchdogTime flight input =
      if flight.lastWatchdogResetMs.toNat + smartQsoWatchdogTimeoutMs.toNat <
          input.updateMs.toNat then
        some input.updateMs.toNat
      else none := by
  have expired : input.updateMs - flight.lastWatchdogResetMs > smartQsoWatchdogTimeoutMs ↔
      flight.lastWatchdogResetMs.toNat + smartQsoWatchdogTimeoutMs.toNat <
        input.updateMs.toNat := by
    rw [gt_iff_lt, UInt64.lt_iff_toNat_lt,
      UInt64.toNat_sub_of_le _ _ (UInt64.le_iff_toNat_le.mpr inOrder)]
    omega
  unfold watchdogTime
  simp only [expired]

variable {intervalMs : UInt32} {clocked : Clocked} {input : LoopInput}

/-- What an iteration does to the marks, in terms of the clock it reads. -/
theorem clockedStep_marks (inTime : clocked.InTime intervalMs)
    (inOrder : clocked.InOrder input) :
    (∀ time, telemetryTime clocked.flight input = some time →
      clocked.flight.lastTelemetryMs.toNat + intervalMs.toNat ≤ time ∧
        time = input.loopMs.toNat) ∧
    (healthCheckTime clocked.flight input =
      if clocked.flight.lastHealthCheckMs.toNat + healthCheckIntervalMs.toNat ≤
          input.healthMs.toNat then
        some input.healthMs.toNat
      else none) ∧
    (watchdogTime clocked.flight input =
      if clocked.flight.lastWatchdogResetMs.toNat + smartQsoWatchdogTimeoutMs.toNat <
          input.updateMs.toNat then
        some input.updateMs.toNat
      else none) := by
  obtain ⟨begins, goesOn, ends⟩ := inOrder.readings
  obtain ⟨interval, telemetry, checked, reset, watchdog⟩ := inTime
  refine ⟨fun time sent => ?_, ?_, ?_⟩
  · rw [← interval]
    exact telemetryTime_due (by omega) sent
  · exact healthCheckTime_due (by omega)
  · exact watchdogTime_due (by omega)

/-- An iteration that reads the clock in order leaves the marks in time. -/
theorem clockedStep_inTime (inTime : clocked.InTime intervalMs) (inOrder : clocked.InOrder input) :
    (clockedStep clocked input).InTime intervalMs := by
  obtain ⟨begins, goesOn, ends⟩ := inOrder.readings
  obtain ⟨sends, checks, faults⟩ := clockedStep_marks inTime inOrder
  obtain ⟨interval, telemetry, checked, reset, watchdog⟩ := inTime
  refine ⟨?_, ?_, ?_, ?_, ?_⟩
  · exact (updateAndMonitor_telemetry clocked.flight input).2.trans interval
  all_goals unfold clockedStep; dsimp only
  · rw [mainLoopIteration_lastTelemetryMs]
    cases sent : telemetryTime clocked.flight input with
    | none =>
      rw [Option.getD_none]
      omega
    | some time =>
      have read := (sends time sent).2
      rw [Option.getD_some]
      omega
  · rw [mainLoopIteration_lastHealthCheckMs, checks]
    split <;> simp only [Option.getD_some, Option.getD_none] <;> omega
  · rw [mainLoopIteration_lastHealthCheckMs, mainLoopIteration_lastWatchdogResetMs, checks, faults]
    split <;> split <;> simp only [Option.getD_some, Option.getD_none] <;> omega
  · rw [mainLoopIteration_lastWatchdogResetMs, checks, faults]
    split <;> split <;> simp only [Option.getD_some, Option.getD_none] <;> omega

/-- Telemetry is paced by the telemetry interval. -/
theorem telemetry_paced (inTime : clocked.InTime intervalMs) (inOrder : clocked.InOrder input) :
    Paced clockedStep (fun clocked => telemetryTime clocked.flight)
      (fun clocked => clocked.flight.lastTelemetryMs.toNat) intervalMs.toNat clocked input := by
  have sends := (clockedStep_marks inTime inOrder).1
  have moved := mainLoopIteration_lastTelemetryMs clocked.flight input
  exact .of_getD moved fun time sent => (sends time sent).1

/-- Health checks are paced by their interval. -/
theorem healthChecks_paced (inTime : clocked.InTime intervalMs) (inOrder : clocked.InOrder input) :
    Paced clockedStep (fun clocked => healthCheckTime clocked.flight)
      (fun clocked => clocked.flight.lastHealthCheckMs.toNat) healthCheckIntervalMs.toNat
      clocked input := by
  have checks := (clockedStep_marks inTime inOrder).2.1
  have moved := mainLoopIteration_lastHealthCheckMs clocked.flight input
  refine .of_getD moved fun time due => ?_
  rw [checks] at due
  split at due
  case isTrue passed =>
    cases due
    exact passed
  case isFalse => cases due

/-- Watchdog faults are paced by more than the watchdog timeout. -/
theorem watchdog_paced (inTime : clocked.InTime intervalMs) (inOrder : clocked.InOrder input) :
    Paced clockedStep (fun clocked => watchdogTime clocked.flight)
      (fun clocked => clocked.flight.lastWatchdogResetMs.toNat)
      (smartQsoWatchdogTimeoutMs.toNat + 1) clocked input := by
  obtain ⟨begins, goesOn, ends⟩ := inOrder.readings
  obtain ⟨_, checks, faults⟩ := clockedStep_marks inTime inOrder
  have watchdog := inTime.watchdog
  unfold Paced clockedStep
  dsimp only
  rw [mainLoopIteration_lastWatchdogResetMs, checks, faults]
  refine ⟨?_, fun time due => ?_⟩
  · split <;> split <;> simp only [Option.getD_some, Option.getD_none] <;> omega
  · split at due
    case isFalse => cases due
    case isTrue expired =>
      cases due
      refine ⟨expired, ?_⟩
      rw [if_pos expired]
      split <;> simp only [Option.getD_some, Option.getD_none] <;> omega

/-! ### Runs from a boot -/

/-- The flight software after a boot. -/
def bootClocked (disk : Disk) (boot : BootInput) : Clocked := ⟨initSystem disk boot, boot.nowMs⟩

theorem bootClocked_inTime (disk : Disk) (boot : BootInput) :
    (bootClocked disk boot).InTime boot.telemetryIntervalMs where
  interval := rfl
  telemetry := Nat.le_refl _
  checked := Nat.lt_add_of_pos_right (by decide)
  reset := Nat.le_refl _
  watchdog := Nat.le_refl _

/-- A clock that does not go back is read in order by every iteration. -/
theorem eachStep_inOrder {inputs : List LoopInput}
    (sorted : (clocked.clockMs :: inputs.flatMap LoopInput.times).Pairwise (· ≤ ·)) :
    EachStep clockedStep Clocked.InOrder clocked inputs :=
  @eachStep_of_sorted _ _ clockedStep _ _ Clocked.clockMs LoopInput.times (fun _ _ => rfl) _ _
    sorted

/-- Whatever an iteration does when the marks are in time, every iteration after a boot does. -/
theorem eachStep_inTime {ok : Clocked → LoopInput → Prop} (disk : Disk) {boot : BootInput}
    {inputs : List LoopInput}
    (sorted : (boot.nowMs :: inputs.flatMap LoopInput.times).Pairwise (· ≤ ·))
    (holds : ∀ (clocked : Clocked) (input : LoopInput),
      clocked.InTime boot.telemetryIntervalMs → clocked.InOrder input → ok clocked input) :
    EachStep clockedStep ok (bootClocked disk boot) inputs :=
  eachStep_of_allowed (fun _ _ => clockedStep_inTime) holds (bootClocked_inTime disk boot)
    (eachStep_inOrder sorted)

/-- The times of the paced actions of a run of the main loop. -/
theorem actions_apart {due : Flight → LoopInput → Option ℕ} (mark : Flight → ℕ) {period : ℕ}
    (disk : Disk) {boot : BootInput} {inputs : List LoopInput}
    (sorted : (boot.nowMs :: inputs.flatMap LoopInput.times).Pairwise (· ≤ ·))
    (paced : ∀ (clocked : Clocked) (input : LoopInput),
      clocked.InTime boot.telemetryIntervalMs → clocked.InOrder input →
        Paced clockedStep (fun clocked => due clocked.flight) (fun clocked => mark clocked.flight)
          period clocked input) :
    (mark (initSystem disk boot) ::
      actions mainLoopIteration due (initSystem disk boot) inputs).Pairwise
        fun earlier later => earlier + period ≤ later := by
  have apart := pairwise_actions (eachStep_inTime disk sorted paced)
  rw [actions_related mainLoopIteration Clocked.flight due fun _ _ => rfl] at apart
  exact apart

/-- In every run of the main loop from a boot, with a clock that does not go back, the telemetry is
sent at times at least its interval apart, the health is checked at times at least ten seconds
apart, and the watchdog enters its faults at times more than its timeout apart, each of them
counted from the boot on. -/
theorem mainLoop_paced (disk : Disk) (boot : BootInput) (inputs : List LoopInput)
    (sorted : (boot.nowMs :: inputs.flatMap LoopInput.times).Pairwise (· ≤ ·)) :
    ((boot.nowMs.toNat ::
      actions mainLoopIteration telemetryTime (initSystem disk boot) inputs).Pairwise
        fun earlier later => earlier + boot.telemetryIntervalMs.toNat ≤ later) ∧
    ((boot.nowMs.toNat ::
      actions mainLoopIteration healthCheckTime (initSystem disk boot) inputs).Pairwise
        fun earlier later => earlier + healthCheckIntervalMs.toNat ≤ later) ∧
    ((boot.nowMs.toNat ::
      actions mainLoopIteration watchdogTime (initSystem disk boot) inputs).Pairwise
        fun earlier later => earlier + smartQsoWatchdogTimeoutMs.toNat < later) := by
  refine ⟨?_, ?_, ?_⟩
  · exact actions_apart (·.lastTelemetryMs.toNat) disk sorted fun _ _ => telemetry_paced
  · exact actions_apart (·.lastHealthCheckMs.toNat) disk sorted fun _ _ => healthChecks_paced
  · exact actions_apart (·.lastWatchdogResetMs.toNat) disk sorted fun _ _ => watchdog_paced

end

/-- A boot at 500 ms without stored files, whose UART opens and sends telemetry every second. -/
def earlyBoot : BootInput := ⟨[], true, 1000, 500⟩

/-- An iteration that begins at `startMs` and reads the clock again after each millisecond. -/
def swiftIteration (startMs : UInt64) : LoopInput where
  updateMs := startMs
  loopMs := startMs + 1
  healthMs := startMs + 2
  uartOpens := true
  uartStays := true
  uartAnswers := true
  uartReopens := true
  values := fun _ => 0

/-- Two iterations, and one forty seconds later. -/
def stalledInputs : List LoopInput :=
  [swiftIteration 600, swiftIteration 11000, swiftIteration 51500]

theorem stalledInputs_sorted :
    (earlyBoot.nowMs :: stalledInputs.flatMap LoopInput.times).Pairwise (· ≤ ·) := by
  decide

theorem mainLoop_paced_stalled :
    letI := CLayout.blank EpsRecord
    letI := CLayout.blank FaultRecord
    letI := CLayout.blank MissionRecord
    let start := initSystem ⟨[], none, none⟩ earlyBoot
    ((earlyBoot.nowMs.toNat ::
      actions mainLoopIteration telemetryTime start stalledInputs).Pairwise
        fun earlier later => earlier + earlyBoot.telemetryIntervalMs.toNat ≤ later) ∧
    ((earlyBoot.nowMs.toNat ::
      actions mainLoopIteration healthCheckTime start stalledInputs).Pairwise
        fun earlier later => earlier + healthCheckIntervalMs.toNat ≤ later) ∧
    ((earlyBoot.nowMs.toNat ::
      actions mainLoopIteration watchdogTime start stalledInputs).Pairwise
        fun earlier later => earlier + smartQsoWatchdogTimeoutMs.toNat < later) := by
  let := CLayout.blank EpsRecord
  let := CLayout.blank FaultRecord
  let := CLayout.blank MissionRecord
  exact mainLoop_paced ⟨[], none, none⟩ earlyBoot stalledInputs stalledInputs_sorted

section

variable [CLayout FaultRecord] [CLayout EpsRecord] [CLayout MissionRecord]

end

end SmartQso
