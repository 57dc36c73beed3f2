/-
This file models the life of the flight software over its sessions: `init_system` over
the files earlier sessions left, `shutdown_system`, and runs in which boots, iterations
of the main loop and shutdowns follow each other. Power can fail between any two
iterations, so a boot can follow anything. The clock stands still within `init_system`.
-/

import SmartQso.MainLoop
import SmartQso.Runs

namespace SmartQso

open Runs

/-! ### Files -/

/-- The files that outlast a session: the snapshots written to `EPS_CONFIG_FILE` with the newest
first, `MISSION_DATA_FILE` and `FAULT_LOG_FILE`. -/
structure Disk where
  epsConfig : List (Sealed EpsRecord)
  missionData : Option (Sealed MissionRecord)
  faultLog : Option (List FaultLogEntry)

/-- What a session leaves when its power fails. -/
def Flight.disk (flight : Flight) : Disk where
  epsConfig := flight.eps.written
  missionData := flight.mission.file
  faultLog := flight.eps.faults.file

/-- What the outside answers during `init_system`: the sensors that the configuration, or else the
defaults, give, whether the UART opens, the interval its environment sets, and the clock. -/
structure BootInput where
  sensors : List Sensor
  uartOpens : Bool
  telemetryIntervalMs : UInt32
  nowMs : UInt64

/-- What `s_soc` is initialized with. -/
def startSoc : ℚ := 3 / 4

section

variable [CLayout EpsRecord] [CLayout FaultRecord] [CLayout MissionRecord]

/-- The fault that `init_system` enters when the UART does not open. -/
def logUartInit (eps : Eps) (input : BootInput) : Eps :=
  if input.uartOpens then eps
  else eps.logFault .init .warning "UART initialization failed" startSoc input.nowMs

/-- `init_system`. -/
def initSystem (disk : Disk) (input : BootInput) : Flight :=
  let faults := faultMgmtInit (FaultMgmt.unloaded disk.faultLog)
  let mission := missionDataInit (MissionData.boot disk.missionData) input.nowMs
  let eps := epsInit (Eps.boot disk.epsConfig faults) input.nowMs
  { eps := logUartInit eps input
    bank := ⟨input.sensors, true, startSoc⟩
    mission := mission
    uartInitialized := input.uartOpens
    programStartMs := input.nowMs
    lastTelemetryMs := input.nowMs
    lastHealthCheckMs := input.nowMs
    lastWatchdogResetMs := input.nowMs
    sunlit := true
    soc := startSoc
    telemetryIntervalMs := input.telemetryIntervalMs
    tick := 0 }

/-- `shutdown_system`. -/
def shutdownSystem (flight : Flight) : Flight :=
  let saved := epsSaveConfig flight.eps
  { flight with
    mission := missionDataSave flight.mission
    eps := { saved with faults := faultLogSave saved.faults }
    uartInitialized := false }

/-- A boot without an EPS configuration is a launch over the fault log that was loaded. -/
theorem initSystem_eq_launch (disk : Disk) (input : BootInput) (fresh : disk.epsConfig = []) :
    initSystem disk input =
      Flight.launch (faultMgmtInit (FaultMgmt.unloaded disk.faultLog)) input.sensors
        disk.missionData input.uartOpens input.telemetryIntervalMs startSoc input.nowMs := by
  unfold initSystem
  rw [fresh]
  rfl

/-! ### Sessions -/

/-- The statics and the files, and whether `main` has not returned. -/
structure Craft where
  flight : Flight
  running : Bool

/-- What happens to the flight software. -/
inductive CraftEvent
  | boot (input : BootInput)
  | iterate (input : LoopInput)
  | shutdown

/-- A boot, whatever was before it. -/
def bootCraft (disk : Disk) (input : BootInput) : Craft := ⟨initSystem disk input, true⟩

/-- An event. After a shutdown nothing happens until the next boot. -/
def craftStep (craft : Craft) : CraftEvent → Craft
  | .boot input => bootCraft craft.flight.disk input
  | .iterate input =>
    if craft.running then { craft with flight := mainLoopIteration craft.flight input } else craft
  | .shutdown => if craft.running then ⟨shutdownSystem craft.flight, false⟩ else craft

end

/-! ### Calls of the EPS in an iteration -/

section

variable [CLayout EpsRecord] [CLayout FaultRecord]

/-- What every call an iteration makes to the EPS and the fault log keeps. -/
structure KeptByCalls (good : Eps → Prop) : Prop where
  logs : ∀ (eps : Eps) (faultType : FaultType) (severity : FaultSeverity) (description : String)
    (soc : ℚ) (now : UInt64), good eps → good (eps.logFault faultType severity description soc now)
  watchdog : ∀ (eps : Eps) (soc : ℚ) (now : UInt64), good eps →
    good { eps with faults := faultHandleWatchdog eps.faults soc now }
  unloads : ∀ (eps : Eps) (soc : ℚ) (now : UInt64), good eps →
    good (epsControlPayload eps false soc now).1
  changes : ∀ (eps : Eps) (mode : PowerMode) (soc : ℚ) (now : UInt64), good eps →
    good (epsSetPowerMode eps mode.value soc now).1
  saves : ∀ eps : Eps, good eps → good (epsSaveConfig eps)

variable {good : Eps → Prop}

theorem managePower_kept (kept : KeptByCalls good) {eps : Eps} (initial : good eps) (sunlit : Bool)
    (soc : ℚ) (now : UInt64) : good (managePower eps sunlit soc now) := by
  unfold managePower
  dsimp only
  split
  · split
    · exact kept.changes eps .safe soc now initial
    · exact initial
  split
  · split
    · exact kept.changes eps .idle soc now initial
    · exact initial
  split
  · exact kept.changes eps .active soc now initial
  · exact initial

theorem manageWatchdog_kept (kept : KeptByCalls good) {eps : Eps} (initial : good eps)
    (lastResetMs : UInt64) (soc : ℚ) (now : UInt64) :
    good (manageWatchdog eps lastResetMs soc now).1 := by
  unfold manageWatchdog
  split
  · exact kept.watchdog eps soc now initial
  · exact initial

theorem recoverFromSafe_kept (kept : KeptByCalls good) {eps : Eps} (initial : good eps)
    (currentMode : UInt8) (tick : UInt64) (soc : ℚ) (now : UInt64) :
    good (recoverFromSafe eps currentMode tick soc now) := by
  unfold recoverFromSafe
  split
  · split
    · exact kept.logs _ _ _ _ _ _ (kept.changes eps .idle soc now initial)
    · exact initial
  · exact initial

theorem faultRecoverThermal_kept (kept : KeptByCalls good) {eps : Eps} (initial : good eps)
    (soc : ℚ) (now : UInt64) : good (faultRecoverThermal eps soc now) := by
  unfold faultRecoverThermal
  split
  · exact kept.changes _ .idle soc now
      (kept.unloads _ soc now (kept.logs eps _ _ _ soc now initial))
  · exact initial

theorem faultRecoverPower_kept (kept : KeptByCalls good) {eps : Eps} (initial : good eps)
    (soc : ℚ) (now : UInt64) : good (faultRecoverPower eps soc now) := by
  unfold faultRecoverPower
  split
  · exact kept.changes _ .safe soc now (kept.logs eps _ _ _ soc now initial)
  split
  · exact kept.changes _ .idle soc now (kept.logs eps _ _ _ soc now initial)
  · exact initial

theorem checkSensor_kept (kept : KeptByCalls good) {eps : Eps} (initial : good eps) (soc : ℚ)
    (now : UInt64) (sensor : Sensor) : good (checkSensor eps soc now sensor) := by
  unfold checkSensor
  split
  · exact faultRecoverThermal_kept kept (kept.logs eps _ _ _ soc now initial) soc now
  · exact initial

theorem checkPower_kept (kept : KeptByCalls good) {eps : Eps} (initial : good eps) (soc : ℚ)
    (now : UInt64) : good (checkPower eps soc now) := by
  unfold checkPower
  split
  · exact faultRecoverPower_kept kept (kept.logs eps _ _ _ soc now initial) soc now
  · exact initial

theorem checkCommunication_kept (kept : KeptByCalls good) {eps : Eps} (initial : good eps)
    (uartInitialized uartOpens : Bool) (soc : ℚ) (now : UInt64) :
    good (checkCommunication eps uartInitialized uartOpens soc now).1 := by
  unfold checkCommunication
  split
  · exact kept.logs eps _ _ _ soc now initial
  · exact initial

theorem uartCheckHealth_kept (kept : KeptByCalls good) {eps : Eps} (initial : good eps)
    (uartInitialized uartAnswers uartReopens : Bool) (now : UInt64) :
    good (uartCheckHealth eps uartInitialized uartAnswers uartReopens now).1 := by
  unfold uartCheckHealth
  split
  · exact initial
  split
  · exact initial
  · exact kept.logs eps _ _ _ 0 now initial

theorem readSensor_kept (kept : KeptByCalls good) {eps : Eps} (initial : good eps)
    (sensor : Sensor) (bank : Sensors) (now : UInt64) :
    good (readSensor sensor bank eps now) := by
  unfold readSensor
  cases sensor.sensorType with
  | softwareTimer => exact initial
  | epsVoltage =>
    dsimp only [readEpsVoltage]
    repeat' split
    all_goals first | exact initial | exact kept.logs eps _ _ _ _ now initial
  | epsCurrent =>
    dsimp only [readEpsCurrent]
    repeat' split
    all_goals first | exact initial | exact kept.logs eps _ _ _ _ now initial
  | epsTemperature =>
    show good (readEpsTemperature bank eps now)
    unfold readEpsTemperature
    extract_lets base
    split
    · exact faultRecoverThermal_kept kept (kept.logs eps _ _ _ _ now initial) bank.soc now
    · split
      · exact kept.logs eps _ _ _ _ now initial
      · exact initial
  | statusHex2 => exact initial

theorem pollFrom_kept (kept : KeptByCalls good) (bank : Sensors) (currentMs : UInt64)
    (values : Nat → ℚ) (sensors : List Sensor) (index : Nat) {eps : Eps} (initial : good eps) :
    good (pollFrom bank currentMs values index eps sensors).1 := by
  induction sensors generalizing index eps with
  | nil => exact initial
  | cons sensor rest inductionHypothesis =>
    refine inductionHypothesis (index + 1) ?_
    unfold pollSensor
    split
    · exact readSensor_kept kept initial sensor bank currentMs
    · exact initial

theorem updateMissionState_kept [CLayout MissionRecord] (kept : KeptByCalls good) {flight : Flight}
    (initial : good flight.eps) (now : UInt64) : good (updateMissionState flight now).eps :=
  recoverFromSafe_kept kept (manageWatchdog_kept kept (managePower_kept kept initial _ _ now) _ _
    now) _ _ _ now

theorem monitorSystemHealth_kept (kept : KeptByCalls good) {flight : Flight}
    (initial : good flight.eps) (uartOpens : Bool) (now : UInt64) :
    good (monitorSystemHealth flight uartOpens now).eps := by
  unfold monitorSystemHealth
  split
  · exact initial
  · refine checkCommunication_kept kept (checkPower_kept kept ?_ _ now) _ _ _ now
    have each : ∀ (eps : Eps) (sensor : Sensor), good eps →
        good (checkSensor eps flight.soc now sensor) :=
      fun eps sensor held => checkSensor_kept kept held flight.soc now sensor
    exact finalState_of_invariant each initial flight.bank.sensors

/-- The EPS before an iteration decides whether to save. -/
theorem polled_kept [CLayout MissionRecord] (kept : KeptByCalls good) {flight : Flight}
    (initial : good flight.eps) (input : LoopInput) : good (pollAndSave flight input).eps := by
  have checked : good (sendAndCheck flight input).1 := by
    unfold sendAndCheck
    dsimp only
    split
    · exact uartCheckHealth_kept kept initial _ _ _ _
    · exact initial
  have polled := pollFrom_kept kept flight.bank input.loopMs input.values flight.bank.sensors 0
    checked
  unfold pollAndSave
  dsimp only
  split
  · exact kept.saves _ polled
  · exact polled

/-- An iteration keeps what all its calls keep. -/
theorem mainLoopIteration_kept [CLayout MissionRecord] (kept : KeptByCalls good) {flight : Flight}
    (initial : good flight.eps) (input : LoopInput) : good (mainLoopIteration flight input).eps :=
  polled_kept kept (monitorSystemHealth_kept kept (updateMissionState_kept kept initial
    input.updateMs) input.uartOpens input.healthMs) input

end

end SmartQso
