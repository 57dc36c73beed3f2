/-
This file compares the telemetry of a beacon with the spacecraft it comes from. The
main loop, the accessors of the system state and the ground commands run in any
order; whatever state they reach, the beacon gives the same charge, the same voltage
and sunlight, and for the number of contacts the number of resets.
-/

import SmartQso.Beacon
import SmartQso.BeaconText
import SmartQso.CommandAuthority
import SmartQso.MainLoop
import SmartQso.SystemPersistence

namespace SmartQso

open Runs

/-! ### The EPS stays initialized -/

section

variable [CLayout EpsRecord]

theorem controlSwitch_initialized (switch : LoadSwitch) (eps : Eps) (enable : Bool)
    (now : UInt64) : (controlSwitch switch eps enable now).1.initialized = eps.initialized := by
  unfold controlSwitch
  split <;> rfl

variable [CLayout FaultRecord]

theorem epsControlPayload_initialized (eps : Eps) (enable : Bool) (soc : ℚ) (now : UInt64) :
    (epsControlPayload eps enable soc now).1.initialized = eps.initialized := by
  unfold epsControlPayload
  split
  · rfl
  · split <;> rfl

theorem enterPowerMode_initialized (mode : PowerMode) (eps : Eps) (soc : ℚ) (now : UInt64) :
    (enterPowerMode mode eps soc now).initialized = eps.initialized := by
  unfold enterPowerMode epsControlRadio epsControlAdcs epsControlBeacon
  show (controlSwitch .beacon _ true now).1.initialized = _
  rw [controlSwitch_initialized, controlSwitch_initialized, controlSwitch_initialized,
    epsControlPayload_initialized]

theorem epsSetPowerMode_initialized (eps : Eps) (mode : UInt32) (soc : ℚ) (now : UInt64) :
    (epsSetPowerMode eps mode soc now).1.initialized = eps.initialized := by
  unfold epsSetPowerMode
  split
  · rfl
  · dsimp only
    split
    · rfl
    · exact enterPowerMode_initialized _ (storeMode eps mode now) soc now

theorem faultRecoverThermal_initialized (eps : Eps) (soc : ℚ) (now : UInt64) :
    (faultRecoverThermal eps soc now).initialized = eps.initialized := by
  unfold faultRecoverThermal
  split
  · dsimp only
    rw [epsSetPowerMode_initialized, epsControlPayload_initialized]
    rfl
  · rfl

theorem faultRecoverPower_initialized (eps : Eps) (soc : ℚ) (now : UInt64) :
    (faultRecoverPower eps soc now).initialized = eps.initialized := by
  unfold faultRecoverPower
  split
  · exact epsSetPowerMode_initialized _ _ soc now
  · split
    · exact epsSetPowerMode_initialized _ _ soc now
    · rfl

theorem managePower_initialized (eps : Eps) (sunlit : Bool) (soc : ℚ) (now : UInt64) :
    (managePower eps sunlit soc now).initialized = eps.initialized := by
  unfold managePower
  dsimp only
  split_ifs
  all_goals first | rfl | exact epsSetPowerMode_initialized eps _ soc now

omit [CLayout EpsRecord] in
theorem manageWatchdog_initialized (eps : Eps) (lastWatchdogResetMs : UInt64) (soc : ℚ)
    (now : UInt64) :
    (manageWatchdog eps lastWatchdogResetMs soc now).1.initialized = eps.initialized := by
  unfold manageWatchdog
  split <;> rfl

theorem recoverFromSafe_initialized (eps : Eps) (currentMode : UInt8) (tick : UInt64) (soc : ℚ)
    (now : UInt64) :
    (recoverFromSafe eps currentMode tick soc now).initialized = eps.initialized := by
  unfold recoverFromSafe
  split
  · split
    · exact epsSetPowerMode_initialized eps _ soc now
    · rfl
  · rfl

theorem checkSensor_initialized (eps : Eps) (soc : ℚ) (now : UInt64) (sensor : Sensor) :
    (checkSensor eps soc now sensor).initialized = eps.initialized := by
  unfold checkSensor
  split
  · exact faultRecoverThermal_initialized _ soc now
  · rfl

theorem checkPower_initialized (eps : Eps) (soc : ℚ) (now : UInt64) :
    (checkPower eps soc now).initialized = eps.initialized := by
  unfold checkPower
  split
  · exact faultRecoverPower_initialized _ soc now
  · rfl

theorem readSensor_initialized (sensor : Sensor) (bank : Sensors) (eps : Eps) (now : UInt64) :
    (readSensor sensor bank eps now).initialized = eps.initialized := by
  unfold readSensor
  cases sensor.sensorType with
  | softwareTimer | statusHex2 => rfl
  | epsVoltage =>
    dsimp only [readEpsVoltage]
    split_ifs <;> rfl
  | epsCurrent =>
    dsimp only [readEpsCurrent]
    split_ifs <;> rfl
  | epsTemperature =>
    dsimp only
    unfold readEpsTemperature
    extract_lets base
    split
    · exact faultRecoverThermal_initialized _ bank.soc now
    · split <;> rfl

theorem pollFrom_initialized (bank : Sensors) (currentMs : UInt64) (values : Nat → ℚ) :
    ∀ (sensors : List Sensor) (index : Nat) (eps : Eps),
      (pollFrom bank currentMs values index eps sensors).1.initialized = eps.initialized
  | [], _, _ => rfl
  | sensor :: rest, index, eps => by
    refine (pollFrom_initialized bank currentMs values rest (index + 1) _).trans ?_
    unfold pollSensor
    split
    · exact readSensor_initialized sensor bank eps currentMs
    · rfl

variable [CLayout MissionRecord]

/-- The EPS and the mission data have been initialized. -/
structure Flight.Started (flight : Flight) : Prop where
  eps : flight.eps.initialized = true
  mission : flight.mission.initialized = true

theorem launch_started (faults : FaultMgmt) (sensors : List Sensor)
    (missionFile : Option (Sealed MissionRecord)) (uartOpens : Bool)
    (telemetryIntervalMs : UInt32) (soc : ℚ) (now : UInt64) :
    (Flight.launch faults sensors missionFile uartOpens telemetryIntervalMs soc now).Started := by
  refine ⟨?_, rfl⟩
  cases uartOpens <;> rfl

theorem updateMissionState_started {flight : Flight} (started : flight.Started) (now : UInt64) :
    (updateMissionState flight now).Started := by
  constructor
  · refine Eq.trans ?_ started.eps
    show (recoverFromSafe _ _ _ _ _).initialized = _
    rw [recoverFromSafe_initialized, manageWatchdog_initialized, managePower_initialized]
  · refine Eq.trans ?_ started.mission
    unfold updateMissionState
    dsimp only
    split <;> rfl

omit [CLayout MissionRecord] in
theorem monitorSystemHealth_started {flight : Flight} (started : flight.Started)
    (uartOpens : Bool) (now : UInt64) : (monitorSystemHealth flight uartOpens now).Started := by
  unfold monitorSystemHealth
  split
  · exact started
  · refine ⟨?_, started.mission⟩
    have cooled : ∀ (eps : Eps) (sensor : Sensor), eps.initialized = true →
        (checkSensor eps flight.soc now sensor).initialized = true :=
      fun eps sensor held => (checkSensor_initialized eps flight.soc now sensor).trans held
    have powered := (checkPower_initialized _ flight.soc now).trans
      (@finalState_of_invariant _ _ (fun eps sensor => checkSensor eps flight.soc now sensor)
        (fun eps => eps.initialized = true) cooled _ started.eps flight.bank.sensors)
    dsimp only
    unfold checkCommunication
    split
    · exact powered
    · exact powered

theorem pollAndSave_started {flight : Flight} (started : flight.Started) (input : LoopInput) :
    (pollAndSave flight input).Started := by
  have checked : (sendAndCheck flight input).1.initialized = true := by
    unfold sendAndCheck uartCheckHealth
    dsimp only
    split
    · split
      · exact started.eps
      · split <;> exact started.eps
    · exact started.eps
  unfold pollAndSave sensorsPoll
  dsimp only
  constructor
  · have polled : (pollFrom flight.bank input.loopMs input.values 0 (sendAndCheck flight input).1
        flight.bank.sensors).1.initialized = true := by
      rw [pollFrom_initialized]
      exact checked
    split <;> exact polled
  · show MissionData.initialized (if _ then _ else _) = true
    split <;> exact started.mission

theorem mainLoopIteration_started {flight : Flight} (started : flight.Started)
    (input : LoopInput) : (mainLoopIteration flight input).Started :=
  pollAndSave_started (monitorSystemHealth_started (updateMissionState_started started _) _ _) input

end

/-! ### Runs of the spacecraft -/

/-- The main loop with the command handler and the statics of `system_state.c`. The fault log is
the one of the EPS. -/
structure FlightSystem (Handler : Type) where
  flight : Flight
  cmd : CmdHandler Handler
  sys : SystemState
  lastUptimeUpdate : UInt64

/-- What changes the spacecraft: an iteration of the main loop, an accessor of the system state
or an event of its state machine, or a ground command. -/
inductive FlightStep
  | iterate (input : LoopInput)
  | access (access : SysAccess) (now : UInt64)
  | command (call : CommandCall)

/-- Another module has written to the fault log. -/
def Flight.withFaults (flight : Flight) (faults : FaultMgmt) : Flight :=
  { flight with eps.faults := faults }

/-- The conversion of a `double` to `uint16_t`, for the values from 0 to 65535 where C defines
it. -/
def truncateToHalfword (value : ℚ) : UInt16 := value.floor.toNat.toUInt16

/-- The telemetry of a beacon tells the state of charge in percent and the battery voltage in
millivolts as `telemetry.c` converts them, the sunlight, and the number of contacts. -/
structure Reports {Handler : Type} (craft : FlightSystem Handler) (telemetry : BeaconTelemetry) :
    Prop where
  soc : telemetry.soc = truncateToByte (craft.sys.record.power.stateOfCharge * 100)
  batteryMv :
    telemetry.batteryMv = truncateToHalfword (craft.sys.record.power.batteryVoltage * 1000)
  sunlit : telemetry.sunlit = Bool.toByte craft.flight.sunlit
  qsoCount : telemetry.qsoCount = craft.sys.record.mission.qsoCount.toUInt16

section

variable {Handler : Type} [CLayout EpsRecord] [CLayout FaultRecord] [CLayout MissionRecord]

def flightStep (invoke : Invoke Handler) (craft : FlightSystem Handler) :
    FlightStep → FlightSystem Handler
  | .iterate input => { craft with flight := mainLoopIteration craft.flight input }
  | .access access now =>
    let reached := sysAccess ⟨craft.sys, craft.lastUptimeUpdate, craft.flight.eps.faults⟩
      (access, now)
    { craft with
      flight := craft.flight.withFaults reached.faults
      sys := reached.state
      lastUptimeUpdate := reached.lastUptimeUpdate }
  | .command call =>
    let reached := commandCall invoke ⟨craft.cmd, craft.sys, craft.flight.eps.faults⟩ call
    { craft with
      flight := craft.flight.withFaults reached.faults
      cmd := reached.cmd
      sys := reached.sys }

/-- The spacecraft after `init_system` and the initializations of the other modules. -/
def FlightSystem.launch [CLayout SystemRecord] (flight : Flight) (now : UInt64) :
    FlightSystem Handler :=
  ⟨flight, cmdHandlerInit, sysStateInit now, 0⟩

theorem flightStep_started (invoke : Invoke Handler) {craft : FlightSystem Handler}
    (started : craft.flight.Started) (step : FlightStep) :
    (flightStep invoke craft step).flight.Started := by
  cases step with
  | iterate input => exact mainLoopIteration_started started input
  | access access now => exact ⟨started.eps, started.mission⟩
  | command call => exact ⟨started.eps, started.mission⟩

omit [CLayout EpsRecord] [CLayout FaultRecord] [CLayout MissionRecord] in
/-- What the telemetry of a running spacecraft says. -/
theorem reports_iff {craft : FlightSystem Handler} (started : craft.flight.Started)
    (now : UInt64) :
    Reports craft (beaconTelemetry craft.flight.eps craft.flight.mission now) ↔
      truncateToByte (craft.sys.record.power.stateOfCharge * 100) = 75 ∧
        truncateToHalfword (craft.sys.record.power.batteryVoltage * 1000) = 7400 ∧
        craft.flight.sunlit = true ∧
        craft.sys.record.mission.qsoCount.toUInt16 =
          craft.flight.mission.data.record.resetCount.toUInt16 := by
  obtain ⟨_, _, soc, batteryMv, sunlit, _, qsoCount⟩ :=
    beaconTelemetry_printed craft.flight.eps craft.flight.mission now
  rw [if_pos started.eps] at soc batteryMv sunlit
  rw [if_pos started.mission] at qsoCount
  constructor
  · rintro ⟨percent, millivolts, light, contacts⟩
    have lit : Bool.toByte craft.flight.sunlit = 1 := light.symm.trans sunlit
    refine ⟨percent.symm.trans soc, millivolts.symm.trans batteryMv, ?_,
      contacts.symm.trans qsoCount⟩
    cases dark : craft.flight.sunlit with
    | true => rfl
    | false =>
      rw [dark] at lit
      exact absurd lit (by decide)
  · rintro ⟨percent, millivolts, light, contacts⟩
    exact ⟨soc.trans percent.symm, batteryMv.trans millivolts.symm,
      sunlit.trans (congrArg Bool.toByte light).symm, qsoCount.trans contacts.symm⟩

/-- In every state that the spacecraft reaches from its start, a beacon reports the state exactly
when the battery is at 75 percent and at 7400 millivolts in sunlight, and there have been as many
contacts as resets. -/
theorem beacon_reports_iff [CLayout SystemRecord] (invoke : Invoke Handler) (faults : FaultMgmt)
    (sensors : List Sensor) (missionFile : Option (Sealed MissionRecord)) (uartOpens : Bool)
    (telemetryIntervalMs : UInt32) (soc : ℚ) (bootMs : UInt64) (steps : List FlightStep)
    (beacon : Beacon) (aiText : Option (List UInt8)) (now : UInt64) :
    let start := Flight.launch faults sensors missionFile uartOpens telemetryIntervalMs soc bootMs
    let craft := finalState (flightStep invoke) (FlightSystem.launch start bootMs) steps
    let content := (beaconGenerateContent beacon aiText craft.flight.eps craft.flight.mission now).2
    Reports craft content.telemetry ↔
      truncateToByte (craft.sys.record.power.stateOfCharge * 100) = 75 ∧
        truncateToHalfword (craft.sys.record.power.batteryVoltage * 1000) = 7400 ∧
        craft.flight.sunlit = true ∧
        craft.sys.record.mission.qsoCount.toUInt16 =
          craft.flight.mission.data.record.resetCount.toUInt16 := by
  intro start craft content
  have preserved : ∀ (craft : FlightSystem Handler) (step : FlightStep), craft.flight.Started →
      (flightStep invoke craft step).flight.Started :=
    fun craft step started => flightStep_started invoke started step
  have started : craft.flight.Started :=
    @finalState_of_invariant _ _ (flightStep invoke) (fun craft => craft.flight.Started)
      preserved _ (launch_started faults sensors missionFile uartOpens telemetryIntervalMs soc
        bootMs) steps
  exact reports_iff started now

end

/-- At a fifth and at nine tenths of its charge, with no contact and with one, the spacecraft sends
the same telemetry. -/
theorem same_beacon_for_different_charge :
    letI := CLayout.blank EpsRecord
    letI := CLayout.blank FaultRecord
    letI := CLayout.blank MissionRecord
    letI := CLayout.blank SystemRecord
    let start : FlightSystem Empty :=
      FlightSystem.launch (Flight.launch FaultMgmt.boot [] none true 1000 (1 / 2) 0) 0
    let low := finalState (flightStep noHandler) start [.access (.setStateOfCharge (1 / 5)) 1]
    let high := finalState (flightStep noHandler) start
      [.access (.setStateOfCharge (9 / 10)) 1, .access .incrementQsoCount 1]
    let lowTelemetry := (beaconGenerateContent beaconInit none low.flight.eps low.flight.mission
      2000).2.telemetry
    let highTelemetry := (beaconGenerateContent beaconInit none high.flight.eps
      high.flight.mission 2000).2.telemetry
    low.sys.record.power.stateOfCharge = 1 / 5 ∧ high.sys.record.power.stateOfCharge = 9 / 10 ∧
      high.sys.record.mission.qsoCount = 1 ∧ lowTelemetry = highTelemetry ∧
      lowTelemetry.soc = 75 ∧ ¬ Reports low lowTelemetry := by
  intro start low high lowTelemetry highTelemetry
  have charge : low.sys.record.power.stateOfCharge = 1 / 5 := by decide +kernel
  have told : lowTelemetry.soc = 75 := by decide +kernel
  refine ⟨charge, by decide +kernel, by decide +kernel, by decide +kernel, told, fun reports => ?_⟩
  have percent := reports.soc
  rw [told, charge] at percent
  exact absurd percent (by decide +kernel)

end SmartQso
