/-
This file models the main loop of `main.c`: the orbital simulation with its
threshold logic, the health check with its recovery actions, and the polling and
saving that follow them in an iteration. The readings of the clock on which the loop
acts are inputs, and so are the answers of the UART driver, where a send that fails may
close the port. What reads the clock anew has the reading before it (the stamps of the
faults and of the EPS), or is left out with what is sent (the header of the telemetry).
The state of charge is an exact rational.
-/

import SmartQso.MissionData
import SmartQso.Sensors

namespace SmartQso

/-! ### Constants of `main.c` -/

/-- `HEALTH_CHECK_INTERVAL_MS`. -/
def healthCheckIntervalMs : UInt64 := 10000

/-- `PERSISTENCE_INTERVAL_TICKS`. -/
def persistenceIntervalTicks : UInt64 := 100

/-! ### State -/

/-- The statics of `main.c` and of the modules its loop works on. -/
structure Flight where
  eps : Eps
  bank : Sensors
  mission : MissionData
  uartInitialized : Bool
  programStartMs : UInt64
  lastTelemetryMs : UInt64
  lastHealthCheckMs : UInt64
  lastWatchdogResetMs : UInt64
  sunlit : Bool
  soc : ℚ
  telemetryIntervalMs : UInt32
  tick : UInt64

/-- What the outside answers during one iteration: the readings of the clock in
`update_mission_state`, in the loop behind it and in the health check, in this order; whether the
UART opens in the health check, whether it stays open when telemetry is sent, whether its attributes
can be read afterwards, and whether it then opens again; and the values the sensors return when they
are polled. -/
structure LoopInput where
  updateMs : UInt64
  loopMs : UInt64
  healthMs : UInt64
  uartOpens : Bool
  uartStays : Bool
  uartAnswers : Bool
  uartReopens : Bool
  values : Nat → ℚ

/-- The state `init_system` leaves, over what earlier sessions left: no EPS configuration, any
sensors, any mission data and any faults. The state of charge is the one at boot. -/
def Flight.launch [CLayout EpsRecord] [CLayout FaultRecord] [CLayout MissionRecord]
    (faults : FaultMgmt) (sensors : List Sensor) (missionFile : Option (Sealed MissionRecord))
    (uartOpens : Bool) (telemetryIntervalMs : UInt32) (soc : ℚ) (now : UInt64) : Flight where
  eps :=
    let eps := epsInit (Eps.boot [] faults) now
    if uartOpens then eps
    else eps.logFault .init .warning "UART initialization failed" soc now
  bank := ⟨sensors, true, 3 / 4⟩
  mission := missionDataInit (MissionData.boot missionFile) now
  uartInitialized := uartOpens
  programStartMs := now
  lastTelemetryMs := now
  lastHealthCheckMs := now
  lastWatchdogResetMs := now
  sunlit := true
  soc := soc
  telemetryIntervalMs := telemetryIntervalMs
  tick := 0

/-! ### The parts of `update_mission_state` -/

/-- The discharge per tick, by the payload switch. -/
def discharge (payloadEnabled : Bool) : ℚ := if payloadEnabled then 40 / 10000 else 10 / 10000

/-- The SOC integration and its clamp. -/
def integrateSoc (sunlit payloadEnabled : Bool) (soc : ℚ) : ℚ :=
  let charge : ℚ := 20 / 10000
  let integrated := if sunlit then soc + charge else soc - discharge payloadEnabled
  let capped := if 1 < integrated then 1 else integrated
  if capped < 0 then 0 else capped

section

variable [CLayout EpsRecord] [CLayout FaultRecord]

/-- The power management of `update_mission_state`. -/
def managePower (eps : Eps) (sunlit : Bool) (soc : ℚ) (now : UInt64) : Eps :=
  let currentMode := epsGetPowerMode eps
  if soc < epsSocSafeThreshold then
    if currentMode ≠ PowerMode.safe.code then
      (epsSetPowerMode eps PowerMode.safe.value soc now).1
    else eps
  else if soc < epsSocIdleThreshold then
    if currentMode > PowerMode.idle.code then
      (epsSetPowerMode eps PowerMode.idle.value soc now).1
    else eps
  else if sunlit = true ∧ epsSocPayloadThreshold < soc ∧ currentMode < PowerMode.active.code then
    (epsSetPowerMode eps PowerMode.active.value soc now).1
  else eps

/-- The periodic recovery of `update_mission_state`. It looks at the mode as it was before the
power management. -/
def recoverFromSafe (eps : Eps) (currentMode : UInt8) (tick : UInt64) (soc : ℚ)
    (now : UInt64) : Eps :=
  if tick % 50 = 0 then
    if currentMode = PowerMode.safe.code ∧ epsSocIdleThreshold < soc then
      let recovered := (epsSetPowerMode eps PowerMode.idle.value soc now).1
      recovered.logFault .recovery .info "Recovered from SAFE mode" soc now
    else eps
  else eps

/-- The watchdog management of `update_mission_state`: the fault log and the reset time. -/
def manageWatchdog (eps : Eps) (lastWatchdogResetMs : UInt64) (soc : ℚ) (now : UInt64) :
    Eps × UInt64 :=
  if now - lastWatchdogResetMs > smartQsoWatchdogTimeoutMs then
    ({ eps with faults := faultHandleWatchdog eps.faults soc now }, now)
  else (eps, lastWatchdogResetMs)

/-- `update_mission_state`. -/
def updateMissionState [CLayout MissionRecord] (flight : Flight) (now : UInt64) : Flight :=
  let sunlit := decide (flight.tick % 180 < 100)
  let bank := sensorsSetEnvironment flight.bank sunlit flight.soc
  let drain := discharge (epsIsPayloadEnabled flight.eps)
  let soc := integrateSoc sunlit (epsIsPayloadEnabled flight.eps) flight.soc
  let currentMode := epsGetPowerMode flight.eps
  let managed := managePower flight.eps sunlit soc now
  let watched := manageWatchdog managed flight.lastWatchdogResetMs soc now
  let recovered := recoverFromSafe watched.1 currentMode flight.tick soc now
  let mission := missionDataUpdateUptime flight.mission (now - flight.programStartMs)
  { flight with
    sunlit := sunlit
    bank := bank
    soc := soc
    eps := recovered
    lastWatchdogResetMs := watched.2
    mission :=
      if sunlit && epsIsPayloadEnabled recovered then
        missionDataAddEnergy mission (drain * (37 / 10) / 3600)
      else mission }

/-! ### The parts of `monitor_system_health` -/

/-- One round of the thermal check. -/
def checkSensor (eps : Eps) (soc : ℚ) (now : UInt64) (sensor : Sensor) : Eps :=
  if sensor.sensorType = .epsTemperature ∧ 40 < sensor.lastValue then
    let logged := eps.logFault .healthThermal .warning "High temperature in health check" soc now
    faultRecoverThermal logged soc now
  else eps

/-- The power check. -/
def checkPower (eps : Eps) (soc : ℚ) (now : UInt64) : Eps :=
  if soc < 30 / 100 then
    let logged := eps.logFault .healthPower .warning "Low SOC in health check" soc now
    faultRecoverPower logged soc now
  else eps

/-- The communication check: the fault log and whether the UART is initialized. -/
def checkCommunication (eps : Eps) (uartInitialized uartOpens : Bool) (soc : ℚ) (now : UInt64) :
    Eps × Bool :=
  if epsIsPayloadEnabled eps && !uartInitialized then
    (eps.logFault .healthComm .warning "UART communication lost with payload" soc now, uartOpens)
  else (eps, uartInitialized)

/-- `monitor_system_health`. -/
def monitorSystemHealth (flight : Flight) (uartOpens : Bool) (now : UInt64) : Flight :=
  if now - flight.lastHealthCheckMs < healthCheckIntervalMs then flight
  else
    let cooled := flight.bank.sensors.foldl
      (fun eps sensor => checkSensor eps flight.soc now sensor) flight.eps
    let powered := checkPower cooled flight.soc now
    let linked := checkCommunication powered flight.uartInitialized uartOpens flight.soc now
    { flight with
      eps := linked.1
      uartInitialized := linked.2
      lastHealthCheckMs := now
      lastWatchdogResetMs := now }

/-! ### The loop -/

/-- `uart_check_health`, with the fault it enters when the attributes cannot be read. -/
def uartCheckHealth (eps : Eps) (uartInitialized uartAnswers uartReopens : Bool) (now : UInt64) :
    Eps × Bool :=
  if !uartInitialized then (eps, uartInitialized)
  else if uartAnswers then (eps, uartInitialized)
  else (eps.logFault .uart .warning "UART health check failed" 0 now, uartReopens)

variable [CLayout MissionRecord]

/-- An iteration of `run_main_loop` up to and including the health check. -/
def updateAndMonitor (flight : Flight) (input : LoopInput) : Flight :=
  monitorSystemHealth (updateMissionState flight input.updateMs) input.uartOpens input.healthMs

/-- The rest of the iteration has telemetry to send. -/
def telemetryDue (flight : Flight) (input : LoopInput) : Bool :=
  epsIsPayloadEnabled flight.eps && flight.uartInitialized &&
    decide (input.loopMs - flight.lastTelemetryMs ≥ flight.telemetryIntervalMs.toUInt64)

/-- The UART behind the telemetry. -/
def uartAfterTelemetry (flight : Flight) (input : LoopInput) : Bool :=
  if telemetryDue flight input then input.uartStays else flight.uartInitialized

/-- The EPS and the UART behind the telemetry and the UART check. -/
def sendAndCheck (flight : Flight) (input : LoopInput) : Eps × Bool :=
  let uartInitialized := uartAfterTelemetry flight input
  if uartInitialized && decide (input.loopMs % 10000 < 100) then
    uartCheckHealth flight.eps uartInitialized input.uartAnswers input.uartReopens input.loopMs
  else (flight.eps, uartInitialized)

/-- The rest of the iteration: the telemetry time, the UART check, the sensors and the files. -/
def pollAndSave (flight : Flight) (input : LoopInput) : Flight :=
  let now := input.loopMs
  let telemetry := telemetryDue flight input
  let checked := sendAndCheck flight input
  let polled := sensorsPoll flight.bank checked.1 now input.values
  let save := flight.tick % persistenceIntervalTicks = 0
  { flight with
    lastTelemetryMs := if telemetry then now else flight.lastTelemetryMs
    uartInitialized := checked.2
    bank := polled.2
    mission := if save then missionDataSave flight.mission else flight.mission
    eps := if save then epsSaveConfig polled.1 else polled.1
    tick := flight.tick + 1 }

/-- One iteration of `run_main_loop`. -/
def mainLoopIteration (flight : Flight) (input : LoopInput) : Flight :=
  pollAndSave (updateAndMonitor flight input) input

end

end SmartQso
