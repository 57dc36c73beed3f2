/-
This file models `payload/supervisor.py`: the variables its threads share, what the
handlers of commands, of a lost link and of heat do to them, and the table of managed
processes behind its lock. What the operating system and the serial link answer is an
input. Metrics other than the temperature are left out; the loops that call the handlers
again and again belong to the model of the threads.
-/

import SmartQso.HealthInterface
import SmartQso.NonReentrantLock
import Mathlib.Algebra.Order.Ring.Rat

namespace SmartQso.Payload

open HealthInterface NonReentrantLock

/-! ### State -/

/-- `SupervisorState`. -/
inductive SupervisorState
  | init
  | starting
  | running
  | throttling
  | shuttingDown
  | stopped
  deriving DecidableEq

/-- `PowerState`. -/
inductive PowerState
  | safe
  | idle
  | active
  deriving DecidableEq

/-- `PowerState(value)`; none stands for a `ValueError`. -/
def PowerState.ofValue (value : Int) : Option PowerState :=
  if value = 0 then some .safe
  else if value = 1 then some .idle
  else if value = 2 then some .active
  else none

/-- `SupervisorConfig`, as far as it is used after the start. -/
structure SupervisorConfig where
  statusIntervalS : ℚ
  thermalThrottleTempC : ℚ
  thermalShutdownTempC : ℚ
  deriving DecidableEq

/-- The defaults of `SupervisorConfig`. -/
def SupervisorConfig.default : SupervisorConfig := ⟨10, 75, 85⟩

/-- The members of a supervisor that its threads read and write without a lock. -/
structure Shared where
  state : SupervisorState
  powerState : PowerState
  running : Bool
  config : SupervisorConfig
  deriving DecidableEq

/-- The variables of a new supervisor. -/
def Shared.new (config : SupervisorConfig) : Shared := ⟨.init, .idle, false, config⟩

/-- `start`, once the health interface and the threads have been started. -/
def start (shared : Shared) : Shared :=
  { shared with state := .running, running := true }

/-! ### Handlers -/

/-- `HealthCommand`. -/
inductive HealthCommand
  | heartbeat
  | statusRequest
  | shutdown
  | restart
  | powerState
  | configUpdate
  deriving DecidableEq

/-- The items of a configuration update. Both take any JSON value; those that are not numbers, on
which the comparison of a temperature or the sleep raises an exception, are left out. -/
structure ConfigUpdate where
  thermalThrottleTemp : Option ℚ
  statusInterval : Option ℚ

/-- `HealthData`, as far as a command uses it. -/
structure HealthData where
  command : HealthCommand
  powerState : Int
  data : Option ConfigUpdate

/-- The first assignments of `stop`. -/
def stopBegins (shared : Shared) : Shared :=
  { shared with state := .shuttingDown, running := false }

/-- The last assignment of `stop`. -/
def stopEnds (shared : Shared) : Shared := { shared with state := .stopped }

/-- `_handle_obc_disconnect`. -/
def handleObcDisconnect (shared : Shared) : Shared :=
  { shared with state := .throttling }

/-- `_handle_power_state_change`. -/
def handlePowerStateChange (shared : Shared) : Shared :=
  match shared.powerState with
  | .safe => { shared with state := .throttling }
  | .idle =>
    if shared.state = .throttling then { shared with state := .running } else shared
  | .active => { shared with state := .running }

/-- The branches of `_handle_health_command` that store the power state. A value that is none
raises a `ValueError`, which the health interface catches. -/
def receivePowerState (shared : Shared) (value : Int) : Shared :=
  match PowerState.ofValue value with
  | none => shared
  | some power => handlePowerStateChange { shared with powerState := power }

/-- `_handle_config_update`. -/
def handleConfigUpdate (shared : Shared) (data : Option ConfigUpdate) : Shared :=
  match data with
  | none => shared
  | some update =>
    { shared with config :=
        { shared.config with
          thermalThrottleTempC :=
            update.thermalThrottleTemp.getD shared.config.thermalThrottleTempC
          statusIntervalS := update.statusInterval.getD shared.config.statusIntervalS } }

/-- `_handle_health_command`: what it does to the variables itself. A status request and a restart
leave them alone, and a shutdown is the begin of `stop`. -/
def handleHealthCommand (shared : Shared) (data : HealthData) : Shared :=
  match data.command with
  | .heartbeat => receivePowerState shared data.powerState
  | .statusRequest => shared
  | .shutdown => stopBegins shared
  | .restart => shared
  | .powerState => receivePowerState shared data.powerState
  | .configUpdate => handleConfigUpdate shared data.data

/-- `_check_thermal` at a temperature; the shutdown is the begin of `stop`. -/
def checkThermal (shared : Shared) (temp : ℚ) : Shared :=
  if temp ≥ shared.config.thermalShutdownTempC then stopBegins shared
  else if temp ≥ shared.config.thermalThrottleTempC then
    if shared.state ≠ .throttling then { shared with state := .throttling } else shared
  else if shared.state = .throttling then { shared with state := .running }
  else shared

/-! ### Processes -/

/-- `ProcessInfo`; a process is its number. -/
structure ProcessInfo where
  command : List String
  restartOnFailure : Bool
  maxRestarts : Int
  restartCount : Int
  process : Option Nat
  deriving DecidableEq

/-- A supervisor with its table of processes in the order of registration, and whether it has a
health interface. The lock is `_process_lock`. -/
structure PayloadSupervisor where
  shared : Shared
  health : Bool
  processes : List (String × ProcessInfo)

/-- What the operating system and the link answer during a call: the number of a process that is
started, unless that fails, whether a process can be terminated, whether it has exited, and whether
the link is there and takes a response. -/
structure Answers where
  popen : String → Option Nat
  terminates : String → Bool
  exited : String → Bool
  connected : Bool
  writes : Bool

/-- Change the entry of a process. -/
def PayloadSupervisor.modifyProcess (supervisor : PayloadSupervisor) (name : String)
    (change : ProcessInfo → ProcessInfo) : PayloadSupervisor :=
  { supervisor with processes := supervisor.processes.map fun entry =>
      if entry.1 = name then (entry.1, change entry.2) else entry }

/-- Store an entry; a name that is there already keeps its place. -/
def PayloadSupervisor.setProcess (supervisor : PayloadSupervisor) (name : String)
    (info : ProcessInfo) : PayloadSupervisor :=
  if (supervisor.processes.lookup name).isSome then supervisor.modifyProcess name fun _ => info
  else { supervisor with processes := supervisor.processes ++ [(name, info)] }

/-- `register_process`. -/
def registerProcess (name : String) (command : List String) (restartOnFailure : Bool)
    (maxRestarts : Int) : Call PayloadSupervisor Unit :=
  withLock do
    modifyState fun supervisor =>
      supervisor.setProcess name ⟨command, restartOnFailure, maxRestarts, 0, none⟩

/-- `start_process`. -/
def startProcess (answers : Answers) (name : String) : Call PayloadSupervisor Bool :=
  withLock do
    let supervisor ← getState
    match supervisor.processes.lookup name with
    | none => pure false
    | some _ =>
      match answers.popen name with
      | none => pure false
      | some pid =>
        modifyState fun supervisor =>
          supervisor.modifyProcess name fun info => { info with process := some pid }
        pure true

/-- `stop_process`. -/
def stopProcess (answers : Answers) (name : String) : Call PayloadSupervisor Bool :=
  withLock do
    let supervisor ← getState
    match supervisor.processes.lookup name with
    | none => pure false
    | some info =>
      if info.process.isNone then pure true
      else if answers.terminates name then do
        modifyState fun supervisor =>
          supervisor.modifyProcess name fun info => { info with process := none }
        pure true
      else pure false

/-- `_stop_all_processes`. -/
def stopAllProcesses (answers : Answers) : Call PayloadSupervisor Unit :=
  withLock do
    let supervisor ← getState
    perform (fun name => do
      let _ ← stopProcess answers name
      pure ()) (supervisor.processes.map Prod.fst)

/-- `_restart_all_processes`. -/
def restartAllProcesses (answers : Answers) : Call PayloadSupervisor Unit :=
  withLock do
    let supervisor ← getState
    perform (fun name => do
      let _ ← stopProcess answers name
      let _ ← startProcess answers name
      pure ()) (supervisor.processes.map Prod.fst)

/-- A round of the loop of `_check_processes`. -/
def checkProcess (answers : Answers) (name : String) (info : ProcessInfo) :
    Call PayloadSupervisor Unit :=
  if info.process.isNone then pure ()
  else if answers.exited name then do
    modifyState fun supervisor =>
      supervisor.modifyProcess name fun info => { info with process := none }
    if info.restartOnFailure then
      if info.restartCount < info.maxRestarts then do
        modifyState fun supervisor =>
          supervisor.modifyProcess name fun info =>
            { info with restartCount := info.restartCount + 1 }
        let _ ← startProcess answers name
        pure ()
      else pure ()
    else pure ()
  else pure ()

/-- `_check_processes`. -/
def checkProcesses (answers : Answers) : Call PayloadSupervisor Unit :=
  withLock do
    let supervisor ← getState
    perform (fun entry => checkProcess answers entry.1 entry.2) supervisor.processes

/-- The status of a process. -/
structure ProcessStatus where
  name : String
  running : Bool
  pid : Option Nat
  restarts : Int

/-- `_get_process_status`. -/
def getProcessStatus (answers : Answers) : Call PayloadSupervisor (List ProcessStatus) :=
  withLock do
    let supervisor ← getState
    pure (supervisor.processes.map fun entry =>
      { name := entry.1
        running := entry.2.process.isSome && !answers.exited entry.1
        pid := entry.2.process
        restarts := entry.2.restartCount })

/-- The overall status of `_send_status`. -/
def overallStatus (state : SupervisorState) : HealthStatus :=
  match state with
  | .running => .ok
  | .throttling => .warning
  | _ => .error

/-- `_send_status`: the response it hands to `send_response`, if any. A response that cannot be
written makes the health interface report a lost link. -/
def sendStatus (answers : Answers) :
    Call PayloadSupervisor (Option (HealthStatus × SupervisorState × List ProcessStatus)) := do
  let supervisor ← getState
  if supervisor.health then do
    let processes ← getProcessStatus answers
    if answers.connected && !answers.writes then
      modifyState fun supervisor =>
        { supervisor with shared := handleObcDisconnect supervisor.shared }
    pure (some (overallStatus supervisor.shared.state, supervisor.shared.state, processes))
  else pure none

/-- `stop`; the health interface and the other threads end. -/
def stop (answers : Answers) : Call PayloadSupervisor Unit := do
  modifyState fun supervisor => { supervisor with shared := stopBegins supervisor.shared }
  stopAllProcesses answers
  modifyState fun supervisor => { supervisor with shared := stopEnds supervisor.shared }

end SmartQso.Payload
