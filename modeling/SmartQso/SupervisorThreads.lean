/-
This file models the threads of `payload/supervisor.py` between which Python may switch at
any access: the main thread with its signals, the thread of the health interface, the
monitor and the status thread. Each function is the code that takes `_process_lock` and
`_metrics_lock` and accesses the members of the supervisor in the order of the source.
What the operating system and the link answer belongs to a call.
-/

import SmartQso.LockedThreads
import SmartQso.SupervisorLocks

namespace SmartQso.Payload

open HealthInterface LockedThreads

/-! ### State -/

/-- The locks of the supervisor. -/
inductive SupervisorLock
  | process
  | metrics
  deriving DecidableEq

/-- The threads of the program. -/
inductive SupervisorThread
  | main
  | receive
  | monitor
  | status
  deriving DecidableEq

/-- What the threads share. -/
structure SupervisorMemory where
  supervisor : PayloadSupervisor
  temperatureC : ℚ

abbrev SupervisorCode := Code SupervisorMemory SupervisorLock

/-- Read the members. -/
def readMemory (rest : SupervisorMemory → SupervisorCode) : SupervisorCode := .access id rest

def writeSupervisor (change : PayloadSupervisor → PayloadSupervisor) (rest : SupervisorCode) :
    SupervisorCode :=
  .access (fun memory => { memory with supervisor := change memory.supervisor }) fun _ => rest

def writeShared (change : Shared → Shared) (rest : SupervisorCode) : SupervisorCode :=
  writeSupervisor (fun supervisor => { supervisor with shared := change supervisor.shared }) rest

/-- Store `_state`. -/
def writeState (state : SupervisorState) (rest : SupervisorCode) : SupervisorCode :=
  writeShared (fun shared => { shared with state }) rest

/-! ### The table of processes -/

/-- `register_process`. -/
def registerProcessCode (name : String) (command : List String) (restartOnFailure : Bool)
    (maxRestarts : Int) (rest : Unit → SupervisorCode) : SupervisorCode :=
  .withLock .process
    (fun close =>
      writeSupervisor
        (fun supervisor =>
          supervisor.setProcess name ⟨command, restartOnFailure, maxRestarts, 0, none⟩)
        (close ()))
    rest

/-- `start_process`. -/
def startProcessCode (answers : Answers) (name : String) (rest : Bool → SupervisorCode) :
    SupervisorCode :=
  .withLock .process
    (fun close => readMemory fun memory =>
      match memory.supervisor.processes.lookup name with
      | none => close false
      | some _ =>
        match answers.popen name with
        | none => close false
        | some pid =>
          writeSupervisor
            (fun supervisor =>
              supervisor.modifyProcess name fun info => { info with process := some pid })
            (close true))
    rest

/-- `stop_process`. -/
def stopProcessCode (answers : Answers) (name : String) (rest : Bool → SupervisorCode) :
    SupervisorCode :=
  .withLock .process
    (fun close => readMemory fun memory =>
      match memory.supervisor.processes.lookup name with
      | none => close false
      | some info =>
        if info.process.isNone then close true
        else if answers.terminates name then
          writeSupervisor
            (fun supervisor =>
              supervisor.modifyProcess name fun info => { info with process := none })
            (close true)
        else close false)
    rest

/-- A loop over entries of the table. -/
def forEach {Entry : Type} (body : Entry → (Unit → SupervisorCode) → SupervisorCode) :
    List Entry → (Unit → SupervisorCode) → SupervisorCode
  | [], rest => rest ()
  | entry :: entries, rest => body entry fun _ => forEach body entries rest

/-- `_stop_all_processes`. -/
def stopAllProcessesCode (answers : Answers) (rest : Unit → SupervisorCode) : SupervisorCode :=
  .withLock .process
    (fun close => readMemory fun memory =>
      forEach (fun name next => stopProcessCode answers name fun _ => next ())
        (memory.supervisor.processes.map Prod.fst) close)
    rest

/-- `_restart_all_processes`. -/
def restartAllProcessesCode (answers : Answers) (rest : Unit → SupervisorCode) : SupervisorCode :=
  .withLock .process
    (fun close => readMemory fun memory =>
      forEach
        (fun name next => stopProcessCode answers name fun _ =>
          startProcessCode answers name fun _ => next ())
        (memory.supervisor.processes.map Prod.fst) close)
    rest

/-- A round of the loop of `_check_processes`. -/
def checkProcessCode (answers : Answers) (entry : String × ProcessInfo)
    (next : Unit → SupervisorCode) : SupervisorCode :=
  if entry.2.process.isNone then next ()
  else if answers.exited entry.1 then
    writeSupervisor
      (fun supervisor =>
        supervisor.modifyProcess entry.1 fun info => { info with process := none })
      (if entry.2.restartOnFailure then
        if entry.2.restartCount < entry.2.maxRestarts then
          writeSupervisor
            (fun supervisor =>
              supervisor.modifyProcess entry.1 fun info =>
                { info with restartCount := info.restartCount + 1 })
            (startProcessCode answers entry.1 fun _ => next ())
        else next ()
      else next ())
  else next ()

/-- `_check_processes`. -/
def checkProcessesCode (answers : Answers) (rest : Unit → SupervisorCode) : SupervisorCode :=
  .withLock .process
    (fun close => readMemory fun memory =>
      forEach (checkProcessCode answers) memory.supervisor.processes close)
    rest

/-- `_get_process_status`. -/
def getProcessStatusCode (answers : Answers) (rest : List ProcessStatus → SupervisorCode) :
    SupervisorCode :=
  .withLock .process
    (fun close => readMemory fun memory =>
      close (memory.supervisor.processes.map fun entry =>
        { name := entry.1
          running := entry.2.process.isSome && !answers.exited entry.1
          pid := entry.2.process
          restarts := entry.2.restartCount }))
    rest

/-! ### Status, heat and commands -/

/-- `_send_status`: the name of the state goes into the data under `_metrics_lock`, the overall
status is that of the state read behind it. -/
def sendStatusCode (answers : Answers)
    (rest : Option (HealthStatus × SupervisorState × List ProcessStatus) → SupervisorCode) :
    SupervisorCode :=
  readMemory fun memory =>
    if memory.supervisor.health then
      .withLock .metrics
        (fun close => readMemory fun inside =>
          getProcessStatusCode answers fun processes =>
            close (inside.supervisor.shared.state, processes))
        fun data => readMemory fun behind =>
          let response := some (overallStatus behind.supervisor.shared.state, data.1, data.2)
          if answers.connected && !answers.writes then
            writeShared handleObcDisconnect (rest response)
          else rest response
    else rest none

/-- `stop`. Only on the main thread it can wait for the others to end; on a thread that would have
to wait for itself this raises an exception, which ends the call. -/
def stopCode (thread : SupervisorThread) (answers : Answers) (rest : Unit → SupervisorCode) :
    SupervisorCode :=
  writeState .shuttingDown <| writeShared (fun shared => { shared with running := false }) <|
    stopAllProcessesCode answers fun _ =>
      if thread = .main then writeShared stopEnds (rest ()) else .done

/-- `_handle_power_state_change`. -/
def handlePowerStateChangeCode (rest : SupervisorCode) : SupervisorCode :=
  readMemory fun memory =>
    match memory.supervisor.shared.powerState with
    | .safe => writeState .throttling rest
    | .idle => readMemory fun now =>
      if now.supervisor.shared.state = .throttling then writeState .running rest else rest
    | .active => writeState .running rest

/-- The branches of `_handle_health_command` that store the power state. A value that is none
raises a `ValueError`, which ends the call. -/
def receivePowerStateCode (value : Int) (rest : SupervisorCode) : SupervisorCode :=
  match PowerState.ofValue value with
  | none => .done
  | some power =>
    writeShared (fun shared => { shared with powerState := power })
      (handlePowerStateChangeCode rest)

/-- `_handle_config_update`, which stores one value after the other. -/
def handleConfigUpdateCode (data : Option ConfigUpdate) (rest : SupervisorCode) : SupervisorCode :=
  match data with
  | none => rest
  | some update =>
    writeShared
      (fun shared => handleConfigUpdate shared (some { update with statusInterval := none })) <|
      writeShared
        (fun shared => handleConfigUpdate shared (some { update with thermalThrottleTemp := none }))
        rest

/-- `_handle_health_command`. -/
def handleHealthCommandCode (thread : SupervisorThread) (answers : Answers) (data : HealthData) :
    SupervisorCode :=
  match data.command with
  | .heartbeat => receivePowerStateCode data.powerState .done
  | .statusRequest => sendStatusCode answers fun _ => .done
  | .shutdown => stopCode thread answers fun _ => .done
  | .restart => restartAllProcessesCode answers fun _ => .done
  | .powerState => receivePowerStateCode data.powerState .done
  | .configUpdate => handleConfigUpdateCode data.data .done

/-- `_update_metrics`, as far as the temperature goes. -/
def updateMetricsCode (temperatureC : ℚ) (rest : Unit → SupervisorCode) : SupervisorCode :=
  .withLock .metrics
    (fun close => .access (fun memory => { memory with temperatureC }) fun _ => close ()) rest

/-- `_check_thermal`. -/
def checkThermalCode (thread : SupervisorThread) (answers : Answers)
    (rest : Unit → SupervisorCode) : SupervisorCode :=
  .withLock .metrics (fun close => readMemory fun memory => close memory.temperatureC)
    fun temp => readMemory fun first =>
      if temp ≥ first.supervisor.shared.config.thermalShutdownTempC then
        stopCode thread answers rest
      else readMemory fun second =>
        if temp ≥ second.supervisor.shared.config.thermalThrottleTempC then
          readMemory fun third =>
            if third.supervisor.shared.state ≠ .throttling then writeState .throttling (rest ())
            else rest ()
        else
          readMemory fun third =>
            if third.supervisor.shared.state = .throttling then writeState .running (rest ())
            else rest ()

/-- The body of `_monitor_loop`. -/
def monitorRoundCode (thread : SupervisorThread) (temperatureC : ℚ) (answers : Answers) :
    SupervisorCode :=
  updateMetricsCode temperatureC fun _ =>
    checkThermalCode thread answers fun _ => checkProcessesCode answers fun _ => .done

/-- The body of `_status_loop`. -/
def statusRoundCode (answers : Answers) : SupervisorCode :=
  readMemory fun memory =>
    if memory.supervisor.health && answers.connected then sendStatusCode answers fun _ => .done
    else .done

/-! ### The program -/

/-- What a thread may be given to do. -/
inductive SupervisorCall
  | registerProcess (name : String) (command : List String) (restartOnFailure : Bool)
      (maxRestarts : Int)
  | startProcess (name : String) (answers : Answers)
  | stopProcess (name : String) (answers : Answers)
  | getMetrics
  | stop (answers : Answers)
  | healthCommand (data : HealthData) (answers : Answers)
  | obcDisconnect
  | monitorRound (temperatureC : ℚ) (answers : Answers)
  | statusRound (answers : Answers)

/-- The code of a call. -/
def supervisorCallOn (thread : SupervisorThread) : SupervisorCall → SupervisorCode
  | .registerProcess name command restartOnFailure maxRestarts =>
    registerProcessCode name command restartOnFailure maxRestarts fun _ => .done
  | .startProcess name answers => startProcessCode answers name fun _ => .done
  | .stopProcess name answers => stopProcessCode answers name fun _ => .done
  | .getMetrics => .withLock .metrics (fun close => readMemory fun _ => close ()) fun _ => .done
  | .stop answers => stopCode thread answers fun _ => .done
  | .healthCommand data answers => handleHealthCommandCode thread answers data
  | .obcDisconnect => writeShared handleObcDisconnect .done
  | .monitorRound temperatureC answers => monitorRoundCode thread temperatureC answers
  | .statusRound answers => statusRoundCode answers

/-- `_signal_handler`, which Python runs on the main thread before what it has left. -/
def signalHandlerOn (thread : SupervisorThread) (answers : Answers) (next : SupervisorCode) :
    SupervisorCode :=
  if thread = .main then stopCode .main answers fun _ => next else next

/-- The program of the threads. -/
def supervisorProgram :
    Program SupervisorMemory SupervisorLock SupervisorThread SupervisorCall Answers where
  callOn := supervisorCallOn
  handlerOn := signalHandlerOn

/-- The threads once `start` has made the health interface, with a table of processes; the main
thread still has to store the state. -/
def supervisorThreads (config : SupervisorConfig) (processes : List (String × ProcessInfo)) :
    Threads SupervisorMemory SupervisorLock SupervisorThread where
  state :=
    { supervisor :=
        { shared := { Shared.new config with state := .starting, running := true }
          health := true
          processes := processes }
      temperatureC := 0 }
  holder _ := none
  code thread := if thread = .main then writeState .running .done else .done

/-! ### One thread alone -/

/-- The code does alone what the call of the sequential model does. -/
def Implements {Value : Type} (code : (Value → SupervisorCode) → SupervisorCode)
    (call : NonReentrantLock.Call PayloadSupervisor Value) : Prop :=
  ∀ rest held memory, (code rest).alone held memory =
    match call ⟨held .process, memory.supervisor⟩ with
    | .ok value finish =>
      (rest value).alone (Function.update held .process finish.held)
        { memory with supervisor := finish.state }
    | .error _ _ => none

/-- The memory behind a call that has returned. -/
def memoryAfter {Value : Type} (memory : SupervisorMemory) :
    EStateM.Result NonReentrantLock.Blocked (NonReentrantLock.Locked PayloadSupervisor) Value →
      Option SupervisorMemory
  | .ok _ finish => some { memory with supervisor := finish.state }
  | .error _ _ => none

section

variable {Value Result : Type} {code : (Value → SupervisorCode) → SupervisorCode}
  {call : NonReentrantLock.Call PayloadSupervisor Value}

theorem implements_pure (value : Value) : Implements (fun rest => rest value) (pure value) := by
  intro rest held memory
  change (rest value).alone held memory =
    (rest value).alone (Function.update held .process (held .process)) memory
  rw [Function.update_eq_self]

theorem implements_read {code : SupervisorMemory → (Value → SupervisorCode) → SupervisorCode}
    {call : PayloadSupervisor → NonReentrantLock.Call PayloadSupervisor Value}
    (implements : ∀ memory, Implements (code memory) (call memory.supervisor)) :
    Implements (fun rest => readMemory fun memory => code memory rest)
      (NonReentrantLock.getState >>= call) :=
  fun rest held memory => implements memory rest held memory

theorem implements_write (change : PayloadSupervisor → PayloadSupervisor)
    (implements : Implements code call) :
    Implements (fun rest => writeSupervisor change (code rest))
      (NonReentrantLock.modifyState change >>= fun _ => call) :=
  fun rest held memory =>
    implements rest held { memory with supervisor := change memory.supervisor }

theorem implements_bind {next : Value → (Result → SupervisorCode) → SupervisorCode}
    {call₂ : Value → NonReentrantLock.Call PayloadSupervisor Result}
    (first : Implements code call) (second : ∀ value, Implements (next value) (call₂ value)) :
    Implements (fun rest => code fun value => next value rest) (call >>= call₂) := by
  intro rest held memory
  rw [first]
  cases reached : call ⟨held .process, memory.supervisor⟩ with
  | ok value finish =>
    dsimp only
    rw [second, NonReentrantLock.bind_ok reached, Function.update_self]
    cases call₂ value finish with
    | ok result last =>
      dsimp only
      rw [Function.update_idem]
    | error reason last => rfl
  | error reason finish =>
    change none = match EStateM.bind call call₂ _ with
      | .ok result last => _
      | .error _ _ => none
    rw [EStateM.bind, reached]

theorem implements_withLock (implements : Implements code call) :
    Implements (fun rest => .withLock .process code rest) (NonReentrantLock.withLock call) := by
  intro rest held memory
  change (Code.acquire SupervisorLock.process _).alone held memory = _
  rw [Code.alone, NonReentrantLock.withLock]
  dsimp only
  cases mine : held .process with
  | true => rfl
  | false =>
    rw [if_neg Bool.false_ne_true, if_neg Bool.false_ne_true, implements, Function.update_self]
    cases call ⟨true, memory.supervisor⟩ with
    | ok value finish =>
      dsimp only
      rw [Code.alone, Function.update_idem, Function.update_idem]
    | error reason finish => rfl

/-- A call whose value is dropped. -/
theorem implements_drop (implements : Implements code call) :
    Implements (fun rest => code fun _ => rest ())
      (do
        let _ ← call
        pure ()) :=
  implements_bind implements fun _ => implements_pure ()

theorem Implements.done (implements : Implements code call) (memory : SupervisorMemory) :
    (code fun _ => .done).alone (fun _ => false) memory =
      memoryAfter memory (call ⟨false, memory.supervisor⟩) :=
  implements (fun _ => .done) (fun _ => false) memory

theorem implements_forEach {Entry : Type}
    {body : Entry → (Unit → SupervisorCode) → SupervisorCode}
    {round : Entry → NonReentrantLock.Call PayloadSupervisor Unit}
    (implements : ∀ entry, Implements (body entry) (round entry)) (entries : List Entry) :
    Implements (forEach body entries) (NonReentrantLock.perform round entries) := by
  induction entries with
  | nil => exact implements_pure ()
  | cons entry entries inductionHypothesis =>
    change Implements (fun rest => body entry fun _ => forEach body entries rest)
      (round entry >>= fun _ => NonReentrantLock.perform round entries)
    exact implements_bind (implements entry) fun _ => inductionHypothesis

end

theorem registerProcessCode_implements (name : String) (command : List String)
    (restartOnFailure : Bool) (maxRestarts : Int) :
    Implements (registerProcessCode name command restartOnFailure maxRestarts)
      (registerProcess name command restartOnFailure maxRestarts) :=
  implements_withLock (implements_write _ (implements_pure ()))

theorem startProcessCode_implements (answers : Answers) (name : String) :
    Implements (startProcessCode answers name) (startProcess answers name) := by
  refine implements_withLock (implements_read fun memory => ?_)
  cases memory.supervisor.processes.lookup name with
  | none => exact implements_pure false
  | some info =>
    cases answers.popen name with
    | none => exact implements_pure false
    | some pid => exact implements_write _ (implements_pure true)

theorem stopProcessCode_implements (answers : Answers) (name : String) :
    Implements (stopProcessCode answers name) (stopProcess answers name) := by
  refine implements_withLock (implements_read fun memory => ?_)
  cases memory.supervisor.processes.lookup name with
  | none => exact implements_pure false
  | some info =>
    dsimp only
    split_ifs
    · exact implements_pure true
    · exact implements_write _ (implements_pure true)
    · exact implements_pure false

theorem stopAllProcessesCode_implements (answers : Answers) :
    Implements (stopAllProcessesCode answers) (stopAllProcesses answers) :=
  implements_withLock (implements_read fun _ =>
    implements_forEach (fun name => implements_drop (stopProcessCode_implements answers name)) _)

theorem restartAllProcessesCode_implements (answers : Answers) :
    Implements (restartAllProcessesCode answers) (restartAllProcesses answers) :=
  implements_withLock (implements_read fun _ =>
    implements_forEach (fun name => implements_bind (stopProcessCode_implements answers name)
      fun _ => implements_drop (startProcessCode_implements answers name)) _)

theorem checkProcessCode_implements (answers : Answers) (entry : String × ProcessInfo) :
    Implements (checkProcessCode answers entry) (checkProcess answers entry.1 entry.2) := by
  unfold checkProcessCode checkProcess
  split_ifs
  · exact implements_pure ()
  · exact implements_write _ (implements_write _
      (implements_drop (startProcessCode_implements answers entry.1)))
  · exact implements_write _ (implements_pure ())
  · exact implements_write _ (implements_pure ())
  · exact implements_pure ()

theorem checkProcessesCode_implements (answers : Answers) :
    Implements (checkProcessesCode answers) (checkProcesses answers) :=
  implements_withLock (implements_read fun _ =>
    implements_forEach (checkProcessCode_implements answers) _)

theorem getProcessStatusCode_implements (answers : Answers) :
    Implements (getProcessStatusCode answers) (getProcessStatus answers) :=
  implements_withLock (implements_read fun _ => implements_pure _)

theorem implements_modify (change : PayloadSupervisor → PayloadSupervisor) :
    Implements (fun rest => writeSupervisor change (rest ()))
      (NonReentrantLock.modifyState change) :=
  implements_write change (implements_pure ())

/-- On the main thread. -/
theorem stopCode_implements (answers : Answers) :
    Implements (stopCode .main answers) (stop answers) := by
  have ends : Implements
      (fun rest => stopAllProcessesCode answers fun _ => writeShared stopEnds (rest ()))
      (stopAllProcesses answers >>= fun _ => NonReentrantLock.modifyState fun supervisor =>
        { supervisor with shared := stopEnds supervisor.shared }) :=
    implements_bind (stopAllProcessesCode_implements answers) fun _ => implements_modify _
  exact fun rest held memory => ends rest held
    { memory with
      supervisor := { memory.supervisor with shared := stopBegins memory.supervisor.shared } }

/-- `_send_status` of a thread that does not hold `_metrics_lock`. -/
theorem sendStatusCode_alone (answers : Answers)
    (rest : Option (HealthStatus × SupervisorState × List ProcessStatus) → SupervisorCode)
    {held : SupervisorLock → Bool} (free : held .metrics = false) (memory : SupervisorMemory) :
    (sendStatusCode answers rest).alone held memory =
      match sendStatus answers ⟨held .process, memory.supervisor⟩ with
      | .ok value finish =>
        (rest value).alone (Function.update held .process finish.held)
          { memory with supervisor := finish.state }
      | .error _ _ => none := by
  unfold sendStatusCode sendStatus readMemory
  rw [Code.alone]
  rw [show ∀ next : PayloadSupervisor → NonReentrantLock.Call PayloadSupervisor
    (Option (HealthStatus × SupervisorState × List ProcessStatus)),
    (NonReentrantLock.getState >>= next) ⟨held .process, memory.supervisor⟩ =
      next memory.supervisor ⟨held .process, memory.supervisor⟩ from fun _ => rfl]
  by_cases healthy : memory.supervisor.health = true
  · rw [if_pos healthy, if_pos healthy]
    unfold Code.withLock
    rw [Code.alone, free, if_neg Bool.false_ne_true, Code.alone, getProcessStatusCode_implements,
      Function.update_of_ne SupervisorLock.noConfusion]
    dsimp only [id]
    cases mine : held .process with
    | true => rfl
    | false =>
      obtain ⟨processes, answered⟩ : ∃ processes,
          getProcessStatus answers ⟨false, memory.supervisor⟩ =
            .ok processes ⟨false, memory.supervisor⟩ := ⟨_, rfl⟩
      rw [NonReentrantLock.bind_ok answered, answered]
      dsimp only
      have same : Function.update (Function.update (Function.update held .metrics true) .process
          false) .metrics false = Function.update held .process false := by
        funext lock
        cases lock with
        | process => rfl
        | metrics => exact free.symm
      rw [Code.alone, same, Code.alone]
      split <;> rfl
  · rw [if_neg healthy, if_neg healthy]
    change _ = (rest none).alone (Function.update held .process (held .process)) memory
    rw [Function.update_eq_self]
    rfl

/-- A call of the sequential model as code of the main thread. -/
def processCallCode (made : ProcessCall × Answers) (rest : Unit → SupervisorCode) :
    SupervisorCode :=
  match made.1 with
  | .registerProcess name command restartOnFailure maxRestarts =>
    registerProcessCode name command restartOnFailure maxRestarts rest
  | .startProcess name => startProcessCode made.2 name fun _ => rest ()
  | .stopProcess name => stopProcessCode made.2 name fun _ => rest ()
  | .stop => stopCode .main made.2 rest
  | .checkProcesses => checkProcessesCode made.2 rest
  | .restartAllProcesses => restartAllProcessesCode made.2 rest
  | .sendStatus => sendStatusCode made.2 fun _ => rest ()

theorem processCallCode_alone (made : ProcessCall × Answers) (memory : SupervisorMemory) :
    (processCallCode made fun _ => .done).alone (fun _ => false) memory =
      memoryAfter memory (processCall made ⟨false, memory.supervisor⟩) := by
  obtain ⟨call, answers⟩ := made
  unfold processCallCode processCall
  cases call with
  | registerProcess name command restartOnFailure maxRestarts =>
    exact (registerProcessCode_implements name command restartOnFailure maxRestarts).done memory
  | startProcess name =>
    dsimp only
    exact (implements_drop (startProcessCode_implements answers name)).done memory
  | stopProcess name =>
    dsimp only
    exact (implements_drop (stopProcessCode_implements answers name)).done memory
  | stop =>
    dsimp only
    exact (stopCode_implements answers).done memory
  | checkProcesses =>
    dsimp only
    exact (checkProcessesCode_implements answers).done memory
  | restartAllProcesses =>
    dsimp only
    exact (restartAllProcessesCode_implements answers).done memory
  | sendStatus =>
    dsimp only
    refine (sendStatusCode_alone answers (fun _ => .done) rfl memory).trans ?_
    cases reached : sendStatus answers ⟨false, memory.supervisor⟩ with
    | ok value finish =>
      rw [NonReentrantLock.bind_ok reached]
      rfl
    | error reason finish =>
      change none = memoryAfter memory (EStateM.bind (sendStatus answers) _ _)
      rw [EStateM.bind, reached]
      rfl

/-- The main thread does what the calls of the sequential model do, while no other thread has taken
a lock; where these block, it waits for itself. -/
theorem supervisorThreads_alone
    {threads : Threads SupervisorMemory SupervisorLock SupervisorThread}
    (unlocked : ∀ lock, threads.holder lock = none) {made : ProcessCall × Answers}
    (given : threads.code .main = processCallCode made fun _ => .done) :
    ∃ count, (threads.advances .main count).EndsIn .main
      (memoryAfter threads.state (processCall made ⟨false, threads.state.supervisor⟩)) := by
  have free : ∀ lock, threads.holder lock =
      if (fun _ : SupervisorLock => false) lock then some .main else none := unlocked
  rw [← processCallCode_alone]
  exact Threads.advances_alone given rfl free

end SmartQso.Payload
