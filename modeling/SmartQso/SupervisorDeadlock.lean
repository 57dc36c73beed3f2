/-
This file settles what stops the threads of the payload supervisor, over every interleaving
of them. The locks have an order, so a thread that asks for a lock it holds is the only way
for all to stop. `stop` with a process in the table always comes to that, so the supervisor
is never stopped, and from then on `_process_lock` is lost: no later call that needs it
ends. With one thread the code does what the calls of the sequential model do.
-/

import SmartQso.SupervisorThreads

namespace SmartQso.Payload

open HealthInterface LockedThreads Runs

/-! ### The discipline of the code -/

/-- `_metrics_lock` is taken before `_process_lock`. -/
def SupervisorLock.rank : SupervisorLock → ℕ
  | .metrics => 0
  | .process => 1

/-- What every access of the supervisor keeps. The last store of `stop` is only reached when the
table has been seen empty. -/
structure Keeps (invariant : SupervisorMemory → Prop) : Prop where
  shared : ∀ memory (change : Shared → Shared),
    (∀ shared, (change shared).state ≠ .stopped ∨ (change shared).state = shared.state) →
    invariant memory → invariant { memory with
      supervisor := { memory.supervisor with shared := change memory.supervisor.shared } }
  setProcess : ∀ memory name info, invariant memory → invariant { memory with
    supervisor := memory.supervisor.setProcess name info }
  modifyProcess : ∀ memory name change, invariant memory → invariant { memory with
    supervisor := memory.supervisor.modifyProcess name change }
  temperature : ∀ memory temperatureC, invariant memory → invariant { memory with temperatureC }
  stops : ∀ seen memory, invariant seen → seen.supervisor.processes = [] → invariant memory →
    invariant { memory with
      supervisor := { memory.supervisor with shared := stopEnds memory.supervisor.shared } }

/-- The discipline: only for `_process_lock` a thread asks while it holds it. -/
def supervisorDiscipline (invariant : SupervisorMemory → Prop) :
    Discipline SupervisorMemory SupervisorLock :=
  ⟨invariant, SupervisorLock.rank, {.process}⟩

/-- The code keeps the discipline with the locks held before it. -/
abbrev Follows (invariant : SupervisorMemory → Prop) (held : Set SupervisorLock)
    (code : SupervisorCode) : Prop :=
  code.Disciplined (supervisorDiscipline invariant) held

section

variable {invariant : SupervisorMemory → Prop} {held : Set SupervisorLock}
  {rest : Unit → SupervisorCode} {answers : Answers} {next : SupervisorCode}

theorem rank_lt_process {other : SupervisorLock} (different : other ≠ .process) :
    other.rank < SupervisorLock.process.rank := by
  cases other with
  | process => exact absurd rfl different
  | metrics => decide

/-- A block under `_process_lock`, which comes last in the order. -/
theorem follows_processLock {Value : Type} {body : (Value → SupervisorCode) → SupervisorCode}
    {rest : Value → SupervisorCode} (follows : ∀ value, Follows invariant held (rest value))
    (inside : ∀ close : Value → SupervisorCode,
      (∀ value, Follows invariant (insert .process held) (close value)) →
        Follows invariant (insert .process held) (body close)) :
    Follows invariant held (Code.withLock .process body rest) :=
  Code.disciplined_withLock (fun _ => Set.mem_singleton _)
    (fun _ _ different => rank_lt_process different) follows inside

/-- Behind a block that waits for itself nothing is reached. -/
theorem follows_processLock_held {Value : Type} (mine : .process ∈ held)
    (body : (Value → SupervisorCode) → SupervisorCode) (rest : Value → SupervisorCode) :
    Follows invariant held (Code.withLock .process body rest) :=
  ⟨fun _ => Set.mem_singleton _, fun foreign => absurd mine foreign⟩

/-- A block under `_metrics_lock` of a thread that holds no lock. -/
theorem follows_metricsLock {Value : Type} {body : (Value → SupervisorCode) → SupervisorCode}
    {rest : Value → SupervisorCode} (follows : ∀ value, Follows invariant ∅ (rest value))
    (inside : ∀ close : Value → SupervisorCode,
      (∀ value, Follows invariant (insert .metrics ∅) (close value)) →
        Follows invariant (insert .metrics ∅) (body close)) :
    Follows invariant ∅ (Code.withLock .metrics body rest) :=
  Code.disciplined_withLock (fun mine => absurd mine (Set.notMem_empty _))
    (fun _ member => absurd member (Set.notMem_empty _)) follows inside

theorem follows_readMemory {rest : SupervisorMemory → SupervisorCode}
    (follows : ∀ memory, invariant memory → Follows invariant held (rest memory)) :
    Follows invariant held (readMemory rest) :=
  fun memory kept => ⟨kept, follows memory kept⟩

variable (keeps : Keeps invariant)

include keeps

theorem follows_writeShared {change : Shared → Shared}
    (lasts : ∀ shared, (change shared).state ≠ .stopped ∨ (change shared).state = shared.state)
    (follows : Follows invariant held next) : Follows invariant held (writeShared change next) :=
  fun memory kept => ⟨keeps.shared memory change lasts kept, follows⟩

theorem follows_writeState {state : SupervisorState} (lasts : state ≠ .stopped)
    (follows : Follows invariant held next) : Follows invariant held (writeState state next) :=
  follows_writeShared keeps (fun _ => Or.inl lasts) follows

theorem follows_modifyProcess {name : String} {change : ProcessInfo → ProcessInfo}
    (follows : Follows invariant held next) :
    Follows invariant held
      (writeSupervisor (fun supervisor => supervisor.modifyProcess name change) next) :=
  fun memory kept => ⟨keeps.modifyProcess memory name change kept, follows⟩

/-! ### Functions of the table -/

theorem follows_registerProcess (name : String) (command : List String) (restartOnFailure : Bool)
    (maxRestarts : Int) (follows : Follows invariant held (rest ())) :
    Follows invariant held
      (registerProcessCode name command restartOnFailure maxRestarts rest) :=
  follows_processLock (fun _ => follows) fun _ closes memory kept =>
    ⟨keeps.setProcess memory name _ kept, closes ()⟩

theorem follows_startProcess (name : String) {rest : Bool → SupervisorCode}
    (follows : ∀ value, Follows invariant held (rest value)) :
    Follows invariant held (startProcessCode answers name rest) := by
  refine follows_processLock follows fun close closes => follows_readMemory fun memory _ => ?_
  split
  · exact closes false
  · split
    · exact closes false
    · exact follows_modifyProcess keeps (closes true)

theorem follows_stopProcess (name : String) {rest : Bool → SupervisorCode}
    (follows : ∀ value, Follows invariant held (rest value)) :
    Follows invariant held (stopProcessCode answers name rest) := by
  refine follows_processLock follows fun close closes => follows_readMemory fun memory _ => ?_
  split
  · exact closes false
  · split_ifs
    · exact closes true
    · exact follows_modifyProcess keeps (closes true)
    · exact closes false

omit keeps in
/-- A loop under `_process_lock` whose rounds stop the processes gets past an empty table only. -/
theorem follows_stoppingLoop {body : String → (Unit → SupervisorCode) → SupervisorCode}
    (again : ∀ name next, Follows invariant (insert .process held) (body name next))
    (follows : ∀ seen, invariant seen → seen.supervisor.processes = [] →
      Follows invariant held (rest ())) :
    Follows invariant held
      (Code.withLock .process
        (fun close => readMemory fun memory =>
          forEach body (memory.supervisor.processes.map Prod.fst) close) rest) := by
  refine ⟨fun _ => Set.mem_singleton _, fun foreign => ?_⟩
  refine ⟨fun other member => rank_lt_process fun same => foreign (same ▸ member),
    follows_readMemory fun memory kept => ?_⟩
  cases table : memory.supervisor.processes with
  | nil =>
    refine ⟨Set.mem_insert _ held, ?_⟩
    rw [Set.insert_sdiff_self_of_notMem foreign]
    exact follows memory kept table
  | cons entry entries => exact again entry.1 _

omit keeps in
theorem follows_stopAllProcesses
    (follows : ∀ seen, invariant seen → seen.supervisor.processes = [] →
      Follows invariant held (rest ())) :
    Follows invariant held (stopAllProcessesCode answers rest) :=
  follows_stoppingLoop (fun _ _ => follows_processLock_held (Set.mem_insert _ held) _ _) follows

omit keeps in
theorem follows_restartAllProcesses (follows : Follows invariant held (rest ())) :
    Follows invariant held (restartAllProcessesCode answers rest) :=
  follows_stoppingLoop (fun _ _ => follows_processLock_held (Set.mem_insert _ held) _ _)
    fun _ _ _ => follows

theorem follows_checkProcess (mine : .process ∈ held) (entry : String × ProcessInfo)
    (follows : Follows invariant held (rest ())) :
    Follows invariant held (checkProcessCode answers entry rest) := by
  unfold checkProcessCode
  split_ifs
  · exact follows
  · exact follows_modifyProcess keeps
      (follows_modifyProcess keeps (follows_processLock_held mine _ _))
  · exact follows_modifyProcess keeps follows
  · exact follows_modifyProcess keeps follows
  · exact follows

theorem follows_checkProcesses (follows : Follows invariant held (rest ())) :
    Follows invariant held (checkProcessesCode answers rest) := by
  refine follows_processLock (fun _ => follows) fun close closes =>
    follows_readMemory fun memory _ => ?_
  generalize memory.supervisor.processes = entries
  induction entries with
  | nil => exact closes ()
  | cons entry entries inductionHypothesis =>
    exact follows_checkProcess keeps (Set.mem_insert _ held) entry inductionHypothesis

/-! ### The calls -/

theorem follows_sendStatus
    {rest : Option (HealthStatus × SupervisorState × List ProcessStatus) → SupervisorCode}
    (follows : ∀ response, Follows invariant ∅ (rest response)) :
    Follows invariant ∅ (sendStatusCode answers rest) := by
  refine follows_readMemory fun memory _ => ?_
  split
  · refine follows_metricsLock (fun data => follows_readMemory fun behind _ => ?_)
      fun close closes => follows_readMemory fun inside _ =>
        follows_processLock (fun processes => closes (_, processes)) fun shut shuts =>
          follows_readMemory fun _ _ => shuts _
    dsimp only
    split
    · exact follows_writeShared keeps (fun _ => Or.inl SupervisorState.noConfusion) (follows _)
    · exact follows _
  · exact follows none

theorem follows_stop (thread : SupervisorThread) (ended : held = ∅ ∨ thread = .main)
    (follows : Follows invariant held (rest ())) :
    Follows invariant held (stopCode thread answers rest) := by
  refine follows_writeState keeps SupervisorState.noConfusion
    (follows_writeShared keeps (fun _ => Or.inr rfl)
      (follows_stopAllProcesses fun seen kept empty => ?_))
  split
  · exact fun memory good => ⟨keeps.stops seen memory kept empty good, follows⟩
  · next foreign => exact ended.resolve_right foreign

theorem follows_receivePowerState (value : Int) (follows : Follows invariant ∅ next) :
    Follows invariant ∅ (receivePowerStateCode value next) := by
  unfold receivePowerStateCode
  split
  · rfl
  · refine follows_writeShared keeps (fun _ => Or.inr rfl) (follows_readMemory fun memory _ => ?_)
    split
    · exact follows_writeState keeps SupervisorState.noConfusion follows
    · refine follows_readMemory fun now _ => ?_
      split
      · exact follows_writeState keeps SupervisorState.noConfusion follows
      · exact follows
    · exact follows_writeState keeps SupervisorState.noConfusion follows

theorem follows_handleHealthCommand (thread : SupervisorThread) (data : HealthData) :
    Follows invariant ∅ (handleHealthCommandCode thread answers data) := by
  have ends : Follows invariant ∅ .done := rfl
  unfold handleHealthCommandCode
  split
  · exact follows_receivePowerState keeps data.powerState ends
  · exact follows_sendStatus keeps fun _ => ends
  · exact follows_stop keeps thread (Or.inl rfl) ends
  · exact follows_restartAllProcesses ends
  · exact follows_receivePowerState keeps data.powerState ends
  · unfold handleConfigUpdateCode
    split
    · exact ends
    · exact follows_writeShared keeps (fun _ => Or.inr rfl)
        (follows_writeShared keeps (fun _ => Or.inr rfl) ends)

theorem follows_monitorRound (thread : SupervisorThread) (temperatureC : ℚ) :
    Follows invariant ∅ (monitorRoundCode thread temperatureC answers) := by
  have ends : Follows invariant ∅ .done := rfl
  have checks : Follows invariant ∅ (checkProcessesCode answers fun _ => .done) :=
    follows_checkProcesses keeps ends
  unfold monitorRoundCode updateMetricsCode checkThermalCode
  refine follows_metricsLock (fun _ => ?_) fun close closes memory kept =>
    ⟨keeps.temperature memory temperatureC kept, closes ()⟩
  refine follows_metricsLock (fun temp => ?_) fun close closes =>
    follows_readMemory fun memory _ => closes _
  refine follows_readMemory fun first _ => ?_
  split
  · exact follows_stop keeps thread (Or.inl rfl) checks
  · refine follows_readMemory fun second _ => ?_
    split
    · refine follows_readMemory fun third _ => ?_
      split
      · exact follows_writeState keeps SupervisorState.noConfusion checks
      · exact checks
    · refine follows_readMemory fun third _ => ?_
      split
      · exact follows_writeState keeps SupervisorState.noConfusion checks
      · exact checks

/-- The calls and the signals keep the discipline. -/
theorem supervisorProgram_disciplined :
    supervisorProgram.Disciplined (supervisorDiscipline invariant) := by
  have ends : Follows invariant ∅ .done := rfl
  refine ⟨fun thread made => ?_, fun thread sent next held follows => ?_⟩
  · change Follows invariant ∅ (supervisorCallOn thread made)
    unfold supervisorCallOn
    split
    · exact follows_registerProcess keeps _ _ _ _ ends
    · exact follows_startProcess keeps _ fun _ => ends
    · exact follows_stopProcess keeps _ fun _ => ends
    · exact follows_metricsLock (fun _ => ends) fun close closes =>
        follows_readMemory fun _ _ => closes ()
    · exact follows_stop keeps thread (Or.inl rfl) ends
    · exact follows_handleHealthCommand keeps thread _
    · exact follows_writeShared keeps (fun _ => Or.inl SupervisorState.noConfusion) ends
    · exact follows_monitorRound keeps thread _
    · refine follows_readMemory fun memory _ => ?_
      split
      · exact follows_sendStatus keeps fun _ => ends
      · exact ends
  · change Follows invariant held (signalHandlerOn thread sent next)
    unfold signalHandlerOn
    split
    · exact follows_stop keeps .main (Or.inr rfl) follows
    · exact follows

end

/-! ### Runs -/

theorem supervisorThreads_disciplined {invariant : SupervisorMemory → Prop}
    (keeps : Keeps invariant) {config : SupervisorConfig}
    {processes : List (String × ProcessInfo)}
    (initial : invariant (supervisorThreads config processes).state) :
    (supervisorThreads config processes).Disciplined (supervisorDiscipline invariant) := by
  have unheld : ∀ thread, (supervisorThreads config processes).held thread = ∅ := fun thread =>
    Set.eq_empty_of_forall_notMem fun lock mine => nomatch mine
  refine ⟨initial, fun thread => ?_⟩
  rw [unheld thread]
  change Follows invariant ∅ (if thread = .main then writeState .running .done else .done)
  split
  · exact follows_writeState keeps SupervisorState.noConfusion rfl
  · rfl

/-- A supervisor with a process in its table that is not stopped. -/
def Manages (memory : SupervisorMemory) : Prop :=
  memory.supervisor.processes ≠ [] ∧ memory.supervisor.shared.state ≠ .stopped

theorem keeps_manages : Keeps Manages where
  shared memory change lasts kept := by
    refine ⟨kept.1, ?_⟩
    rcases lasts memory.supervisor.shared with other | same
    · exact other
    · exact fun stopped => kept.2 (same.symm.trans stopped)
  setProcess memory name info kept := by
    unfold PayloadSupervisor.setProcess
    split
    · exact ⟨fun empty => kept.1 (List.map_eq_nil_iff.mp empty), kept.2⟩
    · exact ⟨List.append_ne_nil_of_right_ne_nil _ (List.cons_ne_nil _ _), kept.2⟩
  modifyProcess memory name change kept :=
    ⟨fun empty => kept.1 (List.map_eq_nil_iff.mp empty), kept.2⟩
  temperature memory temperatureC kept := kept
  stops seen memory kept empty _ := absurd empty kept.1

/-- A supervisor with a health interface. -/
def HasHealth (memory : SupervisorMemory) : Prop := memory.supervisor.health = true

theorem keeps_hasHealth : Keeps HasHealth where
  shared memory change lasts kept := kept
  setProcess memory name info kept := by
    unfold HasHealth PayloadSupervisor.setProcess
    split <;> exact kept
  modifyProcess memory name change kept := kept
  temperature memory temperatureC kept := kept
  stops seen memory _ _ kept := kept

/-- Over every interleaving of the threads of a supervisor with a process in its table, the state
never becomes `STOPPED`. -/
theorem supervisor_neverStopped (config : SupervisorConfig) (first : String × ProcessInfo)
    (others : List (String × ProcessInfo))
    (events : List (Event SupervisorThread SupervisorCall Answers)) :
    Throughout supervisorProgram.event
      (fun threads => threads.state.supervisor.shared.state ≠ .stopped)
      (supervisorThreads config (first :: others)) events := by
  have initial : Manages (supervisorThreads config (first :: others)).state :=
    ⟨List.cons_ne_nil _ _, SupervisorState.noConfusion⟩
  exact ((supervisorProgram_disciplined keeps_manages).throughout
    (supervisorThreads_disciplined keeps_manages initial) events).mono
    fun _ reached => reached.kept.2

/-- At every time of every run, unless all threads have ended what they were given, some thread can
go on or one waits for `_process_lock` that it holds itself. -/
theorem supervisor_goesOn (config : SupervisorConfig) (processes : List (String × ProcessInfo))
    (events : List (Event SupervisorThread SupervisorCall Answers)) :
    Throughout supervisorProgram.event
      (fun threads => (∀ thread, threads.code thread = .done) ∨
        (∃ thread, threads.CanAdvance thread) ∨
          ∃ thread, threads.WaitsForItself thread .process)
      (supervisorThreads config processes) events := by
  have bounded : ∀ lock : SupervisorLock, lock.rank < 2 := fun lock => by cases lock <;> decide
  refine ((supervisorProgram_disciplined keeps_hasHealth).throughout
    (supervisorThreads_disciplined keeps_hasHealth rfl) events).mono fun threads reached => ?_
  refine (reached.goesOn bounded).imp_right fun others => others.imp_right fun waits => ?_
  obtain ⟨thread, lock, rfl, itself⟩ := waits
  exact ⟨thread, itself⟩

/-! ### The lost lock -/

/-- The calls that cannot end without `_process_lock`. -/
def SupervisorCall.NeedsProcessLock : SupervisorCall → Prop
  | .registerProcess .. | .startProcess .. | .stopProcess .. | .stop .. | .monitorRound .. => True
  | .getMetrics | .obcDisconnect => False
  | .healthCommand data _ =>
    data.command = .statusRequest ∨ data.command = .shutdown ∨ data.command = .restart
  | .statusRound answers => answers.connected = true

/-- The code asks for `_process_lock` before it gives it back. -/
abbrev AsksProcessLock (code : SupervisorCode) : Prop := code.Asks HasHealth {.process}

theorem asks_stop (thread : SupervisorThread) (answers : Answers) (rest : Unit → SupervisorCode) :
    AsksProcessLock (stopCode thread answers rest) :=
  fun _ _ _ _ => Or.inl rfl

theorem asks_sendStatus (answers : Answers)
    (rest : Option (HealthStatus × SupervisorState × List ProcessStatus) → SupervisorCode) :
    AsksProcessLock (sendStatusCode answers rest) := by
  intro memory healthy
  dsimp only
  rw [if_pos (show memory.supervisor.health = true from healthy)]
  exact Or.inr fun _ _ => Or.inl rfl

theorem asks_writeState {next : SupervisorCode} (asks : AsksProcessLock next)
    (state : SupervisorState) : AsksProcessLock (writeState state next) := fun _ _ => asks

theorem asks_monitorRound (thread : SupervisorThread) (temperatureC : ℚ) (answers : Answers) :
    AsksProcessLock (monitorRoundCode thread temperatureC answers) := by
  have foreign : SupervisorLock.metrics ∉ ({.process} : Set SupervisorLock) :=
    fun same => nomatch same
  have checks : AsksProcessLock (checkProcessesCode answers fun _ => .done) := Or.inl rfl
  refine Or.inr fun _ _ => ⟨foreign, Or.inr fun _ _ => ⟨foreign, fun first _ => ?_⟩⟩
  dsimp only
  split
  · exact asks_stop thread answers _
  · refine fun second _ => ?_
    dsimp only
    split
    · refine fun third _ => ?_
      dsimp only
      split
      · exact asks_writeState checks _
      · exact checks
    · refine fun third _ => ?_
      dsimp only
      split
      · exact asks_writeState checks _
      · exact checks

theorem SupervisorCall.NeedsProcessLock.asks {made : SupervisorCall}
    (needs : made.NeedsProcessLock) (thread : SupervisorThread) :
    AsksProcessLock (supervisorCallOn thread made) := by
  cases made with
  | registerProcess name command restartOnFailure maxRestarts => exact Or.inl rfl
  | startProcess name answers => exact Or.inl rfl
  | stopProcess name answers => exact Or.inl rfl
  | getMetrics => exact needs.elim
  | stop answers => exact asks_stop thread answers fun _ => .done
  | healthCommand data answers =>
    change AsksProcessLock (handleHealthCommandCode thread answers data)
    unfold handleHealthCommandCode
    rcases needs with status | shutdown | restart
    · rw [status]
      exact asks_sendStatus answers _
    · rw [shutdown]
      exact asks_stop thread answers _
    · rw [restart]
      exact Or.inl rfl
  | obcDisconnect => exact needs.elim
  | monitorRound temperatureC answers => exact asks_monitorRound thread temperatureC answers
  | statusRound answers =>
    intro memory healthy
    dsimp only
    rw [show (memory.supervisor.health && answers.connected) = true from
      Bool.and_eq_true_iff.mpr ⟨healthy, needs⟩, if_pos rfl]
    exact asks_sendStatus answers _

theorem signalHandlerOn_asks : supervisorProgram.HandlersAsk HasHealth {.process} := by
  intro thread sent next asks
  change AsksProcessLock (signalHandlerOn thread sent next)
  unfold signalHandlerOn
  split
  · exact asks_stop .main sent _
  · exact asks

/-- Answers of a system in which everything works. -/
def workingAnswers : Answers := ⟨fun _ => some 1, fun _ => true, fun _ => false, true, true⟩

/-- The table of `main`. -/
def llamaRunner : String × ProcessInfo :=
  ("llama_runner", ⟨["python3", "llama_runner.py"], true, 3, 0, some 1⟩)

/-- The main thread stops the supervisor. -/
def stopBegun : List (Event SupervisorThread SupervisorCall Answers) :=
  .advance .main :: .call .main (.stop workingAnswers) :: List.replicate 4 (.advance .main)

end SmartQso.Payload
