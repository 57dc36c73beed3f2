/-
This file settles when the payload supervisor waits for its own lock.
`_stop_all_processes` and `_restart_all_processes` hold `_process_lock` while they call
`stop_process` for each process, and `_check_processes` holds it while it restarts one;
these take the lock again. So each of the calls returns exactly when its table gives it
nothing of that kind to do.
-/

import SmartQso.PayloadSupervisor

namespace SmartQso.Payload

open NonReentrantLock Runs

/-- A call that is made from outside, with what the surroundings answer. -/
inductive ProcessCall
  | registerProcess (name : String) (command : List String) (restartOnFailure : Bool)
      (maxRestarts : Int)
  | startProcess (name : String)
  | stopProcess (name : String)
  | stop
  | checkProcesses
  | restartAllProcesses
  | sendStatus

/-- Make a call. -/
def processCall (made : ProcessCall × Answers) : Call PayloadSupervisor Unit :=
  match made.1 with
  | .registerProcess name command restartOnFailure maxRestarts =>
    Payload.registerProcess name command restartOnFailure maxRestarts
  | .startProcess name => do
    let _ ← Payload.startProcess made.2 name
    pure ()
  | .stopProcess name => do
    let _ ← Payload.stopProcess made.2 name
    pure ()
  | .stop => Payload.stop made.2
  | .checkProcesses => Payload.checkProcesses made.2
  | .restartAllProcesses => Payload.restartAllProcesses made.2
  | .sendStatus => do
    let _ ← Payload.sendStatus made.2
    pure ()

/-- A process that `_check_processes` would restart. -/
def ProcessInfo.Restarts (info : ProcessInfo) (exited : Bool) : Prop :=
  info.process.isSome = true ∧ exited = true ∧ info.restartOnFailure = true ∧
    info.restartCount < info.maxRestarts

/-- The call finds nothing in the table for which it takes the lock a second time. -/
def TakesLockOnce (supervisor : PayloadSupervisor) (made : ProcessCall × Answers) : Prop :=
  match made.1 with
  | .stop => supervisor.processes = []
  | .restartAllProcesses => supervisor.processes = []
  | .checkProcesses => ∀ entry ∈ supervisor.processes, ¬ entry.2.Restarts (made.2.exited entry.1)
  | _ => True

/-! ### Single calls -/

variable (answers : Answers)

theorem returns_registerProcess_iff (name : String) (command : List String)
    (restartOnFailure : Bool) (maxRestarts : Int) (start : Locked PayloadSupervisor) :
    Returns (registerProcess name command restartOnFailure maxRestarts) start ↔
      start.held = false :=
  returns_withLock_iff.trans (and_iff_left (returns_modifyState _ _))

theorem returns_startProcess_iff (name : String) (start : Locked PayloadSupervisor) :
    Returns (startProcess answers name) start ↔ start.held = false := by
  refine returns_withLock_iff.trans (and_iff_left (returns_getState_bind_iff.mpr ?_))
  split
  · exact returns_pure _ _
  · split
    · exact returns_pure _ _
    · exact returns_modifyState_bind_iff.mpr (returns_pure _ _)

theorem returns_stopProcess_iff (name : String) (start : Locked PayloadSupervisor) :
    Returns (stopProcess answers name) start ↔ start.held = false := by
  refine returns_withLock_iff.trans (and_iff_left (returns_getState_bind_iff.mpr ?_))
  split
  · exact returns_pure _ _
  · split
    · exact returns_pure _ _
    · split
      · exact returns_modifyState_bind_iff.mpr (returns_pure _ _)
      · exact returns_pure _ _

theorem returns_sendStatus_iff (start : Locked PayloadSupervisor) :
    Returns (sendStatus answers) start ↔ start.held = false ∨ start.state.health = false := by
  rw [sendStatus, returns_getState_bind_iff]
  cases healthy : start.state.health with
  | false => exact iff_of_true (returns_pure _ _) (Or.inr rfl)
  | true =>
    rw [if_pos rfl, returns_bind_of_returns]
    · rw [or_iff_left (by decide)]
      exact returns_withLock_iff.trans (and_iff_left (returns_getState_bind_iff.mpr
        (returns_pure _ _)))
    · intro processes finish
      split
      · exact returns_modifyState_bind_iff.mpr (returns_pure _ _)
      · exact returns_pure _ _

/-! ### Loops under the lock -/

theorem balanced_startProcess (name : String) : Balanced (startProcess answers name) :=
  balanced_withLock _

theorem balanced_stopProcess (name : String) : Balanced (stopProcess answers name) :=
  balanced_withLock _

theorem balanced_checkProcess (name : String) (info : ProcessInfo) :
    Balanced (checkProcess answers name info) := by
  unfold checkProcess
  split
  · exact balanced_pure _
  · split
    · refine (balanced_modifyState _).bind fun _ => ?_
      split
      · split
        · refine (balanced_modifyState _).bind fun _ => ?_
          exact (balanced_startProcess answers name).bind fun _ => balanced_pure _
        · exact balanced_pure _
      · exact balanced_pure _
    · exact balanced_pure _

/-- Under the lock a round of the check returns unless it restarts the process. -/
theorem returns_checkProcess_iff (entry : String × ProcessInfo)
    {start : Locked PayloadSupervisor} (held : start.held = true) :
    Returns (checkProcess answers entry.1 entry.2) start ↔
      ¬ entry.2.Restarts (answers.exited entry.1) := by
  unfold checkProcess ProcessInfo.Restarts
  cases running : entry.2.process with
  | none => exact iff_of_true (returns_pure _ _) (by simp)
  | some pid =>
    simp only [Option.isNone_some, Bool.false_eq_true, if_false, Option.isSome_some, true_and]
    cases exited : answers.exited entry.1 with
    | false => exact iff_of_true (returns_pure _ _) (by simp)
    | true =>
      simp only [if_true, true_and]
      rw [returns_modifyState_bind_iff]
      cases restarts : entry.2.restartOnFailure with
      | false => exact iff_of_true (returns_pure _ _) (by simp)
      | true =>
        simp only [if_true, true_and]
        by_cases left : entry.2.restartCount < entry.2.maxRestarts
        · rw [if_pos left, returns_modifyState_bind_iff,
            returns_bind_of_returns (fun _ finish => returns_pure _ finish),
            returns_startProcess_iff]
          exact iff_of_false (fun free => absurd (held.symm.trans free) (by decide))
            (not_not.mpr left)
        · rw [if_neg left]
          exact iff_of_true (returns_pure _ _) left

/-- A loop under the lock that takes it for each process returns when there is none. -/
theorem returns_perform_blocked_iff {call : String → Call PayloadSupervisor Unit}
    (blocks : ∀ name start, start.held = true → ¬ Returns (call name) start)
    {start : Locked PayloadSupervisor} (held : start.held = true)
    (processes : List (String × ProcessInfo)) :
    Returns (perform call (processes.map Prod.fst)) start ↔ processes = [] := by
  cases processes with
  | nil => exact iff_of_true (returns_pure _ _) rfl
  | cons entry rest =>
    refine iff_of_false (fun returned => ?_) (List.cons_ne_nil _ _)
    rw [List.map_cons, perform, returns_bind_iff] at returned
    obtain ⟨value, finish, ends, _⟩ := returned
    exact blocks entry.1 start held ⟨value, finish, ends⟩

theorem returns_stopAllProcesses_iff {start : Locked PayloadSupervisor}
    (free : start.held = false) :
    Returns (stopAllProcesses answers) start ↔ start.state.processes = [] := by
  rw [stopAllProcesses, returns_withLock_iff, and_iff_right free, returns_getState_bind_iff]
  refine returns_perform_blocked_iff (fun name start held returned => ?_) rfl _
  rw [returns_bind_of_returns (fun _ finish => returns_pure _ finish),
    returns_stopProcess_iff] at returned
  exact absurd (held.symm.trans returned) (by decide)

theorem returns_restartAllProcesses_iff {start : Locked PayloadSupervisor}
    (free : start.held = false) :
    Returns (restartAllProcesses answers) start ↔ start.state.processes = [] := by
  rw [restartAllProcesses, returns_withLock_iff, and_iff_right free, returns_getState_bind_iff]
  refine returns_perform_blocked_iff (fun name start held returned => ?_) rfl _
  obtain ⟨value, finish, ends, _⟩ := returns_bind_iff.mp returned
  have stopped := (returns_stopProcess_iff answers name start).mp ⟨value, finish, ends⟩
  exact absurd (held.symm.trans stopped) (by decide)

theorem returns_checkProcesses_iff {start : Locked PayloadSupervisor}
    (free : start.held = false) :
    Returns (checkProcesses answers) start ↔
      ∀ entry ∈ start.state.processes, ¬ entry.2.Restarts (answers.exited entry.1) := by
  rw [checkProcesses, returns_withLock_iff, and_iff_right free, returns_getState_bind_iff]
  exact returns_perform_held_iff (fun entry _ held => returns_checkProcess_iff answers entry held)
    (fun entry => balanced_checkProcess answers entry.1 entry.2) rfl _

theorem returns_stop_iff {start : Locked PayloadSupervisor} (free : start.held = false) :
    Returns (stop answers) start ↔ start.state.processes = [] := by
  rw [stop, returns_modifyState_bind_iff,
    returns_bind_of_returns (fun _ finish => returns_modifyState _ finish)]
  exact returns_stopAllProcesses_iff answers free

/-! ### Sequences of calls -/

variable {answers}

/-- With the lock free, a call returns exactly when it takes the lock once. -/
theorem returns_processCall_iff {start : Locked PayloadSupervisor} (free : start.held = false)
    (made : ProcessCall × Answers) :
    Returns (processCall made) start ↔ TakesLockOnce start.state made := by
  have ignored {Value : Type} (value : Value) (finish : Locked PayloadSupervisor) :
      Returns (pure () : Call PayloadSupervisor Unit) finish := returns_pure _ _
  obtain ⟨call, answers⟩ := made
  cases call with
  | registerProcess name command restartOnFailure maxRestarts =>
    exact iff_of_true ((returns_registerProcess_iff _ _ _ _ _).mpr free) trivial
  | startProcess name =>
    refine iff_of_true ((returns_bind_of_returns ignored).mpr ?_) trivial
    exact (returns_startProcess_iff _ _ _).mpr free
  | stopProcess name =>
    refine iff_of_true ((returns_bind_of_returns ignored).mpr ?_) trivial
    exact (returns_stopProcess_iff _ _ _).mpr free
  | stop => exact returns_stop_iff answers free
  | checkProcesses => exact returns_checkProcesses_iff answers free
  | restartAllProcesses => exact returns_restartAllProcesses_iff answers free
  | sendStatus =>
    refine iff_of_true ((returns_bind_of_returns ignored).mpr ?_) trivial
    exact (returns_sendStatus_iff _ _).mpr (Or.inl free)

theorem balanced_stop (answers : Answers) : Balanced (stop answers) :=
  (balanced_modifyState _).bind fun _ =>
    (balanced_withLock _).bind fun _ => balanced_modifyState _

theorem balanced_sendStatus (answers : Answers) : Balanced (sendStatus answers) := by
  refine balanced_getState.bind fun supervisor => ?_
  split
  · refine (balanced_withLock _).bind fun processes => ?_
    split
    · exact (balanced_modifyState _).bind fun _ => balanced_pure _
    · exact balanced_pure _
  · exact balanced_pure _

theorem balanced_processCall (made : ProcessCall × Answers) : Balanced (processCall made) := by
  obtain ⟨call, answers⟩ := made
  cases call with
  | registerProcess name command restartOnFailure maxRestarts =>
    show Balanced (Payload.registerProcess name command restartOnFailure maxRestarts)
    exact balanced_withLock _
  | startProcess name => exact (balanced_startProcess answers name).bind fun _ => balanced_pure _
  | stopProcess name => exact (balanced_stopProcess answers name).bind fun _ => balanced_pure _
  | stop => exact balanced_stop answers
  | checkProcesses => exact balanced_withLock _
  | restartAllProcesses => exact balanced_withLock _
  | sendStatus => exact (balanced_sendStatus answers).bind fun _ => balanced_pure _

/-- A sequence of calls on one thread returns exactly when `stop` and `_restart_all_processes` find
no process registered, and `_check_processes` none that it would restart. -/
theorem processCalls_return_iff (supervisor : PayloadSupervisor)
    (calls : List (ProcessCall × Answers)) :
    Returns (perform processCall calls) ⟨false, supervisor⟩ ↔
      EachStep (fun reached made => after (processCall made) reached)
        (fun reached made => TakesLockOnce reached.state made) ⟨false, supervisor⟩ calls := by
  rw [returns_perform_iff]
  refine @eachStep_iff_of_invariant (Locked PayloadSupervisor) _ _
    (fun reached => reached.held = false) _ _ ?_
    (fun _ made free => returns_processCall_iff free made) ⟨false, supervisor⟩ rfl calls
  intro reached made held returned
  exact ((balanced_processCall made).after_held returned).trans held

/-- A supervisor that stops with a process in its table waits for its own lock. -/
theorem processCalls_block :
    ¬ ∀ (supervisor : PayloadSupervisor) (calls : List (ProcessCall × Answers)),
      Returns (perform processCall calls) ⟨false, supervisor⟩ := by
  intro claimed
  let answers : Answers := ⟨fun _ => some 1, fun _ => true, fun _ => false, false, false⟩
  let registered : PayloadSupervisor :=
    ⟨start (Shared.new SupervisorConfig.default), true,
      [("llama_runner", ⟨["python3", "llama_runner.py"], true, 3, 0, none⟩)]⟩
  have returned := (returns_perform_iff _ _ _).mp (claimed registered [(.stop, answers)])
  have empty := (returns_stop_iff answers rfl).mp returned.1
  exact absurd empty (List.cons_ne_nil _ _)

end SmartQso.Payload
