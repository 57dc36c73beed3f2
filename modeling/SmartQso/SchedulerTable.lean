/-
This file settles the names in the task table. A task is registered only under a name
that no registered task has, and no call changes the name of a registered task, so
the names stay pairwise different whatever happens to the scheduler. A name is looked up
among the registered tasks only; the name that an unregistered one has left in its slot
is not found.
-/

import SmartQso.CStrings
import SmartQso.SchedulerRuns

namespace SmartQso

open CStrings Runs

/-! ### Names and handles -/

/-- `SCHED_INVALID_HANDLE`. -/
def schedInvalidHandle : UInt8 := 0xFF

/-- `strncmp`. -/
def strncmp (first second : List UInt8) (limit : Nat) : Ordering :=
  compareUpTo (fun left right => decide (left < right)) limit first second

/-- `strncmp` looks at the compared characters of a name. -/
theorem strncmp_eq_iff (first second : List UInt8) :
    strncmp first second schedMaxTaskName = .eq ↔ comparedName first = comparedName second :=
  compareUpTo_eq_iff _ schedMaxTaskName first second

/-- The handle of the task in a slot. -/
def handleOf (slot : TaskSlot) : UInt8 := UInt8.ofNat slot.val

/-- The task in a slot is registered and has the name. -/
def hasName (sched : Scheduler) (name : List UInt8) (slot : TaskSlot) : Bool :=
  (sched.tasks slot).registered &&
    strncmp (sched.tasks slot).config.name name schedMaxTaskName == .eq

/-- `scheduler_get_handle_by_name`; none stands for a null pointer. -/
def schedulerGetHandleByName (sched : Scheduler) : Option (List UInt8) → UInt8
  | none => schedInvalidHandle
  | some name =>
    match (List.finRange 16).find? (hasName sched name) with
    | some slot => handleOf slot
    | none => schedInvalidHandle

/-- `scheduler_get_task_name`; none stands for a null pointer. -/
def schedulerGetTaskName (sched : Scheduler) (handle : UInt8) : Option (List UInt8) :=
  if inRange : handle.toNat < 16 then
    if (sched.tasks ⟨handle.toNat, inRange⟩).registered then
      some (sched.tasks ⟨handle.toNat, inRange⟩).config.name
    else none
  else none

/-- `scheduler_register_task` with its pointers. The handle is the one the caller has stored before,
and after the call the one stored then; none stands for a null pointer. -/
def registerTaskAt (sched : Scheduler) (config : Option TaskConfig) (handle : Option UInt8) :
    Scheduler × SchedStatus × Option UInt8 :=
  match config, handle with
  | some config, some stored =>
    let registration := schedulerRegisterTask sched config
    (registration.1, registration.2.1, some ((registration.2.2.map handleOf).getD stored))
  | _, _ => (sched, .errorInvalidParam, handle)

/-- The name of a registered task, as far as it is compared. -/
def TaskTcb.taskName (tcb : TaskTcb) : Option (List UInt8) :=
  if tcb.registered then some (comparedName tcb.config.name) else none

theorem TaskTcb.taskName_eq_some_iff {tcb : TaskTcb} {name : List UInt8} :
    tcb.taskName = some name ↔ tcb.registered = true ∧ comparedName tcb.config.name = name := by
  unfold taskName
  split
  case isTrue registered =>
    rw [Option.some_inj, and_iff_right registered]
  case isFalse unregistered =>
    exact iff_of_false (by rintro ⟨⟩) fun both => unregistered both.1

theorem hasName_iff (sched : Scheduler) (name : List UInt8) (slot : TaskSlot) :
    hasName sched name slot = true ↔
      (sched.tasks slot).taskName = some (comparedName name) := by
  unfold hasName
  rw [TaskTcb.taskName_eq_some_iff, Bool.and_eq_true, beq_iff_eq, strncmp_eq_iff]

/-- The registered tasks have pairwise different names. -/
def UniqueNames (sched : Scheduler) : Prop :=
  ∀ slot other name, (sched.tasks slot).taskName = some name →
    (sched.tasks other).taskName = some name → slot = other

/-! ### What a call does to the names -/

/-- No task has a name after a call that it has not had before. -/
def NamesKept (before after : Scheduler) : Prop :=
  ∀ slot name, (after.tasks slot).taskName = some name → (before.tasks slot).taskName = some name

theorem UniqueNames.kept {before after : Scheduler} (unique : UniqueNames before)
    (kept : NamesKept before after) : UniqueNames after :=
  fun slot other name first second =>
    unique slot other name (kept slot name first) (kept other name second)

/-- A control block is written that has the name of the one before, or none. -/
theorem namesKept_setTask (sched : Scheduler) (slot : TaskSlot) {tcb : TaskTcb}
    (same : ∀ name, tcb.taskName = some name → (sched.tasks slot).taskName = some name) :
    NamesKept sched (sched.setTask slot tcb) := by
  intro other name named
  by_cases here : other = slot
  · rw [here, Scheduler.setTask_tasks_self] at named
    rw [here]
    exact same name named
  · rw [Scheduler.setTask_tasks_of_ne sched tcb here] at named
    exact named

theorem namesKept_writeTask (sched : Scheduler) (handle : UInt8) {write : TaskTcb → TaskTcb}
    (same : ∀ tcb, (write tcb).taskName = tcb.taskName) :
    NamesKept sched (writeTask sched handle write).1 := by
  unfold writeTask
  cases registeredSlot sched handle with
  | error status => exact fun _ _ named => named
  | ok slot => exact namesKept_setTask sched slot fun name named => (same _).symm.trans named

theorem namesKept_unregister (sched : Scheduler) (handle : UInt8) :
    NamesKept sched (schedulerUnregisterTask sched handle).1 := by
  unfold schedulerUnregisterTask
  cases registeredSlot sched handle with
  | error status => exact fun _ _ named => named
  | ok slot =>
    dsimp only
    split
    · exact fun _ _ named => named
    · exact namesKept_setTask sched slot (by rintro name ⟨⟩)

theorem namesKept_setPeriod (sched : Scheduler) (handle : UInt8) (periodMs : UInt32) :
    NamesKept sched (schedulerSetPeriod sched handle periodMs).1 := by
  unfold schedulerSetPeriod
  split
  · exact fun _ _ named => named
  · exact namesKept_writeTask sched handle fun _ => rfl

theorem namesKept_runTaskBegins (sched : Scheduler) (slot : TaskSlot) :
    NamesKept sched (schedRunTaskBegins sched slot) :=
  namesKept_setTask sched slot fun _ named => named

theorem namesKept_runNow (run : SchedRun) (handle : UInt8) :
    NamesKept run.sched (schedulerRunNow run handle).sched := by
  unfold schedulerRunNow
  cases registeredSlot run.sched handle with
  | error status => exact fun _ _ named => named
  | ok slot => exact namesKept_runTaskBegins run.sched slot

theorem namesKept_tick (run : SchedRun) : NamesKept run.sched (schedulerTick run).sched := by
  unfold schedulerTick
  dsimp only
  cases schedFindReadyTask (countTick run.sched) with
  | none => exact fun _ _ named => named
  | some slot => exact namesKept_runTaskBegins (countTick run.sched) slot

theorem namesKept_bodyReturns (run : SchedRun) : NamesKept run.sched (bodyReturns run).sched := by
  unfold bodyReturns
  cases run.bodies with
  | nil => exact fun _ _ named => named
  | cons slot rest =>
    intro other name named
    dsimp only at named
    rw [schedRunTaskEnds_tasks] at named
    exact @namesKept_setTask run.sched slot (finishedTask (run.sched.tasks slot) _)
      (fun _ same => same) other name named

/-- A registration is refused, or made under a name that is not taken. -/
theorem schedulerRegisterTask_cases (sched : Scheduler) (config : TaskConfig) :
    (∃ status, status ≠ .ok ∧ schedulerRegisterTask sched config = (sched, status, none)) ∨
    ∃ slot, nameTaken sched config.name = false ∧
      schedulerRegisterTask sched config =
        (sched.setTask slot (registeredTask config sched.tickCount), .ok, some slot) := by
  unfold schedulerRegisterTask
  by_cases null : config.func.isNone
  · rw [if_pos null]
    exact Or.inl ⟨.errorInvalidParam, by decide, rfl⟩
  rw [if_neg null]
  by_cases outside : config.periodMs < schedMinPeriodMs ∨ config.periodMs > schedMaxPeriodMs
  · rw [if_pos outside]
    exact Or.inl ⟨.errorInvalidParam, by decide, rfl⟩
  rw [if_neg outside]
  cases emptySlot sched with
  | none => exact Or.inl ⟨.errorTableFull, by decide, rfl⟩
  | some slot =>
    cases taken : nameTaken sched config.name with
    | true => exact Or.inl ⟨.errorAlreadyExists, by decide, rfl⟩
    | false => exact Or.inr ⟨slot, rfl, rfl⟩

theorem nameTaken_iff (sched : Scheduler) (name : List UInt8) :
    nameTaken sched name = true ↔
      ∃ slot, (sched.tasks slot).taskName = some (comparedName name) := by
  simp only [nameTaken, List.any_eq_true, List.mem_finRange, true_and, Bool.and_eq_true, beq_iff_eq,
    TaskTcb.taskName_eq_some_iff]

theorem uniqueNames_register {sched : Scheduler} (unique : UniqueNames sched)
    (config : TaskConfig) : UniqueNames (schedulerRegisterTask sched config).1 := by
  rcases schedulerRegisterTask_cases sched config with
    ⟨status, -, refused⟩ | ⟨slot, free, registered⟩
  · rw [refused]
    exact unique
  rw [registered]
  have absent : ∀ other, (sched.tasks other).taskName ≠ some (comparedName config.name) := by
    intro other named
    have taken := (nameTaken_iff sched config.name).mpr ⟨other, named⟩
    exact Bool.false_ne_true (free.symm.trans taken)
  have newName : ∀ name, (registeredTask config sched.tickCount).taskName = some name →
      comparedName config.name = name := fun name named => Option.some.inj named
  intro first second name firstNamed secondNamed
  dsimp only at firstNamed secondNamed
  by_cases firstHere : first = slot
  · by_cases secondHere : second = slot
    · exact firstHere.trans secondHere.symm
    · rw [firstHere, Scheduler.setTask_tasks_self] at firstNamed
      rw [Scheduler.setTask_tasks_of_ne sched _ secondHere,
        ← newName name firstNamed] at secondNamed
      exact absurd secondNamed (absent second)
  · rw [Scheduler.setTask_tasks_of_ne sched _ firstHere] at firstNamed
    by_cases secondHere : second = slot
    · rw [secondHere, Scheduler.setTask_tasks_self] at secondNamed
      rw [← newName name secondNamed] at firstNamed
      exact absurd firstNamed (absent first)
    · rw [Scheduler.setTask_tasks_of_ne sched _ secondHere] at secondNamed
      exact unique first second name firstNamed secondNamed

theorem uniqueNames_schedEvent (run : SchedRun) (event : SchedEvent)
    (unique : UniqueNames run.sched) : UniqueNames (schedEvent run event).sched := by
  cases event with
  | register config => exact uniqueNames_register unique config
  | unregister handle => exact unique.kept (namesKept_unregister run.sched handle)
  | enable handle => exact unique.kept (namesKept_writeTask run.sched handle fun _ => rfl)
  | disable handle => exact unique.kept (namesKept_writeTask run.sched handle fun _ => rfl)
  | suspend handle => exact unique.kept (namesKept_writeTask run.sched handle fun _ => rfl)
  | resume handle =>
    refine unique.kept (namesKept_writeTask run.sched handle fun tcb => ?_)
    split <;> rfl
  | setPeriod handle periodMs => exact unique.kept (namesKept_setPeriod run.sched handle periodMs)
  | runNow handle => exact unique.kept (namesKept_runNow run handle)
  | tick => exact unique.kept (namesKept_tick run)
  | bodyReturns => exact unique.kept (namesKept_bodyReturns run)
  | start =>
    refine unique.kept ?_
    dsimp only [schedEvent, schedulerStart]
    split <;> exact fun _ _ named => named
  | stop => exact unique

theorem uniqueNames_schedulerInit : UniqueNames schedulerInit := by
  rintro slot other name ⟨⟩

/-! ### The integrity of the table -/

/-- The names are unique, the handle of a name is the one of the registered task with it, the name
of a handle is the one of its task, and a registration that is refused leaves the table and the
handle of the caller as they were. -/
structure TableIntegrity (sched : Scheduler) : Prop where
  unique : ∀ slot other, (sched.tasks slot).registered = true →
    (sched.tasks other).registered = true →
    strncmp (sched.tasks slot).config.name (sched.tasks other).config.name schedMaxTaskName = .eq →
      slot = other
  found : ∀ name slot, hasName sched name slot = true →
    schedulerGetHandleByName sched (some name) = handleOf slot
  named : ∀ slot, (sched.tasks slot).registered = true →
    schedulerGetTaskName sched (handleOf slot) = some (sched.tasks slot).config.name
  absent : ∀ name, schedulerGetHandleByName sched (some name) = schedInvalidHandle ↔
    ∀ slot, hasName sched name slot = false
  refused : ∀ config handle, (registerTaskAt sched config handle).2.1 ≠ .ok →
    (registerTaskAt sched config handle).1.tasks = sched.tasks ∧
      (registerTaskAt sched config handle).2.2 = handle

theorem handleOf_toNat (slot : TaskSlot) : (handleOf slot).toNat = slot.val :=
  UInt8.toNat_ofNat_of_lt' (slot.isLt.trans (by decide))

theorem handleOf_ne_invalid (slot : TaskSlot) : handleOf slot ≠ schedInvalidHandle := by
  intro same
  have number := congrArg UInt8.toNat same
  rw [handleOf_toNat] at number
  exact absurd slot.isLt (by rw [number]; decide)

theorem schedulerGetHandleByName_found {sched : Scheduler} (unique : UniqueNames sched)
    {name : List UInt8} {slot : TaskSlot} (named : hasName sched name slot = true) :
    schedulerGetHandleByName sched (some name) = handleOf slot := by
  dsimp only [schedulerGetHandleByName]
  cases search : (List.finRange 16).find? (hasName sched name) with
  | none =>
    exact absurd named (List.find?_eq_none.mp search slot (List.mem_finRange slot))
  | some first =>
    have same := unique first slot (comparedName name)
      ((hasName_iff sched name first).mp (List.find?_some search))
      ((hasName_iff sched name slot).mp named)
    exact congrArg handleOf same

/-- A name is not found exactly when no registered task has it. -/
theorem schedulerGetHandleByName_eq_invalid_iff (sched : Scheduler) (name : List UInt8) :
    schedulerGetHandleByName sched (some name) = schedInvalidHandle ↔
      ∀ slot, hasName sched name slot = false := by
  dsimp only [schedulerGetHandleByName]
  cases search : (List.finRange 16).find? (hasName sched name) with
  | none =>
    refine iff_of_true rfl fun slot => eq_false_of_ne_true ?_
    exact List.find?_eq_none.mp search slot (List.mem_finRange slot)
  | some slot =>
    refine iff_of_false (handleOf_ne_invalid slot) fun absent => ?_
    exact Bool.false_ne_true ((absent slot).symm.trans (List.find?_some search))

theorem schedulerGetTaskName_handleOf {sched : Scheduler} {slot : TaskSlot}
    (registered : (sched.tasks slot).registered = true) :
    schedulerGetTaskName sched (handleOf slot) = some (sched.tasks slot).config.name := by
  have inRange : (handleOf slot).toNat < 16 := (handleOf_toNat slot).trans_lt slot.isLt
  have same : (⟨(handleOf slot).toNat, inRange⟩ : TaskSlot) = slot := Fin.ext (handleOf_toNat slot)
  unfold schedulerGetTaskName
  rw [dif_pos inRange, same, if_pos registered]

/-- A registration that is refused changes nothing. -/
theorem registerTaskAt_refused {sched : Scheduler} {config : Option TaskConfig}
    {handle : Option UInt8} (refused : (registerTaskAt sched config handle).2.1 ≠ .ok) :
    (registerTaskAt sched config handle).1 = sched ∧
      (registerTaskAt sched config handle).2.2 = handle := by
  cases config with
  | none => exact ⟨rfl, rfl⟩
  | some config =>
    cases handle with
    | none => exact ⟨rfl, rfl⟩
    | some stored =>
      dsimp only [registerTaskAt] at refused ⊢
      rcases schedulerRegisterTask_cases sched config with ⟨status, -, rejection⟩ | ⟨slot, -, made⟩
      · rw [rejection]
        exact ⟨rfl, rfl⟩
      · rw [made] at refused
        exact absurd rfl refused

theorem tableIntegrity_of_unique {sched : Scheduler} (unique : UniqueNames sched) :
    TableIntegrity sched where
  unique slot other registered otherRegistered same :=
    unique slot other _
      (TaskTcb.taskName_eq_some_iff.mpr ⟨registered, (strncmp_eq_iff _ _).mp same⟩)
      (TaskTcb.taskName_eq_some_iff.mpr ⟨otherRegistered, rfl⟩)
  found _ _ := schedulerGetHandleByName_found unique
  named _ := schedulerGetTaskName_handleOf
  absent := schedulerGetHandleByName_eq_invalid_iff sched
  refused _ _ refused := by
    obtain ⟨same, kept⟩ := registerTaskAt_refused refused
    exact ⟨congrArg Scheduler.tasks same, kept⟩

/-- In every state of every run from `scheduler_init` on, whatever is called, the names of the
registered tasks are pairwise different and are found. -/
theorem tableIntegrity_throughout (events : List SchedEvent) :
    Throughout schedEvent (fun run => TableIntegrity run.sched) SchedRun.initial events :=
  (throughout_of_preserved (fun run event => uniqueNames_schedEvent run event)
    uniqueNames_schedulerInit events).mono fun _ => tableIntegrity_of_unique

end SmartQso
