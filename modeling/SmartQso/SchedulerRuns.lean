/-
This file puts the calls of the scheduler together to runs. A task function may make any
call while it runs, ticks included, so a run keeps the stack of the functions that have
not returned, and the call and the return of a function are two events. Every event
writes the control block of one task at most; what holds of every task is kept when it
holds of the block that is written.
-/

import Mathlib.Algebra.Group.Nat.Defs
import SmartQso.Scheduler
import SmartQso.Runs

namespace SmartQso

open Runs

/-! ### Runs of the scheduler -/

/-- What can happen to the scheduler. Between the call of a task function and its return any of
it can happen, since the function can make the calls. -/
inductive SchedEvent
  | register (config : TaskConfig)
  | unregister (handle : UInt8)
  | enable (handle : UInt8)
  | disable (handle : UInt8)
  | suspend (handle : UInt8)
  | resume (handle : UInt8)
  | setPeriod (handle : UInt8) (periodMs : UInt32)
  | runNow (handle : UInt8)
  | tick
  | bodyReturns
  | start
  | stop
  deriving DecidableEq

/-- A scheduler with the tasks whose functions have been called and have not returned, the one
called last at the head. -/
structure SchedRun where
  sched : Scheduler
  bodies : List TaskSlot

/-- The run that begins after `scheduler_init`. -/
def SchedRun.initial : SchedRun := ⟨schedulerInit, []⟩

/-- Call the function of a task. -/
def SchedRun.call (run : SchedRun) (slot : TaskSlot) : SchedRun :=
  ⟨schedRunTaskBegins run.sched slot, slot :: run.bodies⟩

/-- The task that `scheduler_tick` dispatches. -/
def tickDispatches (run : SchedRun) : Option TaskSlot := schedFindReadyTask (countTick run.sched)

/-- `scheduler_tick`, up to the call of a task function. -/
def schedulerTick (run : SchedRun) : SchedRun :=
  let counted : SchedRun := { run with sched := countTick run.sched }
  match schedFindReadyTask counted.sched with
  | some slot => counted.call slot
  | none => { counted with sched := schedIdleTask counted.sched }

/-- `scheduler_run_now`, up to the call of the task function. -/
def schedulerRunNow (run : SchedRun) (handle : UInt8) : SchedRun :=
  match registeredSlot run.sched handle with
  | .ok slot => run.call slot
  | .error _ => run

/-- The task function that was called last returns. -/
def bodyReturns (run : SchedRun) : SchedRun :=
  match run.bodies with
  | slot :: rest => ⟨schedRunTaskEnds run.sched slot, rest⟩
  | [] => run

def schedEvent (run : SchedRun) : SchedEvent → SchedRun
  | .register config => { run with sched := (schedulerRegisterTask run.sched config).1 }
  | .unregister handle => { run with sched := (schedulerUnregisterTask run.sched handle).1 }
  | .enable handle => { run with sched := (schedulerEnableTask run.sched handle).1 }
  | .disable handle => { run with sched := (schedulerDisableTask run.sched handle).1 }
  | .suspend handle => { run with sched := (schedulerSuspendTask run.sched handle).1 }
  | .resume handle => { run with sched := (schedulerResumeTask run.sched handle).1 }
  | .setPeriod handle periodMs =>
    { run with sched := (schedulerSetPeriod run.sched handle periodMs).1 }
  | .runNow handle => schedulerRunNow run handle
  | .tick => schedulerTick run
  | .bodyReturns => bodyReturns run
  | .start => { run with sched := (schedulerStart run.sched).1 }
  | .stop => { run with sched := schedulerStop run.sched }

/-! ### What an event writes -/

theorem Scheduler.setTask_tasks_self (sched : Scheduler) (slot : TaskSlot) (tcb : TaskTcb) :
    (sched.setTask slot tcb).tasks slot = tcb := by
  unfold Scheduler.setTask
  exact Function.update_self slot tcb sched.tasks

theorem Scheduler.setTask_tasks_of_ne (sched : Scheduler) {slot other : TaskSlot}
    (tcb : TaskTcb) (apart : other ≠ slot) :
    (sched.setTask slot tcb).tasks other = sched.tasks other := by
  unfold Scheduler.setTask
  exact Function.update_of_ne apart tcb sched.tasks

@[simp]
theorem schedUpdateCpuUtil_tasks (sched : Scheduler) (taskTimeUs : UInt32) :
    (schedUpdateCpuUtil sched taskTimeUs).tasks = sched.tasks := by
  unfold schedUpdateCpuUtil
  dsimp only
  split <;> rfl

@[simp]
theorem schedUpdateCpuUtil_tickCount (sched : Scheduler) (taskTimeUs : UInt32) :
    (schedUpdateCpuUtil sched taskTimeUs).tickCount = sched.tickCount := by
  unfold schedUpdateCpuUtil
  dsimp only
  split <;> rfl

/-- The task that a handle gives is the registered one with its number. -/
theorem registeredSlot_eq_ok_iff {sched : Scheduler} {handle : UInt8} {slot : TaskSlot} :
    registeredSlot sched handle = .ok slot ↔
      handle.toNat = slot.val ∧ (sched.tasks slot).registered = true := by
  unfold registeredSlot
  constructor
  · intro found
    split at found
    case isFalse => cases found
    split at found
    case isFalse => cases found
    case isTrue inRange registered =>
      rw [← Except.ok.inj found]
      exact ⟨rfl, registered⟩
  · rintro ⟨number, registered⟩
    have inRange : handle.toNat < 16 := by
      rw [number]
      exact slot.isLt
    have same : (⟨handle.toNat, inRange⟩ : TaskSlot) = slot := Fin.ext number
    rw [dif_pos inRange, same, if_pos registered]

/-- A task is never registered in the place of another. -/
theorem schedulerRegisterTask_tasks_of_registered {sched : Scheduler} {slot : TaskSlot}
    (registered : (sched.tasks slot).registered = true) (config : TaskConfig) :
    (schedulerRegisterTask sched config).1.tasks slot = sched.tasks slot := by
  unfold schedulerRegisterTask
  split
  · rfl
  split
  · rfl
  split
  · rfl
  case h_2 free found =>
    split
    · rfl
    refine Scheduler.setTask_tasks_of_ne sched _ fun same => ?_
    have unused := List.find?_some found
    rw [← same, registered] at unused
    cases unused

theorem schedRunTaskEnds_tasks (sched : Scheduler) (slot : TaskSlot) :
    (schedRunTaskEnds sched slot).tasks =
      (sched.setTask slot (finishedTask (sched.tasks slot) sched.tickCount)).tasks := by
  unfold schedRunTaskEnds
  rw [schedUpdateCpuUtil_tasks]

theorem schedRunTaskEnds_tickCount (sched : Scheduler) (slot : TaskSlot) :
    (schedRunTaskEnds sched slot).tickCount = sched.tickCount := by
  unfold schedRunTaskEnds
  rw [schedUpdateCpuUtil_tickCount]
  rfl

/-- A run takes no time, so no deadline is missed and a task is ready again unless it was in
fault before. -/
theorem finishedTask_state (tcb : TaskTcb) (tickCount : UInt32) :
    (finishedTask tcb tickCount).state = if tcb.state = .fault then .fault else .ready := by
  have inTime : ¬ schedGetTimeUs - schedGetTimeUs > tcb.config.deadlineMs * 1000 := by
    simp [schedGetTimeUs]
  simp only [finishedTask, decide_eq_false inTime, Bool.and_false, Bool.false_and,
    Bool.false_eq_true, if_false]
  by_cases fault : tcb.state = .fault
  · rw [if_neg (not_not.mpr fault), if_pos fault, fault]
  · rw [if_pos fault, if_neg fault]

/-- What `good` says of a control block, given the tick count, holds of all of them. -/
def EveryTask (good : UInt32 → TaskTcb → Prop) (sched : Scheduler) : Prop :=
  ∀ slot, good sched.tickCount (sched.tasks slot)

section

variable {good : UInt32 → TaskTcb → Prop} {sched : Scheduler}

theorem everyTask_setTask_iff (every : EveryTask good sched) (slot : TaskSlot) (tcb : TaskTcb) :
    EveryTask good (sched.setTask slot tcb) ↔ good sched.tickCount tcb := by
  constructor
  · intro after
    have written := after slot
    rwa [Scheduler.setTask_tasks_self] at written
  · intro written other
    by_cases same : other = slot
    · rw [same, Scheduler.setTask_tasks_self]
      exact written
    · rw [Scheduler.setTask_tasks_of_ne sched tcb same]
      exact every other

theorem everyTask_writeTask_iff (every : EveryTask good sched) (handle : UInt8)
    (write : TaskTcb → TaskTcb) :
    EveryTask good (writeTask sched handle write).1 ↔
      ∀ slot, registeredSlot sched handle = .ok slot →
        good sched.tickCount (write (sched.tasks slot)) := by
  unfold writeTask
  cases found : registeredSlot sched handle with
  | error status => exact iff_of_true every (fun slot equal => by cases equal)
  | ok slot =>
    refine (everyTask_setTask_iff every slot _).trans ⟨?_, fun written => written slot rfl⟩
    rintro written _ ⟨⟩
    exact written

/-- A resumption writes the block of a suspended task only. -/
theorem everyTask_resume_iff (every : EveryTask good sched) (handle : UInt8) :
    EveryTask good (schedulerResumeTask sched handle).1 ↔
      ∀ slot, registeredSlot sched handle = .ok slot →
        (sched.tasks slot).state = .suspended →
          good sched.tickCount { sched.tasks slot with state := .ready } := by
  refine (everyTask_writeTask_iff every handle _).trans (forall₂_congr fun slot _ => ?_)
  by_cases suspended : (sched.tasks slot).state = .suspended
  · rw [if_pos suspended]
    exact ⟨fun written _ => written, fun written => written suspended⟩
  · rw [if_neg suspended]
    exact iff_of_true (every slot) fun absurdly => absurd absurdly suspended

theorem everyTask_register (every : EveryTask good sched) (config : TaskConfig)
    (written : config.periodMs ≤ schedMaxPeriodMs →
      good sched.tickCount (registeredTask config sched.tickCount)) :
    EveryTask good (schedulerRegisterTask sched config).1 := by
  unfold schedulerRegisterTask
  by_cases null : config.func.isNone
  · rw [if_pos null]
    exact every
  rw [if_neg null]
  by_cases outside : config.periodMs < schedMinPeriodMs ∨ config.periodMs > schedMaxPeriodMs
  · rw [if_pos outside]
    exact every
  rw [if_neg outside]
  cases emptySlot sched with
  | none => exact every
  | some slot =>
    by_cases taken : nameTaken sched config.name
    · simp only [taken, if_true]
      exact every
    · simp only [taken, Bool.false_eq_true, if_false]
      have atMost : config.periodMs ≤ schedMaxPeriodMs :=
        UInt32.not_lt.mp fun longer => outside (Or.inr longer)
      exact (everyTask_setTask_iff every slot _).mpr (written atMost)

theorem everyTask_unregister (every : EveryTask good sched) (handle : UInt8)
    (written : ∀ tcb : TaskTcb,
      good sched.tickCount { tcb with registered := false, state := .inactive }) :
    EveryTask good (schedulerUnregisterTask sched handle).1 := by
  unfold schedulerUnregisterTask
  cases registeredSlot sched handle with
  | error status => exact every
  | ok slot =>
    by_cases isRunning : sched.runningTask = some slot
    · simp only [isRunning, if_true]
      exact every
    · simp only [isRunning, if_false]
      exact (everyTask_setTask_iff every slot _).mpr (written _)

theorem everyTask_setPeriod (every : EveryTask good sched) (handle : UInt8) (periodMs : UInt32)
    (written : periodMs ≤ schedMaxPeriodMs → ∀ slot, good sched.tickCount
      { sched.tasks slot with config := { (sched.tasks slot).config with periodMs := periodMs } }) :
    EveryTask good (schedulerSetPeriod sched handle periodMs).1 := by
  unfold schedulerSetPeriod
  by_cases refused :
      handle.toNat < 16 ∧ (periodMs < schedMinPeriodMs ∨ periodMs > schedMaxPeriodMs)
  · rw [if_pos refused]
    exact every
  · rw [if_neg refused]
    refine (everyTask_writeTask_iff every handle _).mpr fun slot found => written ?_ slot
    have inRange : handle.toNat < 16 := by
      rw [(registeredSlot_eq_ok_iff.mp found).1]
      exact slot.isLt
    exact UInt32.not_lt.mp fun longer => refused ⟨inRange, Or.inr longer⟩

theorem everyTask_runTaskBegins (every : EveryTask good sched) (slot : TaskSlot)
    (written : ∀ tcb : TaskTcb, good sched.tickCount tcb →
      good sched.tickCount { tcb with state := .running }) :
    EveryTask good (schedRunTaskBegins sched slot) :=
  (everyTask_setTask_iff every slot _).mpr (written _ (every slot))

theorem everyTask_runTaskEnds_iff (every : EveryTask good sched) (slot : TaskSlot) :
    EveryTask good (schedRunTaskEnds sched slot) ↔
      good sched.tickCount (finishedTask (sched.tasks slot) sched.tickCount) := by
  rw [← everyTask_setTask_iff every slot]
  unfold EveryTask
  rw [schedRunTaskEnds_tasks, schedRunTaskEnds_tickCount]
  exact Iff.rfl

theorem everyTask_start (every : EveryTask good sched)
    (restarted : ∀ slot, good 0 (sched.tasks slot)) : EveryTask good (schedulerStart sched).1 := by
  unfold schedulerStart
  split
  · exact restarted
  · exact every

theorem everyTask_runNow {run : SchedRun} (every : EveryTask good run.sched) (handle : UInt8)
    (written : ∀ tcb : TaskTcb, good run.sched.tickCount tcb →
      good run.sched.tickCount { tcb with state := .running }) :
    EveryTask good (schedulerRunNow run handle).sched := by
  unfold schedulerRunNow
  cases registeredSlot run.sched handle with
  | error status => exact every
  | ok slot => exact everyTask_runTaskBegins every slot written

theorem everyTask_tick {run : SchedRun} (every : EveryTask good (countTick run.sched))
    (written : ∀ tcb : TaskTcb, good (run.sched.tickCount + 1) tcb →
      good (run.sched.tickCount + 1) { tcb with state := .running }) :
    EveryTask good (schedulerTick run).sched := by
  unfold schedulerTick
  dsimp only
  cases schedFindReadyTask (countTick run.sched) with
  | none => exact every
  | some slot => exact everyTask_runTaskBegins every slot written

theorem everyTask_bodyReturns_iff {run : SchedRun} (every : EveryTask good run.sched) :
    EveryTask good (bodyReturns run).sched ↔
      ∀ slot ∈ run.bodies.head?, good run.sched.tickCount
        (finishedTask (run.sched.tasks slot) run.sched.tickCount) := by
  unfold bodyReturns
  cases run.bodies with
  | nil => exact iff_of_true every (fun slot absent => by cases absent)
  | cons slot rest =>
    refine (everyTask_runTaskEnds_iff every slot).trans ⟨?_, fun written => written slot rfl⟩
    rintro written _ ⟨⟩
    exact written

end

/-! ### The count of the ticks -/

/-- Only a tick moves the count forward. -/
theorem tickCount_schedEvent_le {run : SchedRun} {event : SchedEvent} (still : event ≠ .tick) :
    (schedEvent run event).sched.tickCount.toNat ≤ run.sched.tickCount.toNat := by
  have every : EveryTask (fun tickCount _ => tickCount.toNat ≤ run.sched.tickCount.toNat)
      run.sched := fun _ => le_rfl
  suffices after : EveryTask (fun tickCount _ => tickCount.toNat ≤ run.sched.tickCount.toNat)
      (schedEvent run event).sched from after 0
  cases event with
  | register config => exact everyTask_register every config fun _ => le_rfl
  | unregister handle => exact everyTask_unregister every handle fun _ => le_rfl
  | enable handle => exact (everyTask_writeTask_iff every handle _).mpr fun _ _ => le_rfl
  | disable handle => exact (everyTask_writeTask_iff every handle _).mpr fun _ _ => le_rfl
  | suspend handle => exact (everyTask_writeTask_iff every handle _).mpr fun _ _ => le_rfl
  | resume handle => exact (everyTask_writeTask_iff every handle _).mpr fun _ _ => le_rfl
  | setPeriod handle periodMs => exact everyTask_setPeriod every handle periodMs fun _ _ => le_rfl
  | runNow handle => exact everyTask_runNow every handle fun _ _ => le_rfl
  | tick => exact absurd rfl still
  | bodyReturns => exact (everyTask_bodyReturns_iff every).mpr fun _ _ => le_rfl
  | start => exact everyTask_start every fun _ => Nat.zero_le _
  | stop => exact every

theorem tickCount_tick (run : SchedRun) :
    (schedEvent run .tick).sched.tickCount = run.sched.tickCount + 1 := by
  dsimp only [schedEvent, schedulerTick]
  cases schedFindReadyTask (countTick run.sched) <;> rfl

/-! ### Ticks without tasks -/

/-- A run whose ticks found no task. -/
def idleRun (tickCount : UInt32) : SchedRun := ⟨{ schedulerInit with tickCount := tickCount }, []⟩

theorem schedulerTick_idleRun (tickCount : UInt32) :
    schedulerTick (idleRun tickCount) = idleRun (tickCount + 1) := by
  have nothing : schedFindReadyTask (countTick (idleRun tickCount).sched) = none :=
    schedFindReadyTask_of_empty fun _ => rfl
  unfold schedulerTick
  dsimp only
  rw [nothing]
  rfl

theorem finalState_idleRun (count : Nat) (tickCount : UInt32) :
    finalState schedEvent (idleRun tickCount) (List.replicate count .tick) =
      idleRun (tickCount + UInt32.ofNat count) := by
  induction count generalizing tickCount with
  | zero => exact congrArg idleRun (UInt32.add_zero tickCount).symm
  | succ count inductionHypothesis =>
    rw [List.replicate_succ, finalState_cons]
    dsimp only [schedEvent]
    rw [schedulerTick_idleRun, inductionHypothesis, UInt32.add_assoc, UInt32.ofNat_add,
      UInt32.add_comm 1]
    rfl

end SmartQso
