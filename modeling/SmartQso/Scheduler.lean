/-
This file models `scheduler.c`. A task body is the work of others: `sched_run_task` is
split where it calls the body, and what a body does to the scheduler comes in between.
The clock of the scheduler stands still, so no deadline is ever missed, and the callback
for misses is left out.
-/

import Mathlib.Data.List.FinRange
import Mathlib.Logic.Function.Basic

namespace SmartQso

/-! ### Constants -/

/-- `SCHED_MAX_TASK_NAME`. -/
def schedMaxTaskName : Nat := 16

/-- `SCHED_TICK_PERIOD_MS`. -/
def schedTickPeriodMs : UInt32 := 1

/-- `SCHED_MIN_PERIOD_MS`. -/
def schedMinPeriodMs : UInt32 := 10

/-- `SCHED_MAX_PERIOD_MS`. -/
def schedMaxPeriodMs : UInt32 := 60000

/-- `SCHED_DEADLINE_MISS_LIMIT`. -/
def schedDeadlineMissLimit : UInt32 := 3

/-- `CPU_UTIL_WINDOW`. -/
def cpuUtilWindow : UInt32 := 1000

/-- `STATS_AVG_FACTOR`. -/
def statsAvgFactor : UInt32 := 8

/-! ### State -/

/-- An index below `SCHED_MAX_TASKS`. -/
abbrev TaskSlot := Fin 16

/-- `task_state_t`. -/
inductive TaskState
  | inactive
  | ready
  | running
  | suspended
  | fault
  deriving DecidableEq

/-- `sched_status_t`. -/
inductive SchedStatus
  | ok
  | errorInvalidParam
  | errorTableFull
  | errorNotFound
  | errorAlreadyExists
  | errorNotRunning
  | errorTimeout
  deriving DecidableEq

/-- `task_config_t`; `func` is the address of the task function, and none stands for `NULL`. The
smaller the number of a priority, the more urgent the task. -/
structure TaskConfig where
  name : List UInt8
  func : Option Nat
  periodMs : UInt32
  offsetMs : UInt32
  deadlineMs : UInt32
  priority : UInt32
  enabled : Bool
  deriving DecidableEq

/-- `task_stats_t`. -/
structure TaskStats where
  runCount : UInt32
  lastRunTimeUs : UInt32
  maxRunTimeUs : UInt32
  minRunTimeUs : UInt32
  avgRunTimeUs : UInt32
  deadlineMisses : UInt32
  skipCount : UInt32
  deriving DecidableEq

/-- Statistics of a task that has not run. -/
def TaskStats.fresh : TaskStats := ⟨0, 0, 0, 0xFFFFFFFF, 0, 0, 0⟩

/-- `task_tcb_t`. -/
structure TaskTcb where
  config : TaskConfig
  state : TaskState
  stats : TaskStats
  nextRunTick : UInt32
  consecutiveMisses : UInt32
  registered : Bool
  deriving DecidableEq

/-- A slot that was never used. -/
def TaskTcb.unused : TaskTcb :=
  ⟨⟨[], none, 0, 0, 0, 0, false⟩, .inactive, TaskStats.fresh, 0, 0, false⟩

/-- `sched_context_t` without the callback; no running task stands for `SCHED_INVALID_HANDLE`. -/
structure Scheduler where
  tasks : TaskSlot → TaskTcb
  tickCount : UInt32
  activeTimeUs : UInt32
  idleTimeUs : UInt32
  cpuUtilization : UInt32
  runningTask : Option TaskSlot
  running : Bool
  initialized : Bool

/-- `scheduler_init`. -/
def schedulerInit : Scheduler where
  tasks := fun _ => TaskTcb.unused
  tickCount := 0
  activeTimeUs := 0
  idleTimeUs := 0
  cpuUtilization := 0
  runningTask := none
  running := false
  initialized := true

/-- Store a control block. -/
def Scheduler.setTask (sched : Scheduler) (slot : TaskSlot) (tcb : TaskTcb) : Scheduler :=
  { sched with tasks := Function.update sched.tasks slot tcb }

/-! ### Registration -/

/-- The characters of a name that `strncmp` looks at. -/
def comparedName (name : List UInt8) : List UInt8 :=
  (name.take schedMaxTaskName).takeWhile (· != 0)

/-- The first slot that is not in use. -/
def emptySlot (sched : Scheduler) : Option TaskSlot :=
  (List.finRange 16).find? fun slot => !(sched.tasks slot).registered

/-- A registered task has the name. -/
def nameTaken (sched : Scheduler) (name : List UInt8) : Bool :=
  (List.finRange 16).any fun slot =>
    (sched.tasks slot).registered &&
      comparedName (sched.tasks slot).config.name == comparedName name

/-- The control block of a task that has just been registered. -/
def registeredTask (config : TaskConfig) (tickCount : UInt32) : TaskTcb where
  config := config
  state := if config.enabled then .ready else .inactive
  stats := TaskStats.fresh
  nextRunTick := tickCount + config.offsetMs / schedTickPeriodMs
  consecutiveMisses := 0
  registered := true

/-- `scheduler_register_task`, with the handle it gives out. -/
def schedulerRegisterTask (sched : Scheduler) (config : TaskConfig) :
    Scheduler × SchedStatus × Option TaskSlot :=
  if config.func.isNone then (sched, .errorInvalidParam, none)
  else if config.periodMs < schedMinPeriodMs ∨ config.periodMs > schedMaxPeriodMs then
    (sched, .errorInvalidParam, none)
  else
    match emptySlot sched with
    | none => (sched, .errorTableFull, none)
    | some slot =>
      if nameTaken sched config.name then (sched, .errorAlreadyExists, none)
      else (sched.setTask slot (registeredTask config sched.tickCount), .ok, some slot)

/-- The checks of a handle that the other calls share. -/
def registeredSlot (sched : Scheduler) (handle : UInt8) : Except SchedStatus TaskSlot :=
  if inRange : handle.toNat < 16 then
    if (sched.tasks ⟨handle.toNat, inRange⟩).registered then .ok ⟨handle.toNat, inRange⟩
    else .error .errorNotFound
  else .error .errorInvalidParam

/-- Write the control block of the task with a handle. -/
def writeTask (sched : Scheduler) (handle : UInt8) (write : TaskTcb → TaskTcb) :
    Scheduler × SchedStatus :=
  match registeredSlot sched handle with
  | .ok slot => (sched.setTask slot (write (sched.tasks slot)), .ok)
  | .error status => (sched, status)

/-- `scheduler_unregister_task`. -/
def schedulerUnregisterTask (sched : Scheduler) (handle : UInt8) : Scheduler × SchedStatus :=
  match registeredSlot sched handle with
  | .ok slot =>
    if sched.runningTask = some slot then (sched, .errorInvalidParam)
    else
      (sched.setTask slot { sched.tasks slot with registered := false, state := .inactive }, .ok)
  | .error status => (sched, status)

/-- `scheduler_enable_task`. -/
def schedulerEnableTask (sched : Scheduler) (handle : UInt8) : Scheduler × SchedStatus :=
  writeTask sched handle fun tcb =>
    { tcb with
      state := .ready
      config := { tcb.config with enabled := true }
      nextRunTick := sched.tickCount }

/-- `scheduler_disable_task`. -/
def schedulerDisableTask (sched : Scheduler) (handle : UInt8) : Scheduler × SchedStatus :=
  writeTask sched handle fun tcb =>
    { tcb with state := .inactive, config := { tcb.config with enabled := false } }

/-- `scheduler_suspend_task`. -/
def schedulerSuspendTask (sched : Scheduler) (handle : UInt8) : Scheduler × SchedStatus :=
  writeTask sched handle fun tcb => { tcb with state := .suspended }

/-- `scheduler_resume_task`. -/
def schedulerResumeTask (sched : Scheduler) (handle : UInt8) : Scheduler × SchedStatus :=
  writeTask sched handle fun tcb =>
    if tcb.state = .suspended then { tcb with state := .ready } else tcb

/-- `scheduler_set_period`. The period is checked before the handle is looked up. -/
def schedulerSetPeriod (sched : Scheduler) (handle : UInt8) (periodMs : UInt32) :
    Scheduler × SchedStatus :=
  if handle.toNat < 16 ∧ (periodMs < schedMinPeriodMs ∨ periodMs > schedMaxPeriodMs) then
    (sched, .errorInvalidParam)
  else
    writeTask sched handle fun tcb =>
      { tcb with config := { tcb.config with periodMs := periodMs } }

/-! ### Running a task -/

/-- `sched_get_time_us`. -/
def schedGetTimeUs : UInt32 := 0

/-- `sched_update_cpu_util`. -/
def schedUpdateCpuUtil (sched : Scheduler) (taskTimeUs : UInt32) : Scheduler :=
  let active := sched.activeTimeUs + taskTimeUs
  if sched.tickCount % cpuUtilWindow = 0 then
    let totalTime := active + sched.idleTimeUs
    { sched with
      cpuUtilization := if totalTime > 0 then active * 100 / totalTime else sched.cpuUtilization
      activeTimeUs := 0
      idleTimeUs := 0 }
  else { sched with activeTimeUs := active }

/-- `sched_run_task` up to the call of the task function. -/
def schedRunTaskBegins (sched : Scheduler) (slot : TaskSlot) : Scheduler :=
  { sched.setTask slot { sched.tasks slot with state := .running } with runningTask := some slot }

/-- The control block after a task function has returned. -/
def finishedTask (tcb : TaskTcb) (tickCount : UInt32) : TaskTcb :=
  let runTime := schedGetTimeUs - schedGetTimeUs
  let deadlineUs := tcb.config.deadlineMs * 1000
  let missed := decide (deadlineUs > 0) && decide (runTime > deadlineUs)
  let misses := if missed then tcb.consecutiveMisses + 1 else 0
  let state :=
    if missed && decide (misses ≥ schedDeadlineMissLimit) then TaskState.fault else tcb.state
  { tcb with
    stats :=
      { tcb.stats with
        runCount := tcb.stats.runCount + 1
        lastRunTimeUs := runTime
        maxRunTimeUs := if runTime > tcb.stats.maxRunTimeUs then runTime else tcb.stats.maxRunTimeUs
        minRunTimeUs := if runTime < tcb.stats.minRunTimeUs then runTime else tcb.stats.minRunTimeUs
        avgRunTimeUs := (tcb.stats.avgRunTimeUs * (statsAvgFactor - 1) + runTime) / statsAvgFactor
        deadlineMisses :=
          if missed then tcb.stats.deadlineMisses + 1 else tcb.stats.deadlineMisses }
    consecutiveMisses := misses
    nextRunTick := tickCount + tcb.config.periodMs / schedTickPeriodMs
    state := if state ≠ .fault then .ready else state }

/-- `sched_run_task` from the return of the task function on. -/
def schedRunTaskEnds (sched : Scheduler) (slot : TaskSlot) : Scheduler :=
  let finished := sched.setTask slot (finishedTask (sched.tasks slot) sched.tickCount)
  schedUpdateCpuUtil { finished with runningTask := none } (schedGetTimeUs - schedGetTimeUs)

/-- The task in a slot can run at this tick. -/
def TaskTcb.isDue (tcb : TaskTcb) (tickCount : UInt32) : Bool :=
  tcb.registered && tcb.state == .ready && !decide (tickCount < tcb.nextRunTick)

/-- A round of the loop of `sched_find_ready_task`. -/
def betterTask (sched : Scheduler) (best : Option TaskSlot) (slot : TaskSlot) : Option TaskSlot :=
  if (sched.tasks slot).isDue sched.tickCount then
    match best with
    | none => some slot
    | some other =>
      if (sched.tasks slot).config.priority < (sched.tasks other).config.priority then some slot
      else some other
  else best

/-- `sched_find_ready_task`. -/
def schedFindReadyTask (sched : Scheduler) : Option TaskSlot :=
  (List.finRange 16).foldl (betterTask sched) none

/-- `sched_idle_task`. -/
def schedIdleTask (sched : Scheduler) : Scheduler :=
  { sched with idleTimeUs := sched.idleTimeUs + (schedGetTimeUs - schedGetTimeUs) }

/-- The count at the begin of `scheduler_tick`. -/
def countTick (sched : Scheduler) : Scheduler := { sched with tickCount := sched.tickCount + 1 }

/-- `scheduler_start` up to its loop of ticks. -/
def schedulerStart (sched : Scheduler) : Scheduler × SchedStatus :=
  if sched.initialized then ({ sched with running := true, tickCount := 0 }, .ok)
  else (sched, .errorNotRunning)

/-- `scheduler_stop`. -/
def schedulerStop (sched : Scheduler) : Scheduler := { sched with running := false }

/-! ### What is found -/

/-- Only a task that can run is found. -/
theorem schedFindReadyTask_isDue {sched : Scheduler} {slot : TaskSlot}
    (found : schedFindReadyTask sched = some slot) :
    (sched.tasks slot).isDue sched.tickCount = true := by
  have loop : ∀ (slots : List TaskSlot) (best : Option TaskSlot),
      (∀ other, best = some other → (sched.tasks other).isDue sched.tickCount = true) →
      slots.foldl (betterTask sched) best = some slot →
      (sched.tasks slot).isDue sched.tickCount = true := by
    intro slots
    induction slots with
    | nil => exact fun best due ends => due slot ends
    | cons next rest inductionHypothesis =>
      intro best due ends
      refine inductionHypothesis (betterTask sched best next) ?_ ends
      intro other better
      unfold betterTask at better
      split at better
      case isTrue dueNext =>
        cases best with
        | none =>
          rw [← Option.some.inj better]
          exact dueNext
        | some earlier =>
          dsimp only at better
          split at better
          · rw [← Option.some.inj better]
            exact dueNext
          · exact due other better
      case isFalse => exact due other better
  exact loop _ none (fun other none => by cases none) found

/-- When no task is registered, none is found. -/
theorem schedFindReadyTask_of_empty {sched : Scheduler}
    (empty : ∀ slot, (sched.tasks slot).registered = false) : schedFindReadyTask sched = none := by
  cases found : schedFindReadyTask sched with
  | none => rfl
  | some slot =>
    have due := schedFindReadyTask_isDue found
    rw [TaskTcb.isDue, empty slot] at due
    cases due

end SmartQso
