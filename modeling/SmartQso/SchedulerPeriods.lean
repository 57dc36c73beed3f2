/-
This file settles how soon a task can be dispatched again. When a task function returns,
its task is given the tick of its next run, a period ahead. The test for it compares two
wrapping counters as numbers, so a next run beyond the wrap lies in the past. Otherwise
a task that is left alone waits out its period, in whatever order the calls of the
others, and ticks while a function runs, come.
-/

import SmartQso.SchedulerRuns

namespace SmartQso

open Runs

/-! ### Periods that are respected -/

/-- The call is one of those that change when a task runs next, or after which there is another
task in its slot. -/
def SchedEvent.Touches (slot : TaskSlot) : SchedEvent → Prop
  | .enable handle | .runNow handle | .setPeriod handle _ | .unregister handle =>
    handle.toNat = slot.val
  | _ => False

/-- The number of ticks between two runs of a task. -/
def periodTicks (run : SchedRun) (slot : TaskSlot) : Nat :=
  ((run.sched.tasks slot).config.periodMs / schedTickPeriodMs).toNat

/-- Of two ticks that dispatch one task, which is left alone in between, the later is at least a
period after the earlier. -/
def PeriodsRespected (events : List SchedEvent) : Prop :=
  ∀ (before meanwhile after : List SchedEvent) (slot : TaskSlot),
    events = before ++ .tick :: (meanwhile ++ .tick :: after) →
    tickDispatches (finalState schedEvent .initial before) = some slot →
    (∀ event ∈ meanwhile, ¬ event.Touches slot) →
    tickDispatches (finalState schedEvent .initial (before ++ .tick :: meanwhile)) = some slot →
    periodTicks (finalState schedEvent .initial before) slot ≤ meanwhile.count .tick + 1

/-- No running task is due at a tick, and no next run lies beyond the wrap of the counter. -/
def Timely (run : SchedRun) : SchedEvent → Prop
  | .tick => ∀ slot ∈ run.bodies,
      (run.sched.tasks slot).isDue (run.sched.tickCount + 1) = false
  | .bodyReturns => ∀ slot ∈ run.bodies.head?,
      run.sched.tickCount.toNat + periodTicks run slot < 2 ^ 32
  | _ => True

/-! ### What an event leaves alone -/

/-- What decides when a task runs. -/
def TaskTcb.timing (tcb : TaskTcb) : Bool × UInt32 × UInt32 :=
  (tcb.registered, tcb.config.periodMs, tcb.nextRunTick)

theorem timing_setTask (sched : Scheduler) (written slot : TaskSlot) (tcb : TaskTcb)
    (same : written = slot → tcb.timing = (sched.tasks slot).timing) :
    ((sched.setTask written tcb).tasks slot).timing = (sched.tasks slot).timing := by
  by_cases here : slot = written
  · rw [here, Scheduler.setTask_tasks_self]
    rw [here] at same
    exact same rfl
  · rw [Scheduler.setTask_tasks_of_ne sched tcb here]

theorem timing_writeTask (sched : Scheduler) (handle : UInt8) (slot : TaskSlot)
    (write : TaskTcb → TaskTcb)
    (same : handle.toNat = slot.val →
      (write (sched.tasks slot)).timing = (sched.tasks slot).timing) :
    ((writeTask sched handle write).1.tasks slot).timing = (sched.tasks slot).timing := by
  unfold writeTask
  cases found : registeredSlot sched handle with
  | error status => rfl
  | ok written =>
    refine timing_setTask sched written slot _ fun here => ?_
    rw [here]
    refine same ?_
    rw [← here, (registeredSlot_eq_ok_iff.mp found).1]

/-- Only the return of a task function changes when a task that is left alone runs. -/
theorem timing_schedEvent {run : SchedRun} {slot : TaskSlot} {event : SchedEvent}
    (registered : (run.sched.tasks slot).registered = true) (alone : ¬ event.Touches slot)
    (runs : event ≠ .bodyReturns) :
    ((schedEvent run event).sched.tasks slot).timing = (run.sched.tasks slot).timing := by
  cases event with
  | register config =>
    exact congrArg TaskTcb.timing (schedulerRegisterTask_tasks_of_registered registered config)
  | unregister handle =>
    dsimp only [schedEvent, schedulerUnregisterTask]
    cases found : registeredSlot run.sched handle with
    | error status => rfl
    | ok written =>
      dsimp only
      split
      · rfl
      · refine timing_setTask _ _ _ _ fun here => absurd ?_ alone
        rw [← here]
        exact (registeredSlot_eq_ok_iff.mp found).1
  | enable handle => exact timing_writeTask _ _ _ _ fun here => absurd here alone
  | disable handle => exact timing_writeTask _ _ _ _ fun _ => rfl
  | suspend handle => exact timing_writeTask _ _ _ _ fun _ => rfl
  | resume handle =>
    refine timing_writeTask _ _ _ _ fun _ => ?_
    split <;> rfl
  | setPeriod handle periodMs =>
    dsimp only [schedEvent, schedulerSetPeriod]
    split
    · rfl
    · exact timing_writeTask _ _ _ _ fun here => absurd here alone
  | runNow handle =>
    dsimp only [schedEvent, schedulerRunNow]
    cases registeredSlot run.sched handle with
    | error status => rfl
    | ok written =>
      refine timing_setTask run.sched written slot _ fun here => ?_
      rw [here]
      rfl
  | tick =>
    dsimp only [schedEvent, schedulerTick]
    cases schedFindReadyTask (countTick run.sched) with
    | none => rfl
    | some written =>
      refine timing_setTask (countTick run.sched) written slot _ fun here => ?_
      rw [here]
      rfl
  | bodyReturns => exact absurd rfl runs
  | start =>
    dsimp only [schedEvent, schedulerStart]
    split <;> rfl
  | stop => rfl

/-- Only a return takes a function off the stack. -/
theorem bodies_subset_schedEvent {run : SchedRun} {event : SchedEvent}
    (runs : event ≠ .bodyReturns) : run.bodies ⊆ (schedEvent run event).bodies := by
  cases event with
  | runNow handle =>
    dsimp only [schedEvent, schedulerRunNow]
    cases registeredSlot run.sched handle with
    | error status => exact List.Subset.refl _
    | ok slot => exact List.subset_cons_self slot run.bodies
  | tick =>
    dsimp only [schedEvent, schedulerTick]
    cases schedFindReadyTask (countTick run.sched) with
    | none => exact List.Subset.refl _
    | some slot => exact List.subset_cons_self slot run.bodies
  | bodyReturns => exact absurd rfl runs
  | _ => exact List.Subset.refl _

/-! ### A task waits out its period -/

/-- The function of the task has not returned, or there are at least `left` ticks to its next
run. -/
structure Waits (slot : TaskSlot) (periodMs : UInt32) (left : Nat) (run : SchedRun) : Prop where
  registered : (run.sched.tasks slot).registered = true
  period : (run.sched.tasks slot).config.periodMs = periodMs
  waits : slot ∈ run.bodies ∨
    run.sched.tickCount.toNat + left ≤ (run.sched.tasks slot).nextRunTick.toNat

/-- A task that a tick dispatches begins to wait. -/
theorem waits_of_dispatched {run : SchedRun} {slot : TaskSlot}
    (dispatched : tickDispatches run = some slot) (left : Nat) :
    Waits slot (run.sched.tasks slot).config.periodMs left (schedEvent run .tick) := by
  have due := schedFindReadyTask_isDue dispatched
  simp only [TaskTcb.isDue, Bool.and_eq_true] at due
  have registered : (run.sched.tasks slot).registered = true := due.1.1
  have same := @timing_schedEvent run slot .tick registered (fun touched => touched)
    (fun absurdly => by cases absurdly)
  have fields := Prod.mk.inj same
  refine ⟨fields.1.trans registered, (Prod.mk.inj fields.2).1, Or.inl ?_⟩
  dsimp only [schedEvent, schedulerTick]
  rw [show schedFindReadyTask (countTick run.sched) = some slot from dispatched]
  exact List.mem_cons_self

/-- A return keeps a task waiting when its next run does not lie beyond the wrap. -/
theorem waits_bodyReturns {run : SchedRun} {slot : TaskSlot} {periodMs : UInt32} {left : Nat}
    (waiting : Waits slot periodMs left run)
    (withinPeriod : left ≤ (periodMs / schedTickPeriodMs).toNat)
    (timely : Timely run .bodyReturns) : Waits slot periodMs left (bodyReturns run) := by
  obtain ⟨registered, period, waits⟩ := waiting
  unfold bodyReturns
  unfold Timely at timely
  cases bodies : run.bodies with
  | nil => exact ⟨registered, period, by rwa [bodies] at waits ⊢⟩
  | cons top rest =>
    rw [bodies] at waits timely
    by_cases here : slot = top
    · have fits := timely top rfl
      rw [periodTicks, ← here, period] at fits
      have written : (schedRunTaskEnds run.sched top).tasks slot =
          finishedTask (run.sched.tasks slot) run.sched.tickCount := by
        rw [schedRunTaskEnds_tasks, here, Scheduler.setTask_tasks_self]
      have next : ((schedRunTaskEnds run.sched top).tasks slot).nextRunTick.toNat =
          run.sched.tickCount.toNat + (periodMs / schedTickPeriodMs).toNat := by
        rw [written]
        dsimp only [finishedTask]
        rw [period, UInt32.toNat_add, Nat.mod_eq_of_lt fits]
      refine ⟨?_, ?_, Or.inr ?_⟩
      · rw [written]
        exact registered
      · rw [written]
        exact period
      · rw [next, schedRunTaskEnds_tickCount]
        exact Nat.add_le_add_left withinPeriod _
    · have same : (schedRunTaskEnds run.sched top).tasks slot = run.sched.tasks slot := by
        rw [schedRunTaskEnds_tasks, Scheduler.setTask_tasks_of_ne _ _ here]
      refine ⟨?_, ?_, waits.imp (fun inside => ?_) fun later => ?_⟩
      · rw [same]
        exact registered
      · rw [same]
        exact period
      · exact List.mem_of_ne_of_mem here inside
      · rw [same, schedRunTaskEnds_tickCount]
        exact later

/-- An event keeps a task that is left alone waiting; a tick takes one off the ticks left. -/
theorem waits_schedEvent {run : SchedRun} {slot : TaskSlot} {periodMs : UInt32} {left : Nat}
    {event : SchedEvent} (waiting : Waits slot periodMs (left + [event].count .tick) run)
    (withinPeriod : left + [event].count .tick ≤ (periodMs / schedTickPeriodMs).toNat)
    (alone : ¬ event.Touches slot) (timely : Timely run event) :
    Waits slot periodMs left (schedEvent run event) := by
  by_cases returns : event = .bodyReturns
  · rw [returns] at waiting withinPeriod timely ⊢
    exact waits_bodyReturns waiting withinPeriod timely
  have same := Prod.mk.inj (timing_schedEvent waiting.registered alone returns)
  refine ⟨same.1.trans waiting.registered, (Prod.mk.inj same.2).1.trans waiting.period,
    waiting.waits.imp (fun inside => bodies_subset_schedEvent returns inside) fun later => ?_⟩
  have next : ((schedEvent run event).sched.tasks slot).nextRunTick =
      (run.sched.tasks slot).nextRunTick := (Prod.mk.inj same.2).2
  rw [next]
  by_cases ticks : event = .tick
  · rw [ticks] at later ⊢
    rw [List.count_singleton_self] at later
    have small := (run.sched.tasks slot).nextRunTick.toNat_lt
    rw [tickCount_tick, UInt32.toNat_add, UInt32.toNat_one, Nat.mod_eq_of_lt (by omega)]
    omega
  · have still := @tickCount_schedEvent_le run event ticks
    omega

/-- A task waits through every part of a run in which it is left alone and which is not longer
than its period. -/
theorem waits_finalState {slot : TaskSlot} {periodMs : UInt32} (events : List SchedEvent)
    {run : SchedRun} {left : Nat} (waiting : Waits slot periodMs (left + events.count .tick) run)
    (withinPeriod : left + events.count .tick ≤ (periodMs / schedTickPeriodMs).toNat)
    (alone : ∀ event ∈ events, ¬ event.Touches slot)
    (timely : EachStep schedEvent Timely run events) :
    Waits slot periodMs left (finalState schedEvent run events) := by
  induction events generalizing run with
  | nil => exact waiting
  | cons event rest inductionHypothesis =>
    have split : (event :: rest).count .tick = rest.count .tick + [event].count .tick := by
      rw [← List.singleton_append, List.count_append, Nat.add_comm]
    rw [split, ← Nat.add_assoc] at waiting withinPeriod
    refine inductionHypothesis ?_ ?_ (fun later inside => alone later (.tail _ inside)) timely.2
    · exact waits_schedEvent waiting withinPeriod (alone event (.head _)) timely.1
    · omega

/-- A task that waits for longer than one tick is not dispatched at the next. -/
theorem not_dispatched_of_waits {run : SchedRun} {slot : TaskSlot} {periodMs : UInt32}
    (waiting : Waits slot periodMs 2 run) (timely : Timely run .tick) :
    tickDispatches run ≠ some slot := by
  intro dispatched
  have due := schedFindReadyTask_isDue dispatched
  obtain inside | later := waiting.waits
  · have notDue := timely slot inside
    rw [show (run.sched.tasks slot).isDue (run.sched.tickCount + 1) = true from due] at notDue
    cases notDue
  · simp only [TaskTcb.isDue, Bool.and_eq_true, Bool.not_eq_true', decide_eq_false_iff_not] at due
    refine due.2 ?_
    have small := (run.sched.tasks slot).nextRunTick.toNat_lt
    rw [UInt32.lt_iff_toNat_lt]
    dsimp only [countTick]
    rw [UInt32.toNat_add, UInt32.toNat_one, Nat.mod_eq_of_lt (by omega)]
    omega

/-- In a run in which no next run lies beyond the wrap of the tick counter, and no running task
is due at a tick, the periods of all tasks are respected. -/
theorem periodsRespected_of_timely (events : List SchedEvent)
    (timely : EachStep schedEvent Timely .initial events) : PeriodsRespected events := by
  rintro before meanwhile after slot rfl first alone second
  by_contra early
  have tail := timely.right
  have waiting := waits_of_dispatched first (2 + meanwhile.count .tick)
  have waited := waits_finalState meanwhile waiting (by unfold periodTicks at early; omega) alone
    tail.2.left
  rw [finalState_append] at second
  exact not_dispatched_of_waits waited tail.2.right.head second

/-- A task of the shortest period. -/
def shortTask : TaskConfig := ⟨[], some 0, 10, 0, 0, 0, true⟩

theorem periodsRespected_shortTask :
    PeriodsRespected [.register shortTask, .tick, .bodyReturns, .tick] := by
  refine periodsRespected_of_timely _ ⟨trivial, ?_, ?_, ?_, trivial⟩
  · intro slot inside
    cases inside
  · rintro _ ⟨⟩
    decide
  · intro slot inside
    cases inside

/-- Shortly before the counter wraps, a task of a period of ten ticks runs at two ticks on end. -/
theorem periodsRespected_fails : ¬ ∀ events, PeriodsRespected events := by
  intro claimed
  have idle : finalState schedEvent .initial (List.replicate 4294967290 .tick) =
      idleRun 4294967290 := finalState_idleRun 4294967290 0
  have early := claimed
    (List.replicate 4294967290 .tick ++ [.register shortTask, .tick, .bodyReturns, .tick])
    (List.replicate 4294967290 .tick ++ [.register shortTask]) [.bodyReturns] [] 0
    (List.append_assoc _ [SchedEvent.register shortTask] [.tick, .bodyReturns, .tick]).symm
  rw [List.append_assoc, finalState_append, finalState_append, idle] at early
  have tooEarly := early (by decide) (fun event inside touched => ?_) (by decide)
  · exact absurd tooEarly (by decide)
  · rw [List.mem_singleton.mp inside] at touched
    exact touched

end SmartQso
