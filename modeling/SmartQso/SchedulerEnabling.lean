/-
This file settles whether a disabled task can be dispatched. That a task is enabled is
stored twice, in its configuration and in its state, and the dispatcher writes only the
state: when a task function returns, its task is ready whatever the function did to it.
The two agree exactly in the runs in which no task function returns disabled and no
suspended task is resumed disabled.
-/

import SmartQso.SchedulerRuns

namespace SmartQso

open Runs

/-- A task that is ready is enabled. -/
def TaskTcb.Agrees (tcb : TaskTcb) : Prop :=
  tcb.registered = true → tcb.state = .ready → tcb.config.enabled = true

/-- Every ready task is enabled. -/
def ReadyEnabled (run : SchedRun) : Prop := EveryTask (fun _ => TaskTcb.Agrees) run.sched

/-- A tick dispatches no disabled task. -/
def DispatchesEnabled (run : SchedRun) (event : SchedEvent) : Prop :=
  event = .tick → ∀ slot, tickDispatches run = some slot →
    (run.sched.tasks slot).config.enabled = true

/-- A task that the event makes ready, whatever its state was, is enabled. -/
def MadeReadyEnabled (run : SchedRun) : SchedEvent → Prop
  | .resume handle => ∀ slot, registeredSlot run.sched handle = .ok slot →
      (run.sched.tasks slot).state = .suspended → (run.sched.tasks slot).config.enabled = true
  | .bodyReturns => ∀ slot ∈ run.bodies.head?,
      (run.sched.tasks slot).registered = true → (run.sched.tasks slot).config.enabled = true
  | _ => True

/-! ### No task is in fault -/

/-- No task is in fault. -/
def NoFault (run : SchedRun) : Prop := EveryTask (fun _ tcb => tcb.state ≠ .fault) run.sched

theorem noFault_initial : NoFault SchedRun.initial := by
  intro slot fault
  cases fault

theorem noFault_schedEvent (run : SchedRun) (event : SchedEvent) (noFault : NoFault run) :
    NoFault (schedEvent run event) := by
  cases event with
  | register config =>
    refine everyTask_register noFault config fun _ => ?_
    unfold registeredTask
    dsimp only
    split <;> simp
  | unregister handle => exact everyTask_unregister noFault handle fun tcb => by simp
  | enable handle => exact (everyTask_writeTask_iff noFault handle _).mpr fun slot _ => by simp
  | disable handle => exact (everyTask_writeTask_iff noFault handle _).mpr fun slot _ => by simp
  | suspend handle => exact (everyTask_writeTask_iff noFault handle _).mpr fun slot _ => by simp
  | resume handle => exact (everyTask_resume_iff noFault handle).mpr fun slot _ _ => by simp
  | setPeriod handle periodMs =>
    exact everyTask_setPeriod noFault handle periodMs fun _ slot => noFault slot
  | runNow handle => exact everyTask_runNow noFault handle fun tcb _ => by simp
  | tick => exact everyTask_tick noFault fun tcb _ => by simp
  | bodyReturns =>
    refine (everyTask_bodyReturns_iff noFault).mpr fun slot _ => ?_
    rw [finishedTask_state, if_neg (noFault slot)]
    simp
  | start => exact everyTask_start noFault noFault
  | stop => exact noFault

/-! ### Ready tasks are enabled -/

theorem readyEnabled_initial : ReadyEnabled SchedRun.initial := by
  intro slot registered
  cases registered

/-- An event leaves every ready task enabled exactly when the task it makes ready is. -/
theorem readyEnabled_schedEvent_iff (run : SchedRun) (event : SchedEvent)
    (kept : ReadyEnabled run ∧ NoFault run) :
    ReadyEnabled (schedEvent run event) ↔ MadeReadyEnabled run event := by
  obtain ⟨enabled, noFault⟩ := kept
  cases event with
  | register config =>
    refine iff_of_true (everyTask_register enabled config fun _ => ?_) trivial
    unfold registeredTask TaskTcb.Agrees
    dsimp only
    split
    case isTrue isEnabled => exact fun _ _ => isEnabled
    case isFalse => exact fun _ ready => by cases ready
  | unregister handle =>
    exact iff_of_true (everyTask_unregister enabled handle fun tcb gone => by cases gone) trivial
  | enable handle =>
    exact iff_of_true ((everyTask_writeTask_iff enabled handle _).mpr fun _ _ _ _ => rfl) trivial
  | disable handle =>
    refine iff_of_true ((everyTask_writeTask_iff enabled handle _).mpr ?_) trivial
    intro slot _ _ ready
    cases ready
  | suspend handle =>
    refine iff_of_true ((everyTask_writeTask_iff enabled handle _).mpr ?_) trivial
    intro slot _ _ ready
    cases ready
  | resume handle =>
    refine (everyTask_resume_iff enabled handle).trans (forall₂_congr fun slot found => ?_)
    exact forall_congr' fun _ => ⟨fun agrees => agrees (registeredSlot_eq_ok_iff.mp found).2 rfl,
      fun met _ _ => met⟩
  | setPeriod handle periodMs =>
    exact iff_of_true (everyTask_setPeriod enabled handle periodMs fun _ slot => enabled slot)
      trivial
  | runNow handle =>
    refine iff_of_true (everyTask_runNow enabled handle ?_) trivial
    intro tcb _ _ ready
    cases ready
  | tick =>
    refine iff_of_true (everyTask_tick enabled ?_) trivial
    intro tcb _ _ ready
    cases ready
  | bodyReturns =>
    refine (everyTask_bodyReturns_iff enabled).trans (forall₂_congr fun slot _ => ?_)
    unfold TaskTcb.Agrees
    rw [finishedTask_state, if_neg (noFault slot)]
    exact forall_congr' fun _ => forall_prop_of_true rfl
  | start => exact iff_of_true (everyTask_start enabled enabled) trivial
  | stop => exact iff_of_true enabled trivial

/-- While every ready task is enabled, a tick dispatches none that is not. -/
theorem dispatchesEnabled_of_readyEnabled (run : SchedRun) (event : SchedEvent)
    (enabled : ReadyEnabled run) : DispatchesEnabled run event := by
  rintro _ slot found
  have due := schedFindReadyTask_isDue found
  simp only [TaskTcb.isDue, Bool.and_eq_true, beq_iff_eq] at due
  exact enabled slot due.1.1 due.1.2

/-- In a run from the initialization on, every ready task is always enabled, and so every
dispatched one, exactly when no task function returns while its task is disabled and no disabled
task is resumed. -/
theorem readyEnabled_iff (events : List SchedEvent) :
    (Throughout schedEvent ReadyEnabled SchedRun.initial events ∧
        EachStep schedEvent DispatchesEnabled SchedRun.initial events) ↔
      EachStep schedEvent MadeReadyEnabled SchedRun.initial events := by
  have agrees : Throughout schedEvent ReadyEnabled SchedRun.initial events ↔
      EachStep schedEvent MadeReadyEnabled SchedRun.initial events :=
    throughout_iff_eachStep (fun _ kept => kept.1) readyEnabled_schedEvent_iff
      (fun run event kept met => ⟨(readyEnabled_schedEvent_iff run event kept).mpr met,
        noFault_schedEvent run event kept.2⟩)
      ⟨readyEnabled_initial, noFault_initial⟩ events
  rw [← agrees]
  exact ⟨fun kept => kept.1,
    fun enabled => ⟨enabled, enabled.eachStep dispatchesEnabled_of_readyEnabled⟩⟩

/-- A task that disables itself while it runs is ready afterwards. -/
theorem readyEnabled_lost :
    ¬ ∀ events, Throughout schedEvent ReadyEnabled SchedRun.initial events := by
  intro claimed
  have kept := (claimed [.register ⟨[], some 0, 10, 0, 0, 0, true⟩, .tick, .disable 0,
    .bodyReturns]).2.2.2.2
  exact absurd (kept 0 rfl rfl) (by decide)

end SmartQso
