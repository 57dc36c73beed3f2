/-
This file settles how long a task waits once it is due. A tick dispatches one task, the
most urgent that is due, and a task that has returned is not due again before its period
is over. So the more urgent tasks can ask for a bounded number of ticks in every stretch,
and a stretch that is longer dispatches the task, in whatever order ticks and returns of
task functions come.
-/

import SmartQso.ResponseTimes
import SmartQso.SchedulerDispatch
import SmartQso.SchedulerPeriods
import SmartQso.SchedulerRestarts

namespace SmartQso

open Runs ResponseTimes

/-! ### Ticks and returns -/

/-- A tick, or the return of a task function; no other call of the scheduler. -/
def SchedEvent.IsWork (event : SchedEvent) : Prop := event = .tick ∨ event = .bodyReturns

/-- What the ticks of a run dispatch, tick by tick. -/
def dispatches : SchedRun → List SchedEvent → List (Option TaskSlot)
  | _, [] => []
  | run, event :: rest =>
    if event = .tick then tickDispatches run :: dispatches (schedEvent run event) rest
    else dispatches (schedEvent run event) rest

/-- A run that some events lead to. -/
def SchedRun.Reached (run : SchedRun) : Prop :=
  ∃ history, run = finalState schedEvent .initial history

/-- The task in a slot is registered, and ready or running. -/
def SchedRun.Takes (run : SchedRun) (slot : TaskSlot) : Prop :=
  (run.sched.tasks slot).registered = true ∧
    ((run.sched.tasks slot).state = .ready ∨ slot ∈ run.bodies)

instance (run : SchedRun) : DecidablePred run.Takes := fun slot => by
  unfold SchedRun.Takes
  infer_instance

instance (sched : Scheduler) (slot other : TaskSlot) : Decidable (sched.Precedes slot other) := by
  unfold Scheduler.Precedes
  infer_instance

/-- The other tasks that a tick prefers when they are due. -/
def moreUrgent (run : SchedRun) (slot : TaskSlot) : Finset TaskSlot :=
  {other | other ≠ slot ∧ run.Takes other ∧ run.sched.Precedes other slot}

/-- The functions that have not returned belong to different tasks, which are running. -/
structure SchedRun.Settled (run : SchedRun) : Prop where
  nodup : run.bodies.Nodup
  registered : ∀ slot ∈ run.bodies, (run.sched.tasks slot).registered = true
  running : ∀ slot ∈ run.bodies, (run.sched.tasks slot).state = .running

/-! ### What a tick and a return do -/

section

variable {run : SchedRun} {slot : TaskSlot}

theorem dispatches_append (run : SchedRun) (first second : List SchedEvent) :
    dispatches run (first ++ second) =
      dispatches run first ++ dispatches (finalState schedEvent run first) second := by
  induction first generalizing run with
  | nil => rfl
  | cons event rest inductionHypothesis =>
    rw [List.cons_append, dispatches, dispatches, inductionHypothesis, finalState_cons]
    split
    · rfl
    · rfl

theorem length_dispatches (run : SchedRun) (events : List SchedEvent) :
    (dispatches run events).length = events.count .tick := by
  induction events generalizing run with
  | nil => rfl
  | cons event rest inductionHypothesis =>
    rw [dispatches]
    by_cases ticks : event = .tick
    · rw [if_pos ticks, List.length_cons, inductionHypothesis, ticks, List.count_cons_self]
    · rw [if_neg ticks, inductionHypothesis, List.count_cons_of_ne ticks]

theorem tick_of_dispatches (dispatched : tickDispatches run = some slot) :
    schedEvent run .tick = ⟨schedRunTaskBegins (countTick run.sched) slot, slot :: run.bodies⟩ :=
  schedulerTick_of_first ((schedFindReadyTask_eq_some_iff _ slot).mp dispatched)

theorem tick_of_idle (idle : tickDispatches run = none) :
    schedEvent run .tick = ⟨schedIdleTask (countTick run.sched), run.bodies⟩ := by
  dsimp only [schedEvent, schedulerTick]
  rw [show schedFindReadyTask (countTick run.sched) = none from idle]

theorem due_of_dispatches (dispatched : tickDispatches run = some slot) :
    (countTick run.sched).Due slot :=
  ((schedFindReadyTask_eq_some_iff _ slot).mp dispatched).1

/-- A task that is dispatched has no function running. -/
theorem SchedRun.Settled.not_mem_bodies (settled : run.Settled)
    (ready : (run.sched.tasks slot).state = .ready) : slot ∉ run.bodies := by
  intro inside
  rw [settled.running slot inside] at ready
  cases ready

/-- Neither a tick nor a return changes what a task is registered with. -/
theorem config_of_isWork (run : SchedRun) {event : SchedEvent} (work : event.IsWork)
    (slot : TaskSlot) :
    ((schedEvent run event).sched.tasks slot).config = (run.sched.tasks slot).config ∧
      ((schedEvent run event).sched.tasks slot).registered =
        (run.sched.tasks slot).registered := by
  rcases work with rfl | rfl
  · cases dispatched : tickDispatches run with
    | none =>
      rw [tick_of_idle dispatched]
      exact ⟨rfl, rfl⟩
    | some first =>
      rw [tick_of_dispatches dispatched]
      by_cases here : slot = first
      · rw [here]
        dsimp only [schedRunTaskBegins]
        rw [Scheduler.setTask_tasks_self]
        exact ⟨rfl, rfl⟩
      · dsimp only [schedRunTaskBegins]
        rw [Scheduler.setTask_tasks_of_ne _ _ here]
        exact ⟨rfl, rfl⟩
  · dsimp only [schedEvent, bodyReturns]
    cases run.bodies with
    | nil => exact ⟨rfl, rfl⟩
    | cons top rest =>
      dsimp only
      rw [schedRunTaskEnds_tasks]
      by_cases here : slot = top
      · rw [here, Scheduler.setTask_tasks_self]
        exact ⟨rfl, rfl⟩
      · rw [Scheduler.setTask_tasks_of_ne _ _ here]
        exact ⟨rfl, rfl⟩

/-- A task that runs neither before nor after keeps its control block. -/
theorem tasks_of_isWork {event : SchedEvent} (work : event.IsWork)
    (before : slot ∉ run.bodies) (after : slot ∉ (schedEvent run event).bodies) :
    (schedEvent run event).sched.tasks slot = run.sched.tasks slot := by
  rcases work with rfl | rfl
  · cases dispatched : tickDispatches run with
    | none => rw [tick_of_idle dispatched]; rfl
    | some first =>
      rw [tick_of_dispatches dispatched] at after ⊢
      exact Scheduler.setTask_tasks_of_ne _ _ (List.ne_of_not_mem_cons after)
  · dsimp only [schedEvent, bodyReturns] at after ⊢
    cases bodies : run.bodies with
    | nil => rfl
    | cons top rest =>
      rw [bodies] at before
      dsimp only
      rw [schedRunTaskEnds_tasks]
      exact Scheduler.setTask_tasks_of_ne _ _ (List.ne_of_not_mem_cons before)

theorem tickCount_bodyReturns (run : SchedRun) :
    (schedEvent run .bodyReturns).sched.tickCount = run.sched.tickCount := by
  dsimp only [schedEvent, bodyReturns]
  cases run.bodies with
  | nil => rfl
  | cons top rest => exact schedRunTaskEnds_tickCount run.sched top

theorem settled_of_idle (idle : run.bodies = []) : run.Settled := by
  refine ⟨?_, ?_, ?_⟩
  · rw [idle]
    exact List.nodup_nil
  · rw [idle]
    exact List.forall_mem_nil _
  · rw [idle]
    exact List.forall_mem_nil _

theorem settled_of_isWork (settled : run.Settled) {event : SchedEvent} (work : event.IsWork) :
    (schedEvent run event).Settled := by
  obtain ⟨nodup, registered, running⟩ := settled
  rcases work with rfl | rfl
  · cases dispatched : tickDispatches run with
    | none =>
      rw [tick_of_idle dispatched]
      exact ⟨nodup, registered, running⟩
    | some first =>
      obtain ⟨firstRegistered, firstReady, -⟩ := due_of_dispatches dispatched
      have outside : first ∉ run.bodies :=
        SchedRun.Settled.not_mem_bodies ⟨nodup, registered, running⟩ firstReady
      rw [tick_of_dispatches dispatched]
      refine ⟨List.nodup_cons.mpr ⟨outside, nodup⟩, ?_, ?_⟩
      · refine List.forall_mem_cons.mpr ⟨?_, fun other inside => ?_⟩
        · dsimp only [schedRunTaskBegins]
          rw [Scheduler.setTask_tasks_self]
          exact firstRegistered
        · dsimp only [schedRunTaskBegins]
          rw [Scheduler.setTask_tasks_of_ne _ _ (ne_of_mem_of_not_mem inside outside)]
          exact registered other inside
      · refine List.forall_mem_cons.mpr ⟨?_, fun other inside => ?_⟩
        · dsimp only [schedRunTaskBegins]
          rw [Scheduler.setTask_tasks_self]
        · dsimp only [schedRunTaskBegins]
          rw [Scheduler.setTask_tasks_of_ne _ _ (ne_of_mem_of_not_mem inside outside)]
          exact running other inside
  · dsimp only [schedEvent, bodyReturns]
    cases bodies : run.bodies with
    | nil => exact settled_of_idle bodies
    | cons top rest =>
      rw [bodies] at nodup registered running
      obtain ⟨outside, nodupRest⟩ := List.nodup_cons.mp nodup
      have same : ∀ other ∈ rest, (schedRunTaskEnds run.sched top).tasks other =
          run.sched.tasks other := by
        intro other inside
        rw [schedRunTaskEnds_tasks,
          Scheduler.setTask_tasks_of_ne _ _ (ne_of_mem_of_not_mem inside outside)]
      refine ⟨nodupRest, fun other inside => ?_, fun other inside => ?_⟩
      · rw [same other inside]
        exact registered other (.tail _ inside)
      · rw [same other inside]
        exact running other (.tail _ inside)

end

/-! ### Through ticks and returns -/

section

variable {run : SchedRun} {slot : TaskSlot}

theorem settled_of_work (settled : run.Settled) {events : List SchedEvent}
    (work : ∀ event ∈ events, event.IsWork) : (finalState schedEvent run events).Settled := by
  induction events generalizing run with
  | nil => exact settled
  | cons event rest inductionHypothesis =>
    obtain ⟨first, later⟩ := List.forall_mem_cons.mp work
    exact inductionHypothesis (settled_of_isWork settled first) later

theorem config_of_work (run : SchedRun) {events : List SchedEvent}
    (work : ∀ event ∈ events, event.IsWork) (slot : TaskSlot) :
    ((finalState schedEvent run events).sched.tasks slot).config =
        (run.sched.tasks slot).config ∧
      ((finalState schedEvent run events).sched.tasks slot).registered =
        (run.sched.tasks slot).registered := by
  induction events generalizing run with
  | nil => exact ⟨rfl, rfl⟩
  | cons event rest inductionHypothesis =>
    obtain ⟨first, later⟩ := List.forall_mem_cons.mp work
    obtain ⟨config, registered⟩ := inductionHypothesis (schedEvent run event) later
    obtain ⟨configFirst, registeredFirst⟩ := config_of_isWork run first slot
    exact ⟨config.trans configFirst, registered.trans registeredFirst⟩

theorem periodTicks_of_work (run : SchedRun) {events : List SchedEvent}
    (work : ∀ event ∈ events, event.IsWork) (slot : TaskSlot) :
    periodTicks (finalState schedEvent run events) slot = periodTicks run slot := by
  unfold periodTicks
  rw [(config_of_work run work slot).1]

/-- Ticks and returns count the ticks. -/
theorem tickCount_of_work (run : SchedRun) {events : List SchedEvent}
    (work : ∀ event ∈ events, event.IsWork)
    (fits : run.sched.tickCount.toNat + events.count .tick < 2 ^ 32) :
    (finalState schedEvent run events).sched.tickCount.toNat =
      run.sched.tickCount.toNat + events.count .tick := by
  induction events generalizing run with
  | nil => rfl
  | cons event rest inductionHypothesis =>
    obtain ⟨first, later⟩ := List.forall_mem_cons.mp work
    rw [finalState_cons]
    rcases first with rfl | rfl
    · rw [List.count_cons_self] at fits ⊢
      have counted : (schedEvent run .tick).sched.tickCount.toNat =
          run.sched.tickCount.toNat + 1 := by
        rw [tickCount_tick, UInt32.toNat_add, UInt32.toNat_one, Nat.mod_eq_of_lt (by omega)]
      rw [inductionHypothesis _ later (by rw [counted]; omega), counted]
      omega
    · rw [List.count_cons_of_ne (by decide)] at fits ⊢
      rw [inductionHypothesis _ later (by rw [tickCount_bodyReturns]; exact fits),
        tickCount_bodyReturns]

/-- No task that neither is ready nor runs comes to it through work. -/
theorem takes_of_isWork {event : SchedEvent} (work : event.IsWork) {other : TaskSlot}
    (takes : (schedEvent run event).Takes other) : run.Takes other := by
  obtain ⟨registered, active⟩ := takes
  refine ⟨(config_of_isWork run work other).2 ▸ registered, ?_⟩
  by_cases before : other ∈ run.bodies
  · exact Or.inr before
  by_cases after : other ∈ (schedEvent run event).bodies
  · rcases work with rfl | rfl
    · cases dispatched : tickDispatches run with
      | none =>
        rw [tick_of_idle dispatched] at after
        exact absurd after before
      | some first =>
        rw [tick_of_dispatches dispatched] at after
        rcases List.mem_cons.mp after with rfl | inside
        · exact Or.inl (due_of_dispatches dispatched).2.1
        · exact absurd inside before
    · dsimp only [schedEvent, bodyReturns] at after
      cases bodies : run.bodies with
      | nil =>
        rw [bodies] at after before
        exact absurd (bodies ▸ after) before
      | cons top rest =>
        rw [bodies] at after before
        exact absurd (.tail _ after) before
  · rw [tasks_of_isWork work before after] at active
    exact active.imp_right fun inside => absurd inside after

theorem moreUrgent_of_work (run : SchedRun) {events : List SchedEvent}
    (work : ∀ event ∈ events, event.IsWork) (slot : TaskSlot) :
    moreUrgent (finalState schedEvent run events) slot ⊆ moreUrgent run slot := by
  intro other among
  simp only [moreUrgent, Finset.mem_filter, Finset.mem_univ, true_and] at among ⊢
  obtain ⟨apart, takes, precedes⟩ := among
  refine ⟨apart, ?_, ?_⟩
  · induction events generalizing run with
    | nil => exact takes
    | cons event rest inductionHypothesis =>
      obtain ⟨first, later⟩ := List.forall_mem_cons.mp work
      exact takes_of_isWork first (inductionHypothesis _ later takes precedes)
  · unfold Scheduler.Precedes at precedes ⊢
    rw [(config_of_work run work other).1, (config_of_work run work slot).1] at precedes
    exact precedes

/-! ### A task that waits -/

/-- The task in a slot is ready, and due at the next tick. -/
structure SchedRun.Waiting (run : SchedRun) (slot : TaskSlot) : Prop where
  registered : (run.sched.tasks slot).registered = true
  ready : (run.sched.tasks slot).state = .ready
  due : (run.sched.tasks slot).nextRunTick.toNat ≤ run.sched.tickCount.toNat + 1

/-- A tick dispatches a task that waits or a more urgent one. -/
theorem tickDispatches_of_waiting (waiting : run.Waiting slot)
    (fits : run.sched.tickCount.toNat + 1 < 2 ^ 32) (passed : tickDispatches run ≠ some slot) :
    ∃ other ∈ moreUrgent run slot, tickDispatches run = some other := by
  have due : (countTick run.sched).Due slot := by
    refine ⟨waiting.registered, waiting.ready, ?_⟩
    rw [UInt32.le_iff_toNat_le]
    dsimp only [countTick]
    rw [UInt32.toNat_add, UInt32.toNat_one, Nat.mod_eq_of_lt fits]
    exact waiting.due
  cases dispatched : tickDispatches run with
  | none => exact absurd due ((schedFindReadyTask_eq_none_iff _).mp dispatched slot)
  | some other =>
    obtain ⟨⟨registered, ready, -⟩, least⟩ := (schedFindReadyTask_eq_some_iff _ other).mp dispatched
    refine ⟨other, ?_, rfl⟩
    rw [moreUrgent, Finset.mem_filter]
    refine ⟨Finset.mem_univ other, ?_, ⟨registered, Or.inl ready⟩, least slot due⟩
    rintro rfl
    exact passed dispatched

/-- Work that does not dispatch a ready task leaves its control block alone. -/
theorem tasks_of_passed (outside : slot ∉ run.bodies) {event : SchedEvent}
    (work : event.IsWork) (passed : some slot ∉ dispatches run [event]) :
    slot ∉ (schedEvent run event).bodies ∧
      (schedEvent run event).sched.tasks slot = run.sched.tasks slot := by
  suffices after : slot ∉ (schedEvent run event).bodies from
    ⟨after, tasks_of_isWork work outside after⟩
  rcases work with rfl | rfl
  · cases dispatched : tickDispatches run with
    | none =>
      rw [tick_of_idle dispatched]
      exact outside
    | some first =>
      rw [tick_of_dispatches dispatched]
      refine List.not_mem_cons_of_ne_of_not_mem ?_ outside
      rintro rfl
      rw [dispatches, if_pos rfl, dispatched] at passed
      exact passed List.mem_cons_self
  · dsimp only [schedEvent, bodyReturns]
    cases bodies : run.bodies with
    | nil =>
      rw [bodies]
      exact List.not_mem_nil
    | cons top rest =>
      rw [bodies] at outside
      exact fun inside => outside (.tail _ inside)

theorem tasks_of_passed_work (outside : slot ∉ run.bodies) {events : List SchedEvent}
    (work : ∀ event ∈ events, event.IsWork) (passed : some slot ∉ dispatches run events) :
    slot ∉ (finalState schedEvent run events).bodies ∧
      (finalState schedEvent run events).sched.tasks slot = run.sched.tasks slot := by
  induction events generalizing run with
  | nil => exact ⟨outside, rfl⟩
  | cons event rest inductionHypothesis =>
    obtain ⟨first, later⟩ := List.forall_mem_cons.mp work
    rw [← List.singleton_append, dispatches_append, List.mem_append, not_or] at passed
    obtain ⟨outsideNext, sameNext⟩ := tasks_of_passed outside first passed.1
    obtain ⟨outsideLast, sameLast⟩ := inductionHypothesis outsideNext later passed.2
    exact ⟨outsideLast, sameLast.trans sameNext⟩

/-- A ready task that no tick dispatches waits from the tick on at which it is due. -/
theorem waiting_of_passed (registered : (run.sched.tasks slot).registered = true)
    (ready : (run.sched.tasks slot).state = .ready) (outside : slot ∉ run.bodies)
    {events : List SchedEvent} (work : ∀ event ∈ events, event.IsWork)
    (passed : some slot ∉ dispatches run events)
    (due : (run.sched.tasks slot).nextRunTick.toNat ≤
      run.sched.tickCount.toNat + events.count .tick + 1)
    (fits : run.sched.tickCount.toNat + events.count .tick < 2 ^ 32) :
    (finalState schedEvent run events).Waiting slot := by
  obtain ⟨-, same⟩ := tasks_of_passed_work outside work passed
  refine ⟨?_, ?_, ?_⟩
  · rw [same]
    exact registered
  · rw [same]
    exact ready
  · rw [same, tickCount_of_work run work fits]
    exact due

/-- While a task waits, every tick dispatches a more urgent one. -/
theorem dispatches_of_waiting (waiting : run.Waiting slot) (outside : slot ∉ run.bodies)
    {events : List SchedEvent} (work : ∀ event ∈ events, event.IsWork)
    (passed : some slot ∉ dispatches run events)
    (fits : run.sched.tickCount.toNat + events.count .tick < 2 ^ 32) :
    ∀ entry ∈ dispatches run events, ∃ other ∈ moreUrgent run slot, entry = some other := by
  induction events using List.reverseRecOn with
  | nil => exact List.forall_mem_nil _
  | append_singleton events event inductionHypothesis =>
    obtain ⟨earlier, last⟩ := List.forall_mem_append.mp work
    rw [dispatches_append, List.mem_append, not_or] at passed
    rw [List.count_append] at fits
    rw [dispatches_append, List.forall_mem_append]
    refine ⟨inductionHypothesis earlier passed.1 (by omega), ?_⟩
    have waits := waiting_of_passed waiting.registered waiting.ready outside earlier passed.1
      (waiting.due.trans (by omega)) (by omega)
    by_cases ticks : event = .tick
    · rw [ticks] at passed fits ⊢
      rw [dispatches, if_pos rfl, dispatches] at passed ⊢
      rw [List.forall_mem_singleton]
      have counted := tickCount_of_work run earlier (by omega)
      rw [List.count_singleton_self] at fits
      obtain ⟨other, among, dispatched⟩ := tickDispatches_of_waiting waits (by omega)
        fun here => passed.2 (List.mem_singleton.mpr here.symm)
      exact ⟨other, moreUrgent_of_work run earlier slot among, dispatched⟩
    · rw [dispatches, if_neg ticks]
      exact List.forall_mem_nil _

end

/-! ### Periods between dispatches -/

/-- The periods of registered tasks lie between the bounds for them. -/
def PeriodsInBounds (run : SchedRun) : Prop :=
  EveryTask (fun _ tcb => tcb.registered = true →
    schedMinPeriodMs ≤ tcb.config.periodMs ∧ tcb.config.periodMs ≤ schedMaxPeriodMs) run.sched

theorem inBounds_of_accepted {periodMs : UInt32}
    (accepted : ¬ (periodMs < schedMinPeriodMs ∨ periodMs > schedMaxPeriodMs)) :
    schedMinPeriodMs ≤ periodMs ∧ periodMs ≤ schedMaxPeriodMs := by
  rw [not_or] at accepted
  exact ⟨UInt32.not_lt.mp accepted.1, UInt32.not_lt.mp accepted.2⟩

theorem periodsInBounds_schedEvent (run : SchedRun) (event : SchedEvent)
    (inBounds : PeriodsInBounds run) : PeriodsInBounds (schedEvent run event) := by
  cases event with
  | register config =>
    dsimp only [schedEvent, schedulerRegisterTask]
    split
    · exact inBounds
    split
    · exact inBounds
    case isFalse accepted =>
      split
      · exact inBounds
      · split
        · exact inBounds
        · exact (everyTask_setTask_iff inBounds _ _).mpr fun _ => inBounds_of_accepted accepted
  | unregister handle => exact everyTask_unregister inBounds handle fun tcb gone => by cases gone
  | enable handle =>
    exact (everyTask_writeTask_iff inBounds handle _).mpr fun slot _ => inBounds slot
  | disable handle =>
    exact (everyTask_writeTask_iff inBounds handle _).mpr fun slot _ => inBounds slot
  | suspend handle =>
    exact (everyTask_writeTask_iff inBounds handle _).mpr fun slot _ => inBounds slot
  | resume handle => exact (everyTask_resume_iff inBounds handle).mpr fun slot _ _ => inBounds slot
  | setPeriod handle periodMs =>
    dsimp only [schedEvent, schedulerSetPeriod]
    split
    · exact inBounds
    case isFalse accepted =>
      refine (everyTask_writeTask_iff inBounds handle _).mpr fun slot found _ => ?_
      have inRange : handle.toNat < 16 := by
        rw [(registeredSlot_eq_ok_iff.mp found).1]
        exact slot.isLt
      exact inBounds_of_accepted fun outside => accepted ⟨inRange, outside⟩
  | runNow handle => exact everyTask_runNow inBounds handle fun _ within => within
  | tick => exact everyTask_tick inBounds fun _ within => within
  | bodyReturns => exact (everyTask_bodyReturns_iff inBounds).mpr fun slot _ => inBounds slot
  | start => exact everyTask_start inBounds inBounds
  | stop => exact inBounds

theorem SchedRun.Reached.periodsInBounds {run : SchedRun} (reached : run.Reached) :
    PeriodsInBounds run := by
  obtain ⟨history, rfl⟩ := reached
  refine finalState_of_invariant periodsInBounds_schedEvent ?_ history
  intro slot registered
  cases registered

section

variable {run : SchedRun} {slot : TaskSlot}

theorem periodTicks_bounds (inBounds : PeriodsInBounds run)
    (registered : (run.sched.tasks slot).registered = true) :
    10 ≤ periodTicks run slot ∧ periodTicks run slot ≤ 60000 := by
  obtain ⟨least, most⟩ := inBounds slot registered
  rw [UInt32.le_iff_toNat_le] at least most
  have ticks : periodTicks run slot = (run.sched.tasks slot).config.periodMs.toNat := by
    unfold periodTicks
    rw [UInt32.toNat_div]
    exact Nat.div_one _
  rw [ticks]
  exact ⟨least, most⟩

/-- In work no running task is due, and while the counter is far from its end no next run wraps. -/
theorem timely_of_work (settled : run.Settled) (inBounds : PeriodsInBounds run)
    {events : List SchedEvent} (work : ∀ event ∈ events, event.IsWork)
    (fits : run.sched.tickCount.toNat + events.count .tick + 60000 < 2 ^ 32) :
    EachStep schedEvent Timely run events := by
  induction events generalizing run with
  | nil => trivial
  | cons event rest inductionHypothesis =>
    obtain ⟨first, later⟩ := List.forall_mem_cons.mp work
    have counted := tickCount_of_work run
      (List.forall_mem_singleton.mpr first)
    rw [← List.singleton_append, List.count_append] at fits
    refine ⟨?_, inductionHypothesis (settled_of_isWork settled first)
      (periodsInBounds_schedEvent run event inBounds) later ?_⟩
    · rcases first with rfl | rfl
      · intro other inside
        rw [TaskTcb.isDue, settled.running other inside]
        exact Bool.and_eq_false_imp.mpr fun both => by simp at both
      · intro other top
        have registered := settled.registered other (List.mem_of_mem_head? top)
        have most := (periodTicks_bounds inBounds registered).2
        omega
    · have last : (schedEvent run event).sched.tickCount.toNat =
          run.sched.tickCount.toNat + [event].count .tick := counted (by omega)
      omega

/-- What lies before and after a dispatch in the log lies before and after a tick in the run. -/
theorem dispatches_eq_append_cons {events : List SchedEvent} {before after : List (Option TaskSlot)}
    {entry : Option TaskSlot} (split : dispatches run events = before ++ entry :: after) :
    ∃ first second, events = first ++ .tick :: second ∧ dispatches run first = before ∧
      tickDispatches (finalState schedEvent run first) = entry ∧
      dispatches (finalState schedEvent run (first ++ [.tick])) second = after := by
  induction events generalizing run before with
  | nil => cases before <;> cases split
  | cons event rest inductionHypothesis =>
    rw [dispatches] at split
    by_cases ticks : event = .tick
    · rw [if_pos ticks] at split
      cases before with
      | nil =>
        obtain ⟨here, later⟩ := List.cons.inj split
        exact ⟨[], rest, by rw [ticks]; rfl, rfl, here, by rw [ticks] at later; exact later⟩
      | cons head before =>
        obtain ⟨here, later⟩ := List.cons.inj split
        obtain ⟨first, second, rfl, earlier, entryIs, afterIs⟩ := inductionHypothesis later
        refine ⟨event :: first, second, rfl, ?_, entryIs, afterIs⟩
        rw [dispatches, if_pos ticks, here, earlier]
    · rw [if_neg ticks] at split
      obtain ⟨first, second, rfl, earlier, entryIs, afterIs⟩ := inductionHypothesis split
      refine ⟨event :: first, second, rfl, ?_, entryIs, afterIs⟩
      rw [dispatches, if_neg ticks, earlier]

/-- Two ticks that dispatch a task are at least its period apart. -/
theorem spaced_dispatches (settled : run.Settled) (inBounds : PeriodsInBounds run)
    {events : List SchedEvent} (work : ∀ event ∈ events, event.IsWork)
    (fits : run.sched.tickCount.toNat + events.count .tick + 60000 < 2 ^ 32) (slot : TaskSlot) :
    Spaced (periodTicks run slot) slot (dispatches run events) := by
  intro before between after split
  obtain ⟨first, rest, rfl, -, dispatched, later⟩ := dispatches_eq_append_cons split
  obtain ⟨meanwhile, last, rfl, count, again, -⟩ := dispatches_eq_append_cons later
  have workBetween : ∀ event ∈ meanwhile, event.IsWork := fun event inside =>
    work event (List.mem_append_right first (.tail _ (List.mem_append_left _ inside)))
  have alone : ∀ event ∈ meanwhile, ¬ event.Touches slot := by
    intro event inside touches
    rcases workBetween event inside with rfl | rfl
    · exact touches
    · exact touches
  have timely := (timely_of_work settled inBounds work fits).right
  have workFirst : ∀ event ∈ first, event.IsWork := fun event inside =>
    work event (List.mem_append_left _ inside)
  rw [← count, length_dispatches, ← periodTicks_of_work run workFirst]
  by_contra early
  have waiting := waits_of_dispatched dispatched (2 + meanwhile.count .tick)
  have waited := waits_finalState meanwhile waiting (by unfold periodTicks at early; omega) alone
    timely.2.left
  rw [finalState_append] at again
  exact not_dispatched_of_waits waited timely.2.right.head again

end

/-! ### The response time -/

/-- A run can be cut behind any number of its ticks. -/
theorem exists_cut {events : List SchedEvent} {ticks : Nat} (enough : ticks ≤ events.count .tick) :
    ∃ first second, events = first ++ second ∧ first.count .tick = ticks := by
  induction ticks with
  | zero => exact ⟨[], events, rfl, rfl⟩
  | succ ticks inductionHypothesis =>
    obtain ⟨first, second, rfl, counted⟩ := inductionHypothesis (by omega)
    rw [List.count_append, counted] at enough
    have next : SchedEvent.tick ∈ second := List.count_pos_iff.mp (by omega)
    obtain ⟨quiet, rest, rfl, absent⟩ := List.eq_append_cons_of_mem next
    refine ⟨first ++ quiet ++ [.tick], rest, by simp, ?_⟩
    rw [List.count_append, List.count_append, counted, List.count_eq_zero_of_not_mem absent,
      List.count_singleton_self]

section

variable {run : SchedRun} {slot : TaskSlot} {lead window : Nat} {events : List SchedEvent}

/-- A task that waits is dispatched in a window that the more urgent tasks cannot fill. -/
theorem mem_dispatches_of_waiting (settled : run.Settled) (inBounds : PeriodsInBounds run)
    (waiting : run.Waiting slot) (work : ∀ event ∈ events, event.IsWork)
    (short : demand (periodTicks run) (moreUrgent run slot) (events.count .tick) <
      events.count .tick)
    (fits : run.sched.tickCount.toNat + events.count .tick + 60000 < 2 ^ 32) :
    some slot ∈ dispatches run events := by
  rw [← length_dispatches run] at short
  refine mem_of_demand_lt (fun other among => ?_) (fun other _ => ?_) (fun passed => ?_) short
  · rw [moreUrgent, Finset.mem_filter] at among
    have least := (periodTicks_bounds inBounds among.2.2.1.1).1
    omega
  · exact spaced_dispatches settled inBounds work fits other
  · exact dispatches_of_waiting waiting (settled.not_mem_bodies waiting.ready) work passed
      (by omega)

/-- A ready task that is due in `lead` ticks is dispatched in the window behind these. -/
theorem mem_dispatches_of_ready (settled : run.Settled) (inBounds : PeriodsInBounds run)
    (registered : (run.sched.tasks slot).registered = true)
    (ready : (run.sched.tasks slot).state = .ready)
    (due : (run.sched.tasks slot).nextRunTick.toNat ≤ run.sched.tickCount.toNat + lead + 1)
    (short : demand (periodTicks run) (moreUrgent run slot) window < window)
    (work : ∀ event ∈ events, event.IsWork) (long : events.count .tick = lead + window)
    (fits : run.sched.tickCount.toNat + events.count .tick + 60000 < 2 ^ 32) :
    some slot ∈ dispatches run events := by
  obtain ⟨first, second, rfl, counted⟩ := exists_cut (long ▸ Nat.le_add_right lead window)
  obtain ⟨workFirst, workSecond⟩ := List.forall_mem_append.mp work
  rw [List.count_append] at long fits
  have rest : second.count .tick = window := by omega
  rw [dispatches_append, List.mem_append]
  by_cases passed : some slot ∈ dispatches run first
  · exact Or.inl passed
  have waits := waiting_of_passed registered ready (settled.not_mem_bodies ready) workFirst passed
    (counted.symm ▸ due) (by omega)
  have moved := tickCount_of_work run workFirst (by omega)
  refine Or.inr (mem_dispatches_of_waiting (settled_of_work settled workFirst)
    (finalState_of_invariant periodsInBounds_schedEvent inBounds first) waits workSecond ?_ ?_)
  · have periods : periodTicks (finalState schedEvent run first) = periodTicks run :=
      funext (periodTicks_of_work run workFirst)
    rw [periods, rest]
    exact (demand_mono (moreUrgent_of_work run workFirst slot) window).trans_lt short
  · omega

end

/-- From every state that is reached with no function running, in every order of ticks and returns,
a ready task that is due in `lead` ticks is dispatched in the window behind these that the more
urgent tasks are too few to fill. -/
theorem dispatched_in_response_time {run : SchedRun} (reached : run.Reached)
    (idle : run.bodies = []) {slot : TaskSlot} {lead window : Nat}
    (registered : (run.sched.tasks slot).registered = true)
    (ready : (run.sched.tasks slot).state = .ready)
    (due : (run.sched.tasks slot).nextRunTick.toNat ≤ run.sched.tickCount.toNat + lead + 1)
    (short : demand (periodTicks run) (moreUrgent run slot) window < window)
    {events : List SchedEvent} (work : ∀ event ∈ events, event.IsWork)
    (long : events.count .tick = lead + window)
    (fits : run.sched.tickCount.toNat + events.count .tick + 60000 < 2 ^ 32) :
    some slot ∈ dispatches run events :=
  mem_dispatches_of_ready (settled_of_idle idle) reached.periodsInBounds registered ready due short
    work long fits

/-- A task of a longer period. -/
def lesserTask : TaskConfig := ⟨[1], some 1, 20, 0, 0, 1, true⟩

/-- The second of two tasks that become due together is dispatched in two ticks. -/
theorem lesserTask_dispatched :
    some 1 ∈ dispatches (finalState schedEvent .initial [.register shortTask, .register lesserTask])
      [.tick, .bodyReturns, .tick] := by
  refine @dispatched_in_response_time _ ⟨[.register shortTask, .register lesserTask], rfl⟩ rfl _ 0 2
    rfl rfl ?_ ?_ _ ?_ ?_ ?_
  · decide
  · decide +kernel
  · simp only [List.forall_mem_cons, SchedEvent.IsWork, true_or, or_true, true_and]
    exact List.forall_mem_nil _
  · decide
  · decide

/-! ### The period of a task that is dispatched again and again -/

section

variable {run : SchedRun} {slot : TaskSlot} {events : List SchedEvent}

/-- Before its next run a task is not dispatched. -/
theorem not_mem_dispatches_of_early (outside : slot ∉ run.bodies)
    (work : ∀ event ∈ events, event.IsWork)
    (early : run.sched.tickCount.toNat + events.count .tick <
      (run.sched.tasks slot).nextRunTick.toNat) :
    some slot ∉ dispatches run events := by
  have small := (run.sched.tasks slot).nextRunTick.toNat_lt
  induction events using List.reverseRecOn with
  | nil => exact List.not_mem_nil
  | append_singleton events event inductionHypothesis =>
    obtain ⟨workBefore, last⟩ := List.forall_mem_append.mp work
    rw [List.count_append] at early
    have passed := inductionHypothesis workBefore (by omega)
    rw [dispatches_append, List.mem_append, not_or]
    refine ⟨passed, ?_⟩
    by_cases ticks : event = .tick
    · obtain ⟨-, same⟩ := tasks_of_passed_work outside workBefore passed
      have moved := tickCount_of_work run workBefore (by omega)
      rw [ticks, List.count_singleton_self] at early
      rw [ticks, dispatches, if_pos rfl, dispatches, List.mem_singleton]
      intro dispatched
      have due := UInt32.le_iff_toNat_le.mp (due_of_dispatches dispatched.symm).2.2
      dsimp only [countTick] at due
      rw [same, UInt32.toNat_add, UInt32.toNat_one, moved, Nat.mod_eq_of_lt (by omega)] at due
      omega
    · rw [dispatches, if_neg ticks]
      exact List.not_mem_nil

/-- When its function returns, a task is ready and due after its period. -/
theorem tasks_bodyReturns (settled : run.Settled) (returns : run.bodies.head? = some slot) :
    slot ∉ (schedEvent run .bodyReturns).bodies ∧
      ((schedEvent run .bodyReturns).sched.tasks slot).state = .ready ∧
      ((schedEvent run .bodyReturns).sched.tasks slot).nextRunTick =
        run.sched.tickCount + (run.sched.tasks slot).config.periodMs / schedTickPeriodMs := by
  obtain ⟨nodup, registered, running⟩ := settled
  dsimp only [schedEvent, bodyReturns]
  cases bodies : run.bodies with
  | nil =>
    rw [bodies] at returns
    cases returns
  | cons top rest =>
    rw [bodies] at returns nodup running
    obtain rfl := Option.some.inj returns
    have isRunning := running top List.mem_cons_self
    dsimp only
    rw [schedRunTaskEnds_tasks, Scheduler.setTask_tasks_self, finishedTask_state, isRunning]
    exact ⟨(List.nodup_cons.mp nodup).1, rfl, rfl⟩

/-- The entries of a stretch of ticks are those of a first part of the run. -/
theorem exists_take_dispatches {ticks : Nat} (enough : ticks ≤ events.count .tick)
    (run : SchedRun) :
    ∃ first second, events = first ++ second ∧ first.count .tick = ticks ∧
      (dispatches run events).take ticks = dispatches run first := by
  obtain ⟨first, second, rfl, counted⟩ := exists_cut enough
  refine ⟨first, second, rfl, counted, ?_⟩
  rw [dispatches_append, ← counted, ← length_dispatches run, List.take_left]

theorem redispatched_of_returns (settled : run.Settled) (inBounds : PeriodsInBounds run)
    (few : (moreUrgent run slot).card ≤ 9) (returns : run.bodies.head? = some slot)
    (work : ∀ event ∈ events, event.IsWork)
    (long : periodTicks run slot + 9 ≤ events.count .tick)
    (fits : run.sched.tickCount.toNat + events.count .tick + 60000 < 2 ^ 32) :
    some slot ∉ (dispatches (schedEvent run .bodyReturns) events).take
        (periodTicks run slot - 1) ∧
      some slot ∈ (dispatches (schedEvent run .bodyReturns) events).take
        (periodTicks run slot + 9) := by
  have isReturn : SchedEvent.bodyReturns.IsWork := Or.inr rfl
  have wasRegistered := settled.registered slot (List.mem_of_mem_head? returns)
  obtain ⟨least, most⟩ := periodTicks_bounds inBounds wasRegistered
  obtain ⟨outside, ready, next⟩ := tasks_bodyReturns settled returns
  obtain ⟨-, sameRegistered⟩ := config_of_isWork run isReturn slot
  have fewer := (Finset.card_le_card (moreUrgent_of_work run
    (List.forall_mem_singleton.mpr isReturn) slot)).trans few
  have settledAfter := settled_of_isWork settled isReturn
  have inBoundsAfter := periodsInBounds_schedEvent run .bodyReturns inBounds
  have sameCount := tickCount_bodyReturns run
  have nextTick : ((schedEvent run .bodyReturns).sched.tasks slot).nextRunTick.toNat =
      run.sched.tickCount.toNat + periodTicks run slot := by
    rw [next, UInt32.toNat_add]
    exact Nat.mod_eq_of_lt (by unfold periodTicks at most; omega)
  constructor
  · have enough : periodTicks run slot - 1 ≤ events.count .tick := by omega
    obtain ⟨soon, rest, rfl, counted, same⟩ := exists_take_dispatches enough
      (schedEvent run .bodyReturns)
    rw [same]
    refine not_mem_dispatches_of_early outside (List.forall_mem_append.mp work).1 ?_
    rw [nextTick, sameCount, counted]
    omega
  · obtain ⟨soon, rest, rfl, counted, same⟩ := exists_take_dispatches long
      (schedEvent run .bodyReturns)
    rw [List.count_append] at fits
    rw [same]
    have lastTick : soon.count .tick = periodTicks run slot - 1 + 10 := counted.trans (by omega)
    refine mem_dispatches_of_ready settledAfter inBoundsAfter
      (sameRegistered.trans wasRegistered) ready ?_ ?_ (List.forall_mem_append.mp work).1 lastTick
      ?_
    · rw [nextTick, sameCount]
      omega
    · refine (demand_le_card (fun other among => ?_) (by decide)).trans_lt (Nat.lt_succ_of_le fewer)
      rw [moreUrgent, Finset.mem_filter] at among
      exact (periodTicks_bounds inBoundsAfter among.2.2.1.1).1
    · rw [sameCount]
      omega

end

/-- Short of the wrap of the tick count, a task with nine others at most that are more urgent is
dispatched again in the first ten ticks from the end of its period on, counted from the return of
its function. -/
theorem redispatched_after_period {run : SchedRun} (reached : run.Reached) (idle : run.bodies = [])
    {slot : TaskSlot} (few : (moreUrgent run slot).card ≤ 9) {first second : List SchedEvent}
    (work : ∀ event ∈ first ++ .bodyReturns :: second, event.IsWork)
    (returns : (finalState schedEvent run first).bodies.head? = some slot)
    (long : periodTicks run slot + 9 ≤ second.count .tick)
    (fits : run.sched.tickCount.toNat + (first ++ .bodyReturns :: second).count .tick + 60000 <
      2 ^ 32) :
    some slot ∉ (dispatches (finalState schedEvent run (first ++ [.bodyReturns])) second).take
        (periodTicks run slot - 1) ∧
      some slot ∈ (dispatches (finalState schedEvent run (first ++ [.bodyReturns])) second).take
        (periodTicks run slot + 9) := by
  obtain ⟨workFirst, workRest⟩ := List.forall_mem_append.mp work
  obtain ⟨workReturn, workSecond⟩ := List.forall_mem_cons.mp workRest
  rw [List.count_append, List.count_cons_of_ne (by decide)] at fits
  have moved := tickCount_of_work run workFirst (by omega)
  have fewer := (Finset.card_le_card (moreUrgent_of_work run workFirst slot)).trans few
  rw [finalState_append, ← periodTicks_of_work run workFirst]
  rw [← periodTicks_of_work run workFirst] at long
  exact redispatched_of_returns (settled_of_work (settled_of_idle idle) workFirst)
    (finalState_of_invariant periodsInBounds_schedEvent reached.periodsInBounds first) fewer
    returns workSecond long (by omega)

theorem shortTask_redispatched :
    some 0 ∉ (dispatches (finalState schedEvent
        (finalState schedEvent .initial [.register shortTask, .register lesserTask])
        ([.tick] ++ [.bodyReturns])) (List.replicate 19 .tick)).take
          (periodTicks (finalState schedEvent .initial
            [.register shortTask, .register lesserTask]) 0 - 1) ∧
      some 0 ∈ (dispatches (finalState schedEvent
        (finalState schedEvent .initial [.register shortTask, .register lesserTask])
        ([.tick] ++ [.bodyReturns])) (List.replicate 19 .tick)).take
          (periodTicks (finalState schedEvent .initial
            [.register shortTask, .register lesserTask]) 0 + 9) := by
  refine redispatched_after_period ⟨[.register shortTask, .register lesserTask], rfl⟩ rfl ?_ ?_ ?_
    ?_ ?_
  · decide +kernel
  · intro event inside
    rcases List.mem_append.mp inside with first | rest
    · exact Or.inl (List.mem_singleton.mp first)
    · rcases List.mem_cons.mp rest with returns | ticks
      · exact Or.inr returns
      · exact Or.inl (List.eq_of_mem_replicate ticks)
  · decide +kernel
  · decide +kernel
  · decide +kernel

end SmartQso
