/-
This file settles how far ahead the next run of a ready task can lie. A start sets the
tick counter back to zero and leaves the next runs of the tasks where they are, so that
a task waits again for all the ticks that were counted before. Apart from a start, and
from a task that was suspended before one, nothing puts a next run further ahead than
the offset of the task or the longest period.
-/

import SmartQso.SchedulerRuns

namespace SmartQso

open Runs

/-- The number of ticks in which a ready task is due at the latest. -/
def TaskConfig.reachTicks (config : TaskConfig) : Nat :=
  max config.offsetMs.toNat schedMaxPeriodMs.toNat / schedTickPeriodMs.toNat

/-- The next run of a task lies at most its offset or the longest period ahead. -/
def TaskTcb.InReach (tickCount : UInt32) (tcb : TaskTcb) : Prop :=
  tcb.nextRunTick.toNat ≤ tickCount.toNat + tcb.config.reachTicks

/-- The next run of every ready task is in reach. -/
def ReadyInReach (run : SchedRun) : Prop :=
  EveryTask (fun tickCount tcb =>
    tcb.registered = true → tcb.state = .ready → tcb.InReach tickCount) run.sched

/-- Every ready task is due when the ticks in its reach have been counted. -/
def DueInReach (run : SchedRun) : Prop :=
  EveryTask (fun tickCount tcb => tcb.registered = true → tcb.state = .ready →
    ∀ later : UInt32, tickCount.toNat + tcb.config.reachTicks ≤ later.toNat →
      tcb.isDue later = true) run.sched

/-- A start leaves the next runs of the ready tasks in reach, and so does a resumption that of the
suspended task. -/
def LeavesInReach (run : SchedRun) : SchedEvent → Prop
  | .start => run.sched.initialized = true → ∀ slot, (run.sched.tasks slot).registered = true →
      (run.sched.tasks slot).state = .ready → (run.sched.tasks slot).InReach 0
  | .resume handle => ∀ slot, registeredSlot run.sched handle = .ok slot →
      (run.sched.tasks slot).state = .suspended →
      (run.sched.tasks slot).InReach run.sched.tickCount
  | _ => True

/-! ### Periods are bounded -/

/-- No task has a period longer than the longest one. -/
def PeriodsBounded (run : SchedRun) : Prop :=
  EveryTask (fun _ tcb => tcb.registered = true → tcb.config.periodMs ≤ schedMaxPeriodMs) run.sched

theorem periodsBounded_schedEvent (run : SchedRun) (event : SchedEvent)
    (bounded : PeriodsBounded run) : PeriodsBounded (schedEvent run event) := by
  cases event with
  | register config => exact everyTask_register bounded config fun atMost _ => atMost
  | unregister handle => exact everyTask_unregister bounded handle fun tcb gone => by cases gone
  | enable handle =>
    exact (everyTask_writeTask_iff bounded handle _).mpr fun slot _ => bounded slot
  | disable handle =>
    exact (everyTask_writeTask_iff bounded handle _).mpr fun slot _ => bounded slot
  | suspend handle =>
    exact (everyTask_writeTask_iff bounded handle _).mpr fun slot _ => bounded slot
  | resume handle => exact (everyTask_resume_iff bounded handle).mpr fun slot _ _ => bounded slot
  | setPeriod handle periodMs =>
    exact everyTask_setPeriod bounded handle periodMs fun atMost _ _ => atMost
  | runNow handle => exact everyTask_runNow bounded handle fun _ atMost => atMost
  | tick => exact everyTask_tick bounded fun _ atMost => atMost
  | bodyReturns => exact (everyTask_bodyReturns_iff bounded).mpr fun slot _ => bounded slot
  | start => exact everyTask_start bounded bounded
  | stop => exact bounded

/-! ### Next runs stay in reach -/

/-- The next run of a ready task is in reach, no period is too long, and the ticks still to come
do not wrap the counter. -/
def StaysInReach (run : SchedRun) (rest : List SchedEvent) : Prop :=
  ReadyInReach run ∧ PeriodsBounded run ∧
    run.sched.tickCount.toNat + rest.count .tick < 2 ^ 32

/-- A next run that is an offset or a period ahead is in reach, also when the sum wraps. -/
theorem add_inReach {config : TaskConfig} (tickCount : UInt32) {ahead : UInt32}
    (within : ahead.toNat ≤ max config.offsetMs.toNat schedMaxPeriodMs.toNat) :
    (tickCount + ahead / schedTickPeriodMs).toNat ≤ tickCount.toNat + config.reachTicks := by
  have inTicks : (ahead / schedTickPeriodMs).toNat ≤ config.reachTicks := by
    rw [UInt32.toNat_div]
    exact Nat.div_le_div_right within
  rw [UInt32.toNat_add]
  exact (Nat.mod_le _ _).trans (Nat.add_le_add_left inTicks _)

/-- An event leaves the next runs of the ready tasks in reach exactly when, as a start or a
resumption, it finds them there. -/
theorem readyInReach_schedEvent_iff (run : SchedRun) (event : SchedEvent)
    (rest : List SchedEvent) (stays : StaysInReach run (event :: rest)) :
    ReadyInReach (schedEvent run event) ↔ LeavesInReach run event := by
  obtain ⟨reach, bounded, few⟩ := stays
  cases event with
  | register config =>
    exact iff_of_true (everyTask_register reach config fun _ _ _ =>
      add_inReach run.sched.tickCount (Nat.le_max_left _ _)) trivial
  | unregister handle =>
    exact iff_of_true (everyTask_unregister reach handle fun tcb gone => by cases gone) trivial
  | enable handle =>
    exact iff_of_true ((everyTask_writeTask_iff reach handle _).mpr
      fun _ _ _ _ => Nat.le_add_right _ _) trivial
  | disable handle =>
    refine iff_of_true ((everyTask_writeTask_iff reach handle _).mpr ?_) trivial
    intro slot _ _ ready
    cases ready
  | suspend handle =>
    refine iff_of_true ((everyTask_writeTask_iff reach handle _).mpr ?_) trivial
    intro slot _ _ ready
    cases ready
  | resume handle =>
    refine (everyTask_resume_iff reach handle).trans (forall₂_congr fun slot found => ?_)
    exact forall_congr' fun _ => ⟨fun within => within (registeredSlot_eq_ok_iff.mp found).2 rfl,
      fun met _ _ => met⟩
  | setPeriod handle periodMs =>
    exact iff_of_true (everyTask_setPeriod reach handle periodMs fun _ slot => reach slot) trivial
  | runNow handle =>
    refine iff_of_true (everyTask_runNow reach handle ?_) trivial
    intro tcb _ _ ready
    cases ready
  | tick =>
    refine iff_of_true (everyTask_tick ?_ ?_) trivial
    · intro slot registered ready
      have within := reach slot registered ready
      rw [List.count_cons_self] at few
      unfold TaskTcb.InReach at within ⊢
      dsimp only [countTick]
      rw [UInt32.toNat_add, UInt32.toNat_one, Nat.mod_eq_of_lt (by omega)]
      omega
    · intro tcb _ _ ready
      cases ready
  | bodyReturns =>
    refine iff_of_true ((everyTask_bodyReturns_iff reach).mpr fun slot _ registered _ => ?_) trivial
    have atMost := UInt32.le_iff_toNat_le.mp (bounded slot registered)
    exact add_inReach run.sched.tickCount (atMost.trans (Nat.le_max_right _ _))
  | start =>
    dsimp only [schedEvent, LeavesInReach, schedulerStart]
    by_cases initialized : run.sched.initialized = true
    · rw [if_pos initialized]
      exact ⟨fun restarted _ => restarted, fun met => met initialized⟩
    · rw [if_neg initialized]
      exact iff_of_true reach fun absurdly => absurd absurdly initialized
  | stop => exact iff_of_true reach trivial

theorem staysInReach_schedEvent (run : SchedRun) (event : SchedEvent) (rest : List SchedEvent)
    (stays : StaysInReach run (event :: rest)) (met : LeavesInReach run event) :
    StaysInReach (schedEvent run event) rest := by
  refine ⟨(readyInReach_schedEvent_iff run event rest stays).mpr met,
    periodsBounded_schedEvent run event stays.2.1, ?_⟩
  have few := stays.2.2
  by_cases ticks : event = .tick
  · rw [ticks, List.count_cons_self] at few
    rw [ticks, tickCount_tick, UInt32.toNat_add, UInt32.toNat_one, Nat.mod_eq_of_lt (by omega)]
    omega
  · have still := @tickCount_schedEvent_le run event ticks
    rw [List.count_cons_of_ne ticks] at few
    omega

/-- A ready task whose next run is in reach is due when the ticks in its reach are counted. -/
theorem dueInReach_of_readyInReach (run : SchedRun) (reach : ReadyInReach run) :
    DueInReach run := by
  intro slot registered ready later passed
  have within := reach slot registered ready
  unfold TaskTcb.InReach at within
  simp only [TaskTcb.isDue, registered, ready, beq_self_eq_true, Bool.and_self, Bool.true_and,
    Bool.not_eq_true', decide_eq_false_iff_not, UInt32.lt_iff_toNat_lt]
  omega

/-- In a run of fewer ticks than the counter can count, every ready task is always due within its
offset or the longest period, exactly when every start, and every resumption of a suspended task,
finds the next runs that close. -/
theorem readyInReach_iff (events : List SchedEvent) (few : events.count .tick < 2 ^ 32) :
    (Throughout schedEvent ReadyInReach .initial events ∧
        Throughout schedEvent DueInReach .initial events) ↔
      EachStep schedEvent LeavesInReach .initial events := by
  have initial : StaysInReach .initial events := by
    refine ⟨?_, ?_, lt_of_eq_of_lt (Nat.zero_add _) few⟩
    · intro slot registered
      cases registered
    · intro slot registered
      cases registered
  rw [← throughout_iff_eachStep_of_rest (fun _ _ stays => stays.1) readyInReach_schedEvent_iff
    staysInReach_schedEvent initial]
  exact ⟨fun both => both.1, fun reach => ⟨reach, reach.mono dueInReach_of_readyInReach⟩⟩

/-- A task that is dispatched every hundred ticks. -/
def regularTask : TaskConfig := ⟨[], some 0, 100, 0, 0, 0, true⟩

theorem readyInReach_regularTask :
    Throughout schedEvent ReadyInReach .initial
        [.register regularTask, .tick, .bodyReturns, .stop, .start] ∧
      Throughout schedEvent DueInReach .initial
        [.register regularTask, .tick, .bodyReturns, .stop, .start] := by
  refine (readyInReach_iff _ (by decide)).mpr ⟨trivial, trivial, trivial, trivial, ?_, trivial⟩
  intro _
  unfold TaskTcb.InReach
  decide

/-- A task that is registered after more than a minute is out of reach after a restart. -/
theorem readyInReach_lost :
    ¬ ∀ events : List SchedEvent, events.count .tick < 2 ^ 32 →
      Throughout schedEvent ReadyInReach .initial events := by
  intro claimed
  have idle : finalState schedEvent .initial (List.replicate 60001 .tick) = idleRun 60001 :=
    finalState_idleRun 60001 0
  have few : (List.replicate 60001 SchedEvent.tick ++
      [SchedEvent.register regularTask, .stop, .start]).count .tick < 2 ^ 32 := by
    rw [List.count_append, List.count_replicate_self]
    decide
  have reach := (claimed _ few).finish
  rw [finalState_append, idle] at reach
  exact absurd (reach 0 rfl rfl) (by unfold TaskTcb.InReach; decide)

end SmartQso
