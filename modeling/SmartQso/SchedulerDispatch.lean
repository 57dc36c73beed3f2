/-
This file settles which task a tick runs. The loop that looks for a task goes through
the slots once and keeps the best one so far; after it the task that is left is the
first of those that can run, by priority and then by slot. A task body that makes no
call of the scheduler returns at once, and then only the control block of its task has
changed.
-/

import SmartQso.SchedulerRuns

namespace SmartQso

open Runs

/-! ### The order of the tasks -/

/-- The task in a slot is registered and ready, and its next run is due. -/
def Scheduler.Due (sched : Scheduler) (slot : TaskSlot) : Prop :=
  (sched.tasks slot).registered = true ∧ (sched.tasks slot).state = .ready ∧
    (sched.tasks slot).nextRunTick ≤ sched.tickCount

/-- The task in a slot goes before another: its priority has the smaller number, or the same number
and the task the smaller handle. -/
def Scheduler.Precedes (sched : Scheduler) (slot other : TaskSlot) : Prop :=
  (sched.tasks slot).config.priority < (sched.tasks other).config.priority ∨
    (sched.tasks slot).config.priority = (sched.tasks other).config.priority ∧ slot ≤ other

/-- The task in a slot is due, and goes before all that are due. -/
def Scheduler.First (sched : Scheduler) (slot : TaskSlot) : Prop :=
  sched.Due slot ∧ ∀ other, sched.Due other → sched.Precedes slot other

theorem isDue_iff (sched : Scheduler) (slot : TaskSlot) :
    (sched.tasks slot).isDue sched.tickCount = true ↔ sched.Due slot := by
  simp only [TaskTcb.isDue, Scheduler.Due, Bool.and_eq_true, beq_iff_eq, Bool.not_eq_true',
    decide_eq_false_iff_not, UInt32.not_lt, and_assoc]

theorem Scheduler.Precedes.refl (sched : Scheduler) (slot : TaskSlot) :
    sched.Precedes slot slot := Or.inr ⟨rfl, Fin.le_refl slot⟩

theorem Scheduler.Precedes.trans {sched : Scheduler} {first second third : TaskSlot}
    (earlier : sched.Precedes first second) (later : sched.Precedes second third) :
    sched.Precedes first third := by
  rcases earlier with less | ⟨same, before⟩
  · rcases later with lessAgain | ⟨sameAgain, -⟩
    · exact Or.inl (UInt32.lt_trans less lessAgain)
    · exact Or.inl (sameAgain ▸ less)
  · rcases later with lessAgain | ⟨sameAgain, beforeAgain⟩
    · exact Or.inl (same.symm ▸ lessAgain)
    · exact Or.inr ⟨same.trans sameAgain, Fin.le_trans before beforeAgain⟩

theorem Scheduler.Precedes.antisymm {sched : Scheduler} {slot other : TaskSlot}
    (one : sched.Precedes slot other) (back : sched.Precedes other slot) : slot = other := by
  rcases one with less | ⟨same, before⟩
  · rcases back with more | ⟨same, -⟩
    · exact absurd more (UInt32.lt_asymm less)
    · rw [same] at less
      exact absurd less (UInt32.lt_irrefl _)
  · rcases back with more | ⟨-, after⟩
    · rw [same] at more
      exact absurd more (UInt32.lt_irrefl _)
    · exact Fin.le_antisymm before after

/-- There is one first task at most. -/
theorem Scheduler.First.unique {sched : Scheduler} {slot other : TaskSlot}
    (first : sched.First slot) (otherFirst : sched.First other) : slot = other :=
  (first.2 other otherFirst.1).antisymm (otherFirst.2 slot first.1)

/-! ### The loop -/

/-- After some slots the best task so far is none when none of these is due, and otherwise the first
of them. -/
def BestOf (sched : Scheduler) (slots : List TaskSlot) : Option TaskSlot → Prop
  | none => ∀ slot ∈ slots, ¬ sched.Due slot
  | some best => best ∈ slots ∧ sched.Due best ∧
      ∀ slot ∈ slots, sched.Due slot → sched.Precedes best slot

/-- A task that is due and goes before those before and the last one is the first of all. -/
theorem bestOf_concat {sched : Scheduler} {slots : List TaskSlot} {best next : TaskSlot}
    (among : best ∈ slots ++ [next]) (due : sched.Due best)
    (least : ∀ slot ∈ slots, sched.Due slot → sched.Precedes best slot)
    (last : sched.Due next → sched.Precedes best next) :
    BestOf sched (slots ++ [next]) (some best) := by
  refine ⟨among, due, ?_⟩
  rw [List.forall_mem_append, List.forall_mem_singleton]
  exact ⟨least, last⟩

/-- A round keeps the best task so far. The next slot comes after all those before. -/
theorem bestOf_betterTask {sched : Scheduler} {slots : List TaskSlot} {best : Option TaskSlot}
    (bestOf : BestOf sched slots best) {next : TaskSlot} (after : ∀ slot ∈ slots, slot ≤ next) :
    BestOf sched (slots ++ [next]) (betterTask sched best next) := by
  have member : next ∈ slots ++ [next] := List.mem_append_right slots (List.mem_singleton_self next)
  unfold betterTask
  by_cases due : sched.Due next
  · rw [if_pos ((isDue_iff sched next).mpr due)]
    cases best with
    | none =>
      exact bestOf_concat member due
        (fun slot earlier dueEarlier => absurd dueEarlier (bestOf slot earlier))
        fun _ => .refl sched next
    | some best =>
      obtain ⟨among, dueBest, least⟩ := bestOf
      dsimp only
      by_cases better : (sched.tasks next).config.priority < (sched.tasks best).config.priority
      · rw [if_pos better]
        exact bestOf_concat member due
          (fun slot earlier dueEarlier => .trans (Or.inl better) (least slot earlier dueEarlier))
          fun _ => .refl sched next
      · rw [if_neg better]
        refine bestOf_concat (List.mem_append_left [next] among) dueBest least fun _ => ?_
        rcases UInt32.lt_or_eq_of_le (UInt32.not_lt.mp better) with less | same
        · exact Or.inl less
        · exact Or.inr ⟨same, after best among⟩
  · rw [if_neg (mt (isDue_iff sched next).mp due)]
    cases best with
    | none =>
      unfold BestOf
      rw [List.forall_mem_append, List.forall_mem_singleton]
      exact ⟨bestOf, due⟩
    | some best =>
      obtain ⟨among, dueBest, least⟩ := bestOf
      exact bestOf_concat (List.mem_append_left [next] among) dueBest least
        fun dueNext => absurd dueNext due

theorem bestOf_foldl {sched : Scheduler} {slots : List TaskSlot}
    (sorted : slots.Pairwise (· ≤ ·)) :
    BestOf sched slots (slots.foldl (betterTask sched) none) := by
  induction slots using List.reverseRecOn with
  | nil => exact List.forall_mem_nil _
  | append_singleton slots next inductionHypothesis =>
    obtain ⟨earlier, -, after⟩ := List.pairwise_append.mp sorted
    rw [List.foldl_append, List.foldl_cons, List.foldl_nil]
    exact bestOf_betterTask (inductionHypothesis earlier)
      fun slot member => after slot member next (List.mem_singleton_self next)

theorem schedFindReadyTask_bestOf (sched : Scheduler) :
    BestOf sched (List.finRange 16) (schedFindReadyTask sched) :=
  bestOf_foldl (List.pairwise_le_finRange 16)

/-- The task that is found is the first one. -/
theorem schedFindReadyTask_eq_some_iff (sched : Scheduler) (slot : TaskSlot) :
    schedFindReadyTask sched = some slot ↔ sched.First slot := by
  have best := schedFindReadyTask_bestOf sched
  constructor
  · intro found
    rw [found] at best
    exact ⟨best.2.1, fun other => best.2.2 other (List.mem_finRange other)⟩
  · intro first
    cases found : schedFindReadyTask sched with
    | none =>
      rw [found] at best
      exact absurd first.1 (best slot (List.mem_finRange slot))
    | some other =>
      rw [found] at best
      have otherFirst : sched.First other :=
        ⟨best.2.1, fun third => best.2.2 third (List.mem_finRange third)⟩
      rw [first.unique otherFirst]

theorem schedFindReadyTask_eq_none_iff (sched : Scheduler) :
    schedFindReadyTask sched = none ↔ ∀ slot, ¬ sched.Due slot := by
  have best := schedFindReadyTask_bestOf sched
  constructor
  · intro found slot
    rw [found] at best
    exact best slot (List.mem_finRange slot)
  · intro idle
    cases found : schedFindReadyTask sched with
    | none => rfl
    | some slot =>
      rw [found] at best
      exact absurd best.2.1 (idle slot)

/-! ### A tick -/

/-- `scheduler_tick` of a run, with a task body that returns without a call of the scheduler. -/
def quietTick (run : SchedRun) : SchedRun := finalState schedEvent run [.tick, .bodyReturns]

/-- A tick runs the first task that is due, once, and changes the control block of no other; when
none is due it runs none and changes no control block. -/
structure DispatchesFirst (run : SchedRun) : Prop where
  exists_first : (∃ slot, (countTick run.sched).Due slot) →
    ∃! slot, (countTick run.sched).First slot
  runs : ∀ slot, (countTick run.sched).First slot →
    (schedEvent run .tick).bodies = slot :: run.bodies ∧ (quietTick run).bodies = run.bodies ∧
      ((quietTick run).sched.tasks slot).stats.runCount =
        (run.sched.tasks slot).stats.runCount + 1 ∧
      ∀ other, other ≠ slot → (quietTick run).sched.tasks other = run.sched.tasks other
  idles : (∀ slot, ¬ (countTick run.sched).Due slot) →
    (schedEvent run .tick).bodies = run.bodies ∧
      (schedEvent run .tick).sched.tasks = run.sched.tasks

theorem existsUnique_first {sched : Scheduler} (due : ∃ slot, sched.Due slot) :
    ∃! slot, sched.First slot := by
  cases found : schedFindReadyTask sched with
  | none =>
    obtain ⟨slot, isDue⟩ := due
    exact absurd isDue ((schedFindReadyTask_eq_none_iff sched).mp found slot)
  | some slot =>
    have first := (schedFindReadyTask_eq_some_iff sched slot).mp found
    exact ⟨slot, first, fun other otherFirst => otherFirst.unique first⟩

theorem schedulerTick_of_first {run : SchedRun} {slot : TaskSlot}
    (first : (countTick run.sched).First slot) :
    schedEvent run .tick = ⟨schedRunTaskBegins (countTick run.sched) slot, slot :: run.bodies⟩ := by
  have found := (schedFindReadyTask_eq_some_iff _ slot).mpr first
  dsimp only [schedEvent, schedulerTick]
  rw [found]
  rfl

theorem quietTick_of_first {run : SchedRun} {slot : TaskSlot}
    (first : (countTick run.sched).First slot) :
    quietTick run =
      ⟨schedRunTaskEnds (schedRunTaskBegins (countTick run.sched) slot) slot, run.bodies⟩ := by
  unfold quietTick
  rw [finalState_cons, schedulerTick_of_first first]
  rfl

/-- Running a task writes its own control block only. -/
theorem runTask_tasks_of_ne (sched : Scheduler) {slot other : TaskSlot} (apart : other ≠ slot) :
    (schedRunTaskEnds (schedRunTaskBegins sched slot) slot).tasks other = sched.tasks other := by
  rw [schedRunTaskEnds_tasks, Scheduler.setTask_tasks_of_ne _ _ apart]
  exact Scheduler.setTask_tasks_of_ne sched _ apart

theorem runTask_runCount (sched : Scheduler) (slot : TaskSlot) :
    ((schedRunTaskEnds (schedRunTaskBegins sched slot) slot).tasks slot).stats.runCount =
      (sched.tasks slot).stats.runCount + 1 := by
  have running : (schedRunTaskBegins sched slot).tasks slot =
      { sched.tasks slot with state := .running } := Scheduler.setTask_tasks_self sched slot _
  rw [schedRunTaskEnds_tasks, Scheduler.setTask_tasks_self, running]
  rfl

/-- In every state, with any tasks and any count, a tick dispatches the first task that is due. -/
theorem dispatchesFirst (run : SchedRun) : DispatchesFirst run where
  exists_first := existsUnique_first
  runs slot first := by
    rw [schedulerTick_of_first first, quietTick_of_first first]
    exact ⟨rfl, rfl, runTask_runCount (countTick run.sched) slot,
      fun _ apart => runTask_tasks_of_ne (countTick run.sched) apart⟩
  idles idle := by
    have none := (schedFindReadyTask_eq_none_iff (countTick run.sched)).mpr idle
    dsimp only [schedEvent, schedulerTick]
    rw [none]
    exact ⟨rfl, rfl⟩

end SmartQso
