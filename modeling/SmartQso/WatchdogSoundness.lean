/-
This file proves what the task checks of the watchdog manager are good for while the clock
does not go back: a task that is heard in time is never stalled, a silent task is stalled
by the third check that finds it overdue, and the statistics count the tasks that become
stalled.
-/

import SmartQso.WatchdogWatches

namespace SmartQso

open Runs

/-! ### The clock -/

/-- The call is not earlier than the one before. -/
def Forward (run : WatchedRun) (event : WdtEvent) : Prop :=
  ∀ now, event.now = some now → run.clockMs ≤ now.toNat

/-- The time of the last check after a call; starting the manager counts as a check. -/
def checkedAfter (mgr : WatchdogMgr) : WdtEvent → UInt64
  | .start now _ => if mgr.hal.initialized then now else mgr.lastTaskCheckMs
  | .kick now _ => if mgr.checkDue now then now else mgr.lastTaskCheckMs
  | _ => mgr.lastTaskCheckMs

section

variable [CLayout FaultRecord]

theorem wdtEvent_lastTaskCheckMs {mgr : WatchdogMgr} (initialized : mgr.initialized = true)
    (event : WdtEvent) : (wdtEvent mgr event).lastTaskCheckMs = checkedAfter mgr event := by
  cases event with
  | start now timerMs =>
    dsimp only [wdtEvent, wdtMgrStart, checkedAfter, halWdtStart]
    rw [if_pos initialized]
    split <;> rfl
  | registerTask taskId name expectedPeriodMs now =>
    dsimp only [wdtEvent, wdtMgrRegisterTask, checkedAfter]
    split
    · split <;> rfl
    · rfl
  | unregisterTask taskId =>
    dsimp only [wdtEvent, wdtMgrUnregisterTask, checkedAfter]
    split <;> rfl
  | checkin taskId now =>
    dsimp only [wdtEvent, wdtMgrCheckin, checkedAfter]
    split
    · split <;> rfl
    · rfl
  | kick now timerMs =>
    dsimp only [wdtEvent, wdtMgrKick, checkedAfter]
    rw [if_pos initialized]
    split <;> rfl

/-- Nondecreasing times are a clock that does not go back. -/
theorem forward_of_sorted {run : WatchedRun} {events : List WdtEvent}
    (sorted : (events.filterMap WdtEvent.now).Pairwise (· ≤ ·))
    (ahead : ∀ now ∈ events.filterMap WdtEvent.now, run.clockMs ≤ now.toNat) :
    EachStep watchedEvent Forward run events := by
  have times : events.flatMap (fun event => (event.now.map UInt64.toNat).toList) =
      (events.filterMap WdtEvent.now).map UInt64.toNat := by
    rw [← List.filterMap_eq_flatMap_toList, List.map_filterMap]
  refine (@eachStep_of_sorted _ _ watchedEvent _ _ WatchedRun.clockMs
    (fun event => (event.now.map UInt64.toNat).toList) ?_ run events ?_).mono ?_
  · intro run event
    dsimp only [watchedEvent]
    cases event.now <;> rfl
  · rw [times, List.pairwise_cons, List.forall_mem_map, List.pairwise_map]
    exact ⟨ahead, sorted.imp UInt64.le_iff_toNat_le.mp⟩
  · intro run event inOrder now time
    rw [time] at inOrder
    exact (List.pairwise_cons.mp inOrder).1 now.toNat List.mem_cons_self

end

/-! ### Overdue tasks -/

/-- With a clock that does not go back, the check subtracts a time from a later one. -/
theorem overdue_eq {entry : WdtTaskEntry} {watch : Watch} (watched : entry.Watched (some watch))
    {now : UInt64} (heard : watch.heardMs ≤ now.toNat) :
    entry.overdue now = watch.overdue now.toNat := by
  obtain ⟨-, period, last⟩ := watched
  have behind : entry.lastCheckinMs ≤ now := by
    rw [UInt64.le_iff_toNat_le, last]
    exact heard
  unfold WdtTaskEntry.overdue Watch.overdue
  rw [decide_eq_decide, gt_iff_lt, UInt64.lt_iff_toNat_lt, UInt64.toNat_sub_of_le _ _ behind,
    UInt32.toNat_toUInt64, period, last]
  omega

theorem Watch.overdue_mono {watch : Watch} {earlier later : Nat} (order : earlier ≤ later)
    (overdue : watch.overdue earlier = true) : watch.overdue later = true :=
  decide_eq_true (Nat.lt_of_lt_of_le (of_decide_eq_true overdue) order)

/-- What the entry of a task says about the time since it was heard. -/
structure Watch.Paced (watch : Watch) (entry : WdtTaskEntry) (checkedMs clockMs : Nat) :
    Prop where
  heard : watch.heardMs ≤ clockMs
  late : entry.stalled = true ∨ 0 < entry.missCount.toNat → watch.overdue clockMs = true
  -- The checks that a task has missed lie behind its period, an interval apart.
  spaced : entry.stalled = false → 0 < entry.missCount.toNat →
    watch.heardMs + watch.periodMs + entry.missCount.toNat * wdtTaskCheckIntervalMs.toNat <
      checkedMs + wdtTaskCheckIntervalMs.toNat

/-- An unstalled task has missed fewer checks than the threshold. -/
def WdtTaskEntry.Counted (entry : WdtTaskEntry) : Prop :=
  entry.stalled = false → entry.missCount.toNat < wdtTaskMissThreshold.toNat

theorem Watch.paced_of_fresh {watch : Watch} {entry : WdtTaskEntry} {checkedMs clockMs : Nat}
    (unstalled : entry.stalled = false) (unmissed : entry.missCount = 0)
    (heard : watch.heardMs ≤ clockMs) : watch.Paced entry checkedMs clockMs where
  heard := heard
  late := by
    rintro (stalled | missed)
    · exact absurd (unstalled.symm.trans stalled) Bool.false_ne_true
    · rw [unmissed] at missed
      exact absurd missed (Nat.lt_irrefl 0)
  spaced _ missed := by
    rw [unmissed] at missed
    exact absurd missed (Nat.lt_irrefl 0)

theorem Watch.Paced.mono {watch : Watch} {entry : WdtTaskEntry} {checkedMs clockMs : Nat}
    (paced : watch.Paced entry checkedMs clockMs) {checkedLaterMs clockLaterMs : Nat}
    (checked : checkedMs ≤ checkedLaterMs) (clock : clockMs ≤ clockLaterMs) :
    watch.Paced entry checkedLaterMs clockLaterMs where
  heard := paced.heard.trans clock
  late missed := Watch.overdue_mono clock (paced.late missed)
  spaced unstalled missed :=
    Nat.lt_of_lt_of_le (paced.spaced unstalled missed) (Nat.add_le_add_right checked _)

/-- A missed check of an unstalled task is counted without wrapping. -/
theorem toNat_missCount_add_one {entry : WdtTaskEntry} (counted : entry.Counted)
    (unstalled : entry.stalled = false) :
    (entry.missCount + 1).toNat = entry.missCount.toNat + 1 := by
  rw [UInt32.toNat_add]
  exact Nat.mod_eq_of_lt (Nat.lt_of_le_of_lt (counted unstalled) (by decide))

theorem checked_counted {entry : WdtTaskEntry} (counted : entry.Counted) (now : UInt64) :
    (entry.checked now).Counted := by
  unfold WdtTaskEntry.checked
  split
  · exact counted
  split
  · intro unstalled
    dsimp only at unstalled ⊢
    obtain ⟨-, few⟩ := Bool.or_eq_false_iff.mp unstalled
    exact UInt32.lt_iff_toNat_lt.mp (UInt32.not_le.mp (of_decide_eq_false few))
  · exact fun _ => Nat.zero_lt_succ 2

section

variable {watch : Watch} {entry : WdtTaskEntry} {checkedMs clockMs : Nat}

/-- A check that is due keeps the pace. -/
theorem Watch.Paced.checked (paced : watch.Paced entry checkedMs clockMs)
    (watched : entry.Watched (some watch)) (counted : entry.Counted) {now : UInt64}
    (forward : clockMs ≤ now.toNat)
    (due : checkedMs + wdtTaskCheckIntervalMs.toNat ≤ now.toNat) :
    watch.Paced (entry.checked now) now.toNat now.toNat := by
  have heard := paced.heard.trans forward
  have same := overdue_eq watched heard
  unfold WdtTaskEntry.checked
  rw [watched.1, Bool.not_true, if_neg Bool.false_ne_true]
  cases overdue : entry.overdue now with
  | false =>
    rw [if_neg Bool.false_ne_true]
    exact Watch.paced_of_fresh rfl rfl heard
  | true =>
    rw [if_pos rfl]
    rw [overdue] at same
    refine ⟨heard, fun _ => same.symm, fun unstalled _ => ?_⟩
    dsimp only at unstalled ⊢
    have before := (Bool.or_eq_false_iff.mp unstalled).1
    have late : watch.heardMs + watch.periodMs < now.toNat := of_decide_eq_true same.symm
    rw [toNat_missCount_add_one counted before, Nat.add_mul, Nat.one_mul, ← Nat.add_assoc]
    refine Nat.add_lt_add_right ?_ _
    rcases Nat.eq_zero_or_pos entry.missCount.toNat with none | some
    · rw [none, Nat.zero_mul, Nat.add_zero]
      exact late
    · exact Nat.lt_of_lt_of_le (paced.spaced before some) due

end

theorem entryAfter_counted {mgr : WatchdogMgr} {slot : WdtSlot}
    (counted : (mgr.tasks slot).Counted) (event : WdtEvent) :
    (entryAfter mgr slot event).Counted := by
  cases event with
  | start now timerMs => exact counted
  | registerTask taskId name expectedPeriodMs now =>
    dsimp only [entryAfter]
    split
    · exact fun _ => Nat.zero_lt_succ 2
    · exact counted
  | unregisterTask taskId =>
    dsimp only [entryAfter]
    split <;> exact counted
  | checkin taskId now =>
    dsimp only [entryAfter]
    split
    · exact fun _ => Nat.zero_lt_succ 2
    · exact counted
  | kick now timerMs =>
    dsimp only [entryAfter]
    split
    · exact checked_counted counted now
    · exact counted

/-! ### Runs that keep the pace -/

/-- The manager tracks its watches, no check lies ahead, and every task is paced. -/
structure Paced (run : WatchedRun) : Prop where
  tracks : Tracks run
  checkedMs : run.mgr.lastTaskCheckMs.toNat ≤ run.clockMs
  counted : ∀ slot, (run.mgr.tasks slot).Counted
  paced : ∀ slot watch, run.watches slot = some watch →
    watch.Paced (run.mgr.tasks slot) run.mgr.lastTaskCheckMs.toNat run.clockMs

theorem paced_initial (boot : WatchdogMgr) : Paced (WatchedRun.initial boot) where
  tracks := tracks_initial boot
  checkedMs := Nat.le_refl 0
  counted _ _ := Nat.zero_lt_succ 2
  paced _ _ watching := by cases watching

/-- With a clock that does not go back, a task is overdue exactly when its watch is. -/
theorem Paced.overdue {run : WatchedRun} (paced : Paced run) {slot : WdtSlot} {watch : Watch}
    (watching : run.watches slot = some watch) {now : UInt64}
    (forward : run.clockMs ≤ now.toNat) :
    (run.mgr.tasks slot).overdue now = watch.overdue now.toNat :=
  overdue_eq (paced.tracks.watched_some watching)
    ((paced.paced slot watch watching).heard.trans forward)

theorem clock_forward {run : WatchedRun} {event : WdtEvent} (forward : Forward run event) :
    run.clockMs ≤ (event.now.map UInt64.toNat).getD run.clockMs := by
  cases time : event.now with
  | none => exact Nat.le_refl run.clockMs
  | some now => exact forward now time

/-- The last check moves forward with the clock. -/
theorem checkedAfter_forward {run : WatchedRun} (paced : Paced run) {event : WdtEvent}
    (forward : Forward run event) :
    run.mgr.lastTaskCheckMs.toNat ≤ (checkedAfter run.mgr event).toNat ∧
      (checkedAfter run.mgr event).toNat ≤
        (event.now.map UInt64.toNat).getD run.clockMs := by
  have clock := clock_forward forward
  have kept := And.intro (Nat.le_refl run.mgr.lastTaskCheckMs.toNat)
    (paced.checkedMs.trans clock)
  cases event with
  | start now timerMs =>
    dsimp only [checkedAfter]
    split
    · exact ⟨paced.checkedMs.trans (forward now rfl), Nat.le_refl now.toNat⟩
    · exact kept
  | kick now timerMs =>
    dsimp only [checkedAfter]
    split
    · exact ⟨paced.checkedMs.trans (forward now rfl), Nat.le_refl now.toNat⟩
    · exact kept
  | _ => exact kept

/-- A check that is due comes an interval after the last one. -/
theorem due_of_checkDue {run : WatchedRun} (paced : Paced run) {now : UInt64}
    (forward : run.clockMs ≤ now.toNat) (due : run.mgr.checkDue now = true) :
    run.mgr.lastTaskCheckMs.toNat + wdtTaskCheckIntervalMs.toNat ≤ now.toNat := by
  have order := paced.checkedMs.trans forward
  have interval := UInt64.le_iff_toNat_le.mp (of_decide_eq_true due)
  rw [UInt64.toNat_sub_of_le _ _ (UInt64.le_iff_toNat_le.mpr order)] at interval
  omega

section

variable [CLayout FaultRecord]

omit [CLayout FaultRecord] in
/-- A call keeps the pace of every task. -/
theorem watchAfter_paced {run : WatchedRun} (paced : Paced run) {event : WdtEvent}
    (forward : Forward run event) {slot : WdtSlot} {watch : Watch}
    (watching : watchAfter slot (run.watches slot) event = some watch) :
    watch.Paced (entryAfter run.mgr slot event) (checkedAfter run.mgr event).toNat
      ((event.now.map UInt64.toNat).getD run.clockMs) := by
  cases paced.tracks.watchStep watching with
  | heard now atNow heardNow unstalled unmissed _ =>
    rw [atNow]
    exact Watch.paced_of_fresh unstalled unmissed (Nat.le_of_eq heardNow)
  | kept before sameEntry _ =>
    -- Nothing is written to the entry, time alone goes on.
    rw [sameEntry]
    exact (paced.paced slot watch before).mono (checkedAfter_forward paced forward).1
      (clock_forward forward)
  | checked now timerMs isKick due before =>
    subst isKick
    rw [entryAfter_kick due, checkedAfter, if_pos due]
    exact (paced.paced slot watch before).checked (paced.tracks.watched_some before)
      (paced.counted slot) (forward now rfl) (due_of_checkDue paced (forward now rfl) due)

theorem Paced.event {run : WatchedRun} (paced : Paced run) {event : WdtEvent}
    (forward : Forward run event) : Paced (watchedEvent run event) := by
  have initialized := paced.tracks.initialized
  refine ⟨paced.tracks.event event, ?_, fun slot => ?_, fun slot watch watching => ?_⟩
  · dsimp only [watchedEvent]
    rw [wdtEvent_lastTaskCheckMs initialized]
    exact (checkedAfter_forward paced forward).2
  · dsimp only [watchedEvent]
    rw [wdtEvent_tasks initialized]
    exact entryAfter_counted (paced.counted slot) event
  · dsimp only [watchedEvent]
    rw [wdtEvent_tasks initialized, wdtEvent_lastTaskCheckMs initialized]
    exact watchAfter_paced paced forward watching

/-- Every run with a clock that does not go back keeps the pace. -/
theorem paced_finalState {run : WatchedRun} (paced : Paced run) {events : List WdtEvent}
    (forward : EachStep watchedEvent Forward run events) :
    Paced (finalState watchedEvent run events) :=
  (throughout_of_invariant (fun _ _ before step => before.event step) paced forward).finish

end

/-! ### Tasks heard in time -/

/-- The call registers the task of the slot, or the task under watch there checks in. -/
def Hears (slot : WdtSlot) (run : WatchedRun) : WdtEvent → Prop
  | .registerTask taskId _ expectedPeriodMs _ => taskId.toNat = slot.val ∧ expectedPeriodMs ≠ 0
  | .checkin taskId _ => taskId.toNat = slot.val ∧ (run.watches slot).isSome = true
  | _ => False

/-- At a kick, and at a check-in of the task of the slot, no more than its period has passed since
it was last heard. -/
def Punctual (slot : WdtSlot) (run : WatchedRun) : WdtEvent → Prop
  | .kick now _ => ∀ watch, run.watches slot = some watch → watch.overdue now.toNat = false
  | .checkin taskId now => taskId.toNat = slot.val →
      ∀ watch, run.watches slot = some watch → watch.overdue now.toNat = false
  | _ => True

/-- The task of the slot is not stalled and has missed no check. -/
def Unmissed (slot : WdtSlot) (run : WatchedRun) : Prop :=
  (run.mgr.tasks slot).stalled = false ∧ (run.mgr.tasks slot).missCount = 0

section

variable [CLayout FaultRecord] {slot : WdtSlot} {run : WatchedRun} {event : WdtEvent}

theorem unmissed_of_hears (tracks : Tracks run) (hears : Hears slot run event) :
    Unmissed slot (watchedEvent run event) := by
  unfold Unmissed
  dsimp only [watchedEvent]
  rw [wdtEvent_tasks tracks.initialized]
  cases event with
  | registerTask taskId name expectedPeriodMs now =>
    dsimp only [entryAfter, Hears] at hears ⊢
    rw [if_pos hears]
    exact ⟨rfl, rfl⟩
  | checkin taskId now =>
    obtain ⟨watch, watching⟩ := Option.isSome_iff_exists.mp hears.2
    dsimp only [entryAfter]
    rw [if_pos ⟨hears.1, (tracks.watched_some watching).1⟩]
    exact ⟨rfl, rfl⟩
  | _ => exact hears.elim

/-- A timely call leaves a task without misses without misses. -/
theorem unmissed_of_timely (paced : Paced run) (unmissed : Unmissed slot run)
    (forward : Forward run event) (timely : Punctual slot run event) :
    Unmissed slot (watchedEvent run event) := by
  unfold Unmissed
  dsimp only [watchedEvent]
  rw [wdtEvent_tasks paced.tracks.initialized]
  cases event with
  | start now timerMs => exact unmissed
  | registerTask taskId name expectedPeriodMs now =>
    dsimp only [entryAfter]
    split
    · exact ⟨rfl, rfl⟩
    · exact unmissed
  | unregisterTask taskId =>
    dsimp only [entryAfter]
    split <;> exact unmissed
  | checkin taskId now =>
    dsimp only [entryAfter]
    split
    · exact ⟨rfl, rfl⟩
    · exact unmissed
  | kick now timerMs =>
    dsimp only [entryAfter]
    split
    case isFalse => exact unmissed
    unfold WdtTaskEntry.checked
    cases watching : run.watches slot with
    | none =>
      rw [paced.tracks.inactive watching, Bool.not_false, if_pos rfl]
      exact unmissed
    | some watch =>
      rw [(paced.tracks.watched_some watching).1, Bool.not_true, if_neg Bool.false_ne_true,
        paced.overdue watching (forward now rfl), timely watch watching,
        if_neg Bool.false_ne_true]
      exact ⟨rfl, rfl⟩

/-- While a task that has just been heard stays timely it is not stalled. -/
theorem unstalled_of_timely (paced : Paced run) (unmissed : Unmissed slot run)
    {events : List WdtEvent} (forward : EachStep watchedEvent Forward run events)
    (timely : EachStep watchedEvent (Punctual slot) run events) :
    Throughout watchedEvent (fun reached => (reached.mgr.tasks slot).stalled = false) run
      events := by
  have steps := forward.and timely
  have kept := @throughout_of_invariant _ _ watchedEvent
    (fun reached => Paced reached ∧ Unmissed slot reached)
    (fun reached next => Forward reached next ∧ Punctual slot reached next)
    (fun _ _ before step =>
      ⟨before.1.event step.1, unmissed_of_timely before.1 before.2 step.1 step.2⟩)
    run ⟨paced, unmissed⟩ events steps
  exact kept.mono fun _ reached => reached.2.1

end

/-! ### Silent tasks -/

/-- The call does not name the slot, apart from checking all of them. -/
def Silent (slot : WdtSlot) : WdtEvent → Prop
  | .registerTask taskId _ _ _ => taskId.toNat ≠ slot.val
  | .unregisterTask taskId => taskId.toNat ≠ slot.val
  | .checkin taskId _ => taskId.toNat ≠ slot.val
  | _ => True

/-- The call runs a check, which sees that more than the period of the task has passed. -/
def seesOverdue (slot : WdtSlot) (run : WatchedRun) : WdtEvent → Bool
  | .kick now _ => run.mgr.checkDue now &&
      (run.watches slot).any fun watch => watch.overdue now.toNat
  | _ => false

theorem entryAfter_of_silent {mgr : WatchdogMgr} {slot : WdtSlot} {event : WdtEvent}
    (silent : Silent slot event) (unchecked : ∀ now timerMs, event ≠ .kick now timerMs) :
    entryAfter mgr slot event = mgr.tasks slot := by
  cases event with
  | start now timerMs => rfl
  | registerTask taskId name expectedPeriodMs now => exact if_neg fun both => silent both.1
  | unregisterTask taskId => exact if_neg silent
  | checkin taskId now => exact if_neg fun both => silent both.1
  | kick now timerMs => exact absurd rfl (unchecked now timerMs)

/-- The task is stalled, or has missed as many checks. -/
def WdtTaskEntry.MissedAtLeast (entry : WdtTaskEntry) (misses : Nat) : Prop :=
  entry.stalled = true ∨ misses ≤ entry.missCount.toNat

section

variable {slot : WdtSlot} {run : WatchedRun} {misses : Nat}

/-- A check counts one more miss when it sees the task overdue, and forgets none. -/
theorem checked_missedAtLeast (paced : Paced run)
    (missed : (run.mgr.tasks slot).MissedAtLeast misses) {now : UInt64}
    (forward : run.clockMs ≤ now.toNat) :
    ((run.mgr.tasks slot).checked now).MissedAtLeast
      (misses + if (run.watches slot).any fun watch => watch.overdue now.toNat then 1 else 0) := by
  cases watching : run.watches slot with
  | none =>
    unfold WdtTaskEntry.checked
    rw [paced.tracks.inactive watching, Bool.not_false, if_pos rfl]
    exact missed
  | some watch =>
    have pace := paced.paced slot watch watching
    unfold WdtTaskEntry.checked
    rw [(paced.tracks.watched_some watching).1, Bool.not_true, if_neg Bool.false_ne_true,
      Option.any_some, paced.overdue watching forward]
    cases overdue : watch.overdue now.toNat with
    | true =>
      rw [if_pos rfl, if_pos rfl]
      rcases missed with stalled | missed
      · exact Or.inl (by rw [stalled, Bool.true_or])
      · cases stalled : (run.mgr.tasks slot).stalled with
        | true => exact Or.inl rfl
        | false =>
          refine Or.inr ?_
          dsimp only
          rw [toNat_missCount_add_one (paced.counted slot) stalled]
          exact Nat.succ_le_succ missed
    | false =>
      -- Before the task is overdue it has missed no check, so nothing is forgotten here.
      have early : ¬ watch.overdue run.clockMs = true := fun late =>
        Bool.false_ne_true (overdue.symm.trans (Watch.overdue_mono forward late))
      rw [if_neg Bool.false_ne_true, if_neg Bool.false_ne_true, Nat.add_zero]
      rcases missed with stalled | missed
      · exact absurd (pace.late (Or.inl stalled)) early
      · refine Or.inr (missed.trans (Nat.le_of_eq ?_))
        exact Nat.eq_zero_of_not_pos fun some => early (pace.late (Or.inr some))

variable [CLayout FaultRecord]

/-- The checks of a run that see the task of the slot overdue. -/
def overdueChecks (slot : WdtSlot) : WatchedRun → List WdtEvent → Nat
  | _, [] => 0
  | run, event :: rest =>
    (if seesOverdue slot run event then 1 else 0) +
      overdueChecks slot (watchedEvent run event) rest

theorem silent_missedAtLeast (paced : Paced run)
    (missed : (run.mgr.tasks slot).MissedAtLeast misses) {event : WdtEvent}
    (forward : Forward run event) (silent : Silent slot event) :
    ((watchedEvent run event).mgr.tasks slot).MissedAtLeast
      (misses + if seesOverdue slot run event then 1 else 0) := by
  dsimp only [watchedEvent]
  rw [wdtEvent_tasks paced.tracks.initialized]
  cases event with
  | kick now timerMs =>
    by_cases due : run.mgr.checkDue now = true
    · have sees : seesOverdue slot run (.kick now timerMs) =
          (run.watches slot).any fun watch => watch.overdue now.toNat := by
        rw [seesOverdue, due, Bool.true_and]
      rw [entryAfter_kick due, sees]
      exact checked_missedAtLeast paced missed (forward now rfl)
    · have blind : seesOverdue slot run (.kick now timerMs) = false := by
        rw [seesOverdue, eq_false_of_ne_true due, Bool.false_and]
      rw [entryAfter, if_neg due, blind]
      exact missed
  | _ =>
    rw [entryAfter_of_silent silent (fun _ _ => by rintro ⟨⟩)]
    exact missed

/-- A task that stays silent is stalled once three checks have seen it overdue. -/
theorem stalled_of_overdueChecks (misses : Nat) (paced : Paced run) {events : List WdtEvent}
    (forward : EachStep watchedEvent Forward run events)
    (silent : ∀ event ∈ events, Silent slot event)
    (missed : (run.mgr.tasks slot).MissedAtLeast misses)
    (enough : wdtTaskMissThreshold.toNat ≤ misses + overdueChecks slot run events) :
    ((finalState watchedEvent run events).mgr.tasks slot).stalled = true := by
  induction events generalizing run misses with
  | nil =>
    rcases missed with stalled | missed
    · exact stalled
    · by_contra unstalled
      have few := paced.counted slot (eq_false_of_ne_true unstalled)
      exact absurd (enough.trans missed) (Nat.not_le.mpr few)
  | cons event rest inductionHypothesis =>
    obtain ⟨first, later⟩ := List.forall_mem_cons.mp silent
    rw [finalState_cons]
    refine inductionHypothesis _ (paced.event forward.1) forward.2 later
      (silent_missedAtLeast paced missed forward.1 first) ?_
    rw [Nat.add_assoc]
    exact enough

end

/-! ### Counting stalls -/

/-- The tasks that become stalled from one state of the manager to the next. -/
def newlyStalled (before after : WatchdogMgr) : Nat :=
  (List.finRange 8).countP fun slot => !(before.tasks slot).stalled && (after.tasks slot).stalled

/-- What a check does to a flag that is not set is to set it at the third miss. -/
theorem checked_newlyStalled (entry : WdtTaskEntry) (now : UInt64) :
    (!entry.stalled && (entry.checked now).stalled) = entry.thirdMiss now := by
  rw [Bool.eq_iff_iff]
  cases stalled : entry.stalled with
  | true => simp [WdtTaskEntry.thirdMiss, stalled]
  | false =>
    rw [Bool.not_false, Bool.true_and]
    exact checked_stalled_eq_true_iff stalled now

theorem newlyStalled_eq_zero {before after : WatchdogMgr}
    (none : ∀ slot, (before.tasks slot).stalled = false → (after.tasks slot).stalled = false) :
    newlyStalled before after = 0 := by
  refine List.countP_eq_zero.mpr fun slot _ => ?_
  cases unstalled : (before.tasks slot).stalled with
  | true => exact Bool.false_ne_true
  | false =>
    rw [none slot unstalled]
    exact Bool.false_ne_true

section

variable [CLayout FaultRecord]

theorem checkTask_taskStallsDetected (now : UInt64) (mgr : WatchdogMgr) (slot : WdtSlot) :
    (checkTask now mgr slot).stats.taskStallsDetected =
      mgr.stats.taskStallsDetected + if (mgr.tasks slot).thirdMiss now then 1 else 0 := by
  unfold checkTask WdtTaskEntry.thirdMiss
  dsimp only
  cases (mgr.tasks slot).active with
  | false => exact (UInt32.add_zero _).symm
  | true =>
    rw [Bool.not_true, if_neg Bool.false_ne_true]
    cases (mgr.tasks slot).overdue now with
    | false =>
      rw [Bool.and_false, Bool.false_and]
      exact (UInt32.add_zero _).symm
    | true =>
      rw [if_pos rfl, Bool.true_and, Bool.and_true, Bool.and_comm]
      split
      · rfl
      · exact (UInt32.add_zero _).symm

theorem foldl_checkTask_taskStallsDetected (now : UInt64) (slots : List WdtSlot)
    (once : slots.Nodup) (mgr : WatchdogMgr) :
    (slots.foldl (checkTask now) mgr).stats.taskStallsDetected =
      mgr.stats.taskStallsDetected +
        UInt32.ofNat (slots.countP fun slot => (mgr.tasks slot).thirdMiss now) := by
  induction slots generalizing mgr with
  | nil => exact (UInt32.add_zero _).symm
  | cons next rest inductionHypothesis =>
    obtain ⟨absent, restOnce⟩ := List.nodup_cons.mp once
    have untouched : (rest.countP fun slot => ((checkTask now mgr next).tasks slot).thirdMiss now) =
        rest.countP fun slot => (mgr.tasks slot).thirdMiss now := by
      refine List.countP_congr fun slot member => ?_
      have apart : slot ≠ next := fun same => absent (same ▸ member)
      rw [checkTask_tasks, Function.update_of_ne apart]
    rw [List.foldl_cons, inductionHypothesis restOnce, checkTask_taskStallsDetected, untouched,
      List.countP_cons, UInt32.ofNat_add, UInt32.add_assoc]
    congr 1
    rw [UInt32.add_comm]
    congr 1
    split <;> rfl

/-- A call that checks no task leaves the count of stalls. -/
theorem taskStallsDetected_of_unchecked {mgr : WatchdogMgr} {event : WdtEvent}
    (unchecked : ∀ now timerMs, event = .kick now timerMs → ¬ mgr.checkDue now = true) :
    (wdtEvent mgr event).stats.taskStallsDetected = mgr.stats.taskStallsDetected := by
  cases event with
  | start now timerMs =>
    dsimp only [wdtEvent, wdtMgrStart]
    split
    · split <;> rfl
    · rfl
  | registerTask taskId name expectedPeriodMs now =>
    dsimp only [wdtEvent, wdtMgrRegisterTask]
    split
    · split <;> rfl
    · rfl
  | unregisterTask taskId =>
    dsimp only [wdtEvent, wdtMgrUnregisterTask]
    split <;> rfl
  | checkin taskId now =>
    dsimp only [wdtEvent, wdtMgrCheckin]
    split
    · split <;> rfl
    · rfl
  | kick now timerMs =>
    dsimp only [wdtEvent, wdtMgrKick]
    rw [if_neg (unchecked now timerMs rfl)]
    split <;> rfl

theorem wdtEvent_taskStallsDetected {mgr : WatchdogMgr} (initialized : mgr.initialized = true)
    (event : WdtEvent) :
    (wdtEvent mgr event).stats.taskStallsDetected =
      mgr.stats.taskStallsDetected +
        UInt32.ofNat (newlyStalled mgr (wdtEvent mgr event)) := by
  by_cases checks : ∃ now timerMs, event = .kick now timerMs ∧ mgr.checkDue now = true
  · obtain ⟨now, timerMs, rfl, due⟩ := checks
    have newly : newlyStalled mgr (wdtEvent mgr (.kick now timerMs)) =
        (List.finRange 8).countP fun slot => (mgr.tasks slot).thirdMiss now := by
      refine List.countP_congr fun slot _ => ?_
      rw [wdtEvent_tasks initialized, entryAfter_kick due, checked_newlyStalled]
    rw [newly]
    dsimp only [wdtEvent, wdtMgrKick]
    rw [if_pos initialized, if_pos due]
    exact foldl_checkTask_taskStallsDetected now _ (List.nodup_finRange 8) _
  · have newly : newlyStalled mgr (wdtEvent mgr event) = 0 := by
      refine newlyStalled_eq_zero fun slot unstalled => eq_false_of_ne_true fun stalled => ?_
      rw [wdtEvent_tasks initialized] at stalled
      obtain ⟨now, timerMs, kick, due, -⟩ := (entryAfter_stalled_iff unstalled event).mp stalled
      exact checks ⟨now, timerMs, kick, due⟩
    rw [newly, taskStallsDetected_of_unchecked fun now timerMs kick due =>
      checks ⟨now, timerMs, kick, due⟩]
    exact (UInt32.add_zero _).symm

/-- The changes of a task from not stalled to stalled in a run. -/
def stallsInRun : WatchdogMgr → List WdtEvent → Nat
  | _, [] => 0
  | mgr, event :: rest =>
    newlyStalled mgr (wdtEvent mgr event) + stallsInRun (wdtEvent mgr event) rest

theorem finalState_taskStallsDetected {mgr : WatchdogMgr} (initialized : mgr.initialized = true)
    (events : List WdtEvent) :
    (finalState wdtEvent mgr events).stats.taskStallsDetected =
      mgr.stats.taskStallsDetected + UInt32.ofNat (stallsInRun mgr events) := by
  induction events generalizing mgr with
  | nil => exact (UInt32.add_zero _).symm
  | cons event rest inductionHypothesis =>
    rw [finalState_cons, inductionHypothesis (initialized_wdtEvent mgr event initialized),
      wdtEvent_taskStallsDetected initialized, stallsInRun, UInt32.ofNat_add, UInt32.add_assoc]

/-! ### Soundness -/

/-- What the task checks owe a run from the initialization on. -/
structure ChecksSoundly (boot : WatchdogMgr) (events : List WdtEvent) : Prop where
  /-- From a time it is heard on, a task that stays timely is not stalled. -/
  timely : ∀ slot earlier event later, events = earlier ++ event :: later →
    Hears slot (finalState watchedEvent (WatchedRun.initial boot) earlier) event →
    EachStep watchedEvent (Punctual slot)
      (finalState watchedEvent (WatchedRun.initial boot) (earlier ++ [event])) later →
    Throughout watchedEvent (fun run => (run.mgr.tasks slot).stalled = false)
      (finalState watchedEvent (WatchedRun.initial boot) (earlier ++ [event])) later
  /-- A task that is silent is stalled when three checks have seen it overdue since. -/
  silent : ∀ slot earlier silence, events = earlier ++ silence →
    (∀ event ∈ silence, Silent slot event) →
    3 ≤ overdueChecks slot (finalState watchedEvent (WatchedRun.initial boot) earlier) silence →
    ((finalState wdtEvent (wdtMgrInit boot).1 events).tasks slot).stalled = true
  /-- The statistics count the changes of tasks to stalled. -/
  counted : (finalState wdtEvent (wdtMgrInit boot).1 events).stats.taskStallsDetected =
    UInt32.ofNat (stallsInRun (wdtMgrInit boot).1 events)

/-- The watches do not change what the manager does. -/
theorem finalState_mgr (run : WatchedRun) (events : List WdtEvent) :
    (finalState watchedEvent run events).mgr = finalState wdtEvent run.mgr events :=
  @finalState_related _ _ watchedEvent _ wdtEvent (fun watched mgr => watched.mgr = mgr)
    (fun _ _ _ same => congrArg (wdtEvent · _) same) run run.mgr rfl events

theorem paced_of_sorted (boot : WatchdogMgr) {earlier later : List WdtEvent}
    (sorted : ((earlier ++ later).filterMap WdtEvent.now).Pairwise (· ≤ ·)) :
    Paced (finalState watchedEvent (WatchedRun.initial boot) earlier) ∧
      EachStep watchedEvent Forward (finalState watchedEvent (WatchedRun.initial boot) earlier)
        later := by
  have forward := @forward_of_sorted _ (WatchedRun.initial boot) _ sorted
    (fun now _ => Nat.zero_le now.toNat)
  exact ⟨paced_finalState (paced_initial boot) forward.left, forward.right⟩

/-- In every run from the initialization on with a clock that does not go back, timely tasks are
never stalled, silent ones are stalled by the third check that sees them overdue, and the stalls
are counted. -/
theorem checksSoundly (boot : WatchdogMgr) (events : List WdtEvent)
    (sorted : (events.filterMap WdtEvent.now).Pairwise (· ≤ ·)) : ChecksSoundly boot events where
  timely := by
    rintro slot earlier event later rfl hears timely
    obtain ⟨paced, -⟩ := paced_of_sorted boot sorted
    rw [← List.singleton_append, ← List.append_assoc] at sorted
    obtain ⟨pacedAfter, forward⟩ := paced_of_sorted boot sorted
    refine unstalled_of_timely pacedAfter ?_ forward timely
    rw [finalState_append]
    exact unmissed_of_hears paced.tracks hears
  silent := by
    rintro slot earlier silence rfl silent enough
    obtain ⟨paced, forward⟩ := paced_of_sorted boot sorted
    have stalled := stalled_of_overdueChecks 0 paced forward silent
      (Or.inr (Nat.zero_le _)) (by rw [Nat.zero_add]; exact enough)
    rw [← finalState_append, finalState_mgr] at stalled
    exact stalled
  counted := by
    rw [finalState_taskStallsDetected (initialized_wdtMgrInit boot)]
    exact UInt32.zero_add _

end

/-- A task that checks in every half second, and another one that is silent from its registration
on. -/
theorem checksSoundly_witness :
    letI := CLayout.blank FaultRecord
    ChecksSoundly
      ⟨fun _ => WdtTaskEntry.clear, ⟨0, 0, 0, 0, 0, 0, false⟩, 0, false, ⟨0, false, false, 0⟩,
        ⟨FaultLog.empty, none, false⟩⟩
      [.registerTask 0 "eps" 1000 0, .registerTask 1 "comm" 500 0, .checkin 0 500, .kick 1000 1000,
        .checkin 0 1500, .kick 2000 2000, .checkin 0 2500, .kick 3000 3000] :=
  @checksSoundly (CLayout.blank FaultRecord) _ _ (by decide)

end SmartQso
