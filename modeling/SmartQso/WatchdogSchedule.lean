/-
This file relates the three time scales of a stalled task: its period, the interval between
checks, and the times of the kicks. The misses of a task are checks that found it overdue,
so it may be stalled long before three of its periods have passed; it is, exactly when three
checks have come early. With periods no longer than the interval that cannot happen.
-/

import SmartQso.WatchdogSoundness

namespace SmartQso

open Runs

/-! ### Early checks -/

/-- Since a task was last heard, at most two checks have come later than one and earlier than three
of its periods. -/
def FewEarlyChecks (run : WatchedRun) (event : WdtEvent) : Prop :=
  ∀ slot, earlyChecksAfter run slot event < wdtTaskMissThreshold.toNat

theorem Watch.silentThrice_mono {watch : Watch} {earlier later : Nat} (order : earlier ≤ later)
    (silent : watch.silentThrice earlier) : watch.silentThrice later :=
  Nat.le_trans silent order

theorem Watch.early_iff {watch : Watch} {nowMs : Nat} :
    watch.early nowMs = true ↔ watch.overdue nowMs = true ∧ ¬ watch.silentThrice nowMs := by
  unfold Watch.early
  rw [Bool.and_eq_true, Bool.not_eq_true', decide_eq_false_iff_not]

/-- Until three periods have passed, a task is not stalled and its misses are the early checks. -/
def Watch.Matched (watch : Watch) (entry : WdtTaskEntry) (earlyChecks clockMs : Nat) : Prop :=
  ¬ watch.silentThrice clockMs →
    entry.stalled = false ∧ entry.missCount.toNat = earlyChecks

theorem Watch.Matched.mono {watch : Watch} {entry : WdtTaskEntry} {earlyChecks clockMs : Nat}
    (kept : watch.Matched entry earlyChecks clockMs) {laterMs : Nat} (order : clockMs ≤ laterMs) :
    watch.Matched entry earlyChecks laterMs :=
  fun soon => kept fun silent => soon (Watch.silentThrice_mono order silent)

/-- The run keeps the pace, few checks of each task have come early, and they are its misses. -/
structure Scheduled (run : WatchedRun) : Prop where
  paced : Paced run
  few : ∀ slot, run.earlyChecks slot < wdtTaskMissThreshold.toNat
  kept : ∀ slot watch, run.watches slot = some watch →
    watch.Matched (run.mgr.tasks slot) (run.earlyChecks slot) run.clockMs

theorem scheduled_initial (boot : WatchdogMgr) : Scheduled (WatchedRun.initial boot) where
  paced := paced_initial boot
  few _ := Nat.zero_lt_succ 2
  kept _ _ watching := by cases watching

theorem earlyChecksAfter_kick (run : WatchedRun) {slot : WdtSlot} {watch : Watch}
    (watching : run.watches slot = some watch) (now timerMs : UInt64) :
    earlyChecksAfter run slot (.kick now timerMs) =
      if run.mgr.checkDue now = true ∧ watch.early now.toNat = true then
        run.earlyChecks slot + 1
      else run.earlyChecks slot := by
  dsimp only [earlyChecksAfter]
  rw [watching, Option.any_some]

section

variable {run : WatchedRun} {slot : WdtSlot} {watch : Watch} {now : UInt64}

/-- An early check is a miss of its task. -/
theorem Scheduled.early (scheduled : Scheduled run) (watching : run.watches slot = some watch)
    (forward : run.clockMs ≤ now.toNat) (early : watch.early now.toNat = true) :
    (run.mgr.tasks slot).active = true ∧ (run.mgr.tasks slot).stalled = false ∧
      (run.mgr.tasks slot).overdue now = true ∧
      (run.mgr.tasks slot).missCount.toNat = run.earlyChecks slot := by
  obtain ⟨late, soon⟩ := Watch.early_iff.mp early
  obtain ⟨unstalled, misses⟩ := (scheduled.kept slot watch watching).mono forward soon
  exact ⟨(scheduled.paced.tracks.watched_some watching).1, unstalled,
    (scheduled.paced.overdue watching forward).trans late, misses⟩

/-- An early check is the third miss of its task exactly when two checks have come early before. -/
theorem Scheduled.thirdMiss_iff (scheduled : Scheduled run)
    (watching : run.watches slot = some watch) (forward : run.clockMs ≤ now.toNat)
    (early : watch.early now.toNat = true) :
    (run.mgr.tasks slot).thirdMiss now = true ↔
      wdtTaskMissThreshold.toNat ≤ run.earlyChecks slot + 1 := by
  obtain ⟨active, unstalled, overdue, misses⟩ := scheduled.early watching forward early
  rw [SmartQso.thirdMiss_iff, UInt32.le_iff_toNat_le,
    toNat_missCount_add_one (scheduled.paced.counted slot) unstalled, misses]
  exact ⟨fun third => third.2.2.2, fun third => ⟨active, unstalled, overdue, third⟩⟩

theorem lateThirdMiss_iff_fewEarlyChecks (scheduled : Scheduled run) {event : WdtEvent}
    (forward : Forward run event) : LateThirdMiss run event ↔ FewEarlyChecks run event := by
  cases event with
  | kick now timerMs =>
    have ahead := forward now rfl
    constructor
    · intro late slot
      cases watching : run.watches slot with
      | none =>
        dsimp only [earlyChecksAfter]
        rw [watching, Option.any_none, if_neg (fun both => Bool.false_ne_true both.2)]
        exact scheduled.few slot
      | some watch =>
        rw [earlyChecksAfter_kick run watching]
        split
        case isTrue both =>
          refine Nat.lt_of_not_le fun third => (Watch.early_iff.mp both.2).2 ?_
          exact late both.1 slot watch watching
            ((scheduled.thirdMiss_iff watching ahead both.2).mpr third)
        case isFalse => exact scheduled.few slot
    · intro few due slot watch watching third
      by_contra soon
      obtain ⟨-, -, overdue, -⟩ := SmartQso.thirdMiss_iff.mp third
      rw [scheduled.paced.overdue watching ahead] at overdue
      have early := Watch.early_iff.mpr ⟨overdue, soon⟩
      have fewer := few slot
      rw [earlyChecksAfter_kick run watching, if_pos ⟨due, early⟩] at fewer
      exact absurd ((scheduled.thirdMiss_iff watching ahead early).mp third)
        (Nat.not_le.mpr fewer)
  | registerTask taskId name expectedPeriodMs now =>
    refine iff_of_true trivial fun slot => ?_
    dsimp only [earlyChecksAfter]
    split
    · exact Nat.zero_lt_succ 2
    · exact scheduled.few slot
  | checkin taskId now =>
    refine iff_of_true trivial fun slot => ?_
    dsimp only [earlyChecksAfter]
    split
    · exact Nat.zero_lt_succ 2
    · exact scheduled.few slot
  | start now timerMs => exact iff_of_true trivial scheduled.few
  | unregisterTask taskId => exact iff_of_true trivial scheduled.few

/-- A check that does not stall a task early keeps its misses and its early checks together. -/
theorem Scheduled.checked (scheduled : Scheduled run) (watching : run.watches slot = some watch)
    {timerMs : UInt64} (forward : run.clockMs ≤ now.toNat)
    (due : run.mgr.checkDue now = true)
    (few : FewEarlyChecks run (.kick now timerMs)) :
    watch.Matched ((run.mgr.tasks slot).checked now)
      (earlyChecksAfter run slot (.kick now timerMs)) now.toNat := by
  intro soon
  have pace := scheduled.paced.paced slot watch watching
  obtain ⟨unstalled, misses⟩ := (scheduled.kept slot watch watching).mono forward soon
  have fewer := few slot
  rw [earlyChecksAfter_kick run watching] at fewer ⊢
  unfold WdtTaskEntry.checked
  rw [(scheduled.paced.tracks.watched_some watching).1, Bool.not_true, if_neg Bool.false_ne_true,
    scheduled.paced.overdue watching forward]
  cases overdue : watch.overdue now.toNat with
  | true =>
    have early := Watch.early_iff.mpr ⟨overdue, soon⟩
    have count := toNat_missCount_add_one (scheduled.paced.counted slot) unstalled
    rw [if_pos rfl]
    rw [if_pos ⟨due, early⟩] at fewer ⊢
    dsimp only
    refine ⟨?_, by rw [count, misses]⟩
    rw [unstalled, Bool.false_or, decide_eq_false_iff_not, ge_iff_le, UInt32.le_iff_toNat_le,
      count, misses]
    exact Nat.not_le.mpr fewer
  | false =>
    -- A task that is not overdue now has not been before, so no check has come early either.
    have before : ¬ watch.overdue run.clockMs = true := fun late =>
      Bool.false_ne_true (overdue.symm.trans (Watch.overdue_mono forward late))
    have none : (run.mgr.tasks slot).missCount.toNat = 0 :=
      Nat.eq_zero_of_not_pos fun some => before (pace.late (Or.inr some))
    have punctual : ¬ (run.mgr.checkDue now = true ∧ watch.early now.toNat = true) := fun both =>
      Bool.false_ne_true (overdue.symm.trans (Watch.early_iff.mp both.2).1)
    rw [if_neg punctual, if_neg Bool.false_ne_true, ← misses, none]
    exact ⟨rfl, rfl⟩

/-- A call that stalls no task early keeps its misses and its early checks together. -/
theorem watchAfter_matched (scheduled : Scheduled run) {event : WdtEvent}
    (forward : Forward run event) (few : FewEarlyChecks run event)
    (watching : watchAfter slot (run.watches slot) event = some watch) :
    watch.Matched (entryAfter run.mgr slot event) (earlyChecksAfter run slot event)
      ((event.now.map UInt64.toNat).getD run.clockMs) := by
  cases scheduled.paced.tracks.watchStep watching with
  | heard now _ _ unstalled unmissed noEarly =>
    rw [noEarly]
    exact fun _ => ⟨unstalled, congrArg UInt32.toNat unmissed⟩
  | kept before sameEntry sameEarly =>
    rw [sameEntry, sameEarly]
    exact (scheduled.kept slot watch before).mono (clock_forward forward)
  | checked now timerMs isKick due before =>
    subst isKick
    rw [entryAfter_kick due]
    exact scheduled.checked before (forward now rfl) due few

variable [CLayout FaultRecord]

theorem Scheduled.event (scheduled : Scheduled run) {event : WdtEvent}
    (forward : Forward run event) (few : FewEarlyChecks run event) :
    Scheduled (watchedEvent run event) := by
  refine ⟨scheduled.paced.event forward, few, fun slot watch watching => ?_⟩
  dsimp only [watchedEvent]
  rw [wdtEvent_tasks scheduled.paced.tracks.initialized]
  exact watchAfter_matched scheduled forward few watching

theorem stallsLate_iff_fewEarlyChecks (scheduled : Scheduled run) {event : WdtEvent}
    (forward : Forward run event) : StallsLate run event ↔ FewEarlyChecks run event :=
  (stallsLate_iff_lateThirdMiss run event scheduled.paced.tracks).trans
    (lateThirdMiss_iff_fewEarlyChecks scheduled forward)

end

section

variable [CLayout FaultRecord]

/-- In a run from the initialization on with a clock that does not go back, a task becomes stalled
only after three periods of silence exactly when of no task three checks come early. -/
theorem stallsLate_iff (boot : WatchdogMgr) (events : List WdtEvent)
    (sorted : (events.filterMap WdtEvent.now).Pairwise (· ≤ ·)) :
    EachStep watchedEvent StallsLate (WatchedRun.initial boot) events ↔
      EachStep watchedEvent FewEarlyChecks (WatchedRun.initial boot) events := by
  have forward := @forward_of_sorted _ (WatchedRun.initial boot) events sorted
    (fun now _ => Nat.zero_le now.toNat)
  refine @eachStep_iff_of_allowed _ _ watchedEvent Scheduled StallsLate Forward FewEarlyChecks
    ?_ ?_ _ (scheduled_initial boot) events forward
  · intro run event scheduled step late
    exact scheduled.event step ((stallsLate_iff_fewEarlyChecks scheduled step).mp late)
  · intro run event scheduled step
    exact stallsLate_iff_fewEarlyChecks scheduled step

end

/-- A task with a period of three seconds that is silent from its registration on has two early
checks, and is stalled by the one that comes after nine seconds. -/
theorem stallsLate_iff_witness :
    letI := CLayout.blank FaultRecord
    EachStep watchedEvent StallsLate
        (WatchedRun.initial
          ⟨fun _ => WdtTaskEntry.clear, ⟨0, 0, 0, 0, 0, 0, false⟩, 0, false, ⟨0, false, false, 0⟩,
            ⟨FaultLog.empty, none, false⟩⟩)
        [.registerTask 0 "eps" 3000 0, .kick 4000 4000, .kick 6000 6000, .kick 9000 9000] ↔
      EachStep watchedEvent FewEarlyChecks
        (WatchedRun.initial
          ⟨fun _ => WdtTaskEntry.clear, ⟨0, 0, 0, 0, 0, 0, false⟩, 0, false, ⟨0, false, false, 0⟩,
            ⟨FaultLog.empty, none, false⟩⟩)
        [.registerTask 0 "eps" 3000 0, .kick 4000 4000, .kick 6000 6000, .kick 9000 9000] :=
  @stallsLate_iff (CLayout.blank FaultRecord) _ _ (by decide)

/-- A task of a period of five seconds is stalled when it has been silent for seven. -/
theorem stallsLate_fails :
    letI := CLayout.blank FaultRecord
    ¬ ∀ (boot : WatchdogMgr) (events : List WdtEvent),
      (events.filterMap WdtEvent.now).Pairwise (· ≤ ·) →
        EachStep watchedEvent StallsLate (WatchedRun.initial boot) events := by
  let := CLayout.blank FaultRecord
  intro claimed
  have late := claimed
    ⟨fun _ => WdtTaskEntry.clear, ⟨0, 0, 0, 0, 0, 0, false⟩, 0, false, ⟨0, false, false, 0⟩,
      ⟨FaultLog.empty, none, false⟩⟩
    [.registerTask 0 "eps" 5000 0, .kick 5001 5001, .kick 6001 6001, .kick 7001 7001] (by decide)
  obtain ⟨now, watch, time, watching, silent⟩ := late.2.2.2.1 0 (by decide +kernel)
    (by decide +kernel) (by decide +kernel)
  cases time
  cases watching
  exact absurd silent (by unfold Watch.silentThrice; decide)

/-! ### Short periods -/

/-- A task that is found overdue for the third time has been silent for its period and two
intervals. -/
theorem thirdMiss_spaced {run : WatchedRun} (paced : Paced run) {now : UInt64}
    (forward : run.clockMs ≤ now.toNat) (due : run.mgr.checkDue now = true) {slot : WdtSlot}
    {watch : Watch} (watching : run.watches slot = some watch)
    (third : (run.mgr.tasks slot).thirdMiss now = true) :
    watch.heardMs + watch.periodMs + 2 * wdtTaskCheckIntervalMs.toNat < now.toNat := by
  obtain ⟨-, unstalled, -, missed⟩ := thirdMiss_iff.mp third
  have twice : 2 ≤ (run.mgr.tasks slot).missCount.toNat := by
    have threshold := UInt32.le_iff_toNat_le.mp missed
    rw [toNat_missCount_add_one (paced.counted slot) unstalled] at threshold
    exact Nat.le_of_succ_le_succ threshold
  have spaced := (paced.paced slot watch watching).spaced unstalled
    (Nat.lt_of_lt_of_le Nat.two_pos twice)
  have interval := due_of_checkDue paced forward due
  have checks := Nat.mul_le_mul_right wdtTaskCheckIntervalMs.toNat twice
  omega

/-- A registration for a period that is not longer than the time between checks. -/
def ShortPeriod : WdtEvent → Prop
  | .registerTask _ _ expectedPeriodMs _ =>
    expectedPeriodMs.toNat ≤ wdtTaskCheckIntervalMs.toNat
  | _ => True

/-- No watch has a longer period than the time between checks. -/
def ShortWatches (run : WatchedRun) : Prop :=
  ∀ slot watch, run.watches slot = some watch → watch.periodMs ≤ wdtTaskCheckIntervalMs.toNat

theorem lateThirdMiss_of_short {run : WatchedRun} (paced : Paced run) (short : ShortWatches run)
    {event : WdtEvent} (forward : Forward run event) : LateThirdMiss run event := by
  cases event with
  | kick now timerMs =>
    intro due slot watch watching third
    have spaced := thirdMiss_spaced paced (forward now rfl) due watching third
    have period := short slot watch watching
    have thrice : wdtTaskMissThreshold.toNat * watch.periodMs =
        watch.periodMs + 2 * watch.periodMs :=
      (Nat.succ_mul 2 watch.periodMs).trans (Nat.add_comm _ _)
    unfold Watch.silentThrice
    rw [thrice]
    omega
  | _ => trivial

section

variable [CLayout FaultRecord]

theorem shortWatches_event {run : WatchedRun} (short : ShortWatches run) {event : WdtEvent}
    (shortPeriod : ShortPeriod event) : ShortWatches (watchedEvent run event) := by
  intro slot watch watching
  dsimp only [watchedEvent] at watching
  cases event with
  | registerTask taskId name expectedPeriodMs now =>
    dsimp only [watchAfter] at watching
    split at watching
    · cases watching
      exact shortPeriod
    · exact short slot watch watching
  | unregisterTask taskId =>
    dsimp only [watchAfter] at watching
    split at watching
    · cases watching
    · exact short slot watch watching
  | checkin taskId now =>
    dsimp only [watchAfter] at watching
    split at watching
    · obtain ⟨before, found, rfl⟩ := Option.map_eq_some_iff.mp watching
      exact short slot before found
    · exact short slot watch watching
  | _ => exact short slot watch watching

/-- With periods that are not longer than the time between checks, no task is ever stalled before it
has been silent for three periods. -/
theorem stallsLate_of_short_periods (boot : WatchdogMgr) (events : List WdtEvent)
    (sorted : (events.filterMap WdtEvent.now).Pairwise (· ≤ ·))
    (short : ∀ event ∈ events, ShortPeriod event) :
    EachStep watchedEvent StallsLate (WatchedRun.initial boot) events := by
  have forward := @forward_of_sorted _ (WatchedRun.initial boot) events sorted
    (fun now _ => Nat.zero_le now.toNat)
  have steps := forward.and (@EachStep.of_forall _ _ watchedEvent _ (WatchedRun.initial boot)
    events short)
  refine @eachStep_of_allowed _ _ watchedEvent (fun run => Paced run ∧ ShortWatches run) StallsLate
    (fun run event => Forward run event ∧ ShortPeriod event) ?_ ?_ _ ?_ _ steps
  · rintro run event ⟨paced, shortWatches⟩ ⟨forward, shortPeriod⟩
    exact ⟨paced.event forward, shortWatches_event shortWatches shortPeriod⟩
  · rintro run event ⟨paced, shortWatches⟩ ⟨forward, -⟩
    exact (stallsLate_iff_lateThirdMiss run event paced.tracks).mpr
      (lateThirdMiss_of_short paced shortWatches forward)
  · exact ⟨paced_initial boot, fun _ _ watching => by cases watching⟩

end

end SmartQso
