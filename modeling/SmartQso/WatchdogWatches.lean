/-
This file puts the tasks of the watchdog manager under watch. A watch, the period of a task
and the time it was last heard, is kept beside the manager, with the checks that have come
early since: later than one period and earlier than three. A task becomes stalled in the
check that finds it overdue for the third time in a row, and nowhere else.
-/

import SmartQso.WatchdogKicks

namespace SmartQso

open Runs

/-! ### What a call does to an entry -/

/-- The entry of a task that has just been registered. -/
def registeredEntry (name : String) (expectedPeriodMs : UInt32) (now : UInt64) : WdtTaskEntry where
  name := String.ofList (name.toList.take (wdtTaskNameLen - 1))
  expectedPeriodMs := expectedPeriodMs
  lastCheckinMs := now
  missCount := 0
  totalCheckins := 0
  active := true
  stalled := false

/-- The entry of an active task that has just checked in. -/
def WdtTaskEntry.heard (entry : WdtTaskEntry) (now : UInt64) : WdtTaskEntry :=
  { entry with
    lastCheckinMs := now
    missCount := 0
    stalled := false
    totalCheckins := entry.totalCheckins + 1 }

/-- An entry after a call of the manager. -/
def entryAfter (mgr : WatchdogMgr) (slot : WdtSlot) : WdtEvent → WdtTaskEntry
  | .start _ _ => mgr.tasks slot
  | .registerTask taskId name expectedPeriodMs now =>
    if taskId.toNat = slot.val ∧ expectedPeriodMs ≠ 0 then
      registeredEntry name expectedPeriodMs now
    else mgr.tasks slot
  | .unregisterTask taskId =>
    if taskId.toNat = slot.val then { mgr.tasks slot with active := false } else mgr.tasks slot
  | .checkin taskId now =>
    if taskId.toNat = slot.val ∧ (mgr.tasks slot).active = true then (mgr.tasks slot).heard now
    else mgr.tasks slot
  | .kick now _ =>
    if mgr.checkDue now then (mgr.tasks slot).checked now else mgr.tasks slot

theorem WatchdogMgr.setTask_tasks (mgr : WatchdogMgr) {taskId : UInt32}
    (inRange : taskId.toNat < 8) (entry : WdtTaskEntry) (slot : WdtSlot) :
    (mgr.setTask ⟨taskId.toNat, inRange⟩ entry).tasks slot =
      if taskId.toNat = slot.val then entry else mgr.tasks slot := by
  unfold WatchdogMgr.setTask
  by_cases same : taskId.toNat = slot.val
  · have equal : slot = ⟨taskId.toNat, inRange⟩ := Fin.ext same.symm
    rw [if_pos same, equal]
    exact Function.update_self _ entry mgr.tasks
  · rw [if_neg same]
    exact Function.update_of_ne (fun equal => same (congrArg Fin.val equal).symm) _ _

/-- A task number out of range is the number of no slot. -/
theorem taskId_ne_slot {taskId : UInt32} (outside : ¬ taskId.toNat < 8) (slot : WdtSlot) :
    taskId.toNat ≠ slot.val :=
  fun same => outside (same ▸ slot.isLt)

theorem wdtMgrRegisterTask_tasks (mgr : WatchdogMgr) (taskId : UInt32) (name : String)
    (expectedPeriodMs : UInt32) (now : UInt64) (slot : WdtSlot) :
    (wdtMgrRegisterTask mgr taskId name expectedPeriodMs now).1.tasks slot =
      entryAfter mgr slot (.registerTask taskId name expectedPeriodMs now) := by
  unfold wdtMgrRegisterTask
  dsimp only [entryAfter]
  by_cases inRange : taskId.toNat < 8
  · rw [dif_pos inRange]
    by_cases zero : expectedPeriodMs = 0
    · rw [if_pos zero, if_neg (fun both => both.2 zero)]
    · rw [if_neg zero, mgr.setTask_tasks inRange]
      simp only [ne_eq, zero, not_false_eq_true, and_true]
      rfl
  · rw [dif_neg inRange, if_neg (fun both => taskId_ne_slot inRange slot both.1)]

theorem wdtMgrUnregisterTask_tasks (mgr : WatchdogMgr) (taskId : UInt32) (slot : WdtSlot) :
    (wdtMgrUnregisterTask mgr taskId).1.tasks slot =
      entryAfter mgr slot (.unregisterTask taskId) := by
  unfold wdtMgrUnregisterTask
  dsimp only [entryAfter]
  by_cases inRange : taskId.toNat < 8
  · rw [dif_pos inRange, mgr.setTask_tasks inRange]
    by_cases same : taskId.toNat = slot.val
    · have equal : slot = ⟨taskId.toNat, inRange⟩ := Fin.ext same.symm
      rw [if_pos same, if_pos same, equal]
    · rw [if_neg same, if_neg same]
  · rw [dif_neg inRange, if_neg (taskId_ne_slot inRange slot)]

theorem wdtMgrCheckin_tasks (mgr : WatchdogMgr) (taskId : UInt32) (now : UInt64)
    (slot : WdtSlot) :
    (wdtMgrCheckin mgr taskId now).1.tasks slot = entryAfter mgr slot (.checkin taskId now) := by
  unfold wdtMgrCheckin
  dsimp only [entryAfter]
  by_cases inRange : taskId.toNat < 8
  · rw [dif_pos inRange]
    by_cases same : taskId.toNat = slot.val
    · have equal : slot = ⟨taskId.toNat, inRange⟩ := Fin.ext same.symm
      rw [← equal]
      by_cases active : (mgr.tasks slot).active = true
      · rw [if_pos active, if_pos ⟨same, active⟩, equal, mgr.setTask_tasks inRange, if_pos rfl]
        rfl
      · rw [if_neg active, if_neg (fun both => active both.2)]
    · have other : ¬ (taskId.toNat = slot.val ∧ (mgr.tasks slot).active = true) :=
        fun both => same both.1
      rw [if_neg other]
      split
      · rw [mgr.setTask_tasks inRange, if_neg same]
      · rfl
  · rw [dif_neg inRange, if_neg (fun both => taskId_ne_slot inRange slot both.1)]

/-! ### Stalling -/

/-- A check at this time finds the task overdue for the third time in a row, and not stalled yet. -/
def WdtTaskEntry.thirdMiss (entry : WdtTaskEntry) (now : UInt64) : Bool :=
  entry.active && !entry.stalled && entry.overdue now &&
    decide (entry.missCount + 1 ≥ wdtTaskMissThreshold)

theorem thirdMiss_iff {entry : WdtTaskEntry} {now : UInt64} :
    entry.thirdMiss now = true ↔ entry.active = true ∧ entry.stalled = false ∧
      entry.overdue now = true ∧ wdtTaskMissThreshold ≤ entry.missCount + 1 := by
  unfold WdtTaskEntry.thirdMiss
  simp only [Bool.and_eq_true, Bool.not_eq_true', decide_eq_true_eq, ge_iff_le, and_assoc]

/-- A check stalls exactly the tasks that it finds overdue for the third time. -/
theorem checked_stalled_eq_true_iff {entry : WdtTaskEntry} (unstalled : entry.stalled = false)
    (now : UInt64) : (entry.checked now).stalled = true ↔ entry.thirdMiss now = true := by
  unfold WdtTaskEntry.checked WdtTaskEntry.thirdMiss
  cases entry.active with
  | false => simp [unstalled]
  | true =>
    cases entry.overdue now with
    | false => simp
    | true => simp [unstalled]

theorem entryAfter_kick {mgr : WatchdogMgr} {now : UInt64} (due : mgr.checkDue now = true)
    (timerMs : UInt64) (slot : WdtSlot) :
    entryAfter mgr slot (.kick now timerMs) = (mgr.tasks slot).checked now := if_pos due

/-- A task becomes stalled in a check only. -/
theorem entryAfter_stalled_iff {mgr : WatchdogMgr} {slot : WdtSlot}
    (unstalled : (mgr.tasks slot).stalled = false) (event : WdtEvent) :
    (entryAfter mgr slot event).stalled = true ↔
      ∃ now timerMs, event = .kick now timerMs ∧ mgr.checkDue now = true ∧
        (mgr.tasks slot).thirdMiss now = true := by
  cases event with
  | start now timerMs => simp [entryAfter, unstalled]
  | registerTask taskId name expectedPeriodMs now =>
    simp only [entryAfter, reduceCtorEq, false_and, exists_false, iff_false, Bool.not_eq_true]
    split
    · rfl
    · exact unstalled
  | unregisterTask taskId =>
    simp only [entryAfter, reduceCtorEq, false_and, exists_false, iff_false, Bool.not_eq_true]
    split <;> exact unstalled
  | checkin taskId now =>
    simp only [entryAfter, reduceCtorEq, false_and, exists_false, iff_false, Bool.not_eq_true]
    split
    · rfl
    · exact unstalled
  | kick now timerMs =>
    simp only [entryAfter, WdtEvent.kick.injEq]
    constructor
    · intro stalled
      split at stalled
      case isTrue due =>
        exact ⟨now, timerMs, ⟨rfl, rfl⟩, due,
          (checked_stalled_eq_true_iff unstalled now).mp stalled⟩
      case isFalse => exact absurd stalled (by rw [unstalled]; exact Bool.false_ne_true)
    · rintro ⟨_, _, ⟨rfl, rfl⟩, due, third⟩
      rw [if_pos due]
      exact (checked_stalled_eq_true_iff unstalled now).mpr third

/-! ### Watches -/

/-- What is asked of a task: the period at which it is to be heard, and when it was last heard. -/
structure Watch where
  periodMs : Nat
  heardMs : Nat

/-- The task has not been heard for longer than its period. -/
def Watch.overdue (watch : Watch) (nowMs : Nat) : Bool :=
  decide (watch.heardMs + watch.periodMs < nowMs)

/-- Three periods have passed since the task was last heard. -/
def Watch.silentThrice (watch : Watch) (nowMs : Nat) : Prop :=
  watch.heardMs + wdtTaskMissThreshold.toNat * watch.periodMs ≤ nowMs

instance (watch : Watch) (nowMs : Nat) : Decidable (watch.silentThrice nowMs) :=
  inferInstanceAs (Decidable (_ ≤ _))

/-- More than one period has passed since the task was last heard, and less than three. -/
def Watch.early (watch : Watch) (nowMs : Nat) : Bool :=
  watch.overdue nowMs && !decide (watch.silentThrice nowMs)

/-- The watch over a slot after a call. It begins with the registration of a task, which counts as
heard then, and ends when the task is unregistered. -/
def watchAfter (slot : WdtSlot) (watch : Option Watch) : WdtEvent → Option Watch
  | .start _ _ => watch
  | .registerTask taskId _ expectedPeriodMs now =>
    if taskId.toNat = slot.val ∧ expectedPeriodMs ≠ 0 then
      some ⟨expectedPeriodMs.toNat, now.toNat⟩
    else watch
  | .unregisterTask taskId => if taskId.toNat = slot.val then none else watch
  | .checkin taskId now =>
    if taskId.toNat = slot.val then watch.map fun kept => ⟨kept.periodMs, now.toNat⟩ else watch
  | .kick _ _ => watch

/-- The entry is the one of the task under the watch. -/
def WdtTaskEntry.Watched (entry : WdtTaskEntry) : Option Watch → Prop
  | none => entry.active = false
  | some watch => entry.active = true ∧ entry.expectedPeriodMs.toNat = watch.periodMs ∧
      entry.lastCheckinMs.toNat = watch.heardMs

/-- The check writes nothing that a watch is about. -/
theorem WdtTaskEntry.Watched.checked {entry : WdtTaskEntry} {watch : Option Watch}
    (watched : entry.Watched watch) (now : UInt64) : (entry.checked now).Watched watch := by
  unfold WdtTaskEntry.checked
  split
  · exact watched
  split
  · cases watch <;> exact watched
  · cases watch <;> exact watched

/-- Every call does to the watches what it does to the entries. -/
theorem entryAfter_watched {mgr : WatchdogMgr} {slot : WdtSlot} {watch : Option Watch}
    (watched : (mgr.tasks slot).Watched watch) (event : WdtEvent) :
    (entryAfter mgr slot event).Watched (watchAfter slot watch event) := by
  cases event with
  | start now timerMs => exact watched
  | registerTask taskId name expectedPeriodMs now =>
    dsimp only [entryAfter, watchAfter]
    split
    · exact ⟨rfl, rfl, rfl⟩
    · exact watched
  | unregisterTask taskId =>
    dsimp only [entryAfter, watchAfter]
    split
    · rfl
    · exact watched
  | checkin taskId now =>
    dsimp only [entryAfter, watchAfter]
    by_cases same : taskId.toNat = slot.val
    · rw [if_pos same]
      cases watch with
      | none =>
        have inactive : ¬ (mgr.tasks slot).active = true :=
          fun active => absurd (active.symm.trans watched) (by decide)
        rw [if_neg (fun both => inactive both.2)]
        exact watched
      | some kept =>
        rw [if_pos ⟨same, watched.1⟩]
        exact ⟨watched.1, watched.2.1, rfl⟩
    · rw [if_neg same, if_neg (fun both => same both.1)]
      exact watched
  | kick now timerMs =>
    dsimp only [entryAfter, watchAfter]
    split
    · exact watched.checked now
    · exact watched

/-! ### Runs under watch -/

/-- The manager with the watches over its tasks, for each the number of checks that have come early
since the task was last heard, and the time of the last call. -/
structure WatchedRun where
  mgr : WatchdogMgr
  watches : WdtSlot → Option Watch
  earlyChecks : WdtSlot → Nat
  clockMs : Nat

/-- The early checks of a slot after a call. A check comes with a kick when an interval has passed
since the last one. -/
def earlyChecksAfter (run : WatchedRun) (slot : WdtSlot) : WdtEvent → Nat
  | .registerTask taskId _ expectedPeriodMs _ =>
    if taskId.toNat = slot.val ∧ expectedPeriodMs ≠ 0 then 0 else run.earlyChecks slot
  | .checkin taskId _ => if taskId.toNat = slot.val then 0 else run.earlyChecks slot
  | .kick now _ =>
    if run.mgr.checkDue now = true ∧
        ((run.watches slot).any fun watch => watch.early now.toNat) = true then
      run.earlyChecks slot + 1
    else run.earlyChecks slot
  | .start _ _ => run.earlyChecks slot
  | .unregisterTask _ => run.earlyChecks slot

/-- The run that begins after `wdt_mgr_init`. -/
def WatchedRun.initial (boot : WatchdogMgr) : WatchedRun :=
  ⟨(wdtMgrInit boot).1, fun _ => none, fun _ => 0, 0⟩

section

variable [CLayout FaultRecord]

theorem wdtEvent_tasks {mgr : WatchdogMgr} (initialized : mgr.initialized = true) (event : WdtEvent)
    (slot : WdtSlot) : (wdtEvent mgr event).tasks slot = entryAfter mgr slot event := by
  cases event with
  | start now timerMs =>
    dsimp only [wdtEvent, wdtMgrStart, entryAfter]
    rw [if_pos initialized]
    split <;> rfl
  | registerTask taskId name expectedPeriodMs now =>
    exact wdtMgrRegisterTask_tasks mgr taskId name expectedPeriodMs now slot
  | unregisterTask taskId => exact wdtMgrUnregisterTask_tasks mgr taskId slot
  | checkin taskId now => exact wdtMgrCheckin_tasks mgr taskId now slot
  | kick now timerMs => exact wdtMgrKick_tasks initialized now timerMs slot

def watchedEvent (run : WatchedRun) (event : WdtEvent) : WatchedRun where
  mgr := wdtEvent run.mgr event
  watches slot := watchAfter slot (run.watches slot) event
  earlyChecks slot := earlyChecksAfter run slot event
  clockMs := (event.now.map UInt64.toNat).getD run.clockMs

/-- The manager is initialized, and its entries are those of the tasks under watch. -/
structure Tracks (run : WatchedRun) : Prop where
  initialized : run.mgr.initialized = true
  watched : ∀ slot, (run.mgr.tasks slot).Watched (run.watches slot)

omit [CLayout FaultRecord] in
theorem tracks_initial (boot : WatchdogMgr) : Tracks (WatchedRun.initial boot) where
  initialized := initialized_wdtMgrInit boot
  watched _ := rfl

omit [CLayout FaultRecord] in
theorem Tracks.watched_some {run : WatchedRun} (tracks : Tracks run) {slot : WdtSlot}
    {watch : Watch} (watching : run.watches slot = some watch) :
    (run.mgr.tasks slot).Watched (some watch) := by
  rw [← watching]
  exact tracks.watched slot

/-- What a call does to a task that is under watch after it: the task was heard or registered,
nothing was done to it, or it was checked. -/
inductive WatchStep (run : WatchedRun) (slot : WdtSlot) (watch : Watch) (event : WdtEvent) : Prop
  | heard (now : UInt64) (atNow : event.now = some now) (heardNow : watch.heardMs = now.toNat)
      (unstalled : (entryAfter run.mgr slot event).stalled = false)
      (unmissed : (entryAfter run.mgr slot event).missCount = 0)
      (noEarly : earlyChecksAfter run slot event = 0)
  | kept (before : run.watches slot = some watch)
      (sameEntry : entryAfter run.mgr slot event = run.mgr.tasks slot)
      (sameEarly : earlyChecksAfter run slot event = run.earlyChecks slot)
  | checked (now timerMs : UInt64) (isKick : event = .kick now timerMs)
      (due : run.mgr.checkDue now = true) (before : run.watches slot = some watch)

omit [CLayout FaultRecord] in
theorem Tracks.watchStep {run : WatchedRun} (tracks : Tracks run) {slot : WdtSlot} {watch : Watch}
    {event : WdtEvent} (watching : watchAfter slot (run.watches slot) event = some watch) :
    WatchStep run slot watch event := by
  cases event with
  | start now timerMs => exact .kept watching rfl rfl
  | registerTask taskId name expectedPeriodMs now =>
    by_cases here : taskId.toNat = slot.val ∧ expectedPeriodMs ≠ 0
    · have entry : entryAfter run.mgr slot (.registerTask taskId name expectedPeriodMs now) =
          registeredEntry name expectedPeriodMs now := if_pos here
      rw [watchAfter, if_pos here] at watching
      cases watching
      exact .heard now rfl rfl (by rw [entry]; rfl) (by rw [entry]; rfl) (if_pos here)
    · rw [watchAfter, if_neg here] at watching
      exact .kept watching (if_neg here) (if_neg here)
  | unregisterTask taskId =>
    by_cases here : taskId.toNat = slot.val
    · rw [watchAfter, if_pos here] at watching
      cases watching
    · rw [watchAfter, if_neg here] at watching
      exact .kept watching (if_neg here) rfl
  | checkin taskId now =>
    by_cases here : taskId.toNat = slot.val
    · rw [watchAfter, if_pos here] at watching
      obtain ⟨before, found, rfl⟩ := Option.map_eq_some_iff.mp watching
      have entry : entryAfter run.mgr slot (.checkin taskId now) =
          (run.mgr.tasks slot).heard now := if_pos ⟨here, (tracks.watched_some found).1⟩
      exact .heard now rfl rfl (by rw [entry]; rfl) (by rw [entry]; rfl) (if_pos here)
    · rw [watchAfter, if_neg here] at watching
      exact .kept watching (if_neg fun both => here both.1) (if_neg here)
  | kick now timerMs =>
    by_cases due : run.mgr.checkDue now = true
    · exact .checked now timerMs rfl due watching
    · exact .kept watching (if_neg due) (if_neg fun both => due both.1)

omit [CLayout FaultRecord] in
theorem Tracks.inactive {run : WatchedRun} (tracks : Tracks run) {slot : WdtSlot}
    (unwatched : run.watches slot = none) : (run.mgr.tasks slot).active = false := by
  have watched := tracks.watched slot
  rw [unwatched] at watched
  exact watched

theorem Tracks.event {run : WatchedRun} (tracks : Tracks run) (event : WdtEvent) :
    Tracks (watchedEvent run event) where
  initialized := initialized_wdtEvent run.mgr event tracks.initialized
  watched slot := by
    dsimp only [watchedEvent]
    rw [wdtEvent_tasks tracks.initialized]
    exact entryAfter_watched (tracks.watched slot) event

/-- A task that becomes stalled has been silent for three periods. -/
def StallsLate (run : WatchedRun) (event : WdtEvent) : Prop :=
  ∀ slot, (run.mgr.tasks slot).stalled = false →
    ((wdtEvent run.mgr event).tasks slot).active = true →
    ((wdtEvent run.mgr event).tasks slot).stalled = true →
      ∃ now watch, event.now = some now ∧ run.watches slot = some watch ∧
        watch.silentThrice now.toNat

/-- A check that finds a task overdue for the third time in a row comes three periods after the task
was last heard. -/
def LateThirdMiss (run : WatchedRun) : WdtEvent → Prop
  | .kick now _ => run.mgr.checkDue now = true → ∀ slot watch, run.watches slot = some watch →
      (run.mgr.tasks slot).thirdMiss now = true → watch.silentThrice now.toNat
  | _ => True

theorem stallsLate_iff_lateThirdMiss (run : WatchedRun) (event : WdtEvent) (tracks : Tracks run) :
    StallsLate run event ↔ LateThirdMiss run event := by
  unfold StallsLate
  simp only [wdtEvent_tasks tracks.initialized]
  constructor
  · intro late
    cases event with
    | kick now timerMs =>
      intro due slot watch watching third
      obtain ⟨active, unstalled, -, -⟩ := thirdMiss_iff.mp third
      rw [← checked_active _ now, ← entryAfter_kick due timerMs slot] at active
      obtain ⟨_, _, ⟨⟩, found, silent⟩ := late slot unstalled active
        ((entryAfter_stalled_iff unstalled _).mpr ⟨now, timerMs, rfl, due, third⟩)
      rw [watching] at found
      cases found
      exact silent
    | _ => trivial
  · intro condition slot unstalled active stalled
    obtain ⟨now, timerMs, rfl, due, third⟩ := (entryAfter_stalled_iff unstalled event).mp stalled
    cases watching : run.watches slot with
    | none =>
      exact absurd ((tracks.inactive watching).symm.trans (thirdMiss_iff.mp third).1)
        Bool.false_ne_true
    | some watch => exact ⟨now, watch, rfl, rfl, condition due slot watch watching third⟩

end

end SmartQso
