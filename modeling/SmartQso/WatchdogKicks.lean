/-
This file settles when the hardware watchdog is kicked. The design lets a kick through
only if all software checks pass. The code kicks first and checks afterwards, so a
stalled task never keeps a kick back: kicks and checks agree exactly in the runs in which
no task has stalled when a kick is made.
-/

import SmartQso.Runs
import SmartQso.WatchdogMgr

namespace SmartQso

open Runs

/-! ### An entry under the check -/

/-- The task is not stalled, and a check at this time would not find it so. -/
def WdtTaskEntry.PassesCheck (entry : WdtTaskEntry) (checked : Bool) (now : UInt64) : Prop :=
  if checked = true then
    entry.overdue now = true → entry.stalled = false ∧ entry.missCount + 1 < wdtTaskMissThreshold
  else entry.stalled = false

/-- An entry after the check. -/
def WdtTaskEntry.checked (entry : WdtTaskEntry) (now : UInt64) : WdtTaskEntry :=
  if !entry.active then entry
  else if entry.overdue now then
    { entry with
      missCount := entry.missCount + 1
      stalled := entry.stalled || decide (entry.missCount + 1 ≥ wdtTaskMissThreshold) }
  else { entry with missCount := 0, stalled := false }

/-- The check leaves an active task unstalled exactly when the task passes it. -/
theorem checked_stalled_iff {entry : WdtTaskEntry} (active : entry.active = true) (now : UInt64) :
    (entry.checked now).stalled = false ↔ entry.PassesCheck true now := by
  unfold WdtTaskEntry.checked WdtTaskEntry.PassesCheck
  rw [active, if_pos rfl]
  cases entry.overdue now with
  | true =>
    simp only [Bool.not_true, Bool.false_eq_true, if_false, if_true, Bool.or_eq_false_iff,
      decide_eq_false_iff_not, forall_true_left, ge_iff_le, UInt32.not_le]
  | false => simp

theorem checked_active (entry : WdtTaskEntry) (now : UInt64) :
    (entry.checked now).active = entry.active := by
  unfold WdtTaskEntry.checked
  split
  · rfl
  · split <;> rfl

theorem wdtMgrAnyTaskStalled_eq_false_iff (mgr : WatchdogMgr) :
    wdtMgrAnyTaskStalled mgr = false ↔
      ∀ slot, (mgr.tasks slot).active = true → (mgr.tasks slot).stalled = false := by
  unfold wdtMgrAnyTaskStalled
  simp only [List.any_eq_false, List.mem_finRange, Bool.and_eq_true, not_and,
    Bool.not_eq_true, forall_true_left]

/-! ### Runs of the watchdog manager -/

/-- A call of the watchdog manager, with the times it reads. -/
inductive WdtEvent
  | start (now timerMs : UInt64)
  | registerTask (taskId : UInt32) (name : String) (expectedPeriodMs : UInt32) (now : UInt64)
  | unregisterTask (taskId : UInt32)
  | checkin (taskId : UInt32) (now : UInt64)
  | kick (now timerMs : UInt64)

/-- The mission time that a call reads. -/
def WdtEvent.now : WdtEvent → Option UInt64
  | .start now _ => some now
  | .registerTask _ _ _ now => some now
  | .unregisterTask _ => none
  | .checkin _ now => some now
  | .kick now _ => some now

theorem initialized_wdtMgrInit (mgr : WatchdogMgr) : (wdtMgrInit mgr).1.initialized = true := by
  have answers : halWdtInit mgr.hal wdtHwTimeoutMs =
      ({ mgr.hal with timeoutMs := wdtHwTimeoutMs, initialized := true }, .ok) := rfl
  unfold wdtMgrInit
  rw [answers]
  dsimp only
  rw [if_pos rfl]

section

variable [CLayout FaultRecord]

def wdtEvent (mgr : WatchdogMgr) : WdtEvent → WatchdogMgr
  | .start now timerMs => (wdtMgrStart mgr now timerMs).1
  | .registerTask taskId name expectedPeriodMs now =>
    (wdtMgrRegisterTask mgr taskId name expectedPeriodMs now).1
  | .unregisterTask taskId => (wdtMgrUnregisterTask mgr taskId).1
  | .checkin taskId now => (wdtMgrCheckin mgr taskId now).1
  | .kick now timerMs => (wdtMgrKick mgr now timerMs).1

/-- A kick that reaches the hardware finds no active task stalled, after the check that was due. -/
def KicksHealthy (mgr : WatchdogMgr) : WdtEvent → Prop
  | .kick now timerMs => (wdtMgrKick mgr now timerMs).2 = true →
      wdtMgrAnyTaskStalled (wdtMgrKick mgr now timerMs).1 = false
  | _ => True

/-- When a kick is made, all active tasks pass the software check. -/
def HealthyBeforeKick (mgr : WatchdogMgr) : WdtEvent → Prop
  | .kick now _ => ∀ slot, (mgr.tasks slot).active = true →
      (mgr.tasks slot).PassesCheck (mgr.checkDue now) now
  | _ => True

/-! ### What a check leaves -/

theorem checkTask_tasks (now : UInt64) (mgr : WatchdogMgr) (slot : WdtSlot) :
    (checkTask now mgr slot).tasks =
      Function.update mgr.tasks slot ((mgr.tasks slot).checked now) := by
  unfold checkTask WdtTaskEntry.checked
  dsimp only
  split
  · exact (Function.update_eq_self slot mgr.tasks).symm
  split
  · split
    case isTrue newly =>
      simp only [Bool.and_eq_true, Bool.not_eq_true'] at newly
      rw [newly.1, Bool.or_true]
      rfl
    case isFalse before =>
      have same : ((mgr.tasks slot).stalled ||
          decide ((mgr.tasks slot).missCount + 1 ≥ wdtTaskMissThreshold)) =
          (mgr.tasks slot).stalled := by
        cases stalled : (mgr.tasks slot).stalled with
        | true => rfl
        | false =>
          rw [stalled, Bool.not_false, Bool.and_true] at before
          rw [Bool.false_or]
          exact eq_false_of_ne_true before
      rw [same]
      rfl
  · rfl

/-- The check goes over every task once. -/
theorem foldl_checkTask_tasks (now : UInt64) (slots : List WdtSlot) (once : slots.Nodup)
    (mgr : WatchdogMgr) (slot : WdtSlot) :
    (slots.foldl (checkTask now) mgr).tasks slot =
      if slot ∈ slots then (mgr.tasks slot).checked now else mgr.tasks slot := by
  induction slots generalizing mgr with
  | nil => rfl
  | cons next rest inductionHypothesis =>
    obtain ⟨absent, restOnce⟩ := List.nodup_cons.mp once
    rw [List.foldl_cons, inductionHypothesis restOnce, checkTask_tasks]
    by_cases here : slot = next
    · rw [here, if_neg absent, if_pos List.mem_cons_self, Function.update_self]
    · rw [Function.update_of_ne here]
      simp only [List.mem_cons, here, false_or]

theorem checkTaskWatchdogs_tasks (mgr : WatchdogMgr) (now : UInt64) (slot : WdtSlot) :
    (checkTaskWatchdogs mgr now).tasks slot = (mgr.tasks slot).checked now := by
  unfold checkTaskWatchdogs
  dsimp only
  rw [foldl_checkTask_tasks now _ (List.nodup_finRange 8), if_pos (List.mem_finRange slot)]

theorem foldl_checkTask_initialized (now : UInt64) (slots : List WdtSlot) (mgr : WatchdogMgr) :
    (slots.foldl (checkTask now) mgr).initialized = mgr.initialized := by
  induction slots generalizing mgr with
  | nil => rfl
  | cons next rest inductionHypothesis =>
    rw [List.foldl_cons, inductionHypothesis]
    unfold checkTask
    dsimp only
    split
    · rfl
    split
    · split <;> rfl
    · rfl

/-! ### Kicks and checks -/

theorem wdtMgrKick_tasks {mgr : WatchdogMgr} (initialized : mgr.initialized = true)
    (now timerMs : UInt64) (slot : WdtSlot) :
    (wdtMgrKick mgr now timerMs).1.tasks slot =
      if mgr.checkDue now then (mgr.tasks slot).checked now else mgr.tasks slot := by
  unfold wdtMgrKick
  rw [if_pos initialized]
  dsimp only
  split
  · exact checkTaskWatchdogs_tasks _ now slot
  · rfl

/-- A kick of an initialized manager always reaches the hardware. -/
theorem wdtMgrKick_kicks (mgr : WatchdogMgr) (now timerMs : UInt64) :
    (wdtMgrKick mgr now timerMs).2 = mgr.initialized := by
  unfold wdtMgrKick
  by_cases initialized : mgr.initialized = true
  · rw [if_pos initialized, initialized]
    dsimp only
    split <;> rfl
  · rw [if_neg initialized]
    exact (eq_false_of_ne_true initialized).symm

/-- A call kicks only for healthy tasks exactly when the tasks pass the check before it. -/
theorem kicksHealthy_iff_healthyBeforeKick (mgr : WatchdogMgr) (event : WdtEvent)
    (initialized : mgr.initialized = true) :
    KicksHealthy mgr event ↔ HealthyBeforeKick mgr event := by
  cases event with
  | kick now timerMs =>
    dsimp only [KicksHealthy, HealthyBeforeKick]
    rw [wdtMgrKick_kicks, forall_prop_of_true initialized, wdtMgrAnyTaskStalled_eq_false_iff]
    refine forall_congr' fun slot => ?_
    rw [wdtMgrKick_tasks initialized]
    cases mgr.checkDue now with
    | true =>
      rw [if_pos rfl, checked_active]
      exact forall_congr' fun active => checked_stalled_iff active now
    | false => exact Iff.rfl
  | _ => exact Iff.rfl

theorem initialized_wdtEvent (mgr : WatchdogMgr) (event : WdtEvent)
    (initialized : mgr.initialized = true) : (wdtEvent mgr event).initialized = true := by
  cases event with
  | start now timerMs =>
    dsimp only [wdtEvent, wdtMgrStart]
    rw [if_pos initialized]
    split <;> exact initialized
  | registerTask taskId name expectedPeriodMs now =>
    dsimp only [wdtEvent, wdtMgrRegisterTask]
    split
    · split <;> exact initialized
    · exact initialized
  | unregisterTask taskId =>
    dsimp only [wdtEvent, wdtMgrUnregisterTask]
    split <;> exact initialized
  | checkin taskId now =>
    dsimp only [wdtEvent, wdtMgrCheckin]
    split
    · split <;> exact initialized
    · exact initialized
  | kick now timerMs =>
    dsimp only [wdtEvent, wdtMgrKick]
    rw [if_pos initialized]
    split
    · exact (foldl_checkTask_initialized now (List.finRange 8) _).trans initialized
    · exact initialized

/-- In a run from the initialization on, whatever the times, the hardware watchdog is kicked only
for healthy tasks exactly when at every kick all active tasks pass the check. -/
theorem kicksHealthy_iff (boot : WatchdogMgr) (events : List WdtEvent) :
    EachStep wdtEvent KicksHealthy (wdtMgrInit boot).1 events ↔
      EachStep wdtEvent HealthyBeforeKick (wdtMgrInit boot).1 events :=
  eachStep_iff_of_invariant
    (fun mgr event initialized _ => initialized_wdtEvent mgr event initialized)
    kicksHealthy_iff_healthyBeforeKick (initialized_wdtMgrInit boot) events

end

/-- A task of a period of a tenth of a second that never checks in is stalled at the third check,
and the hardware watchdog is kicked all the same. -/
theorem kicksHealthy_fails :
    letI := CLayout.blank FaultRecord
    ¬ ∀ (boot : WatchdogMgr) (events : List WdtEvent),
      (events.filterMap WdtEvent.now).Pairwise (· ≤ ·) →
        EachStep wdtEvent KicksHealthy (wdtMgrInit boot).1 events := by
  let := CLayout.blank FaultRecord
  intro claimed
  have kicks := claimed
    ⟨fun _ => WdtTaskEntry.clear, ⟨0, 0, 0, 0, 0, 0, false⟩, 0, false, ⟨0, false, false, 0⟩,
      ⟨FaultLog.empty, none, false⟩⟩
    [.registerTask 0 "eps" 100 0, .kick 1000 1000, .kick 2000 2000, .kick 3000 3000] (by decide)
  have third := kicks.2.2.2.1 rfl
  cases third

end SmartQso
