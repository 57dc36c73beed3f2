/-
This file compares the two queries for stalled tasks. One asks for active tasks, the other
looks at the flag of an entry only, and unregistering a task leaves its flag set. So the
queries agree exactly in the runs in which some active task is stalled whenever a flag is
left behind.
-/

import SmartQso.WatchdogWatches

namespace SmartQso

open Runs

/-! ### The queries -/

/-- `wdt_mgr_is_task_stalled`. -/
def wdtMgrIsTaskStalled (mgr : WatchdogMgr) (taskId : UInt32) : Bool :=
  if inRange : taskId.toNat < 8 then (mgr.tasks ⟨taskId.toNat, inRange⟩).stalled else false

/-- Some task is stalled exactly when one of them is said to be. -/
def QueriesAgree (mgr : WatchdogMgr) : Prop :=
  wdtMgrAnyTaskStalled mgr = true ↔ ∃ taskId, wdtMgrIsTaskStalled mgr taskId = true

/-- An active task that is stalled. -/
def WdtTaskEntry.Alarmed (entry : WdtTaskEntry) : Prop :=
  entry.active = true ∧ entry.stalled = true

/-- The flag of a stalled task that is not active any more. -/
def WdtTaskEntry.Abandoned (entry : WdtTaskEntry) : Prop :=
  entry.active = false ∧ entry.stalled = true

theorem wdtMgrAnyTaskStalled_iff (mgr : WatchdogMgr) :
    wdtMgrAnyTaskStalled mgr = true ↔ ∃ slot, (mgr.tasks slot).Alarmed := by
  unfold wdtMgrAnyTaskStalled WdtTaskEntry.Alarmed
  simp only [List.any_eq_true, List.mem_finRange, true_and, Bool.and_eq_true]

theorem wdtMgrIsTaskStalled_iff (mgr : WatchdogMgr) :
    (∃ taskId, wdtMgrIsTaskStalled mgr taskId = true) ↔
      ∃ slot, (mgr.tasks slot).stalled = true := by
  constructor
  · rintro ⟨taskId, stalled⟩
    unfold wdtMgrIsTaskStalled at stalled
    split at stalled
    case isTrue inRange => exact ⟨_, stalled⟩
    case isFalse => cases stalled
  · rintro ⟨slot, stalled⟩
    have number : (UInt32.ofNat slot.val).toNat = slot.val :=
      UInt32.toNat_ofNat_of_lt' (Nat.lt_of_lt_of_le slot.isLt (by decide))
    refine ⟨UInt32.ofNat slot.val, ?_⟩
    unfold wdtMgrIsTaskStalled
    have inRange : (UInt32.ofNat slot.val).toNat < 8 := number.trans_lt slot.isLt
    rw [dif_pos inRange, show (⟨_, inRange⟩ : WdtSlot) = slot from Fin.ext number]
    exact stalled

/-- The queries agree when no flag is left behind unless some active task is stalled. -/
theorem queriesAgree_iff_abandoned (mgr : WatchdogMgr) :
    QueriesAgree mgr ↔
      ((∃ slot, (mgr.tasks slot).Abandoned) → ∃ slot, (mgr.tasks slot).Alarmed) := by
  unfold QueriesAgree
  rw [wdtMgrAnyTaskStalled_iff, wdtMgrIsTaskStalled_iff]
  constructor
  · rintro agree ⟨slot, -, stalled⟩
    exact agree.mpr ⟨slot, stalled⟩
  · refine fun masked => ⟨fun ⟨slot, alarmed⟩ => ⟨slot, alarmed.2⟩, ?_⟩
    rintro ⟨slot, stalled⟩
    cases active : (mgr.tasks slot).active with
    | true => exact ⟨slot, active, stalled⟩
    | false => exact masked ⟨slot, active, stalled⟩

/-! ### What a call leaves behind -/

/-- The call leaves the flag of the slot behind: it unregisters a stalled task, or does not register
the slot of a flag that was left before. -/
def Abandons (mgr : WatchdogMgr) (slot : WdtSlot) : WdtEvent → Prop
  | .registerTask taskId _ expectedPeriodMs _ =>
    (mgr.tasks slot).Abandoned ∧ ¬ (taskId.toNat = slot.val ∧ expectedPeriodMs ≠ 0)
  | .unregisterTask taskId =>
    (mgr.tasks slot).stalled = true ∧
      (taskId.toNat = slot.val ∨ (mgr.tasks slot).active = false)
  | _ => (mgr.tasks slot).Abandoned

/-- The active task of the slot is stalled after the call: it was before, and the call is not about
it, or it does not pass the check that the call runs. -/
def StaysAlarmed (mgr : WatchdogMgr) (slot : WdtSlot) : WdtEvent → Prop
  | .start _ _ => (mgr.tasks slot).Alarmed
  | .registerTask taskId _ expectedPeriodMs _ =>
    (mgr.tasks slot).Alarmed ∧ ¬ (taskId.toNat = slot.val ∧ expectedPeriodMs ≠ 0)
  | .unregisterTask taskId => (mgr.tasks slot).Alarmed ∧ taskId.toNat ≠ slot.val
  | .checkin taskId _ => (mgr.tasks slot).Alarmed ∧ taskId.toNat ≠ slot.val
  | .kick now _ =>
    (mgr.tasks slot).active = true ∧ ¬ (mgr.tasks slot).PassesCheck (mgr.checkDue now) now

/-- A call leaves a flag behind only while some active task stays stalled. -/
def MasksAbandoned (mgr : WatchdogMgr) (event : WdtEvent) : Prop :=
  (∃ slot, Abandons mgr slot event) → ∃ slot, StaysAlarmed mgr slot event

/-- A check does nothing to a slot that is not active. -/
theorem checked_abandoned_iff (entry : WdtTaskEntry) (now : UInt64) :
    (entry.checked now).Abandoned ↔ entry.Abandoned := by
  unfold WdtTaskEntry.Abandoned
  rw [checked_active]
  refine and_congr_right fun inactive => ?_
  unfold WdtTaskEntry.checked
  rw [inactive, Bool.not_false, if_pos rfl]

theorem checked_alarmed_iff (entry : WdtTaskEntry) (now : UInt64) :
    (entry.checked now).Alarmed ↔ entry.active = true ∧ ¬ entry.PassesCheck true now := by
  unfold WdtTaskEntry.Alarmed
  rw [checked_active]
  refine and_congr_right fun active => ?_
  rw [← checked_stalled_iff active, Bool.not_eq_false]

theorem entryAfter_abandoned_iff (mgr : WatchdogMgr) (slot : WdtSlot) (event : WdtEvent) :
    (entryAfter mgr slot event).Abandoned ↔ Abandons mgr slot event := by
  cases event with
  | start now timerMs => exact Iff.rfl
  | registerTask taskId name expectedPeriodMs now =>
    dsimp only [entryAfter, Abandons]
    split
    case isTrue here => exact iff_of_false (fun left => by cases left.1) fun both => both.2 here
    case isFalse elsewhere => exact (and_iff_left elsewhere).symm
  | unregisterTask taskId =>
    dsimp only [entryAfter, Abandons, WdtTaskEntry.Abandoned]
    split
    case isTrue here =>
      exact ⟨fun left => ⟨left.2, Or.inl here⟩, fun leaves => ⟨rfl, leaves.1⟩⟩
    case isFalse elsewhere =>
      rw [or_iff_right elsewhere, and_comm]
  | checkin taskId now =>
    dsimp only [entryAfter, Abandons]
    split
    case isTrue here =>
      refine iff_of_false (fun left => ?_) fun left => ?_
      · exact Bool.false_ne_true left.2
      · exact Bool.false_ne_true (left.1.symm.trans here.2)
    case isFalse => exact Iff.rfl
  | kick now timerMs =>
    dsimp only [entryAfter, Abandons]
    split
    · exact checked_abandoned_iff _ now
    · exact Iff.rfl

theorem entryAfter_alarmed_iff (mgr : WatchdogMgr) (slot : WdtSlot) (event : WdtEvent) :
    (entryAfter mgr slot event).Alarmed ↔ StaysAlarmed mgr slot event := by
  cases event with
  | start now timerMs => exact Iff.rfl
  | registerTask taskId name expectedPeriodMs now =>
    dsimp only [entryAfter, StaysAlarmed]
    split
    case isTrue here => exact iff_of_false (fun left => by cases left.2) fun both => both.2 here
    case isFalse elsewhere => exact (and_iff_left elsewhere).symm
  | unregisterTask taskId =>
    dsimp only [entryAfter, StaysAlarmed]
    split
    case isTrue here => exact iff_of_false (fun left => by cases left.1) fun both => both.2 here
    case isFalse elsewhere => exact (and_iff_left elsewhere).symm
  | checkin taskId now =>
    dsimp only [entryAfter, StaysAlarmed]
    split
    case isTrue here => exact iff_of_false (fun left => by cases left.2) fun both => both.2 here.1
    case isFalse elsewhere =>
      refine ⟨fun alarmed => ⟨alarmed, fun here => elsewhere ⟨here, alarmed.1⟩⟩, And.left⟩
  | kick now timerMs =>
    dsimp only [entryAfter, StaysAlarmed]
    cases mgr.checkDue now with
    | true => exact checked_alarmed_iff _ now
    | false =>
      unfold WdtTaskEntry.Alarmed WdtTaskEntry.PassesCheck
      rw [if_neg Bool.false_ne_true, if_neg Bool.false_ne_true, Bool.not_eq_false]

/-! ### Runs -/

theorem queriesAgree_wdtMgrInit (boot : WatchdogMgr) : QueriesAgree (wdtMgrInit boot).1 := by
  rw [queriesAgree_iff_abandoned]
  rintro ⟨slot, -, stalled⟩
  cases stalled

/-- The call unregisters no stalled task. -/
def UnregistersHealthy (mgr : WatchdogMgr) (event : WdtEvent) : Prop :=
  ∀ taskId, event = .unregisterTask taskId → wdtMgrIsTaskStalled mgr taskId = false

/-- Then no flag is left behind. -/
theorem not_abandons_of_healthy {mgr : WatchdogMgr} {event : WdtEvent}
    (none : ∀ slot, ¬ (mgr.tasks slot).Abandoned) (healthy : UnregistersHealthy mgr event)
    (slot : WdtSlot) : ¬ Abandons mgr slot event := by
  intro abandons
  cases event with
  | registerTask taskId name expectedPeriodMs now => exact none slot abandons.1
  | unregisterTask taskId =>
    obtain ⟨stalled, here | inactive⟩ := abandons
    · have inRange : taskId.toNat < 8 := here.trans_lt slot.isLt
      have unstalled := healthy taskId rfl
      unfold wdtMgrIsTaskStalled at unstalled
      rw [dif_pos inRange, show (⟨_, inRange⟩ : WdtSlot) = slot from Fin.ext here, stalled]
        at unstalled
      cases unstalled
    · exact none slot ⟨inactive, stalled⟩
  | _ => exact none slot abandons

section

variable [CLayout FaultRecord]

theorem queriesAgree_event_iff {mgr : WatchdogMgr} (initialized : mgr.initialized = true)
    (event : WdtEvent) : QueriesAgree (wdtEvent mgr event) ↔ MasksAbandoned mgr event := by
  rw [queriesAgree_iff_abandoned]
  unfold MasksAbandoned
  simp only [wdtEvent_tasks initialized, entryAfter_abandoned_iff, entryAfter_alarmed_iff]

/-- In a run from the initialization on, whatever the times, the queries agree in every state
exactly when every call that leaves the flag of a stalled task behind leaves an active task
stalled. -/
theorem queriesAgree_iff (boot : WatchdogMgr) (events : List WdtEvent) :
    Throughout wdtEvent QueriesAgree (wdtMgrInit boot).1 events ↔
      EachStep wdtEvent MasksAbandoned (wdtMgrInit boot).1 events :=
  @throughout_iff_eachStep _ _ wdtEvent QueriesAgree
    (fun mgr => mgr.initialized = true ∧ QueriesAgree mgr) MasksAbandoned
    (fun _ reached => reached.2)
    (fun _ event reached => queriesAgree_event_iff reached.1 event)
    (fun mgr event reached masks => ⟨initialized_wdtEvent mgr event reached.1,
      (queriesAgree_event_iff reached.1 event).mpr masks⟩)
    _ ⟨initialized_wdtMgrInit boot, queriesAgree_wdtMgrInit boot⟩ events

/-- When no stalled task is ever unregistered, the queries always agree. -/
theorem queriesAgree_of_healthy (boot : WatchdogMgr) (events : List WdtEvent)
    (healthy : EachStep wdtEvent UnregistersHealthy (wdtMgrInit boot).1 events) :
    Throughout wdtEvent QueriesAgree (wdtMgrInit boot).1 events := by
  have kept := @throughout_of_invariant _ _ wdtEvent
    (fun mgr => mgr.initialized = true ∧ ∀ slot, ¬ (mgr.tasks slot).Abandoned) UnregistersHealthy
    (fun mgr event before step => ⟨initialized_wdtEvent mgr event before.1, fun slot => by
      rw [wdtEvent_tasks before.1, entryAfter_abandoned_iff]
      exact not_abandons_of_healthy before.2 step slot⟩)
    (wdtMgrInit boot).1 ⟨initialized_wdtMgrInit boot, fun _ left => by cases left.2⟩ events healthy
  refine kept.mono fun mgr reached => (queriesAgree_iff_abandoned mgr).mpr ?_
  rintro ⟨slot, left⟩
  exact absurd left (reached.2 slot)

end

/-- A task that never checks in is unregistered after it has been stalled. -/
theorem queriesAgree_fails :
    letI := CLayout.blank FaultRecord
    ¬ ∀ (boot : WatchdogMgr) (events : List WdtEvent),
      Throughout wdtEvent QueriesAgree (wdtMgrInit boot).1 events := by
  let := CLayout.blank FaultRecord
  intro claimed
  have agree := (claimed
    ⟨fun _ => WdtTaskEntry.clear, ⟨0, 0, 0, 0, 0, 0, false⟩, 0, false, ⟨0, false, false, 0⟩,
      ⟨FaultLog.empty, none, false⟩⟩
    [.registerTask 0 "eps" 100 0, .kick 1000 1000, .kick 2000 2000, .kick 3000 3000,
      .unregisterTask 0]).finish
  have missed := agree.mpr ⟨0, by decide +kernel⟩
  revert missed
  decide +kernel

end SmartQso
