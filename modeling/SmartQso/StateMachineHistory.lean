/-
This file proves that the state machine keeps its books. A run of events and forced
changes is followed together with the states it has left; the counter is their
number, the previous state is the last of them, an event that the table does not
list changes nothing, and the query for a valid transition predicts what an event
does.
-/

import Mathlib.Algebra.Group.Nat.Defs
import Mathlib.Data.List.Nodup
import SmartQso.Runs
import SmartQso.StateMachine

namespace SmartQso

open Runs

/-! ### Numbers of events -/

theorem SmEvent.ofValue?_value (event : SmEvent) : SmEvent.ofValue? event.value = some event := by
  cases event <;> rfl

/-- The numbers from zero name the events, in order. -/
theorem SmEvent.ofValue?_eq_some_iff (value : UInt32) (event : SmEvent) :
    SmEvent.ofValue? value = some event ↔ event.value = value := by
  constructor
  · intro named
    have inside : value.toNat < smEvents.length := (List.getElem?_eq_some_iff.mp named).1
    have distinct : smEvents.Nodup := by decide
    have same : value.toNat = event.value.toNat :=
      (List.getElem?_inj inside distinct).mp (named.trans (SmEvent.ofValue?_value event).symm)
    exact (UInt32.toNat_inj.mp same).symm
  · intro same
    rw [← same, SmEvent.ofValue?_value]

/-- Looking up a number is looking up the event it names, and none for the others. -/
theorem findTransitionByValue_eq (state : SmState) (value : UInt32) :
    findTransitionByValue state value =
      (SmEvent.ofValue? value).bind fun event => findTransition state event := by
  cases known : SmEvent.ofValue? value with
  | none =>
    refine List.find?_eq_none.mpr fun transition _ matched => ?_
    have named : transition.event.value = value := (of_decide_eq_true matched).2
    rw [(SmEvent.ofValue?_eq_some_iff value transition.event).mpr named] at known
    exact Option.some_ne_none _ known
  | some event =>
    rw [Option.bind_some, findTransitionByValue, findTransition]
    congr 1
    funext transition
    have same := (SmEvent.ofValue?_eq_some_iff value event).mp known
    refine decide_eq_decide.mpr (and_congr_right fun _ => ?_)
    rw [← same]
    constructor
    · intro values
      have events := SmEvent.ofValue?_value transition.event
      rw [values, SmEvent.ofValue?_value] at events
      exact (Option.some.inj events).symm
    · exact fun events => congrArg SmEvent.value events

/-! ### Runs of the state machine -/

/-- A call that may change the operational state. -/
inductive SmCall
  | processEvent (event : UInt32) (now : UInt64)
  | forceState (newState : UInt32) (now : UInt64)

/-- The context and the fault log, with a ghost: the states that accepted transitions and forced
changes have left, the last one first. -/
structure SmHistory where
  context : SmContext
  faults : FaultMgmt
  left : List SmState

/-- An event is accepted: a transition is taken, whatever its action answers. -/
def SmResult.Accepted (result : Option SmResult) : Prop :=
  result = some .ok ∨ result = some .actionFailed

instance (result : Option SmResult) : Decidable (SmResult.Accepted result) :=
  inferInstanceAs (Decidable (_ ∨ _))

section

variable [CLayout FaultRecord]

/-- A call, with the state it leaves noted when it is accepted. -/
def smCall (history : SmHistory) : SmCall → SmHistory
  | .processEvent event now =>
    let processed := smProcessEvent history.context history.faults event now
    { context := processed.1
      faults := processed.2.1
      left :=
        if SmResult.Accepted processed.2.2 then history.context.currentState :: history.left
        else history.left }
  | .forceState newState now =>
    match smForceStateByValue history.context history.faults newState now with
    | some forced =>
      { context := forced.1
        faults := forced.2
        left := history.context.currentState :: history.left }
    | none => history

/-- An event takes the row that is found for its number, or leaves everything as it is. -/
theorem smProcessEvent_eq {context : SmContext} (initialized : context.isInitialized = true)
    (faults : FaultMgmt) (event : UInt32) (now : UInt64) :
    smProcessEvent context faults event now =
      match findTransitionByValue context.currentState event with
      | some row =>
        (context.enter row.toState now,
          faultLogAdd faults .modeChange .info (smGetStateName row.toState) 0 now, some .ok)
      | none =>
        (context, faults,
          some (if (SmEvent.ofValue? event).isSome then .noTransition else .invalidEvent)) := by
  rw [smProcessEvent, if_pos initialized, findTransitionByValue_eq]
  cases SmEvent.ofValue? event with
  | none => rfl
  | some named =>
    rw [Option.bind_some]
    dsimp only
    cases found : findTransition context.currentState named with
    | none => rfl
    | some row =>
      have listed : row ∈ transitions := List.mem_of_find?_eq_some found
      dsimp only
      rw [if_pos (transition_unguarded listed), takeTransition_eq context faults listed now]

/-- The first row of the table for a state and the number of an event. -/
def FirstRow (state : SmState) (event : UInt32) (row : SmTransition) : Prop :=
  ∃ before after, transitions = before ++ row :: after ∧
    (row.fromState = state ∧ row.event.value = event) ∧
      ∀ earlier ∈ before, ¬ (earlier.fromState = state ∧ earlier.event.value = event)

/-- What each event would do next is known: nothing without a row of the table, and otherwise the
transition of the first row, as `sm_is_transition_valid` says. -/
structure Predictable (context : SmContext) (faults : FaultMgmt) : Prop where
  unlisted : ∀ (event : UInt32) (now : UInt64),
    (∀ row ∈ transitions, ¬ (row.fromState = context.currentState ∧ row.event.value = event)) →
      (smProcessEvent context faults event now).1 = context
  predicted : ∀ (event : UInt32) (now : UInt64),
    smIsTransitionValid context event = some true ↔
      SmResult.Accepted (smProcessEvent context faults event now).2.2
  target : ∀ (event : UInt32) (now : UInt64),
    SmResult.Accepted (smProcessEvent context faults event now).2.2 →
      ∃ row, FirstRow context.currentState event row ∧
        (smProcessEvent context faults event now).1.currentState = row.toState ∧
        (smProcessEvent context faults event now).1 = context.enter row.toState now

/-- The books of a state machine that was started in a given state. -/
structure Kept (initial : SmState) (history : SmHistory) : Prop where
  counted : history.context.transitionCount.toNat = history.left.length % 2 ^ 32
  previous : history.context.previousState = history.left.headD initial
  reported : smGetStatistics history.context =
    some (history.context.transitionCount, history.context.previousState)
  predictable : Predictable history.context history.faults

/-! ### Each call -/

omit [CLayout FaultRecord] in
/-- The row that is found is the first one that matches. -/
theorem firstRow_of_found {state : SmState} {event : UInt32} {row : SmTransition}
    (found : findTransitionByValue state event = some row) : FirstRow state event row := by
  obtain ⟨matched, before, after, split, unmatched⟩ := List.find?_eq_some_iff_append.mp found
  refine ⟨before, after, split, of_decide_eq_true matched, fun earlier member both => ?_⟩
  have free := unmatched earlier member
  rw [decide_eq_true both] at free
  exact Bool.false_ne_true free

omit [CLayout FaultRecord] in
/-- The answers to an event without a row do not accept it. -/
theorem not_accepted_unlisted (known : Bool) :
    ¬ SmResult.Accepted (some (if known then .noTransition else .invalidEvent)) := by
  cases known <;> decide

/-- An initialized context is predictable. -/
theorem predictable_of_initialized {context : SmContext}
    (initialized : context.isInitialized = true) (faults : FaultMgmt) :
    Predictable context faults := by
  have queried : ∀ event, smIsTransitionValid context event =
      some (findTransitionByValue context.currentState event).isSome :=
    fun event => if_pos initialized
  refine ⟨fun event now unlisted => ?_, fun event now => ?_, fun event now accepted => ?_⟩
  · have missing : findTransitionByValue context.currentState event = none :=
      List.find?_eq_none.mpr fun row member matched =>
        unlisted row member (of_decide_eq_true matched)
    rw [smProcessEvent_eq initialized, missing]
  · rw [queried, smProcessEvent_eq initialized]
    cases findTransitionByValue context.currentState event with
    | none =>
      exact iff_of_false (fun same => Bool.false_ne_true (Option.some.inj same))
        (not_accepted_unlisted _)
    | some row => exact iff_of_true rfl (Or.inl rfl)
  · rw [smProcessEvent_eq initialized] at accepted ⊢
    cases found : findTransitionByValue context.currentState event with
    | none =>
      rw [found] at accepted
      exact absurd accepted (not_accepted_unlisted _)
    | some row => exact ⟨row, firstRow_of_found found, rfl, rfl⟩

omit [CLayout FaultRecord] in
/-- No row of the table leads back to its own state. -/
theorem transition_moves {row : SmTransition} (listed : row ∈ transitions) :
    row.toState ≠ row.fromState := by
  have moves : transitions.all (fun row => decide (row.toState ≠ row.fromState)) = true := by
    decide
  exact of_decide_eq_true (List.all_eq_true.mp moves row listed)

/-- An event leaves the operational state alone exactly when the table has no row for it. -/
theorem smProcessEvent_stays_iff {context : SmContext}
    (initialized : context.isInitialized = true) (faults : FaultMgmt) (event : UInt32)
    (now : UInt64) :
    (smProcessEvent context faults event now).1.currentState = context.currentState ↔
      findTransitionByValue context.currentState event = none := by
  rw [smProcessEvent_eq initialized]
  cases found : findTransitionByValue context.currentState event with
  | none => exact iff_of_true rfl rfl
  | some row =>
    have listed : row ∈ transitions := List.mem_of_find?_eq_some found
    have source : row.fromState = context.currentState := by
      obtain ⟨_, _, _, matched, _⟩ := firstRow_of_found found
      exact matched.1
    refine iff_of_false (fun same => transition_moves listed ?_) (Option.some_ne_none row)
    exact same.trans source.symm

/-- A call enters a state and notes the one it leaves, or changes neither. -/
theorem smCall_cases {history : SmHistory} (initialized : history.context.isInitialized = true)
    (call : SmCall) :
    (∃ state now, (smCall history call).context = history.context.enter state now ∧
        (smCall history call).left = history.context.currentState :: history.left) ∨
      ((smCall history call).context = history.context ∧
        (smCall history call).left = history.left) := by
  cases call with
  | processEvent event now =>
    unfold smCall
    dsimp only
    rw [smProcessEvent_eq initialized]
    cases findTransitionByValue history.context.currentState event with
    | none => exact Or.inr ⟨rfl, if_neg (not_accepted_unlisted _)⟩
    | some row => exact Or.inl ⟨row.toState, now, rfl, if_pos (Or.inl rfl)⟩
  | forceState newState now =>
    unfold smCall smForceStateByValue
    dsimp only
    cases SmState.ofValue? newState with
    | none => exact Or.inr ⟨rfl, rfl⟩
    | some state => exact Or.inl ⟨state, now, rfl, rfl⟩

/-! ### Every run -/

/-- The part of the books that a call passes on to the next. -/
structure Books (initial : SmState) (history : SmHistory) : Prop where
  initialized : history.context.isInitialized = true
  counted : history.context.transitionCount.toNat = history.left.length % 2 ^ 32
  previous : history.context.previousState = history.left.headD initial

omit [CLayout FaultRecord] in
theorem books_init (initial : SmState) (faults : FaultMgmt) (now : UInt64) :
    Books initial ⟨smInit initial now, faults, []⟩ :=
  ⟨rfl, rfl, rfl⟩

theorem smCall_books {initial : SmState} {history : SmHistory} (books : Books initial history)
    (call : SmCall) : Books initial (smCall history call) := by
  obtain ⟨initialized, counted, previous⟩ := books
  rcases smCall_cases initialized call with ⟨state, now, context, left⟩ | ⟨context, left⟩
  · refine ⟨?_, ?_, ?_⟩
    · rw [context]
      exact initialized
    · rw [context, left, List.length_cons]
      show (history.context.transitionCount + 1).toNat = _
      rw [UInt32.toNat_add, counted, Nat.mod_add_mod]
      rfl
    · rw [context, left]
      rfl
  · refine ⟨?_, ?_, ?_⟩
    · rw [context]
      exact initialized
    · rw [context, left]
      exact counted
    · rw [context, left]
      exact previous

theorem Books.kept {initial : SmState} {history : SmHistory} (books : Books initial history) :
    Kept initial history :=
  ⟨books.counted, books.previous, if_pos books.initialized,
    predictable_of_initialized books.initialized history.faults⟩

/-- After `sm_init` and throughout every sequence of events and forced changes, of any numbers,
the state machine keeps its books. -/
theorem state_machine_keeps_books (initial : SmState) (faults : FaultMgmt) (now : UInt64)
    (calls : List SmCall) :
    Throughout smCall (Kept initial) ⟨smInit initial now, faults, []⟩ calls := by
  have preserved : ∀ (history : SmHistory) (call : SmCall), Books initial history →
      Books initial (smCall history call) := fun history call books => smCall_books books call
  have throughout : Throughout smCall (Books initial) ⟨smInit initial now, faults, []⟩ calls :=
    throughout_of_preserved preserved (books_init initial faults now) calls
  exact throughout.mono fun history books => books.kept

end

end SmartQso
