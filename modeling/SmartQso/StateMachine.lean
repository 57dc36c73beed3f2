/-
This file models `state_machine.c`: the transition table of the operational states
and the two ways a state is left, an event with a row in the table and a forced
change. A guard, an action or a hook is a function pointer in the source; here it
is the answer the function gives, and none stands for NULL. Every pointer of the
two tables is NULL, so no hook changes anything.
-/

import SmartQso.FaultMgmt

namespace SmartQso

/-! ### States and events -/

/-- `SmState_t`, without its count. -/
inductive SmState
  | boot
  | safe
  | detumble
  | idle
  | active
  | emergency
  deriving DecidableEq

/-- The number of a state. -/
def SmState.code : SmState → UInt8
  | .boot => 0
  | .safe => 1
  | .detumble => 2
  | .idle => 3
  | .active => 4
  | .emergency => 5

/-- `SmEvent_t`, without its count. -/
inductive SmEvent
  | none
  | bootComplete
  | detumbleComplete
  | commAcquired
  | powerOk
  | powerLow
  | powerCritical
  | thermalFault
  | commTimeout
  | watchdogTimeout
  | groundCmdSafe
  | groundCmdIdle
  | groundCmdActive
  | aiReady
  | aiFault
  | recoveryOk
  deriving DecidableEq

/-- The events in the order of their numbers. -/
def smEvents : List SmEvent :=
  [.none, .bootComplete, .detumbleComplete, .commAcquired, .powerOk, .powerLow, .powerCritical,
    .thermalFault, .commTimeout, .watchdogTimeout, .groundCmdSafe, .groundCmdIdle,
    .groundCmdActive, .aiReady, .aiFault, .recoveryOk]

/-- The event with a given number, if it is below `EVENT_COUNT`. -/
def SmEvent.ofValue? (value : UInt32) : Option SmEvent := smEvents[value.toNat]?

/-- The number of an event. -/
def SmEvent.value : SmEvent → UInt32
  | .none => 0
  | .bootComplete => 1
  | .detumbleComplete => 2
  | .commAcquired => 3
  | .powerOk => 4
  | .powerLow => 5
  | .powerCritical => 6
  | .thermalFault => 7
  | .commTimeout => 8
  | .watchdogTimeout => 9
  | .groundCmdSafe => 10
  | .groundCmdIdle => 11
  | .groundCmdActive => 12
  | .aiReady => 13
  | .aiFault => 14
  | .recoveryOk => 15

/-- The states in the order of their numbers. -/
def smStates : List SmState := [.boot, .safe, .detumble, .idle, .active, .emergency]

/-- The state with a given number, if it is below `STATE_COUNT`. -/
def SmState.ofValue? (value : UInt32) : Option SmState := smStates[value.toNat]?

/-- `SmResult_t`. -/
inductive SmResult
  | ok
  | noTransition
  | guardFailed
  | invalidState
  | invalidEvent
  | actionFailed
  deriving DecidableEq

/-- `SmContext_t`. -/
structure SmContext where
  currentState : SmState
  previousState : SmState
  transitionCount : UInt32
  lastTransitionMs : UInt64
  stateEntryMs : UInt64
  isInitialized : Bool
  deriving DecidableEq

/-! ### The tables -/

/-- `SmTransition_t`. -/
structure SmTransition where
  fromState : SmState
  event : SmEvent
  toState : SmState
  guard : Option Bool
  action : Option SmartQsoResult

/-- `SmStateConfig_t`. -/
structure SmStateConfig where
  name : String
  onEntry : Option SmartQsoResult
  onExit : Option SmartQsoResult

/-- `s_state_configs`. -/
def stateConfigs : SmState → SmStateConfig
  | .boot => ⟨"BOOT", none, none⟩
  | .safe => ⟨"SAFE", none, none⟩
  | .detumble => ⟨"DETUMBLE", none, none⟩
  | .idle => ⟨"IDLE", none, none⟩
  | .active => ⟨"ACTIVE", none, none⟩
  | .emergency => ⟨"EMERGENCY", none, none⟩

/-- `s_transitions`. -/
def transitions : List SmTransition :=
  [⟨.boot, .bootComplete, .detumble, none, none⟩,
    ⟨.boot, .powerCritical, .safe, none, none⟩,
    ⟨.detumble, .detumbleComplete, .idle, none, none⟩,
    ⟨.detumble, .powerLow, .safe, none, none⟩,
    ⟨.detumble, .powerCritical, .safe, none, none⟩,
    ⟨.detumble, .watchdogTimeout, .safe, none, none⟩,
    ⟨.detumble, .groundCmdSafe, .safe, none, none⟩,
    ⟨.safe, .powerOk, .idle, none, none⟩,
    ⟨.safe, .recoveryOk, .idle, none, none⟩,
    ⟨.safe, .groundCmdIdle, .idle, none, none⟩,
    ⟨.idle, .aiReady, .active, none, none⟩,
    ⟨.idle, .groundCmdActive, .active, none, none⟩,
    ⟨.idle, .powerLow, .safe, none, none⟩,
    ⟨.idle, .powerCritical, .safe, none, none⟩,
    ⟨.idle, .thermalFault, .safe, none, none⟩,
    ⟨.idle, .commTimeout, .safe, none, none⟩,
    ⟨.idle, .watchdogTimeout, .safe, none, none⟩,
    ⟨.idle, .groundCmdSafe, .safe, none, none⟩,
    ⟨.active, .aiFault, .idle, none, none⟩,
    ⟨.active, .powerLow, .idle, none, none⟩,
    ⟨.active, .powerCritical, .safe, none, none⟩,
    ⟨.active, .thermalFault, .safe, none, none⟩,
    ⟨.active, .commTimeout, .idle, none, none⟩,
    ⟨.active, .watchdogTimeout, .safe, none, none⟩,
    ⟨.active, .groundCmdIdle, .idle, none, none⟩,
    ⟨.active, .groundCmdSafe, .safe, none, none⟩,
    ⟨.emergency, .recoveryOk, .safe, none, none⟩,
    ⟨.emergency, .groundCmdSafe, .safe, none, none⟩,
    ⟨.idle, .powerCritical, .emergency, none, none⟩,
    ⟨.active, .powerCritical, .emergency, none, none⟩]

/-- `find_transition`: the first row wins. -/
def findTransition (fromState : SmState) (event : SmEvent) : Option SmTransition :=
  transitions.find? fun transition =>
    transition.fromState = fromState ∧ transition.event = event

/-- `find_transition` with an event of any number, which it does not check. -/
def findTransitionByValue (fromState : SmState) (event : UInt32) : Option SmTransition :=
  transitions.find? fun transition =>
    transition.fromState = fromState ∧ transition.event.value = event

/-- `execute_exit_action`. -/
def executeExitAction (state : SmState) : SmartQsoResult :=
  (stateConfigs state).onExit.getD .ok

/-- `execute_entry_action`. -/
def executeEntryAction (state : SmState) : SmartQsoResult :=
  (stateConfigs state).onEntry.getD .ok

/-- `sm_get_state_name`. -/
def smGetStateName (state : SmState) : String := (stateConfigs state).name

/-! ### The operations -/

/-- `sm_init` of a context with a state below `STATE_COUNT`. -/
def smInit (initialState : SmState) (now : UInt64) : SmContext where
  currentState := initialState
  previousState := initialState
  transitionCount := 0
  lastTransitionMs := now
  stateEntryMs := now
  isInitialized := true

/-- The assignments to the context when a state is entered. -/
def SmContext.enter (context : SmContext) (state : SmState) (now : UInt64) : SmContext :=
  { context with
    previousState := context.currentState
    currentState := state
    transitionCount := context.transitionCount + 1
    lastTransitionMs := now
    stateEntryMs := now }

/-- `sm_is_transition_valid`; none stands for `SMART_QSO_ERROR_INVALID`. -/
def smIsTransitionValid (context : SmContext) (event : UInt32) : Option Bool :=
  if context.isInitialized then some (findTransitionByValue context.currentState event).isSome
  else none

/-- `sm_get_statistics`, the number of transitions and the previous state; none stands for
`SMART_QSO_ERROR_INVALID`. -/
def smGetStatistics (context : SmContext) : Option (UInt32 × SmState) :=
  if context.isInitialized then some (context.transitionCount, context.previousState) else none

section

variable [CLayout FaultRecord]

/-- A fault entered when an action does not answer `SMART_QSO_OK`. -/
def logFailedAction (faults : FaultMgmt) (answer : SmartQsoResult) (description : String)
    (now : UInt64) : FaultMgmt :=
  if answer = .ok then faults
  else faultLogAdd faults .modeChange .warning description 0 now

/-- A transition of `sm_process_event` whose guard, if it has one, holds. -/
def takeTransition (context : SmContext) (faults : FaultMgmt) (transition : SmTransition)
    (now : UInt64) : SmContext × FaultMgmt × SmResult :=
  let exited := logFailedAction faults (executeExitAction context.currentState)
    "Exit action failed" now
  let answer := transition.action.getD .ok
  let acted := logFailedAction exited answer "Transition action failed" now
  let entered := context.enter transition.toState now
  let logged := faultLogAdd acted .modeChange .info (smGetStateName entered.currentState) 0 now
  let done := logFailedAction logged (executeEntryAction entered.currentState)
    "Entry action failed" now
  (entered, done, if answer = .ok then .ok else .actionFailed)

/-- `sm_process_event`. No result is stored for a context that is not initialized. -/
def smProcessEvent (context : SmContext) (faults : FaultMgmt) (event : UInt32) (now : UInt64) :
    SmContext × FaultMgmt × Option SmResult :=
  if context.isInitialized then
    match SmEvent.ofValue? event with
    | none => (context, faults, some .invalidEvent)
    | some event =>
      match findTransition context.currentState event with
      | none => (context, faults, some .noTransition)
      | some transition =>
        if transition.guard.getD true then
          let taken := takeTransition context faults transition now
          (taken.1, taken.2.1, some taken.2.2)
        else (context, faults, some .guardFailed)
  else (context, faults, none)

/-- `sm_force_state` to a state below `STATE_COUNT`. The answers of the hooks are not looked
at. -/
def smForceState (context : SmContext) (faults : FaultMgmt) (newState : SmState)
    (now : UInt64) : SmContext × FaultMgmt :=
  let logged := faultLogAdd faults .recovery .warning "Forced state change" 0 now
  (context.enter newState now, logged)

/-- `sm_force_state` to a state of any number; none stands for `SMART_QSO_ERROR_INVALID`. -/
def smForceStateByValue (context : SmContext) (faults : FaultMgmt) (newState : UInt32)
    (now : UInt64) : Option (SmContext × FaultMgmt) :=
  (SmState.ofValue? newState).map fun newState => smForceState context faults newState now

/-! ### What a table without hooks does -/

/-- Every transition enters its state and one fault. -/
theorem takeTransition_eq (context : SmContext) (faults : FaultMgmt) {transition : SmTransition}
    (listed : transition ∈ transitions) (now : UInt64) :
    takeTransition context faults transition now =
      (context.enter transition.toState now,
        faultLogAdd faults .modeChange .info (smGetStateName transition.toState) 0 now, .ok) := by
  have noHook : ∀ state : SmState,
      executeExitAction state = .ok ∧ executeEntryAction state = .ok := by
    intro state
    cases state <;> exact ⟨rfl, rfl⟩
  have noAction : transition.action.getD .ok = .ok := by
    revert transition
    simp only [transitions, List.forall_mem_cons, Option.getD_none]
    simp
  unfold takeTransition logFailedAction
  simp only [noHook, noAction, if_true]
  rfl

omit [CLayout FaultRecord] in
/-- No row of the table has a guard. -/
theorem transition_unguarded {transition : SmTransition} (listed : transition ∈ transitions) :
    transition.guard.getD true = true := by
  revert transition
  simp only [transitions, List.forall_mem_cons, Option.getD_none]
  simp

/-- An event of an initialized context takes the row it finds, or changes nothing. -/
theorem smProcessEvent_cases {context : SmContext} (initialized : context.isInitialized = true)
    (faults : FaultMgmt) (event : UInt32) (now : UInt64) :
    (∃ named transition, SmEvent.ofValue? event = some named ∧
        findTransition context.currentState named = some transition ∧
        (smProcessEvent context faults event now).1 = context.enter transition.toState now ∧
        (smProcessEvent context faults event now).2.1 =
          faultLogAdd faults .modeChange .info (smGetStateName transition.toState) 0 now) ∨
      ((∀ named, SmEvent.ofValue? event = some named →
          findTransition context.currentState named = none) ∧
        (smProcessEvent context faults event now).1 = context ∧
        (smProcessEvent context faults event now).2.1 = faults) := by
  unfold smProcessEvent
  rw [if_pos initialized]
  cases known : SmEvent.ofValue? event with
  | none => exact Or.inr ⟨fun _ same => absurd same.symm (Option.some_ne_none _), rfl, rfl⟩
  | some named =>
    dsimp only
    cases found : findTransition context.currentState named with
    | none =>
      refine Or.inr ⟨fun other same => ?_, rfl, rfl⟩
      rw [← Option.some.inj same]
      exact found
    | some transition =>
      have listed : transition ∈ transitions := List.mem_of_find?_eq_some found
      refine Or.inl ⟨named, transition, rfl, found, ?_⟩
      dsimp only
      rw [if_pos (transition_unguarded listed), takeTransition_eq context faults listed now]
      exact ⟨rfl, rfl⟩

theorem smProcessEvent_initialized {context : SmContext}
    (initialized : context.isInitialized = true) (faults : FaultMgmt) (event : UInt32)
    (now : UInt64) :
    (smProcessEvent context faults event now).1.isInitialized = true := by
  rcases smProcessEvent_cases initialized faults event now with
    ⟨_, _, _, _, entered, _⟩ | ⟨_, same, _⟩
  · rw [entered]
    exact initialized
  · rw [same]
    exact initialized

/-- An event only adds to the fault log. -/
theorem smProcessEvent_extends (context : SmContext) (faults : FaultMgmt) (event : UInt32)
    (now : UInt64) : Extends faults (smProcessEvent context faults event now).2.1 := by
  by_cases initialized : context.isInitialized = true
  · rcases smProcessEvent_cases initialized faults event now with
      ⟨_, _, _, _, _, logged⟩ | ⟨_, _, same⟩
    · rw [logged]
      exact faultLogAdd_extends faults _ _ _ _ _
    · rw [same]
      exact Extends.refl faults
  · rw [smProcessEvent, if_neg initialized]
    exact Extends.refl faults

end

end SmartQso
