/-
This file asks from which operational states the ground can bring the spacecraft to
the safe state. No command leaves the emergency state, since none that is allowed
there reaches the state machine, and no command enters it; from every other state a
single `CMD_SYS_SET_MODE` is enough, after any history of commands.
-/

import SmartQso.CommandAuthority

namespace SmartQso

open Runs

section

variable {Handler : Type} [CLayout FaultRecord]

/-! ### What a command does to the operational state -/

omit [CLayout FaultRecord] in
/-- The only row for the end of the boot leads from the boot to the detumble state. -/
theorem findTransition_bootComplete {state : SmState} {transition : SmTransition}
    (found : findTransition state .bootComplete = some transition) :
    state = .boot ∧ transition.toState = .detumble := by
  cases state with
  | boot =>
    rw [← Option.some.inj found]
    exact ⟨rfl, rfl⟩
  | _ => exact absurd found.symm (Option.some_ne_none transition)

/-- `CMD_ADCS_DETUMBLE` ends the boot, and does nothing to another state. -/
theorem detumble_state (context : SmContext) (faults : FaultMgmt) (now : UInt64) :
    (smProcessEvent context faults eventBootComplete now).1.currentState = context.currentState ∨
      (context.currentState = .boot ∧
        (smProcessEvent context faults eventBootComplete now).1.currentState = .detumble) := by
  by_cases initialized : context.isInitialized = true
  · rcases smProcessEvent_cases initialized faults eventBootComplete now with
      ⟨named, transition, known, found, entered, _⟩ | ⟨_, same, _⟩
    · rw [← Option.some.inj (known : some SmEvent.bootComplete = some named)] at found
      obtain ⟨boot, target⟩ := findTransition_bootComplete found
      exact Or.inr ⟨boot, entered ▸ target⟩
    · exact Or.inl (congrArg SmContext.currentState same)
  · rw [smProcessEvent, if_neg initialized]
    exact Or.inl rfl

/-- A command leaves the operational state alone, forces one that it is granted, or ends the
boot. -/
theorem executed_state {obc reached : Obc Handler} {cmd : Command} {now : UInt64}
    {result : CmdResult} (executed : Executed obc cmd now reached result) :
    sysGetOperationalState reached.sys = sysGetOperationalState obc.sys ∨
      (∃ state, Granted obc cmd (.force state) ∧
        sysGetOperationalState reached.sys = state) ∨
      (sysGetOperationalState obc.sys = .boot ∧
        sysGetOperationalState reached.sys = .detumble) := by
  rcases executed.granted_or_refused with ⟨effect, granted, _, after, _⟩ | ⟨_, _, same⟩
  · have context : reached.sys.record.smContext =
        (effect.onSystem obc.sys obc.faults now).record.smContext := by
      rw [after]
      rfl
    rw [effect.onSystem_smContext] at context
    unfold sysGetOperationalState
    rw [context]
    cases effect with
    | force state => exact Or.inr (Or.inl ⟨state, granted, rfl⟩)
    | detumble =>
      rcases detumble_state obc.sys.record.smContext obc.faults now with same | ⟨boot, left⟩
      · exact Or.inl same
      · exact Or.inr (Or.inr ⟨boot, left⟩)
    | _ => exact Or.inl rfl
  · rw [same]
    exact Or.inl rfl

omit [CLayout FaultRecord] in
/-- The states a mode command forces are not the emergency state. -/
theorem commandedState?_ne_emergency {mode : UInt8} {state : SmState}
    (commanded : commandedState? mode = some state) : state ≠ .emergency := by
  unfold commandedState? at commanded
  split_ifs at commanded
  all_goals
    rw [← Option.some.inj commanded]
    exact SmState.noConfusion

/-- No command enters the emergency state, and none leaves it. -/
theorem executed_emergency {obc reached : Obc Handler} {cmd : Command} {now : UInt64}
    {result : CmdResult} (executed : Executed obc cmd now reached result) :
    sysGetOperationalState reached.sys = .emergency ↔
      sysGetOperationalState obc.sys = .emergency := by
  rcases executed_state executed with same | ⟨state, granted, forced⟩ | ⟨before, after⟩
  · rw [same]
  · obtain ⟨mode, _, commanded⟩ := granted.commanded
    rw [forced]
    refine iff_of_false (commandedState?_ne_emergency commanded) fun trapped => ?_
    -- `CMD_SYS_SET_MODE` is not on the list of the emergency state.
    have allowed := granted.allowed
    rw [trapped, mode] at allowed
    exact absurd allowed (by decide)
  · rw [before, after]
    exact iff_of_false SmState.noConfusion SmState.noConfusion

/-! ### The command to safe mode -/

/-- `CMD_SYS_SET_MODE` to the safe state. -/
def safeCommand : CommandCall := groundCommand cmdSysSetMode [0]

omit [CLayout FaultRecord] in
theorem safeCommand_granted {obc : Obc Handler}
    (free : sysGetOperationalState obc.sys ≠ .emergency) :
    Granted obc safeCommand.cmd (.force .safe) := by
  refine ⟨?_, fun required => absurd required (by decide), rfl, by decide, by decide⟩
  show cmdIsAllowed (sysGetOperationalState obc.sys) cmdSysSetMode = true
  cases state : sysGetOperationalState obc.sys with
  | emergency => exact absurd state free
  | _ => decide

/-- Outside the emergency state one command is enough. -/
theorem safeCommand_safe (invoke : Invoke Handler) {obc : Obc Handler}
    (plain : NoCustomHandlers obc) (free : sysGetOperationalState obc.sys ≠ .emergency) :
    sysGetOperationalState (commandCall invoke obc safeCommand).sys = .safe := by
  have executed := cmdExecute_executed invoke obc safeCommand.cmd safeCommand.response
    safeCommand.now (plain _)
  rcases executed.granted_or_refused with ⟨effect, granted, _, after, _⟩ | ⟨refused, _⟩
  · rw [← (safeCommand_granted free).unique granted] at after
    exact congrArg sysGetOperationalState after
  · exact absurd (safeCommand_granted free) (refused _)

/-! ### Runs of commands -/

/-- The commands of a run neither enter nor leave the emergency state. -/
theorem commandCalls_emergency (invoke : Invoke Handler) {obc : Obc Handler}
    (plain : NoCustomHandlers obc) (calls : List CommandCall) :
    let reached := finalState (commandCall invoke) obc calls
    NoCustomHandlers reached ∧
      (sysGetOperationalState reached.sys = .emergency ↔
        sysGetOperationalState obc.sys = .emergency) := by
  have preserved : ∀ (state : Obc Handler) (call : CommandCall),
      (NoCustomHandlers state ∧ (sysGetOperationalState state.sys = .emergency ↔
        sysGetOperationalState obc.sys = .emergency)) →
      (NoCustomHandlers (commandCall invoke state call) ∧
        (sysGetOperationalState (commandCall invoke state call).sys = .emergency ↔
          sysGetOperationalState obc.sys = .emergency)) := by
    rintro state call ⟨stillPlain, same⟩
    have executed := cmdExecute_executed invoke state call.cmd call.response call.now
      (stillPlain call.cmd.cmdId)
    exact ⟨commandCall_noCustomHandlers invoke stillPlain call,
      (executed_emergency executed).trans same⟩
  exact finalState_of_invariant preserved ⟨plain, Iff.rfl⟩ calls

/-- From a state without registered handlers, after any history of commands, some further
commands lead to the safe state, exactly when the state is not the emergency state. -/
theorem safe_commandable_iff (invoke : Invoke Handler) {obc : Obc Handler}
    (plain : NoCustomHandlers obc) :
    (∀ history : List CommandCall, ∃ calls : List CommandCall,
      sysGetOperationalState (finalState (commandCall invoke) obc (history ++ calls)).sys =
        .safe) ↔
      sysGetOperationalState obc.sys ≠ .emergency := by
  constructor
  · intro commandable trapped
    obtain ⟨calls, safe⟩ := commandable []
    have kept := (commandCalls_emergency invoke plain calls).2.mpr trapped
    exact SmState.noConfusion (safe.symm.trans kept)
  · intro free history
    obtain ⟨stillPlain, same⟩ := commandCalls_emergency invoke plain history
    refine ⟨[safeCommand], ?_⟩
    rw [finalState_append]
    exact safeCommand_safe invoke stillPlain fun trapped => free (same.mp trapped)

omit [CLayout FaultRecord] in
/-- The state after the initializations can be brought to the safe state. -/
theorem safe_commandable_iff_start :
    letI := CLayout.blank FaultRecord
    letI := CLayout.blank SystemRecord
    let obc : Obc Empty := Obc.start FaultMgmt.boot 0
    NoCustomHandlers obc ∧
      ((∀ history : List CommandCall, ∃ calls : List CommandCall,
        sysGetOperationalState (finalState (commandCall noHandler) obc (history ++ calls)).sys =
          .safe) ↔ sysGetOperationalState obc.sys ≠ .emergency) :=
  letI := CLayout.blank FaultRecord
  letI := CLayout.blank SystemRecord
  ⟨noCustomHandlers_init _ _, safe_commandable_iff noHandler (noCustomHandlers_init _ _)⟩

omit [CLayout FaultRecord] in
/-- Once `sm_force_state` has installed the emergency state, no sequence of commands leads to the
safe state. -/
theorem emergency_not_commandable :
    letI := CLayout.blank FaultRecord
    letI := CLayout.blank SystemRecord
    let start : Obc Empty := Obc.start FaultMgmt.boot 0
    let forced := smForceState start.sys.record.smContext start.faults .emergency 0
    let obc := { start with sys := setSmContext start.sys forced.1, faults := forced.2 }
    ∀ calls : List CommandCall,
      sysGetOperationalState (finalState (commandCall noHandler) obc calls).sys ≠ .safe := by
  intro start forced obc calls safe
  let := CLayout.blank FaultRecord
  let := CLayout.blank SystemRecord
  have plain : NoCustomHandlers obc := noCustomHandlers_init _ _
  have kept := (commandCalls_emergency noHandler plain calls).2.mpr rfl
  exact SmState.noConfusion (safe.symm.trans kept)

end

end SmartQso
