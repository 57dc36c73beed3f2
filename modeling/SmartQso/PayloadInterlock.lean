/-
This file is about the link between the payload and the operational state: the
modes outside ACTIVE are meant to run without the payload. The flag and the state
live in different modules and the hooks that would tie them together are NULL, so
the link is kept by exactly those calls that neither switch the payload on outside
ACTIVE nor leave ACTIVE with the payload on.
-/

import SmartQso.CommandAuthority

namespace SmartQso

open Runs

/-! ### Commands and events -/

/-- A ground command, or an event for the state machine of the system. -/
inductive ModeCall
  | command (call : CommandCall)
  | event (event : UInt32) (now : UInt64)

section

variable {Handler : Type} [CLayout FaultRecord]

/-- `sm_process_event` on the context of the system state. -/
def processSystemEvent (obc : Obc Handler) (event : UInt32) (now : UInt64) : Obc Handler :=
  let processed := smProcessEvent obc.sys.record.smContext obc.faults event now
  { obc with sys := setSmContext obc.sys processed.1, faults := processed.2.1 }

/-- The effect of a call. -/
def modeCall (invoke : Invoke Handler) (obc : Obc Handler) : ModeCall → Obc Handler
  | .command call => commandCall invoke obc call
  | .event event now => processSystemEvent obc event now

/-- The payload is on in the active state only. -/
def PayloadOnlyActive (sys : SystemState) : Prop :=
  sysIsPayloadEnabled sys = true → sysGetOperationalState sys = .active

/-- The events with a row that leaves the active state. -/
def leavingActive : List SmEvent :=
  [.aiFault, .powerLow, .powerCritical, .thermalFault, .commTimeout, .watchdogTimeout,
    .groundCmdIdle, .groundCmdSafe]

/-- The payload is not switched on in BOOT, DETUMBLE or IDLE, where the command is allowed as
well, and with the payload on the active state is not left. -/
def KeepsInterlock (obc : Obc Handler) : ModeCall → Prop
  | .command call =>
    let state := sysGetOperationalState obc.sys
    let first := call.cmd.payload.get 0
    (call.cmd.cmdId = cmdPldEnable → cmdVerifyAuth call.cmd = true →
      state ≠ .boot ∧ state ≠ .detumble ∧ state ≠ .idle) ∧
    (sysIsPayloadEnabled obc.sys = true → call.cmd.cmdId = cmdSysSetMode →
      call.cmd.payloadLen ≥ 1 → first ≠ 0 ∧ first ≠ 1)
  | .event event _ =>
    sysIsPayloadEnabled obc.sys = true → ∀ named, SmEvent.ofValue? event = some named →
      named ∉ leavingActive

/-! ### The state machine -/

omit [CLayout FaultRecord] in
/-- The rows of the active state are the ones that leave it. -/
theorem findTransition_active (named : SmEvent) :
    (findTransition .active named = none ↔ named ∉ leavingActive) ∧
      ∀ transition, findTransition .active named = some transition →
        transition.toState ≠ .active := by
  cases named <;> decide +revert

/-- An event keeps the active state exactly when it has no row that leaves it. -/
theorem smProcessEvent_active {context : SmContext} (initialized : context.isInitialized = true)
    (active : context.currentState = .active) (faults : FaultMgmt) (event : UInt32)
    (now : UInt64) :
    (smProcessEvent context faults event now).1.currentState = .active ↔
      ∀ named, SmEvent.ofValue? event = some named → named ∉ leavingActive := by
  rcases smProcessEvent_cases initialized faults event now with
    ⟨named, transition, known, found, entered, _⟩ | ⟨noRow, same, _⟩
  · rw [active] at found
    refine iff_of_false ?_ fun staying => ?_
    · rw [entered]
      exact (findTransition_active named).2 transition found
    · rw [(findTransition_active named).1.mpr (staying named known)] at found
      exact absurd found.symm (Option.some_ne_none transition)
  · refine iff_of_true (by rw [same]; exact active) fun named known => ?_
    have none := noRow named known
    rw [active] at none
    exact (findTransition_active named).1.mp none

/-! ### Effects of commands -/

/-- What the link between payload and state asks of an effect. -/
def CommandEffect.KeepsInterlock (effect : CommandEffect) (sys : SystemState) : Prop :=
  match effect with
  | .setPayload true => sysGetOperationalState sys = .active
  | .force state => sysIsPayloadEnabled sys = true → state = .active
  | _ => True

theorem CommandEffect.onSystem_initialized (effect : CommandEffect) {sys : SystemState}
    (initialized : sys.record.smContext.isInitialized = true) (faults : FaultMgmt)
    (now : UInt64) :
    (effect.onSystem sys faults now).record.smContext.isInitialized = true := by
  rw [effect.onSystem_smContext]
  cases effect with
  | detumble => exact smProcessEvent_initialized initialized faults eventBootComplete now
  | _ => exact initialized

/-- The start of the detumble sequence does not leave the active state. -/
theorem detumble_keeps_active {context : SmContext}
    (initialized : context.isInitialized = true) (active : context.currentState = .active)
    (faults : FaultMgmt) (now : UInt64) :
    (smProcessEvent context faults eventBootComplete now).1.currentState = .active := by
  refine (smProcessEvent_active initialized active faults eventBootComplete now).mpr ?_
  decide

theorem CommandEffect.payloadOnlyActive_iff (effect : CommandEffect) {sys : SystemState}
    (linked : PayloadOnlyActive sys) (initialized : sys.record.smContext.isInitialized = true)
    (faults : FaultMgmt) (now : UInt64) :
    PayloadOnlyActive (effect.onSystem sys faults now) ↔ effect.KeepsInterlock sys := by
  unfold PayloadOnlyActive sysIsPayloadEnabled sysGetOperationalState
  rw [effect.onSystem_payload, effect.onSystem_smContext]
  cases effect with
  | setPayload enabled =>
    cases enabled with
    | true => exact ⟨fun still => still rfl, fun active _ => active⟩
    | false => exact iff_of_true (fun on => absurd on Bool.false_ne_true) trivial
  | force state => exact Iff.rfl
  | detumble =>
    refine iff_of_true (fun on => ?_) trivial
    exact detumble_keeps_active initialized (linked on) faults now
  | _ => exact iff_of_true linked trivial

omit [CLayout FaultRecord] in
/-- Only the number of ACTIVE forces that state. -/
theorem commandedState?_active {first : UInt8} {state : SmState}
    (commanded : commandedState? first = some state) :
    state = .active ↔ first ≠ 0 ∧ first ≠ 1 := by
  unfold commandedState? at commanded
  split_ifs at commanded with zero one two
  · refine iff_of_false ?_ fun other => other.1 zero
    rw [← Option.some.inj commanded]
    decide
  · refine iff_of_false ?_ fun other => other.2 one
    rw [← Option.some.inj commanded]
    decide
  · exact iff_of_true (Option.some.inj commanded).symm ⟨zero, one⟩

omit [CLayout FaultRecord] in
/-- Where the payload command is granted, the state is one of BOOT, DETUMBLE, IDLE and ACTIVE. -/
theorem granted_enable_iff {obc : Obc Handler} {cmd : Command} :
    Granted obc cmd (.setPayload true) ↔
      cmd.cmdId = cmdPldEnable ∧ cmdVerifyAuth cmd = true ∧
        sysGetOperationalState obc.sys ≠ .safe ∧ sysGetOperationalState obc.sys ≠ .emergency := by
  constructor
  · intro granted
    have enable : cmd.cmdId = cmdPldEnable := granted.commanded
    have allowed := granted.allowed
    rw [enable, cmdIsAllowed_pldEnable] at allowed
    exact ⟨enable, granted.verified enable (by decide), allowed⟩
  · rintro ⟨enable, verified, allowed⟩
    refine ⟨?_, fun _ => verified, enable⟩
    rw [enable]
    exact (cmdIsAllowed_pldEnable _).mpr allowed

omit [CLayout FaultRecord] in
/-- In the active state a mode command is granted whenever it names a state. -/
theorem granted_force_iff {obc : Obc Handler} (active : sysGetOperationalState obc.sys = .active)
    {cmd : Command} {state : SmState} :
    Granted obc cmd (.force state) ↔
      cmd.cmdId = cmdSysSetMode ∧ cmd.payloadLen ≥ 1 ∧
        commandedState? (cmd.payload.get 0) = some state := by
  refine ⟨fun granted => granted.commanded, fun commanded => ?_⟩
  refine ⟨?_, authorised_of_free commanded.1 (by decide), commanded⟩
  rw [active, commanded.1]
  decide

omit [CLayout FaultRecord] in
/-- The condition on a command is the one on the effect it is granted. -/
theorem keepsInterlock_command {obc : Obc Handler} (linked : PayloadOnlyActive obc.sys)
    (call : CommandCall) :
    KeepsInterlock obc (.command call) ↔
      ∀ effect, Granted obc call.cmd effect → effect.KeepsInterlock obc.sys := by
  constructor
  · rintro ⟨enabling, leaving⟩ effect granted
    cases effect with
    | setPayload enabled =>
      cases enabled with
      | true =>
        obtain ⟨enable, verified, notSafe, notEmergency⟩ := granted_enable_iff.mp granted
        obtain ⟨notBoot, notDetumble, notIdle⟩ := enabling enable verified
        show sysGetOperationalState obc.sys = .active
        revert notSafe notEmergency notBoot notDetumble notIdle
        cases sysGetOperationalState obc.sys <;> decide
      | false => trivial
    | force state =>
      intro on
      obtain ⟨mode, given, commanded⟩ := (granted_force_iff (linked on)).mp granted
      exact (commandedState?_active commanded).mpr (leaving on mode given)
    | _ => trivial
  · intro kept
    constructor
    · intro enable verified
      have enabled : sysGetOperationalState obc.sys ≠ .safe ∧
          sysGetOperationalState obc.sys ≠ .emergency → sysGetOperationalState obc.sys = .active :=
        fun allowed => kept _ (granted_enable_iff.mpr ⟨enable, verified, allowed⟩)
      revert enabled
      cases sysGetOperationalState obc.sys <;> decide
    · intro on mode given
      have stays : ∀ state, commandedState? (call.cmd.payload.get 0) = some state →
          state = .active :=
        fun state commanded =>
          kept _ ((granted_force_iff (linked on)).mpr ⟨mode, given, commanded⟩) on
      constructor <;> intro first <;> rw [first] at stays
      · exact absurd (stays .safe rfl) SmState.noConfusion
      · exact absurd (stays .idle rfl) SmState.noConfusion

/-! ### Each call -/

/-- What holds between calls. -/
structure Interlocked (obc : Obc Handler) : Prop where
  linked : PayloadOnlyActive obc.sys
  initialized : obc.sys.record.smContext.isInitialized = true
  plain : NoCustomHandlers obc

/-- A call keeps the link exactly under the condition. -/
theorem payloadOnlyActive_step (invoke : Invoke Handler) {obc : Obc Handler}
    (interlocked : Interlocked obc) (call : ModeCall) :
    PayloadOnlyActive (modeCall invoke obc call).sys ↔ KeepsInterlock obc call := by
  obtain ⟨linked, initialized, plain⟩ := interlocked
  cases call with
  | command call =>
    rw [keepsInterlock_command linked]
    have executed := cmdExecute_executed invoke obc call.cmd call.response call.now
      (plain call.cmd.cmdId)
    exact executed.holds_iff PayloadOnlyActive linked (fun _ => Iff.rfl)
      fun effect => effect.payloadOnlyActive_iff linked initialized obc.faults call.now
  | event event now =>
    show (sysIsPayloadEnabled obc.sys = true →
      (smProcessEvent obc.sys.record.smContext obc.faults event now).1.currentState = .active) ↔ _
    refine imp_congr_right fun on => ?_
    exact smProcessEvent_active initialized (linked on) obc.faults event now

theorem modeCall_interlocked (invoke : Invoke Handler) {obc : Obc Handler}
    (interlocked : Interlocked obc) (call : ModeCall) (kept : KeepsInterlock obc call) :
    Interlocked (modeCall invoke obc call) := by
  refine ⟨(payloadOnlyActive_step invoke interlocked call).mpr kept, ?_, ?_⟩
  · cases call with
    | command call =>
      have executed := cmdExecute_executed invoke obc call.cmd call.response call.now
        (interlocked.plain call.cmd.cmdId)
      refine (executed.holds_iff (fun sys => sys.record.smContext.isInitialized = true)
        interlocked.initialized (fun _ => Iff.rfl) fun effect => ?_).mpr fun _ _ => trivial
      exact iff_true_intro
        (effect.onSystem_initialized interlocked.initialized obc.faults call.now)
    | event event now =>
      exact smProcessEvent_initialized interlocked.initialized obc.faults event now
  · cases call with
    | command call => exact commandCall_noCustomHandlers invoke interlocked.plain call
    | event event now => exact interlocked.plain

/-! ### Every run -/

/-- In a run of ground commands and events after the initializations the payload is on in the
active state only, if and only if no command switches it on in BOOT, DETUMBLE or IDLE and no
command or event leaves the active state with the payload on. -/
theorem payload_only_active_iff [CLayout SystemRecord] (invoke : Invoke Handler)
    (faults : FaultMgmt) (now : UInt64) (calls : List ModeCall) :
    Throughout (modeCall invoke) (fun obc => PayloadOnlyActive obc.sys) (Obc.start faults now)
        calls ↔
      EachStep (modeCall invoke) KeepsInterlock (Obc.start faults now) calls := by
  have initial : Interlocked (Obc.start faults now : Obc Handler) :=
    ⟨fun on => absurd on Bool.false_ne_true, rfl, noCustomHandlers_init (sysStateInit now) faults⟩
  have linked : ∀ obc : Obc Handler, Interlocked obc → PayloadOnlyActive obc.sys :=
    fun obc interlocked => interlocked.linked
  have exactly : ∀ (obc : Obc Handler) (call : ModeCall), Interlocked obc →
      (PayloadOnlyActive (modeCall invoke obc call).sys ↔ KeepsInterlock obc call) :=
    fun obc call interlocked => payloadOnlyActive_step invoke interlocked call
  have preserved : ∀ (obc : Obc Handler) (call : ModeCall), Interlocked obc →
      KeepsInterlock obc call → Interlocked (modeCall invoke obc call) :=
    fun obc call interlocked kept => modeCall_interlocked invoke interlocked call kept
  exact throughout_iff_eachStep linked exactly preserved initial calls

omit [CLayout FaultRecord] in
/-- The payload is switched on in ACTIVE, and the ground commands IDLE: the payload stays on. -/
theorem idle_event_leaves_payload_on :
    letI := CLayout.blank FaultRecord
    letI := CLayout.blank SystemRecord
    ¬ Throughout (modeCall noHandler) (fun obc => PayloadOnlyActive obc.sys)
      (Obc.start FaultMgmt.boot 0)
      [.command (groundCommand cmdSysSetMode [2]),
        .command (groundCommand cmdPldEnable [0xDE, 0xAD, 0xBE, 0xEF]),
        .event 11 0] := by
  intro throughout
  have last := throughout.2.2.2
  exact absurd (last rfl) (by decide)

end

end SmartQso
