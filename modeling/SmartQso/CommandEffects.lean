/-
This file says what a ground command means: which effect it has on the system
state and the fault log, if it has one. `routeCommand_meets` proves that the
dispatch of `cmd_handler.c` has exactly these effects, and `cmdExecute_executed`
what the entry point adds to them, so that results about command sequences are
proved over eight effects instead of over identifiers and branches.
-/

import SmartQso.CmdHandler

namespace SmartQso

/-! ### Effects -/

/-- The effects a command can have. -/
inductive CommandEffect
  | nothing
  | noteReset
  | clearFaults
  | force (state : SmState)
  | detumble
  | setPowerMode (mode : PowerMode)
  | setBeacon (intervalS : UInt16)
  | setPayload (enabled : Bool)
  deriving DecidableEq

/-- The effect of a command that is allowed and authorised; none means that it is rejected. -/
def commandEffect? (cmd : Command) : Option CommandEffect :=
  let first := cmd.payload.get 0
  let interval := bigEndian16 first (cmd.payload.get 1)
  if cmd.cmdId = cmdSysNop ∨ cmd.cmdId = cmdSysGetStatus ∨ cmd.cmdId = cmdEpsGetTelemetry ∨
      cmd.cmdId = cmdAdcsGetAttitude then some .nothing
  else if cmd.cmdId = cmdSysReset then some .noteReset
  else if cmd.cmdId = cmdSysClearFaults then some .clearFaults
  else if cmd.cmdId = cmdSysSetMode then
    if cmd.payloadLen ≥ 1 then (commandedState? first).map .force else none
  else if cmd.cmdId = cmdAdcsDetumble then some .detumble
  else if cmd.cmdId = cmdEpsSetMode then
    if cmd.payloadLen ≥ 1 then (PowerMode.ofValue? first.toUInt32).map .setPowerMode else none
  else if cmd.cmdId = cmdCommSetBeacon then
    if cmd.payloadLen ≥ 2 ∧ ¬ (interval < 10 ∨ interval > 120) then some (.setBeacon interval)
    else none
  else if cmd.cmdId = cmdPldEnable then some (.setPayload true)
  else if cmd.cmdId = cmdPldDisable then some (.setPayload false)
  else none

/-- The command that has an effect other than none at all. -/
def CommandEffect.Commanded (effect : CommandEffect) (cmd : Command) : Prop :=
  let first := cmd.payload.get 0
  let interval := bigEndian16 first (cmd.payload.get 1)
  match effect with
  | .nothing =>
    cmd.cmdId = cmdSysNop ∨ cmd.cmdId = cmdSysGetStatus ∨ cmd.cmdId = cmdEpsGetTelemetry ∨
      cmd.cmdId = cmdAdcsGetAttitude
  | .noteReset => cmd.cmdId = cmdSysReset
  | .clearFaults => cmd.cmdId = cmdSysClearFaults
  | .force state =>
    cmd.cmdId = cmdSysSetMode ∧ cmd.payloadLen ≥ 1 ∧ commandedState? first = some state
  | .detumble => cmd.cmdId = cmdAdcsDetumble
  | .setPowerMode mode =>
    cmd.cmdId = cmdEpsSetMode ∧ cmd.payloadLen ≥ 1 ∧
      PowerMode.ofValue? first.toUInt32 = some mode
  | .setBeacon intervalS =>
    cmd.cmdId = cmdCommSetBeacon ∧ cmd.payloadLen ≥ 2 ∧
      ¬ (interval < 10 ∨ interval > 120) ∧ interval = intervalS
  | .setPayload true => cmd.cmdId = cmdPldEnable
  | .setPayload false => cmd.cmdId = cmdPldDisable

theorem commanded_of_commandEffect? {cmd : Command} {effect : CommandEffect}
    (same : commandEffect? cmd = some effect) : effect.Commanded cmd := by
  unfold commandEffect? at same
  dsimp only at same
  split_ifs at same with query reset clear mode given detumble power given beacon given enable
    disable
  · exact Option.some.inj same ▸ query
  · exact Option.some.inj same ▸ reset
  · exact Option.some.inj same ▸ clear
  · obtain ⟨state, named, rfl⟩ := Option.map_eq_some_iff.mp same
    exact ⟨mode, given, named⟩
  · exact Option.some.inj same ▸ detumble
  · obtain ⟨state, named, rfl⟩ := Option.map_eq_some_iff.mp same
    exact ⟨power, given, named⟩
  · exact Option.some.inj same ▸ ⟨beacon, given.1, given.2, rfl⟩
  · exact Option.some.inj same ▸ enable
  · exact Option.some.inj same ▸ disable

theorem commandEffect?_of_commanded {cmd : Command} {effect : CommandEffect}
    (commanded : effect.Commanded cmd) : commandEffect? cmd = some effect := by
  obtain ⟨cmdId, sequenceNum, payloadLen, payload, timestampMs, requiresAck⟩ := cmd
  unfold CommandEffect.Commanded at commanded
  dsimp only at commanded
  unfold commandEffect?
  cases effect with
  | nothing => exact if_pos commanded
  | noteReset | clearFaults | detumble =>
    subst commanded
    simp +decide only [if_true, if_false]
  | force state =>
    obtain ⟨rfl, given, named⟩ := commanded
    simp +decide only [if_true, if_false]
    rw [if_pos given, named]
    rfl
  | setPowerMode mode =>
    obtain ⟨rfl, given, named⟩ := commanded
    simp +decide only [if_true, if_false]
    rw [if_pos given, named]
    rfl
  | setBeacon intervalS =>
    obtain ⟨rfl, given, inside, rfl⟩ := commanded
    simp +decide only [if_true, if_false]
    rw [if_pos ⟨given, inside⟩]
  | setPayload enabled =>
    cases enabled with
    | true | false =>
      subst commanded
      simp +decide only [if_true, if_false]

/-- The table of effects, read backwards. -/
theorem commandEffect?_eq_some_iff (cmd : Command) (effect : CommandEffect) :
    commandEffect? cmd = some effect ↔ effect.Commanded cmd :=
  ⟨commanded_of_commandEffect?, commandEffect?_of_commanded⟩

/-- The system state after an effect. -/
def CommandEffect.onSystem [CLayout FaultRecord] (effect : CommandEffect) (sys : SystemState)
    (faults : FaultMgmt) (now : UInt64) : SystemState :=
  match effect with
  | .nothing | .noteReset | .clearFaults => sys
  | .force state => setSmContext sys (smForceState sys.record.smContext faults state now).1
  | .detumble =>
    setSmContext sys (smProcessEvent sys.record.smContext faults eventBootComplete now).1
  | .setPowerMode mode => sysSetPowerMode sys mode now
  | .setBeacon intervalS => (sysSetBeaconInterval sys intervalS now).getD sys
  | .setPayload enabled => sysSetPayloadEnabled sys enabled now

/-- The fault log after an effect. -/
def CommandEffect.onFaults [CLayout FaultRecord] (effect : CommandEffect) (sys : SystemState)
    (faults : FaultMgmt) (now : UInt64) : FaultMgmt :=
  match effect with
  | .noteReset => faultLogAdd faults .init .info "Reset commanded" 0 now
  | .clearFaults => faultLogClear faults
  | .force state => (smForceState sys.record.smContext faults state now).2
  | .detumble => (smProcessEvent sys.record.smContext faults eventBootComplete now).2.1
  | _ => faults

/-! ### What an effect changes -/

section

variable [CLayout FaultRecord]

/-- Only a payload command changes the payload flag. -/
theorem CommandEffect.onSystem_payload (effect : CommandEffect) (sys : SystemState)
    (faults : FaultMgmt) (now : UInt64) :
    (effect.onSystem sys faults now).record.power.payloadEnabled =
      match effect with
      | .setPayload enabled => enabled
      | _ => sys.record.power.payloadEnabled := by
  cases effect with
  | setBeacon intervalS =>
    unfold onSystem sysSetBeaconInterval
    dsimp only
    split <;> rfl
  | _ => rfl

/-- Only a power mode command changes the power mode. -/
theorem CommandEffect.onSystem_powerMode (effect : CommandEffect) (sys : SystemState)
    (faults : FaultMgmt) (now : UInt64) :
    (effect.onSystem sys faults now).record.power.powerMode =
      match effect with
      | .setPowerMode mode => mode
      | _ => sys.record.power.powerMode := by
  cases effect with
  | setBeacon intervalS =>
    unfold onSystem sysSetBeaconInterval
    dsimp only
    split <;> rfl
  | _ => rfl

/-- Only a mode command and the detumble command reach the state machine. -/
theorem CommandEffect.onSystem_smContext (effect : CommandEffect) (sys : SystemState)
    (faults : FaultMgmt) (now : UInt64) :
    (effect.onSystem sys faults now).record.smContext =
      match effect with
      | .force state => (smForceState sys.record.smContext faults state now).1
      | .detumble => (smProcessEvent sys.record.smContext faults eventBootComplete now).1
      | _ => sys.record.smContext := by
  cases effect with
  | setBeacon intervalS =>
    unfold onSystem sysSetBeaconInterval
    dsimp only
    split <;> rfl
  | _ => rfl

/-- Every effect but one only adds to the fault log. -/
theorem CommandEffect.onFaults_extends (effect : CommandEffect) (sys : SystemState)
    (faults : FaultMgmt) (now : UInt64) (kept : effect ≠ .clearFaults) :
    Extends faults (effect.onFaults sys faults now) := by
  cases effect with
  | nothing | setPowerMode mode | setBeacon intervalS | setPayload enabled =>
    exact Extends.refl faults
  | clearFaults => exact absurd rfl kept
  | noteReset | force state => exact faultLogAdd_extends faults _ _ _ _ _
  | detumble => exact smProcessEvent_extends sys.record.smContext faults eventBootComplete now

end

section

variable {Handler : Type} [CLayout FaultRecord]

/-- The on-board computer after the effect of a command, if it has one. -/
def Obc.apply (obc : Obc Handler) (effect : Option CommandEffect) (now : UInt64) : Obc Handler :=
  match effect with
  | none => obc
  | some effect =>
    { obc with
      sys := effect.onSystem obc.sys obc.faults now
      faults := effect.onFaults obc.sys obc.faults now }

/-! ### The dispatch has these effects -/

/-- The state a handler leaves is the one of the command's effect, and it answers success
exactly when there is an effect. -/
structure Handled.Meets (handled : Handled Handler) (obc : Obc Handler)
    (effect : Option CommandEffect) (now : UInt64) : Prop where
  state : handled.obc = obc.apply effect now
  success : handled.result = .success ↔ effect.isSome = true
  authorised : handled.result ≠ .authFail

theorem meets_success (obc : Obc Handler) (response : CmdResponse) (effect : CommandEffect)
    (now : UInt64) :
    Handled.Meets ⟨obc.apply (some effect) now, response, .success⟩ obc (some effect) now :=
  ⟨rfl, iff_of_true rfl rfl, CmdResult.noConfusion⟩

theorem meets_rejected (obc : Obc Handler) (response : CmdResponse) {result : CmdResult}
    (rejected : result = .invalidCmd ∨ result = .invalidParam) (now : UInt64) :
    Handled.Meets ⟨obc, response, result⟩ obc none now := by
  rcases rejected with rfl | rfl <;>
    exact ⟨rfl, iff_of_false CmdResult.noConfusion Bool.false_ne_true, CmdResult.noConfusion⟩

/-- The identifiers that a handler has a case for. -/
def handledCommands : List UInt8 :=
  [cmdSysNop, cmdSysReset, cmdSysSetMode, cmdSysGetStatus, cmdSysClearFaults, cmdEpsSetMode,
    cmdEpsGetTelemetry, cmdAdcsDetumble, cmdAdcsGetAttitude, cmdCommSetBeacon, cmdPldEnable,
    cmdPldDisable]

omit [CLayout FaultRecord] in
theorem commandEffect?_unhandled {cmd : Command} (unhandled : cmd.cmdId ∉ handledCommands) :
    commandEffect? cmd = none := by
  simp only [handledCommands, List.mem_cons, List.not_mem_nil, or_false, not_or] at unhandled
  unfold commandEffect?
  simp only [unhandled, or_self, if_false]

/-- Whatever its category, a command without a case is rejected. -/
theorem routeCommand_unhandled (obc : Obc Handler) (cmd : Command) (response : CmdResponse)
    (now : UInt64) (unhandled : cmd.cmdId ∉ handledCommands) :
    routeCommand obc cmd response now = ⟨obc, response, .invalidCmd⟩ := by
  simp only [handledCommands, List.mem_cons, List.not_mem_nil, or_false, not_or] at unhandled
  unfold routeCommand handleSystemCmd handleEpsCmd handleAdcsCmd handleCommCmd handlePayloadCmd
  simp only [unhandled, if_false, ite_self]

/-- The dispatch leaves the state of the command's effect, and answers success exactly when
there is one. -/
theorem routeCommand_meets (obc : Obc Handler) (cmd : Command) (response : CmdResponse)
    (now : UInt64) :
    (routeCommand obc cmd response now).Meets obc (commandEffect? cmd) now := by
  by_cases handled : cmd.cmdId ∈ handledCommands
  · obtain ⟨cmdId, sequenceNum, payloadLen, payload, timestampMs, requiresAck⟩ := cmd
    simp only [handledCommands, List.mem_cons, List.not_mem_nil, or_false] at handled
    rcases handled with rfl | rfl | rfl | rfl | rfl | rfl | rfl | rfl | rfl | rfl | rfl | rfl
    -- Both sides decide their conditions on the identifier, in the order of `handledCommands`.
    all_goals
      unfold routeCommand handleSystemCmd handleEpsCmd handleAdcsCmd handleCommCmd
        handlePayloadCmd commandEffect?
      simp +decide only [if_true, if_false]
    · exact meets_success obc response .nothing now
    · exact meets_success obc response .noteReset now
    · by_cases given : payloadLen ≥ 1
      · rw [if_pos given, if_pos given]
        cases commandedState? (payload.get 0) with
        | none => exact meets_rejected obc response (Or.inr rfl) now
        | some mode => exact meets_success obc response (.force mode) now
      · rw [if_neg given, if_neg given]
        exact meets_rejected obc response (Or.inr rfl) now
    · exact meets_success obc _ .nothing now
    · exact meets_success obc response .clearFaults now
    · by_cases given : payloadLen ≥ 1
      · rw [if_pos given, if_pos given]
        cases PowerMode.ofValue? (payload.get 0).toUInt32 with
        | none => exact meets_rejected obc response (Or.inr rfl) now
        | some mode => exact meets_success obc response (.setPowerMode mode) now
      · rw [if_neg given, if_neg given]
        exact meets_rejected obc response (Or.inr rfl) now
    · exact meets_success obc _ .nothing now
    · exact meets_success obc response .detumble now
    · exact meets_success obc _ .nothing now
    · unfold sysSetBeaconInterval
      by_cases given : payloadLen ≥ 2
      · rw [if_pos given]
        by_cases outside : bigEndian16 (payload.get 0) (payload.get 1) < 10 ∨
            bigEndian16 (payload.get 0) (payload.get 1) > 120
        · rw [if_pos outside, if_neg fun both => both.2 outside]
          exact meets_rejected obc response (Or.inr rfl) now
        · rw [if_neg outside, if_pos ⟨given, outside⟩]
          refine ⟨?_, iff_of_true rfl rfl, CmdResult.noConfusion⟩
          simp only [Obc.apply, CommandEffect.onSystem, CommandEffect.onFaults,
            sysSetBeaconInterval, if_neg outside, Option.getD_some]
      · rw [if_neg given, if_neg fun both => given both.1]
        exact meets_rejected obc response (Or.inr rfl) now
    · exact meets_success obc response (.setPayload true) now
    · exact meets_success obc response (.setPayload false) now
  · rw [routeCommand_unhandled obc cmd response now handled, commandEffect?_unhandled handled]
    exact meets_rejected obc response (Or.inl rfl) now

/-! ### Executing a command -/

/-- No custom handler is registered. -/
def NoCustomHandlers (obc : Obc Handler) : Prop :=
  ∀ cmdId, findCustomHandler obc.cmd cmdId = none

omit [CLayout FaultRecord] in
theorem noCustomHandlers_init (sys : SystemState) (faults : FaultMgmt) :
    NoCustomHandlers (⟨cmdHandlerInit, sys, faults⟩ : Obc Handler) := by
  intro cmdId
  unfold findCustomHandler cmdHandlerInit
  rw [Vector.toList_replicate]
  rfl

/-- What executing a command without a custom handler can do: the state it leads to and the
result in its response. The statistics are whatever they are counted to be. -/
inductive Executed (obc : Obc Handler) (cmd : Command) (now : UInt64) :
    Obc Handler → CmdResult → Prop
  | notAllowed (stats : CmdStats)
      (refused : cmdIsAllowed (sysGetOperationalState obc.sys) cmd.cmdId = false) :
      Executed obc cmd now
        { cmd := { obc.cmd with stats := stats }
          sys := obc.sys
          faults := faultLogAdd obc.faults .uart .warning "Command not allowed in state" 0 now }
        .notAllowed
  | unauthorised
      (allowed : cmdIsAllowed (sysGetOperationalState obc.sys) cmd.cmdId = true)
      (required : cmdRequiresAuth cmd.cmdId = true) (unverified : cmdVerifyAuth cmd = false) :
      Executed obc cmd now
        { obc.count fun stats => { stats with authFailures := stats.authFailures + 1 } with
          faults := faultLogAdd obc.faults .uart .warning "Command auth failed" 0 now }
        .authFail
  | rejected (stats : CmdStats) (result : CmdResult)
      (allowed : cmdIsAllowed (sysGetOperationalState obc.sys) cmd.cmdId = true)
      (authorised : cmdRequiresAuth cmd.cmdId = true → cmdVerifyAuth cmd = true)
      (ineffective : commandEffect? cmd = none) (failed : result ≠ .success)
      (other : result ≠ .authFail) :
      Executed obc cmd now { obc with cmd := { obc.cmd with stats := stats } } result
  | done (stats : CmdStats) (effect : CommandEffect)
      (allowed : cmdIsAllowed (sysGetOperationalState obc.sys) cmd.cmdId = true)
      (authorised : cmdRequiresAuth cmd.cmdId = true → cmdVerifyAuth cmd = true)
      (effective : commandEffect? cmd = some effect) :
      Executed obc cmd now
        { cmd := { obc.cmd with stats := stats }
          sys := sysIncrementCommandCount (effect.onSystem obc.sys obc.faults now) now
          faults := effect.onFaults obc.sys obc.faults now }
        .success

theorem cmdExecute_executed (invoke : Invoke Handler) (obc : Obc Handler) (cmd : Command)
    (response : CmdResponse) (now : UInt64)
    (plain : findCustomHandler obc.cmd cmd.cmdId = none) :
    Executed obc cmd now (cmdExecute invoke obc cmd response now).1
      (cmdExecute invoke obc cmd response now).2.result := by
  unfold cmdExecute
  by_cases refused : cmdIsAllowed (sysGetOperationalState obc.sys) cmd.cmdId = false
  · rw [if_pos refused]
    exact .notAllowed _ refused
  have allowed : cmdIsAllowed (sysGetOperationalState obc.sys) cmd.cmdId = true :=
    Bool.not_eq_false _ ▸ refused
  rw [if_neg refused]
  by_cases failed : cmdRequiresAuth cmd.cmdId = true ∧ cmdVerifyAuth cmd = false
  · rw [if_pos failed]
    exact .unauthorised allowed failed.1 failed.2
  have authorised : cmdRequiresAuth cmd.cmdId = true → cmdVerifyAuth cmd = true :=
    fun required => Bool.not_eq_false _ ▸ fun unverified => failed ⟨required, unverified⟩
  rw [if_neg failed, runHandler, plain]
  obtain ⟨state, success, other⟩ := routeCommand_meets obc cmd (response.start cmd) now
  show Executed obc cmd now (recordResult (routeCommand obc cmd (response.start cmd) now) cmd now).1
    (recordResult (routeCommand obc cmd (response.start cmd) now) cmd now).2.result
  generalize routeCommand obc cmd (response.start cmd) now = handled at *
  obtain ⟨reached, answer, result⟩ := handled
  subst state
  unfold recordResult
  cases effect : commandEffect? cmd with
  | none =>
    rw [effect] at success
    have unsuccessful : result ≠ .success := fun same =>
      absurd (success.mp same) Bool.false_ne_true
    simp only [if_neg unsuccessful]
    exact .rejected _ result allowed authorised effect unsuccessful other
  | some effect' =>
    rw [effect] at success
    have successful : result = .success := success.mpr rfl
    simp only [if_pos successful]
    rw [successful]
    exact .done _ effect' allowed authorised effect

/-- A command that is allowed, authorised where it has to be, and has the given effect. -/
structure Granted (obc : Obc Handler) (cmd : Command) (effect : CommandEffect) : Prop where
  allowed : cmdIsAllowed (sysGetOperationalState obc.sys) cmd.cmdId = true
  authorised : cmdRequiresAuth cmd.cmdId = true → cmdVerifyAuth cmd = true
  commanded : effect.Commanded cmd

omit [CLayout FaultRecord] in
/-- A command that needs the authorization code carries it when it is granted. -/
theorem Granted.verified {obc : Obc Handler} {cmd : Command} {effect : CommandEffect}
    (granted : Granted obc cmd effect) {cmdId : UInt8} (same : cmd.cmdId = cmdId)
    (required : cmdRequiresAuth cmdId = true) : cmdVerifyAuth cmd = true := by
  refine granted.authorised ?_
  rw [same]
  exact required

omit [CLayout FaultRecord] in
/-- A command that does not need the code is authorised. -/
theorem authorised_of_free {cmd : Command} {cmdId : UInt8} (same : cmd.cmdId = cmdId)
    (free : cmdRequiresAuth cmdId = false) :
    cmdRequiresAuth cmd.cmdId = true → cmdVerifyAuth cmd = true := by
  intro required
  rw [same, free] at required
  exact absurd required Bool.false_ne_true

/-- A command has the effect it is granted and is counted, or leaves the system state alone. -/
theorem Executed.granted_or_refused {obc reached : Obc Handler} {cmd : Command} {now : UInt64}
    {result : CmdResult} (executed : Executed obc cmd now reached result) :
    (∃ effect, Granted obc cmd effect ∧ result = .success ∧
        reached.sys = sysIncrementCommandCount (effect.onSystem obc.sys obc.faults now) now ∧
        reached.faults = effect.onFaults obc.sys obc.faults now) ∨
      ((∀ effect, ¬ Granted obc cmd effect) ∧ result ≠ .success ∧ reached.sys = obc.sys) := by
  cases executed with
  | notAllowed stats refused =>
    refine Or.inr ⟨fun effect granted => ?_, CmdResult.noConfusion, rfl⟩
    exact absurd (granted.allowed.symm.trans refused) Bool.false_ne_true.symm
  | unauthorised allowed required unverified =>
    refine Or.inr ⟨fun effect granted => ?_, CmdResult.noConfusion, rfl⟩
    exact absurd ((granted.authorised required).symm.trans unverified) Bool.false_ne_true.symm
  | rejected stats _ allowed authorised ineffective failed other =>
    refine Or.inr ⟨fun effect granted => ?_, failed, rfl⟩
    have effective := (commandEffect?_eq_some_iff cmd effect).mpr granted.commanded
    exact absurd (ineffective.symm.trans effective) (Option.some_ne_none effect).symm
  | done stats effect allowed authorised effective =>
    have commanded := (commandEffect?_eq_some_iff cmd effect).mp effective
    exact Or.inl ⟨effect, ⟨allowed, authorised, commanded⟩, rfl, rfl, rfl⟩

omit [CLayout FaultRecord] in
/-- A command is granted one effect at most. -/
theorem Granted.unique {obc : Obc Handler} {cmd : Command} {first second : CommandEffect}
    (one : Granted obc cmd first) (other : Granted obc cmd second) : first = second := by
  have effect := (commandEffect?_eq_some_iff cmd first).mpr one.commanded
  rw [(commandEffect?_eq_some_iff cmd second).mpr other.commanded] at effect
  exact (Option.some.inj effect).symm

/-- A property of the system state that counting a command does not touch holds after a command
exactly when every effect it is granted keeps it. -/
theorem Executed.holds_iff {obc reached : Obc Handler} {cmd : Command} {now : UInt64}
    {result : CmdResult} (executed : Executed obc cmd now reached result)
    (good : SystemState → Prop) {keeps : CommandEffect → Prop} (before : good obc.sys)
    (counted : ∀ sys, good (sysIncrementCommandCount sys now) ↔ good sys)
    (exactly : ∀ effect, good (effect.onSystem obc.sys obc.faults now) ↔ keeps effect) :
    good reached.sys ↔ ∀ effect, Granted obc cmd effect → keeps effect := by
  rcases executed.granted_or_refused with ⟨effect, granted, _, after, _⟩ | ⟨refused, _, same⟩
  · rw [after, counted, exactly]
    constructor
    · intro kept other otherGranted
      rw [← granted.unique otherGranted]
      exact kept
    · intro kept
      exact kept effect granted
  · rw [same]
    exact iff_of_true before fun effect granted => absurd granted (refused effect)

theorem Executed.noCustomHandlers {obc reached : Obc Handler} {cmd : Command} {now : UInt64}
    {result : CmdResult} (executed : Executed obc cmd now reached result)
    (none : NoCustomHandlers obc) : NoCustomHandlers reached := by
  cases executed <;> exact none

end

end SmartQso
