/-
This file proves that the critical effects of ground commands, switching the payload
on and clearing the fault log, are had only by the commands meant for them and only
with the authorization code, and that a command without the code leaves nothing
behind but a count and an entry in the fault log.
-/

import SmartQso.CommandEffects
import SmartQso.Runs

namespace SmartQso

open Runs

/-! ### Runs of commands -/

/-- A call of `cmd_execute`: the command, what the response buffer holds before, and the time. -/
structure CommandCall where
  cmd : Command
  response : CmdResponse
  now : UInt64

/-- A call with a given identifier and payload; the rest is zero. -/
def groundCommand (cmdId : UInt8) (bytes : List UInt8) : CommandCall where
  cmd :=
    { cmdId := cmdId
      sequenceNum := 0
      payloadLen := bytes.length.toUInt8
      payload := copyBytes bytes (Vector.replicate 64 0)
      timestampMs := 0
      requiresAck := true }
  response :=
    { cmdId := 0
      sequenceNum := 0
      result := .success
      dataLen := 0
      data := Vector.replicate 64 0 }
  now := 0

/-- How handlers are run where there is none to register. -/
def noHandler : Invoke Empty := fun handler _ _ _ _ => handler.elim

/-- The first four payload bytes are DE AD BE EF. -/
def CarriesAuthCode (cmd : Command) : Prop :=
  cmd.payloadLen ≥ 4 ∧ cmd.payload.get 0 = 0xDE ∧ cmd.payload.get 1 = 0xAD ∧
    cmd.payload.get 2 = 0xBE ∧ cmd.payload.get 3 = 0xEF

theorem carriesAuthCode_of_verified {cmd : Command} (verified : cmdVerifyAuth cmd = true) :
    CarriesAuthCode cmd := by
  unfold cmdVerifyAuth at verified
  split at verified
  · exact absurd verified Bool.false_ne_true
  · next long =>
    obtain ⟨first, second, third, fourth⟩ := bigEndian32_bytes (cmd.payload.get 0)
      (cmd.payload.get 1) (cmd.payload.get 2) (cmd.payload.get 3)
    rw [of_decide_eq_true verified] at first second third fourth
    exact ⟨UInt8.not_lt.mp long, first.symm, second.symm, third.symm, fourth.symm⟩

section

variable {Handler : Type} [CLayout FaultRecord]

/-- The effect of a call. -/
def commandCall (invoke : Invoke Handler) (obc : Obc Handler) (call : CommandCall) :
    Obc Handler :=
  (cmdExecute invoke obc call.cmd call.response call.now).1

/-- The result in the response of a call. -/
def commandResult (invoke : Invoke Handler) (obc : Obc Handler) (call : CommandCall) :
    CmdResult :=
  (cmdExecute invoke obc call.cmd call.response call.now).2.result

/-- The on-board computer after `sys_state_init` and `cmd_handler_init`. -/
def Obc.start [CLayout SystemRecord] (faults : FaultMgmt) (now : UInt64) : Obc Handler :=
  ⟨cmdHandlerInit, sysStateInit now, faults⟩

/-- What a call may do to the payload, to the fault log, and when it is not authorised. -/
structure CriticalEffects (invoke : Invoke Handler) (obc : Obc Handler) (call : CommandCall) :
    Prop where
  /-- The payload goes from off to on only by an authorised `CMD_PLD_ENABLE`. -/
  payload : sysIsPayloadEnabled obc.sys = false →
    sysIsPayloadEnabled (commandCall invoke obc call).sys = true →
      call.cmd.cmdId = cmdPldEnable ∧ CarriesAuthCode call.cmd ∧
        sysGetOperationalState obc.sys ≠ .safe ∧ sysGetOperationalState obc.sys ≠ .emergency
  /-- The fault log loses nothing but its oldest entries, except by an authorised
  `CMD_SYS_CLEAR_FAULTS`. -/
  faultLog : ¬ (call.cmd.cmdId = cmdSysClearFaults ∧ CarriesAuthCode call.cmd) →
    Extends obc.faults (commandCall invoke obc call).faults
  /-- A command rejected for authorisation counts a failure and enters a fault. -/
  unauthorised : commandResult invoke obc call = .authFail →
    commandCall invoke obc call =
      { obc.count fun stats => { stats with authFailures := stats.authFailures + 1 } with
        faults :=
          faultLogAdd obc.faults .uart .warning "Command auth failed" 0 call.now }

/-! ### Each call -/

omit [CLayout FaultRecord] in
/-- `CMD_PLD_ENABLE` is not among the commands of the safe and the emergency state. -/
theorem cmdIsAllowed_pldEnable (state : SmState) :
    cmdIsAllowed state cmdPldEnable = true ↔ state ≠ .safe ∧ state ≠ .emergency := by
  cases state <;> decide

theorem executed_payload {obc reached : Obc Handler} {cmd : Command} {now : UInt64}
    {result : CmdResult} (executed : Executed obc cmd now reached result)
    (off : sysIsPayloadEnabled obc.sys = false) (on : sysIsPayloadEnabled reached.sys = true) :
    cmd.cmdId = cmdPldEnable ∧ CarriesAuthCode cmd ∧
      sysGetOperationalState obc.sys ≠ .safe ∧ sysGetOperationalState obc.sys ≠ .emergency := by
  rcases executed.granted_or_refused with ⟨effect, granted, _, after, _⟩ | ⟨_, _, same⟩
  · rw [after] at on
    replace on : (effect.onSystem obc.sys obc.faults now).record.power.payloadEnabled = true := on
    have enabling : effect = .setPayload true := by
      rw [effect.onSystem_payload] at on
      cases effect with
      | setPayload enabled => exact congrArg CommandEffect.setPayload on
      | _ => exact absurd (off.symm.trans on) Bool.false_ne_true
    have enable : cmd.cmdId = cmdPldEnable := by
      rw [enabling] at granted
      exact granted.commanded
    have allowed := granted.allowed
    rw [enable, cmdIsAllowed_pldEnable] at allowed
    exact ⟨enable, carriesAuthCode_of_verified (granted.verified enable (by decide)), allowed⟩
  · rw [same, off] at on
    exact absurd on Bool.false_ne_true

theorem executed_faultLog {obc reached : Obc Handler} {cmd : Command} {now : UInt64}
    {result : CmdResult} (executed : Executed obc cmd now reached result)
    (other : ¬ (cmd.cmdId = cmdSysClearFaults ∧ CarriesAuthCode cmd)) :
    Extends obc.faults reached.faults := by
  cases executed with
  | notAllowed stats refused => exact faultLogAdd_extends obc.faults _ _ _ _ _
  | unauthorised allowed required unverified => exact faultLogAdd_extends obc.faults _ _ _ _ _
  | rejected stats _ allowed authorised ineffective failed _ => exact Extends.refl obc.faults
  | done stats effect allowed authorised effective =>
    refine effect.onFaults_extends obc.sys obc.faults now fun clearing => other ?_
    have granted : Granted obc cmd effect :=
      ⟨allowed, authorised, (commandEffect?_eq_some_iff cmd effect).mp effective⟩
    have clear : cmd.cmdId = cmdSysClearFaults := by
      rw [clearing] at granted
      exact granted.commanded
    exact ⟨clear, carriesAuthCode_of_verified (granted.verified clear (by decide))⟩

theorem executed_unauthorised {obc reached : Obc Handler} {cmd : Command} {now : UInt64}
    (executed : Executed obc cmd now reached .authFail) :
    reached =
      { obc.count fun stats => { stats with authFailures := stats.authFailures + 1 } with
        faults := faultLogAdd obc.faults .uart .warning "Command auth failed" 0 now } := by
  cases executed with
  | unauthorised allowed required unverified => rfl
  | rejected stats _ allowed authorised ineffective failed other => exact absurd rfl other

theorem criticalEffects_of_plain (invoke : Invoke Handler) {obc : Obc Handler}
    (plain : NoCustomHandlers obc) (call : CommandCall) : CriticalEffects invoke obc call := by
  have executed := cmdExecute_executed invoke obc call.cmd call.response call.now
    (plain call.cmd.cmdId)
  refine ⟨executed_payload executed, executed_faultLog executed, fun failed => ?_⟩
  have failedRun : Executed obc call.cmd call.now (commandCall invoke obc call) .authFail := by
    rw [← failed]
    exact executed
  exact executed_unauthorised failedRun

/-! ### Every run -/

theorem commandCall_noCustomHandlers (invoke : Invoke Handler) {obc : Obc Handler}
    (plain : NoCustomHandlers obc) (call : CommandCall) :
    NoCustomHandlers (commandCall invoke obc call) :=
  (cmdExecute_executed invoke obc call.cmd call.response call.now
    (plain call.cmd.cmdId)).noCustomHandlers plain

/-- In every sequence of commands after the initializations, every step has only the critical
effects that its command is authorised for. -/
theorem critical_effects_authorised [CLayout SystemRecord] (invoke : Invoke Handler)
    (faults : FaultMgmt) (now : UInt64) (calls : List CommandCall) :
    EachStep (commandCall invoke) (CriticalEffects invoke) (Obc.start faults now) calls := by
  have preserved : ∀ (obc : Obc Handler) (call : CommandCall), NoCustomHandlers obc →
      NoCustomHandlers (commandCall invoke obc call) :=
    fun obc call plain => commandCall_noCustomHandlers invoke plain call
  have authorised : ∀ (obc : Obc Handler) (call : CommandCall), NoCustomHandlers obc →
      CriticalEffects invoke obc call :=
    fun obc call plain => criticalEffects_of_plain invoke plain call
  exact eachStep_of_invariant preserved authorised
    (noCustomHandlers_init (sysStateInit now) faults) calls

end

end SmartQso
