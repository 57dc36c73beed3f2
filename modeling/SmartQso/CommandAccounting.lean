/-
This file proves that the accounts of the command handler balance. A frame that is
received is settled once, as executed, as rejected or as an authorisation failure,
on whichever of the exits of `cmd_process` and `cmd_execute` it leaves, and the
command count of the system state follows the executed ones.
-/

import SmartQso.CommandAuthority
import SmartQso.CommandFrame

namespace SmartQso

open Runs

/-! ### Calls -/

/-- A call of the command handler: a frame with what the response buffer and the payload array
hold before, or one of the two other entry points. -/
inductive HandlerCall (Handler : Type)
  | process (rawData : List UInt8) (response : CmdResponse) (stack : Vector UInt8 64)
      (now : UInt64)
  | clearStats
  | registerHandler (cmdId : UInt8) (handler : Option Handler)

/-- The on-board computer with a ghost: how many frames were executed successfully so far. -/
structure Accounted (Handler : Type) where
  obc : Obc Handler
  executed : Nat

/-- The frames that have been received are settled, and the executed ones are counted. -/
structure Balanced {Handler : Type} (accounted : Accounted Handler) : Prop where
  settled : accounted.obc.cmd.stats.totalReceived =
    accounted.obc.cmd.stats.totalExecuted + accounted.obc.cmd.stats.totalRejected +
      accounted.obc.cmd.stats.authFailures
  counted : accounted.obc.sys.record.mission.commandCount = UInt32.ofNat accounted.executed

section

variable {Handler : Type}

/-- The registered handlers touch neither the statistics nor the command count. -/
def LeavesAccounts (invoke : Invoke Handler) : Prop :=
  ∀ (handler : Handler) (cmd : Command) (response : CmdResponse) (obc : Obc Handler)
    (now : UInt64),
    (invoke handler cmd response obc now).obc.cmd.stats = obc.cmd.stats ∧
      (invoke handler cmd response obc now).obc.sys.record.mission.commandCount =
        obc.sys.record.mission.commandCount

/-- One received frame is settled, and it is counted as a command if it was executed. -/
structure Settles (before after : Obc Handler) (result : CmdResult) : Prop where
  received : after.cmd.stats.totalReceived = before.cmd.stats.totalReceived
  settled : after.cmd.stats.totalExecuted + after.cmd.stats.totalRejected +
      after.cmd.stats.authFailures =
    before.cmd.stats.totalExecuted + before.cmd.stats.totalRejected +
      before.cmd.stats.authFailures + 1
  counted : after.sys.record.mission.commandCount =
    before.sys.record.mission.commandCount + if result = .success then 1 else 0

variable [CLayout FaultRecord]

/-- A call, counted when a frame is answered with success. -/
def handlerCall (invoke : Invoke Handler) (accounted : Accounted Handler) :
    HandlerCall Handler → Accounted Handler
  | .process rawData response stack now =>
    let processed := cmdProcess invoke accounted.obc rawData response stack now
    { obc := processed.1
      executed :=
        if processed.2.2 = .ok ∧ processed.2.1.result = .success then accounted.executed + 1
        else accounted.executed }
  | .clearStats =>
    { accounted with obc.cmd := cmdClearStats accounted.obc.cmd }
  | .registerHandler cmdId handler =>
    { accounted with obc.cmd := (cmdRegisterHandler accounted.obc.cmd cmdId handler).1 }

/-! ### The exits of `cmd_execute` -/

omit [CLayout FaultRecord] in
/-- Counting a rejection settles a frame that was not executed. -/
theorem settles_rejected (obc : Obc Handler) (faults : FaultMgmt) {result : CmdResult}
    (failed : result ≠ .success) :
    Settles obc
      { obc.count fun stats => { stats with totalRejected := stats.totalRejected + 1 } with
        faults := faults } result := by
  refine ⟨rfl, ?_, ?_⟩
  · show obc.cmd.stats.totalExecuted + (obc.cmd.stats.totalRejected + 1) + _ = _
    ac_rfl
  · rw [if_neg failed, UInt32.add_zero]
    rfl

omit [CLayout FaultRecord] in
/-- Counting an authorisation failure settles a frame too. -/
theorem settles_unauthorised (obc : Obc Handler) (faults : FaultMgmt) :
    Settles obc
      { obc.count fun stats => { stats with authFailures := stats.authFailures + 1 } with
        faults := faults } .authFail := by
  refine ⟨rfl, ?_, ?_⟩
  · show obc.cmd.stats.totalExecuted + _ + (obc.cmd.stats.authFailures + 1) = _
    ac_rfl
  · rw [if_neg CmdResult.noConfusion, UInt32.add_zero]
    rfl

omit [CLayout FaultRecord] in
/-- The end of `cmd_execute` settles the frame by the result of its handler. -/
theorem recordResult_settles {obc : Obc Handler} {handled : Handled Handler}
    (stats : handled.obc.cmd.stats = obc.cmd.stats)
    (commands : handled.obc.sys.record.mission.commandCount =
      obc.sys.record.mission.commandCount) (cmd : Command) (now : UInt64) :
    Settles obc (recordResult handled cmd now).1 handled.result := by
  unfold recordResult
  dsimp only
  by_cases success : handled.result = .success
  · rw [if_pos success]
    refine ⟨?_, ?_, ?_⟩
    · show handled.obc.cmd.stats.totalReceived = _
      rw [stats]
    · show handled.obc.cmd.stats.totalExecuted + 1 + handled.obc.cmd.stats.totalRejected +
        handled.obc.cmd.stats.authFailures = _
      rw [stats]
      ac_rfl
    · show handled.obc.sys.record.mission.commandCount + 1 = _
      rw [commands, if_pos success]
  · rw [if_neg success]
    refine ⟨?_, ?_, ?_⟩
    · show handled.obc.cmd.stats.totalReceived = _
      rw [stats]
    · show handled.obc.cmd.stats.totalExecuted + (handled.obc.cmd.stats.totalRejected + 1) +
        handled.obc.cmd.stats.authFailures = _
      rw [stats]
      ac_rfl
    · show handled.obc.sys.record.mission.commandCount = _
      rw [commands, if_neg success, UInt32.add_zero]

/-- No effect of a command touches the command count. -/
theorem CommandEffect.onSystem_commandCount (effect : CommandEffect) (sys : SystemState)
    (faults : FaultMgmt) (now : UInt64) :
    (effect.onSystem sys faults now).record.mission.commandCount =
      sys.record.mission.commandCount := by
  cases effect with
  | setBeacon intervalS =>
    unfold onSystem sysSetBeaconInterval
    dsimp only
    split <;> rfl
  | _ => rfl

/-- Neither the registered handlers nor the ones of the categories touch the accounts. -/
theorem runHandler_leaves {invoke : Invoke Handler} (leaves : LeavesAccounts invoke)
    (obc : Obc Handler) (cmd : Command) (response : CmdResponse) (now : UInt64) :
    (runHandler invoke obc cmd response now).obc.cmd.stats = obc.cmd.stats ∧
      (runHandler invoke obc cmd response now).obc.sys.record.mission.commandCount =
        obc.sys.record.mission.commandCount := by
  unfold runHandler
  split
  · next custom found => exact leaves custom cmd response obc now
  · rw [(routeCommand_meets obc cmd response now).state]
    cases commandEffect? cmd with
    | none => exact ⟨rfl, rfl⟩
    | some effect => exact ⟨rfl, effect.onSystem_commandCount obc.sys obc.faults now⟩

theorem cmdExecute_settles {invoke : Invoke Handler} (leaves : LeavesAccounts invoke)
    (obc : Obc Handler) (cmd : Command) (response : CmdResponse) (now : UInt64) :
    Settles obc (cmdExecute invoke obc cmd response now).1
      (cmdExecute invoke obc cmd response now).2.result := by
  unfold cmdExecute
  dsimp only
  by_cases denied : cmdIsAllowed (sysGetOperationalState obc.sys) cmd.cmdId = false
  · rw [if_pos denied]
    exact settles_rejected obc _ CmdResult.noConfusion
  rw [if_neg denied]
  by_cases failed : cmdRequiresAuth cmd.cmdId = true ∧ cmdVerifyAuth cmd = false
  · rw [if_pos failed]
    exact settles_unauthorised obc _
  rw [if_neg failed]
  obtain ⟨stats, commands⟩ := runHandler_leaves leaves obc cmd (response.start cmd) now
  have result : (recordResult (runHandler invoke obc cmd (response.start cmd) now) cmd
      now).2.result = (runHandler invoke obc cmd (response.start cmd) now).result := by
    unfold recordResult
    dsimp only
    split <;> rfl
  rw [result]
  exact recordResult_settles stats commands cmd now

/-! ### Frames -/

/-- A frame is received and settled, or the handler is not initialized and answers an error. -/
theorem cmdProcess_settles {invoke : Invoke Handler} (leaves : LeavesAccounts invoke)
    (obc : Obc Handler) (rawData : List UInt8) (response : CmdResponse)
    (stack : Vector UInt8 64) (now : UInt64) :
    let processed := cmdProcess invoke obc rawData response stack now
    (processed.2.2 = .ok ∧
        Settles (obc.count fun stats => { stats with totalReceived := stats.totalReceived + 1 })
          processed.1 processed.2.1.result) ∨
      (processed.2.2 ≠ .ok ∧ processed.1 = obc) := by
  intro processed
  unfold processed cmdProcess
  dsimp only
  by_cases initialized : obc.cmd.initialized = true
  · rw [if_pos initialized]
    refine Or.inl ?_
    split
    · split
      · exact ⟨rfl, cmdExecute_settles leaves _ _ response now⟩
      · exact ⟨rfl, settles_rejected _ _ CmdResult.noConfusion⟩
    · exact ⟨rfl, settles_rejected _ _ CmdResult.noConfusion⟩
  · rw [if_neg initialized]
    exact Or.inr ⟨SmartQsoResult.noConfusion, rfl⟩

/-! ### Every call -/

omit [CLayout FaultRecord] in
/-- Registering a handler touches the table of handlers only. -/
theorem cmdRegisterHandler_stats (handlers : CmdHandler Handler) (cmdId : UInt8)
    (handler : Option Handler) :
    (cmdRegisterHandler handlers cmdId handler).1.stats = handlers.stats := by
  unfold cmdRegisterHandler
  split
  · rfl
  · split <;> rfl

theorem handlerCall_balanced {invoke : Invoke Handler} (leaves : LeavesAccounts invoke)
    (accounted : Accounted Handler) (call : HandlerCall Handler) (balanced : Balanced accounted) :
    Balanced (handlerCall invoke accounted call) := by
  obtain ⟨settled, counted⟩ := balanced
  cases call with
  | process rawData response stack now =>
    rcases cmdProcess_settles leaves accounted.obc rawData response stack now with
      ⟨answered, received, outcome, commands⟩ | ⟨refused, same⟩
    · constructor
      · show CmdStats.totalReceived (Obc.cmd (cmdProcess _ _ _ _ _ _).1).stats = _
        refine received.trans (Eq.trans ?_ outcome.symm)
        exact congrArg (· + 1) settled
      · show MissionState.commandCount _ = UInt32.ofNat (if _ then _ else _)
        refine commands.trans ?_
        show accounted.obc.sys.record.mission.commandCount + _ = _
        rw [counted, if_congr (and_iff_right answered) rfl rfl]
        split
        · exact (UInt32.ofNat_add _ 1).symm
        · exact UInt32.add_zero _
    · show Balanced ⟨(cmdProcess _ _ _ _ _ _).1, if _ then _ else _⟩
      rw [if_neg fun both => refused both.1, same]
      exact ⟨settled, counted⟩
  | clearStats => exact ⟨rfl, counted⟩
  | registerHandler cmdId handler =>
    refine ⟨?_, counted⟩
    dsimp only [handlerCall]
    rw [cmdRegisterHandler_stats]
    exact settled

/-! ### Every run -/

/-- In every sequence of calls of the command handler after the initializations, with handlers
that leave the accounts alone, the accounts balance after every step. -/
theorem command_accounts_balance [CLayout SystemRecord] {invoke : Invoke Handler}
    (leaves : LeavesAccounts invoke) (faults : FaultMgmt) (now : UInt64)
    (calls : List (HandlerCall Handler)) :
    Throughout (handlerCall invoke) Balanced ⟨Obc.start faults now, 0⟩ calls := by
  have initial : Balanced (⟨Obc.start faults now, 0⟩ : Accounted Handler) := ⟨rfl, rfl⟩
  have preserved : ∀ (accounted : Accounted Handler) (call : HandlerCall Handler),
      Balanced accounted → Balanced (handlerCall invoke accounted call) :=
    fun accounted call balanced => handlerCall_balanced leaves accounted call balanced
  exact throughout_of_preserved preserved initial calls

omit [CLayout FaultRecord] in
/-- A handler for the frames with identifier 3 that answers success is registered, a frame is
executed by it, the statistics are cleared, and a frame with a wrong start is rejected. -/
theorem command_accounts_balance_registered :
    letI := CLayout.blank FaultRecord
    letI := CLayout.blank SystemRecord
    let answer : Invoke Unit := fun _ _ response obc _ => ⟨obc, response, .success⟩
    let blank : CmdResponse := ⟨0, 0, .success, 0, Vector.replicate 64 0⟩
    LeavesAccounts answer ∧
      Throughout (handlerCall answer) Balanced ⟨Obc.start FaultMgmt.boot 0, 0⟩
        [.registerHandler 3 (some ()),
          .process (commandFrame 3 [0, 60]) blank (Vector.replicate 64 0) 0, .clearStats,
          .process [0, 0, 0, 0] blank (Vector.replicate 64 0) 0] :=
  letI := CLayout.blank FaultRecord
  letI := CLayout.blank SystemRecord
  ⟨fun _ _ _ _ _ => ⟨rfl, rfl⟩, command_accounts_balance (fun _ _ _ _ _ => ⟨rfl, rfl⟩) _ _ _⟩

end

end SmartQso
