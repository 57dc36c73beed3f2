/-
This file models `cmd_handler.c`: which commands are allowed and which need the
authorization code, the dispatch to the category handlers, and the two entry
points, a command that is already built and a raw frame. A registered handler is a
function of code outside this repository; it is a name that `invoke` runs, with any
effect on the state. The clock stands still within one call.
-/

import SmartQso.InputValidation
import SmartQso.SystemState

namespace SmartQso

/-! ### Identifiers -/

/-- `CMD_SYS_NOP`. -/
def cmdSysNop : UInt8 := 0x00

/-- `CMD_SYS_RESET`. -/
def cmdSysReset : UInt8 := 0x01

/-- `CMD_SYS_SET_MODE`. -/
def cmdSysSetMode : UInt8 := 0x02

/-- `CMD_SYS_GET_STATUS`. -/
def cmdSysGetStatus : UInt8 := 0x03

/-- `CMD_SYS_CLEAR_FAULTS`. -/
def cmdSysClearFaults : UInt8 := 0x05

/-- `CMD_EPS_SET_MODE`. -/
def cmdEpsSetMode : UInt8 := 0x10

/-- `CMD_EPS_GET_TELEMETRY`. -/
def cmdEpsGetTelemetry : UInt8 := 0x13

/-- `CMD_ADCS_DETUMBLE`. -/
def cmdAdcsDetumble : UInt8 := 0x21

/-- `CMD_ADCS_GET_ATTITUDE`. -/
def cmdAdcsGetAttitude : UInt8 := 0x23

/-- `CMD_COMM_SET_BEACON`. -/
def cmdCommSetBeacon : UInt8 := 0x30

/-- `CMD_PLD_ENABLE`. -/
def cmdPldEnable : UInt8 := 0x40

/-- `CMD_PLD_DISABLE`. -/
def cmdPldDisable : UInt8 := 0x41

/-- `CMD_AUTH_CODE`. -/
def cmdAuthCode : UInt32 := 0xDEADBEEF

/-- `EVENT_BOOT_COMPLETE`. -/
def eventBootComplete : UInt32 := 1

/-- `CmdResult_t`. -/
inductive CmdResult
  | success
  | invalidCmd
  | invalidParam
  | authFail
  | notAllowed
  | execFail
  | busy
  deriving DecidableEq

/-! ### State -/

/-- `Command_t`. -/
structure Command where
  cmdId : UInt8
  sequenceNum : UInt8
  payloadLen : UInt8
  payload : Vector UInt8 64
  timestampMs : UInt32
  requiresAck : Bool
  deriving DecidableEq

/-- `CmdResponse_t`. -/
structure CmdResponse where
  cmdId : UInt8
  sequenceNum : UInt8
  result : CmdResult
  dataLen : UInt8
  data : Vector UInt8 64
  deriving DecidableEq

/-- `CmdStats_t`. -/
structure CmdStats where
  totalReceived : UInt32
  totalExecuted : UInt32
  totalRejected : UInt32
  authFailures : UInt32
  lastCmdTimeMs : UInt32
  lastCmdId : UInt8
  lastResult : CmdResult
  deriving DecidableEq

/-- `CustomHandler_t` in use. -/
structure CustomHandler (Handler : Type) where
  cmdId : UInt8
  handler : Handler

/-- The statics of `cmd_handler.c`; a slot that is not in use holds none. -/
structure CmdHandler (Handler : Type) where
  stats : CmdStats
  customHandlers : Vector (Option (CustomHandler Handler)) 16
  initialized : Bool

/-- The on-board computer as far as commands reach: the command handler, the system state and
the fault log. -/
structure Obc (Handler : Type) where
  cmd : CmdHandler Handler
  sys : SystemState
  faults : FaultMgmt

/-- What a handler leaves behind: the state, the response and the result it returns. -/
structure Handled (Handler : Type) where
  obc : Obc Handler
  response : CmdResponse
  result : CmdResult

/-- How a registered handler is run, at a given time. -/
abbrev Invoke (Handler : Type) :=
  Handler → Command → CmdResponse → Obc Handler → UInt64 → Handled Handler

/-! ### Buffers -/

/-- Copy bytes to the start of an array of 64 bytes. -/
def copyBytes (bytes : List UInt8) (target : Vector UInt8 64) : Vector UInt8 64 :=
  Vector.ofFn fun index => bytes.getD index.val (target.get index)

/-- Store bytes as the data of a response. -/
def CmdResponse.pack (response : CmdResponse) (bytes : List UInt8) : CmdResponse :=
  { response with data := copyBytes bytes response.data, dataLen := bytes.length.toUInt8 }

/-- The conversion of a `double` to `uint8_t`, for the values from 0 to 255 where C defines it. -/
def truncateToByte (value : ℚ) : UInt8 := value.floor.toNat.toUInt8

def Bool.toByte (flag : Bool) : UInt8 := if flag then 1 else 0

/-! ### Checks -/

/-- `cmd_is_allowed`. -/
def cmdIsAllowed (state : SmState) (cmdId : UInt8) : Bool :=
  if cmdId = cmdSysNop then true
  else if cmdId = cmdSysGetStatus ∨ cmdId = cmdEpsGetTelemetry ∨ cmdId = cmdAdcsGetAttitude then
    true
  else if state = .safe then
    decide (cmdId = cmdSysGetStatus ∨ cmdId = cmdSysSetMode ∨ cmdId = cmdEpsGetTelemetry ∨
      cmdId = cmdCommSetBeacon)
  else if state = .emergency then decide (cmdId = cmdSysGetStatus ∨ cmdId = cmdSysReset)
  else true

/-- `cmd_requires_auth`. -/
def cmdRequiresAuth (cmdId : UInt8) : Bool :=
  decide (cmdId = cmdSysReset ∨ cmdId = cmdSysClearFaults ∨ cmdId = cmdPldEnable)

/-- `cmd_verify_auth`. -/
def cmdVerifyAuth (cmd : Command) : Bool :=
  if cmd.payloadLen < 4 then false
  else
    let authCode := bigEndian32 (cmd.payload.get 0) (cmd.payload.get 1) (cmd.payload.get 2)
      (cmd.payload.get 3)
    decide (authCode = cmdAuthCode)

section

variable {Handler : Type}

/-- `find_custom_handler`. -/
def findCustomHandler (handlers : CmdHandler Handler) (cmdId : UInt8) : Option Handler :=
  handlers.customHandlers.toList.findSome? fun slot =>
    match slot with
    | some custom => if custom.cmdId = cmdId then some custom.handler else none
    | none => none

/-- The statistics after `cmd_handler_init`. -/
def CmdStats.cleared : CmdStats := ⟨0, 0, 0, 0, 0, 0, .success⟩

/-- `cmd_handler_init`. -/
def cmdHandlerInit : CmdHandler Handler where
  stats := .cleared
  customHandlers := Vector.replicate 16 none
  initialized := true

/-- `cmd_clear_stats`. -/
def cmdClearStats (handlers : CmdHandler Handler) : CmdHandler Handler :=
  { handlers with stats := .cleared }

/-- `cmd_register_handler`; a missing handler is a NULL pointer. -/
def cmdRegisterHandler (handlers : CmdHandler Handler) (cmdId : UInt8)
    (handler : Option Handler) : CmdHandler Handler × SmartQsoResult :=
  match handler with
  | none => (handlers, .errorNullPtr)
  | some handler =>
    match handlers.customHandlers.findFinIdx? Option.isNone with
    | none => (handlers, .errorNoMem)
    | some slot =>
      ({ handlers with
          customHandlers := handlers.customHandlers.set slot (some ⟨cmdId, handler⟩) }, .ok)

/-- Change the statistics. -/
def Obc.count (obc : Obc Handler) (change : CmdStats → CmdStats) : Obc Handler :=
  { obc with cmd := { obc.cmd with stats := change obc.cmd.stats } }

/-! ### Category handlers -/

/-- `handle_eps_cmd`. -/
def handleEpsCmd (obc : Obc Handler) (cmd : Command) (response : CmdResponse) (now : UInt64) :
    Handled Handler :=
  if cmd.cmdId = cmdEpsSetMode then
    if cmd.payloadLen ≥ 1 then
      match PowerMode.ofValue? (cmd.payload.get 0).toUInt32 with
      | some mode => ⟨{ obc with sys := sysSetPowerMode obc.sys mode now }, response, .success⟩
      | none => ⟨obc, response, .invalidParam⟩
    else ⟨obc, response, .invalidParam⟩
  else if cmd.cmdId = cmdEpsGetTelemetry then
    let power := obc.sys.record.power
    ⟨obc, response.pack [truncateToByte (power.batteryVoltage * 10),
      truncateToByte (power.stateOfCharge * 100), power.powerMode.code], .success⟩
  else ⟨obc, response, .invalidCmd⟩

/-- `handle_comm_cmd`. -/
def handleCommCmd (obc : Obc Handler) (cmd : Command) (response : CmdResponse) (now : UInt64) :
    Handled Handler :=
  if cmd.cmdId = cmdCommSetBeacon then
    if cmd.payloadLen ≥ 2 then
      let interval := bigEndian16 (cmd.payload.get 0) (cmd.payload.get 1)
      match sysSetBeaconInterval obc.sys interval now with
      | some sys => ⟨{ obc with sys := sys }, response, .success⟩
      | none => ⟨obc, response, .invalidParam⟩
    else ⟨obc, response, .invalidParam⟩
  else ⟨obc, response, .invalidCmd⟩

/-- `handle_payload_cmd`. -/
def handlePayloadCmd (obc : Obc Handler) (cmd : Command) (response : CmdResponse)
    (now : UInt64) : Handled Handler :=
  if cmd.cmdId = cmdPldEnable then
    ⟨{ obc with sys := sysSetPayloadEnabled obc.sys true now }, response, .success⟩
  else if cmd.cmdId = cmdPldDisable then
    ⟨{ obc with sys := sysSetPayloadEnabled obc.sys false now }, response, .success⟩
  else ⟨obc, response, .invalidCmd⟩

/-- The states `CMD_SYS_SET_MODE` can force. -/
def commandedState? (mode : UInt8) : Option SmState :=
  if mode = 0 then some .safe
  else if mode = 1 then some .idle
  else if mode = 2 then some .active
  else none

variable [CLayout FaultRecord]

/-- `handle_system_cmd`. -/
def handleSystemCmd (obc : Obc Handler) (cmd : Command) (response : CmdResponse)
    (now : UInt64) : Handled Handler :=
  if cmd.cmdId = cmdSysNop then ⟨obc, response, .success⟩
  else if cmd.cmdId = cmdSysReset then
    ⟨{ obc with faults := faultLogAdd obc.faults .init .info "Reset commanded" 0 now },
      response, .success⟩
  else if cmd.cmdId = cmdSysSetMode then
    if cmd.payloadLen ≥ 1 then
      match commandedState? (cmd.payload.get 0) with
      | some newState =>
        let forced := smForceState obc.sys.record.smContext obc.faults newState now
        ⟨{ obc with sys := setSmContext obc.sys forced.1, faults := forced.2 }, response,
          .success⟩
      | none => ⟨obc, response, .invalidParam⟩
    else ⟨obc, response, .invalidParam⟩
  else if cmd.cmdId = cmdSysGetStatus then
    ⟨obc, response.pack [(sysGetOperationalState obc.sys).code, (sysGetPowerMode obc.sys).code,
      Bool.toByte (sysIsPayloadEnabled obc.sys), Bool.toByte (sysHasThermalFault obc.sys)],
      .success⟩
  else if cmd.cmdId = cmdSysClearFaults then
    ⟨{ obc with faults := faultLogClear obc.faults }, response, .success⟩
  else ⟨obc, response, .invalidCmd⟩

/-- `handle_adcs_cmd`. -/
def handleAdcsCmd (obc : Obc Handler) (cmd : Command) (response : CmdResponse) (now : UInt64) :
    Handled Handler :=
  if cmd.cmdId = cmdAdcsDetumble then
    let processed := smProcessEvent obc.sys.record.smContext obc.faults eventBootComplete now
    ⟨{ obc with sys := setSmContext obc.sys processed.1, faults := processed.2.1 }, response,
      .success⟩
  else if cmd.cmdId = cmdAdcsGetAttitude then
    let adcs := obc.sys.record.adcs
    ⟨obc, response.pack [Bool.toByte adcs.detumbled, Bool.toByte adcs.sunAcquired], .success⟩
  else ⟨obc, response, .invalidCmd⟩

/-- The routing of `cmd_execute` by category. -/
def routeCommand (obc : Obc Handler) (cmd : Command) (response : CmdResponse) (now : UInt64) :
    Handled Handler :=
  let category := cmd.cmdId &&& 0xF0
  if category = 0x00 then handleSystemCmd obc cmd response now
  else if category = 0x10 then handleEpsCmd obc cmd response now
  else if category = 0x20 then handleAdcsCmd obc cmd response now
  else if category = 0x30 then handleCommCmd obc cmd response now
  else if category = 0x40 then handlePayloadCmd obc cmd response now
  else ⟨obc, response, .invalidCmd⟩

/-! ### The entry points -/

/-- The end of `cmd_execute`, once a handler has run. -/
def recordResult (handled : Handled Handler) (cmd : Command) (now : UInt64) :
    Obc Handler × CmdResponse :=
  let response := { handled.response with result := handled.result }
  let recorded := handled.obc.count fun stats =>
    { stats with
      lastCmdTimeMs := cmd.timestampMs
      lastCmdId := cmd.cmdId
      lastResult := response.result }
  if response.result = .success then
    let counted := recorded.count fun stats =>
      { stats with totalExecuted := stats.totalExecuted + 1 }
    ({ counted with sys := sysIncrementCommandCount counted.sys now }, response)
  else
    (recorded.count fun stats => { stats with totalRejected := stats.totalRejected + 1 },
      response)

/-- The response `cmd_execute` starts from: the data of an earlier response stays. -/
def CmdResponse.start (response : CmdResponse) (cmd : Command) : CmdResponse :=
  { response with
    cmdId := cmd.cmdId
    sequenceNum := cmd.sequenceNum
    result := .success
    dataLen := 0 }

/-- The handler that runs a command: the custom one, if any, or the one of the category. -/
def runHandler (invoke : Invoke Handler) (obc : Obc Handler) (cmd : Command)
    (response : CmdResponse) (now : UInt64) : Handled Handler :=
  match findCustomHandler obc.cmd cmd.cmdId with
  | some custom => invoke custom cmd response obc now
  | none => routeCommand obc cmd response now

/-- `cmd_execute`, which answers `SMART_QSO_OK`. -/
def cmdExecute (invoke : Invoke Handler) (obc : Obc Handler) (cmd : Command)
    (response : CmdResponse) (now : UInt64) : Obc Handler × CmdResponse :=
  let started := response.start cmd
  if cmdIsAllowed (sysGetOperationalState obc.sys) cmd.cmdId = false then
    let rejected := obc.count fun stats => { stats with totalRejected := stats.totalRejected + 1 }
    ({ rejected with
        faults := faultLogAdd rejected.faults .uart .warning "Command not allowed in state" 0 now },
      { started with result := .notAllowed })
  else if cmdRequiresAuth cmd.cmdId = true ∧ cmdVerifyAuth cmd = false then
    let failed := obc.count fun stats => { stats with authFailures := stats.authFailures + 1 }
    ({ failed with
        faults := faultLogAdd failed.faults .uart .warning "Command auth failed" 0 now },
      { started with result := .authFail })
  else recordResult (runHandler invoke obc cmd started now) cmd now

/-- The `Command_t` that `cmd_process` builds; `stack` is what its payload array holds before. -/
def receivedCommand (rawData : List UInt8) (validation : CommandValidation)
    (stack : Vector UInt8 64) (now : UInt64) : Command where
  cmdId := validation.cmdId
  sequenceNum := byteAt rawData 2
  payloadLen := validation.payloadLength
  payload :=
    let copyLen := min validation.payloadLength.toNat 64
    copyBytes ((rawData.drop 4).take copyLen) stack
  timestampMs := now.toUInt32
  requiresAck := true

/-- `cmd_process`. -/
def cmdProcess (invoke : Invoke Handler) (obc : Obc Handler) (rawData : List UInt8)
    (response : CmdResponse) (stack : Vector UInt8 64) (now : UInt64) :
    Obc Handler × CmdResponse × SmartQsoResult :=
  if obc.cmd.initialized then
    let validation := inputValidateCommand rawData
    let received := obc.count fun stats => { stats with totalReceived := stats.totalReceived + 1 }
    if validation.isValid then
      let cmd := receivedCommand rawData validation stack now
      if inputValidateCommandPayload cmd.cmdId cmd.payload cmd.payloadLen.toNat then
        let executed := cmdExecute invoke received cmd response now
        (executed.1, executed.2, .ok)
      else
        (received.count fun stats => { stats with totalRejected := stats.totalRejected + 1 },
          { response with result := .invalidParam }, .ok)
    else
      let rejected := received.count fun stats =>
        { stats with totalRejected := stats.totalRejected + 1 }
      ({ rejected with
          faults := faultLogAdd rejected.faults .uart .warning "Invalid command received" 0 now },
        { response with result := .invalidCmd }, .ok)
  else (obc, response, .errorInvalid)

end

end SmartQso
