/-
This file compares the two ways a ground command comes in: built by a caller and
handed to `cmd_execute`, or as a frame through `cmd_process`. The frame always
arrives as the command it was made from, but the payload check in between knows
other identifiers than the dispatch, and only two commands pass both tables.
-/

import SmartQso.CommandAuthority
import SmartQso.CommandFrame
import SmartQso.Untimed

namespace SmartQso

/-! ### One request, two commands -/

/-- A payload that fits a command. -/
structure Payload where
  bytes : List UInt8
  fits : bytes.length ≤ 64

/-- The rest of a direct call: the other members of the command, the bytes of its array that
are not payload, the response buffer and the time. -/
structure DirectCall where
  sequenceNum : UInt8
  timestampMs : UInt32
  requiresAck : Bool
  tail : Vector UInt8 64
  response : CmdResponse
  now : UInt64

/-- The rest of a call with a frame: what the array on the stack holds before, the response
buffer and the time. -/
structure WireCall where
  stack : Vector UInt8 64
  response : CmdResponse
  now : UInt64

/-- The command that a caller builds. -/
def directCommand (cmdId : UInt8) (payload : Payload) (call : DirectCall) : Command where
  cmdId := cmdId
  sequenceNum := call.sequenceNum
  payloadLen := payload.bytes.length.toUInt8
  payload := copyBytes payload.bytes call.tail
  timestampMs := call.timestampMs
  requiresAck := call.requiresAck

/-- The command that arrives by wire: the sequence number is the identifier, which stands where
it is read. -/
def wireCommand (cmdId : UInt8) (payload : Payload) (call : WireCall) : Command where
  cmdId := cmdId
  sequenceNum := cmdId
  payloadLen := payload.bytes.length.toUInt8
  payload := copyBytes payload.bytes call.stack
  timestampMs := call.now.toUInt32
  requiresAck := true

theorem Payload.toNat_length (payload : Payload) :
    payload.bytes.length.toUInt8.toNat = payload.bytes.length :=
  SmartQso.toNat_length (payload.fits.trans (by decide))

theorem copyBytes_get {bytes : List UInt8} (target : Vector UInt8 64) {index : Fin 64}
    (inside : index.val < bytes.length) :
    (copyBytes bytes target).get index = byteAt bytes index.val := by
  show (copyBytes bytes target)[index.val] = byteAt bytes index.val
  rw [copyBytes, Vector.getElem_ofFn, byteAt, List.getD_eq_getElem _ _ inside,
    List.getD_eq_getElem _ _ inside]

/-- The first two bytes of a command of two bytes or more. -/
theorem wireCommand_interval {cmdId : UInt8} {payload : Payload} {wire : WireCall}
    (two : payload.bytes.length ≥ 2) :
    bigEndian16 ((wireCommand cmdId payload wire).payload.get 0)
        ((wireCommand cmdId payload wire).payload.get 1) =
      bigEndian16 (byteAt payload.bytes 0) (byteAt payload.bytes 1) := by
  have first : (0 : Fin 64).val < payload.bytes.length := Nat.lt_of_lt_of_le (by decide) two
  have second : (1 : Fin 64).val < payload.bytes.length := Nat.lt_of_lt_of_le (by decide) two
  show bigEndian16 ((copyBytes payload.bytes wire.stack).get 0)
    ((copyBytes payload.bytes wire.stack).get 1) = _
  rw [copyBytes_get wire.stack first, copyBytes_get wire.stack second]
  rfl

/-- The frame of a request arrives as its command. -/
theorem receivedCommand_frame (cmdId : UInt8) (payload : Payload) (call : WireCall) :
    receivedCommand (commandFrame cmdId payload.bytes)
        (inputValidateCommand (commandFrame cmdId payload.bytes)) call.stack call.now =
      wireCommand cmdId payload call := by
  have content : ((commandFrame cmdId payload.bytes).drop 4).take
      (min payload.bytes.length.toUInt8.toNat 64) = payload.bytes := by
    rw [payload.toNat_length, Nat.min_eq_left payload.fits]
    exact List.take_left
  rw [inputValidateCommand_frame cmdId (payload.fits.trans (by decide)), receivedCommand]
  dsimp only
  rw [content]
  rfl

/-! ### What a command means -/

/-- Two commands that differ in neither the identifier nor a payload byte. -/
structure SameRequest (first second : Command) : Prop where
  cmdId : first.cmdId = second.cmdId
  payloadLen : first.payloadLen = second.payloadLen
  byte : ∀ index : Fin 64, index.val < first.payloadLen.toNat →
    first.payload.get index = second.payload.get index

theorem direct_wire_sameRequest (cmdId : UInt8) (payload : Payload) (direct : DirectCall)
    (wire : WireCall) :
    SameRequest (directCommand cmdId payload direct) (wireCommand cmdId payload wire) := by
  refine ⟨rfl, rfl, fun index inside => ?_⟩
  have within : index.val < payload.bytes.length := payload.toNat_length ▸ inside
  exact (copyBytes_get direct.tail within).trans (copyBytes_get wire.stack within).symm

section

variable {first second : Command}

/-- The bytes that a check of the length makes available are the same. -/
theorem SameRequest.byte_of_le (same : SameRequest first second) {index : Fin 64} {count : UInt8}
    (long : first.payloadLen ≥ count) (inside : index.val < count.toNat) :
    first.payload.get index = second.payload.get index :=
  same.byte index (Nat.lt_of_lt_of_le inside (UInt8.le_iff_toNat_le.mp long))

theorem SameRequest.cmdVerifyAuth_eq (same : SameRequest first second) :
    cmdVerifyAuth first = cmdVerifyAuth second := by
  unfold cmdVerifyAuth
  rw [← same.payloadLen]
  split
  · rfl
  · next short =>
    have long : first.payloadLen ≥ 4 := UInt8.not_lt.mp short
    rw [same.byte_of_le long (by decide), same.byte_of_le long (by decide),
      same.byte_of_le long (by decide), same.byte_of_le long (by decide)]

theorem SameRequest.commanded_iff (same : SameRequest first second) (effect : CommandEffect) :
    effect.Commanded first ↔ effect.Commanded second := by
  unfold CommandEffect.Commanded
  rw [← same.cmdId, ← same.payloadLen]
  cases effect with
  | force state =>
    refine and_congr_right fun _ => and_congr_right fun given => ?_
    rw [same.byte_of_le given (by decide)]
  | setPowerMode mode =>
    refine and_congr_right fun _ => and_congr_right fun given => ?_
    rw [same.byte_of_le given (by decide)]
  | setBeacon intervalS =>
    refine and_congr_right fun _ => and_congr_right fun given => ?_
    rw [same.byte_of_le given (by decide), same.byte_of_le given (by decide)]
  | setPayload enabled => cases enabled <;> exact Iff.rfl
  | _ => exact Iff.rfl

end

/-! ### The two tables -/

/-- The requests that the dispatch executes and the payload check lets through as well: a mode
command, which the check takes for a power command, and a status query whose payload would be
a beacon interval. -/
def OnBothTables (cmdId : UInt8) (payload : List UInt8) : Prop :=
  cmdId = cmdSysSetMode ∨
    cmdId = cmdSysGetStatus ∧ payload.length ≥ 2 ∧
      bigEndian16 (byteAt payload 0) (byteAt payload 1) ≥ 10 ∧
      bigEndian16 (byteAt payload 0) (byteAt payload 1) ≤ 120

/-- The payload check, asked about a command. -/
def Command.checked (cmd : Command) : Bool :=
  inputValidateCommandPayload cmd.cmdId cmd.payload cmd.payloadLen.toNat

/-- The identifiers that the payload check has a case for. -/
def checkedIds : List UInt8 :=
  [cmdIdSetMode, cmdIdSetPower, cmdIdSetBeacon, cmdIdDeploy, cmdIdReset]

theorem checked_unknown {cmd : Command} (unknown : cmd.cmdId ∉ checkedIds) :
    cmd.checked = false := by
  simp only [checkedIds, List.mem_cons, List.not_mem_nil, or_false, not_or] at unknown
  unfold Command.checked inputValidateCommandPayload
  simp only [unknown, or_self, if_false]

/-- The check takes a reset for a mode: no mode is the first byte of the authorization code. -/
theorem checked_reset {cmd : Command} (reset : cmd.cmdId = cmdSysReset)
    (verified : cmdVerifyAuth cmd = true) : cmd.checked = false := by
  have first : cmd.payload.get 0 = 0xDE := (carriesAuthCode_of_verified verified).2.1
  unfold Command.checked
  rw [reset]
  simp +decide only [inputValidateCommandPayload, first, if_true, decide_false, Bool.and_false]

/-- The check takes a mode for a power level: every mode is one. -/
theorem checked_setMode {cmd : Command} {effect : CommandEffect}
    (mode : cmd.cmdId = cmdSysSetMode) (effective : commandEffect? cmd = some effect) :
    cmd.checked = true := by
  unfold commandEffect? at effective
  rw [mode] at effective
  simp +decide only [if_true, if_false] at effective
  by_cases given : cmd.payloadLen ≥ 1
  · rw [if_pos given] at effective
    obtain ⟨state, commanded, _⟩ := Option.map_eq_some_iff.mp effective
    have level : cmd.payload.get 0 ≤ 3 := by
      unfold commandedState? at commanded
      split_ifs at commanded with zero one two
      · exact zero ▸ by decide
      · exact one ▸ by decide
      · exact two ▸ by decide
    have long : cmd.payloadLen.toNat ≥ 1 := UInt8.le_iff_toNat_le.mp given
    unfold Command.checked
    rw [mode]
    simp +decide only [inputValidateCommandPayload, if_true, level, long, decide_true,
      Bool.and_true]
  · rw [if_neg given] at effective
    exact absurd effective.symm (Option.some_ne_none effect)

/-- The check takes a power mode for a deployment: no power mode starts its code. -/
theorem checked_epsSetMode {cmd : Command} {effect : CommandEffect}
    (power : cmd.cmdId = cmdEpsSetMode) (effective : commandEffect? cmd = some effect) :
    cmd.checked = false := by
  unfold commandEffect? at effective
  rw [power] at effective
  simp +decide only [if_true, if_false] at effective
  by_cases given : cmd.payloadLen ≥ 1
  · rw [if_pos given] at effective
    obtain ⟨mode, named, _⟩ := Option.map_eq_some_iff.mp effective
    have first := (PowerMode.ofValue?_byte _ mode).mp named
    have other : bigEndian32 (cmd.payload.get 0) (cmd.payload.get 1) (cmd.payload.get 2)
        (cmd.payload.get 3) ≠ deployAuthCode := by
      intro code
      have leading := (bigEndian32_bytes (cmd.payload.get 0) (cmd.payload.get 1)
        (cmd.payload.get 2) (cmd.payload.get 3)).1
      rw [code, first] at leading
      revert leading
      cases mode <;> decide
    unfold Command.checked
    rw [power]
    simp +decide only [inputValidateCommandPayload, if_true, if_false, other, decide_false,
      Bool.and_false]
  · rw [if_neg given] at effective
    exact absurd effective.symm (Option.some_ne_none effect)

/-- The check takes a status query for a beacon interval. -/
theorem checked_getStatus {cmd : Command} (status : cmd.cmdId = cmdSysGetStatus) :
    cmd.checked = true ↔ cmd.payloadLen.toNat ≥ 2 ∧
      bigEndian16 (cmd.payload.get 0) (cmd.payload.get 1) ≥ 10 ∧
      bigEndian16 (cmd.payload.get 0) (cmd.payload.get 1) ≤ 120 := by
  unfold Command.checked
  rw [status]
  simp +decide only [inputValidateCommandPayload, if_true, if_false, Bool.and_eq_true,
    decide_eq_true_eq, and_assoc]

section

variable {Handler : Type}

/-- Of the commands that are granted, the check lets those on both tables through. -/
theorem granted_checked_iff {obc : Obc Handler} {cmdId : UInt8} {payload : Payload}
    {wire : WireCall} {effect : CommandEffect}
    (granted : Granted obc (wireCommand cmdId payload wire) effect) :
    (wireCommand cmdId payload wire).checked = true ↔ OnBothTables cmdId payload.bytes := by
  have effective := (commandEffect?_eq_some_iff _ effect).mpr granted.commanded
  have length : (wireCommand cmdId payload wire).payloadLen.toNat = payload.bytes.length :=
    payload.toNat_length
  have same : (wireCommand cmdId payload wire).cmdId = cmdId := rfl
  by_cases status : cmdId = cmdSysGetStatus
  · rw [checked_getStatus (same.trans status), length]
    constructor
    · rintro ⟨two, interval⟩
      rw [wireCommand_interval two] at interval
      exact Or.inr ⟨status, two, interval⟩
    · rintro (mode | ⟨_, two, interval⟩)
      · exact absurd (status.symm.trans mode) (by decide)
      · rw [wireCommand_interval two]
        exact ⟨two, interval⟩
  by_cases mode : cmdId = cmdSysSetMode
  · exact iff_of_true (checked_setMode (same.trans mode) effective) (Or.inl mode)
  have unlisted : ¬ OnBothTables cmdId payload.bytes := by
    rintro (isMode | ⟨isStatus, _⟩)
    · exact mode isMode
    · exact status isStatus
  refine iff_of_false (Bool.eq_false_iff.mp ?_) unlisted
  by_cases reset : cmdId = cmdSysReset
  · exact checked_reset (same.trans reset) (granted.verified (same.trans reset) (by decide))
  by_cases power : cmdId = cmdEpsSetMode
  · exact checked_epsSetMode (same.trans power) effective
  by_cases confirmed : cmdId = cmdIdReset
  · have unhandled : cmdId ∉ handledCommands := by
      rw [confirmed]
      decide
    exact absurd ((commandEffect?_unhandled (same.symm ▸ unhandled)).symm.trans effective)
      (Option.some_ne_none effect).symm
  · refine checked_unknown fun known => ?_
    simp only [checkedIds, List.mem_cons, List.not_mem_nil, or_false] at known
    -- The five numbers of the check are among the ones dealt with.
    rcases known with first | second | third | fourth | fifth
    · exact reset first
    · exact mode second
    · exact status third
    · exact power fourth
    · exact confirmed fifth

/-! ### The entry points -/

/-- The computer once `cmd_process` has counted a frame. -/
def Obc.receive (obc : Obc Handler) : Obc Handler :=
  obc.count fun stats => { stats with totalReceived := stats.totalReceived + 1 }

/-- A request is refused before a handler is looked for. -/
def Refused (obc : Obc Handler) (cmd : Command) : Prop :=
  cmdIsAllowed (sysGetOperationalState obc.sys) cmd.cmdId = false ∨
    cmdRequiresAuth cmd.cmdId = true ∧ cmdVerifyAuth cmd = false

variable [CLayout FaultRecord]

/-- What the wire path makes of a frame. -/
theorem cmdProcess_frame (invoke : Invoke Handler) (obc : Obc Handler) (cmdId : UInt8)
    (payload : Payload) (call : WireCall) :
    cmdProcess invoke obc (commandFrame cmdId payload.bytes) call.response call.stack call.now =
      if obc.cmd.initialized then
        if (wireCommand cmdId payload call).checked then
          let executed := cmdExecute invoke obc.receive (wireCommand cmdId payload call)
            call.response call.now
          (executed.1, executed.2, .ok)
        else
          (obc.receive.count fun stats => { stats with totalRejected := stats.totalRejected + 1 },
            { call.response with result := .invalidParam }, .ok)
      else (obc, call.response, .errorInvalid) := by
  unfold cmdProcess
  dsimp only
  rw [receivedCommand_frame, inputValidateCommand_frame cmdId (payload.fits.trans (by decide))]
  rfl

omit [CLayout FaultRecord] in
theorem recordResult_response (handled : Handled Handler) (cmd : Command) (now : UInt64) :
    (recordResult handled cmd now).2 = { handled.response with result := handled.result } := by
  unfold recordResult
  dsimp only
  split <;> rfl

omit [CLayout FaultRecord] in
theorem recordResult_result (handled : Handled Handler) (cmd : Command) (now : UInt64) :
    (recordResult handled cmd now).2.result = handled.result := by
  rw [recordResult_response]

theorem cmdExecute_refused (invoke : Invoke Handler) {obc : Obc Handler} {cmd : Command}
    (refused : Refused obc cmd) (response : CmdResponse) (now : UInt64) :
    (cmdExecute invoke obc cmd response now).2.result ≠ .success := by
  unfold cmdExecute
  dsimp only
  by_cases denied : cmdIsAllowed (sysGetOperationalState obc.sys) cmd.cmdId = false
  · rw [if_pos denied]
    exact CmdResult.noConfusion
  · rw [if_neg denied, if_pos (refused.resolve_left denied)]
    exact CmdResult.noConfusion

/-- Past the checks, the custom handler of the identifier runs. -/
theorem cmdExecute_custom (invoke : Invoke Handler) {obc : Obc Handler} {cmd : Command}
    {handler : Handler} (admitted : ¬ Refused obc cmd)
    (found : findCustomHandler obc.cmd cmd.cmdId = some handler) (response : CmdResponse)
    (now : UInt64) :
    cmdExecute invoke obc cmd response now =
      recordResult (invoke handler cmd (response.start cmd) obc now) cmd now := by
  obtain ⟨allowed, authorised⟩ := not_or.mp admitted
  unfold cmdExecute runHandler
  dsimp only
  rw [if_neg allowed, if_neg authorised, found]

/-- Past the checks and without a custom handler, a command has the effect it is granted. -/
theorem cmdExecute_granted (invoke : Invoke Handler) {obc : Obc Handler} {cmd : Command}
    {effect : CommandEffect} (granted : Granted obc cmd effect)
    (plain : findCustomHandler obc.cmd cmd.cmdId = none) (response : CmdResponse) (now : UInt64) :
    (cmdExecute invoke obc cmd response now).2.result = .success ∧
      (cmdExecute invoke obc cmd response now).1.sys =
        sysIncrementCommandCount (effect.onSystem obc.sys obc.faults now) now ∧
      (cmdExecute invoke obc cmd response now).1.faults =
        effect.onFaults obc.sys obc.faults now := by
  have executed := cmdExecute_executed invoke obc cmd response now plain
  rcases executed.granted_or_refused with ⟨other, otherGranted, outcome⟩ | ⟨refused, _⟩
  · rw [granted.unique otherGranted]
    exact outcome
  · exact absurd granted (refused effect)

/-! ### Agreement of the paths -/

/-- If the direct path executes a request, the wire path answers success as well and leaves the
same system state and fault log, timestamps aside. -/
def PathsAgree (invoke : Invoke Handler) (obc : Obc Handler) (cmdId : UInt8) (payload : Payload)
    (direct : DirectCall) (wire : WireCall) : Prop :=
  let executed := cmdExecute invoke obc (directCommand cmdId payload direct) direct.response
    direct.now
  let processed := cmdProcess invoke obc (commandFrame cmdId payload.bytes) wire.response
    wire.stack wire.now
  executed.2.result = .success →
    processed.2.2 = .ok ∧ processed.2.1.result = .success ∧ SameButTimes executed.1 processed.1

/-- A registered handler, if it answers success to the command, is reached by the frame too and
does the same there. -/
def HandlerCarries (invoke : Invoke Handler) (handler : Handler) (obc : Obc Handler)
    (cmdId : UInt8) (payload : Payload) (direct : DirectCall) (wire : WireCall) : Prop :=
  let cmd := directCommand cmdId payload direct
  let sent := wireCommand cmdId payload wire
  let answered := invoke handler cmd (direct.response.start cmd) obc direct.now
  let reached := invoke handler sent (wire.response.start sent) obc.receive wire.now
  answered.result = .success →
    obc.cmd.initialized = true ∧ sent.checked = true ∧ reached.result = .success ∧
      SameButTimes (recordResult answered cmd direct.now).1 (recordResult reached sent wire.now).1

/-- The request is refused or rejected, or the wire path carries it: it is on both tables, or
its registered handler is reached in both ways. -/
def WireCarries (invoke : Invoke Handler) (obc : Obc Handler) (cmdId : UInt8) (payload : Payload)
    (direct : DirectCall) (wire : WireCall) : Prop :=
  let cmd := directCommand cmdId payload direct
  Refused obc cmd ∨
    match findCustomHandler obc.cmd cmdId with
    | none =>
      commandEffect? cmd = none ∨ obc.cmd.initialized = true ∧ OnBothTables cmdId payload.bytes
    | some handler => HandlerCarries invoke handler obc cmdId payload direct wire

/-- Answering success on the wire takes an initialized handler and a checked payload. -/
theorem processed_iff (invoke : Invoke Handler) (obc : Obc Handler) (cmdId : UInt8)
    (payload : Payload) (call : WireCall) (good : Obc Handler → Prop) :
    let sent := wireCommand cmdId payload call
    let executed := cmdExecute invoke obc.receive sent call.response call.now
    let processed := cmdProcess invoke obc (commandFrame cmdId payload.bytes) call.response
      call.stack call.now
    (processed.2.2 = .ok ∧ processed.2.1.result = .success ∧ good processed.1) ↔
      obc.cmd.initialized = true ∧ sent.checked = true ∧ executed.2.result = .success ∧
        good executed.1 := by
  intro sent executed processed
  have framed : processed = _ := cmdProcess_frame invoke obc cmdId payload call
  rw [framed]
  by_cases initialized : obc.cmd.initialized = true
  · rw [if_pos initialized, and_iff_right initialized]
    by_cases checked : sent.checked = true
    · rw [if_pos checked, and_iff_right checked]
      exact and_iff_right rfl
    · rw [if_neg checked]
      exact iff_of_false (fun both => CmdResult.noConfusion both.2.1) fun both => checked both.1
  · rw [if_neg initialized]
    exact iff_of_false (fun both => SmartQsoResult.noConfusion both.1) fun both =>
      initialized both.1

omit [CLayout FaultRecord] in
/-- What is granted to a direct command is granted to the command that arrives by wire. -/
theorem Granted.onWire {obc : Obc Handler} {cmdId : UInt8} {payload : Payload}
    {direct : DirectCall} {effect : CommandEffect}
    (granted : Granted obc (directCommand cmdId payload direct) effect) (wire : WireCall) :
    Granted obc.receive (wireCommand cmdId payload wire) effect := by
  have request := direct_wire_sameRequest cmdId payload direct wire
  refine ⟨granted.allowed, fun required => ?_, (request.commanded_iff effect).mp granted.commanded⟩
  rw [← request.cmdVerifyAuth_eq]
  exact granted.authorised required

/-- The same effect on both paths leaves the same state, whenever each is taken. -/
theorem sameButTimes_of_granted (invoke : Invoke Handler) {obc : Obc Handler} {cmdId : UInt8}
    {payload : Payload} {direct : DirectCall} {effect : CommandEffect}
    (granted : Granted obc (directCommand cmdId payload direct) effect)
    (plain : findCustomHandler obc.cmd cmdId = none) (wire : WireCall) :
    SameButTimes
      (cmdExecute invoke obc (directCommand cmdId payload direct) direct.response direct.now).1
      (cmdExecute invoke obc.receive (wireCommand cmdId payload wire) wire.response
        wire.now).1 := by
  obtain ⟨_, directSys, directFaults⟩ :=
    cmdExecute_granted invoke granted plain direct.response direct.now
  obtain ⟨_, wireSys, wireFaults⟩ :=
    cmdExecute_granted invoke (granted.onWire wire) plain wire.response wire.now
  constructor
  · rw [directSys, wireSys, sysIncrementCommandCount_untimed, sysIncrementCommandCount_untimed,
      effect.onSystem_untimed, effect.onSystem_untimed]
    rfl
  · rw [directFaults, wireFaults]
    exact effect.onFaults_sameFaults obc.sys obc.faults direct.now wire.now

/-- Without a custom handler, a request that passes the checks agrees on both paths when it has
no effect or is on both tables. -/
theorem pathsAgree_plain (invoke : Invoke Handler) {obc : Obc Handler} {cmdId : UInt8}
    {payload : Payload} {direct : DirectCall}
    (admitted : ¬ Refused obc (directCommand cmdId payload direct))
    (plain : findCustomHandler obc.cmd cmdId = none) (wire : WireCall) :
    PathsAgree invoke obc cmdId payload direct wire ↔
      commandEffect? (directCommand cmdId payload direct) = none ∨
        obc.cmd.initialized = true ∧ OnBothTables cmdId payload.bytes := by
  obtain ⟨allowed, authorised⟩ := not_or.mp admitted
  cases effective : commandEffect? (directCommand cmdId payload direct) with
  | none =>
    refine iff_of_true (fun success => ?_) (Or.inl rfl)
    have executed := cmdExecute_executed invoke obc (directCommand cmdId payload direct)
      direct.response direct.now plain
    rcases executed.granted_or_refused with ⟨effect, granted, _⟩ | ⟨_, failed, _⟩
    · have some := (commandEffect?_eq_some_iff _ effect).mpr granted.commanded
      exact absurd (effective.symm.trans some) (Option.some_ne_none effect).symm
    · exact absurd success failed
  | some effect =>
    have granted : Granted obc (directCommand cmdId payload direct) effect :=
      ⟨Bool.not_eq_false _ ▸ allowed,
        fun required => Bool.not_eq_false _ ▸ fun unverified => authorised ⟨required, unverified⟩,
        (commandEffect?_eq_some_iff _ effect).mp effective⟩
    have success := (cmdExecute_granted invoke granted plain direct.response direct.now).1
    have sent := (cmdExecute_granted invoke (granted.onWire wire) plain wire.response wire.now).1
    have same := sameButTimes_of_granted invoke granted plain wire
    rw [or_iff_right (Option.some_ne_none effect)]
    refine (forall_prop_of_true success).trans ?_
    refine (processed_iff invoke obc cmdId payload wire _).trans (and_congr_right fun _ => ?_)
    rw [granted_checked_iff (granted.onWire wire)]
    exact and_iff_left ⟨sent, same⟩

/-- For every state, identifier, payload and circumstances of the two calls: the paths agree if
and only if the request is refused or rejected, or the wire path carries it. -/
theorem paths_agree_iff (invoke : Invoke Handler) (obc : Obc Handler) (cmdId : UInt8)
    (payload : Payload) (direct : DirectCall) (wire : WireCall) :
    PathsAgree invoke obc cmdId payload direct wire ↔
      WireCarries invoke obc cmdId payload direct wire := by
  unfold WireCarries
  dsimp only
  by_cases refused : Refused obc (directCommand cmdId payload direct)
  · refine iff_of_true (fun success => ?_) (Or.inl refused)
    exact absurd success (cmdExecute_refused invoke refused direct.response direct.now)
  rw [or_iff_right refused]
  cases found : findCustomHandler obc.cmd cmdId with
  | none => exact pathsAgree_plain invoke refused found wire
  | some handler =>
    have request := direct_wire_sameRequest cmdId payload direct wire
    have admitted : ¬ Refused obc.receive (wireCommand cmdId payload wire) := by
      unfold Refused
      rw [← request.cmdVerifyAuth_eq]
      exact refused
    have directly := cmdExecute_custom invoke refused found direct.response direct.now
    have sent := cmdExecute_custom invoke admitted found wire.response wire.now
    unfold PathsAgree HandlerCarries
    dsimp only
    rw [directly, recordResult_result]
    refine forall_congr' fun _ => (processed_iff invoke obc cmdId payload wire _).trans ?_
    rw [sent, recordResult_result]

/-! ### A request that is lost -/

/-- A direct call with nothing but zeros beside the request. -/
def DirectCall.blank : DirectCall :=
  ⟨0, 0, false, Vector.replicate 64 0, ⟨0, 0, .success, 0, Vector.replicate 64 0⟩, 0⟩

/-- A call with a frame and nothing but zeros beside it. -/
def WireCall.blank : WireCall :=
  ⟨Vector.replicate 64 0, ⟨0, 0, .success, 0, Vector.replicate 64 0⟩, 0⟩

omit [CLayout FaultRecord] in
/-- The no-operation answers success to a caller, and its frame is rejected as a bad parameter. -/
theorem nop_lost_on_wire :
    letI := CLayout.blank FaultRecord
    letI := CLayout.blank SystemRecord
    ¬ PathsAgree noHandler (Obc.start FaultMgmt.boot 0) cmdSysNop ⟨[], by decide⟩ DirectCall.blank
      WireCall.blank := by
  intro agree
  exact absurd (agree rfl).2.1 (by decide)

end

end SmartQso
