/-
This file proves what `cmd_process` hands on and what it answers. The command that
is built from a frame holds the payload of the frame exactly when the payload fits
the array of the command, and the answer to a frame is free of what the response
buffer held before exactly when the frame gets as far as `cmd_execute`, which fills
the response in. A registered handler is code outside this repository; it is taken
to write the response and not to answer with what it finds there.
-/

import SmartQso.WirePath

namespace SmartQso

/-! ### Copied bytes -/

/-- The start of an array into which at least as many bytes have been copied. -/
theorem take_copyBytes {bytes : List UInt8} (target : Vector UInt8 64) {count : Nat}
    (within : count ≤ bytes.length) :
    (copyBytes bytes target).toList.take count = (bytes.take 64).take count := by
  refine List.ext_getElem ?_ ?_
  · rw [List.length_take, List.length_take, List.length_take, Vector.length_toList]
    omega
  · intro index inside other
    have inBytes : index < bytes.length := by
      rw [List.length_take] at inside
      omega
    have inArray : index < 64 := by
      rw [List.length_take, Vector.length_toList] at inside
      omega
    have copied : (copyBytes bytes target).get ⟨index, inArray⟩ = bytes[index] :=
      (copyBytes_get target inBytes).trans (List.getD_eq_getElem bytes 0 inBytes)
    rw [List.getElem_take, List.getElem_take, List.getElem_take, Vector.getElem_toList]
    exact copied

/-! ### The command of a frame -/

/-- The payload bytes of a frame. -/
def framePayload (rawData : List UInt8) : List UInt8 :=
  (rawData.drop 4).take (byteAt rawData 3).toNat

/-- The length of a command fits its array, and that many bytes of the array are the payload. -/
structure Command.HoldsPayload (cmd : Command) (payload : List UInt8) : Prop where
  fits : cmd.payloadLen.toNat ≤ 64
  bytes : cmd.payload.toList.take cmd.payloadLen.toNat = payload

/-- The command that `cmd_process` hands to the payload check, and from there to a handler, if
the frame check accepts the frame. -/
def handedOn? (rawData : List UInt8) (stack : Vector UInt8 64) (now : UInt64) :
    Option Command :=
  let validation := inputValidateCommand rawData
  if validation.isValid then some (receivedCommand rawData validation stack now) else none

theorem handedOn?_valid {rawData : List UInt8}
    (valid : (inputValidateCommand rawData).isValid = true) (stack : Vector UInt8 64)
    (now : UInt64) :
    handedOn? rawData stack now =
      some (receivedCommand rawData (inputValidateCommand rawData) stack now) := by
  rw [handedOn?]
  exact if_pos valid

theorem handedOn?_invalid {rawData : List UInt8}
    (invalid : ¬ (inputValidateCommand rawData).isValid = true) (stack : Vector UInt8 64)
    (now : UInt64) : handedOn? rawData stack now = none := by
  rw [handedOn?]
  exact if_neg invalid

/-- An accepted frame reports the length of its payload. -/
theorem payloadLength_of_valid {rawData : List UInt8}
    (valid : (inputValidateCommand rawData).isValid = true) :
    (inputValidateCommand rawData).payloadLength.toNat = (framePayload rawData).length ∧
      (inputValidateCommand rawData).payloadLength = byteAt rawData 3 := by
  obtain ⟨payload, fits, framed⟩ := frame_of_valid valid
  have reported := inputValidateCommand_frame (inputValidateCommand rawData).cmdId fits
  rw [← framed] at reported
  have lengthByte : byteAt rawData 3 = payload.length.toUInt8 := by
    rw [framed]
    rfl
  have content : framePayload rawData = payload := by
    rw [framePayload, lengthByte, toNat_length fits, framed]
    exact List.take_left
  rw [reported, content, lengthByte]
  exact ⟨toNat_length fits, rfl⟩

/-- The array of the command holds the payload as far as it reaches. -/
theorem receivedCommand_payload (rawData : List UInt8) (validation : CommandValidation)
    (reported : validation.payloadLength = byteAt rawData 3) (stack : Vector UInt8 64)
    (now : UInt64) :
    (receivedCommand rawData validation stack now).payload =
      copyBytes ((framePayload rawData).take 64) stack := by
  rw [receivedCommand]
  dsimp only
  rw [framePayload, List.take_take, reported, Nat.min_comm]

/-- The command of an accepted frame holds its payload exactly when the payload fits. -/
theorem receivedCommand_holds_iff {rawData : List UInt8}
    (valid : (inputValidateCommand rawData).isValid = true) (stack : Vector UInt8 64)
    (now : UInt64) :
    (receivedCommand rawData (inputValidateCommand rawData) stack now).HoldsPayload
        (framePayload rawData) ↔
      (framePayload rawData).length ≤ 64 := by
  obtain ⟨counted, reported⟩ := payloadLength_of_valid valid
  constructor
  · rintro ⟨fits, _⟩
    exact counted ▸ fits
  · intro short
    refine ⟨counted.trans_le short, ?_⟩
    have whole : (framePayload rawData).take 64 = framePayload rawData :=
      List.take_of_length_le short
    rw [receivedCommand_payload rawData _ reported, whole]
    show (copyBytes (framePayload rawData) stack).toList.take
      (inputValidateCommand rawData).payloadLength.toNat = _
    rw [counted, take_copyBytes stack (le_refl _), whole, List.take_length]

/-- The commands handed on for a frame hold its payload exactly when the payload of the frame,
if it is accepted, has at most 64 bytes. -/
theorem handed_on_holds_payload_iff (rawData : List UInt8) :
    (∀ (stack : Vector UInt8 64) (now : UInt64) (cmd : Command),
      handedOn? rawData stack now = some cmd → cmd.HoldsPayload (framePayload rawData)) ↔
      ((inputValidateCommand rawData).isValid = true → (framePayload rawData).length ≤ 64) := by
  by_cases valid : (inputValidateCommand rawData).isValid = true
  · constructor
    · intro holds _
      exact (receivedCommand_holds_iff valid (Vector.replicate 64 0) 0).mp
        (holds _ _ _ (handedOn?_valid valid _ _))
    · intro short stack now cmd handed
      rw [handedOn?_valid valid] at handed
      rw [← Option.some.inj handed]
      exact (receivedCommand_holds_iff valid stack now).mpr (short valid)
  · refine iff_of_true (fun stack now cmd handed => ?_) fun accepted => absurd accepted valid
    rw [handedOn?_invalid valid] at handed
    exact absurd handed.symm (Option.some_ne_none cmd)

section

variable {Handler : Type} [CLayout FaultRecord]

/-- What the command handler makes of a frame, by the command that is handed on. -/
theorem cmdProcess_handedOn (invoke : Invoke Handler) {obc : Obc Handler}
    (initialized : obc.cmd.initialized = true) (rawData : List UInt8) (response : CmdResponse)
    (stack : Vector UInt8 64) (now : UInt64) :
    cmdProcess invoke obc rawData response stack now =
      match handedOn? rawData stack now with
      | some cmd =>
        if cmd.checked then
          let executed := cmdExecute invoke obc.receive cmd response now
          (executed.1, executed.2, .ok)
        else
          (obc.receive.count fun stats => { stats with totalRejected := stats.totalRejected + 1 },
            { response with result := .invalidParam }, .ok)
      | none =>
        let rejected := obc.receive.count fun stats =>
          { stats with totalRejected := stats.totalRejected + 1 }
        ({ rejected with
            faults := faultLogAdd rejected.faults .uart .warning "Invalid command received" 0 now },
          { response with result := .invalidCmd }, .ok) := by
  unfold cmdProcess
  dsimp only
  rw [if_pos initialized]
  by_cases valid : (inputValidateCommand rawData).isValid = true
  · rw [handedOn?_valid valid, if_pos valid]
    rfl
  · rw [handedOn?_invalid valid, if_neg valid]
    rfl

/-- A handler that answers with the length of its command. -/
def reportLength : Invoke Unit :=
  fun _ cmd response obc _ => ⟨obc, response.pack [cmd.payloadLen], .success⟩

omit [CLayout FaultRecord] in
/-- A frame with 65 bytes of payload passes every check, and the handler registered for it runs
with a command that is longer than its array. -/
theorem oversized_command_executed :
    letI := CLayout.blank FaultRecord
    letI := CLayout.blank SystemRecord
    let frame := commandFrame 2 (List.replicate 65 0)
    let stack : Vector UInt8 64 := Vector.replicate 64 0
    let obc : Obc Unit :=
      ⟨(cmdRegisterHandler cmdHandlerInit 2 (some ())).1, sysStateInit 0, FaultMgmt.boot⟩
    let processed := cmdProcess reportLength obc frame ⟨0, 0, .success, 0, stack⟩ stack 0
    (inputValidateCommand frame).isValid = true ∧ (framePayload frame).length = 65 ∧
      (∃ cmd, handedOn? frame stack 0 = some cmd ∧ ¬ cmd.HoldsPayload (framePayload frame)) ∧
      processed.2.1.result = .success ∧ processed.2.1.data.toList.take 1 = [65] := by
  intro frame stack obc processed
  have reported : inputValidateCommand frame = ⟨true, .none, 2, 65⟩ :=
    inputValidateCommand_frame 2 (by rw [List.length_replicate]; decide)
  have valid : (inputValidateCommand frame).isValid = true := by rw [reported]
  have long : (framePayload frame).length = 65 := by
    rw [← (payloadLength_of_valid valid).1, reported]
    rfl
  refine ⟨valid, long, ⟨_, handedOn?_valid valid stack 0, fun holds => ?_⟩, by decide +kernel,
    by decide +kernel⟩
  have short := (receivedCommand_holds_iff valid stack 0).mp holds
  omega

/-! ### The answer to a frame -/

/-- What a caller sends of a response: the data only as far as the response says. -/
structure Reply where
  cmdId : UInt8
  sequenceNum : UInt8
  result : CmdResult
  dataLen : UInt8
  data : List UInt8
  deriving DecidableEq

def CmdResponse.reply (response : CmdResponse) : Reply where
  cmdId := response.cmdId
  sequenceNum := response.sequenceNum
  result := response.result
  dataLen := response.dataLen
  data := response.data.toList.take response.dataLen.toNat

omit [CLayout FaultRecord] in
/-- Packed bytes cover the data that is sent. -/
theorem CmdResponse.reply_pack (response : CmdResponse) (bytes : List UInt8) :
    (response.pack bytes).reply =
      { cmdId := response.cmdId
        sequenceNum := response.sequenceNum
        result := response.result
        dataLen := bytes.length.toUInt8
        data := (bytes.take 64).take bytes.length.toUInt8.toNat } := by
  have within : bytes.length.toUInt8.toNat ≤ bytes.length := by
    rw [Nat.toUInt8, UInt8.toNat_ofNat']
    exact Nat.mod_le _ _
  rw [← take_copyBytes response.data within]
  rfl

/-- How a handler uses the response it is given: it leaves the data alone, or it packs bytes, and
these, the result and the state it leaves do not come out of the response. -/
def Fills (handle : CmdResponse → Handled Handler) : Prop :=
  ∃ (obc : Obc Handler) (result : CmdResult) (data : Option (List UInt8)), ∀ response,
    handle response =
      match data with
      | none => ⟨obc, response, result⟩
      | some bytes => ⟨obc, response.pack bytes, result⟩

/-- Every registered handler fills the response in that way. -/
def FillResponses (invoke : Invoke Handler) : Prop :=
  ∀ (handler : Handler) (cmd : Command) (obc : Obc Handler) (now : UInt64),
    Fills fun response => invoke handler cmd response obc now

omit [CLayout FaultRecord] in
theorem fills_leaving (obc : Obc Handler) (result : CmdResult) :
    Fills fun response => ⟨obc, response, result⟩ :=
  ⟨obc, result, none, fun _ => rfl⟩

omit [CLayout FaultRecord] in
theorem fills_packing (obc : Obc Handler) (result : CmdResult) (bytes : List UInt8) :
    Fills fun response => ⟨obc, response.pack bytes, result⟩ :=
  ⟨obc, result, some bytes, fun _ => rfl⟩

omit [CLayout FaultRecord] in
/-- A handler that refuses a command without its parameter. -/
theorem fills_given {obc : Obc Handler} {given : Prop} [Decidable given]
    {handle : CmdResponse → Handled Handler} (fills : Fills handle) :
    Fills fun response => if given then handle response else ⟨obc, response, .invalidParam⟩ := by
  by_cases present : given
  · simp only [if_pos present]
    exact fills
  · simp only [if_neg present]
    exact fills_leaving obc .invalidParam

omit [CLayout FaultRecord] in
theorem reportLength_fills : FillResponses reportLength :=
  fun _ cmd obc _ => fills_packing obc .success [cmd.payloadLen]

/-- The handlers of the categories fill the response in that way. -/
theorem routeCommand_fills (obc : Obc Handler) (cmd : Command) (now : UInt64) :
    Fills fun response => routeCommand obc cmd response now := by
  by_cases handled : cmd.cmdId ∈ handledCommands
  · obtain ⟨cmdId, sequenceNum, payloadLen, payload, timestampMs, requiresAck⟩ := cmd
    simp only [handledCommands, List.mem_cons, List.not_mem_nil, or_false] at handled
    rcases handled with rfl | rfl | rfl | rfl | rfl | rfl | rfl | rfl | rfl | rfl | rfl | rfl
    all_goals
      unfold routeCommand handleSystemCmd handleEpsCmd handleAdcsCmd handleCommCmd
        handlePayloadCmd
      simp +decide only [if_true, if_false]
    · exact fills_leaving obc .success
    · exact fills_leaving _ .success
    · refine fills_given ?_
      cases commandedState? (payload.get 0) with
      | none => exact fills_leaving obc .invalidParam
      | some mode => exact fills_leaving _ .success
    · exact fills_packing obc .success _
    · exact fills_leaving _ .success
    · refine fills_given ?_
      cases PowerMode.ofValue? (payload.get 0).toUInt32 with
      | none => exact fills_leaving obc .invalidParam
      | some mode => exact fills_leaving _ .success
    · exact fills_packing obc .success _
    · exact fills_leaving _ .success
    · exact fills_packing obc .success _
    · refine fills_given ?_
      cases sysSetBeaconInterval obc.sys (bigEndian16 (payload.get 0) (payload.get 1)) now with
      | none => exact fills_leaving obc .invalidParam
      | some sys => exact fills_leaving _ .success
    · exact fills_leaving _ .success
    · exact fills_leaving _ .success
  · simp only [routeCommand_unhandled obc cmd _ now handled]
    exact fills_leaving obc .invalidCmd

theorem runHandler_fills {invoke : Invoke Handler} (fill : FillResponses invoke)
    (obc : Obc Handler) (cmd : Command) (now : UInt64) :
    Fills fun response => runHandler invoke obc cmd response now := by
  unfold runHandler
  cases findCustomHandler obc.cmd cmd.cmdId with
  | none => exact routeCommand_fills obc cmd now
  | some custom => exact fill custom cmd obc now

omit [CLayout FaultRecord] in
/-- A handler that fills in started responses answers the same whatever they held. -/
theorem Fills.reply_eq {handle : CmdResponse → Handled Handler} (fills : Fills handle)
    (cmd : Command) (now : UInt64) (first second : CmdResponse) :
    (recordResult (handle (first.start cmd)) cmd now).2.reply =
      (recordResult (handle (second.start cmd)) cmd now).2.reply := by
  obtain ⟨obc, result, data, filled⟩ := fills
  rw [recordResult_response, recordResult_response, filled, filled]
  cases data with
  | none => rfl
  | some bytes =>
    show (({ first.start cmd with result := result } : CmdResponse).pack bytes).reply =
      (({ second.start cmd with result := result } : CmdResponse).pack bytes).reply
    rw [CmdResponse.reply_pack, CmdResponse.reply_pack]
    rfl

/-- The answer of `cmd_execute` does not depend on what the response buffer held. -/
theorem cmdExecute_reply {invoke : Invoke Handler} (fill : FillResponses invoke)
    (obc : Obc Handler) (cmd : Command) (now : UInt64) (first second : CmdResponse) :
    (cmdExecute invoke obc cmd first now).2.reply =
      (cmdExecute invoke obc cmd second now).2.reply := by
  unfold cmdExecute
  dsimp only
  by_cases denied : cmdIsAllowed (sysGetOperationalState obc.sys) cmd.cmdId = false
  · rw [if_pos denied, if_pos denied]
    rfl
  rw [if_neg denied, if_neg denied]
  by_cases failed : cmdRequiresAuth cmd.cmdId = true ∧ cmdVerifyAuth cmd = false
  · rw [if_pos failed, if_pos failed]
    rfl
  rw [if_neg failed, if_neg failed]
  exact (runHandler_fills fill obc cmd now).reply_eq cmd now first second

/-- A frame gets as far as `cmd_execute`: the frame check accepts it, and then the payload
check. -/
def ReachesExecution (rawData : List UInt8) (stack : Vector UInt8 64) (now : UInt64) : Prop :=
  ∃ cmd, handedOn? rawData stack now = some cmd ∧ cmd.checked = true

/-- A frame is answered without a leak: what is sent is the same for any two contents of the
response buffer. -/
def AnswersAfresh (invoke : Invoke Handler) (obc : Obc Handler) (rawData : List UInt8)
    (stack : Vector UInt8 64) (now : UInt64) : Prop :=
  ∀ first second : CmdResponse,
    let firstRun := cmdProcess invoke obc rawData first stack now
    let secondRun := cmdProcess invoke obc rawData second stack now
    firstRun.2.2 = .ok → secondRun.2.2 = .ok → firstRun.2.1.reply = secondRun.2.1.reply

omit [CLayout FaultRecord] in
/-- A response that is left alone but for its result sends the identifier it held. -/
theorem exists_reply_ne (result : CmdResult) :
    ∃ first second : CmdResponse,
      ({ first with result := result } : CmdResponse).reply ≠
        ({ second with result := result } : CmdResponse).reply := by
  refine ⟨⟨0, 0, .success, 0, Vector.replicate 64 0⟩, ⟨1, 0, .success, 0, Vector.replicate 64 0⟩,
    fun same => ?_⟩
  exact absurd (congrArg Reply.cmdId same) (by decide : (0 : UInt8) ≠ 1)

/-- With registered handlers that fill their responses in, a frame that the command handler
answers at all is answered without a leak exactly when it gets as far as `cmd_execute`. -/
theorem answer_leak_free_iff {invoke : Invoke Handler} (fill : FillResponses invoke)
    (obc : Obc Handler) (rawData : List UInt8) (stack : Vector UInt8 64) (now : UInt64) :
    AnswersAfresh invoke obc rawData stack now ↔
      (obc.cmd.initialized = true → ReachesExecution rawData stack now) := by
  by_cases initialized : obc.cmd.initialized = true
  · rw [forall_prop_of_true initialized]
    unfold AnswersAfresh ReachesExecution
    dsimp only
    simp only [cmdProcess_handedOn invoke initialized]
    cases handedOn? rawData stack now with
    | none =>
      refine iff_of_false (fun afresh => ?_) fun ⟨cmd, handed, _⟩ =>
        absurd handed.symm (Option.some_ne_none cmd)
      obtain ⟨first, second, different⟩ := exists_reply_ne .invalidCmd
      exact different (afresh first second rfl rfl)
    | some cmd =>
      by_cases checked : cmd.checked = true
      · refine iff_of_true (fun first second _ _ => ?_) ⟨cmd, rfl, checked⟩
        dsimp only
        rw [if_pos checked, if_pos checked]
        exact cmdExecute_reply fill obc.receive cmd now first second
      · refine iff_of_false (fun afresh => ?_) fun ⟨other, handed, passed⟩ =>
          checked (Option.some.inj handed ▸ passed)
        obtain ⟨first, second, different⟩ := exists_reply_ne .invalidParam
        have answered := afresh first second
        dsimp only at answered
        rw [if_neg checked, if_neg checked] at answered
        exact different (answered rfl rfl)
  · refine iff_of_true (fun first second answered _ => ?_) fun ready => absurd ready initialized
    rw [cmdProcess, if_neg initialized] at answered
    exact SmartQsoResult.noConfusion answered

omit [CLayout FaultRecord] in
/-- Commands with identifier 2 go to a registered handler that answers with their length. -/
theorem answer_leak_free_iff_reporting :
    letI := CLayout.blank FaultRecord
    letI := CLayout.blank SystemRecord
    let obc : Obc Unit :=
      ⟨(cmdRegisterHandler cmdHandlerInit 2 (some ())).1, sysStateInit 0, FaultMgmt.boot⟩
    FillResponses reportLength ∧
      (AnswersAfresh reportLength obc (commandFrame 2 [1]) (Vector.replicate 64 0) 0 ↔
        (obc.cmd.initialized = true →
          ReachesExecution (commandFrame 2 [1]) (Vector.replicate 64 0) 0)) :=
  letI := CLayout.blank FaultRecord
  letI := CLayout.blank SystemRecord
  ⟨reportLength_fills, answer_leak_free_iff reportLength_fills _ _ _ _⟩

omit [CLayout FaultRecord] in
/-- The empty buffer is answered with the identifier, the sequence number and the data of the
response before. -/
theorem rejected_frame_leaks :
    letI := CLayout.blank FaultRecord
    letI := CLayout.blank SystemRecord
    let first : CmdResponse := ⟨0x03, 1, .success, 0, Vector.replicate 64 0⟩
    let second : CmdResponse := ⟨0x13, 2, .success, 3, Vector.replicate 64 80⟩
    let firstRun := cmdProcess noHandler (Obc.start FaultMgmt.boot 0) [] first
      (Vector.replicate 64 0) 0
    let secondRun := cmdProcess noHandler (Obc.start FaultMgmt.boot 0) [] second
      (Vector.replicate 64 0) 0
    firstRun.2.2 = .ok ∧ secondRun.2.2 = .ok ∧
      firstRun.2.1.reply = ⟨0x03, 1, .invalidCmd, 0, []⟩ ∧
      secondRun.2.1.reply = ⟨0x13, 2, .invalidCmd, 3, [80, 80, 80]⟩ ∧
      firstRun.2.1.reply ≠ secondRun.2.1.reply :=
  ⟨rfl, rfl, rfl, rfl, fun same => absurd (congrArg Reply.cmdId same) (by decide)⟩

end

end SmartQso
