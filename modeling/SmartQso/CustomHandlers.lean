/-
This file follows the table of registered handlers through any sequence of
`cmd_register_handler` calls. A registration takes the first free slot and a command
runs the first match, so the handler that an identifier was given first stays the one
that runs; a later registration for the same identifier is answered with success and
takes effect only when it names the same handler.
-/

import SmartQso.WirePath

namespace SmartQso

/-! ### Registrations -/

/-- A call of `cmd_register_handler`. -/
structure Registration (Handler : Type) where
  cmdId : UInt8
  handler : Option Handler

section

variable {Handler : Type}

/-- The table after a call. -/
def registrationCall (handlers : CmdHandler Handler) (call : Registration Handler) :
    CmdHandler Handler :=
  (cmdRegisterHandler handlers call.cmdId call.handler).1

/-- What the calls install that are answered with success, in the order of the calls. -/
def installed (handlers : CmdHandler Handler) :
    List (Registration Handler) → List (CustomHandler Handler)
  | [] => []
  | call :: rest =>
    match call.handler, (cmdRegisterHandler handlers call.cmdId call.handler).2 with
    | some handler, .ok =>
      ⟨call.cmdId, handler⟩ :: installed (registrationCall handlers call) rest
    | _, _ => installed (registrationCall handlers call) rest

/-- The handler that was installed first for an identifier. -/
def firstInstalled (customs : List (CustomHandler Handler)) (cmdId : UInt8) : Option Handler :=
  (customs.find? fun custom => custom.cmdId = cmdId).map CustomHandler.handler

/-- The handler that was installed last for an identifier. -/
def lastInstalled (customs : List (CustomHandler Handler)) (cmdId : UInt8) : Option Handler :=
  firstInstalled customs.reverse cmdId

/-! ### The table -/

/-- The slots of the table hold the given handlers in order, and the rest is free. -/
structure Holds (handlers : CmdHandler Handler) (customs : List (CustomHandler Handler)) :
    Prop where
  fits : customs.length ≤ 16
  slot : ∀ (index : Nat) (inside : index < 16),
    handlers.customHandlers[index] = customs[index]?

theorem holds_init : Holds (cmdHandlerInit : CmdHandler Handler) [] :=
  ⟨Nat.zero_le 16, fun _ inside => Vector.getElem_replicate inside⟩

/-- The first slot of a vector that meets a condition is the one that is found. -/
theorem findFinIdx?_eq_some {Slot : Type} {size : Nat} {slots : Vector Slot size}
    {free : Slot → Bool} {slot : Fin size} (found : free slots[slot] = true)
    (first : ∀ earlier : Fin size, earlier < slot → ¬ free slots[earlier] = true) :
    slots.findFinIdx? free = some slot := by
  rcases slots with ⟨slots, rfl⟩
  have inArray : slots.findFinIdx? free = some slot := by
    rw [Array.findFinIdx?_eq_some_iff]
    refine ⟨found, fun earlier before => ?_⟩
    exact first ⟨earlier.val, earlier.isLt⟩ before
  simp only [Vector.findFinIdx?_mk, inArray]
  rfl

/-- A registration takes the first free slot. -/
theorem Holds.register {handlers : CmdHandler Handler} {customs : List (CustomHandler Handler)}
    (holds : Holds handlers customs) (space : customs.length < 16) (cmdId : UInt8)
    (handler : Handler) :
    (cmdRegisterHandler handlers cmdId (some handler)).2 = .ok ∧
      Holds (cmdRegisterHandler handlers cmdId (some handler)).1
        (customs ++ [⟨cmdId, handler⟩]) := by
  have free : handlers.customHandlers.findFinIdx? Option.isNone =
      some ⟨customs.length, space⟩ := by
    refine findFinIdx?_eq_some ?_ fun earlier before => ?_
    · show handlers.customHandlers[customs.length].isNone = true
      rw [holds.slot customs.length space, List.getElem?_eq_none (le_refl _)]
      rfl
    · have within : earlier.val < customs.length := before
      show ¬ handlers.customHandlers[earlier.val].isNone = true
      rw [holds.slot earlier.val earlier.isLt, List.getElem?_eq_getElem within]
      exact Bool.false_ne_true
  unfold cmdRegisterHandler
  dsimp only
  rw [free]
  refine ⟨rfl, ?_, fun index inside => ?_⟩
  · rw [List.length_append]
    exact space
  · show (handlers.customHandlers.set customs.length (some ⟨cmdId, handler⟩))[index] = _
    rw [Vector.getElem_set]
    split
    · next same =>
      rw [← same, List.getElem?_append_right (le_refl _), Nat.sub_self]
      rfl
    · next other =>
      rw [holds.slot index inside]
      by_cases before : index < customs.length
      · exact (List.getElem?_append_left before).symm
      · rw [List.getElem?_eq_none (not_lt.mp before), List.getElem?_eq_none]
        rw [List.length_append, List.length_singleton]
        omega

/-- A full table refuses a registration. -/
theorem Holds.refuse {handlers : CmdHandler Handler} {customs : List (CustomHandler Handler)}
    (holds : Holds handlers customs) (full : ¬ customs.length < 16) (cmdId : UInt8)
    (handler : Handler) :
    cmdRegisterHandler handlers cmdId (some handler) = (handlers, .errorNoMem) := by
  have taken : handlers.customHandlers.findFinIdx? Option.isNone = none := by
    rw [Vector.findFinIdx?_eq_none_iff]
    intro slot member
    obtain ⟨index, inside, rfl⟩ := Vector.mem_iff_getElem.mp member
    have within : index < customs.length := by omega
    rw [holds.slot index inside, List.getElem?_eq_getElem within]
    exact Bool.false_ne_true
  unfold cmdRegisterHandler
  dsimp only
  rw [taken]

/-- After any calls the table holds what they installed. -/
theorem Holds.calls {handlers : CmdHandler Handler} {customs : List (CustomHandler Handler)}
    (holds : Holds handlers customs) (calls : List (Registration Handler)) :
    Holds (calls.foldl registrationCall handlers) (customs ++ installed handlers calls) := by
  induction calls generalizing handlers customs with
  | nil =>
    rw [installed, List.append_nil]
    exact holds
  | cons call rest inductionHypothesis =>
    obtain ⟨cmdId, handler⟩ := call
    rw [List.foldl_cons]
    cases handler with
    | none => exact inductionHypothesis holds
    | some handler =>
      by_cases space : customs.length < 16
      · obtain ⟨answered, grown⟩ := holds.register space cmdId handler
        have more := inductionHypothesis grown
        rw [List.append_assoc] at more
        rw [installed]
        dsimp only
        rw [answered]
        exact more
      · have refused := holds.refuse space cmdId handler
        have same : registrationCall handlers ⟨cmdId, some handler⟩ = handlers := by
          rw [registrationCall]
          exact congrArg Prod.fst refused
        rw [installed, same]
        dsimp only
        rw [refused]
        exact inductionHypothesis holds

/-- The handler that is looked up is the first one installed. -/
theorem Holds.find {handlers : CmdHandler Handler} {customs : List (CustomHandler Handler)}
    (holds : Holds handlers customs) (cmdId : UInt8) :
    findCustomHandler handlers cmdId = firstInstalled customs cmdId := by
  have slots : handlers.customHandlers.toList =
      customs.map some ++ List.replicate (16 - customs.length) none := by
    refine List.ext_getElem? fun index => ?_
    rw [Vector.getElem?_toList]
    by_cases before : index < customs.length
    · have inside : index < 16 := Nat.lt_of_lt_of_le before holds.fits
      rw [Vector.getElem?_eq_getElem inside, holds.slot index inside,
        List.getElem?_append_left (by rw [List.length_map]; exact before), List.getElem?_map,
        List.getElem?_eq_getElem before]
      rfl
    · have behind : (customs.map some).length ≤ index := by
        rw [List.length_map]
        exact not_lt.mp before
      rw [List.getElem?_append_right behind, List.getElem?_replicate, List.length_map]
      by_cases inside : index < 16
      · rw [Vector.getElem?_eq_getElem inside, holds.slot index inside,
          List.getElem?_eq_none (not_lt.mp before), if_pos (by omega)]
      · rw [Vector.getElem?_eq_none (not_lt.mp inside), if_neg (by omega)]
  rw [findCustomHandler, slots, List.findSome?_append, List.findSome?_map,
    List.findSome?_replicate_of_isNone rfl, Option.or_none]
  clear slots holds
  induction customs with
  | nil => rfl
  | cons custom rest inductionHypothesis =>
    rw [firstInstalled, List.findSome?_cons, List.find?_cons, inductionHypothesis]
    by_cases same : custom.cmdId = cmdId
    · simp [same]
    · simp [same, firstInstalled]

/-- An identifier has a last handler exactly when it has a first one. -/
theorem isSome_lastInstalled (customs : List (CustomHandler Handler)) (cmdId : UInt8) :
    (lastInstalled customs cmdId).isSome = (firstInstalled customs cmdId).isSome := by
  unfold lastInstalled firstInstalled
  rw [Option.isSome_map, Option.isSome_map, Bool.eq_iff_iff, List.find?_isSome, List.find?_isSome]
  simp only [List.mem_reverse]

/-! ### Taking effect -/

variable [CLayout FaultRecord]

/-- The last handler installed for an identifier is the one that runs: whatever the handlers do,
a command with this identifier that is allowed and, where it has to be, authorised ends as this
handler leaves it, in any state with the table that the calls have built. -/
def TakesEffect (calls : List (Registration Handler)) (cmdId : UInt8) : Prop :=
  ∀ handler, lastInstalled (installed cmdHandlerInit calls) cmdId = some handler →
    ∀ (invoke : Invoke Handler) (obc : Obc Handler) (cmd : Command) (response : CmdResponse)
      (now : UInt64),
      obc.cmd.customHandlers = (calls.foldl registrationCall cmdHandlerInit).customHandlers →
        cmd.cmdId = cmdId → ¬ Refused obc cmd →
          let handled := invoke handler cmd (response.start cmd) obc now
          let executed := cmdExecute invoke obc cmd response now
          executed = recordResult handled cmd now ∧ executed.2.result = handled.result

/-- The handler installed first runs. -/
theorem cmdExecute_first {calls : List (Registration Handler)} {cmd : Command} {first : Handler}
    (installedFirst : firstInstalled (installed cmdHandlerInit calls) cmd.cmdId = some first)
    (invoke : Invoke Handler) {obc : Obc Handler}
    (table : obc.cmd.customHandlers =
      (calls.foldl registrationCall cmdHandlerInit).customHandlers)
    (admitted : ¬ Refused obc cmd) (response : CmdResponse) (now : UInt64) :
    cmdExecute invoke obc cmd response now =
      recordResult (invoke first cmd (response.start cmd) obc now) cmd now := by
  have found : findCustomHandler obc.cmd cmd.cmdId = some first := by
    have holds : Holds (calls.foldl registrationCall cmdHandlerInit)
        (installed cmdHandlerInit calls) := holds_init.calls calls
    rw [← installedFirst, ← holds.find, findCustomHandler, table]
    rfl
  exact cmdExecute_custom invoke admitted found response now

omit [CLayout FaultRecord] in
/-- A command with the authorization code is not refused after the initializations. -/
theorem not_refused_start [CLayout SystemRecord] (handlers : CmdHandler Handler)
    (cmdId : UInt8) :
    ¬ Refused ⟨handlers, sysStateInit 0, FaultMgmt.boot⟩
      (groundCommand cmdId [0xDE, 0xAD, 0xBE, 0xEF]).cmd := by
  have allowed : cmdIsAllowed .boot cmdId = true := by
    have safe : ¬ SmState.boot = .safe := SmState.noConfusion
    have emergency : ¬ SmState.boot = .emergency := SmState.noConfusion
    unfold cmdIsAllowed
    rw [if_neg safe, if_neg emergency, ite_self, ite_self]
  have verified : cmdVerifyAuth (groundCommand cmdId [0xDE, 0xAD, 0xBE, 0xEF]).cmd = true := by
    show cmdVerifyAuth (groundCommand 0 [0xDE, 0xAD, 0xBE, 0xEF]).cmd = true
    decide
  rintro (denied | ⟨_, unverified⟩)
  · exact Bool.false_ne_true (denied.symm.trans allowed)
  · exact Bool.false_ne_true (unverified.symm.trans verified)

/-- Where registration takes effect, the handler installed last is the one installed first. -/
theorem TakesEffect.first_eq_last {calls : List (Registration Handler)} {cmdId : UInt8}
    (effective : TakesEffect calls cmdId) {first last : Handler}
    (installedFirst : firstInstalled (installed cmdHandlerInit calls) cmdId = some first)
    (installedLast : lastInstalled (installed cmdHandlerInit calls) cmdId = some last) :
    first = last := by
  classical
  -- Handlers that answer success only when they are the last one tell the two apart.
  let tell : Invoke Handler := fun handler _ response obc _ =>
    ⟨obc, response, if handler = last then .success else .execFail⟩
  let := CLayout.blank SystemRecord
  let obc : Obc Handler :=
    ⟨calls.foldl registrationCall cmdHandlerInit, sysStateInit 0, FaultMgmt.boot⟩
  let call := groundCommand cmdId [0xDE, 0xAD, 0xBE, 0xEF]
  have admitted : ¬ Refused obc call.cmd := not_refused_start _ cmdId
  have expected : (cmdExecute tell obc call.cmd call.response 0).2.result = .success := by
    rw [(effective last installedLast tell obc call.cmd call.response 0 rfl rfl admitted).2]
    exact if_pos rfl
  rw [cmdExecute_first installedFirst tell rfl admitted, recordResult_result] at expected
  by_contra different
  have failed : (if first = last then CmdResult.success else .execFail) = .success := expected
  rw [if_neg different] at failed
  exact CmdResult.noConfusion failed

/-- Registration takes effect for an identifier exactly when the last handler installed for it is
the first one. -/
theorem registration_takes_effect_iff (calls : List (Registration Handler)) (cmdId : UInt8) :
    TakesEffect calls cmdId ↔
      lastInstalled (installed cmdHandlerInit calls) cmdId =
        firstInstalled (installed cmdHandlerInit calls) cmdId := by
  constructor
  · intro effective
    have both := isSome_lastInstalled (installed cmdHandlerInit calls) cmdId
    cases last : lastInstalled (installed cmdHandlerInit calls) cmdId with
    | none =>
      rw [last] at both
      exact (Option.isNone_iff_eq_none.mp (Option.isSome_eq_false_iff.mp both.symm)).symm
    | some handler =>
      rw [last] at both
      obtain ⟨first, installedFirst⟩ := Option.isSome_iff_exists.mp both.symm
      rw [installedFirst, effective.first_eq_last installedFirst last]
  · intro unchanged handler last invoke obc cmd response now table named admitted
    have installedFirst : firstInstalled (installed cmdHandlerInit calls) cmd.cmdId =
        some handler := by
      rw [named, ← unchanged, last]
    intro handled executed
    have ran : executed = recordResult handled cmd now :=
      cmdExecute_first installedFirst invoke table admitted response now
    exact ⟨ran, ran ▸ recordResult_result handled cmd now⟩

omit [CLayout FaultRecord] in
/-- Two handlers are registered for `CMD_SYS_NOP`, both times with success. The first one, which
fails, goes on running. -/
theorem second_registration_ineffective :
    letI := CLayout.blank FaultRecord
    letI := CLayout.blank SystemRecord
    let calls : List (Registration Bool) := [⟨cmdSysNop, some false⟩, ⟨cmdSysNop, some true⟩]
    let succeed : Invoke Bool := fun handler _ response obc _ =>
      ⟨obc, response, if handler then .success else .execFail⟩
    let obc : Obc Bool :=
      ⟨calls.foldl registrationCall cmdHandlerInit, sysStateInit 0, FaultMgmt.boot⟩
    let call := groundCommand cmdSysNop [0xDE, 0xAD, 0xBE, 0xEF]
    (cmdRegisterHandler (registrationCall cmdHandlerInit ⟨cmdSysNop, some false⟩) cmdSysNop
        (some true)).2 = .ok ∧
      lastInstalled (installed cmdHandlerInit calls) cmdSysNop = some true ∧
      (cmdExecute succeed obc call.cmd call.response 0).2.result = .execFail ∧
      ¬ TakesEffect calls cmdSysNop := by
  intro calls succeed obc call
  have last : lastInstalled (installed cmdHandlerInit calls) cmdSysNop = some true := by
    decide +kernel
  have failed : (@cmdExecute _ (CLayout.blank FaultRecord) succeed obc call.cmd call.response
      0).2.result = .execFail := by
    decide +kernel
  refine ⟨by decide +kernel, last, failed, fun effective => ?_⟩
  let := CLayout.blank SystemRecord
  have admitted : ¬ Refused obc call.cmd := not_refused_start _ cmdSysNop
  have answered := (effective true last succeed obc call.cmd call.response 0 rfl rfl admitted).2
  rw [failed] at answered
  exact CmdResult.noConfusion answered

end

end SmartQso
