/-
This file specifies the telecommand frame, sync bytes, identifier, length, payload
and checksum, and proves that the frame check of `input_validation.c` accepts the
frames and nothing else, and that the fields it reads back are the ones framed.
-/

import Mathlib.Data.List.Basic
import Mathlib.Data.List.GetD
import Mathlib.Tactic.Set
import SmartQso.InputValidation

namespace SmartQso

/-! ### Numbers of two bytes -/

theorem bigEndian16_split (value : UInt16) :
    bigEndian16 (value >>> 8).toUInt8 value.toUInt8 = value := by
  refine UInt16.eq_of_toBitVec_eq (BitVec.eq_of_getLsbD_eq fun index inside => ?_)
  simp [bigEndian16, -UInt16.toUInt16_toUInt8]
  grind

theorem bigEndian16_bytes (high low : UInt8) :
    (bigEndian16 high low >>> 8).toUInt8 = high ∧ (bigEndian16 high low).toUInt8 = low := by
  constructor
  · refine UInt8.eq_of_toBitVec_eq (BitVec.eq_of_getLsbD_eq fun index inside => ?_)
    simp [bigEndian16]
    grind
  · refine UInt8.eq_of_toBitVec_eq (BitVec.eq_of_getLsbD_eq fun index inside => ?_)
    simp [bigEndian16]

/-! ### Frames -/

/-- A frame up to its checksum. -/
def frameBody (cmdId : UInt8) (payload : List UInt8) : List UInt8 :=
  0xAA :: 0x55 :: cmdId :: payload.length.toUInt8 :: payload

/-- The frame of a command. -/
def commandFrame (cmdId : UInt8) (payload : List UInt8) : List UInt8 :=
  let checksum := calculateChecksum (frameBody cmdId payload)
  frameBody cmdId payload ++ [(checksum >>> 8).toUInt8, checksum.toUInt8]

theorem length_frameBody (cmdId : UInt8) (payload : List UInt8) :
    (frameBody cmdId payload).length = 4 + payload.length := by
  rw [frameBody, List.length_cons, List.length_cons, List.length_cons, List.length_cons]
  omega

theorem length_commandFrame (cmdId : UInt8) (payload : List UInt8) :
    (commandFrame cmdId payload).length = 4 + payload.length + 2 := by
  rw [commandFrame, List.length_append, length_frameBody]
  rfl

/-- A length of at most 250 fits the length byte. -/
theorem toNat_length {payload : List UInt8} (fits : payload.length ≤ 250) :
    payload.length.toUInt8.toNat = payload.length := by
  rw [Nat.toUInt8, UInt8.toNat_ofNat', Nat.mod_eq_of_lt (by omega)]

/-- The end of a buffer, as the check reads it. -/
theorem last_two_bytes (body : List UInt8) (high low : UInt8) :
    let data := body ++ [high, low]
    byteAt data (data.length - 2) = high ∧ byteAt data (data.length - 1) = low ∧
      data.take (data.length - 2) = body := by
  intro data
  have length : data.length = body.length + 2 := List.length_append
  refine ⟨?_, ?_, ?_⟩
  · rw [length, Nat.add_sub_cancel, byteAt, List.getD_append_right _ _ _ _ (le_refl _),
      Nat.sub_self]
    rfl
  · rw [length, byteAt, List.getD_append_right _ _ _ _ (by omega),
      show body.length + 2 - 1 - body.length = 1 by omega]
    rfl
  · rw [length, Nat.add_sub_cancel, List.take_left]

/-! ### Acceptance -/

/-- Every frame is accepted, and its identifier and length are read back. -/
theorem inputValidateCommand_frame (cmdId : UInt8) {payload : List UInt8}
    (fits : payload.length ≤ 250) :
    inputValidateCommand (commandFrame cmdId payload) =
      ⟨true, .none, cmdId, payload.length.toUInt8⟩ := by
  have length := length_commandFrame cmdId payload
  have framed : (commandFrame cmdId payload).length =
      4 + payload.length.toUInt8.toNat + 2 := by
    rw [toNat_length fits, length]
  obtain ⟨high, low, body⟩ := last_two_bytes (frameBody cmdId payload)
    (calculateChecksum (frameBody cmdId payload) >>> 8).toUInt8
    (calculateChecksum (frameBody cmdId payload)).toUInt8
  have intact : bigEndian16
        (byteAt (commandFrame cmdId payload) ((commandFrame cmdId payload).length - 2))
        (byteAt (commandFrame cmdId payload) ((commandFrame cmdId payload).length - 1)) =
      calculateChecksum
        ((commandFrame cmdId payload).take ((commandFrame cmdId payload).length - 2)) := by
    unfold commandFrame
    rw [high, low, body, bigEndian16_split]
  unfold inputValidateCommand
  rw [if_neg (by omega), if_neg (by omega)]
  have synced : ¬ (byteAt (commandFrame cmdId payload) 0 ≠ 0xAA ∨
      byteAt (commandFrame cmdId payload) 1 ≠ 0x55) := by
    rintro (first | second)
    · exact first rfl
    · exact second rfl
  rw [if_neg synced]
  show (if (commandFrame cmdId payload).length ≠ 4 + payload.length.toUInt8.toNat + 2 then _
    else _) = _
  rw [if_neg (not_not.mpr framed), if_neg (not_not.mpr intact)]
  rfl

/-- What the check has established when it accepts. -/
structure Accepted (data : List UInt8) : Prop where
  header : 4 ≤ data.length
  short : data.length ≤ 256
  firstSync : byteAt data 0 = 0xAA
  secondSync : byteAt data 1 = 0x55
  framed : data.length = 4 + (byteAt data 3).toNat + 2
  intact : bigEndian16 (byteAt data (data.length - 2)) (byteAt data (data.length - 1)) =
    calculateChecksum (data.take (data.length - 2))
  cmdId : (inputValidateCommand data).cmdId = byteAt data 2

theorem accepted_of_valid {data : List UInt8}
    (valid : (inputValidateCommand data).isValid = true) : Accepted data := by
  by_cases short : data.length < 4
  · rw [inputValidateCommand, if_pos short] at valid
    exact absurd valid Bool.false_ne_true
  by_cases long : data.length > 256
  · rw [inputValidateCommand, if_neg short, if_pos long] at valid
    exact absurd valid Bool.false_ne_true
  by_cases unsynced : byteAt data 0 ≠ 0xAA ∨ byteAt data 1 ≠ 0x55
  · rw [inputValidateCommand, if_neg short, if_neg long, if_pos unsynced] at valid
    exact absurd valid Bool.false_ne_true
  have checked := valid
  rw [inputValidateCommand, if_neg short, if_neg long, if_neg unsynced] at checked
  dsimp only at checked
  obtain ⟨first, second⟩ := not_or.mp unsynced
  split_ifs at checked with wrongLength damaged
  · refine ⟨not_lt.mp short, not_lt.mp long, not_not.mp first, not_not.mp second,
      not_not.mp wrongLength, not_not.mp damaged, ?_⟩
    rw [inputValidateCommand, if_neg short, if_neg long, if_neg unsynced]
    dsimp only
    rw [if_neg wrongLength, if_neg damaged]

/-- A buffer that holds a header starts with its four bytes. -/
theorem header_bytes {data : List UInt8} (header : 4 ≤ data.length) :
    data = byteAt data 0 :: byteAt data 1 :: byteAt data 2 :: byteAt data 3 :: data.drop 4 := by
  match data, header with
  | _ :: _ :: _ :: _ :: _, _ => rfl

/-- What is accepted is a frame, with the identifier and the payload that are read from it. -/
theorem frame_of_valid {data : List UInt8}
    (valid : (inputValidateCommand data).isValid = true) :
    ∃ payload : List UInt8, payload.length ≤ 250 ∧
      data = commandFrame (inputValidateCommand data).cmdId payload := by
  have accepted := accepted_of_valid valid
  have framed := accepted.framed
  have short := accepted.short
  set payload := (data.drop 4).take (byteAt data 3).toNat with payloadEq
  have length : payload.length = (byteAt data 3).toNat := by
    rw [payloadEq, List.length_take, List.length_drop]
    omega
  -- The bytes after the payload are the two of the checksum.
  obtain ⟨high, low, last⟩ :
      ∃ high low, (data.drop 4).drop (byteAt data 3).toNat = [high, low] := by
    refine List.length_eq_two.mp ?_
    rw [List.length_drop, List.length_drop]
    omega
  have split : data = frameBody (byteAt data 2) payload ++ [high, low] := by
    have lengthByte : payload.length.toUInt8 = byteAt data 3 := by
      rw [length]
      exact UInt8.ofNat_toNat
    rw [frameBody, lengthByte, ← accepted.firstSync, ← accepted.secondSync]
    refine (header_bytes accepted.header).trans ?_
    rw [List.cons_append, List.cons_append, List.cons_append, List.cons_append, ← last, payloadEq,
      List.take_append_drop]
  obtain ⟨highByte, lowByte, body⟩ := last_two_bytes (frameBody (byteAt data 2) payload) high low
  rw [← split] at highByte lowByte body
  have intact := accepted.intact
  rw [highByte, lowByte, body] at intact
  refine ⟨payload, by omega, ?_⟩
  obtain ⟨highSum, lowSum⟩ := bigEndian16_bytes high low
  rw [accepted.cmdId, commandFrame, ← intact, highSum, lowSum]
  exact split

/-! ### The grammar -/

/-- The number that two bytes stand for. -/
theorem toNat_bigEndian16 (high low : UInt8) :
    (bigEndian16 high low).toNat = 256 * high.toNat + low.toNat := by
  have highSmall := high.toNat_lt
  have lowSmall := low.toNat_lt
  rw [bigEndian16, UInt16.toNat_or, UInt16.toNat_shiftLeft, UInt8.toNat_toUInt16,
    UInt8.toNat_toUInt16, show (8 : UInt16).toNat % 16 = 8 from rfl, Nat.shiftLeft_eq,
    Nat.mod_eq_of_lt (by omega), Nat.mul_comm high.toNat]
  exact (Nat.two_pow_add_eq_or_of_lt (by omega) high.toNat).symm

/-- The checksum is the sum of the bytes, in sixteen bits. -/
theorem toNat_calculateChecksum (data : List UInt8) :
    (calculateChecksum data).toNat = (data.map UInt8.toNat).sum % 65536 := by
  have summed : ∀ (bytes : List UInt8) (checksum : UInt16),
      (bytes.foldl (fun checksum byte => checksum + byte.toUInt16) checksum).toNat =
        (checksum.toNat + (bytes.map UInt8.toNat).sum) % 65536 := by
    intro bytes
    induction bytes with
    | nil =>
      intro checksum
      exact (Nat.mod_eq_of_lt checksum.toNat_lt).symm
    | cons byte rest inductionHypothesis =>
      intro checksum
      rw [List.foldl_cons, inductionHypothesis, UInt16.toNat_add, UInt8.toNat_toUInt16,
        List.map_cons, List.sum_cons]
      omega
  have start := summed data 0
  rw [show (0 : UInt16).toNat = 0 from rfl, Nat.zero_add] at start
  exact start

/-- The grammar of a frame: two sync bytes, an identifier, a length, that many bytes of payload,
and the sum of all of these in two bytes, the more significant one first. -/
structure FrameGrammar (data : List UInt8) (cmdId length : UInt8) (payload : List UInt8) :
    Prop where
  counted : payload.length = length.toNat
  short : data.length ≤ 256
  summed : ∃ high low : UInt8,
    data = [0xAA, 0x55, cmdId, length] ++ payload ++ [high, low] ∧
      256 * high.toNat + low.toNat =
        (([0xAA, 0x55, cmdId, length] ++ payload).map UInt8.toNat).sum % 65536

/-- The grammar derives the frames of payloads that fit, and nothing else. -/
theorem frameGrammar_iff (data : List UInt8) (cmdId length : UInt8) (payload : List UInt8) :
    FrameGrammar data cmdId length payload ↔
      payload.length ≤ 250 ∧ length = payload.length.toUInt8 ∧
        data = commandFrame cmdId payload := by
  constructor
  · rintro ⟨counted, short, high, low, bytes, summed⟩
    have lengthByte : length = payload.length.toUInt8 := by
      rw [counted]
      exact UInt8.ofNat_toNat.symm
    have fits : payload.length ≤ 250 := by
      rw [bytes, List.length_append, List.length_append] at short
      exact Nat.le_of_add_le_add_left (Nat.le_of_add_le_add_right short)
    have body : [0xAA, 0x55, cmdId, length] ++ payload = frameBody cmdId payload := by
      rw [lengthByte]
      rfl
    rw [body] at bytes summed
    have checksum : calculateChecksum (frameBody cmdId payload) = bigEndian16 high low := by
      refine UInt16.toNat_inj.mp ?_
      rw [toNat_calculateChecksum, toNat_bigEndian16, summed]
    obtain ⟨highSum, lowSum⟩ := bigEndian16_bytes high low
    refine ⟨fits, lengthByte, ?_⟩
    rw [commandFrame, checksum, highSum, lowSum]
    exact bytes
  · rintro ⟨fits, rfl, rfl⟩
    refine ⟨(toNat_length fits).symm, ?_,
      (calculateChecksum (frameBody cmdId payload) >>> 8).toUInt8,
      (calculateChecksum (frameBody cmdId payload)).toUInt8, rfl, ?_⟩
    · rw [length_commandFrame]
      omega
    · rw [← toNat_bigEndian16, bigEndian16_split]
      exact toNat_calculateChecksum (frameBody cmdId payload)

/-- No two commands have the same frame. -/
theorem commandFrame_injective {cmdId otherId : UInt8} {payload otherPayload : List UInt8}
    (same : commandFrame cmdId payload = commandFrame otherId otherPayload) :
    cmdId = otherId ∧ payload = otherPayload := by
  have lengths : (frameBody cmdId payload).length = (frameBody otherId otherPayload).length := by
    have total := congrArg List.length same
    rw [length_commandFrame, length_commandFrame] at total
    rw [length_frameBody, length_frameBody]
    exact Nat.add_right_cancel total
  have bodies : frameBody cmdId payload = frameBody otherId otherPayload :=
    (List.append_inj same lengths).1
  injection bodies with _ rest
  injection rest with _ rest
  injection rest with sameId rest
  injection rest with _ samePayload
  exact ⟨sameId, samePayload⟩

/-- The frame check accepts a buffer exactly when the grammar derives it, and then reports the
identifier and the length it is derived with. Every identifier and every payload of at most 250
bytes has a frame that is accepted, and no other command has that frame. -/
theorem frame_check_decides_grammar :
    (∀ data : List UInt8, (inputValidateCommand data).isValid = true ↔
      ∃ cmdId length payload, FrameGrammar data cmdId length payload) ∧
    (∀ data cmdId length payload, FrameGrammar data cmdId length payload →
      (inputValidateCommand data).cmdId = cmdId ∧
        (inputValidateCommand data).payloadLength = length) ∧
    (∀ (cmdId : UInt8) (payload : List UInt8), payload.length ≤ 250 →
      (inputValidateCommand (commandFrame cmdId payload)).isValid = true) ∧
    (∀ (cmdId otherId : UInt8) (payload otherPayload : List UInt8),
      commandFrame cmdId payload = commandFrame otherId otherPayload →
        cmdId = otherId ∧ payload = otherPayload) := by
  have reported : ∀ data cmdId length payload, FrameGrammar data cmdId length payload →
      inputValidateCommand data = ⟨true, .none, cmdId, length⟩ := by
    intro data cmdId length payload derived
    obtain ⟨fits, rfl, rfl⟩ := (frameGrammar_iff data cmdId length payload).mp derived
    exact inputValidateCommand_frame cmdId fits
  refine ⟨fun data => ⟨fun valid => ?_, ?_⟩, ?_, ?_, ?_⟩
  · obtain ⟨payload, fits, framed⟩ := frame_of_valid valid
    exact ⟨_, _, payload, (frameGrammar_iff _ _ _ _).mpr ⟨fits, rfl, framed⟩⟩
  · rintro ⟨cmdId, length, payload, derived⟩
    rw [reported data cmdId length payload derived]
  · intro data cmdId length payload derived
    rw [reported data cmdId length payload derived]
    exact ⟨rfl, rfl⟩
  · intro cmdId payload fits
    rw [inputValidateCommand_frame cmdId fits]
  · intro cmdId otherId payload otherPayload same
    exact commandFrame_injective same

end SmartQso
