/-
This file models the command checks of `input_validation.c`: the frame check, with
the error code of each rejection, and the payload check, whose table of command
identifiers is not the one of the command handler.
-/

import Mathlib.Algebra.GroupWithZero.Nat
import SmartQso.Types

namespace SmartQso

/-! ### Frames -/

/-- The `VALIDATION_ERR_*` codes that the frame check uses. -/
inductive ValidationError
  | none
  | tooShort
  | tooLong
  | sync
  | length
  | checksum
  deriving DecidableEq

/-- `CommandValidation_t`. -/
structure CommandValidation where
  isValid : Bool
  errorCode : ValidationError
  cmdId : UInt8
  payloadLength : UInt8
  deriving DecidableEq

/-- `calculate_checksum`: the sum of the bytes modulo 2^16. -/
def calculateChecksum (data : List UInt8) : UInt16 :=
  data.foldl (fun checksum byte => checksum + byte.toUInt16) 0

/-- Two bytes, the more significant one first. -/
def bigEndian16 (high low : UInt8) : UInt16 := high.toUInt16 <<< 8 ||| low.toUInt16

/-- Four bytes, the most significant one first. -/
def bigEndian32 (first second third fourth : UInt8) : UInt32 :=
  first.toUInt32 <<< 24 ||| second.toUInt32 <<< 16 ||| third.toUInt32 <<< 8 ||| fourth.toUInt32

/-- A number of four bytes is read back byte by byte. -/
theorem bigEndian32_bytes (first second third fourth : UInt8) :
    (bigEndian32 first second third fourth >>> 24).toUInt8 = first ∧
      (bigEndian32 first second third fourth >>> 16).toUInt8 = second ∧
      (bigEndian32 first second third fourth >>> 8).toUInt8 = third ∧
      (bigEndian32 first second third fourth).toUInt8 = fourth := by
  refine ⟨?_, ?_, ?_, ?_⟩
  -- Bit by bit: each byte lies in its own eight bits of the number.
  all_goals
    refine UInt8.eq_of_toBitVec_eq (BitVec.eq_of_getLsbD_eq fun index inside => ?_)
    simp [bigEndian32]
  · grind
  · grind
  · grind

/-- A byte of a buffer, read within its length. -/
def byteAt (data : List UInt8) (index : Nat) : UInt8 := data.getD index 0

/-- `input_validate_command`. -/
def inputValidateCommand (cmdData : List UInt8) : CommandValidation :=
  let cmdLength := cmdData.length
  if cmdLength < 4 then ⟨false, .tooShort, 0, 0⟩
  else if cmdLength > 256 then ⟨false, .tooLong, 0, 0⟩
  else if byteAt cmdData 0 ≠ 0xAA ∨ byteAt cmdData 1 ≠ 0x55 then ⟨false, .sync, 0, 0⟩
  else
    let cmdId := byteAt cmdData 2
    let payloadLength := byteAt cmdData 3
    if cmdLength ≠ 4 + payloadLength.toNat + 2 then ⟨false, .length, cmdId, payloadLength⟩
    else if bigEndian16 (byteAt cmdData (cmdLength - 2)) (byteAt cmdData (cmdLength - 1)) ≠
        calculateChecksum (cmdData.take (cmdLength - 2)) then
      ⟨false, .checksum, cmdId, payloadLength⟩
    else ⟨true, .none, cmdId, payloadLength⟩

/-! ### Payloads -/

/-- The payload array has bytes: its literals are indices. -/
instance instNeZeroPayload : NeZero 64 := ⟨by decide⟩

/-- `CMD_ID_SET_MODE`. -/
def cmdIdSetMode : UInt8 := 0x01

/-- `CMD_ID_SET_POWER`. -/
def cmdIdSetPower : UInt8 := 0x02

/-- `CMD_ID_SET_BEACON`. -/
def cmdIdSetBeacon : UInt8 := 0x03

/-- `CMD_ID_DEPLOY`. -/
def cmdIdDeploy : UInt8 := 0x10

/-- `CMD_ID_RESET`. -/
def cmdIdReset : UInt8 := 0xFF

/-- `DEPLOY_AUTH_CODE`. -/
def deployAuthCode : UInt32 := 0xDEADBEEF

/-- `input_validate_command_payload`. `CMD_ID_NOP` has no case. -/
def inputValidateCommandPayload (cmdId : UInt8) (payload : Vector UInt8 64)
    (payloadLength : Nat) : Bool :=
  if cmdId = cmdIdSetMode ∨ cmdId = cmdIdSetPower then
    decide (payloadLength ≥ 1) && decide (payload.get 0 ≤ 3)
  else if cmdId = cmdIdSetBeacon then
    let interval := bigEndian16 (payload.get 0) (payload.get 1)
    decide (payloadLength ≥ 2) && decide (interval ≥ 10) && decide (interval ≤ 120)
  else if cmdId = cmdIdDeploy then
    let authCode :=
      bigEndian32 (payload.get 0) (payload.get 1) (payload.get 2) (payload.get 3)
    decide (payloadLength ≥ 4) && decide (authCode = deployAuthCode)
  else if cmdId = cmdIdReset then
    decide (payloadLength ≥ 1) && decide (payload.get 0 = 0xFF)
  else false

end SmartQso
