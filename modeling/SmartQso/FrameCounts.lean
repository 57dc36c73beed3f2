/-
This file models what `_process_frame` of `payload/health_interface.py` does with a frame:
the checks, the payload that is decoded and parsed, the counters and the callback.
It proves that one counter goes up for every frame, except for a payload that is an
object without a command of the protocol. Logging is left out.
-/

import SmartQso.HealthFrames
import SmartQso.JsonDecode

namespace SmartQso.HealthInterface

open JsonText

/-! ### Health data -/

/-- `HealthCommand`. -/
inductive HealthCommand
  | heartbeat
  | statusRequest
  | shutdown
  | restart
  | powerState
  | configUpdate
  deriving DecidableEq

/-- The member of a value. -/
def HealthCommand.ofInt? : Int → Option HealthCommand
  | 0x01 => some .heartbeat
  | 0x02 => some .statusRequest
  | 0x03 => some .shutdown
  | 0x04 => some .restart
  | 0x05 => some .powerState
  | 0x06 => some .configUpdate
  | _ => none

/-- The integer of a float, by its `repr`, where it is a value of a command. -/
def floatCommand (text : List Char) : Int :=
  if text = "1.0".toList then 0x01
  else if text = "2.0".toList then 0x02
  else if text = "3.0".toList then 0x03
  else if text = "4.0".toList then 0x04
  else if text = "5.0".toList then 0x05
  else if text = "6.0".toList then 0x06
  else 0

/-- `HealthCommand(value)`. A truth value equals its integer, and so does a float that is whole.
Without a member the call raises `ValueError`. -/
def HealthCommand.ofValue? : Value → Option HealthCommand
  | .int value => ofInt? value
  | .bool value => ofInt? (if value then 1 else 0)
  | .float (.finite repr) => ofInt? (floatCommand repr.text)
  | _ => none

/-- `HealthData`. -/
structure HealthData where
  timestamp : Value
  command : HealthCommand
  powerState : Value
  batterySoc : Value
  obcTemp : Value
  payloadEnabled : Value
  data : Value

/-- Is this the key of a name? -/
def isKey (name : String) : Key → Bool
  | .str text => text = name.toList.map fun char => chr char.toNat
  | _ => false

/-- `data.get(name, default)`. -/
def getItem (entries : List (Key × Value)) (name : String) (default : Value) : Value :=
  ((entries.find? fun entry => isKey name entry.1).map Prod.snd).getD default

/-! ### Processing a frame -/

/-- The exceptions that reach `_process_frame`. -/
inductive Raised
  | unicodeDecodeError
  | jsonDecodeError
  | attributeError

/-- `bytes.decode('utf-8')`. -/
def decodeUtf8 (data : List UInt8) : Except Raised (List CodePoint) :=
  match (ByteArray.mk data.toArray).utf8Decode? with
  | some text => .ok (text.toList.map fun char => chr char.toNat)
  | none => .error .unicodeDecodeError

/-- `json.loads` of a string. -/
def jsonLoads (py : Interpreter) (text : List CodePoint) : Except Raised Value :=
  match loads py text with
  | some value => .ok value
  | none => .error .jsonDecodeError

/-- The float `0.0`. -/
def zeroFloat : Value := .float (.finite ⟨['0', '.', '0'], by simp [floatChars]⟩)

/-- `_parse_health_data`. Only an object has the method `get`. -/
def parseHealthData : Value → Except Raised (Option HealthData)
  | .dict entries =>
    match HealthCommand.ofValue? (getItem entries "command" (.int 0)) with
    | some command => .ok (some {
        timestamp := getItem entries "timestamp" (.int 0)
        command := command
        powerState := getItem entries "power_state" (.int 0)
        batterySoc := getItem entries "battery_soc" zeroFloat
        obcTemp := getItem entries "obc_temp" zeroFloat
        payloadEnabled := getItem entries "payload_enabled" (.bool false)
        data := getItem entries "data" .null })
    -- The `ValueError` is caught here.
    | none => .ok none
  | _ => .error .attributeError

/-- What `get_statistics` returns. -/
structure Statistics where
  rxCount : Nat
  rxErrors : Nat
  crcErrors : Nat
  deriving DecidableEq

/-- How many frames have been counted. -/
def Statistics.total (statistics : Statistics) : Nat :=
  statistics.rxCount + statistics.rxErrors + statistics.crcErrors

/-- The fields that `_process_frame` writes, with what the callback has been called with. -/
structure Link (T : Type*) where
  statistics : Statistics
  lastHeartbeat : T
  calls : List HealthData

section

variable {T : Type*} (checksum : List UInt8 → UInt16) (py : Interpreter) (callback : Bool) (now : T)

/-- `_handle_command`, where `callback` tells whether one is registered. An exception of the
callback is caught, so it changes nothing here. -/
def handleCommand (link : Link T) (healthData : HealthData) : Link T :=
  let link := if healthData.command = .heartbeat then { link with lastHeartbeat := now } else link
  if callback then { link with calls := link.calls ++ [healthData] } else link

/-- `_process_frame`. -/
def processFrame (link : Link T) (frame : List UInt8) : Link T :=
  let counts := link.statistics
  match checkFrame checksum frame with
  | .tooShort => { link with statistics := { counts with rxErrors := counts.rxErrors + 1 } }
  | .crcMismatch => { link with statistics := { counts with crcErrors := counts.crcErrors + 1 } }
  | .accepted payload =>
    match decodeUtf8 payload >>= jsonLoads py >>= parseHealthData with
    | .ok (some healthData) =>
      handleCommand callback now
        { link with statistics := { counts with rxCount := counts.rxCount + 1 } } healthData
    | .ok none => link
    | .error _ => { link with statistics := { counts with rxErrors := counts.rxErrors + 1 } }

end

/-! ### Counting -/

/-- One counter goes up, by one, and the callback is called only if that is `rx_count`. -/
structure CountedOnce {T : Type*} (before after : Link T) : Prop where
  one : after.statistics =
      { before.statistics with rxCount := before.statistics.rxCount + 1 } ∨
    after.statistics = { before.statistics with rxErrors := before.statistics.rxErrors + 1 } ∨
    after.statistics = { before.statistics with crcErrors := before.statistics.crcErrors + 1 }
  calls : after.calls ≠ before.calls → after.statistics.rxCount = before.statistics.rxCount + 1

/-- A frame carries, with the right checksum, an object whose command is missing or none of the
protocol's. -/
def CarriesNoCommand (checksum : List UInt8 → UInt16) (py : Interpreter) (frame : List UInt8) :
    Prop :=
  ∃ payload entries, checkFrame checksum frame = .accepted payload ∧
    decodeUtf8 payload >>= jsonLoads py = .ok (.dict entries) ∧
    HealthCommand.ofValue? (getItem entries "command" (.int 0)) = none

section

variable {T : Type*} {checksum : List UInt8 → UInt16} {py : Interpreter} {callback : Bool} {now : T}

/-- The callback is called after the counting. -/
theorem handleCommand_statistics (link : Link T) (healthData : HealthData) :
    (handleCommand callback now link healthData).statistics = link.statistics := by
  unfold handleCommand
  split_ifs <;> rfl

/-- Nothing is parsed into no health data except for an object without a command. -/
theorem parseHealthData_eq_none_iff {value : Value} :
    parseHealthData value = .ok none ↔ ∃ entries, value = .dict entries ∧
      HealthCommand.ofValue? (getItem entries "command" (.int 0)) = none := by
  constructor
  · intro nothing
    cases value with
    | dict entries =>
      refine ⟨entries, rfl, ?_⟩
      unfold parseHealthData at nothing
      dsimp only at nothing
      split at nothing
      case h_1 => cases nothing
      case h_2 missing => exact missing
    | _ => cases nothing
  · rintro ⟨entries, rfl, missing⟩
    unfold parseHealthData
    dsimp only
    rw [missing]

/-- A payload is parsed into no health data exactly when it is such an object. -/
theorem parsePayload_eq_none_iff {payload : List UInt8} :
    decodeUtf8 payload >>= jsonLoads py >>= parseHealthData = .ok none ↔
      ∃ entries, decodeUtf8 payload >>= jsonLoads py = .ok (.dict entries) ∧
        HealthCommand.ofValue? (getItem entries "command" (.int 0)) = none := by
  cases loaded : decodeUtf8 payload >>= jsonLoads py with
  | error raised =>
    refine iff_of_false (fun nothing => by cases nothing) ?_
    rintro ⟨entries, loaded, -⟩
    cases loaded
  | ok value =>
    refine (@parseHealthData_eq_none_iff value).trans ?_
    simp only [Except.ok.injEq]

/-- A frame without a command leaves everything as it is. -/
theorem processFrame_noCommand {frame : List UInt8} (noCommand : CarriesNoCommand checksum py frame)
    (link : Link T) : processFrame checksum py callback now link frame = link := by
  obtain ⟨payload, entries, accepted, parsed⟩ := noCommand
  unfold processFrame
  rw [accepted]
  dsimp only
  rw [parsePayload_eq_none_iff.mpr ⟨entries, parsed⟩]

/-- A frame that is left as it is is not counted. -/
theorem CountedOnce.irrefl (link : Link T) : ¬ CountedOnce link link := by
  rintro ⟨one | one | one, -⟩
  · exact absurd (congrArg Statistics.rxCount one) (Nat.ne_of_lt (Nat.lt_succ_self _))
  · exact absurd (congrArg Statistics.rxErrors one) (Nat.ne_of_lt (Nat.lt_succ_self _))
  · exact absurd (congrArg Statistics.crcErrors one) (Nat.ne_of_lt (Nat.lt_succ_self _))

/-- Every other frame is counted once. -/
theorem countedOnce_processFrame {frame : List UInt8}
    (other : ¬ CarriesNoCommand checksum py frame) (link : Link T) :
    CountedOnce link (processFrame checksum py callback now link frame) := by
  unfold processFrame
  dsimp only
  split
  case h_1 => exact ⟨.inr (.inl rfl), fun called => absurd rfl called⟩
  case h_2 => exact ⟨.inr (.inr rfl), fun called => absurd rfl called⟩
  case h_3 payload accepted =>
    split
    case h_1 healthData parsed =>
      have counted := @handleCommand_statistics T callback now
        { link with statistics :=
          { link.statistics with rxCount := link.statistics.rxCount + 1 } } healthData
      exact ⟨.inl counted, fun _ => congrArg Statistics.rxCount counted⟩
    case h_2 nothing =>
      obtain ⟨entries, parsed⟩ := parsePayload_eq_none_iff.mp nothing
      exact absurd ⟨payload, entries, accepted, parsed⟩ other
    case h_3 => exact ⟨.inr (.inl rfl), fun called => absurd rfl called⟩

theorem CountedOnce.total {before after : Link T} (counted : CountedOnce before after) :
    after.statistics.total = before.statistics.total + 1 := by
  unfold Statistics.total
  obtain ⟨one | one | one, -⟩ := counted <;> (rw [one]; dsimp only; omega)

/-- In a run of such frames every one is counted. -/
theorem total_processFrames {frames : List (List UInt8)}
    (others : ∀ frame ∈ frames, ¬ CarriesNoCommand checksum py frame) (link : Link T) :
    (frames.foldl (processFrame checksum py callback now) link).statistics.total =
      link.statistics.total + frames.length := by
  induction frames generalizing link with
  | nil => rfl
  | cons frame rest inductionHypothesis =>
    obtain ⟨other, later⟩ := List.forall_mem_cons.mp others
    rw [List.foldl_cons, inductionHypothesis later, (countedOnce_processFrame other link).total,
      List.length_cons, Nat.add_assoc, Nat.add_comm 1]

variable (callback now) in
/-- A frame is counted once exactly when it does not carry an object without a command. -/
theorem countedOnce_iff (link : Link T) (frame : List UInt8) :
    CountedOnce link (processFrame checksum py callback now link frame) ↔
      ¬ CarriesNoCommand checksum py frame := by
  refine ⟨fun counted noCommand => ?_, fun other => countedOnce_processFrame other link⟩
  rw [processFrame_noCommand noCommand] at counted
  exact CountedOnce.irrefl link counted

end

/-- The empty object with its checksum is not counted. -/
theorem countedOnce_fails :
    ¬ ∀ (py : Interpreter) (callback : Bool) (now : ℚ) (link : Link ℚ) (frame : List UInt8),
      CountedOnce link (processFrame crcCcitt py callback now link frame) := by
  intro claimed
  have noCommand : CarriesNoCommand crcCcitt ⟨1000, 4300, fun _ => .nan⟩
      [0x7B, 0x7D, 0x7B, 0x99] := by
    refine ⟨[0x7B, 0x7D], [], by decide +kernel, ?_, rfl⟩
    have bytes : ByteArray.mk [0x7B, 0x7D].toArray = ['{', '}'].utf8Encode := rfl
    unfold decodeUtf8
    rw [bytes, List.utf8Decode?_utf8Encode]
    rfl
  have counted := claimed ⟨1000, 4300, fun _ => .nan⟩ true 0 ⟨⟨0, 0, 0⟩, 0, []⟩
    [0x7B, 0x7D, 0x7B, 0x99]
  rw [processFrame_noCommand noCommand] at counted
  exact CountedOnce.irrefl _ counted

end SmartQso.HealthInterface
