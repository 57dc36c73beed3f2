/-
This file proves that a telemetry frame carries itself: whichever generator made it, in
whatever state of the system, the serializer writes its header and payload and the
checksum of exactly these bytes, or refuses the buffer and leaves it alone. The four
generators number their frames from one counter. Whatever rates are set, telemetry is due
between ten seconds and five minutes behind the last transmission.
-/

import SmartQso.Numbering
import SmartQso.Runs
import SmartQso.Telemetry

namespace SmartQso

open ByteOrder CountedArray Numbering

/-! ### Serializing -/

/-- The bytes that the checksum of a frame covers: the header and the payload. -/
def TlmFrame.covered (frame : TlmFrame) : List UInt8 :=
  frame.header.bytes ++ frame.payload.toList.take frame.header.dataLen.toNat

/-- The payload fits the frame, and the checksum is the one of the covered bytes. -/
structure TlmFrame.Consistent (frame : TlmFrame) : Prop where
  fits : frame.header.dataLen.toNat ≤ tlmPayloadSize
  checked : frame.crc32 = smartQsoCrc32 frame.covered

/-- The length of the serialized frame. -/
def TlmFrame.totalLen (frame : TlmFrame) : Nat := 14 + frame.header.dataLen.toNat + 4

/-- What the serializer owes a frame, with the payload length of its header and any buffer: in a
buffer that is large enough it writes as many bytes as it says, the header, the payload and the
checksum of these with the most significant byte first; a smaller one is refused and left alone. -/
structure SerializesItself (frame : TlmFrame) : Prop where
  written : ∀ (buffer : List UInt8) (bytesWritten : Nat), frame.totalLen ≤ buffer.length →
    tlmSerialize frame frame.header.dataLen.toNat buffer bytesWritten =
      (.ok, frame.covered ++ bigEndian 4 (smartQsoCrc32 frame.covered).toNat ++
        buffer.drop frame.totalLen, frame.totalLen)
  length : (frame.covered ++ bigEndian 4 (smartQsoCrc32 frame.covered).toNat).length =
    frame.totalLen
  refused : ∀ (buffer : List UInt8) (bytesWritten : Nat), buffer.length < frame.totalLen →
    tlmSerialize frame frame.header.dataLen.toNat buffer bytesWritten =
      (.errorNoMem, buffer, bytesWritten)

/-- The shifts give the bytes of the number. -/
theorem checksumBytes_eq (crc32 : UInt32) : checksumBytes crc32 = bigEndian 4 crc32.toNat := by
  have byte : ∀ (shifted : UInt32) (value : Nat), shifted.toNat = value →
      shifted.toUInt8 = UInt8.ofNat value := by
    intro shifted value same
    rw [← same]
    exact UInt8.toNat_inj.mp rfl
  have shift : ∀ amount : UInt32, amount < 32 →
      (crc32 >>> amount).toNat = crc32.toNat / 2 ^ amount.toNat := by
    intro amount small
    have bound : amount.toNat < 32 := UInt32.lt_iff_toNat_lt.mp small
    rw [UInt32.toNat_shiftRight, Nat.shiftRight_eq_div_pow, Nat.mod_eq_of_lt bound]
  unfold checksumBytes bigEndian
  rw [byte _ _ (shift 24 (by decide)), byte _ _ (shift 16 (by decide)),
    byte _ _ (shift 8 (by decide)), byte _ _ rfl]
  simp only [littleEndian, List.reverse_cons, List.reverse_nil, List.nil_append,
    List.cons_append, Nat.div_div_eq_div_mul]
  rfl

theorem TlmFrame.length_covered {frame : TlmFrame}
    (fits : frame.header.dataLen.toNat ≤ tlmPayloadSize) :
    frame.covered.length = tlmHeaderSize + frame.header.dataLen.toNat := by
  rw [covered, List.length_append, TlmHeader.length_bytes, List.length_take,
    Vector.length_toList, Nat.min_eq_left fits]

/-- The bytes at the start of a frame are the covered ones. -/
theorem TlmFrame.bytes_take {frame : TlmFrame}
    (fits : frame.header.dataLen.toNat ≤ tlmPayloadSize) :
    frame.bytes.take (tlmHeaderSize + frame.header.dataLen.toNat) = frame.covered := by
  rw [bytes, List.append_assoc, ← frame.header.length_bytes, List.take_append,
    List.take_of_length_le (Nat.le_add_right _ _), Nat.add_sub_cancel_left,
    List.take_append_of_le_length]
  · rfl
  · rw [Vector.length_toList]
    exact fits

/-- A write right behind what has been written. -/
theorem writeAt_append (front bytes buffer : List UInt8) :
    writeAt (front ++ buffer.drop front.length) front.length bytes =
      front ++ bytes ++ buffer.drop (front.length + bytes.length) := by
  rw [writeAt, List.take_left, List.drop_append, List.drop_drop, Nat.add_sub_cancel_left,
    List.drop_of_length_le (Nat.le_add_right _ _), List.nil_append]

/-- The payload as the serializer reads it. -/
theorem TlmFrame.bytes_payload (frame : TlmFrame) {payloadLen : Nat}
    (fits : payloadLen ≤ tlmPayloadSize) :
    (frame.bytes.drop tlmHeaderSize).take payloadLen = frame.payload.toList.take payloadLen := by
  rw [bytes, List.append_assoc, ← frame.header.length_bytes, List.drop_left,
    List.take_append_of_le_length]
  rw [Vector.length_toList]
  exact fits

/-- The three writes of the serializer stand one behind the other. -/
theorem tlmSerialize_eq (frame : TlmFrame) {payloadLen : Nat} (fits : payloadLen ≤ tlmPayloadSize)
    {buffer : List UInt8} (room : tlmHeaderSize + payloadLen + 4 ≤ buffer.length)
    (bytesWritten : Nat) :
    tlmSerialize frame payloadLen buffer bytesWritten =
      (.ok, frame.header.bytes ++ frame.payload.toList.take payloadLen ++
        bigEndian 4 frame.crc32.toNat ++ buffer.drop (tlmHeaderSize + payloadLen + 4),
        tlmHeaderSize + payloadLen + 4) := by
  have headed : writeAt buffer 0 frame.header.bytes =
      frame.header.bytes ++ buffer.drop frame.header.bytes.length := by
    rw [writeAt, List.take_zero, List.nil_append, Nat.zero_add]
  have loaded := writeAt_append frame.header.bytes (frame.payload.toList.take payloadLen) buffer
  have sealed := writeAt_append (frame.header.bytes ++ frame.payload.toList.take payloadLen)
    (bigEndian 4 frame.crc32.toNat) buffer
  have taken : (frame.payload.toList.take payloadLen).length = payloadLen := by
    rw [List.length_take, Vector.length_toList, Nat.min_eq_left fits]
  rw [TlmHeader.length_bytes, taken] at loaded
  rw [List.length_append, TlmHeader.length_bytes, taken, length_bigEndian] at sealed
  unfold tlmSerialize
  dsimp only
  rw [if_neg (Nat.not_lt.mpr room), TlmFrame.bytes_payload frame fits, headed, checksumBytes_eq,
    TlmHeader.length_bytes, loaded, sealed]

/-- With the payload length of its own header, a frame is written as the bytes that its checksum
covers and the checksum. -/
theorem TlmFrame.serialize_eq {frame : TlmFrame} (consistent : frame.Consistent)
    {buffer : List UInt8} (room : frame.totalLen ≤ buffer.length) (bytesWritten : Nat) :
    tlmSerialize frame frame.header.dataLen.toNat buffer bytesWritten =
      (.ok, frame.covered ++ bigEndian 4 (smartQsoCrc32 frame.covered).toNat ++
        buffer.drop frame.totalLen, frame.totalLen) := by
  rw [tlmSerialize_eq frame consistent.fits room, ← covered, consistent.checked]
  rfl

theorem serializesItself {frame : TlmFrame} (consistent : frame.Consistent) :
    SerializesItself frame where
  written _ bytesWritten room := frame.serialize_eq consistent room bytesWritten
  length := by
    rw [List.length_append, TlmFrame.length_covered consistent.fits, length_bigEndian]
    rfl
  refused buffer bytesWritten small := if_pos small

/-! ### Generating -/

/-- The call of one of the four generators, with the caller's frame. -/
def tlmGenerate (casts : TlmCasts) (tlm : Telemetry) (sys : SystemState) (type : TlmType)
    (frame : TlmFrame) (now : UInt64) : (TlmFrame × Nat × Telemetry) × SystemState :=
  match type with
  | .housekeeping => (tlmGenerateHousekeeping casts tlm sys frame, sys)
  | .beacon => tlmGenerateBeacon casts tlm sys frame now
  | .adcs => (tlmGenerateAdcs casts tlm sys frame, sys)
  | .eps => (tlmGenerateEps casts tlm sys frame, sys)

/-- The payload that a generator writes. -/
def payloadBytes (casts : TlmCasts) (sys : SystemState) : TlmType → List UInt8
  | .housekeeping => housekeepingBytes casts sys
  | .beacon => beaconBytes casts sys
  | .adcs => adcsBytes casts sys
  | .eps => epsBytes casts sys

/-- The generators differ in their type and payload alone. -/
theorem tlmGenerate_eq (casts : TlmCasts) (tlm : Telemetry) (sys : SystemState) (type : TlmType)
    (frame : TlmFrame) (now : UInt64) :
    (tlmGenerate casts tlm sys type frame now).1 =
      generateFrame tlm sys type (payloadBytes casts sys type) frame := by
  cases type <;> rfl

/-- The size of the packed payload of a type. -/
def TlmType.payloadSize : TlmType → Nat
  | .housekeeping => 26
  | .beacon => 4
  | .adcs => 20
  | .eps => 14

theorem length_payloadBytes (casts : TlmCasts) (sys : SystemState) (type : TlmType) :
    (payloadBytes casts sys type).length = type.payloadSize := by
  cases type <;> rfl

theorem payloadBytes_fits (casts : TlmCasts) (sys : SystemState) (type : TlmType) :
    (payloadBytes casts sys type).length ≤ tlmPayloadSize := by
  rw [length_payloadBytes]
  cases type <;> decide

section

variable (tlm : Telemetry) (sys : SystemState) (type : TlmType) {payload : List UInt8}
  (frame : TlmFrame)

theorem generateFrame_dataLen (fits : payload.length ≤ tlmPayloadSize) :
    (generateFrame tlm sys type payload frame).1.header.dataLen.toNat = payload.length :=
  UInt16.toNat_ofNat_of_lt' (Nat.lt_of_le_of_lt fits (by decide))

/-- The checksum covers the header and the generated payload, whatever was in the caller's frame. -/
theorem generateFrame_covered (fits : payload.length ≤ tlmPayloadSize) :
    (generateFrame tlm sys type payload frame).1.covered =
      (generateFrame tlm sys type payload frame).1.header.bytes ++ payload := by
  rw [TlmFrame.covered, generateFrame_dataLen tlm sys type frame fits]
  exact congrArg (_ ++ ·) (held_fill frame.payload fits)

theorem generateFrame_consistent (fits : payload.length ≤ tlmPayloadSize) :
    (generateFrame tlm sys type payload frame).1.Consistent := by
  have dataLen := generateFrame_dataLen tlm sys type frame fits
  have fitting := dataLen.trans_le fits
  refine ⟨fitting, ?_⟩
  -- The checksum is taken before it is stored, and reads nothing that is stored later.
  have read := @TlmFrame.bytes_take
    { (generateFrame tlm sys type payload frame).1 with crc32 := frame.crc32 } fitting
  rw [dataLen] at read
  exact congrArg smartQsoCrc32 read

/-- The length that a generator answers is the one of the serialized frame. -/
theorem generateFrame_len (fits : payload.length ≤ tlmPayloadSize) :
    (generateFrame tlm sys type payload frame).2.1 =
      (generateFrame tlm sys type payload frame).1.totalLen := by
  rw [TlmFrame.totalLen, generateFrame_dataLen tlm sys type frame fits]
  rfl

end

/-! ### Runs -/

/-- The statics of `telemetry.c` and the state of the system it reports on. -/
structure Telemeter where
  tlm : Telemetry
  sys : SystemState

/-- A call to a generator or to another function of the module, or whatever the rest of the software
makes of the system state in between. -/
inductive TlmCall
  | generate (type : TlmType) (frame : TlmFrame) (now : UInt64)
  | setRate (rateMs : UInt32)
  | markTransmitted (success : Bool) (now : UInt64)
  | systemChanges (sys : SystemState)

def tlmCall (casts : TlmCasts) (state : Telemeter) : TlmCall → Telemeter
  | .generate type frame now =>
    let generated := tlmGenerate casts state.tlm state.sys type frame now
    ⟨generated.1.2.2, generated.2⟩
  | .setRate rateMs => { state with tlm := tlmSetRate state.tlm rateMs }
  | .markTransmitted success now =>
    let marked := tlmMarkTransmitted state.tlm state.sys success now
    ⟨marked.1, marked.2⟩
  | .systemChanges sys => { state with sys := sys }

/-- The frame that a call generates. -/
def generatedFrame (casts : TlmCasts) (state : Telemeter) : TlmCall → Option TlmFrame
  | .generate type frame now => some (tlmGenerate casts state.tlm state.sys type frame now).1.1
  | _ => none

/-- The frames that a run generates, in their order. -/
def generatedFrames (casts : TlmCasts) : Telemeter → List TlmCall → List TlmFrame
  | _, [] => []
  | state, call :: rest =>
    (generatedFrame casts state call).toList ++
      generatedFrames casts (tlmCall casts state call) rest

/-- The number that the next frame gets. -/
def Telemeter.nextSequence (state : Telemeter) : UInt16 := state.tlm.stats.sequenceNumber

/-- A call either generates a frame, which carries itself and takes the next number, or it keeps the
number. -/
theorem tlmCall_numbers (casts : TlmCasts) (state : Telemeter) (call : TlmCall) :
    (∃ frame, generatedFrame casts state call = some frame ∧ SerializesItself frame ∧
      frame.header.sequence = state.nextSequence ∧
      (tlmCall casts state call).nextSequence = state.nextSequence + 1) ∨
    (generatedFrame casts state call = none ∧
      (tlmCall casts state call).nextSequence = state.nextSequence) := by
  cases call with
  | generate type frame now =>
    have same := tlmGenerate_eq casts state.tlm state.sys type frame now
    have consistent := generateFrame_consistent state.tlm state.sys type frame
      (payloadBytes_fits casts state.sys type)
    refine Or.inl ⟨_, rfl, ?_, ?_, ?_⟩
    · rw [same]
      exact serializesItself consistent
    · rw [same]
      rfl
    · rw [Telemeter.nextSequence, tlmCall, same]
      rfl
  | setRate rateMs => exact Or.inr ⟨rfl, rfl⟩
  | markTransmitted success now => cases success <;> exact Or.inr ⟨rfl, rfl⟩
  | systemChanges sys => exact Or.inr ⟨rfl, rfl⟩

theorem generatedFrames_carry (casts : TlmCasts) (state : Telemeter) (calls : List TlmCall) :
    ∀ frame ∈ generatedFrames casts state calls, SerializesItself frame := by
  induction calls generalizing state with
  | nil => exact fun frame absent => absurd absent List.not_mem_nil
  | cons call rest inductionHypothesis =>
    have later := inductionHypothesis (tlmCall casts state call)
    rw [generatedFrames]
    rcases tlmCall_numbers casts state call with ⟨frame, made, carries, _, _⟩ | ⟨none, _⟩
    · rw [made]
      exact List.forall_mem_cons.mpr ⟨carries, later⟩
    · rw [none]
      exact later

theorem generatedFrames_numbered (casts : TlmCasts) (state : Telemeter) (calls : List TlmCall) :
    NumberedFrom (fun frame => frame.header.sequence) state.nextSequence
      (generatedFrames casts state calls) := by
  induction calls generalizing state with
  | nil => trivial
  | cons call rest inductionHypothesis =>
    have later := inductionHypothesis (tlmCall casts state call)
    rw [generatedFrames]
    rcases tlmCall_numbers casts state call with ⟨frame, made, _, first, next⟩ | ⟨none, next⟩
    · rw [made]
      exact ⟨first, next ▸ later⟩
    · rw [none]
      exact next ▸ later

/-- In every run of the generators, in whatever states of the system, every frame serializes to its
header, its payload and their checksum, and the frames are numbered one after the other. -/
theorem generated_frames_self_consistent (casts : TlmCasts) (state : Telemeter)
    (calls : List TlmCall) (position : Fin (generatedFrames casts state calls).length) :
    SerializesItself ((generatedFrames casts state calls).get position) ∧
      ((generatedFrames casts state calls).get position).header.sequence =
        state.nextSequence + UInt16.ofNat position :=
  ⟨generatedFrames_carry casts state calls _ (List.get_mem _ position),
    (generatedFrames_numbered casts state calls).get position.isLt⟩

/-! ### When telemetry is due -/

/-- The module has been initialized, and its rate lies between the bounds of `tlm_set_rate`. -/
structure Telemetry.Regular (tlm : Telemetry) : Prop where
  initialized : tlm.initialized = true
  least : 10000 ≤ tlm.rateMs.toNat
  most : tlm.rateMs.toNat ≤ 300000

theorem tlmSetRate_regular {tlm : Telemetry} (regular : tlm.Regular) (rateMs : UInt32) :
    (tlmSetRate tlm rateMs).Regular := by
  have between : (10000 : ℕ) ≤ 300000 := by decide
  unfold tlmSetRate
  dsimp only
  split
  · exact ⟨regular.initialized, Nat.le_refl 10000, between⟩
  · next notLess =>
    split
    · exact ⟨regular.initialized, between, Nat.le_refl 300000⟩
    · next notMore =>
      exact ⟨regular.initialized, UInt32.le_iff_toNat_le.mp (UInt32.not_lt.mp notLess),
        UInt32.le_iff_toNat_le.mp (UInt32.not_lt.mp notMore)⟩

theorem tlmCall_regular (casts : TlmCasts) (state : Telemeter) (call : TlmCall)
    (regular : state.tlm.Regular) : (tlmCall casts state call).tlm.Regular := by
  cases call with
  | generate type frame now =>
    rw [tlmCall, tlmGenerate_eq]
    exact ⟨regular.initialized, regular.least, regular.most⟩
  | setRate rateMs => exact tlmSetRate_regular regular rateMs
  | markTransmitted success now =>
    cases success <;> exact ⟨regular.initialized, regular.least, regular.most⟩
  | systemChanges sys => exact regular

theorem tlmIsDue_iff {tlm : Telemetry} (initialized : tlm.initialized = true) {now : UInt64}
    (later : tlm.lastTlmTimeMs ≤ now) :
    tlmIsDue tlm now = true ↔ tlm.lastTlmTimeMs.toNat + tlm.rateMs.toNat ≤ now.toNat := by
  rw [tlmIsDue, initialized, Bool.true_and, decide_eq_true_eq, ge_iff_le, UInt64.le_iff_toNat_le,
    UInt64.toNat_sub_of_le _ _ later, UInt32.toNat_toUInt64]
  have ordered := UInt64.le_iff_toNat_le.mp later
  omega

/-- In every run from `tlm_init`, telemetry is never due in the ten seconds behind a transmission,
and always from five minutes behind it on. -/
theorem telemetry_due (casts : TlmCasts) (sys : SystemState) (calls : List TlmCall) :
    Runs.Throughout (tlmCall casts)
      (fun state => ∀ now, state.tlm.lastTlmTimeMs ≤ now →
        (tlmIsDue state.tlm now = true → state.tlm.lastTlmTimeMs.toNat + 10000 ≤ now.toNat) ∧
        (state.tlm.lastTlmTimeMs.toNat + 300000 ≤ now.toNat → tlmIsDue state.tlm now = true))
      ⟨tlmInit, sys⟩ calls := by
  have initial : tlmInit.Regular := ⟨rfl, by decide, by decide⟩
  have regular := Runs.throughout_of_preserved (tlmCall_regular casts)
    (show (⟨tlmInit, sys⟩ : Telemeter).tlm.Regular from initial) calls
  refine regular.mono fun state regular now later => ?_
  rw [tlmIsDue_iff regular.initialized later]
  have least := regular.least
  have most := regular.most
  exact ⟨fun due => by omega, fun past => by omega⟩

end SmartQso
