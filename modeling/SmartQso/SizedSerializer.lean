/-
This file models `tlm_serialize` with the sizes that it is called with. The payload length
and the buffer size are `size_t`, so the length of the frame is a sum that can wrap; the
answers of `safe_memcpy` are thrown away; and an access outside an object has no answer. The
serializer checks the buffer against the sum and never the payload against the frame, so it
stays inside the frame exactly for the payloads that fit and for the calls it refuses.
-/

import SmartQso.TelemetryFrames

namespace SmartQso

open ByteOrder

/-! ### Sized buffers -/

/-- A buffer with its size in the type of sizes. -/
structure SizedBuffer where
  bytes : List UInt8
  size : USize
  sized : bytes.length = size.toNat

/-- `safe_memcpy` to an offset of a buffer from the front of another object, with the size that the
caller gives for the destination. -/
def safeMemcpyBetween (buffer : List UInt8) (offset : Nat) (destSize : USize)
    (source : List UInt8) (count : USize) : Option (SmartQsoResult × List UInt8) :=
  if count > destSize then some (.errorParam, buffer)
  else if source.length < count.toNat ∨ buffer.length < offset + count.toNat then none
  else some (.ok, writeAt buffer offset (source.take count.toNat))

/-- The four stores of the checksum. -/
def storeChecksum (buffer : List UInt8) (crcOffset : USize) (crc32 : UInt32) :
    Option (List UInt8) :=
  if buffer.length < crcOffset.toNat + 4 then none
  else some (writeAt buffer crcOffset.toNat (checksumBytes crc32))

/-- `sizeof(TlmHeader_t)` among the sizes. -/
def tlmHeaderSizeT : USize := 14

/-- `total_len` of `tlm_serialize`. -/
def serializedLen (payloadLen : USize) : USize := tlmHeaderSizeT + payloadLen + 4

/-- `tlm_serialize`, with its answer, the buffer and the count of bytes written. The payload is
copied from the frame behind its header, and what is behind the payload in it is the checksum. -/
def tlmSerializeSized (frame : TlmFrame) (payloadLen : USize) (buffer : SizedBuffer)
    (bytesWritten : USize) : Option (SmartQsoResult × List UInt8 × USize) :=
  let totalLen := serializedLen payloadLen
  if buffer.size < totalLen then some (.errorNoMem, buffer.bytes, bytesWritten)
  else do
    let headed ← safeMemcpyBetween buffer.bytes 0 buffer.size frame.header.bytes tlmHeaderSizeT
    let loaded ← safeMemcpyBetween headed.2 tlmHeaderSize (buffer.size - tlmHeaderSizeT)
      (frame.bytes.drop tlmHeaderSize) payloadLen
    let output ← storeChecksum loaded.2 (tlmHeaderSizeT + payloadLen) frame.crc32
    some (.ok, output, totalLen)

/-! ### Accesses inside the objects -/

theorem length_writeAt {buffer bytes : List UInt8} {offset : Nat}
    (room : offset + bytes.length ≤ buffer.length) :
    (writeAt buffer offset bytes).length = buffer.length := by
  rw [writeAt, List.length_append, List.length_append, List.length_take, List.length_drop]
  omega

theorem safeMemcpyBetween_eq (buffer : List UInt8) (offset : Nat) (destSize : USize)
    (source : List UInt8) {count : USize} (allowed : count ≤ destSize)
    (present : count.toNat ≤ source.length) (room : offset + count.toNat ≤ buffer.length) :
    safeMemcpyBetween buffer offset destSize source count =
      some (.ok, writeAt buffer offset (source.take count.toNat)) := by
  unfold safeMemcpyBetween
  rw [if_neg (USize.not_lt.mpr allowed),
    if_neg (not_or.mpr ⟨Nat.not_lt.mpr present, Nat.not_lt.mpr room⟩)]

theorem storeChecksum_eq {buffer : List UInt8} {crcOffset : USize} (crc32 : UInt32)
    (room : crcOffset.toNat + 4 ≤ buffer.length) :
    storeChecksum buffer crcOffset crc32 =
      some (writeAt buffer crcOffset.toNat (checksumBytes crc32)) :=
  if_neg (Nat.not_lt.mpr room)

/-- Behind the header of a frame are the payload and the checksum. -/
theorem TlmFrame.length_bytes_drop (frame : TlmFrame) :
    (frame.bytes.drop tlmHeaderSize).length = tlmPayloadSize + 4 := by
  rw [bytes, List.append_assoc, ← frame.header.length_bytes, List.drop_left, List.length_append,
    Vector.length_toList, length_littleEndian]

/-! ### Payloads that fit -/

theorem toNat_tlmHeaderSizeT : tlmHeaderSizeT.toNat = tlmHeaderSize :=
  USize.toNat_ofNat_of_lt_32 (by decide)

/-- Sums far below the largest size do not wrap. -/
theorem toNat_sizeAdd {first second : USize} (small : first.toNat + second.toNat < 4294967296) :
    (first + second).toNat = first.toNat + second.toNat := by
  rw [USize.toNat_add]
  exact Nat.mod_eq_of_lt (Nat.lt_of_lt_of_le small USize.le_size)

section

variable {payloadLen : USize} (fits : payloadLen.toNat ≤ tlmPayloadSize)

include fits

theorem toNat_crcOffset :
    (tlmHeaderSizeT + payloadLen).toNat = tlmHeaderSize + payloadLen.toNat := by
  rw [toNat_sizeAdd, toNat_tlmHeaderSizeT]
  rw [toNat_tlmHeaderSizeT]
  exact Nat.lt_of_le_of_lt (Nat.add_le_add_left fits tlmHeaderSize) (by decide)

theorem toNat_serializedLen :
    (serializedLen payloadLen).toNat = tlmHeaderSize + payloadLen.toNat + 4 := by
  have four : (4 : USize).toNat = 4 := USize.toNat_ofNat_of_lt_32 (by decide)
  unfold serializedLen
  rw [toNat_sizeAdd, toNat_crcOffset fits, four]
  rw [toNat_crcOffset fits, four]
  exact Nat.lt_of_le_of_lt (Nat.add_le_add_right (Nat.add_le_add_left fits tlmHeaderSize) 4)
    (by decide)

/-- In a buffer that is large enough all accesses are inside the objects. -/
theorem tlmSerializeSized_of_room (frame : TlmFrame) {buffer : SizedBuffer}
    (large : ¬ buffer.size < serializedLen payloadLen) (bytesWritten : USize) :
    tlmSerializeSized frame payloadLen buffer bytesWritten =
      some (.ok, (tlmSerialize frame payloadLen.toNat buffer.bytes bytesWritten.toNat).2.1,
        serializedLen payloadLen) := by
  have room : tlmHeaderSize + payloadLen.toNat + 4 ≤ buffer.bytes.length := by
    rw [buffer.sized, ← toNat_serializedLen fits]
    exact USize.le_iff_toNat_le.mp (USize.not_lt.mp large)
  have header : tlmHeaderSizeT ≤ buffer.size := by
    rw [USize.le_iff_toNat_le, toNat_tlmHeaderSizeT, ← buffer.sized]
    omega
  have allowed : payloadLen ≤ buffer.size - tlmHeaderSizeT := by
    rw [USize.le_iff_toNat_le, USize.toNat_sub_of_le _ _ header, toNat_tlmHeaderSizeT,
      ← buffer.sized]
    omega
  have present : payloadLen.toNat ≤ (frame.bytes.drop tlmHeaderSize).length := by
    rw [frame.length_bytes_drop]
    exact Nat.le_add_right_of_le fits
  have kept : (writeAt buffer.bytes 0 frame.header.bytes).length = buffer.bytes.length :=
    length_writeAt (by rw [TlmHeader.length_bytes]; omega)
  have filled : (writeAt (writeAt buffer.bytes 0 frame.header.bytes) tlmHeaderSize
      ((frame.bytes.drop tlmHeaderSize).take payloadLen.toNat)).length =
        buffer.bytes.length := by
    rw [length_writeAt, kept]
    rw [kept, List.length_take, Nat.min_eq_left present]
    omega
  have headed := safeMemcpyBetween_eq buffer.bytes 0 buffer.size frame.header.bytes header
    (by rw [toNat_tlmHeaderSizeT, TlmHeader.length_bytes])
    (by rw [toNat_tlmHeaderSizeT]; omega)
  rw [toNat_tlmHeaderSizeT, List.take_of_length_le frame.header.length_bytes.le] at headed
  have loaded := safeMemcpyBetween_eq (writeAt buffer.bytes 0 frame.header.bytes) tlmHeaderSize
    (buffer.size - tlmHeaderSizeT) (frame.bytes.drop tlmHeaderSize) allowed present
    (by rw [kept]; omega)
  have output := @storeChecksum_eq _ (tlmHeaderSizeT + payloadLen) frame.crc32
    (by rw [toNat_crcOffset fits, filled]; exact room)
  unfold tlmSerializeSized tlmSerialize
  dsimp only
  rw [if_neg large, if_neg (Nat.not_lt.mpr room)]
  simp only [headed, loaded, output, Option.bind_eq_bind, Option.bind_some, toNat_crcOffset fits]

/-- While the payload fits the frame nothing wraps and nothing is accessed outside an object: the
serializer is the one on unbounded lengths. -/
theorem tlmSerializeSized_eq (frame : TlmFrame) (buffer : SizedBuffer) (bytesWritten : USize) :
    (tlmSerializeSized frame payloadLen buffer bytesWritten).map
        (fun answer => (answer.1, answer.2.1, answer.2.2.toNat)) =
      some (tlmSerialize frame payloadLen.toNat buffer.bytes bytesWritten.toNat) := by
  have total := toNat_serializedLen fits
  have same : buffer.size < serializedLen payloadLen ↔
      buffer.bytes.length < tlmHeaderSize + payloadLen.toNat + 4 := by
    rw [buffer.sized, ← total]
    exact USize.lt_iff_toNat_lt
  by_cases small : buffer.size < serializedLen payloadLen
  · unfold tlmSerializeSized tlmSerialize
    dsimp only
    rw [if_pos small, if_pos (same.mp small)]
    rfl
  · rw [tlmSerializeSized_of_room fits frame small, Option.map_some, total]
    unfold tlmSerialize
    dsimp only
    rw [if_neg (mt same.mpr small)]

end

/-! ### What the serializer owes the frame -/

/-- An output that stays inside the frame: the payload fits, each payload byte is the one in the
frame, and the length is the one of the frame and fits the buffer. -/
structure WithinFrame (frame : TlmFrame) (payloadLen : USize) (buffer : SizedBuffer)
    (output : List UInt8) (bytesWritten : USize) : Prop where
  capacity : payloadLen.toNat ≤ tlmPayloadSize
  payload : (output.drop tlmHeaderSize).take payloadLen.toNat =
    frame.payload.toList.take payloadLen.toNat
  length : bytesWritten.toNat = tlmHeaderSize + payloadLen.toNat + 4
  room : bytesWritten ≤ buffer.size

/-- The serializer accesses nothing outside the frame and the buffer, and what it answers `OK` for
is within the frame. -/
def StaysInside (frame : TlmFrame) (payloadLen : USize) (buffer : SizedBuffer)
    (bytesWritten : USize) : Prop :=
  ∃ result output written,
    tlmSerializeSized frame payloadLen buffer bytesWritten = some (result, output, written) ∧
      (result = .ok → WithinFrame frame payloadLen buffer output written)

/-- The payload fits the frame, or the sum, wrapped as it may be, is more than the buffer. -/
def FitsOrRefused (payloadLen : USize) (buffer : SizedBuffer) : Prop :=
  payloadLen.toNat ≤ tlmPayloadSize ∨ buffer.size < serializedLen payloadLen

theorem staysInside_of_fits (frame : TlmFrame) {payloadLen : USize}
    (fits : payloadLen.toNat ≤ tlmPayloadSize) (buffer : SizedBuffer) (bytesWritten : USize) :
    StaysInside frame payloadLen buffer bytesWritten := by
  by_cases small : buffer.size < serializedLen payloadLen
  · exact ⟨_, _, _, if_pos small, fun refused => by cases refused⟩
  have total := toNat_serializedLen fits
  have room : tlmHeaderSize + payloadLen.toNat + 4 ≤ buffer.bytes.length := by
    rw [buffer.sized, ← total]
    exact USize.le_iff_toNat_le.mp (USize.not_lt.mp small)
  have taken : (frame.payload.toList.take payloadLen.toNat).length = payloadLen.toNat := by
    rw [List.length_take, Vector.length_toList, Nat.min_eq_left fits]
  refine ⟨_, _, _, tlmSerializeSized_of_room fits frame small bytesWritten, fun _ => ?_⟩
  refine ⟨fits, ?_, total, USize.not_lt.mp small⟩
  rw [tlmSerialize_eq frame fits room, List.append_assoc, List.append_assoc,
    ← frame.header.length_bytes, List.drop_left]
  exact List.take_left' taken

/-- A call that is not refused is answered with `OK`, whatever its copies answer. -/
theorem capacity_of_staysInside {frame : TlmFrame} {payloadLen : USize} {buffer : SizedBuffer}
    {bytesWritten : USize} (stays : StaysInside frame payloadLen buffer bytesWritten)
    (large : ¬ buffer.size < serializedLen payloadLen) : payloadLen.toNat ≤ tlmPayloadSize := by
  obtain ⟨result, output, written, answers, within⟩ := stays
  unfold tlmSerializeSized at answers
  dsimp only at answers
  rw [if_neg large] at answers
  obtain ⟨_, -, copied⟩ := Option.bind_eq_some_iff.mp answers
  obtain ⟨_, -, stored⟩ := Option.bind_eq_some_iff.mp copied
  obtain ⟨_, -, answered⟩ := Option.bind_eq_some_iff.mp stored
  cases answered
  exact (within rfl).capacity

/-- For every frame, payload length and buffer, the serializer stays inside the frame exactly when
the payload fits or the call is refused. -/
theorem staysInside_iff (frame : TlmFrame) (payloadLen : USize) (buffer : SizedBuffer)
    (bytesWritten : USize) :
    StaysInside frame payloadLen buffer bytesWritten ↔ FitsOrRefused payloadLen buffer := by
  constructor
  · exact fun stays => or_iff_not_imp_right.mpr (capacity_of_staysInside stays)
  · rintro (fits | small)
    · exact staysInside_of_fits frame fits buffer bytesWritten
    · exact ⟨_, _, _, if_pos small, fun refused => by cases refused⟩

/-- The length of a payload of 239 bytes does not wrap, and a buffer of 257 bytes is not refused. -/
theorem serializedLen_accepted : ¬ (257 : USize) < serializedLen 239 := by
  have payload : (239 : USize).toNat = 239 := USize.toNat_ofNat_of_lt_32 (by decide)
  have size : (257 : USize).toNat = 257 := USize.toNat_ofNat_of_lt_32 (by decide)
  have checksum : (4 : USize).toNat = 4 := USize.toNat_ofNat_of_lt_32 (by decide)
  have offset : (tlmHeaderSizeT + 239).toNat = 253 := by
    rw [toNat_sizeAdd, toNat_tlmHeaderSizeT, payload, tlmHeaderSize]
    rw [toNat_tlmHeaderSizeT, payload]
    decide
  have total : (serializedLen 239).toNat = 257 := by
    unfold serializedLen
    rw [toNat_sizeAdd, offset, checksum]
    rw [offset, checksum]
    decide
  rw [USize.lt_iff_toNat_lt, size, total]
  exact Nat.lt_irrefl 257

/-- A payload of 239 bytes in a buffer of 257: the last byte that is written for the payload is the
first one of the checksum. -/
theorem staysInside_fails :
    ¬ ∀ (frame : TlmFrame) (payloadLen : USize) (buffer : SizedBuffer) (bytesWritten : USize),
      StaysInside frame payloadLen buffer bytesWritten := by
  intro claimed
  have payload : (239 : USize).toNat = 239 := USize.toNat_ofNat_of_lt_32 (by decide)
  have size : (257 : USize).toNat = 257 := USize.toNat_ofNat_of_lt_32 (by decide)
  have stays := claimed ⟨⟨0, 0, 0, 0, 0, 0⟩, Vector.replicate _ 0, 0⟩ 239
    ⟨List.replicate 257 0, 257, by rw [List.length_replicate, size]⟩ 0
  have fits := capacity_of_staysInside stays serializedLen_accepted
  rw [payload] at fits
  exact absurd fits (by decide)

end SmartQso
