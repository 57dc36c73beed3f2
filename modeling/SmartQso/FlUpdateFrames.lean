/-
This file proves what the fragmentation of a model update guarantees: which updates
are refused, that the frames of the others number and describe their payloads, and
that the payloads put together in the order of the numbers are the update. It also
settles which of these frames the check of the same tool accepts. That check reads
the checksum where the total number of frames is stored.
-/

import SmartQso.FlUpdateBuilder

namespace SmartQso.Tools

open Ground

/-! ### Fragmentation -/

/-- What a receiver of the frames of an update relies on. -/
structure Fragmentation (modelData : List UInt8) (frames : List FLUpdateFrame) : Prop where
  count : frames.length = (modelData.length + 244) / 245
  numbers : frames.map FLUpdateFrame.seqNum = List.range' 1 frames.length
  total : ∀ frame ∈ frames, frame.totalFrames = frames.length
  payload : ∀ frame ∈ frames, 1 ≤ frame.payload.length ∧ frame.payload.length ≤ 245
  described : ∀ frame ∈ frames,
    frame.payloadLen = frame.payload.length ∧ frame.checksum = calculateCrc16 frame.payload
  serialized : ∀ frame ∈ frames, ∃ bytes, frame.toBytes = some bytes ∧ bytes.length ≤ 256
  joined : frames.flatMap FLUpdateFrame.payload = modelData
  reordered : ∀ received : List FLUpdateFrame, received.Perm frames →
    (received.mergeSort fun first second => decide (first.seqNum ≤ second.seqNum)).flatMap
      FLUpdateFrame.payload = modelData

/-- The frames of the chunks. -/
def chunkFrames (chunks : List (List UInt8)) : List FLUpdateFrame :=
  chunks.mapIdx fun index chunk => chunkFrame chunks.length chunk index

@[simp] theorem length_chunkFrames (chunks : List (List UInt8)) :
    (chunkFrames chunks).length = chunks.length := List.length_mapIdx

theorem map_payload_chunkFrames (chunks : List (List UInt8)) :
    (chunkFrames chunks).map FLUpdateFrame.payload = chunks := by
  refine List.ext_getElem (by rw [List.length_map, length_chunkFrames]) fun index _ _ => ?_
  rw [List.getElem_map]
  simp only [chunkFrames, List.getElem_mapIdx, chunkFrame]

theorem map_seqNum_chunkFrames (chunks : List (List UInt8)) :
    (chunkFrames chunks).map FLUpdateFrame.seqNum = List.range' 1 chunks.length := by
  refine List.ext_getElem
    (by rw [List.length_map, length_chunkFrames, List.length_range']) fun index _ _ => ?_
  rw [List.getElem_map, List.getElem_range', Nat.one_mul, Nat.add_comm]
  simp only [chunkFrames, List.getElem_mapIdx, chunkFrame]

theorem mem_chunkFrames {chunks : List (List UInt8)} {frame : FLUpdateFrame} :
    frame ∈ chunkFrames chunks ↔
      ∃ index, ∃ bound : index < chunks.length,
        frame = chunkFrame chunks.length chunks[index] index := by
  rw [chunkFrames, List.mem_mapIdx]
  exact ⟨fun ⟨index, bound, same⟩ => ⟨index, bound, same.symm⟩,
    fun ⟨index, bound, same⟩ => ⟨index, bound, same.symm⟩⟩

/-- An update with too many chunks is refused, and the others are framed chunk by chunk. -/
theorem buildUpdateFrames_cases (modelData : List UInt8) (modelName modelVersion : String)
    (surroundings : Surroundings) :
    (255 * 245 < modelData.length ∧
      ∃ text, buildUpdateFrames modelData modelName modelVersion surroundings = .error text) ∨
    (modelData.length ≤ 255 * 245 ∧
      ∃ manifest, buildUpdateFrames modelData modelName modelVersion surroundings =
        .ok (chunkFrames (splitData modelData maxPayloadSize), manifest)) := by
  have limit : (splitData modelData maxPayloadSize).length ≤ maxFrames ↔
      modelData.length ≤ 255 * 245 := by
    rw [splitData_eq, Fragments.length_cut]
    exact Fragments.count_le_iff (by decide)
  unfold buildUpdateFrames
  by_cases large : (splitData modelData maxPayloadSize).length > maxFrames
  · refine Or.inl ⟨?_, _, if_pos large⟩
    exact Nat.lt_of_not_le fun short => absurd (limit.mpr short) (Nat.not_le.mpr large)
  · exact Or.inr ⟨limit.mp (Nat.le_of_not_lt large), _, if_neg large⟩

/-! ### Serialization -/

/-- The bytes of the header of a chunk. -/
def headerBytes (totalFrames : Nat) (chunk : List UInt8) (index : Nat) : List UInt8 :=
  [0x4C, 0x46, 0x02, UInt8.ofNat (index + 1), UInt8.ofNat ((index + 1) / 0x100),
    UInt8.ofNat totalFrames, UInt8.ofNat (totalFrames / 0x100),
    UInt8.ofNat (calculateCrc16 chunk), UInt8.ofNat (calculateCrc16 chunk / 0x100),
    UInt8.ofNat chunk.length, UInt8.ofNat (chunk.length / 0x100)]

/-- Numbers in the range of their fields are packed. -/
theorem toBytes_chunkFrame {totalFrames index : Nat} {chunk : List UInt8}
    (totalBound : totalFrames < 0x10000) (indexBound : index + 1 < 0x10000)
    (lengthBound : chunk.length < 0x10000) :
    (chunkFrame totalFrames chunk index).toBytes =
      some (headerBytes totalFrames chunk index ++ chunk) := by
  have checksumBound := calculateCrc16_lt chunk
  have magic : packUint16 flMagic = some [0x4C, 0x46] := rfl
  have version : packUint8 flVersion = some [0x02] := rfl
  simp only [FLUpdateFrame.toBytes, chunkFrame, magic, version, packUint16_of_lt totalBound,
    packUint16_of_lt indexBound, packUint16_of_lt lengthBound, packUint16_of_lt checksumBound]
  rfl

/-- The frames of an update have their numbers in range. -/
theorem toBytes_of_mem {chunks : List (List UInt8)} (few : chunks.length ≤ maxFrames)
    (short : ∀ chunk ∈ chunks, chunk.length ≤ maxPayloadSize) {index : Nat}
    (bound : index < chunks.length) :
    (chunkFrame chunks.length chunks[index] index).toBytes =
      some (headerBytes chunks.length chunks[index] index ++ chunks[index]) := by
  have chunkShort := short _ (List.getElem_mem bound)
  simp only [maxFrames, maxPayloadSize] at few chunkShort
  exact toBytes_chunkFrame (by omega) (by omega) (by omega)

/-- A full payload and the header fill 256 bytes. -/
theorem length_serialized {totalFrames index : Nat} {chunk : List UInt8}
    (short : chunk.length ≤ maxPayloadSize) :
    (headerBytes totalFrames chunk index ++ chunk).length ≤ 256 := by
  rw [List.length_append]
  simp only [headerBytes, List.length_cons, List.length_nil, maxPayloadSize] at short ⊢
  omega

/-- Whatever the update, its frames lose nothing. -/
theorem chunkFrames_fragmentation {modelData : List UInt8}
    (allowed : modelData.length ≤ 255 * 245) :
    Fragmentation modelData (chunkFrames (splitData modelData maxPayloadSize)) := by
  have number : (splitData modelData maxPayloadSize).length = (modelData.length + 244) / 245 := by
    rw [splitData_eq, Fragments.length_cut]
    rfl
  have few : (splitData modelData maxPayloadSize).length ≤ maxFrames := by
    rw [number]
    simp only [maxFrames]
    omega
  have sizes : ∀ chunk ∈ splitData modelData maxPayloadSize,
      1 ≤ chunk.length ∧ chunk.length ≤ maxPayloadSize := fun chunk member =>
    Fragments.length_of_mem_cut (by decide) member
  have joined : (chunkFrames (splitData modelData maxPayloadSize)).flatMap
      FLUpdateFrame.payload = modelData := by
    rw [List.flatMap_def, map_payload_chunkFrames, splitData_eq]
    exact Fragments.flatten_cut (by decide) modelData
  have increasing : ((chunkFrames (splitData modelData maxPayloadSize)).map
      FLUpdateFrame.seqNum).Pairwise (· < ·) := by
    rw [map_seqNum_chunkFrames]
    exact List.pairwise_lt_range' 1
  refine
    { count := by rw [length_chunkFrames, number]
      numbers := by rw [map_seqNum_chunkFrames, length_chunkFrames]
      total := fun frame member => ?total
      payload := fun frame member => ?payload
      described := fun frame member => ?described
      serialized := fun frame member => ?serialized
      joined := joined
      reordered := fun received arrived => ?reordered }
  case total =>
    obtain ⟨index, bound, rfl⟩ := mem_chunkFrames.mp member
    rw [length_chunkFrames]
    rfl
  case payload =>
    obtain ⟨index, bound, rfl⟩ := mem_chunkFrames.mp member
    exact sizes _ (List.getElem_mem bound)
  case described =>
    obtain ⟨index, bound, rfl⟩ := mem_chunkFrames.mp member
    exact ⟨rfl, rfl⟩
  case serialized =>
    obtain ⟨index, bound, rfl⟩ := mem_chunkFrames.mp member
    exact ⟨_, toBytes_of_mem few (fun chunk listed => (sizes chunk listed).2) bound,
      length_serialized (sizes _ (List.getElem_mem bound)).2⟩
  case reordered =>
    rw [Fragments.mergeSort_of_perm increasing arrived, joined]

/-- Exactly the updates of more than 255 full payloads are refused, and the frames of the others
lose nothing. -/
theorem buildUpdateFrames_fragmentation (modelData : List UInt8)
    (modelName modelVersion : String) (surroundings : Surroundings) :
    ((∃ text, buildUpdateFrames modelData modelName modelVersion surroundings = .error text) ↔
      255 * 245 < modelData.length) ∧
    (modelData.length ≤ 255 * 245 → ∃ frames manifest,
      buildUpdateFrames modelData modelName modelVersion surroundings = .ok (frames, manifest) ∧
        Fragmentation modelData frames) := by
  rcases buildUpdateFrames_cases modelData modelName modelVersion surroundings with
    ⟨large, refused⟩ | ⟨allowed, manifest, built⟩
  · exact ⟨iff_of_true refused large, fun allowed => absurd allowed (Nat.not_le.mpr large)⟩
  · refine ⟨iff_of_false ?_ (Nat.not_lt.mpr allowed), fun _ =>
      ⟨_, manifest, built, chunkFrames_fragmentation allowed⟩⟩
    rintro ⟨text, refused⟩
    rw [built] at refused
    cases refused

/-- Five hundred bytes travel in three frames. -/
theorem buildUpdateFrames_three_frames : ∃ frames manifest,
    buildUpdateFrames (List.replicate 500 7) "unknown" "0.0.0" ⟨fun _ => "", "", ""⟩ =
      .ok (frames, manifest) ∧ Fragmentation (List.replicate 500 7) frames :=
  (buildUpdateFrames_fragmentation (List.replicate 500 7) "unknown" "0.0.0"
    ⟨fun _ => "", "", ""⟩).2 (by rw [List.length_replicate]; decide)

/-! ### The check -/

/-- The check compares the total number of frames with the checksum of the payload. -/
theorem validateFrame_eq_ok_iff {totalFrames index : Nat} {chunk : List UInt8}
    (totalBound : totalFrames < 0x10000) (lengthBound : chunk.length < 0x10000) :
    validateFrame (headerBytes totalFrames chunk index ++ chunk) = (true, "OK") ↔
      calculateCrc16 chunk = totalFrames := by
  have enough : ¬(headerBytes totalFrames chunk index ++ chunk).length < headerSize := by
    rw [List.length_append]
    simp only [headerBytes, headerSize, List.length_cons, List.length_nil]
    omega
  have magic : unpackUnsigned (slice (headerBytes totalFrames chunk index ++ chunk) 0 2) =
      flMagic := by
    have bytes : slice (headerBytes totalFrames chunk index ++ chunk) 0 2 = [0x4C, 0x46] := rfl
    rw [bytes]
    decide
  have version : ((headerBytes totalFrames chunk index ++ chunk).getD 2 0).toNat = flVersion := rfl
  have payloadLen : unpackUnsigned (slice (headerBytes totalFrames chunk index ++ chunk) 9 11) =
      chunk.length := unpackUnsigned_pair lengthBound
  have stored : unpackUnsigned (slice (headerBytes totalFrames chunk index ++ chunk) 5 7) =
      totalFrames := unpackUnsigned_pair totalBound
  have whole : (headerBytes totalFrames chunk index ++ chunk).length =
      headerSize + chunk.length := by
    rw [List.length_append]
    rfl
  have payload : (headerBytes totalFrames chunk index ++ chunk).drop 11 = chunk := rfl
  unfold validateFrame
  rw [if_neg enough, magic, version, payloadLen, stored, payload]
  simp only [ne_eq, not_true_eq_false, if_false, whole]
  by_cases same : calculateCrc16 chunk = totalFrames
  · simp [same]
  · simp [same, Ne.symm same]

/-- A frame of an update is accepted when the checksum of its payload is the number of frames. -/
theorem validateFrame_chunkFrames {chunks : List (List UInt8)} (few : chunks.length ≤ maxFrames)
    (short : ∀ chunk ∈ chunks, chunk.length ≤ maxPayloadSize) {index : Nat}
    (bound : index < chunks.length) :
    (∃ bytes, (chunkFrame chunks.length chunks[index] index).toBytes = some bytes ∧
        validateFrame bytes = (true, "OK")) ↔
      calculateCrc16 chunks[index] = chunks.length := by
  have chunkShort := short _ (List.getElem_mem bound)
  have packed := toBytes_of_mem few short bound
  simp only [maxFrames, maxPayloadSize] at few chunkShort
  have valid : validateFrame (headerBytes chunks.length chunks[index] index ++ chunks[index]) =
      (true, "OK") ↔ calculateCrc16 chunks[index] = chunks.length :=
    validateFrame_eq_ok_iff (by omega) (by omega)
  rw [← valid, packed]
  constructor
  · rintro ⟨bytes, same, accepted⟩
    rwa [Option.some.inj same]
  · exact fun accepted => ⟨_, rfl, accepted⟩

/-- All frames of an update are accepted exactly when the checksum of every chunk happens to be
the number of chunks. -/
theorem updateFrames_accepted_iff (modelData : List UInt8) (modelName modelVersion : String)
    (surroundings : Surroundings) (allowed : modelData.length ≤ 255 * 245) :
    ∃ frames manifest,
      buildUpdateFrames modelData modelName modelVersion surroundings = .ok (frames, manifest) ∧
      ((∀ frame ∈ frames, ∃ bytes, frame.toBytes = some bytes ∧
          validateFrame bytes = (true, "OK")) ↔
        ∀ chunk ∈ splitData modelData 245,
          calculateCrc16 chunk = (splitData modelData 245).length) := by
  rcases buildUpdateFrames_cases modelData modelName modelVersion surroundings with
    ⟨large, _⟩ | ⟨_, manifest, built⟩
  · exact absurd allowed (Nat.not_le.mpr large)
  · refine ⟨_, manifest, built, ?_⟩
    have few : (splitData modelData maxPayloadSize).length ≤ maxFrames := by
      rw [splitData_eq, Fragments.length_cut]
      exact (Fragments.count_le_iff (by decide)).mpr allowed
    have short : ∀ chunk ∈ splitData modelData maxPayloadSize, chunk.length ≤ maxPayloadSize :=
      fun chunk member => (Fragments.length_of_mem_cut (by decide) member).2
    constructor
    · intro accepted chunk member
      obtain ⟨index, bound, rfl⟩ := List.getElem_of_mem member
      exact (validateFrame_chunkFrames few short bound).mp
        (accepted _ (mem_chunkFrames.mpr ⟨index, bound, rfl⟩))
    · intro same frame member
      obtain ⟨index, bound, rfl⟩ := mem_chunkFrames.mp member
      exact (validateFrame_chunkFrames few short bound).mpr (same _ (List.getElem_mem bound))

/-- The two bytes 62 8E have the checksum 1, so that their only frame is accepted. -/
theorem updateFrames_accepted_pair : ∃ frames manifest,
    buildUpdateFrames [0x62, 0x8E] "unknown" "0.0.0" ⟨fun _ => "", "", ""⟩ =
      .ok (frames, manifest) ∧
    ∀ frame ∈ frames, ∃ bytes, frame.toBytes = some bytes ∧
      validateFrame bytes = (true, "OK") := by
  obtain ⟨frames, manifest, built, accepted⟩ :=
    updateFrames_accepted_iff [0x62, 0x8E] "unknown" "0.0.0" ⟨fun _ => "", "", ""⟩ (by decide)
  exact ⟨frames, manifest, built, accepted.mpr (by decide)⟩

/-- The only frame of an update of one zero byte is rejected: 1 is not the checksum E1F0. -/
theorem updateFrames_rejected :
    ¬ ∀ (modelData : List UInt8) (modelName modelVersion : String)
      (surroundings : Surroundings), modelData.length ≤ 255 * 245 →
      ∃ frames manifest,
        buildUpdateFrames modelData modelName modelVersion surroundings =
          .ok (frames, manifest) ∧
        ∀ frame ∈ frames, ∃ bytes, frame.toBytes = some bytes ∧
          validateFrame bytes = (true, "OK") := by
  intro claimed
  obtain ⟨frames, manifest, built, accepted⟩ :=
    claimed [0] "unknown" "0.0.0" ⟨fun _ => "", "", ""⟩ (by decide)
  have only : frames = [chunkFrame 1 [0] 0] := (congrArg Prod.fst (Except.ok.inj built)).symm
  obtain ⟨bytes, packed, valid⟩ := accepted (chunkFrame 1 [0] 0) (only ▸ List.mem_singleton_self _)
  have serialized : (chunkFrame 1 [0] 0).toBytes = some (headerBytes 1 [0] 0 ++ [0]) :=
    toBytes_chunkFrame (by decide) (by decide) (by decide)
  rw [serialized] at packed
  rw [← Option.some.inj packed, validateFrame_eq_ok_iff (by decide) (by decide)] at valid
  revert valid
  decide

end SmartQso.Tools
