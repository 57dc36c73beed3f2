/-
This file models `tools/fl_update_builder.py`: the frames a model update is cut into,
their serialization, and the check a receiver makes on the bytes of a frame. The
digest and the two times of the manifest come from outside, and a number
`struct.pack` refuses makes the serialization a missing value.
-/

import SmartQso.BeaconTool
import SmartQso.Fragments

namespace SmartQso.Tools

open Ground

/-! ### Constants -/

/-- `FL_MAGIC`. -/
def flMagic : Nat := 0x464C

/-- `FL_VERSION`. -/
def flVersion : Nat := 0x02

/-- `HEADER_SIZE`. -/
def headerSize : Nat := 11

/-- `MAX_PAYLOAD_SIZE`. -/
def maxPayloadSize : Nat := 245

/-- `MAX_FRAMES`. -/
def maxFrames : Nat := 255

/-! ### Types -/

/-- `FLUpdateFrame`. -/
structure FLUpdateFrame where
  magic : Nat
  version : Nat
  seqNum : Nat
  totalFrames : Nat
  checksum : Nat
  payloadLen : Nat
  payload : List UInt8
  deriving DecidableEq

/-- `FLUpdateManifest`. -/
structure FLUpdateManifest where
  updateId : String
  createdUtc : String
  modelName : String
  modelVersion : String
  totalFrames : Nat
  totalBytes : Nat
  frameChecksums : List String
  overallSha256 : String
  deriving DecidableEq

/-- What the builder takes from the library: the hexadecimal digest of `hashlib.sha256`, the
time in the identifier of the update, and the time of the manifest. -/
structure Surroundings where
  sha256 : List UInt8 → String
  stamp : String
  isoTime : String

/-! ### Python -/

/-- `struct.pack` of an unsigned byte. -/
def packUint8 (value : Nat) : Option (List UInt8) :=
  if value < 0x100 then some [UInt8.ofNat value] else none

/-- `struct.pack` of an unsigned number of two bytes, the least significant byte first. -/
def packUint16 (value : Nat) : Option (List UInt8) :=
  if value < 0x10000 then some [UInt8.ofNat value, UInt8.ofNat (value / 0x100)] else none

/-- The format `04X`. -/
def formatHex4 (value : Nat) : String :=
  let digits := (Nat.toDigits 16 value).map Char.toUpper
  String.ofList (List.replicate (4 - digits.length) '0' ++ digits)

/-! ### Building -/

/-- `FLUpdateFrame.to_bytes`. -/
def FLUpdateFrame.toBytes (frame : FLUpdateFrame) : Option (List UInt8) := do
  let magic ← packUint16 frame.magic
  let version ← packUint8 frame.version
  let seqNum ← packUint16 frame.seqNum
  let totalFrames ← packUint16 frame.totalFrames
  let checksum ← packUint16 frame.checksum
  let header := magic ++ version ++ seqNum ++ totalFrames ++ checksum
  let length ← packUint16 frame.payloadLen
  some (header ++ length ++ frame.payload)

/-- The inner loop of `calculate_crc16`. -/
def crc16Bit (crc : Nat) : Nat :=
  if crc &&& 0x8000 ≠ 0 then ((crc <<< 1) ^^^ 0x1021) &&& 0xFFFF else (crc <<< 1) &&& 0xFFFF

/-- `calculate_crc16`. -/
def calculateCrc16 (data : List UInt8) : Nat :=
  data.foldl (fun crc byte => crc16Bit^[8] (crc ^^^ (byte.toNat <<< 8))) 0xFFFF

/-- `split_data`. -/
def splitData (data : List UInt8) (chunkSize : Nat) : List (List UInt8) :=
  (List.range' 0 ((data.length + chunkSize - 1) / chunkSize) chunkSize).map fun start =>
    slice data start (start + chunkSize)

/-- The frame of a chunk. -/
def chunkFrame (totalFrames : Nat) (chunk : List UInt8) (index : Nat) : FLUpdateFrame where
  magic := flMagic
  version := flVersion
  seqNum := index + 1
  totalFrames := totalFrames
  checksum := calculateCrc16 chunk
  payloadLen := chunk.length
  payload := chunk

/-- `build_update_frames`; an error is the text of a `ValueError`. -/
def buildUpdateFrames (modelData : List UInt8) (modelName modelVersion : String)
    (surroundings : Surroundings) : Except String (List FLUpdateFrame × FLUpdateManifest) :=
  let overallHash := surroundings.sha256 modelData
  let chunks := splitData modelData maxPayloadSize
  if chunks.length > maxFrames then
    .error ("Data too large: requires " ++ chunks.length.repr ++ " frames, max is " ++
      maxFrames.repr)
  else
    let totalFrames := chunks.length
    let frames := chunks.mapIdx fun index chunk => chunkFrame totalFrames chunk index
    .ok (frames,
      { updateId := "FL-" ++ surroundings.stamp ++ "-" ++
          String.ofList (overallHash.toList.take 8)
        createdUtc := surroundings.isoTime
        modelName := modelName
        modelVersion := modelVersion
        totalFrames := totalFrames
        totalBytes := modelData.length
        frameChecksums := chunks.map fun chunk => formatHex4 (calculateCrc16 chunk)
        overallSha256 := overallHash })

/-! ### Checking -/

/-- `validate_frame`. -/
def validateFrame (frameBytes : List UInt8) : Bool × String :=
  if frameBytes.length < headerSize then
    (false, "Frame too short: " ++ frameBytes.length.repr ++ " < " ++ headerSize.repr)
  else
    let magic := unpackUnsigned (slice frameBytes 0 2)
    if magic ≠ flMagic then
      (false, "Invalid magic: 0x" ++ formatHex4 magic ++ " != 0x" ++ formatHex4 flMagic)
    else
      let version := (frameBytes.getD 2 0).toNat
      if version ≠ flVersion then
        (false, "Invalid version: " ++ version.repr ++ " != " ++ flVersion.repr)
      else
        let payloadLen := unpackUnsigned (slice frameBytes 9 11)
        let expectedLen := headerSize + payloadLen
        if frameBytes.length ≠ expectedLen then
          (false, "Length mismatch: " ++ frameBytes.length.repr ++ " != " ++ expectedLen.repr)
        else
          -- the two bytes at 5 are the total number of frames; the checksum is at 7
          let storedChecksum := unpackUnsigned (slice frameBytes 5 7)
          let calculatedChecksum := calculateCrc16 (frameBytes.drop 11)
          if storedChecksum ≠ calculatedChecksum then
            (false, "Checksum mismatch: 0x" ++ formatHex4 storedChecksum ++ " != 0x" ++
              formatHex4 calculatedChecksum)
          else (true, "OK")

/-! ### Sizes -/

theorem crc16Bit_lt (crc : Nat) : crc16Bit crc < 0x10000 := by
  have masked : ∀ value : Nat, value &&& 0xFFFF < 0x10000 := fun value =>
    Nat.and_lt_two_pow value (n := 16) (by decide)
  unfold crc16Bit
  split
  · exact masked _
  · exact masked _

/-- The register never has more than sixteen bits. -/
theorem calculateCrc16_lt (data : List UInt8) : calculateCrc16 data < 0x10000 := by
  have kept : ∀ (rest : List UInt8) (crc : Nat), crc < 0x10000 →
      rest.foldl (fun crc byte => crc16Bit^[8] (crc ^^^ (byte.toNat <<< 8))) crc < 0x10000 := by
    intro rest
    induction rest with
    | nil => exact fun _ bound => bound
    | cons byte rest inductionHypothesis =>
      intro crc _
      rw [List.foldl_cons]
      refine inductionHypothesis _ ?_
      rw [Function.iterate_succ_apply']
      exact crc16Bit_lt _
  exact kept data 0xFFFF (by decide)

theorem packUint16_of_lt {value : Nat} (bound : value < 0x10000) :
    packUint16 value = some [UInt8.ofNat value, UInt8.ofNat (value / 0x100)] := if_pos bound

theorem splitData_eq (data : List UInt8) (chunkSize : Nat) :
    splitData data chunkSize = Fragments.cut chunkSize data := rfl

theorem unpackUnsigned_pair {value : Nat} (bound : value < 0x10000) :
    unpackUnsigned [UInt8.ofNat value, UInt8.ofNat (value / 0x100)] = value := by
  simp only [unpackUnsigned, List.foldr_cons, List.foldr_nil, UInt8.toNat_ofNat']
  omega

end SmartQso.Tools
