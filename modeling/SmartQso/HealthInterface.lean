/-
This file models the serial protocol of `payload/health_interface.py`: the frames it
sends, the response a frame carries, and what it makes of the bytes it reads. The
checksum is that of the `crc` package and a parameter. What is done with a payload
whose checksum is right is left out.
-/

import SmartQso.Deframer
import SmartQso.GroundDecoder
import SmartQso.JsonText

namespace SmartQso.HealthInterface

open Ground JsonText

/-- `FRAME_START`. -/
def frameStart : UInt8 := 0x7E

/-- `FRAME_END`. -/
def frameEnd : UInt8 := 0x7F

/-- `MAX_FRAME_SIZE`. -/
def maxFrameSize : Nat := 512

/-- `HealthStatus`. -/
inductive HealthStatus
  | ok
  | warning
  | error
  | critical
  deriving DecidableEq

/-- The value of a status. -/
def HealthStatus.value : HealthStatus → Int
  | .ok => 0x00
  | .warning => 0x01
  | .error => 0x02
  | .critical => 0x03

/-! ### Sending -/

/-- A key that is a short name. -/
def nameKey (name : String) : Key :=
  .str (name.toList.map fun char => Fin.ofNat 0x110000 char.toNat)

/-- The payload of `send_response`. Data that is empty is left out. -/
def responsePayload (status : HealthStatus) (timestamp : Int) (data : List (Key × Value)) :
    List UInt8 :=
  let response := [(nameKey "status", Value.int status.value),
    (nameKey "timestamp", Value.int timestamp)]
  let response := if data.isEmpty then response else response ++ [(nameKey "data", .dict data)]
  encodeUtf8 (dumps (.dict response))

/-- `struct.pack('>H', value)`. -/
def packBigEndian (value : UInt16) : List UInt8 := [(value >>> 8).toUInt8, value.toUInt8]

/-- `struct.unpack('>H', data)[0]`. -/
def unpackBigEndian (data : List UInt8) : Nat :=
  data.foldl (fun value byte => 0x100 * value + byte.toNat) 0

/-- `_build_frame`. -/
def buildFrame (checksum : List UInt8 → UInt16) (payload : List UInt8) : List UInt8 :=
  [frameStart] ++ payload ++ packBigEndian (checksum payload) ++ [frameEnd]

/-! ### Receiving -/

/-- `_extract_frame`: the frame, and what it leaves in the buffer. -/
def extractFrame (buffer : List UInt8) : Option (List UInt8) × List UInt8 :=
  match buffer.idxOf? frameStart with
  | none => (none, [])
  | some startIdx =>
    let opened := buffer.drop startIdx
    match (opened.drop 1).idxOf? frameEnd with
    | none => if opened.length > maxFrameSize then (none, []) else (none, opened)
    | some offset =>
      let endIdx := offset + 1
      (some (slice opened 1 endIdx), opened.drop (endIdx + 1))

/-- The loop of `_receive_loop` over complete frames: the frames it processes, and what is left
of the buffer. Every frame takes two markers out of the buffer, so the length of the buffer is
more fuel than the loop can use. -/
def extractLoop : Nat → List UInt8 → List (List UInt8) × List UInt8
  | 0, buffer => ([], buffer)
  | fuel + 1, buffer =>
    match extractFrame buffer with
    | (none, rest) => ([], rest)
    | (some frame, rest) =>
      let later := extractLoop fuel rest
      (frame :: later.1, later.2)

/-- A round of `_receive_loop` in which data is available. -/
def receiveData (buffer data : List UInt8) : List (List UInt8) × List UInt8 :=
  extractLoop ((buffer ++ data).length + 1) (buffer ++ data)

/-- The frames `_receive_loop` hands to `_process_frame` when these reads follow each other. -/
def receiveLoop : List UInt8 → List (List UInt8) → List (List UInt8)
  | _, [] => []
  | buffer, data :: rest =>
    let received := receiveData buffer data
    received.1 ++ receiveLoop received.2 rest

/-- What `_process_frame` finds out about a frame before it looks into the payload. -/
inductive FrameCheck
  | tooShort
  | crcMismatch
  | accepted (payload : List UInt8)
  deriving DecidableEq

/-- `_process_frame` up to the parsing of the payload. -/
def checkFrame (checksum : List UInt8 → UInt16) (frame : List UInt8) : FrameCheck :=
  if frame.length < 4 then .tooShort
  else
    let payload := frame.take (frame.length - 2)
    let receivedCrc := unpackBigEndian (frame.drop (frame.length - 2))
    if receivedCrc ≠ (checksum payload).toNat then .crcMismatch else .accepted payload

end SmartQso.HealthInterface
