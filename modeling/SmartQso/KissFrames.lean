/-
This file models the KISS framing of the ground station's `beacon_decoder.py`: the data
is split at the frame ends before anything is unescaped, parts that are no data frames
or too short are skipped. Frames that were escaped and sent one behind the other come
out as they went in, whatever bytes they hold.
-/

import SmartQso.ByteStuffing
import SmartQso.GroundDecoder

namespace SmartQso.Ground

open ByteStuffing

/-! ### Extraction -/

/-- `FEND`. -/
def fend : UInt8 := 0xC0

/-- `FESC`. -/
def fesc : UInt8 := 0xDB

/-- `TFEND`. -/
def tfend : UInt8 := 0xDC

/-- `TFESC`. -/
def tfesc : UInt8 := 0xDD

/-- The unescaping loop of `_extract_kiss_frames`, from a position on. -/
def unescape : List UInt8 → List UInt8
  | [] => []
  | byte :: rest =>
    if byte = fesc then
      match rest with
      | [] => []
      | code :: rest =>
        (if code = tfend then [fend] else if code = tfesc then [fesc] else []) ++ unescape rest
    else byte :: unescape rest

/-- What `_extract_kiss_frames` makes of a part between two frame ends. -/
def kissFrame (part : List UInt8) : Option (List UInt8) :=
  if part.length < 2 then none
  else if part.getD 0 0 &&& 0x0F ≠ 0 then none
  else
    let frame := unescape (part.drop 1)
    if frame.length ≥ minFrameSize then some frame else none

/-- `_extract_kiss_frames`. -/
def extractKissFrames (data : List UInt8) : List (List UInt8) :=
  (data.splitOn fend).filterMap kissFrame

/-! ### Escaping -/

/-- The framing of KISS. -/
def kiss : Framing UInt8 where
  delimiter := fend
  escape := fesc
  delimiterCode := tfend
  escapeCode := tfesc
  escape_ne := by decide
  delimiterCode_ne := by decide
  escapeCode_ne := by decide
  codes_ne := by decide

/-- The loop undoes the escapes of the framing. -/
theorem unescape_eq_unstuff (data : List UInt8) : unescape data = kiss.unstuff data := by
  induction data using unescape.induct with
  | case1 => rfl
  | case2 => simp only [unescape, Framing.unstuff, kiss, if_true]
  | case3 code rest inductionHypothesis =>
    refine Eq.trans ?_ (kiss.unstuff_escape code rest).symm
    rw [unescape, if_pos rfl, inductionHypothesis]
    show _ = if code = tfend then _ else if code = tfesc then _ else _
    split_ifs <;> rfl
  | case4 byte rest plain inductionHypothesis =>
    rw [Framing.unstuff_cons_of_ne kiss plain, ← inductionHypothesis]
    cases rest <;> simp only [unescape, if_neg plain]

/-- A data frame on the wire, and the frame ends sent behind it. -/
structure KissFrame where
  frame : List UInt8
  idle : Nat
  long : minFrameSize ≤ frame.length

/-- The bytes of a data frame and of the frame ends behind it. -/
def KissFrame.bytes (sent : KissFrame) : List UInt8 :=
  [fend, 0x00] ++ kiss.stuff sent.frame ++ [fend] ++ List.replicate sent.idle fend

/-- A part that holds an escaped frame is read as that frame. -/
theorem kissFrame_stuff {frame : List UInt8} (long : minFrameSize ≤ frame.length) :
    kissFrame (0x00 :: kiss.stuff frame) = some frame := by
  have written : minFrameSize ≤ (kiss.stuff frame).length := long.trans (kiss.length_le_stuff frame)
  have whole : ¬ (0x00 :: kiss.stuff frame).length < 2 := by
    rw [List.length_cons]
    exact Nat.not_lt.mpr (Nat.succ_le_succ (Nat.le_trans (by decide) written))
  have data : ¬ (0x00 :: kiss.stuff frame).getD 0 0 &&& 0x0F ≠ 0 := by
    rw [List.getD_cons_zero]
    decide
  have unescaped : unescape ((0x00 :: kiss.stuff frame).drop 1) = frame := by
    rw [List.drop_one, List.tail_cons, unescape_eq_unstuff, kiss.unstuff_stuff]
  simp only [kissFrame, if_neg whole, if_neg data, unescaped, ge_iff_le, if_pos long]

/-- What is sent of a frame is read as that frame, and nothing else is. -/
theorem extractKissFrames_sent (sent : KissFrame) (rest : List UInt8) :
    extractKissFrames (sent.bytes ++ rest) = sent.frame :: extractKissFrames rest := by
  have plain : fend ∉ 0x00 :: kiss.stuff sent.frame := by
    rw [List.mem_cons, not_or]
    exact ⟨by decide, kiss.delimiter_notMem_stuff sent.frame⟩
  have parts : sent.bytes ++ rest = fend :: ((0x00 :: kiss.stuff sent.frame) ++
      fend :: (List.replicate sent.idle fend ++ rest)) := by
    simp only [KissFrame.bytes, List.append_assoc, List.cons_append, List.nil_append]
  have opening := frames_append fend kissFrame List.not_mem_nil ((0x00 :: kiss.stuff sent.frame) ++
    fend :: (List.replicate sent.idle fend ++ rest))
  calc extractKissFrames (sent.bytes ++ rest)
      = frames fend kissFrame ((0x00 :: kiss.stuff sent.frame) ++
          fend :: (List.replicate sent.idle fend ++ rest)) := by
        rw [parts]
        exact opening
    _ = sent.frame :: frames fend kissFrame (List.replicate sent.idle fend ++ rest) := by
        rw [frames_append fend kissFrame plain, kissFrame_stuff sent.long]
        rfl
    _ = sent.frame :: extractKissFrames rest := by
        rw [frames_replicate fend kissFrame rfl]
        rfl

/-- Frames that are escaped and sent in order, with frame ends between them and before the first
one, are extracted as they were and in their order. -/
theorem extractKissFrames_stream (idle : Nat) (sent : List KissFrame) :
    extractKissFrames (List.replicate idle fend ++ sent.flatMap KissFrame.bytes) =
      sent.map KissFrame.frame := by
  have each : extractKissFrames (sent.flatMap KissFrame.bytes) = sent.map KissFrame.frame := by
    induction sent with
    | nil => rfl
    | cons first rest inductionHypothesis =>
      rw [List.flatMap_cons, List.map_cons, extractKissFrames_sent, inductionHypothesis]
  exact (frames_replicate fend kissFrame rfl idle _).trans each

end SmartQso.Ground
