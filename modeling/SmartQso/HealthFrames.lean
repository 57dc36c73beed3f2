/-
This file proves what the receiver of `health_interface.py` makes of the bytes on the
line. Its buffer stands for the state of a receiver between two markers, so the loop
over complete frames is a deframer; the buffer it gives up at the end of a read makes
the difference between two ways of cutting the same stream. A frame comes back from
the line exactly when no byte of its checksum looks like the end marker.
-/

import SmartQso.HealthInterface

namespace SmartQso.HealthInterface

open Ground JsonText Deframer

/-! ### One frame -/

/-- The first occurrence of an element that is not in front of it. -/
theorem idxOf?_append_cons {skipped : List UInt8} {marker : UInt8} (rest : List UInt8)
    (unmarked : marker ∉ skipped) :
    (skipped ++ marker :: rest).idxOf? marker = some skipped.length := by
  induction skipped with
  | nil => rw [List.nil_append, List.idxOf?_cons, if_pos (beq_self_eq_true _), List.length_nil]
  | cons byte skipped inductionHypothesis =>
    rw [List.mem_cons, not_or] at unmarked
    rw [List.cons_append, List.idxOf?_cons, if_neg (by rw [beq_iff_eq]; exact Ne.symm unmarked.1),
      inductionHypothesis unmarked.2, Option.map_some, List.length_cons]

/-- Everything before the first start marker is discarded, and the next end marker completes
the frame. -/
theorem extractFrame_complete {skipped body : List UInt8} (rest : List UInt8)
    (outside : frameStart ∉ skipped) (inside : frameEnd ∉ body) :
    extractFrame (skipped ++ frameStart :: (body ++ frameEnd :: rest)) = (some body, rest) := by
  have dropped : (skipped ++ frameStart :: (body ++ frameEnd :: rest)).drop skipped.length =
      frameStart :: (body ++ frameEnd :: rest) := List.drop_left
  unfold extractFrame
  rw [idxOf?_append_cons _ outside]
  simp only [dropped, List.drop_one, List.tail_cons, idxOf?_append_cons _ inside]
  have frame : slice (frameStart :: (body ++ frameEnd :: rest)) 1 (body.length + 1) = body := by
    rw [slice, List.take_succ_cons, List.drop_one, List.tail_cons, List.take_left]
  have left : (frameStart :: (body ++ frameEnd :: rest)).drop (body.length + 1 + 1) = rest := by
    rw [List.drop_succ_cons, List.drop_append, List.drop_eq_nil_of_le (Nat.le_succ _),
      Nat.add_sub_cancel_left]
    rfl
  rw [frame, left]

/-- Without an end marker the buffer is kept from the start marker on, unless it is too long. -/
theorem extractFrame_unfinished {skipped body : List UInt8} (outside : frameStart ∉ skipped)
    (inside : frameEnd ∉ body) :
    extractFrame (skipped ++ frameStart :: body) =
      (none, if (frameStart :: body).length > maxFrameSize then [] else frameStart :: body) := by
  have dropped : (skipped ++ frameStart :: body).drop skipped.length = frameStart :: body :=
    List.drop_left
  unfold extractFrame
  rw [idxOf?_append_cons _ outside]
  simp only [dropped, List.drop_one, List.tail_cons, List.idxOf?_eq_none_iff.mpr inside]
  split <;> rfl

/-- Without a start marker the buffer is cleared. -/
theorem extractFrame_outside {buffer : List UInt8} (outside : frameStart ∉ buffer) :
    extractFrame buffer = (none, []) := by
  unfold extractFrame
  rw [List.idxOf?_eq_none_iff.mpr outside]

/-! ### The loop -/

/-- The buffer of a receiver. -/
def bufferOf : Option (List UInt8) → List UInt8
  | none => []
  | some collected => frameStart :: collected

/-- The longest unfinished frame that is kept, without its start marker. -/
def keptLimit : Nat := maxFrameSize - 1

theorem bufferOf_settle (collected : List UInt8) :
    bufferOf (settle keptLimit (some collected)) =
      if (frameStart :: collected).length > maxFrameSize then []
      else frameStart :: collected := by
  rw [settle]
  by_cases long : collected.length > keptLimit
  · rw [if_pos long, if_pos]
    · rfl
    · rw [List.length_cons]
      exact Nat.lt_of_lt_of_le (by decide) (Nat.succ_le_succ long)
  · rw [if_neg long, if_neg]
    · rfl
    · rw [List.length_cons, Nat.not_lt]
      exact Nat.succ_le_succ (Nat.not_lt.mp long)

/-- The loop over complete frames takes the buffer as a deframer does. -/
theorem extractLoop_eq {fuel : Nat} {buffer : List UInt8} (enough : buffer.length < fuel) :
    extractLoop fuel buffer =
      ((feed frameStart frameEnd none buffer).1,
        bufferOf (settle keptLimit (feed frameStart frameEnd none buffer).2)) := by
  induction fuel generalizing buffer with
  | zero => exact absurd enough (Nat.not_lt_zero _)
  | succ fuel inductionHypothesis =>
    by_cases found : frameStart ∈ buffer
    · obtain ⟨skipped, opened, rfl, outside⟩ := List.eq_append_cons_of_mem found
      rw [feed_open opened outside]
      by_cases finished : frameEnd ∈ opened
      · obtain ⟨body, rest, rfl, inside⟩ := List.eq_append_cons_of_mem finished
        have shorter : rest.length < fuel := by
          simp only [List.length_append, List.length_cons] at enough
          omega
        rw [extractLoop, extractFrame_complete rest outside inside, feed_complete [] rest inside]
        simp only [inductionHypothesis shorter, List.nil_append]
      · rw [extractLoop, extractFrame_unfinished outside finished, feed_inside [] finished,
          List.nil_append, bufferOf_settle]
    · rw [extractLoop, extractFrame_outside found, feed_outside found]
      rfl

/-- A read is taken as the deframer takes a piece. -/
theorem receiveData_eq {state : Option (List UInt8)} (unmarked : Unmarked frameEnd state)
    (data : List UInt8) :
    receiveData (bufferOf state) data =
      ((feed frameStart frameEnd state data).1,
        bufferOf (settle keptLimit (feed frameStart frameEnd state data).2)) := by
  have resumed : feed frameStart frameEnd none (bufferOf state ++ data) =
      feed frameStart frameEnd state data := by
    cases state with
    | none => rfl
    | some collected =>
      rw [bufferOf, feed_append, ← List.nil_append (frameStart :: collected),
        feed_open collected List.not_mem_nil, feed_inside [] (unmarked collected rfl)]
      rfl
  rw [receiveData, extractLoop_eq (Nat.lt_succ_self _), resumed]

/-- The reads are taken as the deframer takes the pieces of a stream. -/
theorem receiveLoop_eq_deliver {state : Option (List UInt8)} (unmarked : Unmarked frameEnd state)
    (reads : List (List UInt8)) :
    receiveLoop (bufferOf state) reads =
      deliver frameStart frameEnd keptLimit state reads := by
  induction reads generalizing state with
  | nil => rfl
  | cons data rest inductionHypothesis =>
    rw [receiveLoop, receiveData_eq unmarked data, deliver,
      inductionHypothesis (unmarked_settle (unmarked_feed unmarked data))]

/-- From an empty buffer on. -/
theorem receiveLoop_nil (reads : List (List UInt8)) :
    receiveLoop [] reads = deliver frameStart frameEnd keptLimit none reads :=
  receiveLoop_eq_deliver (unmarked_none frameEnd) reads

/-- The frames of a stream are those a single read delivers. -/
theorem receiveLoop_single (stream : List UInt8) :
    receiveLoop [] [stream] = frames frameStart frameEnd stream := by
  rw [receiveLoop_nil, deliver, deliver, List.append_nil]
  rfl

/-- Reads without frames as long as `MAX_FRAME_SIZE` deliver the frames of their stream. -/
theorem receiveLoop_of_short {reads : List (List UInt8)}
    (short : ∀ frame ∈ frames frameStart frameEnd reads.flatten, frame.length < maxFrameSize) :
    receiveLoop [] reads = frames frameStart frameEnd reads.flatten := by
  rw [receiveLoop_nil]
  exact deliver_eq_of_short fun frame member => Nat.lt_succ_iff.mp (short frame member)

/-- All ways of cutting a stream into reads deliver the same frames exactly when each of its
frames has fewer bytes between its markers than `MAX_FRAME_SIZE`. -/
theorem receiveLoop_chunking_iff (stream : List UInt8) :
    (∀ first second : List (List UInt8), first.flatten = stream → second.flatten = stream →
      [] ∉ first → [] ∉ second → receiveLoop [] first = receiveLoop [] second) ↔
    ∀ frame ∈ frames frameStart frameEnd stream, frame.length < maxFrameSize := by
  have limit : ∀ frame : List UInt8, frame.length < maxFrameSize ↔ frame.length ≤ keptLimit :=
    fun frame => Nat.lt_succ_iff
  simp only [receiveLoop_nil, limit]
  exact deliver_independent_iff (by decide) stream

/-- A long frame whose end marker comes in a read of its own is lost. -/
theorem receiveLoop_cut_ne {frame : List UInt8} (inside : frameEnd ∉ frame)
    (long : maxFrameSize ≤ frame.length) :
    receiveLoop [] [frameStart :: frame, [frameEnd]] ≠
      receiveLoop [] [frameStart :: frame ++ [frameEnd]] := by
  have collected : (feed frameStart frameEnd none (frameStart :: frame)).2 = some frame := by
    rw [← List.nil_append (frameStart :: frame), feed_open frame List.not_mem_nil,
      feed_inside [] inside]
    rfl
  rw [receiveLoop_nil, receiveLoop_nil]
  exact deliver_cut_ne (by decide) collected (Nat.lt_of_lt_of_le (by decide) long)

/-- A frame of 512 zero bytes is delivered from one read, and lost when its end marker comes in
a read of its own. -/
theorem receiveLoop_chunking_differs :
    ¬ ∀ first second : List (List UInt8), first.flatten = second.flatten → [] ∉ first →
      [] ∉ second → receiveLoop [] first = receiveLoop [] second := by
  have inside : frameEnd ∉ List.replicate 512 (0 : UInt8) := by
    rw [List.mem_replicate]
    exact fun ⟨_, same⟩ => absurd same (by decide)
  intro claimed
  refine receiveLoop_cut_ne inside (Nat.le_of_eq List.length_replicate.symm)
    (claimed _ _ ?_ ?_ ?_)
  · rw [List.flatten_cons, List.flatten_singleton, List.flatten_singleton]
  · simp only [List.mem_cons, List.not_mem_nil, reduceCtorEq, or_self, not_false_eq_true]
  · simp only [List.cons_append, List.mem_singleton, reduceCtorEq, not_false_eq_true]

/-! ### Round trip -/

theorem unpackBigEndian_packBigEndian (value : UInt16) :
    unpackBigEndian (packBigEndian value) = value.toNat := by
  have bound := value.toNat_lt
  simp only [packBigEndian, unpackBigEndian, List.foldl_cons, List.foldl_nil,
    UInt16.toNat_toUInt8, UInt16.toNat_shiftRight, UInt16.reduceToNat, Nat.reduceMod,
    Nat.shiftRight_eq_div_pow]
  omega

/-- A payload of two bytes or more passes the check together with its checksum. -/
theorem checkFrame_own (checksum : List UInt8 → UInt16) {payload : List UInt8}
    (long : 2 ≤ payload.length) :
    checkFrame checksum (payload ++ packBigEndian (checksum payload)) = .accepted payload := by
  have length : (payload ++ packBigEndian (checksum payload)).length = payload.length + 2 := by
    rw [List.length_append]
    rfl
  unfold checkFrame
  rw [length, if_neg (by omega), Nat.add_sub_cancel, List.take_left, List.drop_left,
    unpackBigEndian_packBigEndian]
  simp only [ne_eq, not_true_eq_false, if_false]

/-- A payload without an end marker comes back with its checksum exactly when the checksum has no
end marker either. -/
theorem extractFrame_buildFrame_iff (checksum : List UInt8 → UInt16) {payload skipped : List UInt8}
    (rest : List UInt8) (inside : frameEnd ∉ payload) (outside : frameStart ∉ skipped) :
    extractFrame (skipped ++ buildFrame checksum payload ++ rest) =
        (some (payload ++ packBigEndian (checksum payload)), rest) ↔
      frameEnd ∉ packBigEndian (checksum payload) := by
  have layout : skipped ++ buildFrame checksum payload ++ rest =
      skipped ++ frameStart ::
        ((payload ++ packBigEndian (checksum payload)) ++ frameEnd :: rest) := by
    simp only [buildFrame, List.append_assoc, List.cons_append, List.nil_append]
  rw [layout]
  constructor
  · intro returned marked
    have found : frameEnd ∈ payload ++ packBigEndian (checksum payload) :=
      List.mem_append_right payload marked
    obtain ⟨body, left, split, clean⟩ := List.eq_append_cons_of_mem found
    rw [split, List.append_assoc, List.cons_append,
      extractFrame_complete _ outside clean] at returned
    have shorter := congrArg List.length (Option.some.inj (congrArg Prod.fst returned))
    rw [List.length_append, List.length_cons] at shorter
    omega
  · intro unmarked
    refine extractFrame_complete rest outside ?_
    rw [List.mem_append, not_or]
    exact ⟨inside, unmarked⟩

/-- No byte of a response is an end marker, and a response has at least its two braces. -/
theorem responsePayload_clean (status : HealthStatus) (timestamp : Int)
    (data : List (Key × Value)) :
    frameEnd ∉ responsePayload status timestamp data ∧
      2 ≤ (responsePayload status timestamp data).length := by
  obtain ⟨entries, payload⟩ : ∃ entries,
    responsePayload status timestamp data = encodeUtf8 (dumps (.dict entries)) := ⟨_, rfl⟩
  rw [payload]
  refine ⟨fun marked => ?_, (two_le_length_dumps_dict entries).trans (length_le_encodeUtf8 _)⟩
  have printable := (printable_encodeUtf8 (printable_dumps (.dict entries)) marked).2
  exact absurd printable (by decide)

/-- A response comes back with a matching checksum, and what follows it stays in the buffer,
exactly when neither byte of its checksum is the end marker. -/
theorem response_roundTrip_iff (checksum : List UInt8 → UInt16) (status : HealthStatus)
    (timestamp : Int) (data : List (Key × Value)) {skipped : List UInt8} (rest : List UInt8)
    (outside : frameStart ∉ skipped) :
    (extractFrame (skipped ++ buildFrame checksum (responsePayload status timestamp data) ++
          rest) =
        (some (responsePayload status timestamp data ++
          packBigEndian (checksum (responsePayload status timestamp data))), rest) ∧
      checkFrame checksum (responsePayload status timestamp data ++
          packBigEndian (checksum (responsePayload status timestamp data))) =
        .accepted (responsePayload status timestamp data)) ↔
    frameEnd ∉ packBigEndian (checksum (responsePayload status timestamp data)) := by
  obtain ⟨inside, long⟩ := responsePayload_clean status timestamp data
  rw [extractFrame_buildFrame_iff checksum rest inside outside]
  exact and_iff_left (checkFrame_own checksum long)

/-- A response behind a stray byte, with the checksum zero. -/
theorem response_roundTrip_zero :
    (extractFrame ([0x00] ++ buildFrame (fun _ => 0) (responsePayload .ok 0 []) ++ [0x7E]) =
        (some (responsePayload .ok 0 [] ++ packBigEndian 0), [0x7E]) ∧
      checkFrame (fun _ => 0) (responsePayload .ok 0 [] ++ packBigEndian 0) =
        .accepted (responsePayload .ok 0 [])) ↔
    frameEnd ∉ packBigEndian 0 :=
  response_roundTrip_iff (fun _ => 0) .ok 0 [] [0x7E] (by decide)

/-- The checksum of polynomial 0x1021 whose register starts at zero. -/
def crcCcitt (data : List UInt8) : UInt16 :=
  let shift (crc : Nat) : Nat := if crc < 0x8000 then 2 * crc else (2 * crc - 0x10000) ^^^ 0x1021
  UInt16.ofNat (data.foldl (fun crc byte => shift^[8] (crc ^^^ (0x100 * byte.toNat))) 0)

/-- The checksum of the healthy response at 1767318130 seconds is F07F, and its frame comes back
without the second byte. -/
theorem response_roundTrip_fails :
    ¬ ∀ (status : HealthStatus) (timestamp : Int) (data : List (Key × Value))
      (skipped rest : List UInt8), frameStart ∉ skipped →
      extractFrame (skipped ++ buildFrame crcCcitt (responsePayload status timestamp data) ++
          rest) =
        (some (responsePayload status timestamp data ++
          packBigEndian (crcCcitt (responsePayload status timestamp data))), rest) := by
  intro claimed
  have inside := (responsePayload_clean .ok 1767318130 []).1
  have unmarked := (extractFrame_buildFrame_iff crcCcitt [] inside List.not_mem_nil).mp
    (claimed .ok 1767318130 [] [] [] List.not_mem_nil)
  have payload : crcCcitt (responsePayload .ok 1767318130 []) = 0xF07F := by decide +kernel
  rw [payload] at unmarked
  revert unmarked
  decide

end SmartQso.HealthInterface
