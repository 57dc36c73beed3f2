/-
This file develops the reception of frames that stand between two marker bytes. The
receiver sees the stream in pieces. Outside a frame it waits for the start marker;
inside it collects until the stop marker comes. `feed` takes a piece of any size, so
two pieces are the same as one; `deliver` also drops, between two pieces, a frame that
has already grown too long, and the file proves for which streams that can be seen.
-/

import Mathlib.Data.List.Basic

namespace Deframer

variable {Byte : Type*} [DecidableEq Byte]

/-- Take one byte: the frame it completes, and the frame that is being collected afterwards.
None stands for a receiver outside a frame. -/
def take (start stop : Byte) : Option (List Byte) → Byte →
    Option (List Byte) × Option (List Byte)
  | none, byte => (none, if byte = start then some [] else none)
  | some collected, byte =>
    if byte = stop then (some collected, none) else (none, some (collected ++ [byte]))

/-- Take a piece of the stream: the frames it completes, and the frame that is being collected
afterwards. -/
def feed (start stop : Byte) : Option (List Byte) → List Byte →
    List (List Byte) × Option (List Byte)
  | state, [] => ([], state)
  | state, byte :: rest =>
    let taken := take start stop state byte
    let later := feed start stop taken.2 rest
    (taken.1.toList ++ later.1, later.2)

/-- The frames of a stream that is taken in one piece. -/
def frames (start stop : Byte) (stream : List Byte) : List (List Byte) :=
  (feed start stop none stream).1

/-- What is kept of an unfinished frame between two pieces. -/
def settle (limit : Nat) : Option (List Byte) → Option (List Byte)
  | none => none
  | some collected => if collected.length > limit then none else some collected

/-- The frames delivered from a stream that arrives in pieces. -/
def deliver (start stop : Byte) (limit : Nat) :
    Option (List Byte) → List (List Byte) → List (List Byte)
  | _, [] => []
  | state, piece :: rest =>
    let taken := feed start stop state piece
    taken.1 ++ deliver start stop limit (settle limit taken.2) rest

section

variable {start stop : Byte} {limit : Nat}

/-! ### Pieces -/

theorem take_start : take start stop none start = (none, some []) := by
  rw [take, if_pos rfl]

theorem take_stop (collected : List Byte) :
    take start stop (some collected) stop = (some collected, none) := by
  rw [take, if_pos rfl]

/-- Only a stop marker completes a frame, and it is the frame that has been collected. -/
theorem take_eq_some {state : Option (List Byte)} {byte : Byte} {frame : List Byte}
    (completed : (take start stop state byte).1 = some frame) :
    byte = stop ∧ state = some frame := by
  cases state with
  | none => cases completed
  | some collected =>
    by_cases same : byte = stop
    · rw [take, if_pos same] at completed
      exact ⟨same, completed⟩
    · rw [take, if_neg same] at completed
      cases completed

/-- Two pieces are taken like one. -/
theorem feed_append (state : Option (List Byte)) (first second : List Byte) :
    feed start stop state (first ++ second) =
      ((feed start stop state first).1 ++
          (feed start stop (feed start stop state first).2 second).1,
        (feed start stop (feed start stop state first).2 second).2) := by
  induction first generalizing state with
  | nil => rfl
  | cons byte rest inductionHypothesis =>
    rw [List.cons_append, feed, inductionHypothesis, feed]
    simp only [List.append_assoc]

/-- Outside a frame everything up to a start marker is skipped. -/
theorem feed_outside {skipped : List Byte} (unmarked : start ∉ skipped) :
    feed start stop none skipped = ([], none) := by
  induction skipped with
  | nil => rfl
  | cons byte rest inductionHypothesis =>
    rw [List.mem_cons, not_or] at unmarked
    rw [feed, take, if_neg (Ne.symm unmarked.1), inductionHypothesis unmarked.2]
    rfl

/-- Inside a frame everything up to a stop marker is collected. -/
theorem feed_inside {added : List Byte} (collected : List Byte) (unmarked : stop ∉ added) :
    feed start stop (some collected) added = ([], some (collected ++ added)) := by
  induction added generalizing collected with
  | nil => rw [feed, List.append_nil]
  | cons byte rest inductionHypothesis =>
    rw [List.mem_cons, not_or] at unmarked
    rw [feed, take, if_neg (Ne.symm unmarked.1), inductionHypothesis _ unmarked.2,
      List.append_assoc]
    rfl

/-- The first stop marker completes the frame. -/
theorem feed_complete {added : List Byte} (collected rest : List Byte) (unmarked : stop ∉ added) :
    feed start stop (some collected) (added ++ stop :: rest) =
      ((collected ++ added) :: (feed start stop none rest).1, (feed start stop none rest).2) := by
  rw [feed_append, feed_inside collected unmarked, feed, take_stop]
  rfl

/-- The first start marker opens a frame. -/
theorem feed_open {skipped : List Byte} (rest : List Byte) (unmarked : start ∉ skipped) :
    feed start stop none (skipped ++ start :: rest) = feed start stop (some []) rest := by
  rw [feed_append, feed_outside unmarked, feed, take_start]
  rfl

/-- A frame completes at a stop marker, and it has been collected before it. -/
theorem mem_feed {state : Option (List Byte)} {stream frame : List Byte}
    (member : frame ∈ (feed start stop state stream).1) :
    ∃ before after, stream = before ++ stop :: after ∧
      (feed start stop state before).2 = some frame := by
  induction stream generalizing state with
  | nil => exact absurd member List.not_mem_nil
  | cons byte rest inductionHypothesis =>
    rw [feed] at member
    rcases List.mem_append.mp member with completed | later
    · obtain ⟨same, collected⟩ := take_eq_some (Option.mem_toList.mp completed)
      exact ⟨[], rest, by rw [same, List.nil_append], collected⟩
    · obtain ⟨before, after, split, collected⟩ := inductionHypothesis later
      exact ⟨byte :: before, after, by rw [split, List.cons_append], collected⟩

/-- What has been collected holds no stop marker. -/
def Unmarked (stop : Byte) (state : Option (List Byte)) : Prop :=
  ∀ collected, state = some collected → stop ∉ collected

omit [DecidableEq Byte] in
theorem unmarked_none (stop : Byte) : Unmarked stop none := fun _ none => by cases none

theorem unmarked_feed {state : Option (List Byte)} (unmarked : Unmarked stop state)
    (piece : List Byte) : Unmarked stop (feed start stop state piece).2 := by
  induction piece generalizing state with
  | nil => exact unmarked
  | cons byte rest inductionHypothesis =>
    rw [feed]
    apply inductionHypothesis
    intro next taken
    cases state with
    | none =>
      rw [take] at taken
      split at taken
      · rw [← Option.some.inj taken]
        exact List.not_mem_nil
      · cases taken
    | some collected =>
      rw [take] at taken
      split at taken
      case isTrue => cases taken
      case isFalse different =>
        rw [← Option.some.inj taken, List.mem_append, List.mem_singleton, not_or]
        exact ⟨unmarked collected rfl, Ne.symm different⟩

/-! ### Dropping between pieces -/

omit [DecidableEq Byte] in
theorem unmarked_settle {state : Option (List Byte)} (unmarked : Unmarked stop state) :
    Unmarked stop (settle limit state) := by
  intro kept settled
  cases state with
  | none => cases settled
  | some collected =>
    rw [settle] at settled
    split at settled
    · cases settled
    · exact unmarked kept settled

/-- Without a stop marker nothing is delivered. -/
theorem deliver_unmarked {state : Option (List Byte)} {pieces : List (List Byte)}
    (unmarked : stop ∉ pieces.flatten) : deliver start stop limit state pieces = [] := by
  induction pieces generalizing state with
  | nil => rfl
  | cons piece rest inductionHypothesis =>
    rw [List.flatten_cons, List.mem_append, not_or] at unmarked
    have nothing : (feed start stop state piece).1 = [] := by
      rw [List.eq_nil_iff_forall_not_mem]
      intro frame member
      obtain ⟨before, after, split, _⟩ := mem_feed member
      exact unmarked.1 (split ▸ List.mem_append_right before List.mem_cons_self)
    rw [deliver, nothing, inductionHypothesis unmarked.2]
    rfl

/-- When every frame is short enough, the pieces make no difference. -/
theorem deliver_eq_of_short {state : Option (List Byte)} {pieces : List (List Byte)}
    (short : ∀ frame ∈ (feed start stop state pieces.flatten).1, frame.length ≤ limit) :
    deliver start stop limit state pieces = (feed start stop state pieces.flatten).1 := by
  induction pieces generalizing state with
  | nil => rfl
  | cons piece rest inductionHypothesis =>
    rw [List.flatten_cons, feed_append] at short ⊢
    have later : deliver start stop limit (settle limit (feed start stop state piece).2) rest =
        (feed start stop (feed start stop state piece).2 rest.flatten).1 := by
      have shortLater : ∀ frame ∈
          (feed start stop (feed start stop state piece).2 rest.flatten).1,
          frame.length ≤ limit :=
        fun frame member => short frame (List.mem_append_right _ member)
      cases reached : (feed start stop state piece).2 with
      | none =>
        rw [reached] at shortLater
        exact inductionHypothesis shortLater
      | some collected =>
        rw [reached] at shortLater
        rw [settle]
        split
        case isFalse => exact inductionHypothesis shortLater
        case isTrue long =>
          -- a frame that is dropped here would have become too long, so it never ends
          have unmarked : stop ∉ rest.flatten := by
            intro found
            obtain ⟨added, after, split, unmarked⟩ := List.eq_append_cons_of_mem found
            rw [split, feed_complete collected after unmarked] at shortLater
            have bound := shortLater (collected ++ added) List.mem_cons_self
            rw [List.length_append] at bound
            omega
          rw [deliver_unmarked unmarked, feed_inside collected unmarked]
    rw [deliver, later]

/-- A frame that is too long is lost when the stream is cut before its end. -/
theorem deliver_cut_ne {before after frame : List Byte} (distinct : stop ≠ start)
    (collected : (feed start stop none before).2 = some frame) (long : limit < frame.length) :
    deliver start stop limit none [before, stop :: after] ≠
      deliver start stop limit none [before ++ stop :: after] := by
  have whole : deliver start stop limit none [before ++ stop :: after] =
      (feed start stop none before).1 ++ frame :: (feed start stop none after).1 := by
    rw [deliver, deliver, List.append_nil, feed_append, collected, feed, take_stop]
    rfl
  have halves : deliver start stop limit none [before, stop :: after] =
      (feed start stop none before).1 ++ (feed start stop none after).1 := by
    rw [deliver, deliver, deliver, List.append_nil, collected, settle, if_pos long, feed, take,
      if_neg distinct]
    rfl
  intro same
  have lengths := congrArg List.length same
  rw [whole, halves, List.length_append, List.length_append, List.length_cons] at lengths
  omega

/-- All ways of cutting a stream deliver the same frames exactly when none of its frames is too
long to be kept between two pieces. -/
theorem deliver_independent_iff (distinct : stop ≠ start) (stream : List Byte) :
    (∀ first second : List (List Byte), first.flatten = stream → second.flatten = stream →
      [] ∉ first → [] ∉ second →
      deliver start stop limit none first = deliver start stop limit none second) ↔
    ∀ frame ∈ frames start stop stream, frame.length ≤ limit := by
  constructor
  · intro independent frame member
    by_contra long
    obtain ⟨before, after, rfl, collected⟩ := mem_feed member
    have opened : before ≠ [] := by
      rintro rfl
      cases collected
    refine deliver_cut_ne distinct collected (Nat.lt_of_not_le long)
      (independent _ [before ++ stop :: after] ?_ ?_ ?_ ?_)
    · simp
    · simp
    · simp [Ne.symm opened]
    · simp
  · intro short first second firstCut secondCut _ _
    rw [deliver_eq_of_short (firstCut.symm ▸ short), deliver_eq_of_short (secondCut.symm ▸ short),
      firstCut, secondCut]

end

end Deframer
