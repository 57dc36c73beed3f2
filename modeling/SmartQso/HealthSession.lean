/-
This file models a session of `payload/health_interface.py`: the receive thread with its
connections, its buffer, the heartbeats and the callbacks, and the responses that other
threads and the command callback send meanwhile. A round of the loop and a response are
one step each. Both callbacks are registered. What a session has been through is kept in
a record beside its state. Times are exact rationals.
-/

import SmartQso.FrameCounts
import SmartQso.Runs

namespace SmartQso.HealthInterface

open Deframer JsonText

/-! ### The commands in a frame -/

section

variable (checksum : List UInt8 → UInt16) (py : Interpreter)

/-- The health data that the callback gets for a frame. -/
def frameCommand (frame : List UInt8) : Option HealthData :=
  match checkFrame checksum frame with
  | .accepted payload =>
    match decodeUtf8 payload >>= jsonLoads py >>= parseHealthData with
    | .ok healthData => healthData
    | .error _ => none
  | _ => none

/-- A frame carries a heartbeat. -/
def isHeartbeat (frame : List UInt8) : Bool :=
  (frameCommand checksum py frame).any fun healthData => healthData.command = .heartbeat

/-- What a frame does to the counters that the callback goes with, to the heartbeat and to the
calls of the callback. -/
theorem processFrame_eq {T : Type*} (now : T) (link : Link T) (frame : List UInt8) :
    (processFrame checksum py true now link frame).calls =
        link.calls ++ (frameCommand checksum py frame).toList ∧
      (processFrame checksum py true now link frame).statistics.rxCount =
        link.statistics.rxCount + (frameCommand checksum py frame).toList.length ∧
      (processFrame checksum py true now link frame).lastHeartbeat =
        if isHeartbeat checksum py frame then now else link.lastHeartbeat := by
  unfold processFrame isHeartbeat frameCommand
  cases checkFrame checksum frame with
  | tooShort => exact ⟨(List.append_nil _).symm, rfl, rfl⟩
  | crcMismatch => exact ⟨(List.append_nil _).symm, rfl, rfl⟩
  | accepted payload =>
    obtain ⟨parsed, outcome⟩ : ∃ parsed, decodeUtf8 payload >>= jsonLoads py >>= parseHealthData =
      parsed := ⟨_, rfl⟩
    simp only [outcome]
    cases parsed with
    | error raised => exact ⟨(List.append_nil _).symm, rfl, rfl⟩
    | ok healthData =>
      cases healthData with
      | none => exact ⟨(List.append_nil _).symm, rfl, rfl⟩
      | some healthData =>
        dsimp only [handleCommand, Option.any_some, Option.toList_some]
        by_cases heartbeat : healthData.command = .heartbeat
        · simp [heartbeat]
        · simp [heartbeat]

end

/-! ### State -/

/-- `HEARTBEAT_TIMEOUT_S`. -/
def heartbeatTimeoutS : ℚ := 30

/-- What a session has been through: the connections made, the times at which one was made or a
heartbeat came, the data read, and the time. -/
structure SessionRecord where
  connects : Nat
  heard : List ℚ
  reads : List (List UInt8)
  clock : ℚ

/-- The fields of a `HealthInterface` and the buffer of its thread, with the number of calls of the
disconnect callback. -/
structure Session where
  connected : Bool
  serialOpen : Bool
  buffer : List UInt8
  link : Link ℚ
  disconnects : Nat
  record : SessionRecord

/-- A session that `start` has begun. -/
def Session.started (now : ℚ) : Session where
  connected := true
  serialOpen := true
  buffer := []
  link := ⟨⟨0, 0, 0⟩, now, []⟩
  disconnects := 0
  record := ⟨1, [now], [], now⟩

/-- `is_connected`. -/
def Session.isConnected (session : Session) : Bool := session.connected && session.serialOpen

/-- `is_healthy`. -/
def Session.isHealthy (session : Session) (now : ℚ) : Bool :=
  session.isConnected && decide (now - session.link.lastHeartbeat < heartbeatTimeoutS)

/-- `connect`, where `opens` says whether the port can be opened. -/
def Session.connect (session : Session) (opens : Bool) (now : ℚ) : Session :=
  if opens then
    { session with
      connected := true
      serialOpen := true
      link := { session.link with lastHeartbeat := now }
      record :=
        { session.record with
          connects := session.record.connects + 1
          heard := session.record.heard ++ [now] } }
  else { session with connected := false }

/-- `_handle_disconnect`. -/
def Session.handleDisconnect (session : Session) : Session :=
  { session with
    connected := false
    serialOpen := false
    disconnects := session.disconnects + 1 }

/-- `send_response`, where `written` says whether the port takes the frame. -/
def Session.sendResponse (session : Session) (written : Bool) : Session :=
  if !session.isConnected then session
  else if written then session
  else session.handleDisconnect

/-! ### Rounds -/

/-- What a read of the port gives: data, a `SerialException`, or another exception. -/
inductive SerialRead
  | data (bytes : List UInt8)
  | serialException
  | otherException

/-- What the outside answers during a round: whether the port opens and when, what it reads, the
times at which the frames are handled, the frames during whose callback a response is sent and not
written, and the time of the health check. -/
structure Round where
  opens : Bool
  start : ℚ
  read : SerialRead
  stamp : ℕ → ℚ
  responseFails : ℕ → Bool
  check : ℚ
  start_le : start ≤ stamp 0
  ordered : ∀ index, stamp index ≤ stamp (index + 1)
  le_check : ∀ index, stamp index ≤ check

section

variable (checksum : List UInt8 → UInt16) (py : Interpreter)

/-- `_process_frame` in a session, for the frame of a round with this index. -/
def Session.deliver (session : Session) (round : Round) (index : ℕ) (frame : List UInt8) :
    Session :=
  let time := round.stamp index
  let processed :=
    { session with
      link := processFrame checksum py true time session.link frame
      record :=
        { session.record with
          heard :=
            if isHeartbeat checksum py frame then session.record.heard ++ [time]
            else session.record.heard } }
  if (frameCommand checksum py frame).isSome && round.responseFails index then
    processed.sendResponse false
  else processed

/-- The frames of a round from an index on. -/
def Session.deliverAll (session : Session) (round : Round) : ℕ → List (List UInt8) → Session
  | _, [] => session
  | index, frame :: rest =>
    (session.deliver checksum py round index frame).deliverAll round (index + 1) rest

/-- The part of a round that reads data. -/
def Session.receive (session : Session) (round : Round) (bytes : List UInt8) : Session :=
  if bytes = [] then session
  else
    let received := receiveData session.buffer bytes
    let filled :=
      { session with
        buffer := received.2
        record := { session.record with reads := session.record.reads ++ [bytes] } }
    filled.deliverAll checksum py round 0 received.1

/-- A round of `_receive_loop`. -/
def Session.receiveRound (session : Session) (round : Round) : Session :=
  if !session.isConnected then session.connect round.opens round.start
  else
    match round.read with
    | .serialException => session.handleDisconnect
    | .otherException =>
      let counts := session.link.statistics
      { session with
        link :=
          { session.link with statistics := { counts with rxErrors := counts.rxErrors + 1 } } }
    | .data bytes =>
      let received := session.receive checksum py round bytes
      if !received.isHealthy round.check then received.handleDisconnect else received

/-- A step of a session: a round of the receive thread, or a response of another thread. -/
inductive SessionStep
  | receive (round : Round)
  | respond (written : Bool)

/-- The times of a step. -/
def SessionStep.times : SessionStep → List ℚ
  | .receive round => [round.start, round.check]
  | .respond _ => []

/-- The session after a step. -/
def sessionStep (session : Session) : SessionStep → Session
  | .receive round =>
    let done := session.receiveRound checksum py round
    { done with record := { done.record with clock := round.check } }
  | .respond written => session.sendResponse written

end

/-! ### The stream -/

/-- What the reads so far have left in the buffer. -/
def bufferAfter (buffer : List UInt8) (reads : List (List UInt8)) : List UInt8 :=
  reads.foldl (fun buffer data => (receiveData buffer data).2) buffer

theorem bufferAfter_concat (buffer : List UInt8) (reads : List (List UInt8)) (data : List UInt8) :
    bufferAfter buffer (reads ++ [data]) = (receiveData (bufferAfter buffer reads) data).2 := by
  rw [bufferAfter, List.foldl_append]
  rfl

/-- One more read adds the frames that it completes. -/
theorem receiveLoop_concat (buffer : List UInt8) (reads : List (List UInt8)) (data : List UInt8) :
    receiveLoop buffer (reads ++ [data]) =
      receiveLoop buffer reads ++ (receiveData (bufferAfter buffer reads) data).1 := by
  induction reads generalizing buffer with
  | nil =>
    rw [List.nil_append, receiveLoop, receiveLoop, receiveLoop, List.append_nil]
    rfl
  | cons read rest inductionHypothesis =>
    rw [List.cons_append, receiveLoop, receiveLoop, inductionHypothesis, List.append_assoc]
    rfl

/-! ### Delivering frames -/

/-- The time of the last heartbeat is the last one in the record. -/
def Session.Timed (session : Session) : Prop :=
  session.record.heard.getLast? = some session.link.lastHeartbeat

/-- What frames whose commands are these do to a session. A response that fails during a callback
ends the connection. -/
structure Session.Delivered (before after : Session) (commands : List HealthData) : Prop where
  buffer : after.buffer = before.buffer
  connects : after.record.connects = before.record.connects
  reads : after.record.reads = before.record.reads
  calls : after.link.calls = before.link.calls ++ commands
  rxCount : after.link.statistics.rxCount = before.link.statistics.rxCount + commands.length
  timed : before.Timed → after.Timed
  loss : after.connected = before.connected ∧ after.serialOpen = before.serialOpen ∧
      after.disconnects = before.disconnects ∨
    before.isConnected = true ∧ after.connected = false ∧ after.serialOpen = false ∧
      after.disconnects = before.disconnects + 1

section

variable {checksum : List UInt8 → UInt16} {py : Interpreter}

theorem Session.Delivered.refl (session : Session) : session.Delivered session [] where
  buffer := rfl
  connects := rfl
  reads := rfl
  calls := (List.append_nil _).symm
  rxCount := rfl
  timed timed := timed
  loss := .inl ⟨rfl, rfl, rfl⟩

theorem Session.Delivered.trans {before between after : Session} {first second : List HealthData}
    (start : before.Delivered between first) (finish : between.Delivered after second) :
    before.Delivered after (first ++ second) where
  buffer := finish.buffer.trans start.buffer
  connects := finish.connects.trans start.connects
  reads := finish.reads.trans start.reads
  calls := by rw [finish.calls, start.calls, List.append_assoc]
  rxCount := by rw [finish.rxCount, start.rxCount, List.length_append, Nat.add_assoc]
  timed timed := finish.timed (start.timed timed)
  loss := by
    rcases start.loss with ⟨connected, serial, count⟩ | ⟨before, connected, serial, count⟩
    · rw [← connected, ← serial, ← count, ← (show between.isConnected = before.isConnected from
        congrArg₂ (· && ·) connected serial)]
      exact finish.loss
    · rcases finish.loss with ⟨still, shut, same⟩ | ⟨again, -⟩
      · exact .inr ⟨before, still.trans connected, shut.trans serial, same.trans count⟩
      · rw [Session.isConnected, connected] at again
        exact absurd again Bool.false_ne_true

/-- One frame. -/
theorem Session.delivered_deliver (session : Session) (round : Round) (index : ℕ)
    (frame : List UInt8) :
    session.Delivered (session.deliver checksum py round index frame)
      (frameCommand checksum py frame).toList := by
  obtain ⟨calls, rxCount, lastHeartbeat⟩ :=
    processFrame_eq checksum py (round.stamp index) session.link frame
  have timed : session.Timed → (if isHeartbeat checksum py frame then
      session.record.heard ++ [round.stamp index] else session.record.heard).getLast? =
        some (processFrame checksum py true (round.stamp index) session.link
          frame).lastHeartbeat := by
    intro before
    rw [lastHeartbeat]
    split
    · exact List.getLast?_concat
    · exact before
  unfold deliver
  dsimp only
  split
  · unfold sendResponse
    cases connected : session.isConnected with
    | false =>
      rw [if_pos (by rw [isConnected] at connected ⊢; exact congrArg (!·) connected)]
      exact ⟨rfl, rfl, rfl, calls, rxCount, timed, .inl ⟨rfl, rfl, rfl⟩⟩
    | true =>
      rw [if_neg (by rw [isConnected] at connected ⊢; rw [connected]; decide)]
      exact ⟨rfl, rfl, rfl, calls, rxCount, timed, .inr ⟨connected, rfl, rfl, rfl⟩⟩
  · exact ⟨rfl, rfl, rfl, calls, rxCount, timed, .inl ⟨rfl, rfl, rfl⟩⟩

/-- All frames of a round. -/
theorem Session.delivered_deliverAll (session : Session) (round : Round) (index : ℕ)
    (frames : List (List UInt8)) :
    session.Delivered (session.deliverAll checksum py round index frames)
      (frames.filterMap (frameCommand checksum py)) := by
  induction frames generalizing session index with
  | nil => exact Session.Delivered.refl session
  | cons frame rest inductionHypothesis =>
    have first := @delivered_deliver checksum py session round index frame
    have later := inductionHypothesis (session.deliver checksum py round index frame) (index + 1)
    have whole := first.trans later
    rw [deliverAll, List.filterMap_cons]
    cases command : frameCommand checksum py frame with
    | none =>
      rw [command] at whole
      exact whole
    | some healthData =>
      rw [command] at whole
      exact whole

end

/-! ### Sound sessions -/

/-- A connection that is up. -/
def Session.up (session : Session) : Nat := if session.connected then 1 else 0

/-- The commands that the callback has got are those of the frames that the loop takes from the
reads of all connections as from those of one, and they are counted. Every connection that is gone
has been reported, once or twice. -/
structure Session.Sound (checksum : List UInt8 → UInt16) (py : Interpreter) (session : Session) :
    Prop where
  serial : session.connected = session.serialOpen
  reported : session.record.connects ≤ session.disconnects + session.up
  notOften : session.disconnects + 2 * session.up ≤ 2 * session.record.connects
  buffer : session.buffer = bufferAfter [] session.record.reads
  calls : session.link.calls =
    (receiveLoop [] session.record.reads).filterMap (frameCommand checksum py)
  rxCount : session.link.statistics.rxCount = session.link.calls.length
  timed : session.Timed

section

variable {checksum : List UInt8 → UInt16} {py : Interpreter} {session : Session}

theorem Session.started_sound (now : ℚ) : (Session.started now).Sound checksum py where
  serial := rfl
  reported := le_refl 1
  notOften := le_refl 2
  buffer := rfl
  calls := rfl
  rxCount := rfl
  timed := rfl

theorem Session.Sound.connected_eq (sound : session.Sound checksum py) :
    session.isConnected = session.connected := by
  rw [isConnected, ← sound.serial, Bool.and_self]

/-- Losing the connection is reported. -/
theorem Session.Sound.handleDisconnect (sound : session.Sound checksum py)
    (connected : session.isConnected = true) : session.handleDisconnect.Sound checksum py := by
  rw [sound.connected_eq] at connected
  have reported := sound.reported
  have notOften := sound.notOften
  rw [up, if_pos connected] at reported notOften
  exact ⟨rfl, reported, show session.disconnects + 1 ≤ _ from Nat.le_of_succ_le notOften,
    sound.buffer, sound.calls, sound.rxCount, sound.timed⟩

theorem Session.Sound.sendResponse (sound : session.Sound checksum py) (written : Bool) :
    (session.sendResponse written).Sound checksum py := by
  unfold Session.sendResponse
  cases connected : session.isConnected with
  | false => exact sound
  | true =>
    cases written with
    | false => exact sound.handleDisconnect connected
    | true => exact sound

theorem Session.Sound.connect (sound : session.Sound checksum py)
    (lost : session.isConnected = false) (opens : Bool) (now : ℚ) :
    (session.connect opens now).Sound checksum py := by
  rw [sound.connected_eq] at lost
  have reported := sound.reported
  have notOften := sound.notOften
  rw [up, if_neg (by rw [lost]; decide)] at reported notOften
  cases opens with
  | false =>
    have same : session.connect false now = session := by
      unfold Session.connect
      rw [if_neg Bool.false_ne_true, ← lost]
    rw [same]
    exact sound
  | true =>
    exact ⟨rfl, Nat.succ_le_succ reported, Nat.add_le_add_right notOften 2, sound.buffer,
      sound.calls, sound.rxCount, List.getLast?_concat⟩

/-- The frames that a read completes. -/
def Session.arriving (session : Session) (bytes : List UInt8) : List (List UInt8) :=
  if bytes = [] then [] else (receiveData session.buffer bytes).1

/-- The session after a read, before its frames are handled. -/
def Session.filled (session : Session) (bytes : List UInt8) : Session :=
  if bytes = [] then session
  else
    { session with
      buffer := (receiveData session.buffer bytes).2
      record := { session.record with reads := session.record.reads ++ [bytes] } }

theorem Session.receive_eq (session : Session) (round : Round) (bytes : List UInt8) :
    session.receive checksum py round bytes =
      (session.filled bytes).deliverAll checksum py round 0 (session.arriving bytes) := by
  rw [receive, filled, arriving]
  split <;> rfl

/-- A read moves the session on in its stream, and changes nothing else. -/
theorem Session.Sound.filled_stream (sound : session.Sound checksum py) (bytes : List UInt8) :
    (session.filled bytes).buffer = bufferAfter [] (session.filled bytes).record.reads ∧
      (receiveLoop [] (session.filled bytes).record.reads).filterMap (frameCommand checksum py) =
        session.link.calls ++ (session.arriving bytes).filterMap (frameCommand checksum py) := by
  rw [Session.filled, Session.arriving]
  by_cases nothing : bytes = []
  · rw [if_pos nothing, if_pos nothing]
    exact ⟨sound.buffer, by rw [List.filterMap_nil, List.append_nil, sound.calls]⟩
  · rw [if_neg nothing, if_neg nothing]
    dsimp only
    rw [bufferAfter_concat, receiveLoop_concat, List.filterMap_append, ← sound.buffer, sound.calls]
    exact ⟨rfl, rfl⟩

theorem Session.filled_eq (session : Session) (bytes : List UInt8) :
    (session.filled bytes).isConnected = session.isConnected ∧
      (session.filled bytes).connected = session.connected ∧
      (session.filled bytes).serialOpen = session.serialOpen ∧
      (session.filled bytes).disconnects = session.disconnects ∧
      (session.filled bytes).link = session.link ∧
      (session.filled bytes).record.connects = session.record.connects ∧
      (session.filled bytes).record.heard = session.record.heard := by
  rw [filled]
  split <;> exact ⟨rfl, rfl, rfl, rfl, rfl, rfl, rfl⟩

/-- Handling the frames of a read keeps a session sound, and leaves room for one more report. -/
theorem Session.Sound.receive (sound : session.Sound checksum py)
    (connected : session.isConnected = true) (round : Round) (bytes : List UInt8) :
    (session.receive checksum py round bytes).Sound checksum py ∧
      (session.receive checksum py round bytes).disconnects + 1 ≤
        2 * (session.receive checksum py round bytes).record.connects := by
  have delivered := @Session.delivered_deliverAll checksum py (session.filled bytes) round 0
    (session.arriving bytes)
  rw [← session.receive_eq round bytes] at delivered
  obtain ⟨buffer, calls⟩ := sound.filled_stream bytes
  obtain ⟨-, up, serialOpen, disconnects, link, connects, heard⟩ := session.filled_eq bytes
  rw [sound.connected_eq] at connected
  have reported := sound.reported
  have notOften := sound.notOften
  rw [Session.up, if_pos connected] at reported notOften
  rw [← delivered.connects.trans connects] at reported notOften
  have timed : (session.receive checksum py round bytes).Timed := by
    refine delivered.timed ?_
    rw [Session.Timed, heard, link]
    exact sound.timed
  have counted : (session.receive checksum py round bytes).link.statistics.rxCount =
      (session.receive checksum py round bytes).link.calls.length := by
    rw [delivered.rxCount, delivered.calls, link, List.length_append, sound.rxCount]
  have called : (session.receive checksum py round bytes).link.calls =
      (receiveLoop [] (session.receive checksum py round bytes).record.reads).filterMap
        (frameCommand checksum py) := by
    rw [delivered.reads, calls, delivered.calls, link]
  have stored : (session.receive checksum py round bytes).buffer =
      bufferAfter [] (session.receive checksum py round bytes).record.reads := by
    rw [delivered.buffer, delivered.reads, buffer]
  rcases delivered.loss with ⟨still, shut, count⟩ | ⟨-, still, shut, count⟩
  · rw [disconnects] at count
    have here := still.trans (up.trans connected)
    refine ⟨⟨?_, ?_, ?_, stored, called, counted, timed⟩, ?_⟩
    · rw [still, shut, up, serialOpen, sound.serial]
    · rw [count, Session.up, if_pos here]
      exact reported
    · rw [count, Session.up, if_pos here]
      exact notOften
    · rw [count]
      exact Nat.le_of_succ_le notOften
  · rw [disconnects] at count
    have gone : (session.receive checksum py round bytes).up = 0 := by
      rw [Session.up, still]
      rfl
    refine ⟨⟨still.trans shut.symm, ?_, ?_, stored, called, counted, timed⟩, ?_⟩
    · rw [count, gone]
      exact reported
    · rw [count, gone]
      exact Nat.le_of_succ_le notOften
    · rw [count]
      exact notOften

/-- A round keeps a session sound. -/
theorem Session.Sound.receiveRound (sound : session.Sound checksum py) (round : Round) :
    (session.receiveRound checksum py round).Sound checksum py := by
  unfold Session.receiveRound
  cases connected : session.isConnected with
  | false => exact sound.connect connected round.opens round.start
  | true =>
    rw [if_neg (by decide)]
    cases round.read with
    | serialException => exact sound.handleDisconnect connected
    | otherException =>
      exact ⟨sound.serial, sound.reported, sound.notOften, sound.buffer, sound.calls,
        sound.rxCount, sound.timed⟩
    | data bytes =>
      obtain ⟨received, room⟩ := sound.receive connected round bytes
      dsimp only
      split
      · cases still : (session.receive checksum py round bytes).connected with
        | true => exact received.handleDisconnect (received.connected_eq.trans still)
        | false =>
          have reported := received.reported
          rw [Session.up, still] at reported
          exact ⟨rfl, Nat.le_succ_of_le reported, room, received.buffer, received.calls,
            received.rxCount, received.timed⟩
      · exact received

theorem Session.Sound.step (sound : session.Sound checksum py) (step : SessionStep) :
    (sessionStep checksum py session step).Sound checksum py := by
  cases step with
  | receive round =>
    have after := sound.receiveRound round
    exact ⟨after.serial, after.reported, after.notOften, after.buffer, after.calls, after.rxCount,
      after.timed⟩
  | respond written => exact sound.sendResponse written

end

/-- When no frame in the data that was read is as long as `MAX_FRAME_SIZE`, the commands are those
of the frames in it, however it was cut into reads. -/
def Session.Whole (checksum : List UInt8 → UInt16) (py : Interpreter) (session : Session) : Prop :=
  let data := session.record.reads.flatten
  (∀ frame ∈ frames frameStart frameEnd data, frame.length < maxFrameSize) →
    session.link.calls = (frames frameStart frameEnd data).filterMap (frameCommand checksum py)

theorem Session.Sound.whole {checksum : List UInt8 → UInt16} {py : Interpreter} {session : Session}
    (sound : session.Sound checksum py) : session.Whole checksum py := by
  intro short
  rw [sound.calls, receiveLoop_of_short short]

/-- Every response that is sent during the callback for one of these frames is written. -/
def Round.Answered (checksum : List UInt8 → UInt16) (py : Interpreter) (round : Round) (index : ℕ)
    (frames : List (List UInt8)) : Prop :=
  ∀ place frame, frames[place]? = some frame → (frameCommand checksum py frame).isSome = true →
    round.responseFails (index + place) = false

/-- A round that has read data keeps the connection exactly when every response is written and the
last connection or heartbeat is less than the timeout ago. -/
def DropsWhenSilent (checksum : List UInt8 → UInt16) (py : Interpreter) (session : Session) :
    SessionStep → Prop
  | .receive round =>
    session.isConnected = true → ∀ bytes, round.read = .data bytes →
      ((session.receiveRound checksum py round).isConnected = true ↔
        round.Answered checksum py 0 (session.arriving bytes) ∧
          ∃ time ∈ (session.receiveRound checksum py round).record.heard,
            round.check - time < heartbeatTimeoutS)
  | .respond _ => True

/-- The times in the record are in order, and not later than this. -/
def Session.HeardBy (session : Session) (now : ℚ) : Prop :=
  session.record.heard.Pairwise (· ≤ ·) ∧ ∀ time ∈ session.record.heard, time ≤ now

section

variable {checksum : List UInt8 → UInt16} {py : Interpreter} {session : Session}

theorem Session.HeardBy.mono {now later : ℚ} (heard : session.HeardBy now) (passed : now ≤ later) :
    session.HeardBy later :=
  ⟨heard.1, fun time member => (heard.2 time member).trans passed⟩

/-- Another time in the record. -/
theorem pairwise_concat {times : List ℚ} {now : ℚ} (ordered : times.Pairwise (· ≤ ·))
    (past : ∀ time ∈ times, time ≤ now) :
    (times ++ [now]).Pairwise (· ≤ ·) ∧ ∀ time ∈ times ++ [now], time ≤ now := by
  refine ⟨List.pairwise_append.mpr ⟨ordered, List.pairwise_singleton _ _, ?_⟩, ?_⟩
  · intro time member other last
    rw [List.mem_singleton.mp last]
    exact past time member
  · intro time member
    rcases List.mem_append.mp member with before | last
    · exact past time before
    · rw [List.mem_singleton.mp last]

/-- The last time in the record is the one that the health check looks at. -/
theorem Session.exists_heard_iff (timed : session.Timed) {now : ℚ} (heard : session.HeardBy now)
    (check : ℚ) :
    check - session.link.lastHeartbeat < heartbeatTimeoutS ↔
      ∃ time ∈ session.record.heard, check - time < heartbeatTimeoutS := by
  constructor
  · exact fun recent => ⟨_, List.mem_of_getLast? timed, recent⟩
  · rintro ⟨time, member, recent⟩
    refine lt_of_le_of_lt (sub_le_sub_left ?_ check) recent
    obtain ⟨before, whole⟩ := List.getLast?_eq_some_iff.mp timed
    have ordered := heard.1
    rw [whole] at member ordered
    rcases List.mem_append.mp member with early | last
    · exact (List.pairwise_append.mp ordered).2.2 time early _ List.mem_cons_self
    · rw [List.mem_singleton.mp last]

/-- A response does not change the record. -/
theorem Session.sendResponse_record (session : Session) (written : Bool) :
    (session.sendResponse written).record = session.record := by
  rw [sendResponse]
  split
  · rfl
  · split <;> rfl

theorem Session.sendResponse_isConnected (session : Session) (written : Bool) :
    (session.sendResponse written).isConnected = (session.isConnected && written) := by
  rw [sendResponse]
  cases connected : session.isConnected with
  | false => exact connected
  | true =>
    cases written with
    | false => rfl
    | true => exact connected

/-- Handling frames keeps the record in order. -/
theorem Session.HeardBy.deliverAll {round : Round} {index : ℕ}
    (heard : session.HeardBy (round.stamp index)) (frames : List (List UInt8)) :
    (session.deliverAll checksum py round index frames).HeardBy round.check := by
  induction frames generalizing session index with
  | nil => exact heard.mono (round.le_check index)
  | cons frame rest inductionHypothesis =>
    rw [Session.deliverAll]
    refine inductionHypothesis (Session.HeardBy.mono ?_ (round.ordered index))
    have record : (session.deliver checksum py round index frame).record.heard =
        if isHeartbeat checksum py frame then session.record.heard ++ [round.stamp index]
        else session.record.heard := by
      unfold Session.deliver
      dsimp only
      split
      · rw [Session.sendResponse_record]
      · rfl
    rw [Session.HeardBy, record]
    split
    · exact pairwise_concat heard.1 heard.2
    · exact heard

theorem Round.answered_cons (round : Round) (index : ℕ) (frame : List UInt8)
    (rest : List (List UInt8)) :
    round.Answered checksum py index (frame :: rest) ↔
      ((frameCommand checksum py frame).isSome && round.responseFails index) = false ∧
        round.Answered checksum py (index + 1) rest := by
  constructor
  · refine fun answered => ⟨?_, fun place other found => ?_⟩
    · cases command : (frameCommand checksum py frame).isSome with
      | false => rfl
      | true => exact answered 0 frame rfl command
    · rw [Nat.add_right_comm]
      exact answered (place + 1) other found
  · rintro ⟨first, later⟩ (_ | place) other found command
    · cases Option.some.inj found
      rwa [command, Bool.true_and] at first
    · rw [← Nat.add_assoc, Nat.add_right_comm]
      exact later place other found command

/-- The connection stays up while every response is written. -/
theorem Session.deliverAll_isConnected (session : Session) (round : Round) (index : ℕ)
    (frames : List (List UInt8)) :
    (session.deliverAll checksum py round index frames).isConnected = true ↔
      session.isConnected = true ∧ round.Answered checksum py index frames := by
  induction frames generalizing session index with
  | nil =>
    refine (and_iff_left fun place frame found => ?_).symm
    exact absurd found (by rw [List.getElem?_nil]; exact nofun)
  | cons frame rest inductionHypothesis =>
    have first : (session.deliver checksum py round index frame).isConnected =
        (session.isConnected &&
          !((frameCommand checksum py frame).isSome && round.responseFails index)) := by
      unfold deliver
      dsimp only
      split
      case isTrue fails =>
        rw [sendResponse_isConnected, fails]
        rfl
      case isFalse fails =>
        rw [Bool.not_eq_true] at fails
        rw [fails]
        exact (Bool.and_true _).symm
    rw [deliverAll, inductionHypothesis, first, Round.answered_cons, Bool.and_eq_true,
      Bool.not_eq_true', and_assoc]

/-- A round that reads data drops the connection exactly when it should. -/
theorem Session.Sound.dropsWhenSilent (sound : session.Sound checksum py)
    (heard : session.HeardBy session.record.clock) {step : SessionStep}
    (clock : (session.record.clock :: step.times).Pairwise (· ≤ ·)) :
    DropsWhenSilent checksum py session step := by
  cases step with
  | respond written => trivial
  | receive round =>
    intro connected bytes read
    have passed : session.record.clock ≤ round.stamp 0 :=
      (List.rel_of_pairwise_cons clock List.mem_cons_self).trans round.start_le
    obtain ⟨filled, -, -, -, -, -, same⟩ := session.filled_eq bytes
    have start : (session.filled bytes).HeardBy (round.stamp 0) := by
      rw [Session.HeardBy, same]
      exact heard.mono passed
    have later : (session.receive checksum py round bytes).HeardBy round.check := by
      rw [session.receive_eq]
      exact start.deliverAll (session.arriving bytes)
    have up : (session.receive checksum py round bytes).isConnected = true ↔
        round.Answered checksum py 0 (session.arriving bytes) := by
      rw [session.receive_eq, Session.deliverAll_isConnected, filled, and_iff_right connected]
    have recent :=
      Session.exists_heard_iff (sound.receive connected round bytes).1.timed later round.check
    unfold Session.receiveRound
    rw [if_neg (by rw [connected]; decide), read]
    dsimp only
    rw [← up]
    by_cases healthy : (session.receive checksum py round bytes).isHealthy round.check = true
    · rw [if_neg (by rw [healthy]; decide)]
      rw [Session.isHealthy, Bool.and_eq_true, decide_eq_true_eq] at healthy
      exact iff_of_true healthy.1 ⟨healthy.1, recent.mp healthy.2⟩
    · rw [if_pos (by rw [Bool.not_eq_true] at healthy; rw [healthy]; rfl)]
      refine iff_of_false Bool.false_ne_true fun both => healthy ?_
      rw [Session.isHealthy, Bool.and_eq_true, decide_eq_true_eq]
      exact ⟨both.1, recent.mpr both.2⟩

/-- A step keeps the record in order. -/
theorem Session.HeardBy.step (heard : session.HeardBy session.record.clock) {step : SessionStep}
    (clock : (session.record.clock :: step.times).Pairwise (· ≤ ·)) :
    (sessionStep checksum py session step).HeardBy
      (sessionStep checksum py session step).record.clock := by
  cases step with
  | respond written =>
    show (session.sendResponse written).HeardBy (session.sendResponse written).record.clock
    rw [HeardBy, sendResponse_record]
    exact heard
  | receive round =>
    have started : session.record.clock ≤ round.start :=
      List.rel_of_pairwise_cons clock List.mem_cons_self
    have checked : round.start ≤ round.check := round.start_le.trans (round.le_check 0)
    show (session.receiveRound checksum py round).HeardBy round.check
    unfold receiveRound
    split
    · rw [connect]
      split
      · have ordered := pairwise_concat heard.1
          fun time member => (heard.2 time member).trans started
        exact HeardBy.mono ordered checked
      · exact heard.mono (started.trans checked)
    · cases round.read with
      | serialException => exact heard.mono (started.trans checked)
      | otherException => exact heard.mono (started.trans checked)
      | data bytes =>
        obtain ⟨-, -, -, -, -, -, same⟩ := session.filled_eq bytes
        have start : (session.filled bytes).HeardBy (round.stamp 0) := by
          rw [HeardBy, same]
          exact heard.mono (started.trans round.start_le)
        have later : (session.receive checksum py round bytes).HeardBy round.check := by
          rw [session.receive_eq]
          exact start.deliverAll (session.arriving bytes)
        dsimp only
        split <;> exact later

end

/-- Forty seconds without a byte. -/
def silentRound : Round where
  opens := false
  start := 1
  read := .data []
  stamp _ := 1
  responseFails _ := false
  check := 40
  start_le := le_refl 1
  ordered _ := le_refl 1
  le_check _ := by decide

end SmartQso.HealthInterface
