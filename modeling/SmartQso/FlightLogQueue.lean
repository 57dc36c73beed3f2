/-
This file proves that the flight log is a bounded queue. The queue says what the log is
for: it remembers every accepted entry since the last clear, numbers the entries, and
counts those that push an older one out of the newest 64. The ring, its indices and the
statistics of the log follow it through every sequence of calls.
-/

import Mathlib.Data.List.Chain
import SmartQso.FlightLog
import SmartQso.Runs

namespace SmartQso

open BoundedHistory RingBuffer Runs

/-! ### The queue -/

/-- The calls that change the log. -/
inductive LogCall
  | init
  | clear
  | setLevel (level : UInt32)
  | write (message : LogMessage)

/-- A call to the log. -/
def logStep (log : FlightLog) : LogCall → FlightLog
  | .init => logInit
  | .clear => logClear log
  | .setLevel level => (logSetLevel log level).1
  | .write message => logWrite log message

/-- The entries accepted since the last clear, the number of entries accepted since the last
initialization and of those among them that pushed an older one out, and the level below which
messages are not accepted. -/
structure LogQueue where
  accepted : List LogEntry
  numbered : Nat
  overwritten : Nat
  level : UInt32
  initialized : Bool

/-- The queue before anything ran. -/
def LogQueue.boot : LogQueue := ⟨[], 0, 0, LogLevel.debug.value, false⟩

/-- The queue after an initialization. -/
def LogQueue.fresh : LogQueue := ⟨[], 0, 0, LogLevel.debug.value, true⟩

/-- Accept a message: the entry has its time and level, its texts as far as there is room for them,
and the next number. -/
def LogQueue.accept (queue : LogQueue) (message : LogMessage) : LogQueue :=
  let entry : LogEntry :=
    { timestampMs := message.nowMs.toUInt32
      level := message.level
      module := moduleText message.module
      message := messageText message.formatted
      sequence := UInt16.ofNat queue.numbered }
  { queue with
    accepted := queue.accepted ++ [entry]
    numbered := queue.numbered + 1
    overwritten :=
      if queue.accepted.length ≥ logBufferSize then queue.overwritten + 1
      else queue.overwritten }

/-- A message is accepted unless its level is below that of the queue or below the one the log is
compiled with. -/
def LogQueue.offer (queue : LogQueue) (message : LogMessage) : LogQueue :=
  if message.level < logMinLevel ∨ message.level < queue.level then queue
  else queue.accept message

/-- A call to the queue. -/
def queueStep (queue : LogQueue) : LogCall → LogQueue
  | .init => LogQueue.fresh
  | .clear => { queue with accepted := [] }
  | .setLevel level => if level > LogLevel.off.value then queue else { queue with level := level }
  | .write message => (if queue.initialized then queue else LogQueue.fresh).offer message

/-! ### Simulation -/

/-- The log holds the newest entries of the queue and agrees with its numbers. -/
structure Represents (log : FlightLog) (queue : LogQueue) : Prop where
  contents : log.ring.contents = newest logBufferSize queue.accepted
  sequence : log.sequence = UInt16.ofNat queue.numbered
  dropped : log.stats.droppedLogs = UInt32.ofNat queue.overwritten
  level : log.logLevel = queue.level
  initialized : log.initialized = queue.initialized

theorem represents_boot : Represents FlightLog.boot LogQueue.boot :=
  ⟨Ring.contents_blank _ _, rfl, rfl, rfl, rfl⟩

theorem represents_init : Represents logInit LogQueue.fresh :=
  ⟨Ring.contents_blank _ _, rfl, rfl, rfl, rfl⟩

theorem Represents.count {log : FlightLog} {queue : LogQueue} (represents : Represents log queue) :
    log.ring.count = min queue.accepted.length logBufferSize := by
  rw [← Ring.length_contents, represents.contents, length_newest]

@[simp] theorem countLevel_droppedLogs (stats : LogStats) (level : UInt32) :
    (countLevel stats level).droppedLogs = stats.droppedLogs := by
  unfold countLevel
  split_ifs <;> rfl

/-- An accepted message is pushed into the ring. -/
theorem represents_accept {log : FlightLog} {queue : LogQueue}
    (represents : Represents log queue) (message : LogMessage) :
    Represents (storeEntry log message) (queue.accept message) where
  contents := by
    show (log.ring.push (logEntryOf message log.sequence)).contents = _
    rw [Ring.contents_push, represents.contents, newest_append_newest, represents.sequence]
    rfl
  sequence := by
    show log.sequence + 1 = UInt16.ofNat (queue.numbered + 1)
    rw [represents.sequence, UInt16.ofNat_add]
    rfl
  dropped := by
    have full : log.ring.count ≥ logBufferSize ↔ queue.accepted.length ≥ logBufferSize := by
      rw [represents.count, ge_iff_le, Nat.le_min]
      exact and_iff_left (Nat.le_refl _)
    show (if decide (log.ring.count ≥ logBufferSize) = true then _ else _) = _
    rw [LogQueue.accept]
    simp only [decide_eq_true_iff, full, countLevel_droppedLogs, represents.dropped]
    split
    · rw [UInt32.ofNat_add]
      rfl
    · rfl
  level := represents.level
  initialized := represents.initialized

/-- The counts of all and of filtered messages play no part. -/
theorem Represents.withStats {log : FlightLog} {queue : LogQueue}
    (represents : Represents log queue) {stats : LogStats}
    (same : stats.droppedLogs = log.stats.droppedLogs) :
    Represents { log with stats := stats } queue :=
  { represents with dropped := same.trans represents.dropped }

/-- A message below either level changes nothing but the counts. -/
theorem represents_filter {log : FlightLog} {queue : LogQueue}
    (represents : Represents log queue) (message : LogMessage) :
    Represents (filterMessage log message) (queue.offer message) := by
  rw [filterMessage, LogQueue.offer, ← represents.level]
  by_cases compiled : message.level < logMinLevel
  · rw [if_pos (Or.inl compiled)]
    simp only [if_pos compiled]
    exact represents.withStats rfl
  · by_cases silent : message.level < log.logLevel
    · rw [if_pos (Or.inr silent)]
      simp only [if_neg compiled, if_pos silent]
      exact represents.withStats rfl
    · rw [if_neg (not_or.mpr ⟨compiled, silent⟩)]
      simp only [if_neg compiled, if_neg silent]
      exact represents_accept (represents.withStats (by rfl)) message

/-- Every call keeps the log a representation of the queue. -/
theorem represents_step {log : FlightLog} {queue : LogQueue} (represents : Represents log queue)
    (call : LogCall) : Represents (logStep log call) (queueStep queue call) := by
  cases call with
  | init => exact represents_init
  | clear => exact { represents with contents := Ring.contents_clear log.ring }
  | setLevel level =>
    rw [logStep, logSetLevel, queueStep]
    split
    · exact represents
    · exact { represents with level := rfl }
  | write message =>
    have started : Represents (if log.initialized then log else logInit)
        (if queue.initialized then queue else LogQueue.fresh) := by
      rw [represents.initialized]
      split
      · exact represents
      · exact represents_init
    exact represents_filter started message

/-- Every sequence of calls keeps the log a representation of the queue. -/
theorem represents_run {log : FlightLog} {queue : LogQueue} (represents : Represents log queue)
    (calls : List LogCall) :
    Represents (finalState logStep log calls) (finalState queueStep queue calls) :=
  finalState_related Represents (fun _ _ call kept => represents_step kept call) represents calls

/-! ### Sequence numbers -/

/-- The entry that follows another one has the next sequence number. -/
def Follows (earlier later : LogEntry) : Prop := later.sequence = earlier.sequence + 1

/-- The accepted entries are numbered one after the other, up to the next number. -/
structure Numbered (queue : LogQueue) : Prop where
  chain : queue.accepted.IsChain Follows
  last : ∀ entry ∈ queue.accepted.getLast?, entry.sequence + 1 = UInt16.ofNat queue.numbered

theorem numbered_of_empty {queue : LogQueue} (empty : queue.accepted = []) : Numbered queue where
  chain := empty ▸ List.isChain_nil
  last := by
    rw [empty]
    exact fun entry none => by cases none

theorem numbered_accept {queue : LogQueue} (numbered : Numbered queue) (message : LogMessage) :
    Numbered (queue.accept message) where
  chain := by
    rw [LogQueue.accept]
    refine numbered.chain.append (List.isChain_singleton _) fun earlier member later next => ?_
    rw [← Option.some.inj next]
    exact (numbered.last earlier member).symm
  last := by
    intro entry member
    rw [LogQueue.accept] at member ⊢
    rw [List.getLast?_concat] at member
    rw [← Option.some.inj member, UInt16.ofNat_add]
    rfl

theorem numbered_offer {queue : LogQueue} (numbered : Numbered queue) (message : LogMessage) :
    Numbered (queue.offer message) := by
  rw [LogQueue.offer]
  split
  · exact numbered
  · exact numbered_accept numbered message

theorem numbered_step (queue : LogQueue) (call : LogCall) (numbered : Numbered queue) :
    Numbered (queueStep queue call) := by
  cases call with
  | init => exact numbered_of_empty rfl
  | clear => exact numbered_of_empty rfl
  | setLevel level =>
    rw [queueStep]
    split
    · exact numbered
    · exact ⟨numbered.chain, numbered.last⟩
  | write message =>
    have started : Numbered (if queue.initialized then queue else LogQueue.fresh) := by
      split
      · exact numbered
      · exact numbered_of_empty rfl
    exact numbered_offer started message

/-- After any calls, the entries of the log are the newest 64 of those accepted since the last
clear, numbered one after the other modulo 2^16, no other index gives an entry, and the count of
dropped entries is that of the accepted ones that pushed an older entry out. -/
theorem flightLog_refines_queue (calls : List LogCall) :
    let log := finalState logStep FlightLog.boot calls
    let queue := finalState queueStep LogQueue.boot calls
    logGetCount log = min queue.accepted.length 64 ∧
      (∀ index : UInt16,
        logGetEntry log index = (newest 64 queue.accepted)[index.toNat]?) ∧
      (newest 64 queue.accepted).IsChain (fun earlier later =>
        later.sequence = earlier.sequence + 1) ∧
      log.stats.droppedLogs = UInt32.ofNat queue.overwritten := by
  have represents := represents_run represents_boot calls
  have numbered : Numbered (finalState queueStep LogQueue.boot calls) :=
    finalState_of_invariant numbered_step (numbered_of_empty rfl) calls
  refine ⟨represents.count, fun index => ?_, numbered.chain.drop _, represents.dropped⟩
  rw [logGetEntry, Ring.get?_eq, represents.contents]
  rfl

end SmartQso
