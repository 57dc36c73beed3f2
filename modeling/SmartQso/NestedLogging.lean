/-
This file settles what the flight log keeps when its output callback logs as well. The
callback runs after an entry is filled in and before the write index moves on, so a
message that it logs goes to the same slot. As long as the accepted entries fit, all of
them are kept in their order exactly when no message logged for an accepted entry is
accepted itself.
-/

import SmartQso.FlightLogQueue
import SmartQso.Numbering
import SmartQso.ReentrantRing

namespace SmartQso

open Numbering RingBuffer Runs

/-! ### Messages with what the callback logs for them -/

/-- A call of `log_write` with the calls that the callback makes when it is given the entry. -/
inductive NestedMessage
  | logging (message : LogMessage) (callback : List NestedMessage)

def NestedMessage.message : NestedMessage → LogMessage
  | .logging message _ => message

/-- The filters of `log_vwrite` hold a message back. -/
def heldBack (logLevel : UInt32) (message : LogMessage) : Prop :=
  message.level < logMinLevel ∨ message.level < logLevel

instance (logLevel : UInt32) (message : LogMessage) : Decidable (heldBack logLevel message) :=
  inferInstanceAs (Decidable (_ ∨ _))

/-! ### The operations -/

/-- The part of `log_vwrite` between the filters and the output. -/
def beginEntry (log : FlightLog) (message : LogMessage) : FlightLog :=
  { log with
    ring := log.ring.write (logEntryOf message log.sequence)
    sequence := log.sequence + 1
    stats := countLevel log.stats message.level }

/-- The part of `log_vwrite` behind the output. -/
def endEntry (log : FlightLog) : FlightLog :=
  let full := decide (log.ring.count ≥ logBufferSize)
  let ring := log.ring.takeIn
  let entries := UInt16.ofNat ring.count
  { log with
    ring := ring
    stats :=
      { log.stats with
        droppedLogs := if full then log.stats.droppedLogs + 1 else log.stats.droppedLogs
        bufferEntries := entries
        bufferHighWater :=
          if entries > log.stats.bufferHighWater then entries else log.stats.bufferHighWater } }

mutual

/-- `log_write` to an initialized log, with what the callback logs if one is registered. -/
def nestedWrite (registered : Bool) (log : FlightLog) : NestedMessage → FlightLog
  | .logging message callback =>
    let total := { log.stats with totalLogs := log.stats.totalLogs + 1 }
    let filtered := { total with filteredLogs := total.filteredLogs + 1 }
    if message.level < logMinLevel then { log with stats := filtered }
    else if message.level < log.logLevel then { log with stats := filtered }
    else
      let begun := beginEntry { log with stats := total } message
      endEntry (if registered then nestedWrites registered begun callback else begun)

def nestedWrites (registered : Bool) (log : FlightLog) : List NestedMessage → FlightLog
  | [] => log
  | message :: rest => nestedWrites registered (nestedWrite registered log message) rest

end

/-- Without an output in between, the two parts are the write of the log. -/
theorem endEntry_beginEntry (log : FlightLog) (message : LogMessage) :
    endEntry (beginEntry log message) = storeEntry log message := by
  unfold endEntry beginEntry storeEntry
  rw [Ring.takeIn_write]
  rfl

/-- Without a callback, a write is the write of the log. -/
theorem nestedWrite_unregistered (log : FlightLog) (message : LogMessage)
    (callback : List NestedMessage) :
    nestedWrite false log (.logging message callback) = filterMessage log message := by
  rw [nestedWrite, filterMessage]
  simp only [endEntry_beginEntry, if_neg Bool.false_ne_true]

/-- A message that is held back changes the statistics only. -/
theorem nestedWrite_heldBack {log : FlightLog} {message : LogMessage}
    (held : heldBack log.logLevel message) (registered : Bool) (callback : List NestedMessage) :
    ∃ stats, nestedWrite registered log (.logging message callback) =
      { log with stats := stats } := by
  rw [nestedWrite]
  dsimp only
  split
  · exact ⟨_, rfl⟩
  · next reached =>
    rw [if_pos (held.resolve_left reached)]
    exact ⟨_, rfl⟩

/-- A message that passes is written, with what the callback logs in between. -/
theorem nestedWrite_passes {log : FlightLog} {message : LogMessage}
    (passes : ¬ heldBack log.logLevel message) (registered : Bool)
    (callback : List NestedMessage) :
    ∃ stats, nestedWrite registered log (.logging message callback) =
      endEntry (if registered then
          nestedWrites registered (beginEntry { log with stats := stats } message) callback
        else beginEntry { log with stats := stats } message) := by
  obtain ⟨compiled, silent⟩ := not_or.mp passes
  rw [nestedWrite]
  dsimp only
  rw [if_neg compiled, if_neg silent]
  exact ⟨_, rfl⟩

/-! ### The entries accepted -/

mutual

/-- The entries that a call accepts, in the order in which they are written, the first one with the
given number. -/
def acceptedNest (logLevel : UInt32) (registered : Bool) (number : UInt16) :
    NestedMessage → List (Nest LogEntry)
  | .logging message callback =>
    if heldBack logLevel message then []
    else
      [.node (logEntryOf message number)
        (if registered then acceptedNests logLevel registered (number + 1) callback else [])]

def acceptedNests (logLevel : UInt32) (registered : Bool) (number : UInt16) :
    List NestedMessage → List (Nest LogEntry)
  | [] => []
  | message :: rest =>
    let first := acceptedNest logLevel registered number message
    first ++ acceptedNests logLevel registered
      (number + UInt16.ofNat (Nest.entriesAll first).length) rest

end

/-- The log has written these entries and is the same otherwise. -/
structure Writes (before after : FlightLog) (nests : List (Nest LogEntry)) : Prop where
  ring : after.ring = before.ring.pushNests nests
  sequence : after.sequence = before.sequence + UInt16.ofNat (Nest.entriesAll nests).length
  level : after.logLevel = before.logLevel
  initialized : after.initialized = before.initialized

theorem Writes.refl (log : FlightLog) : Writes log log [] :=
  ⟨rfl, (UInt16.add_zero _).symm, rfl, rfl⟩

theorem Writes.trans {before middle after : FlightLog} {first second : List (Nest LogEntry)}
    (earlier : Writes before middle first) (later : Writes middle after second) :
    Writes before after (first ++ second) where
  ring := by rw [Ring.pushNests_append, ← earlier.ring, later.ring]
  sequence := by
    rw [later.sequence, earlier.sequence, Nest.entriesAll_append, List.length_append,
      UInt16.ofNat_add, UInt16.add_assoc]
  level := later.level.trans earlier.level
  initialized := later.initialized.trans earlier.initialized

/-- What the callback logs lies between the begin and the end of the entry. -/
theorem Writes.endEntry {log after : FlightLog} {message : LogMessage}
    {inner : List (Nest LogEntry)} (written : Writes (beginEntry log message) after inner) :
    Writes log (endEntry after) [.node (logEntryOf message log.sequence) inner] where
  ring := by
    show after.ring.takeIn = _
    rw [written.ring]
    rfl
  sequence := by
    rw [Nest.entriesAll_singleton, Nest.entries, List.length_cons, Nat.add_comm, UInt16.ofNat_add,
      ← UInt16.add_assoc]
    exact written.sequence
  level := written.level
  initialized := written.initialized

mutual

theorem nestedWrite_writes (registered : Bool) (log : FlightLog) (nested : NestedMessage) :
    Writes log (nestedWrite registered log nested)
      (acceptedNest log.logLevel registered log.sequence nested) :=
  match nested with
  | .logging message callback => by
    rw [acceptedNest]
    by_cases held : heldBack log.logLevel message
    · obtain ⟨stats, same⟩ := nestedWrite_heldBack held registered callback
      rw [if_pos held, same]
      exact ⟨rfl, (UInt16.add_zero _).symm, rfl, rfl⟩
    · obtain ⟨stats, same⟩ := nestedWrite_passes held registered callback
      rw [if_neg held, same]
      -- From here on the statistics play no part.
      have ends : ∀ {after : FlightLog} {inner : List (Nest LogEntry)},
          Writes (beginEntry { log with stats := stats } message) after inner →
            Writes log (endEntry after) [.node (logEntryOf message log.sequence) inner] :=
        fun written => ⟨written.endEntry.ring, written.endEntry.sequence,
          written.endEntry.level, written.endEntry.initialized⟩
      cases registered with
      | false => exact ends (Writes.refl _)
      | true => exact ends (nestedWrites_writes true _ callback)

theorem nestedWrites_writes (registered : Bool) (log : FlightLog) (nested : List NestedMessage) :
    Writes log (nestedWrites registered log nested)
      (acceptedNests log.logLevel registered log.sequence nested) :=
  match nested with
  | [] => Writes.refl log
  | message :: rest => by
    rw [nestedWrites, acceptedNests]
    have first := nestedWrite_writes registered log message
    have later := nestedWrites_writes registered (nestedWrite registered log message) rest
    rw [first.level, first.sequence] at later
    exact first.trans later

end

/-! ### Numbers -/

/-- Entries of the log, numbered from the given number. -/
abbrev EntriesFrom (number : UInt16) (entries : List LogEntry) : Prop :=
  NumberedFrom LogEntry.sequence number entries

mutual

theorem acceptedNest_numbered (logLevel : UInt32) (registered : Bool) (number : UInt16)
    (nested : NestedMessage) :
    EntriesFrom number (Nest.entriesAll (acceptedNest logLevel registered number nested)) :=
  match nested with
  | .logging message callback => by
    rw [acceptedNest]
    by_cases held : heldBack logLevel message
    · rw [if_pos held]
      trivial
    · rw [if_neg held, Nest.entriesAll_singleton, Nest.entries]
      refine ⟨rfl, ?_⟩
      cases registered with
      | false => trivial
      | true => exact acceptedNests_numbered logLevel true (number + 1) callback

theorem acceptedNests_numbered (logLevel : UInt32) (registered : Bool) (number : UInt16)
    (nested : List NestedMessage) :
    EntriesFrom number (Nest.entriesAll (acceptedNests logLevel registered number nested)) :=
  match nested with
  | [] => trivial
  | message :: rest => by
    rw [acceptedNests, Nest.entriesAll_append]
    exact (acceptedNest_numbered logLevel registered number message).append
      (acceptedNests_numbered logLevel registered _ rest)

end

/-- Nothing is accepted exactly when every message is held back. -/
theorem acceptedNests_eq_nil_iff (logLevel : UInt32) (registered : Bool) (number : UInt16)
    (nested : List NestedMessage) :
    Nest.entriesAll (acceptedNests logLevel registered number nested) = [] ↔
      ∀ inner ∈ nested, heldBack logLevel inner.message := by
  induction nested generalizing number with
  | nil => exact iff_of_true rfl fun inner absent => absurd absent List.not_mem_nil
  | cons first rest inductionHypothesis =>
    obtain ⟨message, callback⟩ := first
    rw [acceptedNests, Nest.entriesAll_append, List.append_eq_nil_iff, inductionHypothesis,
      List.forall_mem_cons, acceptedNest]
    refine and_congr_left fun _ => ?_
    by_cases held : heldBack logLevel message
    · rw [if_pos held]
      exact iff_of_true rfl held
    · rw [if_neg held, Nest.entriesAll_singleton, Nest.entries]
      exact iff_of_false (List.cons_ne_nil _ _) held

/-! ### Runs -/

/-- The log, whether a callback is registered, and a ghost: the entries accepted since the last
clear. -/
structure CallbackLog where
  log : FlightLog
  registered : Bool
  accepted : List LogEntry

/-- A call to the log from outside the callback. -/
inductive CallbackCall
  | init
  | clear
  | setLevel (level : UInt32)
  | register (registered : Bool)
  | write (nested : NestedMessage)

/-- The log after `log_init`, which forgets the callback. -/
def CallbackLog.init : CallbackLog := ⟨logInit, false, []⟩

/-- The state in which a write filters its message. -/
def CallbackLog.ready (state : CallbackLog) : CallbackLog :=
  if state.log.initialized then state else CallbackLog.init

/-- The entries a write accepts in a state that is ready. -/
def CallbackLog.accepts (state : CallbackLog) (nested : NestedMessage) : List (Nest LogEntry) :=
  acceptedNest state.log.logLevel state.registered state.log.sequence nested

def callbackStep (state : CallbackLog) : CallbackCall → CallbackLog
  | .init => CallbackLog.init
  | .clear => { state with log := logClear state.log, accepted := [] }
  | .setLevel level => { state with log := (logSetLevel state.log level).1 }
  | .register registered => { state with registered := registered }
  | .write nested =>
    { state.ready with
      log := nestedWrite state.ready.registered state.ready.log nested
      accepted := state.ready.accepted ++ Nest.entriesAll (state.ready.accepts nested) }

/-- As long as the accepted entries fit, each of them is read at its own index, in the order of the
numbers, and no other index gives an entry. -/
def LosesNothing (state : CallbackLog) : Prop :=
  state.accepted.length ≤ 64 →
    (∀ index : UInt16, logGetEntry state.log index = state.accepted[index.toNat]?) ∧
      state.accepted.IsChain fun earlier later => later.sequence = earlier.sequence + 1

/-- Every message that the callback logs for an accepted entry is held back. -/
def Undisturbed (logLevel : UInt32) (registered : Bool) : NestedMessage → Prop
  | .logging message callback =>
    registered = true → ¬ heldBack logLevel message →
      ∀ inner ∈ callback, heldBack logLevel inner.message

/-- The condition on a call: a write whose entries still fit is undisturbed. -/
def WritesUndisturbed (state : CallbackLog) : CallbackCall → Prop
  | .write nested =>
    state.ready.accepted.length + (Nest.entriesAll (state.ready.accepts nested)).length ≤ 64 →
      Undisturbed state.ready.log.logLevel state.ready.registered nested
  | _ => True

/-- What every call preserves: the accepted entries are numbered up to the next number. -/
def CountedOn (state : CallbackLog) : Prop :=
  ∃ number, EntriesFrom number state.accepted ∧
    state.log.sequence = number + UInt16.ofNat state.accepted.length

/-- The log holds the accepted entries, as long as they fit. -/
def HoldsAccepted (state : CallbackLog) : Prop :=
  state.accepted.length ≤ logBufferSize → state.log.ring.contents = state.accepted

/-- Reading every index tells what the log holds. -/
theorem losesNothing_iff {state : CallbackLog} (counted : CountedOn state) :
    LosesNothing state ↔ HoldsAccepted state := by
  obtain ⟨number, numbered, _⟩ := counted
  refine imp_congr_right fun fits => ⟨fun read => ?_, fun same => ⟨fun index => ?_, ?_⟩⟩
  · refine List.ext_getElem? fun index => ?_
    have bound : state.log.ring.contents.length ≤ 64 := by
      rw [Ring.length_contents]
      exact state.log.ring.countBound
    by_cases small : index < 2 ^ 16
    · have given := read.1 (UInt16.ofNat index)
      have reached : (UInt16.ofNat index).toNat = index := UInt16.toNat_ofNat_of_lt small
      rw [logGetEntry, Ring.get?_eq, reached] at given
      exact given
    · rw [List.getElem?_eq_none (by omega), List.getElem?_eq_none (by omega)]
  · rw [logGetEntry, Ring.get?_eq, same]
  · exact numbered.chain

theorem ready_countedOn {state : CallbackLog} (counted : CountedOn state) :
    CountedOn state.ready := by
  unfold CallbackLog.ready
  split
  · exact counted
  · exact ⟨0, trivial, rfl⟩

theorem ready_holdsAccepted {state : CallbackLog} (holds : HoldsAccepted state) :
    HoldsAccepted state.ready := by
  unfold CallbackLog.ready
  split
  · exact holds
  · exact fun _ => Ring.contents_blank _ _

theorem callbackStep_countedOn {state : CallbackLog} (counted : CountedOn state)
    (call : CallbackCall) : CountedOn (callbackStep state call) := by
  cases call with
  | init => exact ⟨0, trivial, rfl⟩
  | clear => exact ⟨state.log.sequence, trivial, (UInt16.add_zero _).symm⟩
  | setLevel level =>
    have same : (logSetLevel state.log level).1.sequence = state.log.sequence := by
      unfold logSetLevel
      split <;> rfl
    obtain ⟨number, numbered, next⟩ := counted
    exact ⟨number, numbered, same.trans next⟩
  | register registered => exact counted
  | write nested =>
    obtain ⟨number, numbered, next⟩ := ready_countedOn counted
    have written := nestedWrite_writes state.ready.registered state.ready.log nested
    have added := acceptedNest_numbered state.ready.log.logLevel state.ready.registered
      state.ready.log.sequence nested
    refine ⟨number, numbered.append (next ▸ added), ?_⟩
    have reached : (nestedWrite state.ready.registered state.ready.log nested).sequence =
        state.ready.log.sequence +
          UInt16.ofNat (Nest.entriesAll (state.ready.accepts nested)).length := written.sequence
    unfold callbackStep
    dsimp only
    rw [reached, next, List.length_append, UInt16.ofNat_add, UInt16.add_assoc]

/-- The output of an accepted entry adds nothing exactly when there is no callback, or what it logs
is held back. -/
theorem output_eq_nil_iff (logLevel : UInt32) (registered : Bool) (number : UInt16)
    (callback : List NestedMessage) :
    Nest.entriesAll (if registered = true then acceptedNests logLevel registered number callback
        else []) = [] ↔
      (registered = true → ∀ inner ∈ callback, heldBack logLevel inner.message) := by
  by_cases present : registered = true
  · rw [if_pos present, imp_iff_right present]
    exact acceptedNests_eq_nil_iff logLevel registered number callback
  · rw [if_neg present]
    exact iff_of_true rfl fun absent => absurd absent present

/-- A write keeps the accepted entries in the log exactly when it is undisturbed, or they do not
fit. -/
theorem write_holdsAccepted_iff {state : CallbackLog} (holds : HoldsAccepted state)
    (nested : NestedMessage) :
    HoldsAccepted (callbackStep state (.write nested)) ↔
      WritesUndisturbed state (.write nested) := by
  have ready := ready_holdsAccepted holds
  unfold HoldsAccepted WritesUndisturbed callbackStep
  dsimp only
  rw [List.length_append]
  set start := state.ready
  obtain ⟨message, callback⟩ := nested
  refine imp_congr_right fun fits => ?_
  have contents := ready (Nat.le_trans (Nat.le_add_right _ _) fits)
  have written := nestedWrite_writes start.registered start.log (.logging message callback)
  have numbered := acceptedNest_numbered start.log.logLevel start.registered start.log.sequence
    (.logging message callback)
  rw [written.ring]
  unfold CallbackLog.accepts at fits ⊢
  unfold Undisturbed
  rw [acceptedNest] at fits numbered ⊢
  by_cases held : heldBack start.log.logLevel message
  · rw [if_pos held]
    refine iff_of_true ?_ fun _ passes => absurd held passes
    exact contents.trans (List.append_nil _).symm
  · rw [if_neg held, Nest.entriesAll_singleton] at fits numbered ⊢
    set inner := if start.registered = true then
      acceptedNests start.log.logLevel start.registered (start.log.sequence + 1) callback else []
    have count : start.log.ring.count = start.accepted.length := by
      rw [← Ring.length_contents, contents]
    have few : (Nest.node (logEntryOf message start.log.sequence) inner).entries.length ≤
        UInt16.size :=
      (Nat.le_of_add_left_le fits).trans (by decide)
    have kept := Ring.contents_pushNest_iff start.log.ring
      (logEntryOf message start.log.sequence) inner (count ▸ fits) (numbered.nodup few)
    rw [contents] at kept
    refine kept.trans ?_
    dsimp only
    rw [imp_iff_right held]
    exact output_eq_nil_iff _ _ _ callback

/-- A call keeps the accepted entries in the log exactly under its condition. -/
theorem callbackStep_holdsAccepted_iff {state : CallbackLog} (holds : HoldsAccepted state)
    (call : CallbackCall) :
    HoldsAccepted (callbackStep state call) ↔ WritesUndisturbed state call := by
  cases call with
  | init => exact iff_of_true (fun _ => Ring.contents_blank _ _) trivial
  | clear => exact iff_of_true (fun _ => Ring.contents_clear _) trivial
  | setLevel level =>
    have same : (logSetLevel state.log level).1.ring = state.log.ring := by
      unfold logSetLevel
      split <;> rfl
    refine iff_of_true (fun fits => ?_) trivial
    exact (congrArg Ring.contents same).trans (holds fits)
  | register registered => exact iff_of_true holds trivial
  | write nested => exact write_holdsAccepted_iff holds nested

/-- In every run of calls to an initialized log, with or without a callback that logs, nothing that
is accepted is lost, in every state in which it would fit, exactly when every write whose entries
fit is undisturbed: the callback logs nothing for an accepted entry that is itself accepted. -/
theorem callback_loses_nothing_iff (registered : Bool) (calls : List CallbackCall) :
    Throughout callbackStep LosesNothing ⟨logInit, registered, []⟩ calls ↔
      EachStep callbackStep WritesUndisturbed ⟨logInit, registered, []⟩ calls := by
  have initial : HoldsAccepted ⟨logInit, registered, []⟩ ∧
      CountedOn ⟨logInit, registered, []⟩ :=
    ⟨fun _ => Ring.contents_blank _ _, 0, trivial, rfl⟩
  have exact : ∀ (state : CallbackLog) (call : CallbackCall),
      HoldsAccepted state ∧ CountedOn state →
        (LosesNothing (callbackStep state call) ↔ WritesUndisturbed state call) :=
    fun state call both => (losesNothing_iff (callbackStep_countedOn both.2 call)).trans
      (callbackStep_holdsAccepted_iff both.1 call)
  have sound : ∀ state : CallbackLog, HoldsAccepted state ∧ CountedOn state →
      LosesNothing state := fun state both => (losesNothing_iff both.2).mpr both.1
  exact throughout_iff_eachStep sound exact
    (fun state call both undisturbed =>
      ⟨(callbackStep_holdsAccepted_iff both.1 call).mpr undisturbed,
        callbackStep_countedOn both.2 call⟩)
    initial calls

/-- A message of the given level and text. -/
def plainMessage (level : LogLevel) (text : List UInt8) : LogMessage :=
  ⟨level.value, none, .text text, 0⟩

/-- The callback logs a debug message for an error: both are accepted, the first entry of the log
is the inner one, and the outer one is nowhere. -/
theorem outer_entry_lost :
    let nested : NestedMessage := .logging (plainMessage .error [0x41])
      [.logging (plainMessage .debug [0x42]) []]
    let start : CallbackLog := ⟨logInit, true, []⟩
    let reached := finalState callbackStep start [.write nested]
    let outer := logEntryOf (plainMessage .error [0x41]) 0
    reached.accepted = [outer, logEntryOf (plainMessage .debug [0x42]) 1] ∧
      logGetEntry reached.log 0 = some (logEntryOf (plainMessage .debug [0x42]) 1) ∧
      logGetEntry reached.log 1 = some LogEntry.blank ∧ logGetCount reached.log = 2 ∧
      ¬ Throughout callbackStep LosesNothing start [.write nested] := by
  intro nested start reached outer
  have accepted : reached.accepted = [outer, logEntryOf (plainMessage .debug [0x42]) 1] := by
    decide +kernel
  have first : logGetEntry reached.log 0 =
      some (logEntryOf (plainMessage .debug [0x42]) 1) := by
    decide +kernel
  refine ⟨accepted, first, by decide +kernel, by decide +kernel, fun kept => ?_⟩
  have fits : reached.accepted.length ≤ 64 := by
    rw [accepted]
    decide
  have read := (kept.finish fits).1 0
  rw [first, accepted] at read
  exact absurd read (by decide +kernel)

end SmartQso
