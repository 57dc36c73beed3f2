/-
This file settles the order of the log of failed assertions and its statistics. A journal
keeps every record created since the statistics were cleared, as it is now, and the
severities that were counted. The log holds the newest sixteen records of the journal in
the order of their creation: a record has the slot that its number leaves modulo sixteen.
-/

import SmartQso.AssertRecords

namespace SmartQso

open BoundedHistory CStrings RingBuffer Runs

/-! ### The journal -/

/-- A severity as it is counted: an unknown one is an error. -/
def AssertSeverity.counted : AssertSeverity → AssertSeverity
  | .other _ => .error
  | severity => severity

/-- The records created since the statistics were cleared, with their occurrences since, and the
severities of the failures. -/
structure AssertJournal where
  created : List AssertRecord
  severities : List AssertSeverity

/-- The number of the newest record in a slot, when so many have been created that there is one. -/
def numberIn (created slot : Nat) : Nat :=
  slot + (created - 1 - slot) / assertMaxFailureLog * assertMaxFailureLog

/-- The newest record in a slot. -/
def recordIn (created : List AssertRecord) (slot : Nat) : Option AssertRecord :=
  if slot < created.length then created[numberIn created.length slot]? else none

/-- The first slot whose newest record is one of a file name and line. -/
def foundIn (created : List AssertRecord) (filename : Text) (line : UInt16) :
    Option (Fin assertMaxFailureLog) :=
  (List.finRange assertMaxFailureLog).find? fun slot =>
    (recordIn created slot.val).any fun record => record.isOf filename line

theorem assertMaxFilenameLen_pos : 0 < assertMaxFilenameLen := by decide

theorem assertMaxMsgLen_pos : 0 < assertMaxMsgLen := by decide

/-- The record of a failure: its place, its kind and its time, one occurrence and its message. The
texts are cut where they do not fit, and for a message that is null there is that of a cleared
record, which is empty. -/
def createdRecord (filename : Text) (failure : AssertFailure) : AssertRecord where
  filename := filename.copy assertMaxFilenameLen assertMaxFilenameLen_pos
  line := failure.line
  assertType := failure.assertType
  severity := failure.severity
  timestampS := failure.uptimeS
  occurrenceCount := 1
  message := (failure.message.getD AssertRecord.cleared.message.toText).copy assertMaxMsgLen
    assertMaxMsgLen_pos

theorem firstRecord_eq (filename : Text) (failure : AssertFailure) :
    firstRecord filename failure = createdRecord filename failure := by
  have cut : ∀ (text : Text) {size : Nat} (positive : 0 < size),
      (text.take size).copy size positive = text.copy size positive := by
    intro text size positive
    refine TextArray.eq_of_characters ?_
    show (text.characters.take size).take (size - 1) = text.characters.take (size - 1)
    rw [List.take_take, Nat.min_eq_left (Nat.sub_le size 1)]
  unfold firstRecord createdRecord safeStrncpy
  cases failure.message with
  | none =>
    rw [cut]
    rfl
  | some message =>
    dsimp only [Option.getD_some]
    rw [cut, cut]

/-- The records after a failure: another occurrence of one of them, at the time of the failure, or
one more. -/
def recorded (created : List AssertRecord) (failure : AssertFailure) : List AssertRecord :=
  let filename := extractFilename failure.file
  match foundIn created filename failure.line with
  | some slot =>
    created.modify (numberIn created.length slot.val) fun record =>
      { record with
        occurrenceCount := record.occurrenceCount + 1
        timestampS := failure.uptimeS }
  | none => created ++ [createdRecord filename failure]

/-- A call after `assert_init`. -/
inductive AssertCall
  | handleFailure (failure : AssertFailure)
  | clearStats

def AssertJournal.after (journal : AssertJournal) : AssertCall → AssertJournal
  | .handleFailure failure =>
    { created := recorded journal.created failure
      severities := journal.severities ++ [failure.severity.counted] }
  | .clearStats => ⟨[], []⟩

/-! ### The log and the journal -/

/-- The log holds the newest records of a journal, each in the slot of its number. -/
structure AssertLog.Holds (log : AssertLog) (created : List AssertRecord) : Prop where
  contents : log.contents = newest assertMaxFailureLog created
  index : log.logIndex = created.length % assertMaxFailureLog

theorem holds_cleared : AssertLog.cleared.Holds [] := ⟨rfl, rfl⟩

section

variable {log : AssertLog} {created : List AssertRecord}

theorem AssertLog.Holds.logCount (holds : log.Holds created) :
    log.logCount = min created.length assertMaxFailureLog := by
  rw [← log.length_contents, holds.contents, length_newest]

/-- The newest record in a slot in use is the entry of the log with this slot. -/
theorem AssertLog.Holds.number (holds : log.Holds created) {slot : Fin assertMaxFailureLog}
    (used : slot.val < created.length) :
    ∃ offset, offset < log.logCount ∧ log.view.slot offset = slot ∧
      numberIn created.length slot.val = created.length - assertMaxFailureLog + offset := by
  have count := holds.logCount
  have index := holds.index
  have bound := slot.isLt
  have start : log.startIdx =
      if created.length < assertMaxFailureLog then 0 else created.length % assertMaxFailureLog := by
    unfold AssertLog.startIdx
    rw [count, index]
    split <;> split <;> omega
  refine ⟨numberIn created.length slot.val - (created.length - assertMaxFailureLog), ?_, ?_, ?_⟩
  · rw [count]
    unfold numberIn assertMaxFailureLog at *
    omega
  · refine Fin.ext ?_
    show (log.startIdx + _) % assertMaxFailureLog = slot.val
    rw [start]
    unfold numberIn assertMaxFailureLog at *
    split <;> omega
  · unfold numberIn assertMaxFailureLog at *
    omega

/-- The slots in use hold the newest records of their numbers. -/
theorem AssertLog.Holds.recordIn (holds : log.Holds created) (slot : Fin assertMaxFailureLog) :
    SmartQso.recordIn created slot.val =
      if slot.val < log.logCount then some (log.records.get slot) else none := by
  have below : slot.val < log.logCount ↔ slot.val < created.length := by
    rw [holds.logCount, lt_min_iff]
    exact and_iff_left slot.isLt
  unfold SmartQso.recordIn
  by_cases used : slot.val < created.length
  · obtain ⟨offset, inside, here, number⟩ := holds.number used
    have within : offset < log.contents.length := by
      rw [log.length_contents]
      exact inside
    have entry : log.contents[offset]? = some (log.records.get slot) := by
      rw [List.getElem?_eq_getElem within, log.getElem_contents, here]
    rw [if_pos used, if_pos (below.mpr used), number, ← entry, holds.contents, newest,
      List.getElem?_drop]
  · rw [if_neg used, if_neg (mt below.mp used)]

/-- A failure is found in the log where it is found in the journal. -/
theorem AssertLog.Holds.existing (holds : log.Holds created) (filename : Text) (line : UInt16) :
    log.existing filename line = foundIn created filename line := by
  unfold AssertLog.existing foundIn
  congr 1
  funext slot
  rw [holds.recordIn]
  by_cases used : slot.val < log.logCount
  · rw [if_pos used, decide_eq_true used, Bool.true_and, Option.any_some]
  · rw [if_neg used, decide_eq_false used, Bool.false_and, Option.any_none]

theorem foundIn_lt {filename : Text} {line : UInt16} {slot : Fin assertMaxFailureLog}
    (found : foundIn created filename line = some slot) : slot.val < created.length := by
  by_contra unused
  have hit := List.find?_some found
  rw [recordIn, if_neg unused] at hit
  exact Bool.false_ne_true hit

/-- A failure does to the log what it does to the journal. -/
theorem AssertLog.Holds.logFailure (holds : log.Holds created) (overflows : UInt16)
    (failure : AssertFailure) :
    (SmartQso.logFailure log overflows failure).1.Holds (recorded created failure) := by
  unfold SmartQso.logFailure recorded
  dsimp only
  rw [holds.existing]
  cases search : foundIn created (extractFilename failure.file) failure.line with
  | none =>
    dsimp only
    constructor
    · rw [log.contents_store, holds.contents, newest_append_newest, firstRecord_eq]
    · show advance assertMaxFailureLog log.logIndex = _
      rw [advance_eq log.indexBound, holds.index, List.length_append, List.length_singleton,
        Nat.mod_add_mod]
  | some slot =>
    obtain ⟨offset, inside, here, number⟩ := holds.number (foundIn_lt search)
    dsimp only
    constructor
    · rw [← here, log.contents_change _ inside, here, number, newest_modify, holds.contents]
      rfl
    · rw [List.length_modify]
      exact holds.index

end

/-! ### Statistics -/

/-- The counter of a severity. -/
def AssertStats.counter (stats : AssertStats) : AssertSeverity → UInt32
  | .warning => stats.warnings
  | .error => stats.errors
  | .critical => stats.criticals
  | .fatal => stats.fatals
  | .other _ => stats.errors

/-- The counters are those of the severities of a journal, modulo 2^32, and add up. -/
structure AssertStats.Counts (stats : AssertStats) (severities : List AssertSeverity) : Prop where
  counter : ∀ severity, stats.counter severity = UInt32.ofNat (severities.count severity.counted)
  total : stats.totalFailures = stats.warnings + stats.errors + stats.criticals + stats.fatals

theorem counts_assertClearStats (handler : AssertHandler) :
    (assertClearStats handler).stats.Counts [] where
  counter severity := by cases severity <;> rfl
  total := rfl

theorem counts_assertInit (handler : AssertHandler) : (assertInit handler).stats.Counts [] where
  counter severity := by cases severity <;> rfl
  total := rfl

section

variable [CLayout FaultRecord]

/-- A failure is counted under its severity and no other. -/
theorem counter_respond (handler : AssertHandler) (severity which : AssertSeverity)
    (nowMs : UInt64) :
    (respond handler severity nowMs).1.stats.counter which =
      handler.stats.counter which + if severity.counted = which.counted then 1 else 0 := by
  have unchanged (count : UInt32) : count = count + 0 := (UInt32.add_zero count).symm
  cases severity <;> cases which
  all_goals first | rfl | exact unchanged _

/-- The counters go up by one together. -/
theorem sum_respond (handler : AssertHandler) (severity : AssertSeverity) (nowMs : UInt64) :
    let stats := (respond handler severity nowMs).1.stats
    stats.warnings + stats.errors + stats.criticals + stats.fatals =
      handler.stats.warnings + handler.stats.errors + handler.stats.criticals +
        handler.stats.fatals + 1 := by
  cases severity <;> simp only [respond, triggerSafeMode, triggerReset] <;> grind

theorem respond_totalFailures (handler : AssertHandler) (severity : AssertSeverity)
    (nowMs : UInt64) :
    (respond handler severity nowMs).1.stats.totalFailures = handler.stats.totalFailures := by
  cases severity <;> rfl

end

/-! ### Runs -/

/-- The log holds the newest records of a journal and the counters are those of its failures. -/
structure Journaled (handler : AssertHandler) (journal : AssertJournal) : Prop where
  initialized : handler.initialized = true
  holds : handler.log.Holds journal.created
  counts : handler.stats.Counts journal.severities

theorem journaled_assertInit (handler : AssertHandler) :
    Journaled (assertInit handler) ⟨[], []⟩ where
  initialized := rfl
  holds := holds_cleared
  counts := counts_assertInit handler

section

variable [CLayout FaultRecord]

def assertCall (handler : AssertHandler) : AssertCall → AssertHandler
  | .handleFailure failure => (assertHandleFailure handler failure).1
  | .clearStats => assertClearStats handler

theorem journaled_handleFailure {handler : AssertHandler} {journal : AssertJournal}
    (journaled : Journaled handler journal) (failure : AssertFailure) :
    Journaled (assertHandleFailure handler failure).1 (journal.after (.handleFailure failure)) := by
  obtain ⟨log, initialized⟩ := assertHandleFailure_log journaled.initialized failure
  refine ⟨initialized, ?_, ?_⟩
  · rw [log]
    exact journaled.holds.logFailure handler.stats.logOverflows failure
  unfold assertHandleFailure
  rw [if_pos journaled.initialized]
  refine ⟨fun which => ?_, ?_⟩
  · have before := journaled.counts.counter which
    rw [counter_respond]
    show handler.stats.counter which + _ = _
    rw [before]
    dsimp only [AssertJournal.after]
    rw [List.count_append, List.count_singleton, UInt32.ofNat_add]
    congr 1
    simp only [beq_iff_eq]
    split <;> rfl
  · rw [respond_totalFailures, sum_respond]
    exact congrArg (· + 1) journaled.counts.total

theorem Journaled.call {handler : AssertHandler} {journal : AssertJournal}
    (journaled : Journaled handler journal) (call : AssertCall) :
    Journaled (assertCall handler call) (journal.after call) := by
  cases call with
  | handleFailure failure => exact journaled_handleFailure journaled failure
  | clearStats => exact ⟨journaled.initialized, holds_cleared, counts_assertClearStats handler⟩

/-- What the log and the statistics say about a journal. -/
structure TellsJournal (handler : AssertHandler) (journal : AssertJournal) : Prop where
  logCount : handler.log.logCount = min journal.created.length assertMaxFailureLog
  /-- The log gives the oldest of the newest sixteen records, as many as are asked for. -/
  log : ∀ maxEntries, assertGetLog handler maxEntries =
    (newest assertMaxFailureLog journal.created).take
      (min maxEntries.toNat handler.log.logCount)
  counts : handler.stats.Counts journal.severities

/-- After any failures and clearings from the initialization on, the log gives the newest records in
the order of their creation, and the counters add up. -/
theorem tellsJournal (boot : AssertHandler) (calls : List AssertCall) :
    TellsJournal (finalState assertCall (assertInit boot) calls)
      (finalState AssertJournal.after ⟨[], []⟩ calls) := by
  have journaled := finalState_related Journaled (fun _ _ call before => before.call call)
    (journaled_assertInit boot) calls
  refine ⟨journaled.holds.logCount, fun maxEntries => ?_, journaled.counts⟩
  rw [assertGetLog_eq, ← journaled.holds.contents, ← AssertLog.length_contents,
    List.take_eq_take_iff, Nat.min_assoc, Nat.min_self]

end

end SmartQso
