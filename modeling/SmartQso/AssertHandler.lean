/-
This file models `assert_handler.c`: the log of failed assertions with its statistics,
and what follows from the severity of a failure. No callback is registered after
`assert_init`, and every call takes the uptime and the time of a fault entry that it
reads.
-/

import SmartQso.CStrings
import SmartQso.FaultMgmt
import SmartQso.RingBuffer

namespace SmartQso

open CStrings RingBuffer

/-! ### Constants -/

/-- `ASSERT_MAX_MSG_LEN`. -/
def assertMaxMsgLen : Nat := 64

/-- `ASSERT_MAX_FAILURE_LOG`. -/
def assertMaxFailureLog : Nat := 16

/-- `ASSERT_MAX_FILENAME_LEN`. -/
def assertMaxFilenameLen : Nat := 32

/-! ### Types -/

/-- `AssertType_t`. An argument may hold any other number too. -/
inductive AssertType
  | precondition
  | postcondition
  | invariant
  | paramNull
  | paramRange
  | arrayBounds
  | state
  | internal
  | unreachable
  | other (code : UInt32)
  deriving DecidableEq

/-- `AssertSeverity_t`. An argument may hold any other number too. -/
inductive AssertSeverity
  | warning
  | error
  | critical
  | fatal
  | other (code : UInt32)
  deriving DecidableEq

/-- `AssertAction_t`. -/
inductive AssertAction
  | continue
  | returnError
  | safeMode
  | reset
  deriving DecidableEq

/-- `AssertRecord_t`. -/
structure AssertRecord where
  filename : TextArray assertMaxFilenameLen
  line : UInt16
  assertType : AssertType
  severity : AssertSeverity
  timestampS : UInt32
  occurrenceCount : UInt32
  message : TextArray assertMaxMsgLen
  deriving DecidableEq

/-- `AssertStats_t` without the count of the log, which is kept beside its array. -/
structure AssertStats where
  totalChecks : UInt32
  totalFailures : UInt32
  warnings : UInt32
  errors : UInt32
  criticals : UInt32
  fatals : UInt32
  safeModeTriggers : UInt32
  resetTriggers : UInt32
  logOverflows : UInt16
  deriving DecidableEq

/-- `s_failure_log` with `s_log_index` and `log_count`. Until the log is full the index is the
count. -/
structure AssertLog where
  records : Vector AssertRecord assertMaxFailureLog
  logIndex : Nat
  logCount : Nat
  indexBound : logIndex < assertMaxFailureLog
  countBound : logCount ≤ assertMaxFailureLog
  aligned : logCount < assertMaxFailureLog → logIndex = logCount

/-- The statics of `assert_handler.c`, and the fault log. -/
structure AssertHandler where
  stats : AssertStats
  log : AssertLog
  initialized : Bool
  hasCriticalFailure : Bool
  faults : FaultMgmt

/-- The arguments of `assert_handle_failure`, and the times that it reads; none stands for a null
pointer. -/
structure AssertFailure where
  file : Option Text
  line : UInt16
  assertType : AssertType
  severity : AssertSeverity
  message : Option Text
  uptimeS : UInt32
  nowMs : UInt64

/-! ### Strings -/

/-- `safe_strncpy` into an array. -/
def safeStrncpy (destSize : Nat) (positive : 0 < destSize) (src : Text) (maxChars : Nat) :
    TextArray destSize :=
  (src.take maxChars).copy destSize positive

/-- The result of `safe_strncmp`. -/
def safeStrncmp (str1 str2 : Text) (n : Nat) : Ordering :=
  compareUpTo (fun c1 c2 => decide (c1 < c2)) n str1.characters str2.characters

/-- The loop of `extract_filename`, with the name found so far and the rest of the path. -/
def lastComponent : (filename rest : List UInt8) → List UInt8
  | filename, [] => filename
  | filename, character :: rest =>
    lastComponent (if character = 0x2F ∨ character = 0x5C then rest else filename) rest

theorem lastComponent_subset {path filename rest : List UInt8} (name : filename ⊆ path)
    (suffix : rest ⊆ path) : lastComponent filename rest ⊆ path := by
  induction rest generalizing filename with
  | nil => exact name
  | cons character rest inductionHypothesis =>
    have later : rest ⊆ path := fun _ member => suffix (List.mem_cons_of_mem character member)
    unfold lastComponent
    split
    · exact inductionHypothesis later later
    · exact inductionHypothesis name later

/-- The string `"unknown"`. -/
def unknownFile : Text := ⟨[0x75, 0x6E, 0x6B, 0x6E, 0x6F, 0x77, 0x6E], by decide⟩

/-- `extract_filename`. -/
def extractFilename : Option Text → Text
  | none => unknownFile
  | some path =>
    { characters := lastComponent path.characters path.characters
      plain := fun member =>
        path.plain (lastComponent_subset (List.Subset.refl _) (List.Subset.refl _) member) }

/-! ### The log -/

/-- A record after `memset`. -/
def AssertRecord.cleared : AssertRecord where
  filename := ⟨⟨[], List.not_mem_nil⟩, by decide⟩
  line := 0
  assertType := .precondition
  severity := .warning
  timestampS := 0
  occurrenceCount := 0
  message := ⟨⟨[], List.not_mem_nil⟩, by decide⟩

/-- A log after `memset`. -/
def AssertLog.cleared : AssertLog where
  records := Vector.replicate assertMaxFailureLog AssertRecord.cleared
  logIndex := 0
  logCount := 0
  indexBound := by decide
  countBound := Nat.zero_le _
  aligned _ := rfl

/-- The record is one of a file name and line, for the comparison in `log_failure`. -/
def AssertRecord.isOf (record : AssertRecord) (filename : Text) (line : UInt16) : Bool :=
  record.line == line &&
    safeStrncmp record.filename.toText filename assertMaxFilenameLen == .eq

/-- The first record in use with a file name and line. -/
def AssertLog.existing (log : AssertLog) (filename : Text) (line : UInt16) :
    Option (Fin assertMaxFailureLog) :=
  (List.finRange assertMaxFailureLog).find? fun i =>
    decide (i.val < log.logCount) && (log.records.get i).isOf filename line

/-- Another occurrence of a failure. -/
def AssertRecord.recur (record : AssertRecord) (uptimeS : UInt32) : AssertRecord :=
  { record with occurrenceCount := record.occurrenceCount + 1, timestampS := uptimeS }

/-- The record of a first failure. -/
def firstRecord (filename : Text) (failure : AssertFailure) : AssertRecord where
  filename := safeStrncpy assertMaxFilenameLen (by decide) filename assertMaxFilenameLen
  line := failure.line
  assertType := failure.assertType
  severity := failure.severity
  timestampS := failure.uptimeS
  occurrenceCount := 1
  message :=
    match failure.message with
    | some message => safeStrncpy assertMaxMsgLen (by decide) message assertMaxMsgLen
    | none => ⟨⟨[], List.not_mem_nil⟩, by decide⟩

/-- Change the record in a slot. -/
def AssertLog.change (log : AssertLog) (i : Fin assertMaxFailureLog)
    (edit : AssertRecord → AssertRecord) : AssertLog :=
  { log with records := log.records.set i (edit (log.records.get i)) i.isLt }

/-- Store a record in the next slot and advance. -/
def AssertLog.store (log : AssertLog) (record : AssertRecord) : AssertLog where
  records := log.records.set log.logIndex record log.indexBound
  logIndex := advance assertMaxFailureLog log.logIndex
  logCount := if log.logCount < assertMaxFailureLog then log.logCount + 1 else log.logCount
  indexBound := by
    rw [advance_eq log.indexBound]
    exact Nat.mod_lt _ (by decide)
  countBound := by
    split
    case isTrue room => exact room
    case isFalse => exact log.countBound
  aligned := by
    have aligned := log.aligned
    unfold advance
    split <;> split <;> omega

/-- `log_failure`, with the overflows counted. -/
def logFailure (log : AssertLog) (overflows : UInt16) (failure : AssertFailure) :
    AssertLog × UInt16 :=
  let filename := extractFilename failure.file
  match log.existing filename failure.line with
  | some i => (log.change i fun record => record.recur failure.uptimeS, overflows)
  | none =>
    (log.store (firstRecord filename failure),
      if log.logIndex + 1 ≥ assertMaxFailureLog then overflows + 1 else overflows)

/-- The slot of the oldest record, `start_idx` of `assert_get_log`. -/
def AssertLog.startIdx (log : AssertLog) : Nat :=
  if log.logCount ≥ assertMaxFailureLog then log.logIndex else 0

/-- `assert_get_log`, with pointers that are not null: the records that are copied. -/
def assertGetLog (handler : AssertHandler) (maxEntries : UInt16) : List AssertRecord :=
  let entriesToCopy := min handler.log.logCount maxEntries.toNat
  (List.range entriesToCopy).map fun i =>
    handler.log.records.get
      ⟨(handler.log.startIdx + i) % assertMaxFailureLog, Nat.mod_lt _ (by decide)⟩

/-! ### Failures -/

/-- `assert_init`. -/
def assertInit (handler : AssertHandler) : AssertHandler where
  stats := ⟨0, 0, 0, 0, 0, 0, 0, 0, 0⟩
  log := AssertLog.cleared
  initialized := true
  hasCriticalFailure := false
  faults := handler.faults

/-- `assert_clear_stats`. What has been triggered and the overflows are kept. -/
def assertClearStats (handler : AssertHandler) : AssertHandler :=
  { handler with
    stats :=
      { handler.stats with
        totalChecks := 0, totalFailures := 0, warnings := 0, errors := 0, criticals := 0,
        fatals := 0 }
    log := AssertLog.cleared }

section

variable [CLayout FaultRecord]

/-- `trigger_safe_mode`. -/
def triggerSafeMode (handler : AssertHandler) (nowMs : UInt64) : AssertHandler :=
  { handler with
    stats.safeModeTriggers := handler.stats.safeModeTriggers + 1
    hasCriticalFailure := true
    faults :=
      faultLogAdd handler.faults .assertion .critical "Assertion triggered safe mode" 0 nowMs }

/-- `trigger_reset`, which does not reset yet. -/
def triggerReset (handler : AssertHandler) (nowMs : UInt64) : AssertHandler :=
  { handler with
    stats.resetTriggers := handler.stats.resetTriggers + 1
    hasCriticalFailure := true
    faults := faultLogAdd handler.faults .assertion .critical "Assertion triggered reset" 0 nowMs }

/-- What `assert_handle_failure` does about a severity. -/
def respond (handler : AssertHandler) (severity : AssertSeverity) (nowMs : UInt64) :
    AssertHandler × AssertAction :=
  match severity with
  | .warning => ({ handler with stats.warnings := handler.stats.warnings + 1 }, .continue)
  | .error => ({ handler with stats.errors := handler.stats.errors + 1 }, .returnError)
  | .critical =>
    (triggerSafeMode { handler with stats.criticals := handler.stats.criticals + 1 } nowMs,
      .safeMode)
  | .fatal =>
    (triggerReset { handler with stats.fatals := handler.stats.fatals + 1 } nowMs, .reset)
  | .other _ => ({ handler with stats.errors := handler.stats.errors + 1 }, .returnError)

/-- `assert_handle_failure`. -/
def assertHandleFailure (handler : AssertHandler) (failure : AssertFailure) :
    AssertHandler × AssertAction :=
  let ready := if handler.initialized then handler else assertInit handler
  let logged := logFailure ready.log ready.stats.logOverflows failure
  respond
    { ready with
      stats :=
        { ready.stats with
          totalChecks := ready.stats.totalChecks + 1
          totalFailures := ready.stats.totalFailures + 1
          logOverflows := logged.2 }
      log := logged.1 }
    failure.severity failure.nowMs

end

end SmartQso
