/-
This file models `flight_log.c`: the ring of log entries, the filters in front of it
and the statistics beside it. A character array is the text up to its terminator, and
what `vsnprintf` makes of the format is an input. Where an entry is output to changes
nothing in the log and is left out.
-/

import SmartQso.RingBuffer
import SmartQso.Types

namespace SmartQso

open RingBuffer

/-! ### Constants -/

/-- `LOG_MAX_MESSAGE_LEN`. -/
def logMaxMessageLen : Nat := 128

/-- `LOG_BUFFER_SIZE`. -/
def logBufferSize : Nat := 64

/-- `LOG_MAX_MODULE_LEN`. -/
def logMaxModuleLen : Nat := 16

/-- `LogLevel_t`. -/
inductive LogLevel
  | trace
  | debug
  | info
  | warning
  | error
  | critical
  | off
  deriving DecidableEq

/-- The number of a level. An argument of type `LogLevel_t` may hold any 32-bit value. -/
def LogLevel.value : LogLevel → UInt32
  | .trace => 0
  | .debug => 1
  | .info => 2
  | .warning => 3
  | .error => 4
  | .critical => 5
  | .off => 6

/-- `LOG_MIN_LEVEL`. -/
def logMinLevel : UInt32 := LogLevel.debug.value

/-! ### State -/

/-- `LogEntry_t`. -/
structure LogEntry where
  timestampMs : UInt32
  level : UInt32
  module : List UInt8
  message : List UInt8
  sequence : UInt16
  deriving DecidableEq

/-- `LogStats_t`. -/
structure LogStats where
  totalLogs : UInt32
  filteredLogs : UInt32
  droppedLogs : UInt32
  traceCount : UInt32
  debugCount : UInt32
  infoCount : UInt32
  warningCount : UInt32
  errorCount : UInt32
  criticalCount : UInt32
  bufferEntries : UInt16
  bufferHighWater : UInt16
  deriving DecidableEq

/-- The statics of `flight_log.c`. The ring is `s_buffer` with its two indices and its count. -/
structure FlightLog where
  ring : Ring LogEntry logBufferSize
  sequence : UInt16
  logLevel : UInt32
  stats : LogStats
  initialized : Bool

/-- The result of `vsnprintf`, with the text that would not be cut. -/
inductive Formatted
  | noFormat
  | failed
  | text (output : List UInt8)
  deriving DecidableEq

/-- The arguments of `log_write`, with the time at which it runs. -/
structure LogMessage where
  level : UInt32
  module : Option (List UInt8)
  formatted : Formatted
  nowMs : UInt64

/-- An entry of zeros. -/
def LogEntry.blank : LogEntry := ⟨0, 0, [], [], 0⟩

/-- Statistics of zeros. -/
def LogStats.zero : LogStats := ⟨0, 0, 0, 0, 0, 0, 0, 0, 0, 0, 0⟩

/-- The statics before anything ran. -/
def FlightLog.boot : FlightLog where
  ring := Ring.blank LogEntry.blank (by decide)
  sequence := 0
  logLevel := LogLevel.debug.value
  stats := LogStats.zero
  initialized := false

/-! ### Filling an entry -/

/-- The text a terminated character array holds. -/
def textOf (chars : List UInt8) : List UInt8 := chars.takeWhile (· != 0)

/-- The module name after `safe_strncpy`. -/
def moduleText : Option (List UInt8) → List UInt8
  | none => []
  | some name => (textOf name).take (logMaxModuleLen - 1)

/-- The message after `vsnprintf`; a cut text ends in an ellipsis. -/
def messageText : Formatted → List UInt8
  | .noFormat => []
  | .failed => []
  | .text output =>
    if output.length ≥ logMaxMessageLen then
      textOf (output.take (logMaxMessageLen - 4) ++ [0x2E, 0x2E, 0x2E])
    else textOf output

/-- The entry of a message. -/
def logEntryOf (message : LogMessage) (sequence : UInt16) : LogEntry where
  timestampMs := message.nowMs.toUInt32
  level := message.level
  module := moduleText message.module
  message := messageText message.formatted
  sequence := sequence

/-- The switch over the level-specific counts. -/
def countLevel (stats : LogStats) (level : UInt32) : LogStats :=
  if level = LogLevel.trace.value then { stats with traceCount := stats.traceCount + 1 }
  else if level = LogLevel.debug.value then { stats with debugCount := stats.debugCount + 1 }
  else if level = LogLevel.info.value then { stats with infoCount := stats.infoCount + 1 }
  else if level = LogLevel.warning.value then
    { stats with warningCount := stats.warningCount + 1 }
  else if level = LogLevel.error.value then { stats with errorCount := stats.errorCount + 1 }
  else if level = LogLevel.critical.value then
    { stats with criticalCount := stats.criticalCount + 1 }
  else stats

/-! ### The operations -/

/-- `log_init`. -/
def logInit : FlightLog where
  ring := Ring.blank LogEntry.blank (by decide)
  sequence := 0
  logLevel := LogLevel.debug.value
  stats := LogStats.zero
  initialized := true

/-- `log_set_level`. -/
def logSetLevel (log : FlightLog) (level : UInt32) : FlightLog × SmartQsoResult :=
  if level > LogLevel.off.value then (log, .errorParam)
  else ({ log with logLevel := level }, .ok)

/-- The part of `log_vwrite` behind the filters. -/
def storeEntry (log : FlightLog) (message : LogMessage) : FlightLog :=
  let counted := countLevel log.stats message.level
  let full := decide (log.ring.count ≥ logBufferSize)
  let ring := log.ring.push (logEntryOf message log.sequence)
  let entries := UInt16.ofNat ring.count
  { log with
    ring := ring
    sequence := log.sequence + 1
    stats :=
      { counted with
        droppedLogs := if full then counted.droppedLogs + 1 else counted.droppedLogs
        bufferEntries := entries
        bufferHighWater :=
          if entries > counted.bufferHighWater then entries else counted.bufferHighWater } }

/-- The part of `log_vwrite` behind the initialization. -/
def filterMessage (log : FlightLog) (message : LogMessage) : FlightLog :=
  let total := { log.stats with totalLogs := log.stats.totalLogs + 1 }
  let filtered := { total with filteredLogs := total.filteredLogs + 1 }
  if message.level < logMinLevel then { log with stats := filtered }
  else if message.level < log.logLevel then { log with stats := filtered }
  else storeEntry { log with stats := total } message

/-- `log_write`, which always answers `SMART_QSO_OK`. -/
def logWrite (log : FlightLog) (message : LogMessage) : FlightLog :=
  filterMessage (if log.initialized then log else logInit) message

/-- `log_get_entry`; none stands for `SMART_QSO_ERROR_PARAM`. -/
def logGetEntry (log : FlightLog) (index : UInt16) : Option LogEntry := log.ring.get? index.toNat

/-- `log_get_count`. -/
def logGetCount (log : FlightLog) : Nat := log.ring.count

/-- `log_clear`. -/
def logClear (log : FlightLog) : FlightLog :=
  { log with
    ring := log.ring.clear
    stats := { log.stats with bufferEntries := 0 } }

end SmartQso
