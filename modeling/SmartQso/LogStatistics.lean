/-
This file balances the statistics of the flight log. Every message is counted once in
the total and once more, as filtered or by its level, and the counts of the buffer
follow the ring. The level that turns logging off passes both filters when a message
carries it: such a message is stored, even while logging is off, and no count of a
level knows of it.
-/

import SmartQso.FlightLog
import SmartQso.FlightLogQueue
import SmartQso.Runs

namespace SmartQso

open RingBuffer Runs

/-! ### Runs -/

/-- A call to the log after its initialization. The level of a message is one of `LogLevel_t`; the
argument of `log_set_level` may be any number. -/
inductive LevelCall
  | write (level : LogLevel) (module : Option (List UInt8)) (formatted : Formatted)
      (nowMs : UInt64)
  | setLevel (level : UInt32)
  | clear

def LevelCall.call : LevelCall → LogCall
  | .write level module formatted nowMs => .write ⟨level.value, module, formatted, nowMs⟩
  | .setLevel level => .setLevel level
  | .clear => .clear

def levelStep (log : FlightLog) (call : LevelCall) : FlightLog := logStep log call.call

/-- The filtered messages and those counted by their level. -/
def LogStats.accounted (stats : LogStats) : UInt32 :=
  stats.filteredLogs + stats.traceCount + stats.debugCount + stats.infoCount +
    stats.warningCount + stats.errorCount + stats.criticalCount

/-- The counts balance, and those of the buffer are right and within its size. -/
structure Conserved (log : FlightLog) : Prop where
  balance : log.stats.totalLogs = log.stats.accounted
  entries : log.stats.bufferEntries.toNat = logGetCount log
  highWater : log.stats.bufferEntries ≤ log.stats.bufferHighWater
  bound : log.stats.bufferHighWater ≤ 64

/-- Nothing is stored while logging is off. -/
def SilentWhileOff (log : FlightLog) : LevelCall → Prop
  | .write level module formatted nowMs =>
    log.logLevel = LogLevel.off.value →
      (levelStep log (.write level module formatted nowMs)).ring = log.ring
  | _ => True

/-- No message carries the level that turns logging off. -/
def RealLevel (_ : FlightLog) : LevelCall → Prop
  | .write level _ _ _ => level ≠ .off
  | _ => True

/-! ### One message -/

theorem logWrite_initialized {log : FlightLog} (initialized : log.initialized = true)
    (message : LogMessage) : logWrite log message = filterMessage log message := by
  rw [logWrite, if_pos initialized]

/-- A level has one count, and the one that turns logging off has none. -/
theorem accounted_countLevel (stats : LogStats) (level : LogLevel) :
    (countLevel stats level.value).accounted =
      if level = .off then stats.accounted else stats.accounted + 1 := by
  cases level with
  | off => rfl
  | _ =>
    simp [countLevel, LogStats.accounted, LogLevel.value]
    ac_rfl

theorem countLevel_frame (stats : LogStats) (level : UInt32) :
    (countLevel stats level).totalLogs = stats.totalLogs ∧
      (countLevel stats level).bufferHighWater = stats.bufferHighWater := by
  unfold countLevel
  split_ifs <;> exact ⟨rfl, rfl⟩

/-- A filtered message is counted as such. -/
theorem conserved_filtered {log : FlightLog} (conserved : Conserved log) :
    Conserved
      { log with
        stats :=
          { log.stats with
            totalLogs := log.stats.totalLogs + 1
            filteredLogs := log.stats.filteredLogs + 1 } } := by
  refine ⟨?_, conserved.entries, conserved.highWater, conserved.bound⟩
  show log.stats.totalLogs + 1 = _
  rw [conserved.balance]
  unfold LogStats.accounted
  dsimp only
  ac_rfl

/-- A message that passes the filters leaves the statistics balanced exactly when its level has a
count. -/
theorem conserved_stored_iff {log : FlightLog} (conserved : Conserved log) (level : LogLevel)
    (module : Option (List UInt8)) (formatted : Formatted) (nowMs : UInt64) :
    Conserved (storeEntry
        { log with stats := { log.stats with totalLogs := log.stats.totalLogs + 1 } }
        ⟨level.value, module, formatted, nowMs⟩) ↔ level ≠ .off := by
  set total : LogStats := { log.stats with totalLogs := log.stats.totalLogs + 1 }
  set pushed := log.ring.push
    (logEntryOf ⟨level.value, module, formatted, nowMs⟩ log.sequence)
  have counted := accounted_countLevel total level
  obtain ⟨totals, water⟩ := countLevel_frame total level.value
  have sum : total.accounted = log.stats.totalLogs := conserved.balance.symm
  have entries : (UInt16.ofNat pushed.count).toNat = pushed.count := by
    refine UInt16.toNat_ofNat_of_lt (Nat.lt_of_le_of_lt pushed.countBound ?_)
    decide
  have small : UInt16.ofNat pushed.count ≤ 64 := by
    rw [UInt16.le_iff_toNat_le, entries]
    exact pushed.countBound
  constructor
  · rintro ⟨balance, _, _, _⟩ rfl
    -- The total has grown by one, and no other count has.
    rw [if_pos rfl, sum] at counted
    have grown : log.stats.totalLogs + 1 = log.stats.totalLogs :=
      totals.symm.trans (balance.trans counted)
    exact absurd grown (by simp)
  · intro real
    rw [if_neg real, sum] at counted
    refine ⟨totals.trans counted.symm, entries, ?_, ?_⟩
    · show UInt16.ofNat pushed.count ≤ if UInt16.ofNat pushed.count > _ then _ else _
      split
      case isTrue => exact UInt16.le_refl _
      case isFalse low => exact UInt16.not_lt.mp low
    · show (if UInt16.ofNat pushed.count > _ then UInt16.ofNat pushed.count else _) ≤ _
      split
      case isTrue => exact small
      case isFalse => exact Eq.trans_le water conserved.bound

/-! ### Every run -/

/-- A message is filtered, which keeps the statistics balanced, or stored. -/
theorem logWrite_cases {log : FlightLog} (conserved : Conserved log)
    (initialized : log.initialized = true) (message : LogMessage) :
    (message.level < logMinLevel ∨ message.level < log.logLevel) ∧
        Conserved (logWrite log message) ∧ (logWrite log message).ring = log.ring ∨
      ¬ (message.level < logMinLevel ∨ message.level < log.logLevel) ∧
        logWrite log message = storeEntry
          { log with
            stats := { log.stats with totalLogs := log.stats.totalLogs + 1 } } message := by
  have filtered := conserved_filtered conserved
  rw [logWrite_initialized initialized]
  unfold filterMessage
  by_cases compiled : message.level < logMinLevel
  · simp only [if_pos compiled]
    exact Or.inl ⟨Or.inl compiled, filtered, trivial⟩
  · by_cases silent : message.level < log.logLevel
    · simp only [if_neg compiled, if_pos silent]
      exact Or.inl ⟨Or.inr silent, filtered, trivial⟩
    · simp only [if_neg compiled, if_neg silent]
      exact Or.inr ⟨not_or.mpr ⟨compiled, silent⟩, trivial⟩

theorem LogLevel.value_lt_off {level : LogLevel} (other : level ≠ .off) :
    level.value < LogLevel.off.value := by
  cases level with
  | off => exact absurd rfl other
  | _ => decide

/-- The level that turns logging off passes every filter. -/
theorem off_passes {log : FlightLog} (level : log.logLevel ≤ LogLevel.off.value) :
    ¬ (LogLevel.off.value < logMinLevel ∨ LogLevel.off.value < log.logLevel) := by
  rintro (compiled | silent)
  · exact absurd compiled (by decide)
  · exact UInt32.lt_irrefl _ (UInt32.lt_of_lt_of_le silent level)

/-- What every call preserves: the log is initialized, and its level is one of `LogLevel_t`. -/
structure Leveled (log : FlightLog) : Prop where
  initialized : log.initialized = true
  level : log.logLevel ≤ LogLevel.off.value

theorem levelStep_leveled {log : FlightLog} (leveled : Leveled log) (call : LevelCall) :
    Leveled (levelStep log call) := by
  obtain ⟨initialized, level⟩ := leveled
  cases call with
  | write messageLevel module formatted nowMs =>
    show Leveled (logWrite log _)
    rw [logWrite_initialized initialized, filterMessage]
    dsimp only
    split
    · exact ⟨initialized, level⟩
    · split <;> exact ⟨initialized, level⟩
  | setLevel newLevel =>
    show Leveled (logSetLevel log newLevel).1
    unfold logSetLevel
    split
    · exact ⟨initialized, level⟩
    · next inRange => exact ⟨initialized, UInt32.not_lt.mp inRange⟩
  | clear => exact ⟨initialized, level⟩

/-- A call keeps the statistics balanced exactly when it is no message with the level that turns
logging off. -/
theorem levelStep_conserved_iff {log : FlightLog} (conserved : Conserved log)
    (leveled : Leveled log) (call : LevelCall) :
    Conserved (levelStep log call) ↔ RealLevel log call := by
  cases call with
  | write level module formatted nowMs =>
    have stored := conserved_stored_iff conserved level module formatted nowMs
    rcases logWrite_cases conserved leveled.initialized ⟨level.value, module, formatted, nowMs⟩
      with ⟨filtered, kept, _⟩ | ⟨_, same⟩
    · refine iff_of_true kept fun off => ?_
      rw [off] at filtered
      exact off_passes leveled.level filtered
    · rw [← same] at stored
      exact stored
  | setLevel level =>
    refine iff_of_true ?_ trivial
    show Conserved (logSetLevel log level).1
    unfold logSetLevel
    split <;> exact ⟨conserved.balance, conserved.entries, conserved.highWater, conserved.bound⟩
  | clear =>
    exact iff_of_true
      ⟨conserved.balance, rfl, UInt16.le_iff_toNat_le.mpr (Nat.zero_le _), conserved.bound⟩ trivial

/-- While logging is off, a message of another level is filtered. -/
theorem silent_of_realLevel {log : FlightLog} (conserved : Conserved log) (leveled : Leveled log)
    (call : LevelCall) (real : RealLevel log call) : SilentWhileOff log call := by
  cases call with
  | write level module formatted nowMs =>
    intro off
    rcases logWrite_cases conserved leveled.initialized ⟨level.value, module, formatted, nowMs⟩
      with ⟨_, _, kept⟩ | ⟨passes, _⟩
    · exact kept
    · refine absurd (Or.inr ?_) passes
      exact off ▸ LogLevel.value_lt_off real
  | setLevel level => trivial
  | clear => trivial

/-! ### Every run -/

/-- In every run of messages of any level, changes of the level and clears after the
initialization, the statistics are balanced in every state and nothing is stored while logging is
off exactly when no message carries the level that turns logging off. -/
theorem statistics_conserved_iff (calls : List LevelCall) :
    Throughout levelStep Conserved logInit calls ∧
        EachStep levelStep SilentWhileOff logInit calls ↔
      EachStep levelStep RealLevel logInit calls := by
  have initial : Conserved logInit ∧ Leveled logInit :=
    ⟨⟨rfl, rfl, UInt16.le_refl _, by decide⟩, rfl, by decide⟩
  have exact : ∀ (log : FlightLog) (call : LevelCall), Conserved log ∧ Leveled log →
      (Conserved (levelStep log call) ↔ RealLevel log call) :=
    fun log call both => levelStep_conserved_iff both.1 both.2 call
  have preserved : ∀ (log : FlightLog) (call : LevelCall), Conserved log ∧ Leveled log →
      RealLevel log call → Conserved (levelStep log call) ∧ Leveled (levelStep log call) :=
    fun log call both real => ⟨(exact log call both).mpr real, levelStep_leveled both.2 call⟩
  have balanced : Throughout levelStep Conserved logInit calls ↔
      EachStep levelStep RealLevel logInit calls :=
    throughout_iff_eachStep (fun log both => both.1) exact preserved initial calls
  refine ⟨fun both => balanced.mp both.1, fun real => ⟨balanced.mpr real, ?_⟩⟩
  have kept := throughout_of_invariant preserved initial real
  have each : EachStep levelStep (fun log _ => Conserved log ∧ Leveled log) logInit calls :=
    kept.eachStep fun log call both => both
  exact (each.and real).mono fun log call met =>
    silent_of_realLevel met.1.1 met.1.2 call met.2

/-- Logging is turned off, and a message of the level that turns it off is stored. -/
theorem off_message_stored :
    let calls : List LevelCall := [.setLevel 6, .write .off none .noFormat 0]
    let log := finalState levelStep logInit calls
    log.logLevel = LogLevel.off.value ∧ logGetCount log = 1 ∧ log.stats.totalLogs = 1 ∧
      log.stats.accounted = 0 ∧
      ¬ (Throughout levelStep Conserved logInit calls ∧
        EachStep levelStep SilentWhileOff logInit calls) := by
  intro calls log
  have total : log.stats.totalLogs = 1 := by decide +kernel
  have accounted : log.stats.accounted = 0 := by decide +kernel
  refine ⟨by decide +kernel, by decide +kernel, total, accounted, fun both => ?_⟩
  have balance := both.1.finish.balance
  rw [total, accounted] at balance
  exact absurd balance (by decide)

end SmartQso
