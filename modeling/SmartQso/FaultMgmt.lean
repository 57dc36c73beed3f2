/-
This file models the fault log of `fault_mgmt.c`: a bounded log of sealed entries,
the file it is saved to after every change, and the watchdog flag. File operations
on the log succeed. The recovery actions of the same source file switch loads and
are modelled beside the EPS.
-/

import SmartQso.Crc32
import SmartQso.Newest
import SmartQso.Types

namespace SmartQso

open BoundedHistory

/-- `FaultLogEntry_t` without its checksum. -/
structure FaultRecord where
  timestampMs : UInt64
  faultType : UInt8
  severity : UInt8
  description : String
  socAtFault : ℚ
  recovered : Bool
  deriving DecidableEq

/-- `FaultLogEntry_t`. -/
abbrev FaultLogEntry := Sealed FaultRecord

/-- `s_fault_log` up to `s_fault_log_count`. The array has room for
`SMART_QSO_MAX_FAULT_ENTRIES` entries. -/
structure FaultLog where
  entries : List FaultLogEntry
  fits : entries.length ≤ smartQsoMaxFaultEntries

/-- The statics of `fault_mgmt.c`, with the contents of `FAULT_LOG_FILE`. -/
structure FaultMgmt where
  log : FaultLog
  file : Option (List FaultLogEntry)
  watchdogTriggered : Bool

/-- The entries left once there is room for another one: a full log loses its oldest entry. -/
def FaultLog.makeRoom (log : FaultLog) : List FaultLogEntry :=
  if log.entries.length ≥ smartQsoMaxFaultEntries then log.entries.drop 1 else log.entries

theorem FaultLog.length_makeRoom (log : FaultLog) :
    log.makeRoom.length < smartQsoMaxFaultEntries := by
  have fits := log.fits
  unfold makeRoom
  split
  · rw [List.length_drop]
    simp only [smartQsoMaxFaultEntries] at *
    omega
  · omega

/-- Append an entry, after making room for it. -/
def FaultLog.add (log : FaultLog) (entry : FaultLogEntry) : FaultLog where
  entries := log.makeRoom ++ [entry]
  fits := by
    rw [List.length_append, List.length_singleton]
    exact log.length_makeRoom

/-- The log without any entry. -/
def FaultLog.empty : FaultLog := ⟨[], Nat.zero_le _⟩

/-- The statics at a boot that finds no `FAULT_LOG_FILE`. -/
def FaultMgmt.boot : FaultMgmt := ⟨FaultLog.empty, none, false⟩

/-- Adding keeps the newest entries of what was there and what is added. -/
theorem FaultLog.add_entries (log : FaultLog) (entry : FaultLogEntry) :
    (log.add entry).entries = newest smartQsoMaxFaultEntries (log.entries ++ [entry]) := by
  have fits := log.fits
  show log.makeRoom ++ [entry] = _
  unfold makeRoom
  by_cases full : log.entries.length ≥ smartQsoMaxFaultEntries
  · rw [if_pos full, newest_concat_of_full entry (le_antisymm fits full) (by decide)]
  · rw [if_neg full, newest_of_length_le]
    rw [List.length_append, List.length_singleton]
    omega

/-- `strncpy` into `char description[SMART_QSO_FAULT_DESC_LEN]`, always terminated. -/
def copyDescription (description : String) : String :=
  String.ofList (description.toList.take (smartQsoFaultDescLen - 1))

/-! ### Growing logs -/

/-- The entries a log holds after some were appended to it, whatever they are. -/
def Extends (before after : FaultMgmt) : Prop :=
  ∃ added : List FaultLogEntry,
    after.log.entries = newest smartQsoMaxFaultEntries (before.log.entries ++ added)

theorem Extends.refl (faults : FaultMgmt) : Extends faults faults :=
  ⟨[], by rw [List.append_nil, newest_of_length_le faults.log.fits]⟩

theorem Extends.trans {first second third : FaultMgmt} (earlier : Extends first second)
    (later : Extends second third) : Extends first third := by
  obtain ⟨addedFirst, firstEntries⟩ := earlier
  obtain ⟨addedSecond, secondEntries⟩ := later
  refine ⟨addedFirst ++ addedSecond, ?_⟩
  rw [secondEntries, firstEntries, newest_append_newest, List.append_assoc]

/-! ### The operations -/

/-- `fault_log_get_last`; none stands for `SMART_QSO_ERROR`. -/
def faultLogGetLast (faults : FaultMgmt) : Option FaultLogEntry := faults.log.entries.getLast?

section

variable [CLayout FaultRecord]

/-- `fault_log_save`. -/
def faultLogSave (faults : FaultMgmt) : FaultMgmt :=
  { faults with file := some faults.log.entries }

/-- `fault_log_add`, which always answers `SMART_QSO_OK`. -/
def faultLogAdd (faults : FaultMgmt) (faultType : FaultType) (severity : FaultSeverity)
    (description : String) (soc : ℚ) (now : UInt64) : FaultMgmt :=
  let record : FaultRecord :=
    { timestampMs := now
      faultType := faultType.code
      severity := severity.code
      description := copyDescription description
      socAtFault := soc
      recovered := false }
  let entry : FaultLogEntry := ⟨record, recordCrc record⟩
  faultLogSave { faults with log := faults.log.add entry }

/-- An entry with its `recovered` member set and its checksum recomputed. -/
def markEntry (entry : FaultLogEntry) : FaultLogEntry :=
  { entry with record := { entry.record with recovered := true } }.updateCrc

/-- `fault_log_mark_recovered` of an index in range. -/
def faultLogMarkRecovered (faults : FaultMgmt) (index : Fin faults.log.entries.length) :
    FaultMgmt :=
  let marked : FaultLog :=
    { entries := faults.log.entries.modify index markEntry
      fits := by
        rw [List.length_modify]
        exact faults.log.fits }
  faultLogSave { faults with log := marked }

/-- The entries `fault_log_load` keeps of a file: of those there is room for, the ones whose
checksum is right. -/
def FaultLog.ofFile (stored : List FaultLogEntry) : FaultLog where
  entries := (stored.take smartQsoMaxFaultEntries).filter Sealed.verifies
  fits := (List.length_filter_le _ _).trans (List.length_take_le _ _)

/-- `fault_log_load`. -/
def faultLogLoad (faults : FaultMgmt) : FaultMgmt × SmartQsoResult :=
  match faults.file with
  | none => (faults, .errorIo)
  | some stored => ({ faults with log := FaultLog.ofFile stored }, .ok)

/-- `FaultMgmt` before `fault_mgmt_init` has run. -/
def FaultMgmt.unloaded (file : Option (List FaultLogEntry)) : FaultMgmt :=
  ⟨FaultLog.empty, file, false⟩

/-- `fault_mgmt_init`, which always answers `SMART_QSO_OK`. -/
def faultMgmtInit (faults : FaultMgmt) : FaultMgmt :=
  (faultLogLoad { faults with log := FaultLog.empty, watchdogTriggered := false }).1

/-- `fault_log_clear`, which also removes the file. -/
def faultLogClear (faults : FaultMgmt) : FaultMgmt :=
  { faults with log := FaultLog.empty, file := none }

/-- `fault_handle_watchdog`. -/
def faultHandleWatchdog (faults : FaultMgmt) (soc : ℚ) (now : UInt64) : FaultMgmt :=
  { faultLogAdd faults .watchdog .error "Watchdog timeout: system reset" soc now with
    watchdogTriggered := true }

theorem faultLogAdd_extends (faults : FaultMgmt) (faultType : FaultType)
    (severity : FaultSeverity) (description : String) (soc : ℚ) (now : UInt64) :
    Extends faults (faultLogAdd faults faultType severity description soc now) :=
  ⟨_, FaultLog.add_entries _ _⟩

end

end SmartQso
