/-
This file proves what the fault log promises a reader after any number of reboots. The
history holds every record entered since the last clear, marked as recovered where it
was marked. The log holds the newest hundred of them, each sealed with its checksum,
and the file gives the same entries back, so a reboot changes neither.
-/

import SmartQso.FaultMgmt
import SmartQso.Runs

namespace SmartQso

open BoundedHistory Runs

variable [CLayout FaultRecord]

/-! ### Calls -/

/-- A call to the fault log, or a reboot. -/
inductive FaultCall
  | add (faultType : FaultType) (severity : FaultSeverity) (description : String) (soc : ℚ)
      (now : UInt64)
  | markRecovered (index : Nat)
  | clear
  | init

/-- A call to the log. An index out of range is not a call the log allows, and is passed over. -/
def faultStep (faults : FaultMgmt) : FaultCall → FaultMgmt
  | .add faultType severity description soc now =>
    faultLogAdd faults faultType severity description soc now
  | .markRecovered index =>
    if inRange : index < faults.log.entries.length then
      faultLogMarkRecovered faults ⟨index, inRange⟩
    else faults
  | .clear => faultLogClear faults
  | .init => faultMgmtInit faults

/-- The record of an added fault. -/
def addedRecord (faultType : FaultType) (severity : FaultSeverity) (description : String)
    (soc : ℚ) (now : UInt64) : FaultRecord where
  timestampMs := now
  faultType := faultType.code
  severity := severity.code
  description := copyDescription description
  socAtFault := soc
  recovered := false

/-- What a call does to the history. The indices of the log count from the oldest of the newest
hundred records. -/
def historyStep (history : List FaultRecord) : FaultCall → List FaultRecord
  | .add faultType severity description soc now =>
    history ++ [addedRecord faultType severity description soc now]
  | .markRecovered index =>
    history.modify (history.length - 100 + index) fun record => { record with recovered := true }
  | .clear => []
  | .init => history

/-! ### The invariant -/

/-- The log holds the newest records of the history with their checksums, and the file the same,
unless there is nothing to hold. -/
structure Durable (faults : FaultMgmt) (history : List FaultRecord) : Prop where
  entries : faults.log.entries = (newest smartQsoMaxFaultEntries history).map Sealed.seal
  file : faults.file = some faults.log.entries ∨ faults.file = none ∧ faults.log.entries = []

theorem durable_boot : Durable FaultMgmt.boot [] := ⟨rfl, Or.inr ⟨rfl, rfl⟩⟩

theorem Durable.verifies {faults : FaultMgmt} {history : List FaultRecord}
    (durable : Durable faults history) :
    ∀ entry ∈ faults.log.entries, entry.verifies = true := by
  rw [durable.entries]
  intro entry member
  obtain ⟨record, _, rfl⟩ := List.mem_map.mp member
  exact Sealed.seal_verifies record

/-- A file that holds a log with right checksums gives it back. -/
theorem ofFile_entries {log : FaultLog}
    (verifies : ∀ entry ∈ log.entries, entry.verifies = true) :
    (FaultLog.ofFile log.entries).entries = log.entries := by
  show (log.entries.take smartQsoMaxFaultEntries).filter Sealed.verifies = log.entries
  rw [List.take_of_length_le log.fits, List.filter_eq_self.mpr verifies]

/-- A reboot restores the log. -/
theorem Durable.init_entries {faults : FaultMgmt} {history : List FaultRecord}
    (durable : Durable faults history) :
    (faultMgmtInit faults).log.entries = faults.log.entries := by
  unfold faultMgmtInit faultLogLoad
  rcases durable.file with saved | ⟨missing, empty⟩
  · simp only [saved]
    exact ofFile_entries durable.verifies
  · simp only [missing, empty]
    rfl

theorem faultMgmtInit_file (faults : FaultMgmt) : (faultMgmtInit faults).file = faults.file := by
  unfold faultMgmtInit faultLogLoad
  cases faults.file <;> rfl

/-- Marking an entry marks its record and seals it again. -/
theorem markEntry_seal (record : FaultRecord) :
    markEntry (Sealed.seal record) = Sealed.seal { record with recovered := true } := rfl

theorem modify_map_seal (records : List FaultRecord) (index : Nat) :
    (records.map Sealed.seal).modify index markEntry =
      (records.modify index fun record => { record with recovered := true }).map Sealed.seal := by
  induction records generalizing index with
  | nil => rw [List.map_nil, List.modify_nil, List.modify_nil, List.map_nil]
  | cons record rest inductionHypothesis =>
    cases index with
    | zero => exact congrArg (· :: rest.map Sealed.seal) (markEntry_seal record)
    | succ index =>
      rw [List.map_cons, List.modify_succ_cons, List.modify_succ_cons, List.map_cons,
        inductionHypothesis]

/-- Every call keeps the log durable. -/
theorem durable_step {faults : FaultMgmt} {history : List FaultRecord}
    (durable : Durable faults history) (call : FaultCall) :
    Durable (faultStep faults call) (historyStep history call) := by
  cases call with
  | add faultType severity description soc now =>
    refine ⟨?_, Or.inl rfl⟩
    have added : (faultStep faults (.add faultType severity description soc now)).log.entries =
        newest smartQsoMaxFaultEntries (faults.log.entries ++
          [Sealed.seal (addedRecord faultType severity description soc now)]) :=
      FaultLog.add_entries _ _
    rw [added, durable.entries, ← newest_map, newest_append_newest, historyStep, ← newest_map,
      List.map_append, List.map_singleton]
  | markRecovered index =>
    rw [faultStep]
    by_cases inRange : index < faults.log.entries.length
    · rw [dif_pos inRange]
      refine ⟨?_, Or.inl rfl⟩
      show faults.log.entries.modify index markEntry = _
      rw [durable.entries, modify_map_seal, historyStep]
      exact congrArg (List.map Sealed.seal) (newest_modify _ _ _ _).symm
    · rw [dif_neg inRange]
      -- a position behind the newest records is a position behind the history
      have outside : history.length ≤ history.length - 100 + index := by
        rw [durable.entries, List.length_map, length_newest] at inRange
        simp only [smartQsoMaxFaultEntries] at inRange
        omega
      rw [historyStep, List.modify_eq_self outside]
      exact durable
  | clear => exact ⟨rfl, Or.inr ⟨rfl, rfl⟩⟩
  | init =>
    refine ⟨durable.init_entries.trans durable.entries, ?_⟩
    rw [faultStep, faultMgmtInit_file, durable.init_entries]
    exact durable.file

theorem durable_run {faults : FaultMgmt} {history : List FaultRecord}
    (durable : Durable faults history) (calls : List FaultCall) :
    Durable (finalState faultStep faults calls) (finalState historyStep history calls) :=
  finalState_related Durable (fun _ _ call kept => durable_step kept call) durable calls

/-- After any calls and reboots, starting without a file, the log holds the newest hundred records
entered since the last clear, marked as they were marked; every checksum is right; and a reboot
that finds nothing but the file restores the same entries. -/
theorem faultLog_durable (calls : List FaultCall) :
    let faults := finalState faultStep FaultMgmt.boot calls
    let history := finalState historyStep [] calls
    faults.log.entries.map Sealed.record = newest 100 history ∧
      (∀ entry ∈ faults.log.entries, entry.verifies = true) ∧
      (faultMgmtInit (FaultMgmt.unloaded faults.file)).log.entries = faults.log.entries := by
  have durable := durable_run durable_boot calls
  refine ⟨?_, durable.verifies, durable.init_entries⟩
  rw [durable.entries, List.map_map]
  exact List.map_id _

end SmartQso
