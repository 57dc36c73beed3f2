/-
This file compares the two books of faults that the flight software keeps: the fault
log, which every module reports to, and the statistics of the mission data, which only
`mission_data_record_fault` writes. The statistics agree with the log exactly when what
was recorded, and not undone by a load, is as much as what was added, with the same
text at the end; nothing in the flight software records.
-/

import SmartQso.MissionData
import SmartQso.Runs
import Mathlib.Algebra.Group.Nat.Defs

namespace SmartQso

open Runs

/-! ### Runs -/

/-- The two books. -/
structure FaultBooks where
  mission : MissionData
  faults : FaultMgmt

/-- A call to one of the books, or a reset that initializes both. -/
inductive BookCall
  | logFault (faultType : FaultType) (severity : FaultSeverity) (description : String) (soc : ℚ)
      (now : UInt64)
  | recordFault (description : String)
  | setStart (startMs : UInt64)
  | updateUptime (uptimeMs : UInt64)
  | incrementReset (now : UInt64)
  | addEnergy (energyWh : ℚ)
  | setPhase (phase : UInt32)
  | saveMission
  | loadMission
  | saveLog
  | loadLog
  | clearLog
  | reset (now : UInt64)

/-- What the calls have asked for since the start of the mission: the texts of the faults added to
the log and of those recorded in the mission data, and of those recorded by the time of the save
that a load would bring back. -/
structure BookHistory where
  added : List String
  recorded : List String
  saved : Option (List String)

/-- The history at the start of a mission. -/
def BookHistory.start : BookHistory := ⟨[], [], none⟩

/-- What a call does to the history. A reset without a save starts the mission anew. -/
def bookHistory (history : BookHistory) : BookCall → BookHistory
  | .logFault _ _ description _ _ => { history with added := history.added ++ [description] }
  | .recordFault description => { history with recorded := history.recorded ++ [description] }
  | .saveMission => { history with saved := some history.recorded }
  | .loadMission => { history with recorded := history.saved.getD history.recorded }
  | .reset _ =>
    match history.saved with
    | none => BookHistory.start
    | some recorded => { history with recorded := recorded }
  | _ => history

section

variable [CLayout FaultRecord] [CLayout MissionRecord]

def bookCall (books : FaultBooks) : BookCall → FaultBooks
  | .logFault faultType severity description soc now =>
    { books with faults := faultLogAdd books.faults faultType severity description soc now }
  | .recordFault description =>
    { books with mission := missionDataRecordFault books.mission description }
  | .setStart startMs => { books with mission := missionDataSetStart books.mission startMs }
  | .updateUptime uptimeMs =>
    { books with mission := missionDataUpdateUptime books.mission uptimeMs }
  | .incrementReset now => { books with mission := missionDataIncrementReset books.mission now }
  | .addEnergy energyWh => { books with mission := missionDataAddEnergy books.mission energyWh }
  | .setPhase phase => { books with mission := missionDataSetPhase books.mission phase }
  | .saveMission => { books with mission := missionDataSave books.mission }
  | .loadMission => { books with mission := (missionDataLoad books.mission).getD books.mission }
  | .saveLog => { books with faults := faultLogSave books.faults }
  | .loadLog => { books with faults := (faultLogLoad books.faults).1 }
  | .clearLog => { books with faults := faultLogClear books.faults }
  | .reset now =>
    { mission := missionDataInit (MissionData.boot books.mission.file) now
      faults := faultMgmtInit books.faults }

/-- The statistics are those of the faults recorded. -/
structure Recorded (record : MissionRecord) (recorded : List String) : Prop where
  count : record.faultCount = UInt32.ofNat recorded.length
  last : ∀ latest ∈ recorded.getLast?, record.lastFault = copyDescription latest

omit [CLayout FaultRecord] in
/-- No load accepts the file. -/
def FileRefused (file : Option (Sealed MissionRecord)) : Prop :=
  ∀ stored ∈ file, stored.verifies = false

/-- The file gives back the statistics of the faults recorded by the time of the save. -/
def FileRecorded (file : Option (Sealed MissionRecord)) : Option (List String) → Prop
  | none => FileRefused file
  | some recorded =>
    ∃ stored, file = some stored ∧ stored.verifies = true ∧ Recorded stored.record recorded

/-- The mission data and its file are those of the history. -/
structure Booked (mission : MissionData) (history : BookHistory) : Prop where
  data : Recorded mission.data.record history.recorded
  file : FileRecorded mission.file history.saved

/-- The statistics of the mission data are those of the faults added to the log. -/
def StatisticsAgree (mission : MissionData) (added : List String) : Prop :=
  mission.data.record.faultCount.toNat = added.length ∧
    ∀ latest ∈ added.getLast?, mission.data.record.lastFault = copyDescription latest

/-- As many faults are recorded as are added, as far as the counter reaches, and the last one has
the same text in the record. -/
def BookHistory.Balanced (history : BookHistory) : Prop :=
  history.recorded.length % 2 ^ 32 = history.added.length ∧
    ∀ latest ∈ history.added.getLast?,
      history.recorded.getLast?.map copyDescription = some (copyDescription latest)

/-! ### Every call -/

omit [CLayout FaultRecord] [CLayout MissionRecord] in
theorem Recorded.defaults (now : UInt64) : Recorded (missionDefaults now) [] :=
  ⟨rfl, fun _ absent => absurd absent (Option.not_mem_none _)⟩

omit [CLayout FaultRecord] in
theorem missionDataLoad_refused {mission : MissionData} (refused : FileRefused mission.file) :
    missionDataLoad mission = none := by
  unfold missionDataLoad
  cases stored : mission.file with
  | none => rfl
  | some loaded => exact if_neg (Bool.eq_false_iff.mp (refused loaded stored))

omit [CLayout FaultRecord] in
theorem missionDataLoad_accepted {mission : MissionData} {stored : Sealed MissionRecord}
    (file : mission.file = some stored) (verified : stored.verifies = true) :
    missionDataLoad mission = some { mission with data := stored } := by
  rw [missionDataLoad, file]
  exact if_pos verified

omit [CLayout FaultRecord] in
/-- An initialization over a file that no load accepts starts a mission. -/
theorem booked_start {mission : MissionData} (refused : FileRefused mission.file) (now : UInt64) :
    Booked (missionDataInit mission now) BookHistory.start := by
  rw [missionDataInit, missionDataLoad_refused refused]
  exact ⟨Recorded.defaults now, refused⟩

omit [CLayout FaultRecord] [CLayout MissionRecord] in
theorem Recorded.record {record : MissionRecord} {recorded : List String}
    (before : Recorded record recorded) (description : String) :
    Recorded
      { record with
        faultCount := record.faultCount + 1
        lastFault := copyDescription description } (recorded ++ [description]) := by
  refine ⟨?_, fun latest member => ?_⟩
  · rw [List.length_append, List.length_singleton, UInt32.ofNat_add, ← before.count]
    rfl
  · rw [List.getLast?_concat] at member
    obtain rfl := Option.some.inj member
    rfl

/-- What a call does to the mission data is what it does to the history. -/
theorem booked_call {books : FaultBooks} {history : BookHistory}
    (booked : Booked books.mission history) (call : BookCall) :
    Booked (bookCall books call).mission (bookHistory history call) := by
  obtain ⟨data, file⟩ := booked
  cases call with
  | recordFault description => exact ⟨data.record description, file⟩
  | saveMission => exact ⟨data, _, rfl, Sealed.updateCrc_verifies _, data⟩
  | loadMission =>
    unfold bookCall bookHistory
    dsimp only
    cases saved : history.saved with
    | none =>
      rw [saved] at file
      rw [missionDataLoad_refused file]
      exact ⟨data, saved ▸ file⟩
    | some recorded =>
      rw [saved] at file
      obtain ⟨stored, there, verified, matching⟩ := file
      rw [missionDataLoad_accepted there verified]
      exact ⟨matching, stored, there, verified, matching⟩
  | reset now =>
    unfold bookCall bookHistory
    dsimp only
    cases saved : history.saved with
    | none =>
      rw [saved] at file
      exact @booked_start _ (MissionData.boot books.mission.file) file now
    | some recorded =>
      rw [saved] at file
      obtain ⟨stored, there, verified, matching⟩ := file
      have loads : missionDataLoad (MissionData.boot books.mission.file) = _ :=
        missionDataLoad_accepted there verified
      rw [missionDataInit, loads]
      exact ⟨⟨matching.count, matching.last⟩, stored, there, verified, matching⟩
  | _ => exact ⟨⟨data.count, data.last⟩, file⟩

/-! ### Every run -/

omit [CLayout FaultRecord] in
/-- The statistics that follow the records agree with the log exactly when the history is
balanced. -/
theorem Booked.agree_iff {mission : MissionData} {history : BookHistory}
    (booked : Booked mission history) :
    StatisticsAgree mission history.added ↔ history.Balanced := by
  have count : mission.data.record.faultCount.toNat = history.recorded.length % 2 ^ 32 := by
    rw [booked.data.count, UInt32.toNat_ofNat']
  unfold StatisticsAgree BookHistory.Balanced
  rw [count]
  refine and_congr_right fun balanced => forall_congr' fun latest => imp_congr_right fun added => ?_
  -- A fault has been added, so one has been recorded.
  cases recorded : history.recorded.getLast? with
  | none =>
    rw [List.getLast?_eq_none_iff.mp recorded] at balanced
    have nothing : history.added = [] := List.length_eq_zero_iff.mp balanced.symm
    rw [nothing] at added
    exact absurd added (Option.not_mem_none _)
  | some last =>
    rw [booked.data.last last recorded, Option.map_some, Option.some_inj]

/-- In every run of calls to the two books, from the initialization of fresh mission data, the
statistics are those of the faults added to the log since the start of the mission exactly when as
many are recorded, and the last one with the same text. -/
theorem fault_statistics_agree_iff (mission : MissionData) (fresh : FileRefused mission.file)
    (faults : FaultMgmt) (now : UInt64) (calls : List BookCall) :
    let reached := finalState bookCall ⟨missionDataInit mission now, faults⟩ calls
    let history := finalState bookHistory BookHistory.start calls
    StatisticsAgree reached.mission history.added ↔ history.Balanced := by
  intro reached history
  have booked : Booked reached.mission history :=
    finalState_related (fun (books : FaultBooks) history => Booked books.mission history)
      (fun books history call booked => booked_call booked call) (booked_start fresh now) calls
  exact booked.agree_iff

end

/-- A fault that is recorded as it is logged, over mission data that has never been saved. -/
theorem fault_statistics_agree_recorded :
    letI := CLayout.blank FaultRecord
    letI := CLayout.blank MissionRecord
    let calls : List BookCall := [.logFault .uart .error "UART" 1 1, .recordFault "UART"]
    let reached := finalState bookCall
      ⟨missionDataInit (MissionData.boot none) 0, FaultMgmt.boot⟩ calls
    let history := finalState bookHistory BookHistory.start calls
    StatisticsAgree reached.mission history.added :=
  let := CLayout.blank FaultRecord
  let := CLayout.blank MissionRecord
  (fault_statistics_agree_iff (MissionData.boot none)
    (fun _ absent => absurd absent (Option.not_mem_none _)) FaultMgmt.boot 0
    [.logFault .uart .error "UART" 1 1, .recordFault "UART"]).mpr
    ⟨rfl, fun _ member => congrArg (fun last => last.map copyDescription) member⟩

/-- One fault is added to the log, and the statistics know of none. -/
theorem fault_not_in_statistics :
    letI := CLayout.blank FaultRecord
    letI := CLayout.blank MissionRecord
    let calls : List BookCall := [.logFault .uart .error "UART open failed" 1 1]
    let reached := finalState bookCall
      ⟨missionDataInit (MissionData.boot none) 0, FaultMgmt.boot⟩ calls
    let history := finalState bookHistory BookHistory.start calls
    history.added = ["UART open failed"] ∧ reached.faults.log.entries.length = 1 ∧
      reached.mission.data.record.faultCount = 0 ∧
      reached.mission.data.record.lastFault = "System startup" ∧
      ¬ StatisticsAgree reached.mission history.added := by
  let := CLayout.blank FaultRecord
  let := CLayout.blank MissionRecord
  intro calls reached history
  have none : reached.mission.data.record.faultCount = 0 := by decide +kernel
  refine ⟨by decide +kernel, by decide +kernel, none, by decide +kernel, fun agree => ?_⟩
  have count := agree.1
  rw [none] at count
  exact absurd count (by decide +kernel)

end SmartQso
