/-
This file settles how failed assertions are put together in the log. A failure is looked
up by the whole name of its file, but a record holds only what fits into its array, so a
name that fills the array is found in no record. A run keeps the locations that have
failed beside the log; while they all have their record, the records count them.
-/

import Mathlib.Data.Finset.Card
import Mathlib.Data.List.Count
import SmartQso.AssertHandler
import SmartQso.Runs

namespace SmartQso

open BoundedHistory CStrings RingBuffer Runs

/-! ### The log as a ring -/

theorem AssertLog.startIdx_of_room {log : AssertLog} (room : log.logCount < assertMaxFailureLog) :
    log.startIdx = 0 := if_neg (Nat.not_le.mpr room)

theorem AssertLog.startIdx_of_full {log : AssertLog}
    (full : ¬ log.logCount < assertMaxFailureLog) : log.startIdx = log.logIndex :=
  if_pos (Nat.not_lt.mp full)

/-- The log as a ring of records. -/
def AssertLog.view (log : AssertLog) : Ring AssertRecord assertMaxFailureLog where
  cells := log.records
  writeIndex := log.logIndex
  readIndex := log.startIdx
  count := log.logCount
  readBound := by
    unfold startIdx
    split
    · exact log.indexBound
    · decide
  countBound := log.countBound
  aligned := by
    by_cases room : log.logCount < assertMaxFailureLog
    · rw [startIdx_of_room room, Nat.zero_add, Nat.mod_eq_of_lt room, log.aligned room]
    · rw [startIdx_of_full room, Nat.le_antisymm log.countBound (Nat.not_lt.mp room),
        Nat.add_mod_right, Nat.mod_eq_of_lt log.indexBound]

/-- The records in use, from the oldest to the newest one. -/
def AssertLog.contents (log : AssertLog) : List AssertRecord := log.view.contents

/-- The oldest record stays where it is until the log is full, and is then the one behind the one
that is overwritten. -/
theorem AssertLog.startIdx_store (log : AssertLog) (record : AssertRecord) :
    (log.store record).startIdx =
      if log.logCount < assertMaxFailureLog then log.startIdx
      else advance assertMaxFailureLog log.startIdx := by
  by_cases room : log.logCount < assertMaxFailureLog
  · have count : (log.store record).logCount = log.logCount + 1 := if_pos room
    rw [if_pos room, startIdx_of_room room]
    by_cases stillRoom : (log.store record).logCount < assertMaxFailureLog
    · exact startIdx_of_room stillRoom
    · rw [startIdx_of_full stillRoom]
      rw [count, Nat.not_lt] at stillRoom
      have last : advance assertMaxFailureLog log.logCount = 0 := if_pos stillRoom
      rw [← log.aligned room] at last
      exact last
  · have count : (log.store record).logCount = log.logCount := if_neg room
    rw [if_neg room, startIdx_of_full room]
    exact startIdx_of_full (count ▸ room)

/-- A store is a push. -/
theorem AssertLog.view_store (log : AssertLog) (record : AssertRecord) :
    (log.store record).view = log.view.push record := by
  have same : ∀ {first second : Ring AssertRecord assertMaxFailureLog},
      first.cells = second.cells → first.writeIndex = second.writeIndex →
      first.readIndex = second.readIndex → first.count = second.count → first = second := by
    rintro ⟨_, _, _, _, _, _, _⟩ ⟨_, _, _, _, _, _, _⟩ ⟨⟩ ⟨⟩ ⟨⟩ ⟨⟩
    rfl
  exact same rfl rfl (log.startIdx_store record) rfl

theorem AssertLog.contents_store (log : AssertLog) (record : AssertRecord) :
    (log.store record).contents = newest assertMaxFailureLog (log.contents ++ [record]) := by
  unfold contents
  rw [view_store, Ring.contents_push]

theorem AssertLog.length_contents (log : AssertLog) : log.contents.length = log.logCount :=
  Ring.length_contents log.view

theorem AssertLog.getElem_contents (log : AssertLog) {offset : Nat}
    (inside : offset < log.contents.length) :
    log.contents[offset] = log.records.get (log.view.slot offset) :=
  Ring.getElem_contents log.view inside

theorem AssertLog.contents_change (log : AssertLog) (edit : AssertRecord → AssertRecord)
    {offset : Nat} (inside : offset < log.logCount) :
    (log.change (log.view.slot offset) edit).contents = log.contents.modify offset edit :=
  Ring.contents_change log.view edit inside

/-- The slots below the count are those in use. -/
theorem AssertLog.exists_slot_iff (log : AssertLog) (i : Fin assertMaxFailureLog) :
    (∃ offset, offset < log.logCount ∧ log.view.slot offset = i) ↔ i.val < log.logCount := by
  have index := log.indexBound
  have count := log.countBound
  have bound := i.isLt
  simp only [Fin.ext_iff, Ring.slot, view]
  by_cases room : log.logCount < assertMaxFailureLog
  · rw [startIdx_of_room room]
    constructor
    · rintro ⟨offset, inside, here⟩
      rw [← here, Nat.zero_add, Nat.mod_eq_of_lt (inside.trans room)]
      exact inside
    · intro inside
      exact ⟨i.val, inside, by rw [Nat.zero_add, Nat.mod_eq_of_lt bound]⟩
  · rw [startIdx_of_full room]
    unfold assertMaxFailureLog at *
    exact iff_of_true ⟨(i.val + 16 - log.logIndex) % 16, by omega, by omega⟩ (by omega)

theorem assertGetLog_eq (handler : AssertHandler) (maxEntries : UInt16) :
    assertGetLog handler maxEntries = handler.log.contents.take maxEntries.toNat := by
  unfold assertGetLog AssertLog.contents Ring.contents
  rw [← List.map_take, List.take_range, Nat.min_comm]
  rfl

/-! ### Locations -/

/-- A file name and a line, as a record holds them. -/
structure AssertLocation where
  filename : TextArray assertMaxFilenameLen
  line : UInt16
  deriving DecidableEq

/-- The location of a record. -/
def AssertRecord.location (record : AssertRecord) : AssertLocation := ⟨record.filename, record.line⟩

/-- The location that a failure is recorded under. -/
def AssertFailure.location (failure : AssertFailure) : AssertLocation :=
  (firstRecord (extractFilename failure.file) failure).location

/-- The name of the file fits into a record. -/
def AssertFailure.Fits (failure : AssertFailure) : Prop :=
  (extractFilename failure.file).characters.length < assertMaxFilenameLen

instance (failure : AssertFailure) : Decidable failure.Fits := inferInstanceAs (Decidable (_ < _))

theorem AssertFailure.location_characters {failure : AssertFailure} (fits : failure.Fits) :
    failure.location.filename.characters = (extractFilename failure.file).characters := by
  have copied : failure.location.filename =
      ((extractFilename failure.file).take assertMaxFilenameLen).copy assertMaxFilenameLen
        (by decide) := rfl
  have whole : ((extractFilename failure.file).take assertMaxFilenameLen).characters =
      (extractFilename failure.file).characters := List.take_of_length_le (Nat.le_of_lt fits)
  rw [copied, Text.copy_characters_of_lt _ _ (by rw [whole]; exact fits), whole]

/-- A failure is found in the records of its location, if the name of the file fits, and in none
otherwise. -/
theorem isOf_iff (record : AssertRecord) (failure : AssertFailure) :
    record.isOf (extractFilename failure.file) failure.line = true ↔
      failure.Fits ∧ record.location = failure.location := by
  unfold AssertRecord.isOf safeStrncmp
  rw [Bool.and_eq_true, beq_iff_eq, beq_iff_eq, TextArray.compareUpTo_eq_iff]
  constructor
  · rintro ⟨line, characters⟩
    have fits : failure.Fits := by
      unfold AssertFailure.Fits
      rw [← characters]
      exact record.filename.fits
    refine ⟨fits, ?_⟩
    have filename : record.filename = failure.location.filename :=
      TextArray.eq_of_characters
        (characters.trans (AssertFailure.location_characters fits).symm)
    unfold AssertRecord.location
    rw [filename, line]
    rfl
  · rintro ⟨fits, location⟩
    have filename := congrArg (fun location => location.filename.characters) location
    exact ⟨congrArg AssertLocation.line location,
      filename.trans (AssertFailure.location_characters fits)⟩

/-! ### One failure -/

/-- A failure is looked up among the records in use. -/
theorem AssertLog.existing_cases (log : AssertLog) (filename : Text) (line : UInt16) :
    (log.existing filename line = none ∧
      ∀ record ∈ log.contents, record.isOf filename line = false) ∨
    ∃ offset, ∃ inside : offset < log.contents.length,
      log.existing filename line = some (log.view.slot offset) ∧
        (log.contents[offset]).isOf filename line = true := by
  cases search : log.existing filename line with
  | none =>
    refine Or.inl ⟨rfl, fun record member => ?_⟩
    obtain ⟨offset, inside, rfl⟩ := List.getElem_of_mem member
    have below : offset < log.logCount := log.length_contents ▸ inside
    have used := (log.exists_slot_iff (log.view.slot offset)).mp ⟨offset, below, rfl⟩
    have missed := List.find?_eq_none.mp search _ (List.mem_finRange (log.view.slot offset))
    rw [decide_eq_true used, Bool.true_and] at missed
    rw [getElem_contents]
    exact eq_false_of_ne_true missed
  | some i =>
    have hit := List.find?_some search
    rw [Bool.and_eq_true, decide_eq_true_eq] at hit
    obtain ⟨offset, inside, rfl⟩ := (log.exists_slot_iff i).mpr hit.1
    refine Or.inr ⟨offset, by rw [length_contents]; exact inside, rfl, ?_⟩
    rw [getElem_contents]
    exact hit.2

/-- A failure that is found is counted in its record, and any other one has a record appended. -/
theorem logFailure_cases (log : AssertLog) (overflows : UInt16) (failure : AssertFailure) :
    (failure.Fits ∧ ∃ offset, ∃ inside : offset < log.contents.length,
      (log.contents[offset]).location = failure.location ∧
        (logFailure log overflows failure).1.contents =
          log.contents.modify offset fun record => record.recur failure.uptimeS) ∨
    ((failure.Fits → ∀ record ∈ log.contents, record.location ≠ failure.location) ∧
      (logFailure log overflows failure).1.contents =
        newest assertMaxFailureLog
          (log.contents ++ [firstRecord (extractFilename failure.file) failure])) := by
  unfold logFailure
  dsimp only
  rcases log.existing_cases (extractFilename failure.file) failure.line with
    ⟨search, missed⟩ | ⟨offset, inside, search, hit⟩
  · refine Or.inr ⟨fun fits record member same => ?_, ?_⟩
    · exact Bool.false_ne_true
        ((missed record member).symm.trans ((isOf_iff record failure).mpr ⟨fits, same⟩))
    · rw [search]
      exact log.contents_store _
  · obtain ⟨fits, same⟩ := (isOf_iff _ failure).mp hit
    refine Or.inl ⟨fits, offset, inside, same, ?_⟩
    rw [search]
    exact log.contents_change _ (log.length_contents ▸ inside)

/-! ### Records and the locations that have failed -/

/-- The records have pairwise different locations, and while there are fewer than sixteen locations
they count the failures. -/
structure Collected (records : List AssertRecord) (failed : List AssertLocation) : Prop where
  unique : (records.map AssertRecord.location).Nodup
  counted : failed.toFinset.card < assertMaxFailureLog → ∀ record ∈ records,
    record.occurrenceCount.toNat = failed.count record.location

/-- The locations of the records have failed, and while there are fewer than sixteen locations all
of them have a record. -/
structure Covered (records : List AssertRecord) (failed : List AssertLocation) : Prop where
  known : ∀ record ∈ records, record.location ∈ failed
  complete : failed.toFinset.card < assertMaxFailureLog → ∀ location ∈ failed,
    location ∈ records.map AssertRecord.location

section

variable {records : List AssertRecord} {failed : List AssertLocation}

theorem Collected.length_le (collected : Collected records failed)
    (covered : Covered records failed) : records.length ≤ failed.toFinset.card := by
  rw [← List.length_map AssertRecord.location, ← List.toFinset_card_of_nodup collected.unique]
  refine Finset.card_le_card fun location member => ?_
  rw [List.mem_toFinset] at member ⊢
  obtain ⟨record, among, rfl⟩ := List.mem_map.mp member
  exact covered.known record among

theorem card_le_card_cons (location : AssertLocation) :
    failed.toFinset.card ≤ (location :: failed).toFinset.card := by
  rw [List.toFinset_cons]
  exact Finset.card_le_card (Finset.subset_insert location failed.toFinset)

/-- Another occurrence leaves the locations as they are. -/
theorem map_location_recur (offset : Nat) (uptimeS : UInt32) :
    (records.modify offset fun record => record.recur uptimeS).map AssertRecord.location =
      records.map AssertRecord.location := by
  refine List.ext_getElem ?_ fun index _ _ => ?_
  · rw [List.length_map, List.length_modify, List.length_map]
  · rw [List.getElem_map, List.getElem_modify, List.getElem_map]
    split <;> rfl

theorem covered_recur (covered : Covered records failed) {offset : Nat}
    (inside : offset < records.length) (uptimeS : UInt32) :
    Covered (records.modify offset fun record => record.recur uptimeS)
      ((records[offset]).location :: failed) := by
  have locations := @map_location_recur records offset uptimeS
  constructor
  · intro record member
    have among : record.location ∈ records.map AssertRecord.location := by
      rw [← locations]
      exact List.mem_map_of_mem member
    obtain ⟨before, memberBefore, same⟩ := List.mem_map.mp among
    rw [← same]
    exact List.mem_cons_of_mem _ (covered.known before memberBefore)
  · intro few
    rw [locations, List.forall_mem_cons]
    exact ⟨List.mem_map_of_mem (List.getElem_mem inside),
      covered.complete ((card_le_card_cons _).trans_lt few)⟩

/-- The count of a record that goes on to count has not wrapped. -/
theorem count_lt_of_collected_recur {offset : Nat} (inside : offset < records.length)
    {uptimeS : UInt32}
    (after : Collected (records.modify offset fun record => record.recur uptimeS)
      ((records[offset]).location :: failed))
    (few : ((records[offset]).location :: failed).toFinset.card < assertMaxFailureLog) :
    failed.count (records[offset]).location + 1 < UInt32.size := by
  have insideAfter :
      offset < (records.modify offset fun record => record.recur uptimeS).length := by
    rw [List.length_modify]
    exact inside
  have count := after.counted few _ (List.getElem_mem insideAfter)
  have here : ((records[offset]).recur uptimeS).location = (records[offset]).location := rfl
  rw [List.getElem_modify, if_pos rfl, here, List.count_cons_self] at count
  rw [← count]
  exact UInt32.toNat_lt_size _

/-- Another occurrence is counted in its record, when the count does not wrap, and in no other. -/
theorem recur_counted (collected : Collected records failed) {offset : Nat}
    (inside : offset < records.length) (uptimeS : UInt32)
    (few : failed.toFinset.card < assertMaxFailureLog)
    (bounded : failed.count (records[offset]).location + 1 < UInt32.size) :
    ∀ record ∈ records.modify offset fun record => record.recur uptimeS,
      record.occurrenceCount.toNat =
        ((records[offset]).location :: failed).count record.location := by
  intro record member
  obtain ⟨index, indexInside, rfl⟩ := List.getElem_of_mem member
  have within : index < records.length := by
    rw [List.length_modify] at indexInside
    exact indexInside
  have count := collected.counted few _ (List.getElem_mem within)
  rw [List.getElem_modify]
  by_cases same : offset = index
  · subst same
    have here : ((records[offset]).recur uptimeS).location = (records[offset]).location := rfl
    rw [if_pos rfl, here, List.count_cons_self, ← count]
    rw [← count] at bounded
    unfold AssertRecord.recur
    rw [UInt32.toNat_add, UInt32.toNat_one, Nat.mod_eq_of_lt bounded]
  · rw [if_neg same, count, List.count_cons_of_ne]
    intro equal
    have records_eq := List.inj_on_of_nodup_map collected.unique (List.getElem_mem inside)
      (List.getElem_mem within) equal
    exact same ((List.Nodup.getElem_inj_iff collected.unique.of_map).mp records_eq)

/-- Another occurrence of a failure is counted as long as the count does not wrap. -/
theorem collected_recur_iff (collected : Collected records failed) {offset : Nat}
    (inside : offset < records.length) (uptimeS : UInt32) :
    Collected (records.modify offset fun record => record.recur uptimeS)
        ((records[offset]).location :: failed) ↔
      (((records[offset]).location :: failed).toFinset.card < assertMaxFailureLog →
        failed.count (records[offset]).location + 1 < UInt32.size) := by
  refine ⟨count_lt_of_collected_recur inside, fun bounded => ⟨?_, fun few => ?_⟩⟩
  · rw [map_location_recur]
    exact collected.unique
  · exact recur_counted collected inside uptimeS ((card_le_card_cons _).trans_lt few)
      (bounded few)

/-- The records that stay when one is appended. -/
def staying (records : List AssertRecord) : List AssertRecord :=
  newest (assertMaxFailureLog - 1) records

theorem newest_append_record (record : AssertRecord) :
    newest assertMaxFailureLog (records ++ [record]) = staying records ++ [record] :=
  newest_succ_concat (assertMaxFailureLog - 1) records record

theorem staying_sublist (records : List AssertRecord) : (staying records).Sublist records :=
  List.drop_sublist _ records

/-- While there are fewer than sixteen locations every record stays. -/
theorem staying_of_few (collected : Collected records failed) (covered : Covered records failed)
    (few : failed.toFinset.card < assertMaxFailureLog) : staying records = records :=
  newest_of_length_le (Nat.le_sub_one_of_lt ((collected.length_le covered).trans_lt few))

theorem covered_append (collected : Collected records failed) (covered : Covered records failed)
    (record : AssertRecord) :
    Covered (newest assertMaxFailureLog (records ++ [record])) (record.location :: failed) := by
  rw [newest_append_record]
  constructor
  · rw [List.forall_mem_append, List.forall_mem_singleton]
    exact ⟨fun other member => List.mem_cons_of_mem _
      (covered.known other ((staying_sublist records).subset member)), List.mem_cons_self⟩
  · intro few
    have fewBefore := (card_le_card_cons record.location).trans_lt few
    rw [staying_of_few collected covered fewBefore, List.map_append, List.forall_mem_cons]
    exact ⟨List.mem_append_right _ (List.mem_singleton_self _),
      fun location member => List.mem_append_left _ (covered.complete fewBefore location member)⟩

/-- A first record is the only one of its location exactly when none of those that stay has it. -/
theorem collected_append_iff (collected : Collected records failed)
    (covered : Covered records failed) {record : AssertRecord}
    (first : record.occurrenceCount = 1) :
    Collected (newest assertMaxFailureLog (records ++ [record])) (record.location :: failed) ↔
      record.location ∉ (staying records).map AssertRecord.location := by
  have kept : ((staying records).map AssertRecord.location).Nodup :=
    collected.unique.sublist ((staying_sublist records).map _)
  have nodup : ((staying records ++ [record]).map AssertRecord.location).Nodup ↔
      record.location ∉ (staying records).map AssertRecord.location := by
    rw [List.map_append, List.map_singleton, List.nodup_append_comm, List.singleton_append,
      List.nodup_cons, and_iff_left kept]
  rw [newest_append_record]
  refine ⟨fun after => nodup.mp after.unique, fun new => ⟨nodup.mpr new, fun few => ?_⟩⟩
  have fewBefore := (card_le_card_cons record.location).trans_lt few
  rw [staying_of_few collected covered fewBefore] at new ⊢
  have unheard : record.location ∉ failed := mt (covered.complete fewBefore _) new
  rw [List.forall_mem_append, List.forall_mem_singleton, List.count_cons_self,
    List.count_eq_zero_of_not_mem unheard, first]
  refine ⟨fun other member => ?_, rfl⟩
  have apart : record.location ≠ other.location :=
    fun same => new (same ▸ List.mem_map_of_mem member)
  rw [List.count_cons_of_ne apart]
  exact collected.counted fewBefore other member

end

/-! ### A failure and the records -/

section

variable {log : AssertLog} {failed : List AssertLocation}

theorem covered_logFailure (collected : Collected log.contents failed)
    (covered : Covered log.contents failed) (overflows : UInt16) (failure : AssertFailure) :
    Covered (logFailure log overflows failure).1.contents (failure.location :: failed) := by
  rcases logFailure_cases log overflows failure with
    ⟨-, offset, inside, same, after⟩ | ⟨-, after⟩
  · rw [after, ← same]
    exact covered_recur covered inside failure.uptimeS
  · rw [after]
    exact covered_append collected covered (firstRecord (extractFilename failure.file) failure)

/-- A location without a record has not failed yet, while there are few of them. -/
theorem count_lt_of_new (collected : Collected log.contents failed)
    (covered : Covered log.contents failed) {location : AssertLocation}
    (new : location ∉ (staying log.contents).map AssertRecord.location)
    (few : (location :: failed).toFinset.card < assertMaxFailureLog) :
    failed.count location + 1 < UInt32.size := by
  have fewBefore := (card_le_card_cons location).trans_lt few
  rw [staying_of_few collected covered fewBefore] at new
  rw [List.count_eq_zero_of_not_mem (mt (covered.complete fewBefore _) new)]
  decide

theorem collected_logFailure_iff (collected : Collected log.contents failed)
    (covered : Covered log.contents failed) (overflows : UInt16) (failure : AssertFailure) :
    Collected (logFailure log overflows failure).1.contents (failure.location :: failed) ↔
      (failure.Fits ∨
        failure.location ∉ (staying log.contents).map AssertRecord.location) ∧
      ((failure.location :: failed).toFinset.card < assertMaxFailureLog →
        failed.count failure.location + 1 < UInt32.size) := by
  rcases logFailure_cases log overflows failure with
    ⟨fits, offset, inside, same, after⟩ | ⟨missed, after⟩
  · rw [after, ← same, collected_recur_iff collected inside failure.uptimeS]
    exact (and_iff_right (Or.inl fits)).symm
  · have appended := @collected_append_iff log.contents failed collected covered
      (firstRecord (extractFilename failure.file) failure) rfl
    rw [after]
    refine appended.trans ⟨fun new => ⟨Or.inr new, count_lt_of_new collected covered new⟩, ?_⟩
    rintro ⟨fits | new, -⟩
    · intro among
      obtain ⟨record, member, same⟩ := List.mem_map.mp among
      exact missed fits record ((staying_sublist log.contents).subset member) same
    · exact new

end

/-! ### Runs -/

/-- The handler with the locations that have failed, the last one at the head. -/
structure AssertRun where
  handler : AssertHandler
  failed : List AssertLocation

/-- The run that begins after `assert_init`. -/
def AssertRun.initial (boot : AssertHandler) : AssertRun := ⟨assertInit boot, []⟩

/-- No two records that are returned have the same file name and line, and while fewer than sixteen
locations have failed each of them counts the failures at its location. -/
def Aggregated (run : AssertRun) : Prop :=
  ∀ maxEntries, ((assertGetLog run.handler maxEntries).map AssertRecord.location).Nodup ∧
    (run.failed.toFinset.card < assertMaxFailureLog →
      ∀ record ∈ assertGetLog run.handler maxEntries,
        record.occurrenceCount.toNat = run.failed.count record.location)

/-- The name of the file fits into a record, or none of the records that stay has its location; and
while there are fewer than sixteen locations the count of this one does not wrap. -/
def Collects (run : AssertRun) (failure : AssertFailure) : Prop :=
  (failure.Fits ∨
    failure.location ∉ (staying run.handler.log.contents).map AssertRecord.location) ∧
  ((failure.location :: run.failed).toFinset.card < assertMaxFailureLog →
    run.failed.count failure.location + 1 < UInt32.size)

/-- What is returned are the first records, and with room for all of them it is all of them. -/
theorem aggregated_iff_collected (run : AssertRun) :
    Aggregated run ↔ Collected run.handler.log.contents run.failed := by
  unfold Aggregated
  simp only [assertGetLog_eq]
  constructor
  · intro aggregated
    have all : run.handler.log.contents.take (16 : UInt16).toNat = run.handler.log.contents := by
      refine List.take_of_length_le ?_
      rw [AssertLog.length_contents]
      exact run.handler.log.countBound
    have whole := aggregated 16
    rw [all] at whole
    exact ⟨whole.1, whole.2⟩
  · intro collected maxEntries
    exact ⟨collected.unique.sublist ((List.take_sublist _ _).map _),
      fun few record member => collected.counted few record (List.mem_of_mem_take member)⟩

theorem collected_nil : Collected [] [] := ⟨List.nodup_nil, fun _ => List.forall_mem_nil _⟩

theorem covered_nil : Covered [] [] := ⟨List.forall_mem_nil _, fun _ => List.forall_mem_nil _⟩

section

variable [CLayout FaultRecord]

def assertRunEvent (run : AssertRun) (failure : AssertFailure) : AssertRun where
  handler := (assertHandleFailure run.handler failure).1
  failed := failure.location :: run.failed

/-- What follows from a severity leaves the log as it is. -/
theorem respond_log (handler : AssertHandler) (severity : AssertSeverity) (nowMs : UInt64) :
    (respond handler severity nowMs).1.log = handler.log ∧
      (respond handler severity nowMs).1.initialized = handler.initialized := by
  cases severity <;> exact ⟨rfl, rfl⟩

theorem assertHandleFailure_log {handler : AssertHandler} (initialized : handler.initialized = true)
    (failure : AssertFailure) :
    (assertHandleFailure handler failure).1.log =
        (logFailure handler.log handler.stats.logOverflows failure).1 ∧
      (assertHandleFailure handler failure).1.initialized = true := by
  unfold assertHandleFailure
  rw [if_pos initialized]
  obtain ⟨log, kept⟩ := respond_log
    { handler with
      stats :=
        { handler.stats with
          totalChecks := handler.stats.totalChecks + 1
          totalFailures := handler.stats.totalFailures + 1
          logOverflows := (logFailure handler.log handler.stats.logOverflows failure).2 }
      log := (logFailure handler.log handler.stats.logOverflows failure).1 }
    failure.severity failure.nowMs
  exact ⟨log, kept.trans initialized⟩

/-- In a run from `assert_init` on, the failures are put together by their locations in every state
exactly when every failure with a name that does not fit is the only one of its location among the
records that stay, and no count wraps. -/
theorem aggregated_iff (boot : AssertHandler) (failures : List AssertFailure) :
    Throughout assertRunEvent Aggregated (AssertRun.initial boot) failures ↔
      EachStep assertRunEvent Collects (AssertRun.initial boot) failures := by
  refine @throughout_iff_eachStep _ _ assertRunEvent Aggregated
    (fun run => run.handler.initialized = true ∧ Collected run.handler.log.contents run.failed ∧
      Covered run.handler.log.contents run.failed)
    Collects ?_ ?_ ?_ (AssertRun.initial boot) ⟨rfl, collected_nil, covered_nil⟩ failures
  · intro run reached
    exact (aggregated_iff_collected run).mpr reached.2.1
  · rintro run failure ⟨initialized, collected, covered⟩
    rw [aggregated_iff_collected]
    dsimp only [assertRunEvent]
    rw [(assertHandleFailure_log initialized failure).1]
    exact collected_logFailure_iff collected covered _ failure
  · rintro run failure ⟨initialized, collected, covered⟩ collects
    obtain ⟨log, kept⟩ := assertHandleFailure_log initialized failure
    dsimp only [assertRunEvent]
    rw [log]
    exact ⟨kept, (collected_logFailure_iff collected covered _ failure).mpr collects,
      covered_logFailure collected covered _ failure⟩

end

/-- The statics of `assert_handler.c` before a boot. -/
def AssertHandler.boot : AssertHandler where
  stats := ⟨0, 0, 0, 0, 0, 0, 0, 0, 0⟩
  log := AssertLog.cleared
  initialized := false
  hasCriticalFailure := false
  faults := FaultMgmt.boot

/-- A failure in a file whose name is thirty-four letters `a` and `.c`. -/
def longNamedFailure : AssertFailure where
  file := some ⟨List.replicate 34 0x61 ++ [0x2E, 0x63], by decide⟩
  line := 10
  assertType := .internal
  severity := .error
  message := none
  uptimeS := 0
  nowMs := 0

/-- Two failures at the same line of that file have a record each. -/
theorem aggregated_fails :
    letI := CLayout.blank FaultRecord
    ¬ ∀ (boot : AssertHandler) (failures : List AssertFailure),
      Throughout assertRunEvent Aggregated (AssertRun.initial boot) failures := by
  let := CLayout.blank FaultRecord
  intro claimed
  have finish := (claimed AssertHandler.boot [longNamedFailure, longNamedFailure]).finish
  have unique := (finish 16).1
  revert unique
  decide +kernel

end SmartQso
