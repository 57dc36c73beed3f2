/-
This file models the fault log of `fault_mgmt.c` as the array it is kept in, with the
slots behind the count, and settles what an index does to it. Used with indices in
range, the array is the log of the other modules. An index out of range is reported
and then used: it reads a slot no entry is in, or writes one, and behind the last slot
it leaves the array.
-/

import SmartQso.CountedArray
import SmartQso.FaultLogDurability

namespace SmartQso

open CountedArray Runs

/-! ### The array -/

/-- The statics of `fault_mgmt.c`, with the contents of `FAULT_LOG_FILE`. File operations on the
log succeed. -/
structure FaultArray where
  slots : Vector FaultLogEntry smartQsoMaxFaultEntries
  count : Nat
  fits : count ≤ smartQsoMaxFaultEntries
  file : Option (List FaultLogEntry)
  watchdogTriggered : Bool

/-- A slot after `memset`. -/
def zeroEntry : FaultLogEntry := ⟨⟨0, 0, 0, "", 0, false⟩, 0⟩

/-- The log that the array holds, as the other modules see it. -/
def FaultArray.view (array : FaultArray) : FaultMgmt where
  log :=
    { entries := held array.slots array.count
      fits := by
        rw [length_held array.fits]
        exact array.fits }
  file := array.file
  watchdogTriggered := array.watchdogTriggered

/-- `memset` of the array and the count set to zero. -/
def FaultArray.wipe (array : FaultArray) : FaultArray :=
  { array with slots := Vector.replicate _ zeroEntry, count := 0, fits := Nat.zero_le _ }

/-- The statics at a boot that finds no `FAULT_LOG_FILE`. -/
def FaultArray.boot : FaultArray where
  slots := Vector.replicate _ zeroEntry
  count := 0
  fits := Nat.zero_le _
  file := none
  watchdogTriggered := false

/-- `fault_log_get_count`. -/
def FaultArray.faultLogGetCount (array : FaultArray) : Nat := array.count

/-- `fault_log_get_entry` into the caller's entry; none stands for a read outside the array, of
which nothing can be said. The check of the index against the count only reports. -/
def FaultArray.faultLogGetEntry (array : FaultArray) (index : UInt64) (_entry : FaultLogEntry) :
    Option (SmartQsoResult × FaultLogEntry) :=
  if inside : index.toNat < smartQsoMaxFaultEntries then
    some (.ok, array.slots.get ⟨index.toNat, inside⟩)
  else none

/-- `fault_log_get_last` into the caller's entry. -/
def FaultArray.faultLogGetLast (array : FaultArray) (entry : FaultLogEntry) :
    SmartQsoResult × FaultLogEntry :=
  if empty : array.count = 0 then (.error, entry)
  else
    (.ok, array.slots.get
      ⟨array.count - 1, Nat.lt_of_lt_of_le (Nat.sub_one_lt empty) array.fits⟩)

/-- `fault_log_save`. -/
def FaultArray.faultLogSave (array : FaultArray) : FaultArray :=
  { array with file := some (held array.slots array.count) }

/-- `fault_log_clear`, which also removes the file. -/
def FaultArray.faultLogClear (array : FaultArray) : FaultArray :=
  { array.wipe with file := none }

/-- The array once there is room for another entry: `memmove` drops the oldest one of a full
log. -/
def FaultArray.makeRoom (array : FaultArray) : FaultArray :=
  if array.count ≥ smartQsoMaxFaultEntries then
    { array with
      slots := shift array.slots
      count := smartQsoMaxFaultEntries - 1
      fits := Nat.sub_le _ _ }
  else array

theorem FaultArray.makeRoom_count (array : FaultArray) :
    array.makeRoom.count < smartQsoMaxFaultEntries := by
  unfold makeRoom
  split
  case isTrue => exact Nat.sub_one_lt (by decide)
  case isFalse room => exact Nat.lt_of_not_le room

section

variable [CLayout FaultRecord]

/-- `fault_log_add`. -/
def FaultArray.faultLogAdd (array : FaultArray) (faultType : FaultType) (severity : FaultSeverity)
    (description : String) (soc : ℚ) (now : UInt64) : FaultArray :=
  let record : FaultRecord :=
    { timestampMs := now
      faultType := faultType.code
      severity := severity.code
      description := copyDescription description
      socAtFault := soc
      recovered := false }
  let entry : FaultLogEntry := ⟨record, recordCrc record⟩
  let room := array.makeRoom
  let written : FaultArray :=
    { room with
      slots := room.slots.set room.count entry array.makeRoom_count
      count := room.count + 1
      fits := array.makeRoom_count }
  written.faultLogSave

/-- `fault_log_mark_recovered`; none stands for a write outside the array. -/
def FaultArray.faultLogMarkRecovered (array : FaultArray) (index : UInt64) :
    Option (FaultArray × SmartQsoResult) :=
  if inside : index.toNat < smartQsoMaxFaultEntries then
    let marked := markEntry (array.slots.get ⟨index.toNat, inside⟩)
    let written := { array with slots := array.slots.set index.toNat marked inside }
    some (written.faultLogSave, .ok)
  else none

/-- `fault_log_load`: the read into the array, and the loop that discards corrupt entries. -/
def FaultArray.faultLogLoad (array : FaultArray) : FaultArray × SmartQsoResult :=
  match array.file with
  | none => (array, .errorIo)
  | some stored =>
    let read := stored.take smartQsoMaxFaultEntries
    let fits := List.length_take_le smartQsoMaxFaultEntries stored
    let progress := compact Sealed.verifies (fill array.slots read) read.length fits
    ({ array with
        slots := progress.slots
        count := progress.kept
        fits := kept_compact_le Sealed.verifies (fill array.slots read) fits }, .ok)

/-- `fault_mgmt_init`. -/
def FaultArray.faultMgmtInit (array : FaultArray) : FaultArray :=
  { array.wipe with watchdogTriggered := false }.faultLogLoad.1

/-! ### The log in the array -/

omit [CLayout FaultRecord] in
theorem FaultMgmt.ext_entries {first second : FaultMgmt}
    (entries : first.log.entries = second.log.entries) (file : first.file = second.file)
    (watchdog : first.watchdogTriggered = second.watchdogTriggered) : first = second := by
  obtain ⟨⟨_, _⟩, _, _⟩ := first
  obtain ⟨⟨_, _⟩, _, _⟩ := second
  subst entries file watchdog
  rfl

omit [CLayout FaultRecord] in
theorem FaultArray.length_view (array : FaultArray) :
    array.view.log.entries.length = array.count := length_held array.fits

omit [CLayout FaultRecord] in
theorem FaultArray.view_getLast (array : FaultArray) (entry : FaultLogEntry) :
    array.faultLogGetLast entry =
      match SmartQso.faultLogGetLast array.view with
      | some last => (.ok, last)
      | none => (.error, entry) := by
  unfold FaultArray.faultLogGetLast SmartQso.faultLogGetLast
  have length := array.length_view
  by_cases empty : array.count = 0
  · have nothing : array.view.log.entries = [] := List.length_eq_zero_iff.mp (length.trans empty)
    rw [dif_pos empty, nothing]
    rfl
  · have inside : array.count - 1 < array.view.log.entries.length :=
      Nat.lt_of_lt_of_eq (Nat.sub_one_lt empty) length.symm
    rw [dif_neg empty, List.getLast?_eq_getElem?, length, List.getElem?_eq_getElem inside]
    exact congrArg (Prod.mk SmartQsoResult.ok) List.getElem_take.symm

omit [CLayout FaultRecord] in
theorem FaultArray.held_makeRoom (array : FaultArray) :
    held array.makeRoom.slots array.makeRoom.count = array.view.log.makeRoom := by
  unfold makeRoom FaultLog.makeRoom
  rw [array.length_view]
  by_cases full : array.count ≥ smartQsoMaxFaultEntries
  · have count : array.count = smartQsoMaxFaultEntries := Nat.le_antisymm array.fits full
    rw [if_pos full, if_pos full]
    show held (shift array.slots) (smartQsoMaxFaultEntries - 1) =
      (held array.slots array.count).drop 1
    rw [count]
    exact held_shift array.slots (Nat.le_of_eq rfl)
  · rw [if_neg full, if_neg full]
    rfl

omit [CLayout FaultRecord] in
theorem FaultArray.makeRoom_frame (array : FaultArray) :
    array.makeRoom.file = array.file ∧
      array.makeRoom.watchdogTriggered = array.watchdogTriggered := by
  unfold makeRoom
  split <;> exact ⟨rfl, rfl⟩

/-- Adding a fault to the array adds it to the log. -/
theorem FaultArray.view_add (array : FaultArray) (faultType : FaultType)
    (severity : FaultSeverity) (description : String) (soc : ℚ) (now : UInt64) :
    (array.faultLogAdd faultType severity description soc now).view =
      SmartQso.faultLogAdd array.view faultType severity description soc now := by
  have written : ∀ entry : FaultLogEntry,
      held (array.makeRoom.slots.set array.makeRoom.count entry array.makeRoom_count)
        (array.makeRoom.count + 1) = array.view.log.makeRoom ++ [entry] := by
    intro entry
    rw [← array.held_makeRoom]
    exact held_set array.makeRoom.slots entry ⟨_, array.makeRoom_count⟩
  exact FaultMgmt.ext_entries (written _) (congrArg some (written _)) array.makeRoom_frame.2

/-- Marking an entry in range marks it in the log. -/
theorem FaultArray.view_markRecovered (array : FaultArray) {index : UInt64}
    (inRange : index.toNat < array.count) :
    ∃ after, array.faultLogMarkRecovered index = some (after, .ok) ∧
      after.view = SmartQso.faultLogMarkRecovered array.view
        ⟨index.toNat, Nat.lt_of_lt_of_eq inRange array.length_view.symm⟩ := by
  have inside : index.toNat < smartQsoMaxFaultEntries :=
    Nat.lt_of_lt_of_le inRange array.fits
  have marked := held_modify array.slots markEntry ⟨index.toNat, inside⟩ array.count
  refine ⟨_, dif_pos inside, ?_⟩
  exact FaultMgmt.ext_entries marked (congrArg some marked) rfl

/-- Loading the file into the array loads it into the log. -/
theorem FaultArray.view_load (array : FaultArray) :
    (array.faultLogLoad.1.view, array.faultLogLoad.2) = SmartQso.faultLogLoad array.view := by
  unfold faultLogLoad SmartQso.faultLogLoad
  cases stored : array.file with
  | none =>
    have file : array.view.file = none := stored
    rw [file]
  | some content =>
    have file : array.view.file = some content := stored
    rw [file]
    refine Prod.ext (FaultMgmt.ext_entries ?_ rfl rfl) rfl
    refine (held_compact _ _ _).trans ?_
    rw [held_fill _ (List.length_take_le _ _)]
    rfl

theorem FaultArray.view_init (array : FaultArray) :
    array.faultMgmtInit.view = SmartQso.faultMgmtInit array.view :=
  congrArg Prod.fst (FaultArray.view_load { array.wipe with watchdogTriggered := false })

/-! ### Runs -/

/-- A call to the array, or a reboot. A call outside the array is passed over, since nothing can be
said of it. -/
def arrayStep (array : FaultArray) : FaultCall → FaultArray
  | .add faultType severity description soc now =>
    array.faultLogAdd faultType severity description soc now
  | .markRecovered index =>
    match array.faultLogMarkRecovered (UInt64.ofNat index) with
    | some (after, _) => after
    | none => array
  | .clear => array.faultLogClear
  | .init => array.faultMgmtInit

/-- The index of a call is one of the log. -/
def IndexInRange (array : FaultArray) : FaultCall → Prop
  | .markRecovered index => index < array.faultLogGetCount
  | _ => True

theorem arrayStep_view (array : FaultArray) (call : FaultCall)
    (inRange : IndexInRange array call) :
    (arrayStep array call).view = faultStep array.view call := by
  cases call with
  | add faultType severity description soc now =>
    exact array.view_add faultType severity description soc now
  | markRecovered index =>
    have below : index < array.count := inRange
    have number : (UInt64.ofNat index).toNat = index := by
      refine UInt64.toNat_ofNat_of_lt (Nat.lt_of_lt_of_le below (array.fits.trans ?_))
      decide
    obtain ⟨after, marked, view⟩ :=
      array.view_markRecovered (Nat.lt_of_le_of_lt (Nat.le_of_eq number) below)
    rw [arrayStep, marked, faultStep, dif_pos (Nat.lt_of_lt_of_eq below array.length_view.symm)]
    refine view.trans ?_
    congr 1
    exact Fin.ext number
  | clear => exact FaultMgmt.ext_entries rfl rfl rfl
  | init => exact array.view_init

/-- In every run that keeps to the indices of the log, the array holds the log that the other
modules reason about. -/
theorem arrayRun_view {start : FaultArray} {calls : List FaultCall}
    (inRange : EachStep arrayStep IndexInRange start calls) :
    (finalState arrayStep start calls).view = finalState faultStep start.view calls := by
  induction calls generalizing start with
  | nil => rfl
  | cons call rest inductionHypothesis =>
    rw [finalState_cons, finalState_cons, inductionHypothesis inRange.2,
      arrayStep_view start call inRange.1]

/-! ### Indices -/

/-- Only the flag and the checksum of the entry at the index may differ. -/
structure MarksOnly (before after : FaultArray) (index : UInt64) : Prop where
  count : after.count = before.count
  watchdog : after.watchdogTriggered = before.watchdogTriggered
  others : ∀ position : Fin smartQsoMaxFaultEntries, position.val ≠ index.toNat →
    after.slots.get position = before.slots.get position
  marked : ∀ position : Fin smartQsoMaxFaultEntries, position.val = index.toNat →
    (after.slots.get position).record =
      { (before.slots.get position).record with recovered := true }

/-- What the two functions owe an index: out of range it is answered with an error, and the log,
the caller's entry and the file stay as they are; in range only the entry there is marked. -/
def IndexHandled (array : FaultArray) (index : UInt64) : Prop :=
  (array.faultLogGetCount ≤ index.toNat →
    (∀ entry, ∃ result, array.faultLogGetEntry index entry = some (result, entry) ∧
      result ≠ .ok) ∧
    ∃ result, array.faultLogMarkRecovered index = some (array, result) ∧ result ≠ .ok) ∧
  (index.toNat < array.faultLogGetCount →
    ∃ after, array.faultLogMarkRecovered index = some (after, .ok) ∧
      MarksOnly array after index)

theorem markRecovered_marksOnly (array : FaultArray) {index : UInt64}
    (inside : index.toNat < smartQsoMaxFaultEntries) :
    ∃ after, array.faultLogMarkRecovered index = some (after, .ok) ∧
      MarksOnly array after index := by
  refine ⟨_, dif_pos inside, rfl, rfl, fun position other => ?_, fun position same => ?_⟩
  · have different : (⟨index.toNat, inside⟩ : Fin smartQsoMaxFaultEntries) ≠ position :=
      Fin.ne_of_val_ne other.symm
    exact get_set_of_ne different
  · have slot : position = ⟨index.toNat, inside⟩ := Fin.ext same
    rw [slot]
    exact congrArg Sealed.record (Vector.getElem_set_self inside)

/-- In every log, an index is handled as the two functions owe it exactly when it is in range. -/
theorem index_handled_iff (array : FaultArray) (index : UInt64) :
    IndexHandled array index ↔ index.toNat < array.faultLogGetCount := by
  constructor
  · rintro ⟨rejected, _⟩
    by_contra outside
    obtain ⟨read, _⟩ := rejected (Nat.le_of_not_lt outside)
    obtain ⟨result, answered, refused⟩ := read zeroEntry
    unfold FaultArray.faultLogGetEntry at answered
    split at answered
    · injection answered with answer
      exact refused (congrArg Prod.fst answer).symm
    · exact absurd answered.symm (Option.some_ne_none _)
  · intro inRange
    refine ⟨fun outside => absurd inRange (Nat.not_lt_of_le outside), fun _ => ?_⟩
    exact markRecovered_marksOnly array (Nat.lt_of_lt_of_le inRange array.fits)

end

/-- The log is empty, and its entry number zero is answered with success; marking it writes the
slot, and the file. -/
theorem empty_log_answers :
    letI := CLayout.blank FaultRecord
    FaultArray.boot.faultLogGetCount = 0 ∧
      FaultArray.boot.faultLogGetEntry 0 zeroEntry = some (.ok, zeroEntry) ∧
      (FaultArray.boot.faultLogMarkRecovered 0).map
        (fun answer => (answer.1.slots[0].record.recovered, answer.1.file.isSome, answer.2)) =
        some (true, true, .ok) ∧
      ¬ IndexHandled FaultArray.boot 0 := by
  let := CLayout.blank FaultRecord
  have read : FaultArray.boot.faultLogGetEntry 0 zeroEntry = some (.ok, zeroEntry) := rfl
  refine ⟨rfl, read, by decide +kernel, fun handled => ?_⟩
  obtain ⟨result, answered, refused⟩ := (handled.1 (Nat.zero_le _)).1 zeroEntry
  rw [read] at answered
  injection answered with answer
  exact refused (congrArg Prod.fst answer).symm

end SmartQso
