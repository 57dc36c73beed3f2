/-
This file models `fault_log_load` over the bytes of `FAULT_LOG_FILE`: `fread` fills the
array from whatever is in the file, and the loop keeps the entries whose checksum is
right. Where the compiler puts the checksum is a parameter, so nothing here depends on
padding; numbers are stored with the least significant byte first. A file that
`fault_log_save` has written is the case the rest of the development works with.
-/

import SmartQso.ByteOrder
import SmartQso.CountedArray
import SmartQso.FaultMgmt

namespace SmartQso

open CountedArray

/-! ### Entries as bytes -/

/-- The size of `FaultLogEntry_t` and the offset of its `crc32`. -/
structure EntryShape where
  size : Nat
  crcOffset : Nat
  room : crcOffset + 4 ≤ size

variable {shape : EntryShape}

theorem EntryShape.positive (shape : EntryShape) : 0 < shape.size :=
  Nat.lt_of_lt_of_le (Nat.zero_lt_succ _) shape.room

/-- The object representation of an entry. -/
abbrev EntryBytes (shape : EntryShape) := Vector UInt8 shape.size

/-- `fault_entry_crc`. -/
def faultEntryCrc (entry : EntryBytes shape) : UInt32 :=
  smartQsoCrc32 (entry.toList.take shape.crcOffset)

/-- The member `crc32` of an entry. -/
def EntryBytes.crc32 (entry : EntryBytes shape) : UInt32 :=
  UInt32.ofNat (ByteOrder.valueOf ((entry.toList.drop shape.crcOffset).take 4))

/-- The comparison in the loop of `fault_log_load`. -/
def EntryBytes.intact (entry : EntryBytes shape) : Bool := faultEntryCrc entry == entry.crc32

theorem EntryBytes.intact_eq (entry : EntryBytes shape) :
    entry.intact = decide (entry.crc32 = smartQsoCrc32 (entry.toList.take shape.crcOffset)) := by
  rw [intact, Bool.eq_iff_iff, beq_iff_eq, decide_eq_true_iff]
  exact eq_comm

/-- The complete record at a position of a file. -/
def recordAt (shape : EntryShape) (contents : List UInt8) (index : Nat) : EntryBytes shape :=
  Vector.ofFn fun offset => contents.getD (index * shape.size + offset) 0

/-- The complete records of a file; a trailing part of one is not among them. -/
def completeRecords (shape : EntryShape) (contents : List UInt8) : List (EntryBytes shape) :=
  (List.range (contents.length / shape.size)).map (recordAt shape contents)

/-! ### Loading -/

/-- `s_fault_log` and `s_fault_log_count`, with the bytes of `FAULT_LOG_FILE`. -/
structure FaultImage (shape : EntryShape) where
  slots : Vector (EntryBytes shape) smartQsoMaxFaultEntries
  count : Nat
  file : Option (List UInt8)

/-- The entries in use. -/
def FaultImage.entries (image : FaultImage shape) : List (EntryBytes shape) :=
  held image.slots image.count

/-- The records `fread` completes, which are as many as it answers. -/
def readRecords (shape : EntryShape) (contents : List UInt8) : List (EntryBytes shape) :=
  (completeRecords shape contents).take smartQsoMaxFaultEntries

theorem length_readRecords (shape : EntryShape) (contents : List UInt8) :
    (readRecords shape contents).length ≤ smartQsoMaxFaultEntries := List.length_take_le _ _

/-- `fread` into the array. The bytes behind the last complete record reach the next slot, if
there is one. -/
def freadEntries (slots : Vector (EntryBytes shape) smartQsoMaxFaultEntries)
    (contents : List UInt8) : Vector (EntryBytes shape) smartQsoMaxFaultEntries :=
  let read := readRecords shape contents
  let filled := fill slots read
  if next : read.length < smartQsoMaxFaultEntries then
    let rest := contents.drop (read.length * shape.size)
    filled.set read.length (fill (filled.get ⟨read.length, next⟩) rest)
  else filled

/-- `fault_log_load`. -/
def FaultImage.faultLogLoad (image : FaultImage shape) : FaultImage shape × SmartQsoResult :=
  match image.file with
  | none => (image, .errorIo)
  | some contents =>
    let progress := compact EntryBytes.intact (freadEntries image.slots contents)
      (readRecords shape contents).length (length_readRecords shape contents)
    ({ image with slots := progress.slots, count := progress.kept }, .ok)

/-- What is read is in the first slots, whatever a partial record does to the next one. -/
theorem held_freadEntries (slots : Vector (EntryBytes shape) smartQsoMaxFaultEntries)
    (contents : List UInt8) :
    held (freadEntries slots contents) (readRecords shape contents).length =
      readRecords shape contents := by
  have filled := held_fill slots (length_readRecords shape contents)
  unfold freadEntries
  dsimp only
  split
  case isTrue next =>
    rw [held, Vector.toList_set, List.take_set_of_le (Nat.le_refl _)]
    exact filled
  case isFalse => exact filled

/-- The loop leaves the intact ones of the records that are read. -/
theorem faultLogLoad_entries (image : FaultImage shape) (contents : List UInt8) :
    (FaultImage.faultLogLoad { image with file := some contents }).1.entries =
      (readRecords shape contents).filter EntryBytes.intact := by
  have entries := held_compact EntryBytes.intact (freadEntries image.slots contents)
    (length_readRecords shape contents)
  rw [held_freadEntries] at entries
  exact entries

theorem faultLogLoad_count (image : FaultImage shape) (contents : List UInt8) :
    (FaultImage.faultLogLoad { image with file := some contents }).1.count =
      ((readRecords shape contents).filter EntryBytes.intact).length := by
  have count := kept_compact EntryBytes.intact (freadEntries image.slots contents)
    (length_readRecords shape contents)
  rw [held_freadEntries] at count
  exact count

/-- Whatever is in the file and in the array, a load answers success, the log is those of the first
hundred complete records, in their order, whose stored checksum is the one of the record, and the
count is their number. -/
theorem load_keeps_intact (image : FaultImage shape) (contents : List UInt8) :
    let answer := FaultImage.faultLogLoad { image with file := some contents }
    let intact := ((completeRecords shape contents).take 100).filter fun entry =>
      entry.crc32 = smartQsoCrc32 (entry.toList.take shape.crcOffset)
    answer.2 = .ok ∧ answer.1.entries = intact ∧ answer.1.count = intact.length := by
  intro answer intact
  have same : intact = (readRecords shape contents).filter EntryBytes.intact :=
    List.filter_congr fun entry _ => entry.intact_eq.symm
  rw [same]
  exact ⟨rfl, faultLogLoad_entries image contents, faultLogLoad_count image contents⟩

/-! ### Files that were saved -/

section

variable [CLayout FaultRecord]
  (laidOut : ∀ record : FaultRecord, (CLayout.bytes record).length = shape.crcOffset)

/-- The bytes of an entry: its members up to the checksum, the checksum, and padding. -/
def memberBytes (shape : EntryShape) (entry : FaultLogEntry) : List UInt8 :=
  CLayout.bytes entry.record ++
    (ByteOrder.littleEndian 4 entry.crc32.toNat ++
      List.replicate (shape.size - (shape.crcOffset + 4)) 0)

include laidOut in
theorem length_memberBytes (entry : FaultLogEntry) :
    (memberBytes shape entry).length = shape.size := by
  rw [memberBytes, List.length_append, List.length_append, laidOut,
    ByteOrder.length_littleEndian, List.length_replicate, ← Nat.add_assoc]
  exact Nat.add_sub_cancel' shape.room

/-- The object representation of an entry of the log. -/
def entryBytes (entry : FaultLogEntry) : EntryBytes shape :=
  ⟨(memberBytes shape entry).toArray, length_memberBytes laidOut entry⟩

/-- What `fault_log_save` writes. -/
def savedBytes (shape : EntryShape) (entries : List FaultLogEntry) : List UInt8 :=
  entries.flatMap (memberBytes shape)

/-- The loop sees in the bytes of an entry what the check of the log sees in the entry. -/
theorem entryBytes_intact (entry : FaultLogEntry) :
    (entryBytes laidOut entry).intact = entry.verifies := by
  have record : (memberBytes shape entry).take shape.crcOffset = CLayout.bytes entry.record :=
    List.take_left' (laidOut entry.record)
  have checksum : ((memberBytes shape entry).drop shape.crcOffset).take 4 =
      ByteOrder.littleEndian 4 entry.crc32.toNat := by
    rw [memberBytes, List.drop_left' (laidOut entry.record)]
    exact List.take_left' (ByteOrder.length_littleEndian 4 _)
  show (smartQsoCrc32 ((memberBytes shape entry).take shape.crcOffset) ==
    UInt32.ofNat (ByteOrder.valueOf (((memberBytes shape entry).drop shape.crcOffset).take 4))) = _
  have width : entry.crc32.toNat < 256 ^ 4 := entry.crc32.toNat_lt
  rw [record, checksum, ByteOrder.valueOf_littleEndian, Nat.mod_eq_of_lt width,
    UInt32.ofNat_toNat]
  rfl

/-- The first record of a file that starts with an entry, and the records behind it. -/
theorem completeRecords_append (entry : FaultLogEntry) (rest : List UInt8) :
    completeRecords shape (memberBytes shape entry ++ rest) =
      entryBytes laidOut entry :: completeRecords shape rest := by
  have length := length_memberBytes laidOut entry
  unfold completeRecords
  rw [List.length_append, length, Nat.add_div_left _ shape.positive, List.range_succ_eq_map,
    List.map_cons, List.map_map]
  congr 1
  · refine Vector.ext fun offset inside => ?_
    have own : offset < (memberBytes shape entry).length := Nat.lt_of_lt_of_eq inside length.symm
    simp only [recordAt, Vector.getElem_ofFn, Nat.zero_mul, Nat.zero_add,
      List.getD_eq_getElem?_getD, List.getElem?_append_left own, List.getElem?_eq_getElem own,
      Option.getD_some]
    rfl
  · refine List.map_congr_left fun index _ => Vector.ext fun offset _ => ?_
    have behind : (index + 1) * shape.size + offset =
        (memberBytes shape entry).length + (index * shape.size + offset) := by
      rw [length, Nat.succ_mul, Nat.add_comm (index * shape.size), Nat.add_assoc]
    simp only [Function.comp_apply, recordAt, Vector.getElem_ofFn, List.getD_eq_getElem?_getD]
    rw [Nat.succ_eq_add_one, behind, List.getElem?_append_right (Nat.le_add_right _ _),
      Nat.add_sub_cancel_left]

theorem completeRecords_saved (entries : List FaultLogEntry) :
    completeRecords shape (savedBytes shape entries) = entries.map (entryBytes laidOut) := by
  induction entries with
  | nil =>
    unfold completeRecords
    rw [savedBytes, List.flatMap_nil, List.length_nil, Nat.zero_div]
    rfl
  | cons entry rest inductionHypothesis =>
    rw [List.map_cons, ← inductionHypothesis, savedBytes, List.flatMap_cons]
    exact completeRecords_append laidOut entry _

/-- A load of a saved file gives the log that the model of the log loads, entry by entry. -/
theorem load_saved (image : FaultImage shape) (entries : List FaultLogEntry) :
    (FaultImage.faultLogLoad { image with file := some (savedBytes shape entries) }).1.entries =
      (FaultLog.ofFile entries).entries.map (entryBytes laidOut) := by
  refine (faultLogLoad_entries image (savedBytes shape entries)).trans ?_
  rw [readRecords, completeRecords_saved laidOut, ← List.map_take, List.filter_map]
  congr 1
  exact List.filter_congr fun entry _ => entryBytes_intact laidOut entry

end

end SmartQso
