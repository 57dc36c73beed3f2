/-
This file asks whether a clean state carries its checksum. `sys_state_init` assigns every
member before it takes the checksum. A save takes it first and then clears the flag and
stores the time, and a load checks it first and then starts the state machine again; the
flag, the time and the context are all covered.
-/

import SmartQso.ChecksumErrors
import SmartQso.DirtyTracking
import SmartQso.SystemLayout

namespace SmartQso

open Runs

/-! ### Calls -/

/-- `sys_state_clear_dirty`. -/
def sysStateClearDirty (sys : SystemState) : SystemState :=
  sys.update fun record => { record with persistenceDirty := false }

section

variable [CLayout SystemRecord]

/-- `sys_state_update_crc`. -/
def sysStateUpdateCrc (sys : SystemState) : SystemState := sys.updateCrc

/-- `sys_state_verify_crc`, which leaves the state as it was. -/
def sysStateVerifyCrc (sys : SystemState) : Bool := sys.verifies

end

/-- The statics of `system_state.c` and its file. -/
structure StateStore where
  statics : SysStatics
  file : Option StateFile

/-- A call to `system_state.c`, other than through the pointer to the context, with the time at
which it happens. File operations succeed. The functions that only read are left out. -/
inductive StoreCall
  | init (now : UInt64)
  | access (access : {access : SysAccess // access.reachesMachine = false}) (now : UInt64)
  | clearDirty
  | save (now : UInt64)
  | load (now : UInt64)
  | updateCrc

section

variable [CLayout FaultRecord] [CLayout SystemRecord]

/-- The store with another state. -/
def StateStore.withState (store : StateStore) (state : SystemState) : StateStore :=
  { store with statics := { store.statics with state := state } }

def storeCall (store : StateStore) : StoreCall → StateStore
  | .init now => store.withState (sysStateInit now)
  | .access access now => { store with statics := sysAccess store.statics (access, now) }
  | .clearDirty => store.withState (sysStateClearDirty store.statics.state)
  | .save now =>
    let saved := sysStateSave store.statics.state store.file .succeeds now
    { store.withState saved.1 with file := saved.2.1 }
  | .load now => { store with statics := loadState store.statics store.file now }
  | .updateCrc => store.withState (sysStateUpdateCrc store.statics.state)

/-- A state that is not dirty carries its checksum. -/
def CleanVerifies (sys : SystemState) : Prop :=
  sysStateIsDirty sys = false → sysStateVerifyCrc sys = true

/-! ### The condition -/

/-- The record after a save. -/
def savedRecord (record : SystemRecord) (now : UInt64) : SystemRecord :=
  { record with persistenceDirty := false, lastPersistMs := now }

/-- The record after a load that accepts what it reads. -/
def restoredRecord (loaded : SystemRecord) (now : UInt64) : SystemRecord :=
  { loaded with
    smContext := smInit loaded.smContext.currentState now
    initialized := true
    persistenceDirty := false }

/-- The condition on a call: a save assigns a flag and a time that the checksum does not tell from
those before, a load accepts no record but one whose checksum, with a new context and a clear
flag, is zero, and the flag is cleared by hand only where the stored checksum fits the result. -/
def KeepsSeal (store : StateStore) : StoreCall → Prop
  | .save now =>
    recordCrc (savedRecord store.statics.state.record now) = recordCrc store.statics.state.record
  | .load now => ∀ loaded, store.file = some (.image loaded) →
    loaded.crc32 = recordCrc loaded.record → recordCrc (restoredRecord loaded.record now) = 0
  | .clearDirty =>
    recordCrc (sysStateClearDirty store.statics.state).record = store.statics.state.crc32
  | _ => True

omit [CLayout FaultRecord] in
/-- A save of a clean state in the millisecond of the last one changes nothing. -/
theorem keepsSeal_save_again {store : StateStore}
    (clean : sysStateIsDirty store.statics.state = false) :
    KeepsSeal store (.save store.statics.state.record.lastPersistMs) := by
  have same : savedRecord store.statics.state.record store.statics.state.record.lastPersistMs =
      store.statics.state.record := by
    rw [savedRecord, ← clean]
    rfl
  exact congrArg recordCrc same

/-! ### Each call -/

variable {store : StateStore}

omit [CLayout FaultRecord] in
theorem sysStateInit_cleanVerifies (now : UInt64) : CleanVerifies (sysStateInit now) :=
  fun _ => Sealed.updateCrc_verifies _

omit [CLayout FaultRecord] in
/-- A state whose flag is down carries its checksum exactly when it is the one of its record. -/
theorem cleanVerifies_iff {sys : SystemState} (clean : sysStateIsDirty sys = false) :
    CleanVerifies sys ↔ recordCrc sys.record = sys.crc32 :=
  ⟨fun carries => beq_iff_eq.mp (carries clean), fun same _ => beq_iff_eq.mpr same⟩

omit [CLayout FaultRecord] in
/-- What a load leaves carries its checksum unless an accepted record has another one than zero. -/
theorem sysStateLoad_cleanVerifies_iff (file : Option StateFile) (now : UInt64) :
    CleanVerifies (sysStateLoad file now) ↔ ∀ loaded, file = some (.image loaded) →
      loaded.crc32 = recordCrc loaded.record →
        recordCrc (restoredRecord loaded.record now) = 0 := by
  have refused : CleanVerifies (sysStateInit now) := sysStateInit_cleanVerifies now
  match file with
  | none => exact iff_of_true refused fun _ same => nomatch same
  | some .short => exact iff_of_true refused fun _ same => nomatch same
  | some (.image loaded) =>
    rw [sysStateLoad]
    by_cases right : loaded.crc32 = recordCrc loaded.record
    · have accepted : acceptState loaded now = ⟨restoredRecord loaded.record now, 0⟩ :=
        if_neg (not_not.mpr right)
      rw [accepted, cleanVerifies_iff rfl]
      constructor
      · rintro zero _ ⟨⟩ _
        exact zero
      · exact fun zero => zero loaded rfl right
    · rw [acceptState_of_wrong right]
      refine iff_of_true refused ?_
      rintro _ ⟨⟩ same
      exact absurd same right

/-- What the good calls preserve: a clean state carries its checksum, and the state is
initialized. -/
structure Carrying (store : StateStore) : Prop where
  carries : CleanVerifies store.statics.state
  initialized : store.statics.state.record.initialized = true

/-- A call leaves a clean state with its checksum exactly under its condition. -/
theorem storeCall_verifies_iff (carrying : Carrying store) (call : StoreCall) :
    CleanVerifies (storeCall store call).statics.state ↔ KeepsSeal store call := by
  obtain ⟨carries, initialized⟩ := carrying
  cases call with
  | init now => exact iff_of_true (sysStateInit_cleanVerifies now) trivial
  | access access now =>
    refine iff_of_true ?_ trivial
    rcases sysAccess_marks store.statics access.property now with dirty | same
    · intro clean
      exact absurd (dirty.symm.trans clean) Bool.false_ne_true.symm
    · rw [storeCall]
      exact same ▸ carries
  | clearDirty => exact cleanVerifies_iff rfl
  | save now =>
    have saved : sysStateSave store.statics.state store.file .succeeds now =
        (markSaved store.statics.state.updateCrc now, some (.image store.statics.state.updateCrc),
          .ok) :=
      if_pos initialized
    rw [storeCall, saved]
    exact cleanVerifies_iff rfl
  | load now => exact sysStateLoad_cleanVerifies_iff store.file now
  | updateCrc => exact iff_of_true (fun _ => Sealed.updateCrc_verifies _) trivial

theorem storeCall_initialized (initialized : store.statics.state.record.initialized = true)
    (call : StoreCall) : (storeCall store call).statics.state.record.initialized = true := by
  cases call with
  | access access now => exact sysAccess_initialized _ _ initialized
  | save now =>
    rw [storeCall, sysStateSave, if_pos initialized]
    exact initialized
  | load now => exact (sysStateLoad_running store.file now).1
  | init now => rfl
  | clearDirty => exact initialized
  | updateCrc => exact initialized

/-! ### Every run -/

/-- The statics after `sys_state_init`, with whatever is in the file. -/
def StateStore.start (faults : FaultMgmt) (lastUptimeUpdate now : UInt64)
    (file : Option StateFile) : StateStore :=
  ⟨⟨sysStateInit now, lastUptimeUpdate, faults⟩, file⟩

omit [CLayout FaultRecord] in
theorem start_carrying (faults : FaultMgmt) (lastUptimeUpdate now : UInt64)
    (file : Option StateFile) : Carrying (StateStore.start faults lastUptimeUpdate now file) :=
  ⟨sysStateInit_cleanVerifies now, rfl⟩

/-- In every run from `sys_state_init` a clean state carries its checksum throughout exactly when
every call meets its condition. -/
theorem clean_verifies_iff (faults : FaultMgmt) (lastUptimeUpdate now : UInt64)
    (file : Option StateFile) (calls : List StoreCall) :
    Throughout storeCall (fun store => CleanVerifies store.statics.state)
        (StateStore.start faults lastUptimeUpdate now file) calls ↔
      EachStep storeCall KeepsSeal (StateStore.start faults lastUptimeUpdate now file) calls := by
  have initial := start_carrying faults lastUptimeUpdate now file
  exact @throughout_iff_eachStep _ _ storeCall (fun store => CleanVerifies store.statics.state)
    Carrying KeepsSeal (fun store carrying => carrying.carries)
    (fun store call carrying => storeCall_verifies_iff carrying call)
    (fun store call carrying kept =>
      ⟨(storeCall_verifies_iff carrying call).mpr kept,
        storeCall_initialized carrying.initialized call⟩)
    _ initial calls

end

/-! ### The layout of the state -/

/-- Two times of a save that differ in their last byte alone give different checksums. -/
theorem savedRecord_byte_inj (format : FloatFormat) (record : SystemRecord)
    {first second : UInt64} (near : first.toNat / 256 = second.toNat / 256)
    (same : @recordCrc _ (systemLayout format) (savedRecord record first) =
      @recordCrc _ (systemLayout format) (savedRecord record second)) : first = second := by
  have split : ∀ time : UInt64, @recordCrc _ (systemLayout format) (savedRecord record time) =
      smartQsoCrc32 ((savedRecord record 0).head format ++ UInt8.ofNat time.toNat ::
        (ByteOrder.littleEndian 7 (time.toNat / 256) ++ wordBytes 0)) := by
    intro time
    exact congrArg smartQsoCrc32 (List.append_assoc _ _ _)
  rw [split, split, near] at same
  have last := congrArg UInt8.toNat (smartQsoCrc32_byte_inj _ _ same)
  rw [UInt8.toNat_ofNat', UInt8.toNat_ofNat'] at last
  exact UInt64.toNat_inj.mp (Nat.ext_div_mod near last)

/-- However floating-point numbers are represented, a state that is saved a millisecond after
`sys_state_init` is clean and does not carry its checksum. -/
theorem saved_state_unsealed :
    ¬ ∃ format : FloatFormat,
      letI := CLayout.blank FaultRecord
      letI := systemLayout format
      Throughout storeCall (fun store => CleanVerifies store.statics.state)
        (StateStore.start FaultMgmt.boot 0 0 none) [.save 1] := by
  rintro ⟨format, throughout⟩
  let := CLayout.blank FaultRecord
  let := systemLayout format
  have carries : recordCrc (savedRecord (systemDefaults 0) 1) = recordCrc (systemDefaults 0) :=
    (storeCall_verifies_iff (start_carrying FaultMgmt.boot 0 0 none) (.save 1)).mp throughout.2
  have unsaved : systemDefaults 0 = savedRecord (systemDefaults 0) 0 := rfl
  have times : (1 : UInt64) = 0 :=
    savedRecord_byte_inj format (systemDefaults 0) (by decide) (unsaved ▸ carries)
  exact absurd times (by decide)

end SmartQso
