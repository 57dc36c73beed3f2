/-
This file proves what the storage of the system state gives back. A save whose record
reaches the file is undone by no later access: a load restores every block and the
operational state. The file is emptied before it is written, so a save that is
interrupted loses the one before it, and a save whose last error goes unnoticed loses
its own. The simulated flash has no room for the state and stores nothing.
-/

import SmartQso.HalFlash

namespace SmartQso

open Runs

/-! ### Loading -/

section

variable [CLayout SystemRecord]

/-- A record with a wrong checksum is refused. -/
theorem acceptState_of_wrong {loaded : SystemState} (wrong : loaded.crc32 ≠ recordCrc loaded.record)
    (now : UInt64) : acceptState loaded now = sysStateInit now := if_pos wrong

/-- A sealed record is accepted, with a new context for the state machine. -/
theorem acceptState_of_verifies {loaded : SystemState} (verifies : loaded.verifies = true)
    (now : UInt64) :
    systemView (acceptState loaded now) = systemView loaded ∧
      (acceptState loaded now).record.smContext = smInit (sysGetOperationalState loaded) now ∧
      (acceptState loaded now).record.persistenceDirty = false := by
  have right : loaded.crc32 = recordCrc loaded.record := (beq_iff_eq.mp verifies).symm
  rw [acceptState, if_neg (not_not.mpr right)]
  exact ⟨rfl, rfl, rfl⟩

/-- What a load makes of an intact file. -/
theorem sysStateLoad_image {stored : SystemState} (verifies : stored.verifies = true)
    (now : UInt64) : systemView (sysStateLoad (some (.image stored)) now) = systemView stored :=
  (acceptState_of_verifies verifies now).1

/-- What a load makes of a file that was emptied. -/
theorem sysStateLoad_short (bootMs now : UInt64) :
    systemView (sysStateLoad (some .short) now) = systemView (sysStateInit bootMs) := rfl

/-! ### Reachable states -/

variable [CLayout FaultRecord]

/-- The statics after an initialization and accesses. -/
def afterAccesses (bootMs lastUptimeUpdate : UInt64) (faults : FaultMgmt)
    (accesses : List (SysAccess × UInt64)) : SysStatics :=
  finalState sysAccess ⟨sysStateInit bootMs, lastUptimeUpdate, faults⟩ accesses

omit [CLayout SystemRecord] in
/-- No access takes back the initialization. -/
theorem sysAccess_initialized (statics : SysStatics) (access : SysAccess × UInt64)
    (initialized : statics.state.record.initialized = true) :
    (sysAccess statics access).state.record.initialized = true := by
  obtain ⟨access, now⟩ := access
  cases access with
  | setTemperature sensor tempC =>
    simp only [sysAccess, sysSetTemperature]
    split <;> exact initialized
  | setBeaconInterval intervalS =>
    simp only [sysAccess, sysSetBeaconInterval]
    split <;> exact initialized
  | updateUptime =>
    simp only [sysAccess, sysUpdateUptime]
    split <;> split <;> exact initialized
  | _ => exact initialized

theorem afterAccesses_initialized (bootMs lastUptimeUpdate : UInt64) (faults : FaultMgmt)
    (accesses : List (SysAccess × UInt64)) :
    (afterAccesses bootMs lastUptimeUpdate faults accesses).state.record.initialized = true :=
  @finalState_of_invariant _ _ sysAccess (fun statics => statics.state.record.initialized = true)
    sysAccess_initialized _ rfl accesses

/-! ### The round trip -/

omit [CLayout FaultRecord] in
/-- What an answered save leaves in the file: the record, unless it never left the buffer. -/
theorem sysStateSave_ok {sys : SystemState} {file : Option StateFile} {io : SaveIo}
    {saveMs : UInt64} (answered : (sysStateSave sys file io saveMs).2.2 = .ok) :
    (sysStateSave sys file io saveMs).2.1 =
      some (if io = .closeFails then .short else .image sys.updateCrc) := by
  unfold sysStateSave at answered ⊢
  split at answered
  case isTrue started =>
    rw [if_pos started]
    cases io with
    | openFails => cases answered
    | writeFails => cases answered
    | closeFails => rfl
    | succeeds => rfl
  case isFalse => cases answered

/-- Once a save has answered `SMART_QSO_OK`, a load after any accesses restores the blocks and the
operational state, with a new context and a clean flag, exactly when `fclose` did not fail, or
when nothing differs from the defaults. A file that is too short or has a wrong checksum gives the
defaults. -/
theorem savedState_restored_iff (bootMs lastUptimeUpdate : UInt64) (faults : FaultMgmt)
    (before after : List (SysAccess × UInt64)) (file : Option StateFile) (io : SaveIo)
    (saveMs loadMs : UInt64)
    (answered : (sysStateSave (afterAccesses bootMs lastUptimeUpdate faults before).state file io
      saveMs).2.2 = .ok) :
    let statics := afterAccesses bootMs lastUptimeUpdate faults before
    let save := sysStateSave statics.state file io saveMs
    let later := finalState sysAccess { statics with state := save.1 } after
    let restored := (loadState later save.2.1 loadMs).state
    ((systemView restored = systemView statics.state ∧
        restored.record.smContext = smInit (sysGetOperationalState statics.state) loadMs ∧
        restored.record.persistenceDirty = false) ↔
      (io ≠ .closeFails ∨ systemView statics.state = systemView (sysStateInit bootMs))) ∧
    sysStateLoad (some .short) loadMs = sysStateInit loadMs ∧
    ∀ stored : SystemState, stored.crc32 ≠ recordCrc stored.record →
      sysStateLoad (some (.image stored)) loadMs = sysStateInit loadMs := by
  refine ⟨?_, rfl, fun stored wrong => acceptState_of_wrong wrong loadMs⟩
  dsimp only [loadState]
  rw [sysStateSave_ok answered]
  generalize (afterAccesses bootMs lastUptimeUpdate faults before).state = sys
  by_cases lost : io = .closeFails
  · rw [if_pos lost]
    have defaults : systemView (sysStateLoad (some .short) loadMs) =
        systemView (sysStateInit bootMs) := sysStateLoad_short bootMs loadMs
    rw [defaults]
    constructor
    · rintro ⟨same, _⟩
      exact Or.inr same.symm
    · rintro (kept | same)
      · exact absurd lost kept
      · have operational : sysGetOperationalState sys = .boot :=
          congrArg SystemView.operational same
        rw [operational]
        exact ⟨same.symm, rfl, rfl⟩
  · rw [if_neg lost]
    exact iff_of_true (acceptState_of_verifies (Sealed.updateCrc_verifies sys) loadMs)
      (Or.inl lost)

end

/-- A command that was counted before the save is counted after the load. -/
theorem savedState_restored_command :
    letI := CLayout.blank FaultRecord
    letI := CLayout.blank SystemRecord
    let statics := afterAccesses 0 0 FaultMgmt.boot [(.incrementCommandCount, 5)]
    let save := sysStateSave statics.state none .succeeds 6
    let later := finalState sysAccess { statics with state := save.1 }
      [(.incrementCommandCount, 7)]
    systemView (loadState later save.2.1 8).state = systemView statics.state :=
  let := CLayout.blank FaultRecord
  let := CLayout.blank SystemRecord
  ((savedState_restored_iff 0 0 FaultMgmt.boot [(.incrementCommandCount, 5)]
    [(.incrementCommandCount, 7)] none .succeeds 6 8 rfl).1.mpr (Or.inl (by decide))).1

/-- A command that was counted before a save whose `fclose` failed is not counted after the load,
although the save answered `SMART_QSO_OK`. -/
theorem savedState_lost :
    letI := CLayout.blank FaultRecord
    letI := CLayout.blank SystemRecord
    ¬ ∀ (before after : List (SysAccess × UInt64)) (file : Option StateFile) (io : SaveIo)
      (saveMs loadMs : UInt64),
      (sysStateSave (afterAccesses 0 0 FaultMgmt.boot before).state file io saveMs).2.2 = .ok →
      let statics := afterAccesses 0 0 FaultMgmt.boot before
      let save := sysStateSave statics.state file io saveMs
      let later := finalState sysAccess { statics with state := save.1 } after
      systemView (loadState later save.2.1 loadMs).state = systemView statics.state := by
  let := CLayout.blank FaultRecord
  let := CLayout.blank SystemRecord
  intro claimed
  have same := claimed [(.incrementCommandCount, 5)] [] none .closeFails 6 8 rfl
  have counted : (0 : UInt32) = 1 := congrArg (fun view => view.mission.commandCount) same
  exact absurd counted (by decide)

/-! ### Interrupted saves -/

/-- The file after a save of an initialized state, by the fate of the record in it. -/
theorem fileAfter_eq [CLayout SystemRecord] {sys : SystemState}
    (started : sys.record.initialized = true) (file : Option StateFile) (saveMs : UInt64)
    (interruption : SaveInterruption) :
    fileAfter sys file saveMs interruption =
      match interruption.fate with
      | .kept => file
      | .lost => some .short
      | .replaced => some (.image sys.updateCrc) := by
  cases interruption with
  | answer io =>
    rw [fileAfter, sysStateSave, if_pos started]
    cases io <;> rfl
  | reset stop =>
    cases stop with
    | beforeClose flushed => cases flushed <;> rfl
    | _ => rfl

section

variable [StateImage] [CLayout FaultRecord]

/-- After an interrupted save a load restores the record that was in the file exactly when the
interruption came before the file was opened, or when the load gives the same blocks from what is
there instead: the defaults when the file was emptied, the new record when it was written. The
simulated flash never holds a record: no save of the flight build succeeds on it, and every load
gives the defaults. -/
theorem interruptedSave_restores_iff (bootMs lastUptimeUpdate : UInt64) (faults : FaultMgmt)
    (accesses : List (SysAccess × UInt64)) (saved : SystemState) (saveMs loadMs : UInt64)
    (interruption : SaveInterruption) (flash : HalFlash)
    (verifies : saved.verifies = true) (initialized : flash.initialized = true) :
    let sys := (afterAccesses bootMs lastUptimeUpdate faults accesses).state
    (systemView (sysStateLoad (fileAfter sys (some (.image saved)) saveMs interruption) loadMs) =
        systemView saved ↔
      match interruption.fate with
      | .kept => True
      | .lost => systemView saved = systemView (sysStateInit bootMs)
      | .replaced => systemView sys = systemView saved) ∧
    (sysStateSaveFlash sys flash saveMs).2.2 = .errorIo ∧
    sysStateLoadFlash flash loadMs = sysStateInit loadMs := by
  have started := afterAccesses_initialized bootMs lastUptimeUpdate faults accesses
  generalize (afterAccesses bootMs lastUptimeUpdate faults accesses).state = sys at started ⊢
  refine ⟨?_, ?_, sysStateLoadFlash_eq initialized loadMs⟩
  · rw [fileAfter_eq started]
    cases interruption.fate with
    | kept => exact iff_of_true (sysStateLoad_image verifies loadMs) trivial
    | lost =>
      have defaults := sysStateLoad_short bootMs loadMs
      exact ⟨fun same => same.symm.trans defaults, fun same => defaults.trans same.symm⟩
    | replaced =>
      have restored := sysStateLoad_image (Sealed.updateCrc_verifies sys) loadMs
      exact ⟨fun same => restored.symm.trans same, fun same => restored.trans same⟩
  · rw [sysStateSaveFlash_eq started initialized]

end

/-- A reset before the file is opened leaves the record of the defaults in it. -/
theorem interruptedSave_restores_defaults :
    letI := StateImage.blank
    letI := CLayout.blank FaultRecord
    let sys := (afterAccesses 0 0 FaultMgmt.boot [(.incrementCommandCount, 5)]).state
    systemView (sysStateLoad (fileAfter sys (some (.image (sysStateInit 0))) 6
      (.reset .beforeOpen)) 7) = systemView (sysStateInit 0) :=
  let := StateImage.blank
  let := CLayout.blank FaultRecord
  (interruptedSave_restores_iff 0 0 FaultMgmt.boot [(.incrementCommandCount, 5)] (sysStateInit 0)
    6 7 (.reset .beforeOpen) (halFlashInit ⟨false, fun _ => none⟩) (by decide) rfl).1.mpr trivial

/-- A counted command is saved; the next save opens the file and cannot write it; the load after
it gives the defaults, without the command. -/
theorem interruptedSave_loses :
    letI := StateImage.blank
    letI := CLayout.blank FaultRecord
    ¬ ∀ (accesses : List (SysAccess × UInt64)) (saved : SystemState) (saveMs loadMs : UInt64)
      (interruption : SaveInterruption), saved.verifies = true → interruption.fate ≠ .replaced →
      systemView (sysStateLoad (fileAfter (afterAccesses 0 0 FaultMgmt.boot accesses).state
        (some (.image saved)) saveMs interruption) loadMs) = systemView saved := by
  let := StateImage.blank
  let := CLayout.blank FaultRecord
  intro claimed
  have same := claimed [(.incrementCommandCount, 5)]
    (afterAccesses 0 0 FaultMgmt.boot [(.incrementCommandCount, 5)]).state.updateCrc 6 7
    (.answer .writeFails) (Sealed.updateCrc_verifies _) (by decide)
  have counted : (0 : UInt32) = 1 := congrArg (fun view => view.mission.commandCount) same
  exact absurd counted (by decide)

/-! ### The two backends -/

section

variable [StateImage]

/-- A history without a save gives the defaults over and over, from either medium. -/
theorem observe_loads {calls : List PersistCall} (sys : SystemState) {flash : HalFlash}
    (initialized : flash.initialized = true) (loads : ∀ call ∈ calls, ∃ now, call = .load now) :
    observe fileCall sys none calls = observe flashCall sys flash calls := by
  induction calls generalizing sys with
  | nil => rfl
  | cons call rest inductionHypothesis =>
    obtain ⟨now, rfl⟩ := loads call List.mem_cons_self
    have later : ∀ next ∈ rest, ∃ now, next = .load now := fun next member =>
      loads next (List.mem_cons_of_mem _ member)
    simp only [observe, fileCall, flashCall, sysStateLoad, sysStateLoadFlash_eq initialized,
      inductionHypothesis (sysStateInit now) later]

/-- The first save tells the media apart. -/
theorem observe_save {calls : List PersistCall} {sys : SystemState} {flash : HalFlash}
    (started : sys.record.initialized = true) (initialized : flash.initialized = true)
    (same : observe fileCall sys none calls = observe flashCall sys flash calls) :
    ∀ call ∈ calls, ∃ now, call = .load now := by
  induction calls generalizing sys with
  | nil => exact fun call member => absurd member List.not_mem_nil
  | cons call rest inductionHypothesis =>
    cases call with
    | save now =>
      have answers := congrArg Prod.fst (List.cons.inj same).1
      simp only [fileCall, flashCall, sysStateSave, if_pos started,
        sysStateSaveFlash_eq started initialized] at answers
      cases answers
    | load now =>
      have tails := (List.cons.inj same).2
      simp only [fileCall, flashCall, sysStateLoad, sysStateLoadFlash_eq initialized] at tails
      have restStarted : (sysStateInit now).record.initialized = true := rfl
      have later := inductionHypothesis restStarted tails
      exact List.forall_mem_cons.mpr ⟨⟨now, rfl⟩, later⟩

/-- From every reachable state, with nothing stored yet, the two branches answer the same and
leave the same states in exactly those histories of saves and loads that have no save. -/
theorem backends_agree_iff [CLayout FaultRecord] (bootMs lastUptimeUpdate : UInt64)
    (faults : FaultMgmt) (accesses : List (SysAccess × UInt64)) (flash : HalFlash)
    (calls : List PersistCall) :
    let sys := (afterAccesses bootMs lastUptimeUpdate faults accesses).state
    observe fileCall sys none calls = observe flashCall sys (halFlashInit flash) calls ↔
      ∀ call ∈ calls, ∃ now, call = .load now :=
  ⟨observe_save (afterAccesses_initialized bootMs lastUptimeUpdate faults accesses)
      (halFlashInit_initialized flash),
    observe_loads _ (halFlashInit_initialized flash)⟩

end

/-- A single save of the defaults answers `SMART_QSO_OK` over the file and `SMART_QSO_ERROR_IO`
over the flash. -/
theorem backends_differ :
    letI := StateImage.blank
    letI := CLayout.blank FaultRecord
    ¬ ∀ (accesses : List (SysAccess × UInt64)) (calls : List PersistCall),
      let sys := (afterAccesses 0 0 FaultMgmt.boot accesses).state
      observe fileCall sys none calls =
        observe flashCall sys (halFlashInit ⟨false, fun _ => none⟩) calls := by
  let := StateImage.blank
  let := CLayout.blank FaultRecord
  intro claimed
  have started : (sysStateInit 0).record.initialized = true := rfl
  have loads := observe_save started rfl (claimed [] [.save 0])
  obtain ⟨now, same⟩ := loads (.save 0) List.mem_cons_self
  cases same

end SmartQso
