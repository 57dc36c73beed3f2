/-
This file settles what a boot brings back. Every change of the EPS writes its snapshot
and every fault the log, so these survive a loss of power between any two iterations.
The mission data is written in the first iteration and in each hundredth after it. A boot
brings back its uptime and its energy as they were less than a hundred iterations before,
and all else of it as it was, and counts the boot.
-/

import Mathlib.Algebra.Order.Field.Rat
import SmartQso.FaultLogDurability
import SmartQso.FlightSessions
import SmartQso.MissionUptime

namespace SmartQso

open Runs

/-- The most energy that an iteration adds, in watt-hours. -/
def iterationEnergyWh : ℚ := discharge true * (37 / 10) / 3600

/-- Two records of a mission agree in all that only a boot changes. -/
structure MissionRecord.SameSession (stored record : MissionRecord) : Prop where
  missionStartMs : stored.missionStartMs = record.missionStartMs
  resetCount : stored.resetCount = record.resetCount
  lastResetMs : stored.lastResetMs = record.lastResetMs
  faultCount : stored.faultCount = record.faultCount
  missionPhase : stored.missionPhase = record.missionPhase
  lastFault : stored.lastFault = record.lastFault

/-- What a boot brings back of the state at the loss of power, where `saved` is what the file has of
the mission data: all but the uptime and the energy since. -/
structure BroughtBack [CLayout FaultRecord] (before after : Flight) (saved : MissionRecord)
    (input : BootInput) (lostWh : ℚ) : Prop where
  eps : after.eps.state = before.eps.state
  faults : after.eps.faults.log = (logUartInit before.eps input).faults.log
  missionStartMs : after.mission.data.record.missionStartMs =
    before.mission.data.record.missionStartMs
  resetCount : after.mission.data.record.resetCount = before.mission.data.record.resetCount + 1
  lastResetMs : after.mission.data.record.lastResetMs = input.nowMs
  faultCount : after.mission.data.record.faultCount = before.mission.data.record.faultCount
  missionPhase : after.mission.data.record.missionPhase = before.mission.data.record.missionPhase
  lastFault : after.mission.data.record.lastFault = before.mission.data.record.lastFault
  totalUptimeMs : after.mission.data.record.totalUptimeMs = saved.totalUptimeMs
  totalEnergyWh : after.mission.data.record.totalEnergyWh = saved.totalEnergyWh
  energyKept : before.mission.data.record.totalEnergyWh - lostWh ≤
    after.mission.data.record.totalEnergyWh
  energyAdded : after.mission.data.record.totalEnergyWh ≤ before.mission.data.record.totalEnergyWh

/-- The event is a boot. -/
def CraftEvent.IsBoot : CraftEvent → Prop
  | .boot _ => True
  | _ => False

/-- The event is an iteration of the main loop. -/
def CraftEvent.IsIteration : CraftEvent → Prop
  | .iterate _ => True
  | _ => False

/-- The most iterations that are not in the file after an event. -/
def CraftEvent.unsavedIterations : CraftEvent → ℕ
  | .iterate _ => 99
  | _ => 0

/-- The most energy that is not in the file after an event. -/
def CraftEvent.unsavedWh : CraftEvent → ℚ
  | .iterate _ => 99 * iterationEnergyWh
  | _ => 0

section

variable [CLayout EpsRecord] [CLayout FaultRecord] [CLayout MissionRecord]

/-! ### The fault log and its file -/

/-- A boot loads the log as it is. -/
structure FaultMgmt.Stored (faults : FaultMgmt) : Prop where
  verifies : ∀ entry ∈ faults.log.entries, entry.verifies = true
  reload : (faultMgmtInit (FaultMgmt.unloaded faults.file)).log = faults.log

omit [CLayout EpsRecord] [CLayout FaultRecord] [CLayout MissionRecord] in
theorem FaultLog.ext_entries {first second : FaultLog} (same : first.entries = second.entries) :
    first = second := by
  cases first
  cases second
  cases same
  rfl

omit [CLayout EpsRecord] [CLayout MissionRecord] in
theorem stored_of_saved {faults : FaultMgmt} (saved : faults.file = some faults.log.entries)
    (verifies : ∀ entry ∈ faults.log.entries, entry.verifies = true) : faults.Stored := by
  refine ⟨verifies, FaultLog.ext_entries ?_⟩
  unfold faultMgmtInit faultLogLoad FaultMgmt.unloaded
  rw [saved]
  exact ofFile_entries verifies

omit [CLayout EpsRecord] [CLayout MissionRecord] in
theorem faultLogAdd_stored {faults : FaultMgmt} (stored : faults.Stored) (faultType : FaultType)
    (severity : FaultSeverity) (description : String) (soc : ℚ) (now : UInt64) :
    (faultLogAdd faults faultType severity description soc now).Stored := by
  refine stored_of_saved rfl fun entry member => ?_
  unfold faultLogAdd faultLogSave at member
  dsimp only at member
  rw [FaultLog.add_entries] at member
  rcases List.mem_append.mp (List.mem_of_mem_drop member) with older | added
  · exact stored.verifies entry older
  · rw [List.mem_singleton.mp added]
    exact beq_self_eq_true _

omit [CLayout EpsRecord] [CLayout MissionRecord] in
/-- What is loaded of any file is loaded again. -/
theorem faultMgmtInit_stored (file : Option (List FaultLogEntry)) :
    (faultMgmtInit (FaultMgmt.unloaded file)).Stored := by
  refine ⟨?_, ?_⟩
  · cases file with
    | none => exact List.forall_mem_nil _
    | some stored => exact fun entry member => (List.mem_filter.mp member).2
  · rw [faultMgmtInit_file]
    rfl

/-! ### The EPS and its file -/

/-- A boot loads the state as it is. -/
structure Eps.Stored (eps : Eps) : Prop where
  written : eps.written.head? = some eps.state
  verifies : eps.state.verifies = true

omit [CLayout FaultRecord] [CLayout MissionRecord] in
theorem epsSaveConfig_stored (eps : Eps) : (epsSaveConfig eps).Stored :=
  ⟨rfl, Sealed.updateCrc_verifies eps.state⟩

omit [CLayout MissionRecord] in
theorem eps_stored_keptByCalls : KeptByCalls Eps.Stored where
  logs _ _ _ _ _ _ stored := ⟨stored.written, stored.verifies⟩
  watchdog _ _ _ stored := ⟨stored.written, stored.verifies⟩
  unloads eps soc now stored := by
    unfold epsControlPayload
    split
    · exact stored
    · rw [if_neg fun both => absurd both.1 Bool.false_ne_true]
      exact epsSaveConfig_stored _
  changes eps mode soc now stored := by
    unfold epsSetPowerMode
    split
    · exact stored
    · rw [PowerMode.ofValue?_value]
      exact epsSaveConfig_stored _
  saves eps _ := epsSaveConfig_stored eps

omit [CLayout FaultRecord] [CLayout MissionRecord] in
theorem controlSwitch_faults (switch : LoadSwitch) (eps : Eps) (enable : Bool) (now : UInt64) :
    (controlSwitch switch eps enable now).1.faults = eps.faults := by
  unfold controlSwitch
  split <;> rfl

omit [CLayout MissionRecord] in
theorem epsControlPayload_faultsStored {eps : Eps} (stored : eps.faults.Stored) (enable : Bool)
    (soc : ℚ) (now : UInt64) : (epsControlPayload eps enable soc now).1.faults.Stored := by
  unfold epsControlPayload
  split
  · exact stored
  split
  · exact faultLogAdd_stored stored _ _ _ _ _
  · exact faultLogAdd_stored stored _ _ _ _ _

omit [CLayout MissionRecord] in
theorem faults_stored_keptByCalls : KeptByCalls fun eps => eps.faults.Stored where
  logs _ _ _ _ _ _ stored := faultLogAdd_stored stored _ _ _ _ _
  watchdog eps soc now stored := by
    have added := faultLogAdd_stored stored .watchdog .error "Watchdog timeout: system reset" soc
      now
    exact ⟨added.verifies, added.reload⟩
  unloads _ soc now stored := epsControlPayload_faultsStored stored false soc now
  changes eps mode soc now stored := by
    unfold epsSetPowerMode
    split
    · exact stored
    · rw [PowerMode.ofValue?_value]
      refine faultLogAdd_stored ?_ _ _ _ _ _
      show Eps.faults (epsControlBeacon _ _ _).1 |>.Stored
      unfold epsControlBeacon epsControlAdcs epsControlRadio
      rw [controlSwitch_faults, controlSwitch_faults, controlSwitch_faults]
      have requested : (storeMode eps mode.value now).faults.Stored := stored
      exact epsControlPayload_faultsStored requested _ soc now
  saves _ stored := stored

/-! ### The mission data and its file -/

/-- The file holds the record, but for energy that was added since. -/
def MissionData.Stored (mission : MissionData) (unsavedWh : ℚ) : Prop :=
  ∃ stored : Sealed MissionRecord, mission.file = some stored ∧ stored.verifies = true ∧
    stored.record.SameSession mission.data.record ∧
    stored.record.totalEnergyWh ≤ mission.data.record.totalEnergyWh ∧
    mission.data.record.totalEnergyWh ≤ stored.record.totalEnergyWh + unsavedWh

omit [CLayout EpsRecord] [CLayout FaultRecord] [CLayout MissionRecord] in
theorem MissionRecord.SameSession.refl (record : MissionRecord) : record.SameSession record :=
  ⟨rfl, rfl, rfl, rfl, rfl, rfl⟩

omit [CLayout EpsRecord] [CLayout FaultRecord] in
theorem missionDataSave_stored (mission : MissionData) : (missionDataSave mission).Stored 0 :=
  ⟨mission.data.updateCrc, rfl, Sealed.updateCrc_verifies mission.data, .refl _, le_rfl,
    (add_zero _).ge⟩

/-- The file holds this record. -/
def MissionData.Holds (mission : MissionData) (record : MissionRecord) : Prop :=
  ∃ stored : Sealed MissionRecord,
    mission.file = some stored ∧ stored.verifies = true ∧ stored.record = record

omit [CLayout EpsRecord] [CLayout FaultRecord] in
theorem missionDataSave_holds (mission : MissionData) :
    (missionDataSave mission).Holds (missionDataSave mission).data.record :=
  ⟨mission.data.updateCrc, rfl, Sealed.updateCrc_verifies mission.data, rfl⟩

omit [CLayout EpsRecord] [CLayout FaultRecord] in
theorem MissionData.Holds.record_eq {mission : MissionData} {record : MissionRecord}
    (holds : mission.Holds record) {stored : Sealed MissionRecord}
    (file : mission.file = some stored) : stored.record = record := by
  obtain ⟨held, same, -, heldRecord⟩ := holds
  rw [Option.some.inj (file.symm.trans same)]
  exact heldRecord

omit [CLayout EpsRecord] [CLayout FaultRecord] in
theorem MissionData.Stored.mono {mission : MissionData} {unsavedWh moreWh : ℚ}
    (kept : mission.Stored unsavedWh) (more : unsavedWh ≤ moreWh) : mission.Stored moreWh := by
  obtain ⟨stored, file, verifies, same, least, most⟩ := kept
  exact ⟨stored, file, verifies, same, least, most.trans (add_le_add_right more _)⟩

omit [CLayout EpsRecord] [CLayout FaultRecord] in
theorem missionDataUpdateUptime_stored {mission : MissionData} {unsavedWh : ℚ}
    (kept : mission.Stored unsavedWh) (uptimeMs : UInt64) :
    (missionDataUpdateUptime mission uptimeMs).Stored unsavedWh := by
  obtain ⟨stored, file, verifies, same, least, most⟩ := kept
  exact ⟨stored, file, verifies, ⟨same.1, same.2, same.3, same.4, same.5, same.6⟩, least, most⟩

omit [CLayout EpsRecord] [CLayout FaultRecord] in
theorem missionDataAddEnergy_stored {mission : MissionData} {unsavedWh energyWh : ℚ}
    (kept : mission.Stored unsavedWh) (gained : 0 ≤ energyWh) :
    (missionDataAddEnergy mission energyWh).Stored (unsavedWh + energyWh) := by
  obtain ⟨stored, file, verifies, same, least, most⟩ := kept
  refine ⟨stored, file, verifies, ⟨same.1, same.2, same.3, same.4, same.5, same.6⟩,
    least.trans (le_add_of_nonneg_right gained), ?_⟩
  rw [← add_assoc]
  exact add_le_add_left most energyWh

omit [CLayout EpsRecord] [CLayout FaultRecord] [CLayout MissionRecord] in
/-- The energy that is added in an iteration. -/
theorem drainWh_bounds (payloadEnabled : Bool) :
    0 ≤ discharge payloadEnabled * (37 / 10) / 3600 ∧
      discharge payloadEnabled * (37 / 10) / 3600 ≤ iterationEnergyWh := by
  unfold iterationEnergyWh
  cases payloadEnabled
  · norm_num [discharge]
  · norm_num [discharge]

omit [CLayout EpsRecord] [CLayout FaultRecord] [CLayout MissionRecord] in
theorem iterationEnergyWh_nonneg : 0 ≤ iterationEnergyWh := (drainWh_bounds true).1

theorem updateMissionState_missionStored {flight : Flight} {unsavedWh : ℚ}
    (kept : flight.mission.Stored unsavedWh) (now : UInt64) :
    (updateMissionState flight now).mission.Stored (unsavedWh + iterationEnergyWh) := by
  have updated := missionDataUpdateUptime_stored kept (now - flight.programStartMs)
  unfold updateMissionState
  dsimp only
  split
  · obtain ⟨gained, atMost⟩ := drainWh_bounds (epsIsPayloadEnabled flight.eps)
    exact (missionDataAddEnergy_stored updated gained).mono (add_le_add_right atMost _)
  · exact updated.mono (le_add_of_nonneg_right iterationEnergyWh_nonneg)

theorem updateAndMonitor_missionStored {flight : Flight} {unsavedWh : ℚ}
    (kept : flight.mission.Stored unsavedWh) (input : LoopInput) :
    (updateAndMonitor flight input).mission.Stored (unsavedWh + iterationEnergyWh) := by
  rw [updateAndMonitor, (monitorSystemHealth_frame _ _ _).1]
  exact updateMissionState_missionStored kept input.updateMs

/-! ### A session -/

/-- All files hold what a boot is to bring back. -/
structure Flight.Stored (flight : Flight) (unsavedWh : ℚ) : Prop where
  eps : flight.eps.Stored
  mission : flight.mission.Stored unsavedWh

/-- What was added since the last iteration that saved. -/
def unsavedEnergyWh (flight : Flight) : ℚ :=
  ((flight.tick - 1) % persistenceIntervalTicks).toNat * iterationEnergyWh

/-- The tick of the iteration that comes next is the first one, or the files are stored. -/
structure Craft.Kept (craft : Craft) : Prop where
  faults : craft.flight.eps.faults.Stored
  running : craft.running = true → craft.flight.tick = 0 ∨
    craft.flight.Stored (unsavedEnergyWh craft.flight)
  stopped : craft.running = false → craft.flight.Stored 0

theorem mainLoopIteration_mission (flight : Flight) (input : LoopInput) :
    (mainLoopIteration flight input).mission =
      if flight.tick % persistenceIntervalTicks = 0 then
        missionDataSave (updateAndMonitor flight input).mission
      else (updateAndMonitor flight input).mission := by
  rw [← updateAndMonitor_tick flight input]
  rfl

/-- An iteration that saves stores the files. -/
theorem mainLoopIteration_saves {flight : Flight} (input : LoopInput)
    (due : flight.tick % persistenceIntervalTicks = 0) :
    (mainLoopIteration flight input).Stored 0 := by
  have tick : (updateAndMonitor flight input).tick % persistenceIntervalTicks = 0 := by
    rw [updateAndMonitor_tick]
    exact due
  unfold mainLoopIteration pollAndSave
  dsimp only
  rw [if_pos tick, if_pos tick]
  exact ⟨epsSaveConfig_stored _, missionDataSave_stored _⟩

/-- An iteration that does not save leaves its own energy unsaved. -/
theorem mainLoopIteration_keeps {flight : Flight} {unsavedWh : ℚ} (stored : flight.Stored unsavedWh)
    (input : LoopInput) (skipped : ¬ flight.tick % persistenceIntervalTicks = 0) :
    (mainLoopIteration flight input).Stored (unsavedWh + iterationEnergyWh) := by
  refine ⟨mainLoopIteration_kept eps_stored_keptByCalls stored.eps input, ?_⟩
  rw [mainLoopIteration_mission, if_neg skipped]
  exact updateAndMonitor_missionStored stored.mission input

theorem mainLoopIteration_tick (flight : Flight) (input : LoopInput) :
    (mainLoopIteration flight input).tick = flight.tick + 1 :=
  congrArg (· + 1) (updateAndMonitor_tick flight input)

omit [CLayout EpsRecord] [CLayout FaultRecord] [CLayout MissionRecord] in
theorem tick_mod_succ {tick : UInt64} (started : tick ≠ 0)
    (skipped : ¬ tick % persistenceIntervalTicks = 0) :
    (tick % persistenceIntervalTicks).toNat =
      ((tick - 1) % persistenceIntervalTicks).toNat + 1 := by
  have positive : 0 < tick.toNat := by
    rw [Nat.pos_iff_ne_zero]
    exact fun zero => started (UInt64.toNat_inj.mp zero)
  have before : (tick - 1).toNat = tick.toNat - 1 :=
    UInt64.toNat_sub_of_le _ _ (UInt64.le_iff_toNat_le.mpr positive)
  have rest : ¬ tick.toNat % 100 = 0 := fun zero => skipped (UInt64.toNat_inj.mp (by
    rw [UInt64.toNat_mod]
    exact zero))
  rw [UInt64.toNat_mod, UInt64.toNat_mod, before]
  show tick.toNat % 100 = (tick.toNat - 1) % 100 + 1
  omega

theorem mainLoopIteration_stored {flight : Flight} (input : LoopInput)
    (kept : flight.tick = 0 ∨ flight.Stored (unsavedEnergyWh flight)) :
    (mainLoopIteration flight input).Stored
      (unsavedEnergyWh (mainLoopIteration flight input)) := by
  have last : (mainLoopIteration flight input).tick - 1 = flight.tick := by
    rw [mainLoopIteration_tick]
    exact UInt64.add_sub_cancel flight.tick 1
  unfold unsavedEnergyWh
  rw [last]
  by_cases due : flight.tick % persistenceIntervalTicks = 0
  · rw [due, UInt64.toNat_zero, Nat.cast_zero, zero_mul]
    exact mainLoopIteration_saves input due
  · have started : flight.tick ≠ 0 := fun zero => due (by rw [zero]; rfl)
    have stored := mainLoopIteration_keeps (kept.resolve_left started) input due
    rw [tick_mod_succ started due, Nat.cast_succ, add_mul, one_mul]
    exact stored

/-! ### Boots -/

omit [CLayout EpsRecord] [CLayout MissionRecord] in
theorem logUartInit_stored {eps : Eps} (stored : eps.faults.Stored) (input : BootInput) :
    (logUartInit eps input).faults.Stored := by
  unfold logUartInit
  split
  · exact stored
  · exact faultLogAdd_stored stored _ _ _ _ _

omit [CLayout FaultRecord] [CLayout MissionRecord] in
theorem epsInit_faults (eps : Eps) (now : UInt64) : (epsInit eps now).faults = eps.faults := by
  unfold epsInit epsLoadConfig
  cases eps.written.head? with
  | none => rfl
  | some loaded =>
    dsimp only
    split
    · next found =>
      split at found
      · rw [← Option.some.inj found]
      · cases found
    · rfl

theorem bootCraft_kept (disk : Disk) (input : BootInput) : (bootCraft disk input).Kept := by
  refine ⟨?_, fun _ => Or.inl rfl, fun stopped => by cases stopped⟩
  refine logUartInit_stored ?_ input
  rw [epsInit_faults]
  exact faultMgmtInit_stored disk.faultLog

theorem craftStep_kept (craft : Craft) (event : CraftEvent) (kept : craft.Kept) :
    (craftStep craft event).Kept := by
  cases event with
  | boot input => exact bootCraft_kept craft.flight.disk input
  | iterate input =>
    dsimp only [craftStep]
    by_cases running : craft.running = true
    · rw [if_pos running]
      refine ⟨mainLoopIteration_kept faults_stored_keptByCalls kept.faults input,
        fun _ => Or.inr (mainLoopIteration_stored input (kept.running running)),
        fun stopped => ?_⟩
      rw [running] at stopped
      cases stopped
    · rw [if_neg running]
      exact kept
  | shutdown =>
    dsimp only [craftStep]
    by_cases running : craft.running = true
    · rw [if_pos running]
      refine ⟨stored_of_saved rfl kept.faults.verifies, fun runs => (by cases runs), fun _ => ?_⟩
      exact ⟨⟨rfl, Sealed.updateCrc_verifies _⟩, missionDataSave_stored _⟩
    · rw [if_neg running]
      exact kept

omit [CLayout EpsRecord] [CLayout FaultRecord] [CLayout MissionRecord] in
theorem unsavedEnergyWh_le (flight : Flight) :
    unsavedEnergyWh flight ≤ 99 * iterationEnergyWh := by
  refine mul_le_mul_of_nonneg_right ?_ iterationEnergyWh_nonneg
  have few : ((flight.tick - 1) % persistenceIntervalTicks).toNat ≤ 99 := by
    rw [UInt64.toNat_mod]
    exact Nat.le_of_lt_succ (Nat.mod_lt _ (by decide))
  exact_mod_cast few

omit [CLayout FaultRecord] in
theorem Flight.Stored.mono {flight : Flight} {unsavedWh moreWh : ℚ}
    (stored : flight.Stored unsavedWh) (more : unsavedWh ≤ moreWh) : flight.Stored moreWh :=
  ⟨stored.eps, stored.mission.mono more⟩

/-- After anything but a boot the files are stored. -/
theorem craftStep_stored {craft : Craft} (kept : craft.Kept) {event : CraftEvent}
    (notBoot : ¬ event.IsBoot) : (craftStep craft event).flight.Stored event.unsavedWh := by
  cases event with
  | boot input => exact absurd trivial notBoot
  | iterate input =>
    dsimp only [craftStep]
    by_cases running : craft.running = true
    · rw [if_pos running]
      exact (mainLoopIteration_stored input (kept.running running)).mono (unsavedEnergyWh_le _)
    · rw [if_neg running]
      exact (kept.stopped (Bool.eq_false_iff.mpr running)).mono
        (mul_nonneg (by norm_num) iterationEnergyWh_nonneg)
  | shutdown =>
    dsimp only [craftStep]
    by_cases running : craft.running = true
    · rw [if_pos running]
      exact ⟨⟨rfl, Sealed.updateCrc_verifies _⟩, missionDataSave_stored _⟩
    · rw [if_neg running]
      exact kept.stopped (Bool.eq_false_iff.mpr running)

omit [CLayout EpsRecord] [CLayout FaultRecord] in
/-- A boot over stored mission data continues it. -/
theorem missionDataInit_of_file {file : Option (Sealed MissionRecord)}
    {stored : Sealed MissionRecord} (found : file = some stored)
    (verifies : stored.verifies = true) (now : UInt64) :
    (missionDataInit (MissionData.boot file) now).data.record =
      { stored.record with resetCount := stored.record.resetCount + 1, lastResetMs := now } := by
  unfold missionDataInit missionDataLoad MissionData.boot
  rw [found]
  dsimp only
  rw [if_pos verifies]
  rfl

omit [CLayout FaultRecord] [CLayout MissionRecord] in
theorem epsInit_of_stored {eps : Eps} (stored : eps.Stored) (faults : FaultMgmt) (now : UInt64) :
    (epsInit (Eps.boot eps.written faults) now).state = eps.state := by
  unfold epsInit epsLoadConfig Eps.boot
  dsimp only
  rw [stored.written]
  dsimp only
  rw [if_pos stored.verifies]

theorem broughtBack_of_stored {flight : Flight} (faults : flight.eps.faults.Stored)
    {lostWh : ℚ} (stored : flight.Stored lostWh) {last : MissionRecord}
    (holds : flight.mission.Holds last) (input : BootInput) :
    BroughtBack flight (initSystem flight.disk input) last input lostWh := by
  obtain ⟨saved, file, verifies, same, least, most⟩ := stored.mission
  have newest : saved.record = last := holds.record_eq file
  have record : (initSystem flight.disk input).mission.data.record =
      { saved.record with resetCount := saved.record.resetCount + 1, lastResetMs := input.nowMs } :=
    missionDataInit_of_file file verifies input.nowMs
  have loaded := epsInit_of_stored stored.eps (faultMgmtInit (FaultMgmt.unloaded
    flight.eps.faults.file)) input.nowMs
  have state : (initSystem flight.disk input).eps.state = flight.eps.state := by
    show (logUartInit _ input).state = _
    unfold logUartInit
    split
    · exact loaded
    · exact loaded
  have log : (initSystem flight.disk input).eps.faults.log =
      (logUartInit flight.eps input).faults.log := by
    show (logUartInit _ input).faults.log = _
    unfold logUartInit
    split
    · rw [epsInit_faults]
      exact faults.reload
    · show (FaultLog.add (Eps.faults (epsInit _ _)).log _) = _
      rw [epsInit_faults]
      exact congrArg (fun log => FaultLog.add log _) faults.reload
  constructor
  case eps => exact state
  case faults => exact log
  case totalUptimeMs => rw [record, newest]
  case totalEnergyWh => rw [record, newest]
  case energyKept => rwa [record, sub_le_iff_le_add]
  case energyAdded => rwa [record]
  case resetCount => rw [record, ← same.resetCount]
  case lastResetMs => rw [record]
  case missionStartMs => rw [record, ← same.missionStartMs]
  case faultCount => rw [record, ← same.faultCount]
  case missionPhase => rw [record, ← same.missionPhase]
  case lastFault => rw [record, ← same.lastFault]

theorem craft_kept (disk : Disk) (first : BootInput) (events : List CraftEvent) :
    (finalState craftStep (bootCraft disk first) events).Kept :=
  finalState_of_invariant craftStep_kept (bootCraft_kept disk first) events

/-! ### The last save -/

/-- The iterations since the last one that saved. -/
def Craft.unsaved (craft : Craft) : ℕ :=
  if craft.running then ((craft.flight.tick - 1) % persistenceIntervalTicks).toNat else 0

/-- The mission data of a run was `saved` for the last time before the iterations `since`: the file
held it then, and is the same. -/
structure SavedBefore (start : Craft) (events saved since : List CraftEvent) : Prop where
  split : events = saved ++ since
  iterations : ∀ event ∈ since, event.IsIteration
  few : since.length ≤ (finalState craftStep start events).unsaved
  holds : (finalState craftStep start saved).flight.mission.Holds
    (finalState craftStep start saved).flight.mission.data.record
  file : (finalState craftStep start events).flight.mission.file =
    (finalState craftStep start saved).flight.mission.file

/-- The session has not come to an iteration or a shutdown. -/
def Craft.Booted (craft : Craft) : Prop :=
  craft.running = true ∧ craft.flight.tick = 0

theorem mainLoopIteration_holds (flight : Flight) (input : LoopInput)
    (due : flight.tick % persistenceIntervalTicks = 0) :
    (mainLoopIteration flight input).mission.Holds
      (mainLoopIteration flight input).mission.data.record := by
  rw [mainLoopIteration_mission, if_pos due]
  exact missionDataSave_holds _

theorem mainLoopIteration_file (flight : Flight) (input : LoopInput)
    (skipped : ¬ flight.tick % persistenceIntervalTicks = 0) :
    (mainLoopIteration flight input).mission.file = flight.mission.file := by
  rw [mainLoopIteration_mission, if_neg skipped, updateAndMonitor,
    (monitorSystemHealth_frame _ _ _).1]
  unfold updateMissionState
  dsimp only
  split
  · rfl
  · rfl

section

variable {start : Craft} {events : List CraftEvent}

theorem finalState_iterate (running : (finalState craftStep start events).running = true)
    (input : LoopInput) :
    finalState craftStep start (events ++ [.iterate input]) =
      { finalState craftStep start events with
        flight := mainLoopIteration (finalState craftStep start events).flight input } := by
  rw [finalState_append]
  exact if_pos running

theorem finalState_shutdown (running : (finalState craftStep start events).running = true) :
    finalState craftStep start (events ++ [.shutdown]) =
      ⟨shutdownSystem (finalState craftStep start events).flight, false⟩ := by
  rw [finalState_append]
  exact if_pos running

/-- What saves is the last save. -/
theorem savedBefore_of_holds (holds : (finalState craftStep start events).flight.mission.Holds
    (finalState craftStep start events).flight.mission.data.record) :
    SavedBefore start events events [] :=
  ⟨(List.append_nil _).symm, List.forall_mem_nil _, Nat.zero_le _, holds, rfl⟩

/-- The file holds what was saved last. -/
theorem SavedBefore.holds_last {saved since : List CraftEvent}
    (before : SavedBefore start events saved since) :
    (finalState craftStep start events).flight.mission.Holds
      (finalState craftStep start saved).flight.mission.data.record := by
  obtain ⟨stored, file, rest⟩ := before.holds
  exact ⟨stored, before.file.trans file, rest⟩

/-- After a shutdown an event changes nothing. -/
theorem savedBefore_of_stopped {saved since : List CraftEvent}
    (before : SavedBefore start events saved since)
    (stopped : ¬ (finalState craftStep start events).running = true) {event : CraftEvent}
    (same : finalState craftStep start (events ++ [event]) = finalState craftStep start events) :
    SavedBefore start (events ++ [event]) (events ++ [event]) [] := by
  have none : since = [] := by
    have few := before.few
    rw [Craft.unsaved, if_neg stopped] at few
    exact List.length_eq_zero_iff.mp (Nat.le_zero.mp few)
  have all : events = saved := by
    rw [before.split, none, List.append_nil]
  refine savedBefore_of_holds ?_
  rw [same]
  have holds := before.holds
  rw [← all] at holds
  exact holds

/-- An iteration that does not save is one more since the last save. -/
theorem savedBefore_of_skipped {saved since : List CraftEvent}
    (before : SavedBefore start events saved since) {input : LoopInput}
    (running : (finalState craftStep start events).running = true)
    (skipped : ¬ (finalState craftStep start events).flight.tick % persistenceIntervalTicks = 0) :
    SavedBefore start (events ++ [.iterate input]) saved (since ++ [.iterate input]) := by
  have next := finalState_iterate running input
  refine ⟨?_, ?_, ?_, before.holds, ?_⟩
  · rw [before.split, List.append_assoc]
  · exact List.forall_mem_append.mpr
      ⟨before.iterations, List.forall_mem_singleton.mpr trivial⟩
  · have few := before.few
    have started : (finalState craftStep start events).flight.tick ≠ 0 :=
      fun zero => skipped (by rw [zero]; rfl)
    rw [Craft.unsaved, if_pos running] at few
    rw [next, Craft.unsaved, if_pos running, List.length_append, List.length_singleton]
    dsimp only
    rw [mainLoopIteration_tick, UInt64.add_sub_cancel, tick_mod_succ started skipped]
    exact Nat.succ_le_succ few
  · rw [next]
    exact (mainLoopIteration_file _ input skipped).trans before.file

theorem savedBefore_of_event (before : (finalState craftStep start events).Booted ∨
      ∃ saved since, SavedBefore start events saved since)
    {event : CraftEvent} (notBoot : ¬ event.IsBoot) :
    ∃ saved since, SavedBefore start (events ++ [event]) saved since := by
  by_cases running : (finalState craftStep start events).running = true
  · cases event with
    | boot input => exact absurd trivial notBoot
    | iterate input =>
      by_cases due : (finalState craftStep start events).flight.tick % persistenceIntervalTicks = 0
      · refine ⟨_, _, savedBefore_of_holds ?_⟩
        rw [finalState_iterate running]
        exact mainLoopIteration_holds _ input due
      · have started : ¬ (finalState craftStep start events).Booted :=
          fun booted => due (by rw [booted.2]; rfl)
        obtain ⟨saved, since, last⟩ := before.resolve_left started
        exact ⟨_, _, savedBefore_of_skipped last running due⟩
    | shutdown =>
      refine ⟨_, _, savedBefore_of_holds ?_⟩
      rw [finalState_shutdown running]
      exact missionDataSave_holds _
  · obtain ⟨saved, since, last⟩ := before.resolve_left fun booted => running booted.1
    refine ⟨_, _, savedBefore_of_stopped last running ?_⟩
    rw [finalState_append]
    cases event with
    | boot input => exact absurd trivial notBoot
    | iterate input => exact if_neg running
    | shutdown => exact if_neg running

end

/-- At any time of a run the session has just begun, or was saved. -/
theorem booted_or_savedBefore (disk : Disk) (first : BootInput) (events : List CraftEvent) :
    (finalState craftStep (bootCraft disk first) events).Booted ∨
      ∃ saved since, SavedBefore (bootCraft disk first) events saved since := by
  induction events using List.reverseRecOn with
  | nil => exact Or.inl ⟨rfl, rfl⟩
  | append_singleton events event inductionHypothesis =>
    cases event with
    | boot input =>
      rw [finalState_append]
      exact Or.inl ⟨rfl, rfl⟩
    | iterate input => exact Or.inr (savedBefore_of_event inductionHypothesis id)
    | shutdown => exact Or.inr (savedBefore_of_event inductionHypothesis id)

theorem unsaved_le (craft : Craft) {event : CraftEvent} (notBoot : ¬ event.IsBoot) :
    (craftStep craft event).unsaved ≤ event.unsavedIterations := by
  cases event with
  | boot input => exact absurd trivial notBoot
  | iterate input =>
    unfold Craft.unsaved
    split
    · rw [UInt64.toNat_mod]
      exact Nat.le_of_lt_succ (Nat.mod_lt _ (by decide))
    · exact Nat.zero_le _
  | shutdown =>
    have stopped : ¬ (craftStep craft .shutdown).running = true := by
      dsimp only [craftStep]
      split
      · exact Bool.false_ne_true
      · assumption
    rw [Craft.unsaved, if_neg stopped]
    exact Nat.zero_le _

/-- Over any files and after any run of boots, iterations and shutdowns, a boot brings back the
state of the EPS, the fault log and the mission data, which counts the boot: all of it after a
shutdown, and after an iteration all but the uptime and the energy of less than a hundred
iterations, which are as they were when the mission data was saved last. -/
theorem boot_brings_back (disk : Disk) (first : BootInput) (events : List CraftEvent)
    {last : CraftEvent} (notBoot : ¬ last.IsBoot) (next : BootInput) :
    ∃ saved since, SavedBefore (bootCraft disk first) (events ++ [last]) saved since ∧
      since.length ≤ last.unsavedIterations ∧
      BroughtBack (finalState craftStep (bootCraft disk first) (events ++ [last])).flight
        (finalState craftStep (bootCraft disk first) (events ++ [last, .boot next])).flight
        (finalState craftStep (bootCraft disk first) saved).flight.mission.data.record next
        last.unsavedWh := by
  have split : events ++ [last, .boot next] = (events ++ [last]) ++ [.boot next] := by
    rw [List.append_assoc]
    rfl
  obtain ⟨saved, since, before⟩ :=
    savedBefore_of_event (booted_or_savedBefore disk first events) notBoot
  have few := before.few
  rw [finalState_append] at few
  refine ⟨saved, since, before, few.trans (unsaved_le _ notBoot), ?_⟩
  rw [split, finalState_append (bootCraft disk first) (events ++ [last])]
  refine broughtBack_of_stored (craft_kept disk first (events ++ [last])).faults ?_
    before.holds_last next
  rw [finalState_append]
  exact craftStep_stored (craft_kept disk first events) notBoot

end

/-- A boot that finds no sensors and opens the UART. -/
def plainBoot (nowMs : UInt64) : BootInput := ⟨[], true, 1000, nowMs⟩

/-- An iteration in which the clock stands still and the UART answers. -/
def plainIteration (nowMs : UInt64) : LoopInput :=
  ⟨nowMs, nowMs, nowMs, true, true, true, true, fun _ => 0⟩

/-- Of three iterations the first one saves: the boot brings back its uptime. -/
theorem plainIterations_brought_back :
    letI := CLayout.blank EpsRecord
    letI := CLayout.blank FaultRecord
    letI := CLayout.blank MissionRecord
    let events : List CraftEvent := [.iterate (plainIteration 5000), .iterate (plainIteration 9000)]
    let last := CraftEvent.iterate (plainIteration 15000)
    let start := bootCraft ⟨[], none, none⟩ (plainBoot 0)
    let after := finalState craftStep start (events ++ [last, .boot (plainBoot 9)])
    after.flight.mission.data.record.totalUptimeMs = 5000 ∧
    ∃ saved since, SavedBefore start (events ++ [last]) saved since ∧
      since.length ≤ last.unsavedIterations ∧
      BroughtBack (finalState craftStep start (events ++ [last])).flight after.flight
        (finalState craftStep start saved).flight.mission.data.record (plainBoot 9)
        last.unsavedWh := by
  let := CLayout.blank EpsRecord
  let := CLayout.blank FaultRecord
  let := CLayout.blank MissionRecord
  have notBoot : ¬ (CraftEvent.iterate (plainIteration 15000)).IsBoot := fun isBoot => isBoot
  exact ⟨by decide +kernel, boot_brings_back ⟨[], none, none⟩ (plainBoot 0) _ notBoot (plainBoot 9)⟩

/-! ### The reset count -/

section

variable [CLayout EpsRecord] [CLayout FaultRecord] [CLayout MissionRecord]

/-- The boots that follow an iteration or a shutdown, where `saved` tells whether the session before
has come to one. -/
def countedBoots (saved : Bool) : List CraftEvent → Nat
  | [] => 0
  | .boot _ :: rest => (if saved then 1 else 0) + countedBoots false rest
  | .iterate _ :: rest => countedBoots true rest
  | .shutdown :: rest => countedBoots true rest

/-- The reset count of the mission data. -/
def Craft.resetCount (craft : Craft) : UInt32 := craft.flight.mission.data.record.resetCount

/-- The mission data is as a boot over its file leaves it. -/
def Craft.Fresh (craft : Craft) : Prop :=
  ∃ now, craft.flight.mission = missionDataInit (MissionData.boot craft.flight.mission.file) now

omit [CLayout EpsRecord] [CLayout FaultRecord] in
theorem missionDataInit_file (mission : MissionData) (now : UInt64) :
    (missionDataInit mission now).file = mission.file := by
  unfold missionDataInit missionDataLoad
  cases found : mission.file with
  | none => exact found
  | some loaded =>
    dsimp only
    by_cases verifies : loaded.verifies = true
    · rw [if_pos verifies]
      rfl
    · rw [if_neg verifies]
      exact found

omit [CLayout EpsRecord] [CLayout FaultRecord] in
/-- The count that a boot leaves does not depend on the time. -/
theorem missionDataInit_resetCount (mission : MissionData) (now later : UInt64) :
    (missionDataInit mission now).data.record.resetCount =
      (missionDataInit mission later).data.record.resetCount := by
  unfold missionDataInit
  cases missionDataLoad mission with
  | none => rfl
  | some loaded => rfl

theorem bootCraft_fresh (disk : Disk) (input : BootInput) : (bootCraft disk input).Fresh := by
  refine ⟨input.nowMs, ?_⟩
  show missionDataInit _ _ = missionDataInit (MissionData.boot (missionDataInit _ _).file) _
  rw [missionDataInit_file]
  rfl

/-- A boot that follows a boot counts as one with it. -/
theorem bootCraft_of_fresh {craft : Craft} (fresh : craft.Fresh) (input : BootInput) :
    (bootCraft craft.flight.disk input).resetCount = craft.resetCount := by
  obtain ⟨now, same⟩ := fresh
  unfold Craft.resetCount
  rw [same]
  exact missionDataInit_resetCount _ _ _

theorem updateAndMonitor_resetCount (flight : Flight) (input : LoopInput) :
    (updateAndMonitor flight input).mission.data.record.resetCount =
      flight.mission.data.record.resetCount := by
  rw [updateAndMonitor, (monitorSystemHealth_frame _ _ _).1]
  unfold updateMissionState
  dsimp only
  split
  · rfl
  · rfl

/-- Only a boot changes the count. -/
theorem craftStep_resetCount (craft : Craft) {event : CraftEvent} (notBoot : ¬ event.IsBoot) :
    (craftStep craft event).resetCount = craft.resetCount := by
  cases event with
  | boot input => exact absurd trivial notBoot
  | iterate input =>
    dsimp only [craftStep]
    split
    · unfold Craft.resetCount mainLoopIteration pollAndSave
      dsimp only
      split
      · exact updateAndMonitor_resetCount craft.flight input
      · exact updateAndMonitor_resetCount craft.flight input
    · rfl
  | shutdown =>
    dsimp only [craftStep]
    split
    · rfl
    · rfl

/-- A session that came to an iteration or a shutdown has its files stored, and one that did not is
as its boot left it. -/
def Craft.Stage (craft : Craft) (saved : Bool) : Prop :=
  if saved then craft.flight.Stored (99 * iterationEnergyWh) else craft.Fresh

theorem craftStep_stage {craft : Craft} (kept : craft.Kept) {event : CraftEvent}
    (notBoot : ¬ event.IsBoot) : (craftStep craft event).Stage true := by
  refine (craftStep_stored kept notBoot).mono ?_
  cases event with
  | iterate input => exact le_rfl
  | _ => exact mul_nonneg (by norm_num) iterationEnergyWh_nonneg

theorem resetCount_of_stage {craft : Craft} (kept : craft.Kept) {saved : Bool}
    (stage : craft.Stage saved) (events : List CraftEvent) :
    (finalState craftStep craft events).resetCount =
      craft.resetCount + UInt32.ofNat (countedBoots saved events) := by
  induction events generalizing craft saved with
  | nil => exact (UInt32.add_zero _).symm
  | cons event rest inductionHypothesis =>
    have keptNext := craftStep_kept craft event kept
    rw [finalState_cons]
    cases event with
    | boot input =>
      have fresh : (craftStep craft (.boot input)).Stage false :=
        bootCraft_fresh craft.flight.disk input
      rw [inductionHypothesis keptNext fresh, countedBoots, UInt32.ofNat_add, ← UInt32.add_assoc]
      refine congrArg (· + UInt32.ofNat (countedBoots false rest)) ?_
      cases saved with
      | false => exact (bootCraft_of_fresh stage input).trans (UInt32.add_zero _).symm
      | true =>
        obtain ⟨stored, file, verifies, -⟩ := stage.mission
        have holds : craft.flight.mission.Holds stored.record := ⟨stored, file, verifies, rfl⟩
        exact (broughtBack_of_stored kept.faults stage holds input).resetCount
    | iterate input =>
      have notBoot : ¬ (CraftEvent.iterate input).IsBoot := fun isBoot => isBoot
      rw [inductionHypothesis keptNext (craftStep_stage kept notBoot),
        craftStep_resetCount craft notBoot, countedBoots]
    | shutdown =>
      have notBoot : ¬ CraftEvent.shutdown.IsBoot := fun isBoot => isBoot
      rw [inductionHypothesis keptNext (craftStep_stage kept notBoot),
        craftStep_resetCount craft notBoot, countedBoots]

/-- The reset count of the mission data is the one of the first boot and the number of boots since
that followed an iteration or a shutdown. A session whose power fails before the end of its first
iteration is not counted. -/
theorem resetCount_eq_countedBoots (disk : Disk) (first : BootInput) (events : List CraftEvent) :
    (finalState craftStep (bootCraft disk first) events).resetCount =
      (bootCraft disk first).resetCount + UInt32.ofNat (countedBoots false events) := by
  have fresh : (bootCraft disk first).Stage false := bootCraft_fresh disk first
  exact resetCount_of_stage (bootCraft_kept disk first) fresh events

end

end SmartQso
