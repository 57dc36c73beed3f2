/-
This file settles which configurations a reset of the EPS can come back to. Each
`eps_control_*` call saves the configuration, also where `eps_set_power_mode` makes
it in the middle of a mode change, and there the new mode is stored next to the
limit of the old one. A run writes only consistent snapshots exactly when each mode
change finds its switches as the new mode wants them, and the payload is switched
on by itself only in the active mode.
-/

import SmartQso.EpsModes
import SmartQso.Runs

namespace SmartQso

open Runs

/-! ### Runs of the EPS -/

/-- A call made to the EPS. -/
inductive EpsCall
  | setPowerMode (mode : PowerMode) (soc : ℚ) (now : UInt64)
  | controlPayload (enable : Bool) (soc : ℚ) (now : UInt64)
  | controlRadio (enable : Bool) (now : UInt64)
  | controlAdcs (enable : Bool) (now : UInt64)
  | controlBeacon (enable : Bool) (now : UInt64)
  | saveConfig

/-- The switches are as a mode leaves them, or the payload cannot be switched on. -/
def EpsRecord.SwitchesSettled (record : EpsRecord) (mode : PowerMode) (soc : ℚ) : Prop :=
  (record.payloadEnabled = mode.wantsPayload ∨
      mode.wantsPayload = true ∧ soc < epsSocPayloadThreshold) ∧
    record.radioEnabled = mode.wantsBus ∧ record.adcsEnabled = mode.wantsBus ∧
      record.beaconEnabled = true

/-- A change of mode finds the switches settled, and the payload is switched on by itself only
in the active mode. -/
def SettledChange (eps : Eps) : EpsCall → Prop
  | .setPowerMode mode soc _ =>
    eps.state.record.powerMode ≠ mode.code → eps.state.record.SwitchesSettled mode soc
  | .controlPayload enable soc _ =>
    enable = true → eps.state.record.payloadEnabled = false → epsSocPayloadThreshold ≤ soc →
      eps.state.record.powerMode = PowerMode.active.code
  | _ => True

/-- Every snapshot written so far is consistent. -/
def Eps.AllWritten (eps : Eps) : Prop :=
  ∀ snapshot ∈ eps.written, snapshot.record.Consistent

/-- The limit is not the one of the stored mode. -/
def EpsRecord.Mismatched (record : EpsRecord) : Prop :=
  ∀ mode : PowerMode, record.powerMode = mode.code → record.powerLimitW ≠ mode.powerLimitW

theorem EpsRecord.Mismatched.not_consistent {record : EpsRecord}
    (mismatched : record.Mismatched) : ¬ record.Consistent :=
  fun ⟨mode, inMode⟩ => mismatched mode inMode.stored inMode.limited

section

variable [CLayout EpsRecord] [CLayout FaultRecord]

/-- The effect of a call. -/
def epsCall (eps : Eps) : EpsCall → Eps
  | .setPowerMode mode soc now => (epsSetPowerMode eps mode.value soc now).1
  | .controlPayload enable soc now => (epsControlPayload eps enable soc now).1
  | .controlRadio enable now => (epsControlRadio eps enable now).1
  | .controlAdcs enable now => (epsControlAdcs eps enable now).1
  | .controlBeacon enable now => (epsControlBeacon eps enable now).1
  | .saveConfig => epsSaveConfig eps

/-- A reset that finds this snapshot restarts in a consistent configuration, and whatever mode
is then requested, its own limit is in force. -/
def RestartsWell (snapshot : Sealed EpsRecord) : Prop :=
  ∀ (faults : FaultMgmt) (now : UInt64),
    let restarted := epsInit (Eps.boot [snapshot] faults) now
    restarted.state.record.Consistent ∧
      ∀ (mode : PowerMode) (soc : ℚ) (later : UInt64),
        epsGetPowerLimit (epsSetPowerMode restarted mode.value soc later).1 = mode.powerLimitW

/-- Every snapshot written so far is consistent, and safe to restart from. -/
def CrashConsistent (eps : Eps) : Prop :=
  ∀ snapshot ∈ eps.written, snapshot.record.Consistent ∧ RestartsWell snapshot

omit [CLayout FaultRecord] in
/-- A boot over consistent snapshots, or over none, starts from a consistent record. -/
theorem epsInit_consistent {earlier : List (Sealed EpsRecord)}
    (consistent : ∀ snapshot ∈ earlier, snapshot.record.Consistent) (faults : FaultMgmt)
    (now : UInt64) : (epsInit (Eps.boot earlier faults) now).state.record.Consistent := by
  have default : (epsDefaults now.toUInt32).Consistent := ⟨.idle, epsDefaults_inMode _⟩
  unfold epsInit epsLoadConfig
  cases earlier with
  | nil => exact default
  | cons snapshot older =>
    simp only [Eps.boot, List.head?_cons]
    by_cases verified : snapshot.verifies = true
    · rw [if_pos verified]
      exact consistent snapshot List.mem_cons_self
    · rw [if_neg verified]
      exact default

theorem restartsWell_of_consistent {snapshot : Sealed EpsRecord}
    (consistent : snapshot.record.Consistent) : RestartsWell snapshot := by
  intro faults now restarted
  have restart : restarted.state.record.Consistent :=
    epsInit_consistent (List.forall_mem_singleton.mpr consistent) faults now
  exact ⟨restart, fun mode soc later => (epsSetPowerMode_inMode restart mode soc later).limited⟩

theorem crashConsistent_iff (eps : Eps) : CrashConsistent eps ↔ eps.AllWritten :=
  ⟨fun kept snapshot member => (kept snapshot member).1,
    fun kept snapshot member =>
      ⟨kept snapshot member, restartsWell_of_consistent (kept snapshot member)⟩⟩

omit [CLayout FaultRecord] in
theorem epsInit_written (eps : Eps) (now : UInt64) : (epsInit eps now).written = eps.written := by
  unfold epsInit epsLoadConfig
  cases eps.written.head? with
  | none => rfl
  | some loaded =>
    by_cases verified : loaded.verifies = true <;> simp only [verified] <;> rfl

/-! ### What a call writes -/

omit [CLayout FaultRecord] in
theorem epsSaveConfig_allWritten (eps : Eps) :
    (epsSaveConfig eps).AllWritten ↔ eps.state.record.Consistent ∧ eps.AllWritten := by
  unfold Eps.AllWritten
  rw [epsSaveConfig_written, List.forall_mem_cons, Sealed.updateCrc_record]

omit [CLayout FaultRecord] in
/-- A switch that changes saves the configuration as it is then. -/
theorem controlSwitch_allWritten (switch : LoadSwitch) (eps : Eps) (enable : Bool)
    (now : UInt64) :
    (controlSwitch switch eps enable now).1.AllWritten ↔
      eps.AllWritten ∧ (eps.state.record.switch switch = enable ∨
        (controlSwitch switch eps enable now).1.state.record.Consistent) := by
  unfold controlSwitch
  by_cases same : eps.state.record.switch switch = enable
  · rw [if_pos same]
    exact ⟨fun kept => ⟨kept, Or.inl same⟩, fun kept => kept.1⟩
  · rw [if_neg same]
    refine (epsSaveConfig_allWritten _).trans ?_
    rw [and_comm, or_iff_right same]
    rfl

/-- A payload switch that changes saves the configuration as it is then. -/
theorem epsControlPayload_allWritten (eps : Eps) (enable : Bool) (soc : ℚ) (now : UInt64) :
    (epsControlPayload eps enable soc now).1.AllWritten ↔
      eps.AllWritten ∧ (eps.state.record.payloadEnabled = enable ∨
        (enable = true ∧ soc < epsSocPayloadThreshold) ∨
        (epsControlPayload eps enable soc now).1.state.record.Consistent) := by
  unfold epsControlPayload
  by_cases same : eps.state.record.payloadEnabled = enable
  · rw [if_pos same]
    exact ⟨fun kept => ⟨kept, Or.inl same⟩, fun kept => kept.1⟩
  · rw [if_neg same]
    by_cases blocked : enable = true ∧ soc < epsSocPayloadThreshold
    · rw [if_pos blocked]
      exact ⟨fun kept => ⟨kept, Or.inr (Or.inl blocked)⟩, fun kept => kept.1⟩
    · rw [if_neg blocked]
      refine (epsSaveConfig_allWritten _).trans ?_
      rw [and_comm, or_iff_right same, or_iff_right blocked]
      rfl

omit [CLayout FaultRecord] in
theorem controlSwitch_other {switch other : LoadSwitch} (different : other ≠ switch) (eps : Eps)
    (enable : Bool) (now : UInt64) :
    (controlSwitch switch eps enable now).1.state.record.switch other =
      eps.state.record.switch other :=
  (controlSwitch_switch switch eps enable now other).trans (if_neg different)

/-! ### A mode change -/

omit [CLayout FaultRecord] in
/-- During a mode change a switch may not be touched. -/
theorem controlSwitch_mismatched {switch : LoadSwitch} {eps : Eps}
    (mismatched : eps.state.record.Mismatched) (enable : Bool) (now : UInt64) :
    (controlSwitch switch eps enable now).1.state.record.Mismatched ∧
      ((controlSwitch switch eps enable now).1.AllWritten ↔
        eps.AllWritten ∧ eps.state.record.switch switch = enable) := by
  obtain ⟨stored, limited, _⟩ := controlSwitch_frame switch eps enable now
  have after : (controlSwitch switch eps enable now).1.state.record.Mismatched := by
    intro mode same
    rw [limited]
    exact mismatched mode (stored.symm.trans same)
  refine ⟨after, ?_⟩
  rw [controlSwitch_allWritten, or_iff_left after.not_consistent]

theorem epsControlPayload_mismatched {eps : Eps} (mismatched : eps.state.record.Mismatched)
    (enable : Bool) (soc : ℚ) (now : UInt64) :
    (epsControlPayload eps enable soc now).1.state.record.Mismatched ∧
      ((epsControlPayload eps enable soc now).1.AllWritten ↔
        eps.AllWritten ∧ (eps.state.record.payloadEnabled = enable ∨
          enable = true ∧ soc < epsSocPayloadThreshold)) := by
  obtain ⟨stored, limited⟩ := epsControlPayload_frame eps enable soc now
  have after : (epsControlPayload eps enable soc now).1.state.record.Mismatched := by
    intro mode same
    rw [limited]
    exact mismatched mode (stored.symm.trans same)
  refine ⟨after, ?_⟩
  rw [epsControlPayload_allWritten, or_iff_left after.not_consistent]

/-- The switches of a new mode write consistent snapshots only by writing none. -/
theorem enterPowerMode_allWritten {eps : Eps} (mismatched : eps.state.record.Mismatched)
    (mode : PowerMode) (soc : ℚ) (now : UInt64) :
    (enterPowerMode mode eps soc now).AllWritten ↔
      eps.AllWritten ∧ eps.state.record.SwitchesSettled mode soc := by
  set payload := (epsControlPayload eps mode.wantsPayload soc now).1
  set radio := (controlSwitch .radio payload mode.wantsBus now).1
  set adcs := (controlSwitch .adcs radio mode.wantsBus now).1
  obtain ⟨payloadOff, payloadKept⟩ :=
    epsControlPayload_mismatched mismatched mode.wantsPayload soc now
  obtain ⟨radioOff, radioKept⟩ : radio.state.record.Mismatched ∧ _ :=
    controlSwitch_mismatched payloadOff mode.wantsBus now
  obtain ⟨adcsOff, adcsKept⟩ : adcs.state.record.Mismatched ∧ _ :=
    controlSwitch_mismatched radioOff mode.wantsBus now
  obtain ⟨_, beaconKept⟩ :
      (controlSwitch .beacon adcs true now).1.state.record.Mismatched ∧ _ :=
    controlSwitch_mismatched adcsOff true now
  have radioBefore : payload.state.record.switch .radio = eps.state.record.radioEnabled :=
    epsControlPayload_switch eps mode.wantsPayload soc now .radio
  have adcsBefore : radio.state.record.switch .adcs = eps.state.record.adcsEnabled :=
    (controlSwitch_other (by decide) payload mode.wantsBus now).trans
      (epsControlPayload_switch eps mode.wantsPayload soc now .adcs)
  have beaconBefore : adcs.state.record.switch .beacon = eps.state.record.beaconEnabled :=
    ((controlSwitch_other (by decide) radio mode.wantsBus now).trans
      (controlSwitch_other (by decide) payload mode.wantsBus now)).trans
      (epsControlPayload_switch eps mode.wantsPayload soc now .beacon)
  show (controlSwitch .beacon adcs true now).1.AllWritten ↔ _
  rw [beaconKept, adcsKept, radioKept, payloadKept, radioBefore, adcsBefore, beaconBefore]
  unfold EpsRecord.SwitchesSettled
  simp only [and_assoc]

/-- A mode request on a consistent record writes consistent snapshots exactly when the record is
in the mode already or its switches are settled. -/
theorem epsSetPowerMode_allWritten {eps : Eps} (consistent : eps.state.record.Consistent)
    (target : PowerMode) (soc : ℚ) (now : UInt64) :
    (epsSetPowerMode eps target.value soc now).1.AllWritten ↔
      eps.AllWritten ∧ (eps.state.record.powerMode ≠ target.code →
        eps.state.record.SwitchesSettled target soc) := by
  have reached := epsSetPowerMode_inMode consistent target soc now
  obtain ⟨mode, inMode⟩ := consistent
  by_cases already : eps.state.record.powerMode = target.code
  · rw [epsSetPowerMode_same already]
    exact ⟨fun kept => ⟨kept, fun change => absurd already change⟩, fun kept => kept.1⟩
  · have requested : (storeMode eps target.value now).state.record.Mismatched := by
      -- The new mode is stored, and the limit is still the one of the old mode.
      intro other same limited
      have old : mode = other :=
        PowerMode.powerLimitW_injective (inMode.limited.symm.trans limited)
      have stored : target.code = other.code := target.value_toUInt8.symm.trans same
      exact already (inMode.stored.trans (old ▸ stored.symm))
    rw [epsSetPowerMode_change already] at *
    refine (epsSaveConfig_allWritten _).trans ?_
    refine (and_iff_right ⟨target, reached⟩).trans ?_
    refine (enterPowerMode_allWritten requested target soc now).trans ?_
    exact and_congr_right fun _ => ⟨fun settled _ => settled, fun settled => settled already⟩

/-! ### Every call, and every run -/

theorem epsControlPayload_allWritten_settled {eps : Eps}
    (consistent : eps.state.record.Consistent) (enable : Bool) (soc : ℚ) (now : UInt64) :
    let controlled := (epsControlPayload eps enable soc now).1
    let settled := SettledChange eps (.controlPayload enable soc now)
    (controlled.AllWritten ↔ eps.AllWritten ∧ settled) ∧
      (settled → controlled.state.record.Consistent) := by
  intro controlled settled
  obtain ⟨mode, inMode⟩ := consistent
  obtain ⟨stored, limited⟩ := epsControlPayload_frame eps enable soc now
  have onIff := epsControlPayload_on_iff eps enable soc now
  -- The record afterwards is the one of its mode unless the payload went on outside ACTIVE.
  have kept : settled → controlled.state.record.Consistent := by
    intro met
    refine ⟨mode, stored.trans inMode.stored, limited.trans inMode.limited, fun on => ?_⟩
    obtain ⟨asked, before | allowed⟩ := onIff.mp on
    · exact inMode.loaded before
    · by_cases before : eps.state.record.payloadEnabled = true
      · exact inMode.loaded before
      · have active := met asked (Bool.eq_false_iff.mpr before) allowed
        exact PowerMode.code_injective (inMode.stored.symm.trans active)
  refine ⟨?_, kept⟩
  refine (epsControlPayload_allWritten eps enable soc now).trans (and_congr_right fun _ => ?_)
  refine ⟨?_, fun met => Or.inr (Or.inr (kept met))⟩
  rintro written asked off allowed
  rcases written with same | blocked | ⟨reached, after⟩
  · exact absurd (off.symm.trans (same.trans asked)) Bool.false_ne_true
  · exact absurd blocked.2 (not_lt.mpr allowed)
  · have active : reached = .active := after.loaded (onIff.mpr ⟨asked, Or.inr allowed⟩)
    exact stored.symm.trans (active ▸ after.stored)

/-- On a consistent record, a call writes consistent snapshots exactly when it is settled, and
then it leaves a consistent record. -/
theorem epsCall_settled {eps : Eps} (consistent : eps.state.record.Consistent)
    (call : EpsCall) :
    ((epsCall eps call).AllWritten ↔ eps.AllWritten ∧ SettledChange eps call) ∧
      (SettledChange eps call → (epsCall eps call).state.record.Consistent) := by
  -- A load switch saves a record that is in the same mode as before.
  have switched : ∀ (switch : LoadSwitch) (enable : Bool) (now : UInt64),
      ((controlSwitch switch eps enable now).1.AllWritten ↔ eps.AllWritten ∧ True) ∧
        (True → (controlSwitch switch eps enable now).1.state.record.Consistent) := by
    intro switch enable now
    obtain ⟨mode, inMode⟩ := consistent
    have after : (controlSwitch switch eps enable now).1.state.record.Consistent :=
      ⟨mode, controlSwitch_inMode inMode enable now⟩
    refine ⟨?_, fun _ => after⟩
    rw [controlSwitch_allWritten]
    exact and_congr_right fun _ => iff_true_intro (Or.inr after)
  cases call with
  | setPowerMode mode soc now =>
    exact ⟨epsSetPowerMode_allWritten consistent mode soc now,
      fun _ => ⟨mode, epsSetPowerMode_inMode consistent mode soc now⟩⟩
  | controlPayload enable soc now =>
    exact epsControlPayload_allWritten_settled consistent enable soc now
  | controlRadio enable now => exact switched .radio enable now
  | controlAdcs enable now => exact switched .adcs enable now
  | controlBeacon enable now => exact switched .beacon enable now
  | saveConfig =>
    refine ⟨(epsSaveConfig_allWritten eps).trans ?_, fun _ => consistent⟩
    exact (and_iff_right consistent).trans (and_iff_left trivial).symm

/-- In a run from `eps_init` every snapshot written is consistent and safe to restart from, at
every point of the run, if and only if those of earlier sessions were and every call of the run
is settled. -/
theorem snapshots_crash_consistent_iff (earlier : List (Sealed EpsRecord)) (faults : FaultMgmt)
    (now : UInt64) (calls : List EpsCall) :
    Throughout epsCall CrashConsistent (epsInit (Eps.boot earlier faults) now) calls ↔
      (∀ snapshot ∈ earlier, snapshot.record.Consistent) ∧
        EachStep epsCall SettledChange (epsInit (Eps.boot earlier faults) now) calls := by
  have start : (epsInit (Eps.boot earlier faults) now).AllWritten ↔
      ∀ snapshot ∈ earlier, snapshot.record.Consistent := by
    unfold Eps.AllWritten
    rw [epsInit_written]
    rfl
  by_cases stored : ∀ snapshot ∈ earlier, snapshot.record.Consistent
  · rw [and_iff_right stored]
    refine throughout_iff_eachStep
      (fun eps (kept : eps.state.record.Consistent ∧ eps.AllWritten) =>
        (crashConsistent_iff eps).mpr kept.2)
      (fun eps call kept => ?_) (fun eps call kept met => ?_) ?_ calls
    · rw [crashConsistent_iff, (epsCall_settled kept.1 call).1, and_iff_right kept.2]
    · obtain ⟨written, reached⟩ := epsCall_settled kept.1 call
      exact ⟨reached met, written.mpr ⟨kept.2, met⟩⟩
    · exact ⟨epsInit_consistent stored faults now, start.mpr stored⟩
  · refine iff_of_false (fun throughout => ?_) fun both => stored both.1
    exact stored (start.mp ((crashConsistent_iff _).mp throughout.start))

omit [CLayout EpsRecord] [CLayout FaultRecord] in
/-- From the defaults, a request of the active mode at full charge switches the payload on and
saves while the limit is still the idle one. -/
theorem active_request_saves_idle_limit :
    letI := CLayout.blank EpsRecord
    letI := CLayout.blank FaultRecord
    ¬ Throughout epsCall CrashConsistent (epsInit (Eps.boot [] FaultMgmt.boot) 0)
      [.setPowerMode .active 1 0] := by
  intro throughout
  let _ := CLayout.blank EpsRecord
  let _ := CLayout.blank FaultRecord
  have start : (epsInit (Eps.boot [] FaultMgmt.boot) 0).state.record.Consistent :=
    epsInit_consistent (fun _ member => absurd member List.not_mem_nil) FaultMgmt.boot 0
  have written := (crashConsistent_iff _).mp throughout.2
  have settled := ((epsSetPowerMode_allWritten start .active 1 0).mp written).2 (by decide)
  rcases settled.1 with on | ⟨_, low⟩
  · exact absurd on (by decide)
  · norm_num [epsSocPayloadThreshold] at low

end

end SmartQso
