/-
This file says what a power mode fixes about the EPS record: the stored number,
the power limit, and that only the active mode may have the payload on. A mode
request puts a consistent record into the mode asked for, and the recovery actions
of the fault management leave it consistent, so whoever calls them reasons about
modes and never unfolds a switch.
-/

import SmartQso.Eps

namespace SmartQso

/-! ### Being in a mode -/

/-- The setting a mode gives to a load switch. -/
def PowerMode.wants (mode : PowerMode) : LoadSwitch → Bool
  | .radio => mode.wantsBus
  | .adcs => mode.wantsBus
  | .beacon => true

/-- The record is the one of a mode, as far as the mode says. -/
structure EpsRecord.InMode (record : EpsRecord) (mode : PowerMode) : Prop where
  stored : record.powerMode = mode.code
  limited : record.powerLimitW = mode.powerLimitW
  loaded : record.payloadEnabled = true → mode = .active

/-- The record is the one of some mode. -/
def EpsRecord.Consistent (record : EpsRecord) : Prop :=
  ∃ mode, record.InMode mode

theorem EpsRecord.InMode.unique {record : EpsRecord} {first second : PowerMode}
    (one : record.InMode first) (other : record.InMode second) : first = second :=
  PowerMode.code_injective (one.stored.symm.trans other.stored)

theorem EpsRecord.InMode.unloaded {record : EpsRecord} {mode : PowerMode}
    (inMode : record.InMode mode) (other : mode ≠ .active) : record.payloadEnabled = false :=
  Bool.eq_false_iff.mpr fun on => other (inMode.loaded on)

theorem epsDefaults_inMode (lastControlMs : UInt32) :
    (epsDefaults lastControlMs).InMode .idle where
  stored := rfl
  limited := rfl
  loaded on := absurd on Bool.false_ne_true

/-! ### What each operation leaves alone -/

section

variable [CLayout EpsRecord]

@[simp] theorem epsSaveConfig_written (eps : Eps) :
    (epsSaveConfig eps).written = eps.state.updateCrc :: eps.written := rfl

/-- A load switch is not part of what a mode fixes. -/
theorem controlSwitch_frame (switch : LoadSwitch) (eps : Eps) (enable : Bool) (now : UInt64) :
    let controlled := (controlSwitch switch eps enable now).1.state.record
    controlled.powerMode = eps.state.record.powerMode ∧
      controlled.powerLimitW = eps.state.record.powerLimitW ∧
      controlled.payloadEnabled = eps.state.record.payloadEnabled := by
  intro controlled
  show (controlSwitch switch eps enable now).1.state.record.powerMode = _ ∧ _
  unfold controlled controlSwitch
  split
  · exact ⟨rfl, rfl, rfl⟩
  · cases switch <;> exact ⟨rfl, rfl, rfl⟩

/-- A switch takes the value asked for and the other ones keep theirs. -/
theorem controlSwitch_switch (switch : LoadSwitch) (eps : Eps) (enable : Bool) (now : UInt64)
    (other : LoadSwitch) :
    (controlSwitch switch eps enable now).1.state.record.switch other =
      if other = switch then enable else eps.state.record.switch other := by
  unfold controlSwitch
  by_cases same : eps.state.record.switch switch = enable
  · rw [if_pos same]
    split
    · next equal =>
      rw [equal]
      exact same
    · rfl
  · rw [if_neg same]
    cases switch <;> cases other <;> rfl

theorem controlSwitch_inMode {switch : LoadSwitch} {eps : Eps} {mode : PowerMode}
    (inMode : eps.state.record.InMode mode) (enable : Bool) (now : UInt64) :
    (controlSwitch switch eps enable now).1.state.record.InMode mode := by
  obtain ⟨stored, limited, loaded⟩ := controlSwitch_frame switch eps enable now
  exact ⟨stored.trans inMode.stored, limited.trans inMode.limited,
    fun on => inMode.loaded (loaded.symm.trans on)⟩

variable [CLayout FaultRecord]

theorem epsControlPayload_frame (eps : Eps) (enable : Bool) (soc : ℚ) (now : UInt64) :
    let controlled := (epsControlPayload eps enable soc now).1.state.record
    controlled.powerMode = eps.state.record.powerMode ∧
      controlled.powerLimitW = eps.state.record.powerLimitW := by
  intro controlled
  unfold controlled epsControlPayload
  split
  · exact ⟨rfl, rfl⟩
  · split <;> exact ⟨rfl, rfl⟩

theorem epsControlPayload_switch (eps : Eps) (enable : Bool) (soc : ℚ) (now : UInt64)
    (switch : LoadSwitch) :
    (epsControlPayload eps enable soc now).1.state.record.switch switch =
      eps.state.record.switch switch := by
  unfold epsControlPayload
  split
  · rfl
  · split <;> cases switch <;> rfl

/-- The payload is on afterwards if that was asked for, and it was on already or the state of
charge allowed it. -/
theorem epsControlPayload_on_iff (eps : Eps) (enable : Bool) (soc : ℚ) (now : UInt64) :
    (epsControlPayload eps enable soc now).1.state.record.payloadEnabled = true ↔
      enable = true ∧
        (eps.state.record.payloadEnabled = true ∨ epsSocPayloadThreshold ≤ soc) := by
  unfold epsControlPayload
  by_cases same : eps.state.record.payloadEnabled = enable
  · rw [if_pos same]
    exact ⟨fun on => ⟨same.symm.trans on, Or.inl on⟩, fun met => same.trans met.1⟩
  · rw [if_neg same]
    by_cases blocked : enable = true ∧ soc < epsSocPayloadThreshold
    · rw [if_pos blocked]
      refine iff_of_false (fun on => same (on.trans blocked.1.symm)) ?_
      rintro ⟨asked, on | allowed⟩
      · exact same (on.trans asked.symm)
      · exact absurd blocked.2 (not_lt.mpr allowed)
    · rw [if_neg blocked]
      refine ⟨fun asked => ⟨asked, Or.inr ?_⟩, fun met => met.1⟩
      exact not_lt.mp fun low => blocked ⟨asked, low⟩

/-- Switching the payload off succeeds, in every state. -/
theorem epsControlPayload_off (eps : Eps) (soc : ℚ) (now : UInt64) :
    (epsControlPayload eps false soc now).1.state.record.payloadEnabled = false :=
  Bool.eq_false_iff.mpr fun on =>
    absurd ((epsControlPayload_on_iff eps false soc now).mp on).1 Bool.false_ne_true

theorem epsControlPayload_off_inMode {eps : Eps} {mode : PowerMode}
    (inMode : eps.state.record.InMode mode) (soc : ℚ) (now : UInt64) :
    (epsControlPayload eps false soc now).1.state.record.InMode mode := by
  obtain ⟨stored, limited⟩ := epsControlPayload_frame eps false soc now
  refine ⟨stored.trans inMode.stored, limited.trans inMode.limited, fun on => ?_⟩
  rw [epsControlPayload_off] at on
  exact absurd on Bool.false_ne_true

/-! ### Requesting a mode -/

/-- Entering a mode keeps the stored number, and the payload is left as its switch leaves it. -/
theorem enterPowerMode_frame (mode : PowerMode) (eps : Eps) (soc : ℚ) (now : UInt64) :
    let entered := (enterPowerMode mode eps soc now).state.record
    entered.powerMode = eps.state.record.powerMode ∧
      entered.payloadEnabled =
        (epsControlPayload eps mode.wantsPayload soc now).1.state.record.payloadEnabled := by
  intro entered
  unfold entered enterPowerMode epsControlRadio epsControlAdcs epsControlBeacon
  set payload := (epsControlPayload eps mode.wantsPayload soc now).1
  set radio := (controlSwitch .radio payload mode.wantsBus now).1
  set adcs := (controlSwitch .adcs radio mode.wantsBus now).1
  obtain ⟨payloadMode, _⟩ := epsControlPayload_frame eps mode.wantsPayload soc now
  obtain ⟨radioMode, _, radioPayload⟩ := controlSwitch_frame .radio payload mode.wantsBus now
  obtain ⟨adcsMode, _, adcsPayload⟩ := controlSwitch_frame .adcs radio mode.wantsBus now
  obtain ⟨beaconMode, _, beaconPayload⟩ := controlSwitch_frame .beacon adcs true now
  constructor
  · show (controlSwitch .beacon adcs true now).1.state.record.powerMode = _
    rw [beaconMode, adcsMode, radioMode, payloadMode]
  · show (controlSwitch .beacon adcs true now).1.state.record.payloadEnabled = _
    rw [beaconPayload, adcsPayload, radioPayload]

/-- Entering a mode gives every load switch the setting of the mode. -/
theorem enterPowerMode_switch (mode : PowerMode) (eps : Eps) (soc : ℚ) (now : UInt64)
    (switch : LoadSwitch) :
    (enterPowerMode mode eps soc now).state.record.switch switch = mode.wants switch := by
  unfold enterPowerMode epsControlRadio epsControlAdcs epsControlBeacon
  set payload := (epsControlPayload eps mode.wantsPayload soc now).1
  set radio := (controlSwitch .radio payload mode.wantsBus now).1
  set adcs := (controlSwitch .adcs radio mode.wantsBus now).1
  show (controlSwitch .beacon adcs true now).1.state.record.switch switch = mode.wants switch
  rw [controlSwitch_switch, controlSwitch_switch, controlSwitch_switch]
  cases switch <;> rfl

/-- The switches and the limit of a mode, applied to a record that already stores its number. -/
theorem enterPowerMode_inMode (mode : PowerMode) (eps : Eps) (soc : ℚ) (now : UInt64)
    (stored : eps.state.record.powerMode = mode.code) :
    (enterPowerMode mode eps soc now).state.record.InMode mode := by
  obtain ⟨sameMode, payload⟩ := enterPowerMode_frame mode eps soc now
  refine ⟨sameMode.trans stored, rfl, fun on => ?_⟩
  rw [payload] at on
  have wanted : mode.wantsPayload = true :=
    ((epsControlPayload_on_iff eps mode.wantsPayload soc now).mp on).1
  exact eq_of_beq wanted

/-- A request of the mode that is stored already returns early. -/
theorem epsSetPowerMode_same {eps : Eps} {target : PowerMode}
    (already : eps.state.record.powerMode = target.code) (soc : ℚ) (now : UInt64) :
    epsSetPowerMode eps target.value soc now = (eps, .ok) := by
  rw [epsSetPowerMode, if_pos]
  rw [already, PowerMode.value]

/-- A request of another mode stores it, enters it and saves. -/
theorem epsSetPowerMode_change {eps : Eps} {target : PowerMode}
    (change : eps.state.record.powerMode ≠ target.code) (soc : ℚ) (now : UInt64) :
    epsSetPowerMode eps target.value soc now =
      (epsSaveConfig (epsUpdateCrc
        (enterPowerMode target (storeMode eps target.value now) soc now)), .ok) := by
  have late : ¬ eps.state.record.powerMode.toUInt32 = target.value := by
    intro early
    have narrowed := congrArg UInt32.toUInt8 early
    rw [UInt8.toUInt8_toUInt32, PowerMode.value_toUInt8] at narrowed
    exact change narrowed
  rw [epsSetPowerMode, if_neg late, PowerMode.ofValue?_value]

/-- A mode request on a consistent record ends in that mode, whether or not it was there
already. -/
theorem epsSetPowerMode_inMode {eps : Eps} (consistent : eps.state.record.Consistent)
    (target : PowerMode) (soc : ℚ) (now : UInt64) :
    (epsSetPowerMode eps target.value soc now).1.state.record.InMode target := by
  obtain ⟨mode, inMode⟩ := consistent
  by_cases already : eps.state.record.powerMode = target.code
  · rw [epsSetPowerMode_same already]
    have same : mode = target := PowerMode.code_injective (inMode.stored.symm.trans already)
    exact same ▸ inMode
  · rw [epsSetPowerMode_change already]
    exact enterPowerMode_inMode target _ soc now target.value_toUInt8

/-! ### The recovery actions -/

/-- Thermal recovery ends in idle with the payload off, unless the payload is off already. -/
theorem faultRecoverThermal_spec {eps : Eps} (consistent : eps.state.record.Consistent)
    (soc : ℚ) (now : UInt64) :
    (eps.state.record.payloadEnabled = true ∧
        (faultRecoverThermal eps soc now).state.record.InMode .idle) ∨
      (eps.state.record.payloadEnabled = false ∧ faultRecoverThermal eps soc now = eps) := by
  unfold faultRecoverThermal epsIsPayloadEnabled
  split
  · next on =>
    refine Or.inl ⟨on, ?_⟩
    obtain ⟨mode, inMode⟩ := consistent
    have logged : (eps.logFault .thermal .warning "Thermal fault recovery: disabling payload"
        soc now).state.record.InMode mode := inMode
    exact epsSetPowerMode_inMode ⟨mode, epsControlPayload_off_inMode logged soc now⟩ .idle soc now
  · next off => exact Or.inr ⟨Bool.eq_false_iff.mpr off, rfl⟩

theorem faultRecoverThermal_consistent {eps : Eps} (consistent : eps.state.record.Consistent)
    (soc : ℚ) (now : UInt64) : (faultRecoverThermal eps soc now).state.record.Consistent := by
  rcases faultRecoverThermal_spec consistent soc now with ⟨_, idle⟩ | ⟨_, same⟩
  · exact ⟨.idle, idle⟩
  · rw [same]
    exact consistent

/-- Power recovery ends in the mode the state of charge calls for, or changes nothing. -/
theorem faultRecoverPower_spec {eps : Eps} (consistent : eps.state.record.Consistent)
    (soc : ℚ) (now : UInt64) :
    (soc < epsSocSafeThreshold ∧ (faultRecoverPower eps soc now).state.record.InMode .safe) ∨
      (¬ soc < epsSocSafeThreshold ∧
        (faultRecoverPower eps soc now).state.record.InMode .idle) ∨
      (¬ soc < epsSocSafeThreshold ∧ ¬ soc < epsSocIdleThreshold ∧
        faultRecoverPower eps soc now = eps) := by
  unfold faultRecoverPower
  split
  · next critical =>
    refine Or.inl ⟨critical, epsSetPowerMode_inMode ?_ .safe soc now⟩
    exact consistent
  · next uncritical =>
    split
    · refine Or.inr (Or.inl ⟨uncritical, epsSetPowerMode_inMode ?_ .idle soc now⟩)
      exact consistent
    · next charged => exact Or.inr (Or.inr ⟨uncritical, charged, rfl⟩)

end

end SmartQso
