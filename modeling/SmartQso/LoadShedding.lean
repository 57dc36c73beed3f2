/-
This file is about the recovery actions of the fault management as load shedding: a
recovery is meant to take load off the bus. Both ask for a fixed power mode, and a
mode request sets every switch of that mode, so from a mode below the requested one,
or with the radio or the attitude control off, a recovery adds load instead.
-/

import SmartQso.EpsModes

namespace SmartQso

/-! ### Shedding load -/

/-- Neither the power mode nor a load switch goes up. -/
structure EpsRecord.ShedsTo (before after : EpsRecord) : Prop where
  mode : after.powerMode ≤ before.powerMode
  payload : after.payloadEnabled = true → before.payloadEnabled = true
  radio : after.radioEnabled = true → before.radioEnabled = true
  adcs : after.adcsEnabled = true → before.adcsEnabled = true

theorem EpsRecord.ShedsTo.refl (record : EpsRecord) : record.ShedsTo record :=
  ⟨UInt8.le_refl record.powerMode, id, id, id⟩

/-- From a record that differs in its payload only, the same records are reached by shedding
load. -/
theorem EpsRecord.ShedsTo.of_payload {before other after : EpsRecord}
    (sheds : other.ShedsTo after) (mode : other.powerMode = before.powerMode)
    (radio : other.radioEnabled = before.radioEnabled)
    (adcs : other.adcsEnabled = before.adcsEnabled)
    (payload : after.payloadEnabled = true → before.payloadEnabled = true) :
    before.ShedsTo after := by
  refine ⟨?_, payload, fun on => ?_, fun on => ?_⟩
  · rw [← mode]
    exact sheds.mode
  · rw [← radio]
    exact sheds.radio on
  · rw [← adcs]
    exact sheds.adcs on

/-- A request of the mode takes load off: the record is in it already, or in a higher one with
every switch on that the request switches on. -/
def EpsRecord.Above (record : EpsRecord) (target : PowerMode) : Prop :=
  record.powerMode = target.code ∨
    target.code < record.powerMode ∧
      (target.wantsBus = true → record.radioEnabled = true ∧ record.adcsEnabled = true)

/-- Every mode is as high as the safe mode, which switches nothing on. -/
theorem EpsRecord.above_safe (record : EpsRecord) : record.Above .safe := by
  by_cases stored : record.powerMode = PowerMode.safe.code
  · exact Or.inl stored
  · refine Or.inr ⟨UInt8.lt_of_le_of_ne ?_ (Ne.symm stored), fun wanted => ?_⟩
    · exact UInt8.le_iff_toNat_le.mpr (Nat.zero_le _)
    · exact absurd wanted (by decide)

section

variable [CLayout EpsRecord] [CLayout FaultRecord]

/-! ### What a mode request switches -/

/-- The radio and the attitude control follow the mode that is entered. -/
theorem enterPowerMode_bus (mode : PowerMode) (eps : Eps) (soc : ℚ) (now : UInt64) :
    (enterPowerMode mode eps soc now).state.record.radioEnabled = mode.wantsBus ∧
      (enterPowerMode mode eps soc now).state.record.adcsEnabled = mode.wantsBus :=
  ⟨enterPowerMode_switch mode eps soc now .radio, enterPowerMode_switch mode eps soc now .adcs⟩

/-- A request of a mode without the payload never switches the payload on. -/
theorem epsSetPowerMode_payload (eps : Eps) {target : PowerMode} (inactive : target ≠ .active)
    (soc : ℚ) (now : UInt64)
    (on : (epsSetPowerMode eps target.value soc now).1.state.record.payloadEnabled = true) :
    eps.state.record.payloadEnabled = true := by
  by_cases already : eps.state.record.powerMode = target.code
  · rw [epsSetPowerMode_same already] at on
    exact on
  · rw [epsSetPowerMode_change already] at on
    have entered := enterPowerMode_inMode target (storeMode eps target.value now) soc now
      target.value_toUInt8
    exact absurd (entered.loaded on) inactive

/-- A request of a mode without the payload sheds load exactly from above that mode. -/
theorem epsSetPowerMode_sheds_iff (eps : Eps) {target : PowerMode} (inactive : target ≠ .active)
    (soc : ℚ) (now : UInt64) :
    eps.state.record.ShedsTo (epsSetPowerMode eps target.value soc now).1.state.record ↔
      eps.state.record.Above target := by
  by_cases already : eps.state.record.powerMode = target.code
  · rw [epsSetPowerMode_same already]
    exact iff_of_true (.refl _) (Or.inl already)
  · rw [epsSetPowerMode_change already]
    set stored := storeMode eps target.value now
    obtain ⟨radio, adcs⟩ := enterPowerMode_bus target stored soc now
    have entered := enterPowerMode_inMode target stored soc now target.value_toUInt8
    set reached := (enterPowerMode target stored soc now).state.record with reached_eq
    show eps.state.record.ShedsTo reached ↔ _
    constructor
    · intro sheds
      refine Or.inr ⟨UInt8.lt_of_le_of_ne ?_ (Ne.symm already), fun wanted => ?_⟩
      · rw [← entered.stored]
        exact sheds.mode
      · exact ⟨sheds.radio (radio.trans wanted), sheds.adcs (adcs.trans wanted)⟩
    · rintro (same | ⟨higher, bus⟩)
      · exact absurd same already
      · refine ⟨?_, fun on => absurd (entered.loaded on) inactive, fun on => ?_, fun on => ?_⟩
        · rw [entered.stored]
          exact UInt8.le_of_lt higher
        · exact (bus (radio.symm.trans on)).1
        · exact (bus (adcs.symm.trans on)).2

/-! ### The two recovery actions -/

/-- Power recovery sheds load except in the band between the thresholds, where it asks for
idle. -/
theorem faultRecoverPower_sheds_iff (eps : Eps) (soc : ℚ) (now : UInt64) :
    eps.state.record.ShedsTo (faultRecoverPower eps soc now).state.record ↔
      (epsSocSafeThreshold ≤ soc → soc < epsSocIdleThreshold →
        eps.state.record.Above .idle) := by
  unfold faultRecoverPower
  by_cases critical : soc < epsSocSafeThreshold
  · rw [if_pos critical]
    refine iff_of_true ?_ fun charged => absurd critical (not_lt.mpr charged)
    refine (epsSetPowerMode_sheds_iff (eps.logFault .powerCritical .error _ soc now) ?_ soc
      now).mpr (EpsRecord.above_safe _)
    exact PowerMode.noConfusion
  rw [if_neg critical]
  by_cases low : soc < epsSocIdleThreshold
  · rw [if_pos low]
    refine (epsSetPowerMode_sheds_iff (eps.logFault .power .warning _ soc now) ?_ soc now).trans ?_
    · exact PowerMode.noConfusion
    · exact ⟨fun above _ _ => above, fun above => above (not_lt.mp critical) low⟩
  · rw [if_neg low]
    exact iff_of_true (.refl _) fun _ charged => absurd charged low

/-- Thermal recovery with the payload on asks for idle, and does nothing with the payload off. -/
theorem faultRecoverThermal_sheds_iff (eps : Eps) (soc : ℚ) (now : UInt64) :
    eps.state.record.ShedsTo (faultRecoverThermal eps soc now).state.record ↔
      (eps.state.record.payloadEnabled = true → eps.state.record.Above .idle) := by
  unfold faultRecoverThermal epsIsPayloadEnabled
  by_cases on : eps.state.record.payloadEnabled = true
  · rw [if_pos on, forall_prop_of_true on]
    set logged := eps.logFault .thermal .warning "Thermal fault recovery: disabling payload" soc now
    set unloaded := (epsControlPayload logged false soc now).1
    -- Switching the payload off first changes nothing that the mode request looks at.
    have mode : unloaded.state.record.powerMode = eps.state.record.powerMode :=
      (epsControlPayload_frame logged false soc now).1
    have radio : unloaded.state.record.radioEnabled = eps.state.record.radioEnabled :=
      epsControlPayload_switch logged false soc now .radio
    have adcs : unloaded.state.record.adcsEnabled = eps.state.record.adcsEnabled :=
      epsControlPayload_switch logged false soc now .adcs
    have same : unloaded.state.record.Above .idle ↔ eps.state.record.Above .idle := by
      unfold EpsRecord.Above
      rw [mode, radio, adcs]
    have inactive : PowerMode.idle ≠ .active := PowerMode.noConfusion
    rw [← same, ← epsSetPowerMode_sheds_iff unloaded inactive soc now]
    constructor
    · intro sheds
      exact sheds.of_payload mode.symm radio.symm adcs.symm
        (epsSetPowerMode_payload unloaded inactive soc now)
    · intro sheds
      exact sheds.of_payload mode radio adcs fun _ => on
  · rw [if_neg on]
    exact iff_of_true (.refl _) fun loaded => absurd loaded on

/-- The recovery actions shed load, both of them. -/
def RecoverySheds (eps : Eps) (soc : ℚ) (now : UInt64) : Prop :=
  eps.state.record.ShedsTo (faultRecoverPower eps soc now).state.record ∧
    eps.state.record.ShedsTo (faultRecoverThermal eps soc now).state.record

/-- For every state of the EPS and every state of charge, recovery sheds load if and only if the
idle mode, where it is asked for, is not above the mode and switches on nothing that was off. -/
theorem recovery_sheds_iff (eps : Eps) (soc : ℚ) (now : UInt64) :
    RecoverySheds eps soc now ↔
      (25 / 100 ≤ soc → soc < 40 / 100 → eps.state.record.Above .idle) ∧
        (eps.state.record.payloadEnabled = true → eps.state.record.Above .idle) :=
  and_congr (faultRecoverPower_sheds_iff eps soc now) (faultRecoverThermal_sheds_iff eps soc now)

omit [CLayout EpsRecord] [CLayout FaultRecord] in
/-- The safe mode was entered below the safe threshold, and the state of charge is back at 0.28:
power recovery raises the mode to idle and switches the radio and the attitude control on. -/
theorem low_recovery_leaves_safe :
    letI := CLayout.blank EpsRecord
    letI := CLayout.blank FaultRecord
    let drained := (epsSetPowerMode (epsInit (Eps.boot [] FaultMgmt.boot) 0) PowerMode.safe.value
      (20 / 100) 0).1
    ¬ RecoverySheds drained (28 / 100) 0 := by
  let := CLayout.blank EpsRecord
  let := CLayout.blank FaultRecord
  intro drained sheds
  have above := (faultRecoverPower_sheds_iff drained (28 / 100) 0).mp sheds.1
    (by norm_num [epsSocSafeThreshold]) (by norm_num [epsSocIdleThreshold])
  revert above
  unfold EpsRecord.Above
  decide

end

end SmartQso
