/-
This file is about the length of accepted beacon texts. A text is accepted up to 200
characters and stored up to 199, but a frame has room for 255 characters with the
callsign before the text and the telemetry behind it, whose width depends on the
clock and on the state of the other modules. A stored text that does not fit blocks
the beacon until it fits or another text is stored.
-/

import Mathlib.Data.List.TakeWhile
import SmartQso.BeaconFrames
import SmartQso.Runs

namespace SmartQso

open Runs

/-! ### The width of the telemetry -/

/-- The number of decimal digits of a number. -/
def decimalWidth (value : Nat) : Nat := (Nat.toDigits 10 value).length

/-- The length of the name of a power mode. -/
def powerModeWidth (powerMode : UInt8) : Nat := if powerMode = 0 ∨ powerMode = 1 then 4 else 6

/-- The characters of a beacon besides its text, as the state of the other modules makes them: 47
that are always the same number, and the timestamp, the power mode, the state of charge and the
reset count. -/
def surroundingWidth (eps : Eps) (mission : MissionData) (now : UInt64) : Nat :=
  47 + decimalWidth ((now.toNat / 1000) % 2 ^ 32) + powerModeWidth (epsGetPowerMode eps) +
    (if eps.initialized then 2 else 1) +
    decimalWidth (if mission.initialized then mission.data.record.resetCount.toNat % 2 ^ 16 else 0)

theorem length_formatUnsigned (value : Nat) :
    (formatUnsigned value).length = decimalWidth value :=
  List.length_map _

theorem length_powerModeName (powerMode : UInt8) :
    (ascii (powerModeName powerMode)).length = powerModeWidth powerMode := by
  unfold powerModeName powerModeWidth
  by_cases safe : powerMode = 0
  · rw [if_pos safe, if_pos (Or.inl safe)]
    rfl
  · by_cases idle : powerMode = 1
    · rw [if_neg safe, if_pos idle, if_pos (Or.inr idle)]
      rfl
    · rw [if_neg safe, if_neg idle, if_neg fun either => either.elim safe idle]
      rfl

theorem length_telemetryTail (telemetry : BeaconTelemetry) :
    (telemetryTail telemetry).length =
      31 + decimalWidth telemetry.timestamp.toNat + powerModeWidth telemetry.powerMode +
        decimalWidth telemetry.soc.toNat + (formatVolts telemetry.batteryMv).length +
        decimalWidth telemetry.sunlit.toNat + decimalWidth telemetry.rfPower.toNat +
        decimalWidth telemetry.qsoCount.toNat := by
  unfold telemetryTail
  simp only [List.length_append, length_formatUnsigned, length_powerModeName]
  have labels : (ascii " | T=").length = 5 ∧ (ascii " M=").length = 3 ∧
      (ascii " SOC=").length = 5 ∧ (ascii " BV=").length = 4 ∧ (ascii " SUN=").length = 5 ∧
      (ascii " RF=").length = 4 ∧ (ascii " QSO=").length = 5 := by decide
  obtain ⟨timestamp, powerMode, soc, voltage, sunlit, radio, contacts⟩ := labels
  rw [timestamp, powerMode, soc, voltage, sunlit, radio, contacts]
  omega

/-- The members of the telemetry that the line prints. -/
theorem beaconTelemetry_printed (eps : Eps) (mission : MissionData) (now : UInt64) :
    let telemetry := beaconTelemetry eps mission now
    telemetry.timestamp = (now / 1000).toUInt32 ∧ telemetry.powerMode = epsGetPowerMode eps ∧
      telemetry.soc = (if eps.initialized then 75 else 0) ∧
      telemetry.batteryMv = (if eps.initialized then 7400 else 0) ∧
      telemetry.sunlit = (if eps.initialized then 1 else 0) ∧
      telemetry.rfPower = (if eps.initialized && eps.state.record.radioEnabled then 1 else 0) ∧
      telemetry.qsoCount =
        (if mission.initialized then mission.data.record.resetCount.toUInt16 else 0) := by
  intro telemetry
  unfold telemetry beaconTelemetry epsGetState missionDataGet
  cases eps.initialized <;> cases mission.initialized <;> cases faultLogGetLast eps.faults <;>
    exact ⟨rfl, rfl, rfl, rfl, rfl, rfl, rfl⟩

theorem length_beaconTelemetry (eps : Eps) (mission : MissionData) (now : UInt64) :
    11 + (telemetryTail (beaconTelemetry eps mission now)).length =
      surroundingWidth eps mission now := by
  obtain ⟨timestamp, powerMode, soc, voltage, sunlit, radio, contacts⟩ :=
    beaconTelemetry_printed eps mission now
  rw [length_telemetryTail, timestamp, powerMode, soc, voltage, sunlit, radio, contacts,
    UInt64.toNat_toUInt32, UInt64.toNat_div]
  have count : (if mission.initialized then mission.data.record.resetCount.toUInt16
      else 0 : UInt16).toNat =
      if mission.initialized then mission.data.record.resetCount.toNat % 2 ^ 16 else 0 := by
    split
    · exact UInt32.toNat_toUInt16 _
    · rfl
  have charge : decimalWidth (if eps.initialized then 75 else 0 : UInt8).toNat =
      if eps.initialized then 2 else 1 := by
    split <;> decide
  have volts : (formatVolts (if eps.initialized then 7400 else 0)).length = 3 := by
    split <;> decide +kernel
  have light : decimalWidth (if eps.initialized then 1 else 0 : UInt8).toNat = 1 := by
    split <;> decide
  have power : decimalWidth (if eps.initialized && eps.state.record.radioEnabled then 1
      else 0 : UInt8).toNat = 1 := by
    split <;> decide
  rw [count, charge, volts, light, power]
  unfold surroundingWidth
  show _ = 47 + decimalWidth (now.toNat / 1000 % 2 ^ 32) + _ + _ + _
  have seconds : now.toNat / (1000 : UInt64).toNat = now.toNat / 1000 := rfl
  rw [seconds]
  omega

/-! ### Texts that fit -/

/-- The beacon generated from a given text, if there is one, is transmitted. -/
def Transmitted (beacon : Beacon) (aiText : Option (List UInt8)) (eps : Eps)
    (mission : MissionData) (now : UInt64) : Prop :=
  let generated := beaconGenerateContent beacon aiText eps mission now
  (beaconTransmit generated.1 generated.2).2 = .ok

/-- A text fits into a frame with what surrounds it. -/
def Surroundable (text : List UInt8) (eps : Eps) (mission : MissionData) (now : UInt64) : Prop :=
  copyLen text.length + surroundingWidth eps mission now < 256

/-- What is copied of a text. -/
def copiedText (text : List UInt8) : List UInt8 := text.take (copyLen text.length)

theorem copyLen_le (len : Nat) : copyLen len ≤ len := by
  unfold copyLen
  split
  · exact (Nat.sub_le _ 1).trans ‹len ≥ beaconMaxTextLen›
  · exact Nat.le_refl len

theorem length_copiedText (text : List UInt8) :
    (copiedText text).length = copyLen text.length := by
  rw [copiedText, List.length_take, min_eq_left (copyLen_le text.length)]

theorem length_copiedText_lt (text : List UInt8) :
    (copiedText text).length < beaconMaxTextLen := by
  rw [length_copiedText]
  unfold copyLen
  split
  · decide
  · exact Nat.lt_of_not_le ‹_›

/-- An accepted text has characters, none of which is a terminator. -/
theorem accepted_copiedText {text : List UInt8} (accepted : beaconValidateText text = true) :
    copiedText text ≠ [] ∧ ∀ char ∈ copiedText text, char ≠ 0 := by
  unfold beaconValidateText at accepted
  split at accepted
  · exact absurd accepted Bool.false_ne_true
  · next bounds =>
    constructor
    · intro empty
      have none := congrArg List.length empty
      rw [length_copiedText, List.length_nil] at none
      unfold copyLen at none
      split at none
      · exact absurd none (by decide)
      · exact bounds (Or.inl none)
    · intro char member zero
      have valid := List.all_eq_true.mp accepted char (List.mem_of_mem_take member)
      rw [zero] at valid
      exact absurd valid (by decide)

/-- The beacon generated from a chosen text is transmitted exactly when the text fits. -/
theorem transmitted_iff {beacon : Beacon} {aiText : Option (List UInt8)} {text : List UInt8}
    (chosen : (chooseText beacon aiText).text = copiedText text)
    (accepted : beaconValidateText text = true) (eps : Eps) (mission : MissionData)
    (now : UInt64) :
    Transmitted beacon aiText eps mission now ↔ Surroundable text eps mission now := by
  unfold Transmitted Surroundable
  dsimp only
  rw [beaconTransmit_ok_iff, length_beaconLine]
  unfold beaconGenerateContent
  dsimp only
  rw [chosen, cString_overwrite _ (length_copiedText_lt text) (accepted_copiedText accepted).2,
    length_copiedText, ← length_beaconTelemetry]
  constructor <;> intro fits <;> omega

/-- A text that is given and accepted is the one that is sent. -/
theorem chooseText_given (beacon : Beacon) {text : List UInt8}
    (accepted : beaconValidateText text = true) :
    (chooseText beacon (some text)).text = copiedText text := by
  have length : decide (text.length > 0) = true := by
    refine decide_eq_true (List.length_pos_iff.mpr fun empty => ?_)
    rw [empty] at accepted
    exact absurd accepted (by decide)
  have usable : (decide (text.length > 0) && beaconValidateText text) = true := by
    rw [length, accepted]
    rfl
  unfold chooseText
  rw [Option.filter_some, if_pos usable]
  rfl

/-- Without an accepted text, the stored one is sent while the generation of texts is
available. -/
theorem chooseText_stored {beacon : Beacon} {text : List UInt8}
    (accepted : beaconValidateText text = true)
    (stored : cString beacon.state.lastAiText = copiedText text)
    (available : beacon.state.aiAvailable = true) {given : Option (List UInt8)}
    (unusable : ∀ other ∈ given, beaconValidateText other = false) :
    (chooseText beacon given).text = copiedText text := by
  have none : given.filter (fun other => decide (other.length > 0) && beaconValidateText other) =
      none := by
    refine Option.filter_eq_none_iff.mpr fun other member usable => ?_
    have valid := (Bool.and_eq_true_iff.mp usable).2
    exact absurd ((unusable other member).symm.trans valid) Bool.false_ne_true
  have nonempty : (beacon.state.lastAiText.get 0 != 0) = true := by
    refine bne_iff_ne.mpr fun zero => (accepted_copiedText accepted).1 ?_
    rw [← stored]
    refine List.takeWhile_eq_nil_iff.mpr fun _ => ?_
    rw [Bool.not_eq_true, bne_eq_false_iff_eq]
    exact zero
  unfold chooseText
  rw [none]
  dsimp only
  rw [available, nonempty, Bool.and_self, if_pos rfl]
  exact stored

/-! ### Every call -/

/-- A call of the beacon module after `beacon_init`. -/
inductive BeaconCall
  | updateInterval (powerMode : UInt32)
  | markTransmitted (now : UInt64)
  | setAiAvailable (available : Bool)
  | storeAiText (text : List UInt8)
  | getTemplate
  | generateContent (aiText : Option (List UInt8)) (eps : Eps) (mission : MissionData)
      (now : UInt64)
  | transmit (content : BeaconContent)
  | resetStats

/-- The effect of a call. -/
def beaconCall (beacon : Beacon) : BeaconCall → Beacon
  | .updateInterval powerMode => beaconUpdateInterval beacon powerMode
  | .markTransmitted now => beaconMarkTransmitted beacon now
  | .setAiAvailable available => beaconSetAiAvailable beacon available
  | .storeAiText text => (beaconStoreAiText beacon text).1
  | .getTemplate => (beaconGetTemplate beacon).1
  | .generateContent aiText eps mission now =>
    (beaconGenerateContent beacon aiText eps mission now).1
  | .transmit content => (beaconTransmit beacon content).1
  | .resetStats => beaconResetStats beacon

theorem beaconSetAiAvailable_lastAiText (beacon : Beacon) (available : Bool) :
    (beaconSetAiAvailable beacon available).state.lastAiText = beacon.state.lastAiText := by
  unfold beaconSetAiAvailable
  split <;> rfl

/-- No other accepted text is stored. -/
def StoresNothing (_ : Beacon) : BeaconCall → Prop
  | .storeAiText text => beaconValidateText text = false
  | _ => True

theorem beaconCall_lastAiText {beacon : Beacon} {call : BeaconCall}
    (kept : StoresNothing beacon call) :
    (beaconCall beacon call).state.lastAiText = beacon.state.lastAiText := by
  cases call with
  | updateInterval powerMode =>
    show (beaconUpdateInterval beacon powerMode).state.lastAiText = _
    unfold beaconUpdateInterval
    split <;> rfl
  | markTransmitted now =>
    show (beaconMarkTransmitted beacon now).state.lastAiText = _
    unfold beaconMarkTransmitted
    split <;> rfl
  | setAiAvailable available => exact beaconSetAiAvailable_lastAiText beacon available
  | storeAiText text =>
    show (beaconStoreAiText beacon text).1.state.lastAiText = _
    have refused : beaconValidateText text = false := kept
    unfold beaconStoreAiText
    rw [if_pos refused]
    split <;> rfl
  | getTemplate => rfl
  | generateContent aiText eps mission now =>
    show (chooseText beacon aiText).beacon.state.lastAiText = _
    unfold chooseText
    split
    · rfl
    · split <;> rfl
  | transmit content =>
    show (beaconTransmit beacon content).1.state.lastAiText = _
    unfold beaconTransmit
    dsimp only
    split
    · rfl
    · split
      · rfl
      · split <;> rfl
  | resetStats =>
    show (beaconResetStats beacon).state.lastAiText = _
    unfold beaconResetStats
    split <;> rfl

theorem beaconStoreAiText_initialized (beacon : Beacon) (text : List UInt8) :
    (beaconStoreAiText beacon text).1.initialized = beacon.initialized := by
  unfold beaconStoreAiText
  split
  · rfl
  · split <;> rfl

theorem beaconSetAiAvailable_available {beacon : Beacon} (initialized : beacon.initialized = true)
    (available : Bool) : (beaconSetAiAvailable beacon available).state.aiAvailable = available := by
  unfold beaconSetAiAvailable
  rw [if_pos initialized]

/-- Storing an accepted text leaves its copy as the stored text. -/
theorem beaconStoreAiText_stored {beacon : Beacon} (initialized : beacon.initialized = true)
    {text : List UInt8} (accepted : beaconValidateText text = true) :
    cString (beaconStoreAiText beacon text).1.state.lastAiText = copiedText text := by
  have ready : ¬ beacon.initialized = false := by
    rw [initialized]
    exact Bool.noConfusion
  have valid : ¬ beaconValidateText text = false := by
    rw [accepted]
    exact Bool.noConfusion
  unfold beaconStoreAiText
  dsimp only
  rw [if_neg ready, if_neg valid]
  exact cString_overwrite _ (length_copiedText_lt text) (accepted_copiedText accepted).2

/-! ### Every run -/

/-- For every accepted text and every state of the other modules: the beacon generated from the
text is transmitted if and only if the text fits with what surrounds it. So is every beacon that
is generated without an accepted text after the text was stored, in every run in which no other
text is stored, while texts are available. -/
theorem accepted_text_transmitted_iff {text : List UInt8}
    (accepted : beaconValidateText text = true) (eps : Eps) (mission : MissionData)
    (now : UInt64) :
    (∀ beacon, Transmitted beacon (some text) eps mission now ↔
        Surroundable text eps mission now) ∧
      ∀ (beacon : Beacon) (calls : List BeaconCall), beacon.initialized = true →
        EachStep beaconCall StoresNothing (beaconStoreAiText beacon text).1 calls →
        Throughout beaconCall
          (fun later => later.state.aiAvailable = true →
            ∀ given : Option (List UInt8), (∀ other ∈ given, beaconValidateText other = false) →
              (Transmitted later given eps mission now ↔ Surroundable text eps mission now))
          (beaconStoreAiText beacon text).1 calls := by
  refine ⟨fun beacon => transmitted_iff (chooseText_given beacon accepted) accepted eps mission
    now, fun beacon calls initialized kept => ?_⟩
  have preserved : ∀ (later : Beacon) (call : BeaconCall),
      cString later.state.lastAiText = copiedText text → StoresNothing later call →
      cString (beaconCall later call).state.lastAiText = copiedText text := by
    intro later call stored keeps
    rw [beaconCall_lastAiText keeps]
    exact stored
  have throughout := throughout_of_invariant preserved
    (beaconStoreAiText_stored initialized accepted) kept
  refine throughout.mono fun later stored available given unusable => ?_
  exact transmitted_iff (chooseText_stored accepted stored available unusable) accepted eps
    mission now

/-- A text of one letter, given to a fresh beacon, or stored in it and sent later. -/
theorem accepted_text_transmitted_letter :
    let eps := Eps.boot [] FaultMgmt.boot
    let mission := MissionData.boot none
    let calls : List BeaconCall := [.setAiAvailable true, .resetStats]
    (∀ beacon, Transmitted beacon (some [0x41]) eps mission 0 ↔
        Surroundable [0x41] eps mission 0) ∧
      Throughout beaconCall
        (fun later => later.state.aiAvailable = true →
          ∀ given : Option (List UInt8), (∀ other ∈ given, beaconValidateText other = false) →
            (Transmitted later given eps mission 0 ↔ Surroundable [0x41] eps mission 0))
        (beaconStoreAiText beaconInit [0x41]).1 calls :=
  have settled := accepted_text_transmitted_iff (by decide) _ _ _
  ⟨settled.1, settled.2 beaconInit _ rfl ⟨trivial, trivial, trivial⟩⟩

/-- A text of 199 letters is accepted and stored. With the EPS and the mission data initialized
and the clock in January 2026 it has 263 characters with what surrounds it. -/
theorem long_text_blocks_beacon :
    letI := CLayout.blank EpsRecord
    letI := CLayout.blank MissionRecord
    let eps := epsInit (Eps.boot [] FaultMgmt.boot) 0
    let mission := missionDataInit (MissionData.boot none) 0
    let text := List.replicate 199 0x41
    let stored := beaconSetAiAvailable (beaconStoreAiText beaconInit text).1 true
    beaconValidateText text = true ∧ ¬ Transmitted stored none eps mission 1767312000000 := by
  let := CLayout.blank EpsRecord
  let := CLayout.blank MissionRecord
  intro eps mission text stored
  have accepted : beaconValidateText text = true := by decide +kernel
  have saved : cString stored.state.lastAiText = copiedText text := by
    rw [beaconSetAiAvailable_lastAiText]
    exact beaconStoreAiText_stored rfl accepted
  have ready : (beaconStoreAiText beaconInit text).1.initialized = true := by
    rw [beaconStoreAiText_initialized]
    rfl
  have available : stored.state.aiAvailable = true := by
    rw [beaconSetAiAvailable_available ready]
  have unusable : ∀ other ∈ (none : Option (List UInt8)), beaconValidateText other = false :=
    fun _ member => absurd member (Option.not_mem_none _)
  have chosen := chooseText_stored accepted saved available unusable
  refine ⟨accepted, fun transmitted => ?_⟩
  have fits := (transmitted_iff chosen accepted eps mission 1767312000000).mp transmitted
  unfold Surroundable at fits
  exact absurd fits (by decide +kernel)

end SmartQso
