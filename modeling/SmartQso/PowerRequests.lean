/-
This file settles what a power-mode request promises. A request for a mode that is not
the stored one applies the limit and the switches of the mode; a request for the stored
mode returns at once, whatever has become of the switches since. So every request can
be relied on throughout a run exactly when the run starts with the loads of its mode
and no call takes them away. The file ends with the requests that are refused, where
the mode is stored before it is looked at.
-/

import SmartQso.EpsModes
import SmartQso.Runs

namespace SmartQso

open Runs

/-! ### The loads of a mode -/

/-- The record has the limit and the switches of a mode. -/
structure EpsRecord.LoadedAs (record : EpsRecord) (mode : PowerMode) : Prop where
  limited : record.powerLimitW = mode.powerLimitW
  payload : record.payloadEnabled = mode.wantsPayload
  switches : ∀ switch, record.switch switch = mode.wants switch

/-- The record has the loads of the mode it stores, if its number names one. -/
def EpsRecord.SetUp (record : EpsRecord) : Prop :=
  ∀ mode : PowerMode, record.powerMode = mode.code → record.LoadedAs mode

theorem epsDefaults_setUp (lastControlMs : UInt32) : (epsDefaults lastControlMs).SetUp := by
  intro mode stored
  obtain rfl : PowerMode.idle = mode := PowerMode.code_injective stored
  exact ⟨rfl, rfl, fun switch => by cases switch <;> rfl⟩

/-- What a request for a mode promises about the state it leaves. -/
structure RequestMet [CLayout EpsRecord] (mode : PowerMode) (soc : ℚ) (eps : Eps) : Prop where
  stored : epsGetPowerMode eps = mode.code
  limited : epsGetPowerLimit eps = mode.powerLimitW
  switches : ∀ switch, eps.state.record.switch switch = mode.wants switch
  unloaded : mode ≠ .active → epsIsPayloadEnabled eps = false
  loaded : mode = .active → epsSocPayloadThreshold ≤ soc → epsIsPayloadEnabled eps = true
  sealed : eps.state.verifies = true

/-! ### Calls -/

/-- A call made to the EPS; the mode is any number its C type can hold. -/
inductive EpsRequest
  | init (now : UInt64)
  | setPowerMode (mode : UInt32) (soc : ℚ) (now : UInt64)
  | controlPayload (enable : Bool) (soc : ℚ) (now : UInt64)
  | controlLoad (switch : LoadSwitch) (enable : Bool) (now : UInt64)
  | saveConfig
  | loadConfig

section

variable [CLayout EpsRecord]

/-- A record with the loads of its mode carries the right checksum, if its number names a mode. -/
def Eps.SetUp (eps : Eps) : Prop :=
  ∀ mode : PowerMode, eps.state.record.powerMode = mode.code →
    eps.state.record.LoadedAs mode ∧ eps.state.verifies = true

/-- A configuration that a load accepts has the loads of its mode. -/
def Eps.FileSetUp (eps : Eps) : Prop :=
  ∀ loaded ∈ eps.written.head?, loaded.verifies = true → loaded.record.SetUp

/-- The condition on a call: it leaves the loads as the stored mode has them. A request for the
active mode finds charge for the payload, or the payload on already; a number that is stored
although it is invalid names no mode in its low byte, or one whose loads and checksum are there. -/
def KeepsSetUp (eps : Eps) : EpsRequest → Prop
  | .init _ => eps.FileSetUp
  | .setPowerMode mode soc now =>
    match PowerMode.ofValue? mode with
    | some target =>
      target = .active → epsGetPowerMode eps ≠ PowerMode.active.code →
        epsIsPayloadEnabled eps = true ∨ epsSocPayloadThreshold ≤ soc
    | none =>
      ∀ named : PowerMode, mode.toUInt8 = named.code → eps.state.record.LoadedAs named ∧
        recordCrc { eps.state.record with
          powerMode := named.code, lastControlMs := now.toUInt32 } = eps.state.crc32
  | .controlPayload enable soc _ =>
    ∀ mode : PowerMode, epsGetPowerMode eps = mode.code →
      enable = mode.wantsPayload ∨ enable = true ∧ soc < epsSocPayloadThreshold
  | .controlLoad switch enable _ =>
    ∀ mode : PowerMode, epsGetPowerMode eps = mode.code → enable = mode.wants switch
  | .saveConfig => True
  | .loadConfig => eps.FileSetUp

variable [CLayout FaultRecord]

def epsRequest (eps : Eps) : EpsRequest → Eps
  | .init now => epsInit eps now
  | .setPowerMode mode soc now => (epsSetPowerMode eps mode soc now).1
  | .controlPayload enable soc now => (epsControlPayload eps enable soc now).1
  | .controlLoad switch enable now => (controlSwitch switch eps enable now).1
  | .saveConfig => epsSaveConfig eps
  | .loadConfig => (epsLoadConfig eps).getD eps

/-- Every request for a valid mode that is made in this state and answered with success is met. -/
def RequestsMet (eps : Eps) : Prop :=
  ∀ (mode : PowerMode) (soc : ℚ) (now : UInt64), 0 ≤ soc → soc ≤ 1 →
    (epsSetPowerMode eps mode.value soc now).2 = .ok →
      RequestMet mode soc (epsSetPowerMode eps mode.value soc now).1

/-! ### A request -/

/-- A request for another mode is met at every state of charge. -/
theorem requestMet_change {eps : Eps} {mode : PowerMode}
    (change : eps.state.record.powerMode ≠ mode.code) (soc : ℚ) (now : UInt64) :
    RequestMet mode soc (epsSetPowerMode eps mode.value soc now).1 := by
  rw [epsSetPowerMode_change change]
  set requested := storeMode eps mode.value now
  have stored : requested.state.record.powerMode = mode.code := mode.value_toUInt8
  have inMode := enterPowerMode_inMode mode requested soc now stored
  obtain ⟨_, payload⟩ := enterPowerMode_frame mode requested soc now
  exact
    { stored := inMode.stored
      limited := inMode.limited
      switches := enterPowerMode_switch mode requested soc now
      unloaded := fun other => inMode.unloaded other
      loaded := fun active charged => payload.trans <|
        (epsControlPayload_on_iff requested mode.wantsPayload soc now).mpr
          ⟨active ▸ rfl, Or.inr charged⟩
      sealed := Sealed.updateCrc_verifies _ }

/-- A request for a number that names no mode stores it and is refused. -/
theorem epsSetPowerMode_invalid {eps : Eps} {mode : UInt32}
    (other : eps.state.record.powerMode.toUInt32 ≠ mode)
    (invalid : PowerMode.ofValue? mode = none) (soc : ℚ) (now : UInt64) :
    epsSetPowerMode eps mode soc now = (storeMode eps mode now, .errorInvalid) := by
  rw [epsSetPowerMode, if_neg other, invalid]

/-- Every request made in a state is met exactly when the state has the loads of its mode. -/
theorem requestsMet_iff (eps : Eps) : RequestsMet eps ↔ eps.SetUp := by
  constructor
  · intro met mode already
    -- A request for the stored mode at full charge leaves the state as it is.
    have kept := met mode 1 0 (by decide) (by decide)
    rw [epsSetPowerMode_same already] at kept
    have same := kept rfl
    refine ⟨⟨same.limited, ?_, same.switches⟩, same.sealed⟩
    cases mode with
    | safe => exact same.unloaded (by decide)
    | idle => exact same.unloaded (by decide)
    | active => exact same.loaded rfl (by norm_num [epsSocPayloadThreshold])
  · intro setUp mode soc now _ _ _
    by_cases already : eps.state.record.powerMode = mode.code
    · obtain ⟨loaded, verified⟩ := setUp mode already
      rw [epsSetPowerMode_same already]
      refine ⟨already, loaded.limited, loaded.switches, fun other => ?_, fun active _ => ?_,
        verified⟩
      · refine loaded.payload.trans ?_
        cases mode with
        | safe => rfl
        | idle => rfl
        | active => exact absurd rfl other
      · exact loaded.payload.trans (active ▸ rfl)
    · exact requestMet_change already soc now

/-! ### What keeps the loads -/

omit [CLayout FaultRecord] in
/-- A state that has just been saved or sealed is set up when its record is. -/
theorem setUp_of_verifies {eps : Eps} (verified : eps.state.verifies = true) :
    eps.SetUp ↔ eps.state.record.SetUp :=
  ⟨fun setUp mode stored => (setUp mode stored).1,
    fun setUp mode stored => ⟨setUp mode stored, verified⟩⟩

omit [CLayout FaultRecord] in
theorem Eps.SetUp.record {eps : Eps} (setUp : eps.SetUp) : eps.state.record.SetUp :=
  fun mode stored => (setUp mode stored).1

omit [CLayout FaultRecord] in
/-- A load leaves the loads of the mode exactly when the file has them. -/
theorem loadConfig_setUp {eps : Eps} (setUp : eps.SetUp) :
    ((epsLoadConfig eps).getD eps).SetUp ↔ eps.FileSetUp := by
  unfold epsLoadConfig Eps.FileSetUp
  cases eps.written.head? with
  | none => exact iff_of_true setUp fun loaded absent => absurd absent (Option.not_mem_none _)
  | some loaded =>
    simp only [Option.mem_some_iff, forall_eq']
    by_cases verified : loaded.verifies = true
    · rw [if_pos verified, Option.getD_some, setUp_of_verifies verified]
      exact (imp_iff_right verified).symm
    · rw [if_neg verified, Option.getD_none]
      exact iff_of_true setUp fun verifies => absurd verifies verified

omit [CLayout FaultRecord] in
theorem init_setUp (eps : Eps) (now : UInt64) : (epsInit eps now).SetUp ↔ eps.FileSetUp := by
  have defaults : (epsUpdateCrc (eps.update fun _ => epsDefaults now.toUInt32)).SetUp :=
    (setUp_of_verifies (Sealed.updateCrc_verifies _)).mpr (epsDefaults_setUp _)
  unfold epsInit epsLoadConfig Eps.FileSetUp
  cases eps.written.head? with
  | none => exact iff_of_true defaults fun loaded absent => absurd absent (Option.not_mem_none _)
  | some loaded =>
    simp only [Option.mem_some_iff, forall_eq']
    by_cases verified : loaded.verifies = true
    · rw [if_pos verified]
      refine Iff.trans ?_ (imp_iff_right verified).symm
      exact @setUp_of_verifies _ { eps with state := loaded, initialized := true } verified
    · rw [if_neg verified]
      exact iff_of_true defaults fun verifies => absurd verifies verified

omit [CLayout FaultRecord] in
/-- A load switch may take the setting of the mode only. -/
theorem controlSwitch_setUp {eps : Eps} (setUp : eps.SetUp) (switch : LoadSwitch) (enable : Bool)
    (now : UInt64) :
    (controlSwitch switch eps enable now).1.SetUp ↔
      ∀ mode : PowerMode, epsGetPowerMode eps = mode.code → enable = mode.wants switch := by
  obtain ⟨stored, limited, payload⟩ := controlSwitch_frame switch eps enable now
  have switched := controlSwitch_switch switch eps enable now
  constructor
  · intro after mode same
    have loaded := (after mode (stored.trans same)).1
    rw [← loaded.switches switch, switched, if_pos rfl]
  · intro wanted mode same
    have before := setUp mode (stored.symm.trans same)
    have already : eps.state.record.switch switch = enable :=
      (before.1.switches switch).trans (wanted mode (stored.symm.trans same)).symm
    rw [controlSwitch, if_pos already]
    exact before

/-- A payload switch that moves seals the state. -/
theorem epsControlPayload_setUp {eps : Eps} (setUp : eps.SetUp) (enable : Bool) (soc : ℚ)
    (now : UInt64) :
    (epsControlPayload eps enable soc now).1.SetUp ↔
      ∀ mode : PowerMode, epsGetPowerMode eps = mode.code →
        enable = mode.wantsPayload ∨ enable = true ∧ soc < epsSocPayloadThreshold := by
  obtain ⟨stored, _⟩ := epsControlPayload_frame eps enable soc now
  constructor
  · intro after mode same
    by_cases blocked : enable = true ∧ soc < epsSocPayloadThreshold
    · exact Or.inr blocked
    · refine Or.inl ((after mode (stored.trans same)).1.payload.symm.trans ?_).symm
      by_cases already : eps.state.record.payloadEnabled = enable
      · rw [epsControlPayload, if_pos already]
        exact already
      · rw [epsControlPayload, if_neg already, if_neg blocked]
        rfl
  · intro wanted mode same
    have before := setUp mode (stored.symm.trans same)
    rcases wanted mode (stored.symm.trans same) with asked | blocked
    · have already : eps.state.record.payloadEnabled = enable :=
        before.1.payload.trans asked.symm
      rw [epsControlPayload, if_pos already]
      exact before
    · unfold epsControlPayload
      rw [if_pos blocked]
      split <;> exact before

/-- A request for a mode leaves its loads, but the active mode needs charge or the payload on. -/
theorem setPowerMode_setUp {eps : Eps} (setUp : eps.SetUp) (target : PowerMode) (soc : ℚ)
    (now : UInt64) :
    (epsSetPowerMode eps target.value soc now).1.SetUp ↔
      (target = .active → epsGetPowerMode eps ≠ PowerMode.active.code →
        epsIsPayloadEnabled eps = true ∨ epsSocPayloadThreshold ≤ soc) := by
  by_cases already : eps.state.record.powerMode = target.code
  · rw [epsSetPowerMode_same already]
    refine iff_of_true setUp fun active other => absurd already ?_
    exact active ▸ other
  · have met := requestMet_change already soc now
    have payload : (epsSetPowerMode eps target.value soc now).1.state.record.payloadEnabled =
        true ↔ target = .active ∧
          (epsIsPayloadEnabled eps = true ∨ epsSocPayloadThreshold ≤ soc) := by
      rw [epsSetPowerMode_change already]
      obtain ⟨_, payload⟩ :=
        enterPowerMode_frame target (storeMode eps target.value now) soc now
      refine (Eq.congr_left payload).trans ?_
      refine (epsControlPayload_on_iff _ _ _ _).trans (and_congr_left fun _ => ?_)
      exact beq_iff_eq
    constructor
    · rintro after active _
      have loaded := (after target met.stored).1.payload
      exact (payload.mp (loaded.trans (active ▸ rfl))).2
    · intro charged mode same
      obtain rfl : target = mode := PowerMode.code_injective (met.stored.symm.trans same)
      refine ⟨⟨met.limited, ?_, met.switches⟩, met.sealed⟩
      by_cases active : target = .active
      · refine (payload.mpr ⟨active, charged active ?_⟩).trans (active ▸ rfl)
        exact active ▸ already
      · exact (met.unloaded active).trans (beq_false_of_ne active).symm

/-- An invalid number that is stored leaves the loads of a mode only where its low byte names the
mode of the switches and the checksum happens to fit. -/
theorem setPowerMode_invalid_setUp {eps : Eps} (setUp : eps.SetUp) {mode : UInt32}
    (invalid : PowerMode.ofValue? mode = none) (soc : ℚ) (now : UInt64) :
    (epsSetPowerMode eps mode soc now).1.SetUp ↔
      ∀ named : PowerMode, mode.toUInt8 = named.code → eps.state.record.LoadedAs named ∧
        recordCrc { eps.state.record with
          powerMode := named.code, lastControlMs := now.toUInt32 } = eps.state.crc32 := by
  by_cases same : eps.state.record.powerMode.toUInt32 = mode
  · rw [epsSetPowerMode, if_pos same]
    refine iff_of_true setUp fun named low => ?_
    rw [← same, UInt8.toUInt8_toUInt32] at low
    rw [← same, low, ← PowerMode.value, PowerMode.ofValue?_value] at invalid
    exact absurd invalid (Option.some_ne_none named)
  · rw [epsSetPowerMode_invalid same invalid]
    refine forall_congr' fun named => imp_congr_right fun low => ?_
    show EpsRecord.LoadedAs _ named ∧ (recordCrc _ == _) = true ↔ _
    rw [beq_iff_eq, ← show mode.toUInt8 = named.code from low]
    exact and_congr_left fun _ => ⟨fun loaded => ⟨loaded.1, loaded.2, loaded.3⟩,
      fun loaded => ⟨loaded.1, loaded.2, loaded.3⟩⟩

/-- A call keeps the loads of the stored mode exactly under its condition. -/
theorem epsRequest_setUp {eps : Eps} (setUp : eps.SetUp) (request : EpsRequest) :
    (epsRequest eps request).SetUp ↔ KeepsSetUp eps request := by
  cases request with
  | init now => exact init_setUp eps now
  | setPowerMode mode soc now =>
    unfold KeepsSetUp epsRequest
    dsimp only
    cases named : PowerMode.ofValue? mode with
    | none => exact setPowerMode_invalid_setUp setUp named soc now
    | some target =>
      have value : mode = target.value := PowerMode.eq_value named
      rw [value]
      exact setPowerMode_setUp setUp target soc now
  | controlPayload enable soc now => exact epsControlPayload_setUp setUp enable soc now
  | controlLoad switch enable now => exact controlSwitch_setUp setUp switch enable now
  | saveConfig =>
    have sealed : (epsSaveConfig eps).state.verifies = true := Sealed.updateCrc_verifies _
    exact iff_of_true ((setUp_of_verifies sealed).mpr setUp.record) trivial
  | loadConfig => exact loadConfig_setUp setUp

/-! ### Every run -/

/-- In every run of calls, from any state, each request for a valid mode that is answered with
success is met, in every state reached, exactly when the run starts with the loads of its mode
and every call keeps them. -/
theorem requests_met_iff (start : Eps) (requests : List EpsRequest) :
    Throughout epsRequest RequestsMet start requests ↔
      start.SetUp ∧ EachStep epsRequest KeepsSetUp start requests := by
  by_cases initial : start.SetUp
  · rw [and_iff_right initial]
    refine throughout_iff_eachStep (fun eps setUp => (requestsMet_iff eps).mpr setUp) ?_ ?_
      initial requests
    · intro eps request setUp
      exact (requestsMet_iff _).trans (epsRequest_setUp setUp request)
    · intro eps request setUp keeps
      exact (epsRequest_setUp setUp request).mpr keeps
  · refine iff_of_false (fun throughout => ?_) fun both => initial both.1
    exact initial ((requestsMet_iff start).mp throughout.start)

end

/-- The EPS starts in the idle mode, the radio is switched off, and a request for the idle mode is
answered with success and leaves it off. -/
theorem idle_request_leaves_radio_off :
    letI := CLayout.blank EpsRecord
    letI := CLayout.blank FaultRecord
    let start := epsInit (Eps.boot [] FaultMgmt.boot) 0
    let requests : List EpsRequest := [.controlLoad .radio false 1]
    let answer := epsSetPowerMode (finalState epsRequest start requests) PowerMode.idle.value
      (1 / 2) 2
    answer.2 = .ok ∧ epsGetPowerMode answer.1 = PowerMode.idle.code ∧
      answer.1.state.record.radioEnabled = false ∧
      ¬ Throughout epsRequest RequestsMet start requests := by
  let := CLayout.blank EpsRecord
  let := CLayout.blank FaultRecord
  intro start requests answer
  have off : answer.1.state.record.radioEnabled = false := by decide +kernel
  refine ⟨by decide +kernel, by decide +kernel, off, fun met => ?_⟩
  have request := met.finish .idle (1 / 2) 2 (by norm_num) (by norm_num) (by decide +kernel)
  have on : answer.1.state.record.radioEnabled = true := request.switches .radio
  exact absurd (off.symm.trans on) Bool.false_ne_true

/-! ### Requests that are refused -/

/-- A request that may be answered with an error. -/
inductive RefusableRequest
  | setPowerMode (mode : UInt32) (soc : ℚ) (now : UInt64)
  | controlPayload (enable : Bool) (soc : ℚ) (now : UInt64)

/-- The state before a refusal is one the refusal leaves as it is: the number names a mode, or is
the stored one, or its low byte and the time are stored already. -/
def RefusedCleanly (eps : Eps) : RefusableRequest → Prop
  | .setPowerMode mode _ now =>
    (∃ named, PowerMode.ofValue? mode = some named) ∨
      (epsGetPowerMode eps).toUInt32 = mode ∨
      epsGetPowerMode eps = mode.toUInt8 ∧ eps.state.record.lastControlMs = now.toUInt32
  | .controlPayload _ _ _ => True

section

variable [CLayout EpsRecord]

/-- The EPS state, the validity of its checksum and the stored configuration are as before. -/
structure Eps.Untouched (before after : Eps) : Prop where
  state : after.state = before.state
  initialized : after.initialized = before.initialized
  valid : after.state.verifies = before.state.verifies
  written : after.written = before.written

theorem Eps.Untouched.refl (eps : Eps) : eps.Untouched eps := ⟨rfl, rfl, rfl, rfl⟩

variable [CLayout FaultRecord]

def refusableRequest (eps : Eps) : RefusableRequest → Eps × SmartQsoResult
  | .setPowerMode mode soc now => epsSetPowerMode eps mode soc now
  | .controlPayload enable soc now => epsControlPayload eps enable soc now

omit [CLayout FaultRecord] in
/-- Storing a number leaves the EPS as it is exactly when the number and the time are there. -/
theorem storeMode_untouched_iff (eps : Eps) (mode : UInt32) (now : UInt64) :
    eps.Untouched (storeMode eps mode now) ↔
      epsGetPowerMode eps = mode.toUInt8 ∧ eps.state.record.lastControlMs = now.toUInt32 := by
  constructor
  · intro untouched
    have record := congrArg Sealed.record untouched.state
    exact ⟨(congrArg EpsRecord.powerMode record).symm,
      (congrArg EpsRecord.lastControlMs record).symm⟩
  · rintro ⟨number, time⟩
    have same : storeMode eps mode now = eps := by
      unfold storeMode Eps.update
      rw [← number, ← time]
      rfl
    rw [same]
    exact Eps.Untouched.refl eps

/-- The payload switch refuses before it assigns anything. -/
theorem epsControlPayload_refused (eps : Eps) (enable : Bool) (soc : ℚ) (now : UInt64)
    (refused : (epsControlPayload eps enable soc now).2 ≠ .ok) :
    eps.Untouched (epsControlPayload eps enable soc now).1 := by
  revert refused
  unfold epsControlPayload
  split
  · exact fun refused => absurd rfl refused
  · split
    · exact fun _ => ⟨rfl, rfl, rfl, rfl⟩
    · exact fun refused => absurd rfl refused

/-- In every state, a request that is answered with an error leaves the EPS state, the validity of
its checksum and the stored configuration as they were exactly when the number it asks for is a
mode, or is stored already. -/
theorem refused_request_untouched_iff (eps : Eps) (request : RefusableRequest) :
    ((refusableRequest eps request).2 ≠ .ok →
        eps.Untouched (refusableRequest eps request).1) ↔ RefusedCleanly eps request := by
  cases request with
  | controlPayload enable soc now =>
    exact iff_of_true (epsControlPayload_refused eps enable soc now) trivial
  | setPowerMode mode soc now =>
    unfold refusableRequest RefusedCleanly
    dsimp only
    by_cases same : eps.state.record.powerMode.toUInt32 = mode
    · rw [epsSetPowerMode, if_pos same]
      exact iff_of_true (fun _ => Eps.Untouched.refl eps) (Or.inr (Or.inl same))
    · cases named : PowerMode.ofValue? mode with
      | none =>
        have unnamed : ¬ ∃ named : PowerMode, none = some named := by
          rintro ⟨target, absent⟩
          exact Option.some_ne_none target absent.symm
        have other : (epsGetPowerMode eps).toUInt32 ≠ mode := same
        rw [epsSetPowerMode_invalid same named, or_iff_right unnamed, or_iff_right other,
          ← storeMode_untouched_iff]
        exact imp_iff_right SmartQsoResult.noConfusion
      | some target =>
        refine iff_of_true (fun refused => absurd ?_ refused) (Or.inl ⟨target, rfl⟩)
        rw [epsSetPowerMode, if_neg same, named]

end

/-- The number three names no mode: the request is refused, and the number is stored. -/
theorem invalid_mode_stored :
    letI := CLayout.blank EpsRecord
    letI := CLayout.blank FaultRecord
    let eps := epsInit (Eps.boot [] FaultMgmt.boot) 0
    let request : RefusableRequest := .setPowerMode 3 (1 / 2) 1
    let answer := refusableRequest eps request
    eps.state.verifies = true ∧ answer.2 = .errorInvalid ∧
      epsGetPowerMode eps = PowerMode.idle.code ∧ epsGetPowerMode answer.1 = 3 ∧
      ¬ (answer.2 ≠ .ok → eps.Untouched answer.1) := by
  let := CLayout.blank EpsRecord
  let := CLayout.blank FaultRecord
  intro eps request answer
  have before : epsGetPowerMode eps = PowerMode.idle.code := by decide +kernel
  have refused : answer.2 = .errorInvalid := by decide +kernel
  have after : epsGetPowerMode answer.1 = 3 := by decide +kernel
  refine ⟨by decide +kernel, refused, before, after, fun untouched => ?_⟩
  have state := (untouched (refused ▸ SmartQsoResult.noConfusion)).state
  have same : epsGetPowerMode answer.1 = epsGetPowerMode eps :=
    congrArg (fun stored => stored.record.powerMode) state
  rw [after, before] at same
  exact absurd same (by decide)

end SmartQso
