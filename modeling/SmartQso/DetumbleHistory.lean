/-
This file settles when the detumble mode is complete. What an update does to the mode is
put as a diagram, one arrow for each way through the code. Beside the controller a history
of its updates is kept: the time at which settling has begun stands for an unbroken row of
updates in the detumble mode with a low rate. The magnetorquers are commanded in the modes
with active control and off in all others.
-/

import SmartQso.AdcsControl
import SmartQso.Runs

namespace SmartQso

open Runs

/-! ### The detumble mode as a diagram -/

/-- What the diagram sees of the controller. -/
structure Detumbler where
  mode : AdcsMode
  startMs : UInt64
  settlingMs : UInt64
  complete : Bool

/-- The timeout has passed since the mode was entered. -/
def Detumbler.timedOut (detumbler : Detumbler) (nowMs : UInt64) : Bool :=
  decide (detumbler.startMs > 0) && decide (nowMs - detumbler.startMs > adcsDetumbleTimeoutMs)

/-- The arrows that one update may take, at a time and with a rate that is low or not. -/
inductive Detumbler.Advance (nowMs : UInt64) (low : Prop) : Detumbler → Detumbler → Prop
  | timeout {before : Detumbler} (here : before.mode = .detumble)
      (late : before.timedOut nowMs = true) :
      Advance nowMs low before { before with complete := true, mode := .idle }
  | settle {before : Detumbler} (here : before.mode = .detumble)
      (early : before.timedOut nowMs = false) (slow : low) (fresh : before.settlingMs = 0) :
      Advance nowMs low before { before with settlingMs := nowMs }
  | converge {before : Detumbler} (here : before.mode = .detumble)
      (early : before.timedOut nowMs = false) (slow : low) (settling : before.settlingMs ≠ 0)
      (settled : nowMs - before.settlingMs > adcsDetumbleSettlingMs) :
      Advance nowMs low before { before with complete := true, mode := .idle }
  | hold {before : Detumbler} (here : before.mode = .detumble)
      (early : before.timedOut nowMs = false) (slow : low) (settling : before.settlingMs ≠ 0)
      (unsettled : ¬ nowMs - before.settlingMs > adcsDetumbleSettlingMs) :
      Advance nowMs low before before
  | tumble {before : Detumbler} (here : before.mode = .detumble)
      (early : before.timedOut nowMs = false) (fast : ¬ low) :
      Advance nowMs low before { before with settlingMs := 0 }
  | elsewhere {before : Detumbler} (away : before.mode ≠ .detumble) (mode : AdcsMode)
      (stays : mode ≠ .detumble) : Advance nowMs low before { before with mode := mode }

section

variable {K : Type} [Field K] [LinearOrder K] (numbers : AdcsNumbers K)

/-- The diagram's view of the controller. -/
def AdcsControl.detumbler (adcs : AdcsControl K) : Detumbler where
  mode := adcs.state.mode
  startMs := adcs.state.detumbleStartMs
  settlingMs := adcs.state.settlingStartMs
  complete := adcs.state.detumbleComplete

/-- The magnetorquers are enabled in the modes with active control, and off in the others. -/
structure AdcsControlState.Gated (state : AdcsControlState K) : Prop where
  enabled : state.mtq.enabled = true ↔ state.mode.IsControlled
  off : ¬ state.mode.IsControlled → state.mtq.pwm = ⟨0, 0, 0⟩

/-- What is noted of an update: its time, the mode it is made in, its rate, and whether the rate is
a new estimate. -/
structure UpdateNote (K : Type) where
  nowMs : UInt64
  mode : AdcsMode
  rate : K
  estimated : Bool

/-- The note of an update of the controller. -/
def updateNote (adcs : AdcsControl K) (clock : AdcsClock) : UpdateNote K where
  nowMs := clock.nowMs
  mode := adcs.state.mode
  rate := (adcsSense numbers adcs clock).state.rateMagnitude
  estimated := estimatesRate numbers adcs.magPrev
    (adcsReadMagnetometer adcs adcs.state.mag clock.magMs).1 clock.nowMs

/-- The rate of an update is below the threshold. -/
def UpdateNote.Low (note : UpdateNote K) : Prop := note.rate < adcsDetumbleRateThreshold

theorem checkConvergence_advances (adcs : AdcsControl K) (clock : AdcsClock)
    (here : adcs.state.mode = .detumble) (early : adcs.state.timedOut clock.nowMs = false) :
    Detumbler.Advance clock.nowMs (updateNote numbers adcs clock).Low adcs.detumbler
      { (adcsSense numbers adcs clock) with
        state := checkConvergence (adcsSense numbers adcs clock).state clock.nowMs :
          AdcsControl K }.detumbler := by
  unfold checkConvergence
  by_cases low : (adcsSense numbers adcs clock).state.rateMagnitude < adcsDetumbleRateThreshold
  · rw [if_pos low]
    by_cases fresh : (adcsSense numbers adcs clock).state.settlingStartMs = 0
    · rw [if_pos fresh]
      exact .settle here early low fresh
    rw [if_neg fresh]
    by_cases settled : clock.nowMs - (adcsSense numbers adcs clock).state.settlingStartMs >
        adcsDetumbleSettlingMs
    · rw [if_pos settled]
      exact .converge here early low fresh settled
    · rw [if_neg settled]
      exact .hold here early low fresh settled
  · rw [if_neg low]
    exact .tumble here early low

variable [CLayout FaultRecord]

/-- The commands to the magnetorquers are nothing that the diagram sees. -/
theorem adcsUpdate_detumbler {adcs : AdcsControl K} (initialized : adcs.initialized = true)
    (clock : AdcsClock) :
    (adcsUpdate numbers adcs clock).1.detumbler =
      (adcsControlMode numbers (adcsSense numbers adcs clock) clock).1.detumbler := by
  unfold adcsUpdate
  rw [if_pos initialized]
  dsimp only
  split <;> rfl

/-- An update takes one arrow of the diagram. -/
theorem adcsUpdate_advances {adcs : AdcsControl K} (initialized : adcs.initialized = true)
    (clock : AdcsClock) :
    Detumbler.Advance clock.nowMs (updateNote numbers adcs clock).Low adcs.detumbler
      (adcsUpdate numbers adcs clock).1.detumbler := by
  rw [adcsUpdate_detumbler numbers initialized]
  unfold adcsControlMode
  cases here : adcs.state.mode with
  | detumble =>
    rw [show (adcsSense numbers adcs clock).state.mode = .detumble from here]
    dsimp only
    by_cases late : adcs.state.timedOut clock.nowMs = true
    · rw [if_pos (show (adcsSense numbers adcs clock).state.timedOut clock.nowMs = true from late)]
      exact .timeout here late
    · have notLate : ¬ (adcsSense numbers adcs clock).state.timedOut clock.nowMs = true := late
      rw [if_neg notLate]
      exact checkConvergence_advances numbers adcs clock here (eq_false_of_ne_true late)
  | sunpoint =>
    rw [show (adcsSense numbers adcs clock).state.mode = .sunpoint from here]
    have away : adcs.detumbler.mode ≠ .detumble := here.trans_ne (by decide)
    dsimp only
    split
    · exact .elsewhere away adcs.state.mode away
    · exact .elsewhere away .eclipse (by decide)
  | eclipse =>
    rw [show (adcsSense numbers adcs clock).state.mode = .eclipse from here]
    have away : adcs.detumbler.mode ≠ .detumble := here.trans_ne (by decide)
    dsimp only
    split
    · exact .elsewhere away .sunpoint (by decide)
    · exact .elsewhere away adcs.state.mode away
  | _ =>
    rw [show (adcsSense numbers adcs clock).state.mode = _ from here]
    have away : adcs.detumbler.mode ≠ .detumble := here.trans_ne (by rintro ⟨⟩)
    exact .elsewhere away adcs.state.mode away

theorem adcsUpdate_initialized {adcs : AdcsControl K} (initialized : adcs.initialized = true)
    (clock : AdcsClock) : (adcsUpdate numbers adcs clock).1.initialized = true := by
  unfold adcsUpdate adcsControlMode
  rw [if_pos initialized]
  dsimp only
  split
  · split <;> exact initialized
  · split <;> exact initialized
  · split <;> exact initialized
  · exact initialized

omit [Field K] [LinearOrder K] [CLayout FaultRecord] in
theorem adcsSetMode_initialized {adcs : AdcsControl K} (initialized : adcs.initialized = true)
    (mode : AdcsMode) (nowMs : UInt64) : (adcsSetMode adcs mode nowMs).1.initialized = true := by
  unfold adcsSetMode
  rw [if_pos initialized]
  dsimp only
  split <;> exact initialized

theorem adcsUpdate_gated {adcs : AdcsControl K} (initialized : adcs.initialized = true)
    (clock : AdcsClock) : (adcsUpdate numbers adcs clock).1.state.Gated := by
  unfold adcsUpdate
  rw [if_pos initialized]
  dsimp only
  by_cases controlled :
    (adcsControlMode numbers (adcsSense numbers adcs clock) clock).1.state.mode.IsControlled
  · rw [if_pos controlled]
    exact ⟨iff_of_true rfl controlled, fun away => absurd controlled away⟩
  · rw [if_neg controlled]
    exact ⟨iff_of_false Bool.false_ne_true controlled, fun _ => rfl⟩

end

/-! ### Runs with a history -/

/-- A call of the controller, with the times it reads. -/
inductive AdcsEvent (K : Type)
  | update (clock : AdcsClock)
  | setMode (mode : AdcsMode) (nowMs : UInt64)
  | setSimSensors (mag sun rate : Option (Vec3 K))

/-- The times that a call reads, in their order. -/
def AdcsEvent.times {K : Type} : AdcsEvent K → List UInt64
  | .update clock => [clock.nowMs, clock.magMs, clock.sunMs, clock.faultMs]
  | .setMode _ nowMs => [nowMs]
  | .setSimSensors _ _ _ => []

/-- The controller with the notes of its updates, the newest first, those of them since settling has
begun, the time at which the detumble mode was entered last, and the time of the last call. -/
structure AdcsRun (K : Type) where
  adcs : AdcsControl K
  notes : List (UpdateNote K)
  settling : List (UpdateNote K)
  enteredMs : Option UInt64
  clockMs : UInt64

/-- The updates since settling has begun, after one more of them. -/
def settlingAfter {K : Type} (before after : Detumbler) (note : UpdateNote K)
    (settling : List (UpdateNote K)) : List (UpdateNote K) :=
  if after.settlingMs = 0 then []
  else if before.settlingMs = 0 then [note]
  else note :: settling

/-- The updates since settling has begun are the newest ones, also after one more. -/
theorem settlingAfter_newest {K : Type} {before after : Detumbler} (note : UpdateNote K)
    {settling notes : List (UpdateNote K)} (newest : ∃ older, notes = settling ++ older) :
    ∃ older, note :: notes = settlingAfter before after note settling ++ older := by
  obtain ⟨older, rfl⟩ := newest
  unfold settlingAfter
  split
  · exact ⟨_, rfl⟩
  split
  · exact ⟨_, rfl⟩
  · exact ⟨older, rfl⟩

/-- The times of a call are in order and not before the call before. -/
def AdcsRun.Forward {K : Type} (run : AdcsRun K) (event : AdcsEvent K) : Prop :=
  (run.clockMs :: event.times).Pairwise (· ≤ ·)

theorem AdcsRun.Forward.update {K : Type} {run : AdcsRun K} {clock : AdcsClock}
    (forward : run.Forward (.update clock)) :
    run.clockMs ≤ clock.nowMs ∧ clock.nowMs ≤ clock.magMs ∧ clock.magMs ≤ clock.faultMs := by
  simp only [AdcsRun.Forward, AdcsEvent.times, List.pairwise_cons, List.mem_cons,
    List.not_mem_nil, or_false, forall_eq_or_imp, forall_eq] at forward
  exact ⟨forward.1.1, forward.2.1.1, forward.2.2.1.2⟩

section

variable {K : Type} [Field K] [LinearOrder K] (numbers : AdcsNumbers K)

/-- The run that begins after `adcs_init`. -/
def AdcsRun.initial (boot : AdcsControl K) : AdcsRun K := ⟨adcsInit boot, [], [], none, 0⟩

variable [CLayout FaultRecord]

def adcsRunEvent (run : AdcsRun K) : AdcsEvent K → AdcsRun K
  | .update clock =>
    let updated := (adcsUpdate numbers run.adcs clock).1
    let note := updateNote numbers run.adcs clock
    { adcs := updated
      notes := note :: run.notes
      settling := settlingAfter run.adcs.detumbler updated.detumbler note run.settling
      enteredMs := run.enteredMs
      clockMs := clock.faultMs }
  | .setMode mode nowMs =>
    let entered := mode = .detumble ∧ run.adcs.state.mode ≠ .detumble
    { adcs := (adcsSetMode run.adcs mode nowMs).1
      notes := run.notes
      settling := if entered then [] else run.settling
      enteredMs := if entered then some nowMs else run.enteredMs
      clockMs := nowMs }
  | .setSimSensors mag sun rate => { run with adcs := adcsSetSimSensors run.adcs mag sun rate }

/-- An update in the detumble mode with a low rate. -/
def UpdateNote.Detumbled (note : UpdateNote K) : Prop := note.mode = .detumble ∧ note.Low

/-- All updates since one that is more than the settling time ago were in the detumble mode with a
low rate. -/
def Settled (notes : List (UpdateNote K)) (nowMs : UInt64) : Prop :=
  ∃ recent first older, notes = recent ++ first :: older ∧
    first.nowMs.toNat + adcsDetumbleSettlingMs.toNat < nowMs.toNat ∧
    ∀ note ∈ recent ++ [first], note.Detumbled

/-- The timeout has passed since the detumble mode was entered last. -/
def PastTimeout (run : AdcsRun K) (nowMs : UInt64) : Prop :=
  ∃ entered, run.enteredMs = some entered ∧
    entered.toNat + adcsDetumbleTimeoutMs.toNat < nowMs.toNat

/-- An update completes the detumble mode after the timeout or when it has settled, and gates the
magnetorquers. -/
def UpdatesSoundly (run : AdcsRun K) (event : AdcsEvent K) : Prop :=
  ∀ clock, event = .update clock →
    (run.adcs.state.detumbleComplete = false →
      (adcsRunEvent numbers run event).adcs.state.detumbleComplete = true →
        PastTimeout run clock.nowMs ∨
          Settled (adcsRunEvent numbers run event).notes clock.nowMs) ∧
      (adcsRunEvent numbers run event).adcs.state.Gated

/-! ### What the controller remembers -/

/-- In the detumble mode the controller remembers when it was entered, and the updates since
settling has begun were all detumbled. -/
structure AdcsRun.Remembers (run : AdcsRun K) : Prop where
  initialized : run.adcs.initialized = true
  newest : ∃ older, run.notes = run.settling ++ older
  entered : run.adcs.detumbler.mode = .detumble →
    run.enteredMs = some run.adcs.detumbler.startMs ∧ run.adcs.detumbler.startMs ≤ run.clockMs
  settled : run.adcs.detumbler.mode = .detumble → run.adcs.detumbler.settlingMs ≠ 0 →
    run.adcs.detumbler.settlingMs ≤ run.clockMs ∧
      (∃ recent first, run.settling = recent ++ [first] ∧
        first.nowMs = run.adcs.detumbler.settlingMs) ∧
      ∀ note ∈ run.settling, note.Detumbled

omit [CLayout FaultRecord] in
theorem remembers_initial (boot : AdcsControl K) : (AdcsRun.initial boot).Remembers where
  initialized := rfl
  newest := ⟨[], rfl⟩
  entered idle := by cases idle
  settled idle := by cases idle

omit [CLayout FaultRecord] in
/-- An update that stays in the detumble mode has been in it since the entry. -/
theorem entered_advance {before after : Detumbler} {low : Prop} {nowMs : UInt64}
    (advance : Detumbler.Advance nowMs low before after) {enteredMs : Option UInt64}
    {clockMs laterMs : UInt64} (later : clockMs ≤ laterMs)
    (entered : before.mode = .detumble →
      enteredMs = some before.startMs ∧ before.startMs ≤ clockMs)
    (here : after.mode = .detumble) :
    enteredMs = some after.startMs ∧ after.startMs ≤ laterMs := by
  cases advance with
  | timeout inside late => cases here
  | converge inside early slow settling settled => cases here
  | elsewhere away mode stays => exact absurd here stays
  | settle inside | hold inside | tumble inside =>
    obtain ⟨since, past⟩ := entered inside
    exact ⟨since, UInt64.le_trans past later⟩

omit [CLayout FaultRecord] in
/-- An update with a low rate begins the row of settling updates or prolongs it. -/
theorem settled_advance {before after : Detumbler} {note : UpdateNote K}
    (advance : Detumbler.Advance note.nowMs note.Low before after)
    (mode : note.mode = before.mode) {settling : List (UpdateNote K)} {clockMs laterMs : UInt64}
    (now : clockMs ≤ note.nowMs) (later : note.nowMs ≤ laterMs)
    (settled : before.mode = .detumble → before.settlingMs ≠ 0 → before.settlingMs ≤ clockMs ∧
      (∃ recent first, settling = recent ++ [first] ∧ first.nowMs = before.settlingMs) ∧
      ∀ other ∈ settling, other.Detumbled)
    (here : after.mode = .detumble) (begun : after.settlingMs ≠ 0) :
    after.settlingMs ≤ laterMs ∧
      (∃ recent first, settlingAfter before after note settling = recent ++ [first] ∧
        first.nowMs = after.settlingMs) ∧
      ∀ other ∈ settlingAfter before after note settling, other.Detumbled := by
  cases advance with
  | timeout inside late => cases here
  | converge inside early slow settling settled => cases here
  | elsewhere away mode stays => exact absurd here stays
  | tumble inside early fast => exact absurd rfl begun
  | settle inside early slow fresh =>
    rw [settlingAfter, if_neg begun, if_pos fresh]
    refine ⟨later, ⟨[], note, rfl, rfl⟩, ?_⟩
    rw [List.forall_mem_singleton]
    exact ⟨mode.trans inside, slow⟩
  | hold inside early slow settling unsettled =>
    obtain ⟨past, ⟨recent, first, row, began⟩, detumbled⟩ := settled inside begun
    rw [settlingAfter, if_neg begun, if_neg begun]
    refine ⟨UInt64.le_trans past (UInt64.le_trans now later), ⟨note :: recent, first, ?_, began⟩,
      ?_⟩
    · rw [row, List.cons_append]
    · exact List.forall_mem_cons.mpr ⟨⟨mode.trans inside, slow⟩, detumbled⟩

theorem remembers_update {run : AdcsRun K} (remembers : run.Remembers) {clock : AdcsClock}
    (forward : run.Forward (.update clock)) :
    (adcsRunEvent numbers run (.update clock)).Remembers := by
  have advance := adcsUpdate_advances numbers remembers.initialized clock
  obtain ⟨now, readMag, readFault⟩ := forward.update
  have later := UInt64.le_trans readMag readFault
  exact
    { initialized := adcsUpdate_initialized numbers remembers.initialized clock
      newest := settlingAfter_newest _ remembers.newest
      entered := entered_advance advance (UInt64.le_trans now later) remembers.entered
      settled := @settled_advance K _ _ _ _ (updateNote numbers run.adcs clock) advance rfl _ _ _
        now later remembers.settled }

theorem remembers_setMode {run : AdcsRun K} (remembers : run.Remembers) (mode : AdcsMode)
    (nowMs : UInt64) (forward : run.Forward (.setMode mode nowMs)) :
    (adcsRunEvent numbers run (.setMode mode nowMs)).Remembers := by
  have later : run.clockMs ≤ nowMs :=
    (List.pairwise_cons.mp forward).1 nowMs List.mem_cons_self
  have initialized := remembers.initialized
  by_cases enters : mode = .detumble ∧ run.adcs.state.mode ≠ .detumble
  · have set : (adcsSetMode run.adcs mode nowMs).1.detumbler = ⟨mode, nowMs, 0, false⟩ := by
      unfold adcsSetMode
      rw [if_pos initialized, if_pos enters]
      rfl
    refine ⟨adcsSetMode_initialized initialized mode nowMs, ?_, ?_, ?_⟩
    · dsimp only [adcsRunEvent]
      rw [if_pos enters]
      exact ⟨run.notes, rfl⟩
    · dsimp only [adcsRunEvent]
      rw [if_pos enters, set]
      exact fun _ => ⟨rfl, UInt64.le_refl nowMs⟩
    · dsimp only [adcsRunEvent]
      rw [set]
      exact fun _ begun => absurd rfl begun
  · have set : (adcsSetMode run.adcs mode nowMs).1.detumbler =
        { run.adcs.detumbler with mode := mode } := by
      unfold adcsSetMode
      rw [if_pos initialized, if_neg enters]
      rfl
    have stays : mode = .detumble → run.adcs.detumbler.mode = .detumble :=
      fun here => by_contra fun away => enters ⟨here, away⟩
    refine ⟨adcsSetMode_initialized initialized mode nowMs, ?_, ?_, ?_⟩
    · dsimp only [adcsRunEvent]
      rw [if_neg enters]
      exact remembers.newest
    · dsimp only [adcsRunEvent]
      rw [if_neg enters, set]
      intro here
      obtain ⟨since, past⟩ := remembers.entered (stays here)
      exact ⟨since, UInt64.le_trans past later⟩
    · dsimp only [adcsRunEvent]
      rw [if_neg enters, set]
      intro here begun
      obtain ⟨past, row⟩ := remembers.settled (stays here) begun
      exact ⟨UInt64.le_trans past later, row⟩

theorem remembers_event {run : AdcsRun K} (remembers : run.Remembers) {event : AdcsEvent K}
    (forward : run.Forward event) : (adcsRunEvent numbers run event).Remembers := by
  cases event with
  | update clock => exact remembers_update numbers remembers forward
  | setMode mode nowMs => exact remembers_setMode numbers remembers mode nowMs forward
  | setSimSensors mag sun rate =>
    exact ⟨remembers.initialized, remembers.newest, remembers.entered, remembers.settled⟩

/-! ### When the detumble mode is complete -/

omit [CLayout FaultRecord] in
/-- The difference of two times in order. -/
theorem lt_of_elapsed {earlier later amount : UInt64} (order : earlier ≤ later)
    (elapsed : later - earlier > amount) : earlier.toNat + amount.toNat < later.toNat := by
  have long := UInt64.lt_iff_toNat_lt.mp elapsed
  rw [UInt64.toNat_sub_of_le _ _ order] at long
  have bound := UInt64.le_iff_toNat_le.mp order
  omega

/-- An update completes the mode by its timeout or by convergence, and then it has settled. -/
theorem pastTimeout_or_settled {run : AdcsRun K} (remembers : run.Remembers) {clock : AdcsClock}
    (forward : run.Forward (.update clock))
    (incomplete : run.adcs.detumbler.complete = false)
    (complete : (adcsUpdate numbers run.adcs clock).1.detumbler.complete = true) :
    PastTimeout run clock.nowMs ∨
      Settled (updateNote numbers run.adcs clock :: run.notes) clock.nowMs := by
  have advance := adcsUpdate_advances numbers remembers.initialized clock
  have entered := remembers.entered
  have settled := remembers.settled
  obtain ⟨now, -, -⟩ := forward.update
  have mode : (updateNote numbers run.adcs clock).mode = run.adcs.detumbler.mode := rfl
  generalize run.adcs.detumbler = before at *
  generalize (adcsUpdate numbers run.adcs clock).1.detumbler = after at *
  cases advance with
  | timeout here late =>
    obtain ⟨since, past⟩ := entered here
    simp only [Detumbler.timedOut, Bool.and_eq_true, decide_eq_true_eq] at late
    exact Or.inl ⟨before.startMs, since, lt_of_elapsed (UInt64.le_trans past now) late.2⟩
  | converge here early slow begun long =>
    obtain ⟨past, ⟨recent, first, row, began⟩, detumbled⟩ := settled here begun
    obtain ⟨older, notes⟩ := remembers.newest
    refine Or.inr ⟨updateNote numbers run.adcs clock :: recent, first, older, ?_, ?_, ?_⟩
    · rw [notes, row, List.append_assoc, List.singleton_append, List.cons_append]
    · rw [began]
      exact lt_of_elapsed (UInt64.le_trans past now) long
    · rw [List.cons_append, ← row]
      exact List.forall_mem_cons.mpr ⟨⟨mode.trans here, slow⟩, detumbled⟩
  | settle | hold | tumble | elsewhere =>
    exact absurd (incomplete.symm.trans complete) Bool.false_ne_true

/-- Times in order are a clock of the run that does not go back. -/
theorem forward_of_sortedTimes (boot : AdcsControl K) {events : List (AdcsEvent K)}
    (sorted : (events.flatMap AdcsEvent.times).Pairwise (· ≤ ·)) :
    EachStep (adcsRunEvent numbers) AdcsRun.Forward (AdcsRun.initial boot) events := by
  refine @eachStep_of_sorted _ _ (adcsRunEvent numbers) _ _ AdcsRun.clockMs AdcsEvent.times ?_ _ _
    (List.pairwise_cons.mpr ⟨fun time _ => UInt64.zero_le, sorted⟩)
  intro run event
  cases event <;> rfl

/-- In every run from the initialization on with a clock that does not go back, an update completes
the detumble mode only after the timeout or after a settling time of updates with a low rate, and
the magnetorquers are on in the modes with active control only. -/
theorem updatesSoundly (boot : AdcsControl K) (events : List (AdcsEvent K))
    (sorted : (events.flatMap AdcsEvent.times).Pairwise (· ≤ ·)) :
    EachStep (adcsRunEvent numbers) (UpdatesSoundly numbers) (AdcsRun.initial boot) events := by
  refine @eachStep_of_allowed _ _ (adcsRunEvent numbers) AdcsRun.Remembers
    (UpdatesSoundly numbers) AdcsRun.Forward ?_ ?_ _ (remembers_initial boot) _
    (forward_of_sortedTimes numbers boot sorted)
  · exact fun _ _ remembers forward => remembers_event numbers remembers forward
  · rintro run _ remembers forward clock rfl
    exact ⟨pastTimeout_or_settled numbers remembers forward,
      adcsUpdate_gated numbers remembers.initialized clock⟩

end

/-! ### Rational numbers -/

/-- Exact casts on rational numbers, and a square root that is exact on squares. -/
def rationalNumbers : AdcsNumbers ℚ where
  sqrt value := (Nat.sqrt value.num.toNat : ℚ) / (Nat.sqrt value.den : ℚ)
  sqrt_zero := by decide +kernel
  toInt8 value := Int8.ofInt (value.num.tdiv value.den)
  toUint16 value := UInt16.ofInt (value.num.tdiv value.den)

/-- The statics of `adcs_control.c` before a boot. -/
def AdcsControl.boot : AdcsControl ℚ where
  state := AdcsControlState.cleared
  magPrev := MagData.cleared
  initialized := false
  simMag := ⟨30, 0, 40⟩
  simSun := ⟨1, 0, 0⟩
  simRate := ⟨0.05, 0.05, 0.05⟩
  simMode := true
  faults := ⟨FaultLog.empty, none, false⟩

/-- Two updates in the detumble mode, more than the settling time apart. -/
theorem updatesSoundly_witness :
    letI := CLayout.blank FaultRecord
    EachStep (adcsRunEvent rationalNumbers) (UpdatesSoundly rationalNumbers)
      (AdcsRun.initial AdcsControl.boot)
      [.setMode .detumble 1, .update ⟨1000, 1000, 1000, 1000⟩,
        .update ⟨301001, 301001, 301001, 301001⟩] :=
  @updatesSoundly ℚ _ _ rationalNumbers (CLayout.blank FaultRecord) AdcsControl.boot _ (by decide)

end SmartQso
