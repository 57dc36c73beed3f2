/-
This file settles what the completion of the detumble mode rests on. The rate is estimated
anew only from two readings that are far enough apart in a field that is strong enough, and
it is compared on every update with whatever estimate there is, at first zero. So in a run
of updates the mode is completed without a timeout on evidence exactly when some estimate
has been made by the time at which settling could be over.
-/

import Mathlib.Tactic.NormNum
import Mathlib.Tactic.NormNum.OfScientific
import SmartQso.DetumbleHistory

namespace SmartQso

open Runs

section

variable {K : Type} [Field K] [LinearOrder K] (numbers : AdcsNumbers K)

/-! ### Estimates -/

/-- The estimate at hand is below the threshold. -/
def AdcsControl.RateLow (adcs : AdcsControl K) : Prop :=
  vec3Magnitude numbers adcs.state.angularRateEst < adcsDetumbleRateThreshold

omit [LinearOrder K] in
theorem vec3Magnitude_zero : vec3Magnitude numbers (Vec3.zero : Vec3 K) = 0 := by
  unfold vec3Magnitude Vec3.zero
  rw [mul_zero, add_zero, add_zero]
  exact numbers.sqrt_zero

theorem adcsDetumbleRateThreshold_pos [IsStrictOrderedRing K] :
    (0 : K) < adcsDetumbleRateThreshold := by
  unfold adcsDetumbleRateThreshold
  norm_num

/-- An estimate of zero is low. -/
theorem rateLow_of_zero [IsStrictOrderedRing K] {adcs : AdcsControl K}
    (zero : adcs.state.angularRateEst = Vec3.zero) : adcs.RateLow numbers := by
  unfold AdcsControl.RateLow
  rw [zero, vec3Magnitude_zero]
  exact adcsDetumbleRateThreshold_pos

omit [LinearOrder K] in
/-- Between equal times there are no seconds. -/
theorem secondsBetween_self (nowMs : UInt64) : (secondsBetween nowMs nowMs : K) = 0 := by
  unfold secondsBetween
  rw [UInt64.sub_self, UInt64.toNat_zero, Nat.cast_zero, zero_div]

/-- At time zero no rate is estimated. -/
theorem not_estimatesRate_zero [IsStrictOrderedRing K] {prev mag : MagData K}
    (read : prev.timestampMs ≤ 0) : estimatesRate numbers prev mag 0 = false := by
  have start : prev.timestampMs = 0 := UInt64.le_zero_iff.mp read
  unfold estimatesRate
  rw [start, secondsBetween_self]
  have short : ¬ (0 : K) > 0.01 := by norm_num
  rw [decide_eq_false short, Bool.and_false, Bool.false_and]

/-! ### What an update senses -/

/-- The readings and the estimate of the controller. -/
def AdcsControl.sensed (adcs : AdcsControl K) : MagData K × MagData K × Vec3 K :=
  (adcs.magPrev, adcs.state.mag, adcs.state.angularRateEst)

theorem checkConvergence_sensed (adcs : AdcsControl K) (nowMs : UInt64) :
    { adcs with state := checkConvergence adcs.state nowMs : AdcsControl K }.sensed =
      adcs.sensed := by
  unfold checkConvergence
  split
  · split
    · rfl
    · split <;> rfl
  · rfl

/-- The readings are not after a time. -/
def AdcsControl.ReadBy (adcs : AdcsControl K) (clockMs : UInt64) : Prop :=
  adcs.magPrev.timestampMs ≤ clockMs ∧ adcs.state.mag.timestampMs ≤ clockMs

theorem adcsSense_readBy {adcs : AdcsControl K} {clock : AdcsClock}
    (read : adcs.ReadBy clock.magMs) : (adcsSense numbers adcs clock).ReadBy clock.magMs := by
  have reading : (adcsReadMagnetometer adcs adcs.state.mag clock.magMs).1.timestampMs ≤
      clock.magMs := by
    unfold adcsReadMagnetometer
    split
    · exact UInt64.le_refl _
    · exact read.2
  have stamped : (adcsSense numbers adcs clock).state.mag.timestampMs ≤ clock.magMs := by
    dsimp only [adcsSense, estimateRate]
    split <;> exact reading
  exact ⟨stamped, stamped⟩

variable [CLayout FaultRecord]

theorem adcsControlMode_sensed (adcs : AdcsControl K) (clock : AdcsClock) :
    (adcsControlMode numbers adcs clock).1.sensed = adcs.sensed := by
  unfold adcsControlMode
  split
  · split
    · rfl
    · exact checkConvergence_sensed adcs clock.nowMs
  · split <;> rfl
  · split <;> rfl
  · rfl

/-- The control changes nothing that was sensed. -/
theorem adcsUpdate_sensed {adcs : AdcsControl K} (initialized : adcs.initialized = true)
    (clock : AdcsClock) :
    (adcsUpdate numbers adcs clock).1.sensed = (adcsSense numbers adcs clock).sensed := by
  refine Eq.trans ?_ (adcsControlMode_sensed numbers (adcsSense numbers adcs clock) clock)
  unfold adcsUpdate
  rw [if_pos initialized]
  dsimp only
  split <;> rfl

theorem adcsUpdate_angularRateEst {adcs : AdcsControl K} (initialized : adcs.initialized = true)
    (clock : AdcsClock) :
    (adcsUpdate numbers adcs clock).1.state.angularRateEst =
      (adcsSense numbers adcs clock).state.angularRateEst :=
  congrArg (fun sensed => sensed.2.2) (adcsUpdate_sensed numbers initialized clock)

theorem adcsUpdate_readBy {adcs : AdcsControl K} (initialized : adcs.initialized = true)
    {clock : AdcsClock} (read : adcs.ReadBy clock.magMs) :
    (adcsUpdate numbers adcs clock).1.ReadBy clock.magMs := by
  have sensed := adcsUpdate_sensed numbers initialized clock
  have prev := congrArg (fun sensed => sensed.1.timestampMs) sensed
  have mag := congrArg (fun sensed => sensed.2.1.timestampMs) sensed
  obtain ⟨readPrev, readMag⟩ := adcsSense_readBy numbers read
  exact ⟨prev.trans_le readPrev, mag.trans_le readMag⟩

/-- The rate that is noted of an update is the one of the estimate at hand after it. -/
theorem updateNote_low_iff {adcs : AdcsControl K} (initialized : adcs.initialized = true)
    (clock : AdcsClock) :
    (updateNote numbers adcs clock).Low ↔ (adcsUpdate numbers adcs clock).1.RateLow numbers := by
  unfold AdcsControl.RateLow
  rw [adcsUpdate_angularRateEst numbers initialized]
  rfl

/-- Without a new estimate the old one is kept. -/
theorem angularRateEst_of_blind {adcs : AdcsControl K} (initialized : adcs.initialized = true)
    {clock : AdcsClock} (blind : (updateNote numbers adcs clock).estimated = false) :
    (adcsUpdate numbers adcs clock).1.state.angularRateEst = adcs.state.angularRateEst := by
  rw [adcsUpdate_angularRateEst numbers initialized]
  dsimp only [updateNote] at blind
  dsimp only [adcsSense, estimateRate]
  rw [blind, if_neg Bool.false_ne_true]

end

/-! ### The evidence at hand -/

section

variable {K : Type}

/-- A rate has been estimated in one of the updates. -/
def Estimated (notes : List (UpdateNote K)) : Prop := ∃ note ∈ notes, note.estimated = true

instance (notes : List (UpdateNote K)) : Decidable (Estimated notes) :=
  inferInstanceAs (Decidable (∃ note ∈ notes, note.estimated = true))

theorem not_estimated_nil : ¬ Estimated ([] : List (UpdateNote K)) := by
  rintro ⟨note, member, -⟩
  exact List.not_mem_nil member

theorem estimated_cons (note : UpdateNote K) (notes : List (UpdateNote K)) :
    Estimated (note :: notes) ↔ note.estimated = true ∨ Estimated notes := by
  unfold Estimated
  simp only [List.mem_cons, exists_eq_or_imp]

theorem Estimated.mono {few many : List (UpdateNote K)} (estimated : Estimated few)
    (included : few ⊆ many) : Estimated many :=
  Exists.imp (fun _ => And.imp_left fun member => included member) estimated

/-- What the updates so far say about the detumble mode: a low rate without an estimate is the one
from the start, and settling has begun with the first update or with an estimate; outside of the
mode there is an estimate or the timeout has passed. -/
structure Evidence (detumbler : Detumbler) (low : Prop) (notes settling : List (UpdateNote K))
    (clockMs : UInt64) : Prop where
  tumbling : detumbler.mode = .detumble → detumbler.settlingMs = 0 →
    (¬ Estimated notes ∧ ∀ note ∈ notes, note.nowMs = 0) ∨ ¬ low
  settling : detumbler.mode = .detumble → detumbler.settlingMs ≠ 0 →
    Estimated settling ∨ (¬ Estimated notes ∧
      (∃ first ∈ notes, first.nowMs = detumbler.settlingMs) ∧
      ∀ note ∈ notes, note.nowMs ≠ 0 → detumbler.settlingMs ≤ note.nowMs)
  incomplete : detumbler.mode = .detumble → detumbler.complete = false
  ended : detumbler.mode ≠ .detumble → detumbler.complete = true ∧
    (Estimated notes ∨ (0 < detumbler.startMs ∧
      detumbler.startMs.toNat + adcsDetumbleTimeoutMs.toNat < clockMs.toNat))

/-- By the time at which settling could be over there is an estimate. -/
def Fresh (detumbler : Detumbler) (note : UpdateNote K) (notes : List (UpdateNote K)) : Prop :=
  (∃ first ∈ notes, 0 < first.nowMs ∧
    first.nowMs.toNat + adcsDetumbleSettlingMs.toNat < note.nowMs.toNat) →
  detumbler.timedOut note.nowMs = false → Estimated (note :: notes)

/-- What an update is told of the run before it, besides the evidence: an estimate is made only
after time zero, the rate changes only with one, and the times are in order. -/
structure Informed (before : Detumbler) (low lowAfter : Prop) (note : UpdateNote K)
    (notes settling : List (UpdateNote K)) (clockMs clockAfterMs : UInt64) : Prop where
  newest : settling ⊆ notes
  timely : note.nowMs = 0 → note.estimated = false
  kept : note.estimated = false → (lowAfter ↔ low)
  now : clockMs ≤ note.nowMs
  later : note.nowMs ≤ clockAfterMs
  entered : before.mode = .detumble → before.startMs ≤ clockMs
  begun : before.mode = .detumble → before.settlingMs ≠ 0 → before.settlingMs ≤ clockMs

section

variable {before after : Detumbler} {low lowAfter : Prop} {note : UpdateNote K}
  {notes settling : List (UpdateNote K)} {clockMs clockAfterMs : UInt64}

/-- A low rate before settling has begun comes from a new estimate, or there is none so far. -/
theorem Evidence.first (evidence : Evidence before low notes settling clockMs)
    (informed : Informed before low lowAfter note notes settling clockMs clockAfterMs)
    (here : before.mode = .detumble) (fresh : before.settlingMs = 0) (slow : lowAfter)
    (blind : note.estimated = false) :
    ¬ Estimated (note :: notes) ∧ ∀ other ∈ notes, other.nowMs = 0 := by
  rw [estimated_cons, blind]
  rcases evidence.tumbling here fresh with ⟨none, zero⟩ | fast
  · exact ⟨not_or.mpr ⟨Bool.false_ne_true, none⟩, zero⟩
  · exact absurd ((informed.kept blind).mp slow) fast

theorem Evidence.tumbling_advance (evidence : Evidence before low notes settling clockMs)
    (informed : Informed before low lowAfter note notes settling clockMs clockAfterMs)
    (advance : Detumbler.Advance note.nowMs lowAfter before after)
    (here : after.mode = .detumble) (still : after.settlingMs = 0) :
    (¬ Estimated (note :: notes) ∧ ∀ other ∈ note :: notes, other.nowMs = 0) ∨ ¬ lowAfter := by
  cases advance with
  | timeout away late => cases here
  | converge away early slow begun settled => cases here
  | elsewhere away mode stays => exact absurd here stays
  | hold inside early slow begun unsettled => exact absurd still begun
  | tumble inside early fast => exact Or.inr fast
  | settle inside early slow fresh =>
    have zero : note.nowMs = 0 := still
    obtain ⟨none, others⟩ := evidence.first informed inside fresh slow (informed.timely zero)
    exact Or.inl ⟨none, List.forall_mem_cons.mpr ⟨zero, others⟩⟩

theorem Evidence.settling_advance (evidence : Evidence before low notes settling clockMs)
    (informed : Informed before low lowAfter note notes settling clockMs clockAfterMs)
    (advance : Detumbler.Advance note.nowMs lowAfter before after)
    (here : after.mode = .detumble) (begun : after.settlingMs ≠ 0) :
    Estimated (settlingAfter before after note settling) ∨
      (¬ Estimated (note :: notes) ∧ (∃ first ∈ note :: notes, first.nowMs = after.settlingMs) ∧
        ∀ other ∈ note :: notes, other.nowMs ≠ 0 → after.settlingMs ≤ other.nowMs) := by
  unfold settlingAfter
  rw [if_neg begun]
  cases advance with
  | timeout away late => cases here
  | converge away early slow settling settled => cases here
  | elsewhere away mode stays => exact absurd here stays
  | tumble inside early fast => exact absurd rfl begun
  | settle inside early slow fresh =>
    rw [if_pos fresh, estimated_cons]
    cases estimated : note.estimated with
    | true => exact Or.inl (Or.inl rfl)
    | false =>
      obtain ⟨none, others⟩ := evidence.first informed inside fresh slow estimated
      refine Or.inr ⟨none, ⟨note, List.mem_cons_self, rfl⟩, List.forall_mem_cons.mpr ⟨?_, ?_⟩⟩
      · exact fun _ => UInt64.le_refl _
      · exact fun other member nonzero => absurd (others other member) nonzero
  | hold inside early slow settling unsettled =>
    rw [if_neg begun, estimated_cons, estimated_cons]
    cases estimated : note.estimated with
    | true => exact Or.inl (Or.inl rfl)
    | false =>
      rcases evidence.settling inside begun with some | ⟨none, ⟨first, member, began⟩, least⟩
      · exact Or.inl (Or.inr some)
      · refine Or.inr ⟨not_or.mpr ⟨Bool.false_ne_true, none⟩,
          ⟨first, List.mem_cons_of_mem _ member, began⟩, List.forall_mem_cons.mpr ⟨?_, least⟩⟩
        exact fun _ => UInt64.le_trans (informed.begun inside begun) informed.now

/-- Settling that is over began with an estimate, or the update comes late after the first one. -/
theorem Evidence.converged (evidence : Evidence before low notes settling clockMs)
    (informed : Informed before low lowAfter note notes settling clockMs clockAfterMs)
    (here : before.mode = .detumble) (begun : before.settlingMs ≠ 0)
    (settled : note.nowMs - before.settlingMs > adcsDetumbleSettlingMs) :
    Estimated settling ∨ (¬ Estimated notes ∧ ∃ first ∈ notes, 0 < first.nowMs ∧
      first.nowMs.toNat + adcsDetumbleSettlingMs.toNat < note.nowMs.toNat) := by
  refine (evidence.settling here begun).imp_right ?_
  rintro ⟨none, ⟨first, member, began⟩, -⟩
  refine ⟨none, first, member, ?_, ?_⟩
  · rw [began]
    exact UInt64.pos_iff_ne_zero.mpr begun
  · rw [began]
    exact lt_of_elapsed (UInt64.le_trans (informed.begun here begun) informed.now) settled

/-- An update that is fresh keeps the evidence. -/
theorem Evidence.advance (evidence : Evidence before low notes settling clockMs)
    (informed : Informed before low lowAfter note notes settling clockMs clockAfterMs)
    (advance : Detumbler.Advance note.nowMs lowAfter before after)
    (fresh : Fresh before note notes) :
    Evidence after lowAfter (note :: notes) (settlingAfter before after note settling)
      clockAfterMs where
  tumbling := evidence.tumbling_advance informed advance
  settling := evidence.settling_advance informed advance
  incomplete here := by
    cases advance with
    | timeout away late => cases here
    | converge away early slow begun settled => cases here
    | elsewhere away mode stays => exact absurd here stays
    | settle inside | hold inside | tumble inside => exact evidence.incomplete inside
  ended away := by
    have forward := UInt64.le_iff_toNat_le.mp (UInt64.le_trans informed.now informed.later)
    cases advance with
    | timeout here late =>
      simp only [Detumbler.timedOut, Bool.and_eq_true, decide_eq_true_eq] at late
      have elapsed := lt_of_elapsed (UInt64.le_trans (informed.entered here) informed.now) late.2
      exact ⟨rfl, Or.inr ⟨late.1,
        elapsed.trans_le (UInt64.le_iff_toNat_le.mp informed.later)⟩⟩
    | converge here early slow begun settled =>
      refine ⟨rfl, Or.inl ?_⟩
      rcases evidence.converged informed here begun settled with some | ⟨-, long⟩
      · exact some.mono (List.subset_cons_of_subset note informed.newest)
      · exact fresh long early
    | elsewhere outside mode stays =>
      obtain ⟨complete, some | ⟨started, elapsed⟩⟩ := evidence.ended outside
      · exact ⟨complete, Or.inl ((estimated_cons note notes).mpr (Or.inr some))⟩
      · exact ⟨complete, Or.inr ⟨started, elapsed.trans_le forward⟩⟩
    | settle inside | hold inside | tumble inside => exact absurd inside away

/-- A mode that is completed without a timeout is completed with an estimate since settling has
begun. -/
def Rests (before after : Detumbler) (note : UpdateNote K) (settling : List (UpdateNote K)) :
    Prop :=
  before.complete = false → after.complete = true → before.timedOut note.nowMs = false →
    Estimated (settlingAfter before after note settling)

theorem Evidence.rests (evidence : Evidence before low notes settling clockMs)
    (informed : Informed before low lowAfter note notes settling clockMs clockAfterMs)
    (advance : Detumbler.Advance note.nowMs lowAfter before after)
    (fresh : Fresh before note notes) : Rests before after note settling := by
  intro incomplete complete early
  cases advance with
  | timeout here late => exact absurd (early.symm.trans late) Bool.false_ne_true
  | converge here _ slow begun settled =>
    unfold settlingAfter
    rw [if_neg begun, if_neg begun, estimated_cons]
    rcases evidence.converged informed here begun settled with some | ⟨none, long⟩
    · exact Or.inr some
    · exact ((estimated_cons note notes).mp (fresh long early)).imp_right (absurd · none)
  | settle | hold | tumble | elsewhere =>
    exact absurd (incomplete.symm.trans complete) Bool.false_ne_true

/-- Times further apart than an amount. -/
theorem elapsed_of_lt {earlier later amount : UInt64}
    (apart : earlier.toNat + amount.toNat < later.toNat) : later - earlier > amount := by
  have order : earlier ≤ later := UInt64.le_iff_toNat_le.mpr (by omega)
  refine UInt64.lt_iff_toNat_lt.mpr ?_
  rw [UInt64.toNat_sub_of_le _ _ order]
  omega

/-- The update at which settling is over completes the mode. -/
theorem rests_of_long {before after : Detumbler}
    (advance : Detumbler.Advance note.nowMs lowAfter before after) (slow : lowAfter)
    (here : before.mode = .detumble) (begun : before.settlingMs ≠ 0)
    (incomplete : before.complete = false) (early : before.timedOut note.nowMs = false)
    (long : before.settlingMs.toNat + adcsDetumbleSettlingMs.toNat < note.nowMs.toNat)
    (rests : Rests before after note settling) : Estimated (note :: settling) := by
  cases advance with
  | timeout _ late => exact absurd (early.symm.trans late) Bool.false_ne_true
  | settle _ _ _ fresh => exact absurd fresh begun
  | hold _ _ _ _ unsettled => exact absurd (elapsed_of_lt long) unsettled
  | tumble _ _ fast => exact absurd slow fast
  | elsewhere away => exact absurd here away
  | converge =>
    have some := rests incomplete rfl early
    rw [settlingAfter, if_neg begun, if_neg begun] at some
    exact some

/-- Without an estimate by the time at which settling could be over, the update completes the
mode. -/
theorem Evidence.fresh (evidence : Evidence before low notes settling clockMs)
    (informed : Informed before low lowAfter note notes settling clockMs clockAfterMs)
    (advance : Detumbler.Advance note.nowMs lowAfter before after)
    (blindLow : ¬ Estimated (note :: notes) → lowAfter)
    (rests : Rests before after note settling) : Fresh before note notes := by
  rintro ⟨first, member, started, long⟩ early
  by_contra none
  have blind : ¬ Estimated notes := fun some =>
    none ((estimated_cons note notes).mpr (Or.inr some))
  by_cases here : before.mode = .detumble
  · by_cases begun : before.settlingMs = 0
    · rcases evidence.tumbling here begun with ⟨-, zero⟩ | fast
      · exact UInt64.pos_iff_ne_zero.mp started (zero first member)
      · have unchanged : note.estimated = false :=
          eq_false_of_ne_true fun some => none ((estimated_cons note notes).mpr (Or.inl some))
        exact fast ((informed.kept unchanged).mp (blindLow none))
    · rcases evidence.settling here begun with some | ⟨-, -, least⟩
      · exact blind (some.mono informed.newest)
      · have since := least first member (UInt64.pos_iff_ne_zero.mp started)
        have late : before.settlingMs.toNat + adcsDetumbleSettlingMs.toNat < note.nowMs.toNat :=
          (Nat.add_le_add_right (UInt64.le_iff_toNat_le.mp since) _).trans_lt long
        have some := rests_of_long advance (blindLow none) here begun (evidence.incomplete here)
          early late rests
        exact none (some.mono (List.cons_subset_cons note informed.newest))
  · obtain ⟨-, some | ⟨running, elapsed⟩⟩ := evidence.ended here
    · exact blind some
    · have late : before.timedOut note.nowMs = true := by
        simp only [Detumbler.timedOut, Bool.and_eq_true, decide_eq_true_eq]
        exact ⟨running, elapsed_of_lt
          (elapsed.trans_le (UInt64.le_iff_toNat_le.mp informed.now))⟩
      exact absurd (early.symm.trans late) Bool.false_ne_true

end

end

/-! ### Runs in the detumble mode -/

section

variable {K : Type} [Field K] [LinearOrder K] (numbers : AdcsNumbers K)

/-- The call leaves the mode to the controller. -/
def AdcsEvent.unattended : AdcsEvent K → Bool
  | .setMode _ _ => false
  | _ => true

variable [CLayout FaultRecord]

/-- The run that begins when the detumble mode is entered after `adcs_init`. -/
def AdcsRun.detumbling (boot : AdcsControl K) (startMs : UInt64) : AdcsRun K :=
  adcsRunEvent numbers (AdcsRun.initial boot) (.setMode .detumble startMs)

/-- An update that completes the detumble mode without a timeout follows an estimate made since
settling has begun, and all of these were low. -/
def RestsOnEvidence (run : AdcsRun K) (event : AdcsEvent K) : Prop :=
  ∀ clock, event = .update clock → run.adcs.state.detumbleComplete = false →
    (adcsRunEvent numbers run event).adcs.state.detumbleComplete = true →
    run.adcs.state.timedOut clock.nowMs = false →
      Estimated (adcsRunEvent numbers run event).settling ∧
        ∀ note ∈ (adcsRunEvent numbers run event).settling, note.estimated = true → note.Low

/-- An update later than the settling time after the first one has an estimate to look at. -/
def FreshEvidence (run : AdcsRun K) (event : AdcsEvent K) : Prop :=
  ∀ clock, event = .update clock →
    Fresh run.adcs.detumbler (updateNote numbers run.adcs clock) run.notes

/-- The evidence is that of the run, and without an estimate the rate is the one of
`adcs_init`. -/
structure AdcsRun.Evident (run : AdcsRun K) : Prop where
  remembers : run.Remembers
  read : run.adcs.ReadBy run.clockMs
  untouched : ¬ Estimated run.notes → run.adcs.state.angularRateEst = Vec3.zero
  evidence : Evidence run.adcs.detumbler (run.adcs.RateLow numbers) run.notes run.settling
    run.clockMs

/-- The update takes an arrow of the diagram by the rate at hand after it. -/
theorem adcsUpdate_advances_rateLow {adcs : AdcsControl K} (initialized : adcs.initialized = true)
    (clock : AdcsClock) :
    Detumbler.Advance (updateNote numbers adcs clock).nowMs
      ((adcsUpdate numbers adcs clock).1.RateLow numbers) adcs.detumbler
      (adcsUpdate numbers adcs clock).1.detumbler := by
  rw [← propext (updateNote_low_iff numbers initialized clock)]
  exact adcsUpdate_advances numbers initialized clock

theorem angularRateEst_of_not_estimated {run : AdcsRun K} (evident : run.Evident numbers)
    {clock : AdcsClock} (none : ¬ Estimated (updateNote numbers run.adcs clock :: run.notes)) :
    (adcsUpdate numbers run.adcs clock).1.state.angularRateEst = Vec3.zero := by
  rw [estimated_cons, not_or] at none
  rw [angularRateEst_of_blind numbers evident.remembers.initialized (eq_false_of_ne_true none.1)]
  exact evident.untouched none.2

/-- All rates since settling has begun are low when the mode is completed without a timeout. -/
theorem settlingAfter_low {run : AdcsRun K} (remembers : run.Remembers) (clock : AdcsClock)
    (incomplete : run.adcs.detumbler.complete = false)
    (complete : (adcsUpdate numbers run.adcs clock).1.detumbler.complete = true)
    (early : run.adcs.detumbler.timedOut clock.nowMs = false) :
    ∀ note ∈ (adcsRunEvent numbers run (.update clock)).settling, note.Low := by
  have advance := adcsUpdate_advances numbers remembers.initialized clock
  have settled := remembers.settled
  dsimp only [adcsRunEvent]
  generalize run.adcs.detumbler = before at *
  generalize (adcsUpdate numbers run.adcs clock).1.detumbler = after at *
  cases advance with
  | timeout here late => exact absurd (early.symm.trans late) Bool.false_ne_true
  | converge here _ slow begun =>
    rw [settlingAfter, if_neg begun, if_neg begun]
    obtain ⟨-, -, row⟩ := settled here begun
    exact List.forall_mem_cons.mpr ⟨slow, fun note member => (row note member).2⟩
  | settle | hold | tumble | elsewhere =>
    exact absurd (incomplete.symm.trans complete) Bool.false_ne_true

theorem evident_detumbling (boot : AdcsControl K) (startMs : UInt64) :
    (AdcsRun.detumbling numbers boot startMs).Evident numbers where
  remembers := remembers_setMode numbers (remembers_initial boot) .detumble startMs
    (List.pairwise_cons.mpr ⟨fun _ _ => UInt64.zero_le, List.pairwise_singleton _ _⟩)
  read := ⟨UInt64.zero_le, UInt64.zero_le⟩
  untouched _ := rfl
  evidence :=
    { tumbling := fun _ _ => Or.inl ⟨not_estimated_nil, List.forall_mem_nil _⟩
      settling := fun _ begun => absurd rfl begun
      incomplete := fun _ => rfl
      ended := fun away => absurd rfl away }

variable [IsStrictOrderedRing K]

/-- What an update is told in a run with evidence. -/
theorem informed_update {run : AdcsRun K} (evident : run.Evident numbers) {clock : AdcsClock}
    (forward : run.Forward (.update clock)) :
    Informed run.adcs.detumbler (run.adcs.RateLow numbers)
      ((adcsUpdate numbers run.adcs clock).1.RateLow numbers) (updateNote numbers run.adcs clock)
      run.notes run.settling run.clockMs clock.faultMs := by
  obtain ⟨now, readMag, readFault⟩ := forward.update
  obtain ⟨older, notes⟩ := evident.remembers.newest
  refine ⟨?_, ?_, ?_, now, UInt64.le_trans readMag readFault,
    fun here => (evident.remembers.entered here).2,
    fun here begun => (evident.remembers.settled here begun).1⟩
  · rw [notes]
    exact List.subset_append_left run.settling older
  · intro zero
    have start : clock.nowMs = 0 := zero
    dsimp only [updateNote]
    rw [start] at now ⊢
    exact not_estimatesRate_zero numbers (UInt64.le_trans evident.read.1 now)
  · intro blind
    unfold AdcsControl.RateLow
    rw [angularRateEst_of_blind numbers evident.remembers.initialized blind]

theorem evident_update {run : AdcsRun K} (evident : run.Evident numbers) {clock : AdcsClock}
    (forward : run.Forward (.update clock))
    (fresh : Fresh run.adcs.detumbler (updateNote numbers run.adcs clock) run.notes) :
    (adcsRunEvent numbers run (.update clock)).Evident numbers where
  remembers := remembers_event numbers evident.remembers forward
  read := by
    obtain ⟨now, readMag, readFault⟩ := forward.update
    have before := UInt64.le_trans now readMag
    obtain ⟨prev, mag⟩ := adcsUpdate_readBy numbers evident.remembers.initialized
      ⟨UInt64.le_trans evident.read.1 before, UInt64.le_trans evident.read.2 before⟩
    exact ⟨UInt64.le_trans prev readFault, UInt64.le_trans mag readFault⟩
  untouched := angularRateEst_of_not_estimated numbers evident
  evidence := evident.evidence.advance (informed_update numbers evident forward)
    (adcsUpdate_advances_rateLow numbers evident.remembers.initialized clock) fresh

theorem evident_event {run : AdcsRun K} (evident : run.Evident numbers) {event : AdcsEvent K}
    (allowed : run.Forward event ∧ event.unattended = true)
    (fresh : FreshEvidence numbers run event) :
    (adcsRunEvent numbers run event).Evident numbers := by
  cases event with
  | update clock => exact evident_update numbers evident allowed.1 (fresh clock rfl)
  | setMode mode nowMs => exact absurd allowed.2 Bool.false_ne_true
  | setSimSensors mag sun rate =>
    exact ⟨remembers_event numbers evident.remembers allowed.1, evident.read, evident.untouched,
      evident.evidence⟩

theorem restsOnEvidence_iff_freshEvidence {run : AdcsRun K} (evident : run.Evident numbers)
    {event : AdcsEvent K} (allowed : run.Forward event ∧ event.unattended = true) :
    FreshEvidence numbers run event ↔ RestsOnEvidence numbers run event := by
  refine forall_congr' fun clock => forall_congr' ?_
  rintro rfl
  have informed := informed_update numbers evident allowed.1
  have advance := adcsUpdate_advances_rateLow numbers evident.remembers.initialized clock
  constructor
  · intro fresh incomplete complete early
    have low := settlingAfter_low numbers evident.remembers clock incomplete complete early
    exact ⟨evident.evidence.rests informed advance fresh incomplete complete early,
      fun note member _ => low note member⟩
  · intro rests
    refine evident.evidence.fresh informed advance ?_ ?_
    · exact fun none =>
        rateLow_of_zero numbers (angularRateEst_of_not_estimated numbers evident none)
    · exact fun incomplete complete early => (rests incomplete complete early).1

/-- In a run of updates from the entry into the detumble mode on, the mode is completed on evidence
exactly when an update later than the settling time after the first one has an estimate. -/
theorem restsOnEvidence_iff (boot : AdcsControl K) (startMs : UInt64) (events : List (AdcsEvent K))
    (unattended : ∀ event ∈ events, event.unattended = true)
    (sorted : (startMs :: events.flatMap AdcsEvent.times).Pairwise (· ≤ ·)) :
    EachStep (adcsRunEvent numbers) (RestsOnEvidence numbers)
        (AdcsRun.detumbling numbers boot startMs) events ↔
      EachStep (adcsRunEvent numbers) (FreshEvidence numbers)
        (AdcsRun.detumbling numbers boot startMs) events := by
  have forward : EachStep (adcsRunEvent numbers) AdcsRun.Forward
      (AdcsRun.detumbling numbers boot startMs) events := by
    refine @eachStep_of_sorted _ _ (adcsRunEvent numbers) _ _ AdcsRun.clockMs AdcsEvent.times ?_ _ _
      sorted
    intro run event
    cases event <;> rfl
  refine Iff.symm (@eachStep_iff_of_allowed _ _ (adcsRunEvent numbers) (AdcsRun.Evident numbers)
    (FreshEvidence numbers) _ (RestsOnEvidence numbers) ?_ ?_ _
    (evident_detumbling numbers boot startMs) events (forward.and (EachStep.of_forall unattended)))
  · exact fun _ _ evident allowed fresh => evident_event numbers evident allowed fresh
  · exact fun _ _ evident allowed => restsOnEvidence_iff_freshEvidence numbers evident allowed

end

/-- A steady field of 50 µT gives an estimate at the second update. -/
theorem restsOnEvidence_iff_witness :
    letI := CLayout.blank FaultRecord
    EachStep (adcsRunEvent rationalNumbers) (RestsOnEvidence rationalNumbers)
        (AdcsRun.detumbling rationalNumbers AdcsControl.boot 1)
        [.update ⟨1000, 1000, 1000, 1000⟩, .update ⟨301001, 301001, 301001, 301001⟩] ↔
      EachStep (adcsRunEvent rationalNumbers) (FreshEvidence rationalNumbers)
        (AdcsRun.detumbling rationalNumbers AdcsControl.boot 1)
        [.update ⟨1000, 1000, 1000, 1000⟩, .update ⟨301001, 301001, 301001, 301001⟩] :=
  @restsOnEvidence_iff ℚ _ _ rationalNumbers (CLayout.blank FaultRecord) _ AdcsControl.boot 1 _
    (by decide) (by decide)

/-- Without a field no rate is ever estimated, and the mode is completed at the second update. -/
theorem restsOnEvidence_fails :
    letI := CLayout.blank FaultRecord
    ¬ ∀ (boot : AdcsControl ℚ) (startMs : UInt64) (events : List (AdcsEvent ℚ)),
      (∀ event ∈ events, event.unattended = true) →
      (startMs :: events.flatMap AdcsEvent.times).Pairwise (· ≤ ·) →
        EachStep (adcsRunEvent rationalNumbers) (RestsOnEvidence rationalNumbers)
          (AdcsRun.detumbling rationalNumbers boot startMs) events := by
  let := CLayout.blank FaultRecord
  intro claimed
  have rests := claimed AdcsControl.boot 1
    [.setSimSensors (some Vec3.zero) none none, .update ⟨1000, 1000, 1000, 1000⟩,
      .update ⟨301001, 301001, 301001, 301001⟩]
    (by decide) (by decide)
  have estimated := (rests.2.2.1 ⟨301001, 301001, 301001, 301001⟩ rfl (by decide +kernel)
    (by decide +kernel) (by decide +kernel)).1
  revert estimated
  decide +kernel

end SmartQso
