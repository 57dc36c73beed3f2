/-
This file says what the deployment sequencer is for, as a state diagram: which
arrows one call of `deployment_process` may take, under which guards, and what
each arrow does to the burn wire, the deployed marks and the attempt counters.
`deploymentProcess_advances` proves that the code takes exactly one arrow of the
diagram in every call, so a property of runs is proved arrow by arrow and never
by unfolding the code.
-/

import SmartQso.Deployment
import SmartQso.Runs

namespace SmartQso

/-- What the diagram sees of the sequencer. -/
structure Sequencer where
  state : DeploymentState
  burning : Bool
  enabled : Bool
  separated : Bool
  separationTime : UInt32
  entryTime : UInt32
  deployed : DeploymentElement → Bool
  attempts : DeploymentElement → UInt8

namespace Sequencer

/-- Enter a state. -/
@[simp]
def enter (sequencer : Sequencer) (state : DeploymentState) (now : UInt32) : Sequencer :=
  { sequencer with state := state, entryTime := now }

/-- Set or clear the deployed mark of an element. -/
@[simp]
def mark (sequencer : Sequencer) (element : DeploymentElement) (deployed : Bool) : Sequencer :=
  { sequencer with deployed := Function.update sequencer.deployed element deployed }

/-- Set the attempt counter of an element. -/
@[simp]
def countAttempts (sequencer : Sequencer) (element : DeploymentElement) (attempts : UInt8) :
    Sequencer :=
  { sequencer with attempts := Function.update sequencer.attempts element attempts }

/-- The arrows one call of `deployment_process` at time `now` may take. -/
inductive Advance (now : UInt32) (readings : Readings) : Sequencer → Sequencer → Prop
  | separate {sequencer : Sequencer} (here : sequencer.state = .inhibited)
      (opened : readings.separation = true) :
      Advance now readings sequencer
        ({ sequencer with separated := true, separationTime := now }.enter .waiting now)
  | attached {sequencer : Sequencer} (here : sequencer.state = .inhibited)
      (closed : readings.separation = false) : Advance now readings sequencer sequencer
  | waitOver {sequencer : Sequencer} (here : sequencer.state = .waiting)
      (elapsed : deploymentWaitTimeMs ≤ now - sequencer.entryTime)
      (enabled : sequencer.enabled = true) :
      Advance now readings sequencer (sequencer.enter .antennaPending now)
  | waitOn {sequencer : Sequencer} (here : sequencer.state = .waiting)
      (held : deploymentWaitTimeMs ≤ now - sequencer.entryTime → sequencer.enabled = false) :
      Advance now readings sequencer sequencer
  | found {sequencer : Sequencer} (element : DeploymentElement)
      (here : sequencer.state = element.pendingState ∨ sequencer.state = element.verifyState)
      (deployed : readings.deployed = true) :
      Advance now readings sequencer ((sequencer.mark element true).enter element.doneState now)
  | burnStart {sequencer : Sequencer} (element : DeploymentElement)
      (here : sequencer.state = element.pendingState) (missing : readings.deployed = false)
      (left : sequencer.attempts element < deploymentMaxRetries) :
      Advance now readings sequencer
        (({ sequencer with burning := true }.countAttempts element
          (sequencer.attempts element + 1)).enter element.activeState now)
  | giveUp {sequencer : Sequencer} (element : DeploymentElement)
      (here : sequencer.state = element.pendingState) (missing : readings.deployed = false)
      (spent : ¬ sequencer.attempts element < deploymentMaxRetries) :
      Advance now readings sequencer (sequencer.enter .failed now)
  | burnEnd {sequencer : Sequencer} (element : DeploymentElement)
      (here : sequencer.state = element.activeState)
      (elapsed : element.burnTimeMs ≤ now - sequencer.entryTime) :
      Advance now readings sequencer
        ({ sequencer with burning := false }.enter element.verifyState now)
  | burnOn {sequencer : Sequencer} (element : DeploymentElement)
      (here : sequencer.state = element.activeState)
      (early : ¬ element.burnTimeMs ≤ now - sequencer.entryTime) :
      Advance now readings sequencer sequencer
  | retry {sequencer : Sequencer} (element : DeploymentElement)
      (here : sequencer.state = element.verifyState) (missing : readings.deployed = false)
      (timedOut : deploymentVerifyTimeoutMs ≤ now - sequencer.entryTime)
      (elapsed : deploymentRetryDelayMs ≤ now - sequencer.entryTime) :
      Advance now readings sequencer (sequencer.enter element.pendingState now)
  | verifyOn {sequencer : Sequencer} (element : DeploymentElement)
      (here : sequencer.state = element.verifyState) (missing : readings.deployed = false)
      (early : deploymentVerifyTimeoutMs ≤ now - sequencer.entryTime →
        ¬ deploymentRetryDelayMs ≤ now - sequencer.entryTime) :
      Advance now readings sequencer sequencer
  | rest {sequencer : Sequencer}
      (here : sequencer.state = .complete ∨ sequencer.state = .failed) :
      Advance now readings sequencer sequencer
  | reset {sequencer : Sequencer} (here : sequencer.state = .count) :
      Advance now readings sequencer (sequencer.enter .inhibited now)

/-! ### What every arrow preserves -/

/-- The burn wire is on exactly in the active states. -/
def WireInStep (sequencer : Sequencer) : Prop :=
  sequencer.burning = true ↔ sequencer.state.IsActive

/-- Completion, and reaching the second half, rest on confirmed deployments. -/
def Honest (sequencer : Sequencer) : Prop :=
  (sequencer.state = .complete →
    sequencer.deployed .antenna = true ∧ sequencer.deployed .solarPanel = true) ∧
  (sequencer.state.IsSolar → sequencer.deployed .antenna = true)

/-- Separation has been seen, and the wait after it was over by `clock`. -/
def WaitedBy (sequencer : Sequencer) (clock : UInt32) : Prop :=
  sequencer.separated = true ∧
    sequencer.separationTime.toNat + deploymentWaitTimeMs.toNat ≤ clock.toNat

/-- How the wait is enforced: past the waiting state it is over, in the waiting state it is
measured from separation, and before its end nothing burns. -/
structure Waiting (sequencer : Sequencer) (clock : UInt32) : Prop where
  valid : sequencer.state ≠ .count
  cold : sequencer.state.BeforeWait → sequencer.burning = false
  measured : sequencer.state = .waiting →
    sequencer.separated = true ∧ sequencer.entryTime = sequencer.separationTime ∧
      sequencer.separationTime ≤ clock
  elapsed : ¬ sequencer.state.BeforeWait → sequencer.WaitedBy clock

theorem WaitedBy.later {sequencer : Sequencer} {clock now : UInt32}
    (waited : sequencer.WaitedBy clock) (later : clock ≤ now) : sequencer.WaitedBy now :=
  ⟨waited.1, waited.2.trans (UInt32.le_iff_toNat_le.mp later)⟩

theorem Waiting.later {sequencer : Sequencer} {clock now : UInt32}
    (waiting : sequencer.Waiting clock) (later : clock ≤ now) : sequencer.Waiting now where
  valid := waiting.valid
  cold := waiting.cold
  measured here :=
    have measured := waiting.measured here
    ⟨measured.1, measured.2.1, UInt32.le_trans measured.2.2 later⟩
  elapsed past := (waiting.elapsed past).later later

/-- Once the wait is over, a state past it may be entered with any change to the rest. -/
theorem Waiting.of_waitedBy {sequencer : Sequencer} {clock : UInt32}
    (waited : sequencer.WaitedBy clock) (valid : sequencer.state ≠ .count)
    (past : ¬ sequencer.state.BeforeWait) : sequencer.Waiting clock where
  valid := valid
  cold before := absurd before past
  measured here := absurd (Or.inr here) past
  elapsed _ := waited

theorem Advance.wireInStep {now : UInt32} {readings : Readings} {before after : Sequencer}
    (advance : Advance now readings before after) (inStep : before.WireInStep) :
    after.WireInStep := by
  unfold WireInStep DeploymentState.IsActive at *
  cases advance with
  | separate here opened | waitOver here elapsed enabled | reset here =>
    simp_all
  | attached here closed | waitOn here held | rest here => exact inStep
  | burnOn element here early | verifyOn element here missing early => exact inStep
  | found element here deployed =>
    cases element <;> rcases here with here | here <;>
      simp_all [DeploymentElement.pendingState, DeploymentElement.verifyState,
        DeploymentElement.doneState]
  | burnStart element here missing left =>
    cases element <;> simp [DeploymentElement.activeState]
  | giveUp element here missing spent =>
    cases element <;> simp_all [DeploymentElement.pendingState]
  | burnEnd element here elapsed =>
    cases element <;> simp [DeploymentElement.verifyState]
  | retry element here missing timedOut elapsed =>
    cases element <;>
      simp_all [DeploymentElement.pendingState, DeploymentElement.verifyState]

/-- The states of the solar panel belong to the second half, those of the antenna do not. -/
theorem isSolar_element (element : DeploymentElement) :
    (element.pendingState.IsSolar ↔ element = .solarPanel) ∧
      (element.activeState.IsSolar ↔ element = .solarPanel) ∧
      (element.verifyState.IsSolar ↔ element = .solarPanel) := by
  cases element <;>
    simp [DeploymentState.IsSolar, DeploymentElement.pendingState, DeploymentElement.activeState,
      DeploymentElement.verifyState]

theorem ne_complete_element (element : DeploymentElement) :
    element.pendingState ≠ .complete ∧ element.activeState ≠ .complete ∧
      element.verifyState ≠ .complete := by
  cases element <;>
    simp [DeploymentElement.pendingState, DeploymentElement.activeState,
      DeploymentElement.verifyState]

/-- Another state may be entered that neither completes nor begins the second half. -/
theorem Honest.entered {before after : Sequencer} (honest : before.Honest)
    (incomplete : after.state ≠ .complete) (solar : after.state.IsSolar → before.state.IsSolar)
    (kept : after.deployed = before.deployed) : after.Honest :=
  ⟨fun complete => absurd complete incomplete, fun reached => kept ▸ honest.2 (solar reached)⟩

theorem Advance.honest {now : UInt32} {readings : Readings} {before after : Sequencer}
    (advance : Advance now readings before after) (honest : before.Honest) :
    after.Honest := by
  have outside : ∀ {state : DeploymentState}, ¬ state.IsSolar →
      state.IsSolar → before.state.IsSolar := fun first reached => absurd reached first
  cases advance with
  | separate here opened | waitOver here elapsed enabled | giveUp element here missing spent
  | reset here =>
    exact honest.entered (by simp) (outside (by simp [DeploymentState.IsSolar])) rfl
  | attached here closed | waitOn here held | rest here => exact honest
  | burnOn element here early | verifyOn element here missing early => exact honest
  | found element here deployed =>
    cases element with
    | antenna =>
      exact ⟨by simp [DeploymentElement.doneState], fun _ => by simp⟩
    | solarPanel =>
      -- The second half was reached with the antenna deployed, and this arrow marks the panel.
      have antenna : before.deployed .antenna = true :=
        honest.2 (here.elim Or.inl fun verify => Or.inr (Or.inr verify))
      exact ⟨fun _ => by simp [antenna], fun _ => by simp [antenna]⟩
  | burnStart element here missing left =>
    refine honest.entered (ne_complete_element element).2.1 (fun reached => ?_) rfl
    rw [here]
    exact (isSolar_element element).1.mpr ((isSolar_element element).2.1.mp reached)
  | burnEnd element here elapsed =>
    refine honest.entered (ne_complete_element element).2.2 (fun reached => ?_) rfl
    rw [here]
    exact (isSolar_element element).2.1.mpr ((isSolar_element element).2.2.mp reached)
  | retry element here missing timedOut elapsed =>
    refine honest.entered (ne_complete_element element).1 (fun reached => ?_) rfl
    rw [here]
    exact (isSolar_element element).2.2.mpr ((isSolar_element element).1.mp reached)

theorem pendingState_injective {first second : DeploymentElement}
    (same : first.pendingState = second.pendingState) : first = second := by
  cases first <;> cases second <;> first | rfl | exact absurd same (by decide)

/-- The only arrow that heats the wire starts in a pending state. -/
theorem Advance.burnStart_of_heated {now : UInt32} {readings : Readings}
    {before after : Sequencer} (advance : Advance now readings before after)
    (cold : before.burning = false) (hot : after.burning = true) :
    ∃ element : DeploymentElement, before.state = element.pendingState ∧
      readings.deployed = false ∧ before.attempts element < deploymentMaxRetries := by
  cases advance with
  | burnStart element here missing left => exact ⟨element, here, missing, left⟩
  | burnEnd element here elapsed => exact absurd hot (by simp)
  | _ => exact absurd (cold.symm.trans hot) Bool.false_ne_true

/-- In a pending state with the element missing and attempts left, the arrow heats the wire. -/
theorem Advance.heated_of_pending {now : UInt32} {readings : Readings}
    {before after : Sequencer} (advance : Advance now readings before after)
    (element : DeploymentElement) (pending : before.state = element.pendingState)
    (missing : readings.deployed = false)
    (left : before.attempts element < deploymentMaxRetries) : after.burning = true := by
  cases advance with
  | burnStart => rfl
  | giveUp other here missing spent =>
    have same : other = element := pendingState_injective (here.symm.trans pending)
    exact absurd (same ▸ left) spent
  | found other here deployed => exact absurd (missing.symm.trans deployed) Bool.false_ne_true
  | separate here | attached here | waitOver here | waitOn here | reset here | rest here =>
    cases element <;> simp_all [DeploymentElement.pendingState]
  | burnEnd other here | burnOn other here | retry other here | verifyOn other here =>
    cases element <;> cases other <;>
      simp_all [DeploymentElement.pendingState, DeploymentElement.activeState,
        DeploymentElement.verifyState]

/-- The states an element passes through come after the wait. -/
theorem not_beforeWait_element (element : DeploymentElement) :
    ¬ element.pendingState.BeforeWait ∧ ¬ element.activeState.BeforeWait ∧
      ¬ element.verifyState.BeforeWait ∧ ¬ element.doneState.BeforeWait := by
  cases element <;>
    simp [DeploymentState.BeforeWait, DeploymentElement.pendingState,
      DeploymentElement.activeState, DeploymentElement.verifyState, DeploymentElement.doneState]

/-- The states an element passes through are states of the sequence. -/
theorem ne_count_element (element : DeploymentElement) :
    element.pendingState ≠ .count ∧ element.activeState ≠ .count ∧
      element.verifyState ≠ .count ∧ element.doneState ≠ .count := by
  cases element <;>
    simp [DeploymentElement.pendingState, DeploymentElement.activeState,
      DeploymentElement.verifyState, DeploymentElement.doneState]

/-- Unsigned subtraction measures the time since separation when the clock has not gone back. -/
theorem waitedBy_of_elapsed {sequencer : Sequencer} {now : UInt32}
    (separated : sequencer.separated = true)
    (measured : sequencer.entryTime = sequencer.separationTime)
    (started : sequencer.separationTime ≤ now)
    (elapsed : deploymentWaitTimeMs ≤ now - sequencer.entryTime) :
    sequencer.WaitedBy now := by
  refine ⟨separated, ?_⟩
  have difference : (now - sequencer.separationTime).toNat =
      now.toNat - sequencer.separationTime.toNat := UInt32.toNat_sub_of_le _ _ started
  have long := UInt32.le_iff_toNat_le.mp elapsed
  have order := UInt32.le_iff_toNat_le.mp started
  rw [measured, difference] at long
  omega

theorem Advance.waiting {now : UInt32} {readings : Readings} {before after : Sequencer}
    (advance : Advance now readings before after) (waiting : before.Waiting now) :
    after.Waiting now := by
  cases advance with
  | separate here opened =>
    exact {
      valid := by simp
      cold := fun _ => waiting.cold (Or.inl here)
      measured := fun _ => ⟨rfl, rfl, UInt32.le_refl now⟩
      elapsed := fun past => absurd (Or.inr rfl) past }
  | attached here closed | waitOn here held | rest here => exact waiting
  | burnOn element here early | verifyOn element here missing early => exact waiting
  | waitOver here elapsed enabled =>
    obtain ⟨separated, measured, started⟩ := waiting.measured here
    have waited : before.WaitedBy now :=
      waitedBy_of_elapsed separated measured started elapsed
    exact .of_waitedBy waited (by simp) (by simp [DeploymentState.BeforeWait])
  | found element here deployed =>
    have past : ¬ before.state.BeforeWait := by
      rcases here with here | here
      · rw [here]
        exact (not_beforeWait_element element).1
      · rw [here]
        exact (not_beforeWait_element element).2.2.1
    exact .of_waitedBy (waiting.elapsed past) (ne_count_element element).2.2.2
      (not_beforeWait_element element).2.2.2
  | burnStart element here missing left =>
    have past : ¬ before.state.BeforeWait := here ▸ (not_beforeWait_element element).1
    exact .of_waitedBy (waiting.elapsed past) (ne_count_element element).2.1
      (not_beforeWait_element element).2.1
  | giveUp element here missing spent =>
    have past : ¬ before.state.BeforeWait := here ▸ (not_beforeWait_element element).1
    exact .of_waitedBy (waiting.elapsed past) (by simp) (by simp [DeploymentState.BeforeWait])
  | burnEnd element here elapsed =>
    have past : ¬ before.state.BeforeWait := here ▸ (not_beforeWait_element element).2.1
    exact .of_waitedBy (waiting.elapsed past) (ne_count_element element).2.2.1
      (not_beforeWait_element element).2.2.1
  | retry element here missing timedOut elapsed =>
    have past : ¬ before.state.BeforeWait := here ▸ (not_beforeWait_element element).2.2.1
    exact .of_waitedBy (waiting.elapsed past) (ne_count_element element).1
      (not_beforeWait_element element).1
  | reset here => exact absurd here waiting.valid

end Sequencer

/-- The diagram's view of the code's state. -/
def Deployment.sequencer (deployment : Deployment) : Sequencer where
  state := deployment.status.record.state
  burning := deployment.deployEn
  enabled := deployment.status.record.deploymentEnabled
  separated := deployment.status.record.separationDetected
  separationTime := deployment.status.record.separationTimeMs
  entryTime := deployment.status.record.stateEntryTimeMs
  deployed element := (deployment.status.record.element element).deployed
  attempts element := (deployment.status.record.element element).attemptCount

/-! ### The view of the small operations -/

theorem enterState_sequencer (deployment : Deployment) (newState : DeploymentState)
    (now : UInt32) :
    (enterState deployment newState now).sequencer = deployment.sequencer.enter newState now := by
  refine Sequencer.mk.injEq .. |>.mpr ⟨rfl, rfl, rfl, rfl, rfl, rfl, ?_, ?_⟩ <;>
    funext element <;> cases element <;> rfl

theorem updateSwitchStates_sequencer (deployment : Deployment) (readings : Readings) :
    (updateSwitchStates deployment readings).sequencer = deployment.sequencer := by
  refine Sequencer.mk.injEq .. |>.mpr ⟨rfl, rfl, rfl, rfl, rfl, rfl, ?_, ?_⟩ <;>
    funext element <;> cases element <;> rfl

theorem confirmElement_sequencer (deployment : Deployment) (element : DeploymentElement)
    (now : UInt32) :
    (confirmElement deployment element now).sequencer =
      (deployment.sequencer.mark element true).enter element.doneState now := by
  unfold confirmElement
  rw [enterState_sequencer]
  refine congrArg (fun sequencer => Sequencer.enter sequencer element.doneState now) ?_
  cases element <;>
    (refine Sequencer.mk.injEq .. |>.mpr ⟨rfl, rfl, rfl, rfl, rfl, rfl, ?_, ?_⟩ <;>
      funext other <;> cases other <;> rfl)

theorem startBurn_sequencer (deployment : Deployment) (element : DeploymentElement)
    (now : UInt32) :
    (startBurn deployment element now).sequencer =
      ({ deployment.sequencer with burning := true }.countAttempts element
        (deployment.sequencer.attempts element + 1)).enter element.activeState now := by
  unfold startBurn
  rw [enterState_sequencer]
  refine congrArg (fun sequencer => Sequencer.enter sequencer element.activeState now) ?_
  cases element <;>
    (refine Sequencer.mk.injEq .. |>.mpr ⟨rfl, rfl, rfl, rfl, rfl, rfl, ?_, ?_⟩ <;>
      funext other <;> cases other <;> rfl)

/-! ### One call takes one arrow -/

theorem processActive_advances (deployment : Deployment) (element : DeploymentElement)
    (now : UInt32) (readings : Readings)
    (here : deployment.status.record.state = element.activeState) :
    Sequencer.Advance now readings deployment.sequencer
      (processActive deployment element now
        (now - deployment.status.record.stateEntryTimeMs)).sequencer := by
  unfold processActive
  split
  · next elapsed =>
    rw [enterState_sequencer]
    exact .burnEnd element here elapsed
  · next early => exact .burnOn element here early

theorem processVerify_advances (deployment : Deployment) (element : DeploymentElement)
    (now : UInt32) (readings : Readings)
    (here : deployment.status.record.state = element.verifyState) :
    Sequencer.Advance now readings deployment.sequencer
      (processVerify deployment element now
        (now - deployment.status.record.stateEntryTimeMs) readings).sequencer := by
  unfold processVerify
  by_cases found : readings.deployed = true
  · rw [if_pos found, confirmElement_sequencer]
    exact .found element (Or.inr here) found
  have missing : readings.deployed = false := Bool.eq_false_iff.mpr found
  rw [if_neg found]
  split
  · next timedOut =>
    split
    · next elapsed =>
      rw [enterState_sequencer]
      exact .retry element here missing timedOut elapsed
    · next early => exact .verifyOn element here missing fun _ => early
  · next inTime =>
    exact .verifyOn element here missing fun timedOut => absurd timedOut inTime

section

variable [CLayout FaultRecord]

theorem processPending_advances (deployment : Deployment) (element : DeploymentElement)
    (now : UInt32) (readings : Readings)
    (here : deployment.status.record.state = element.pendingState) :
    Sequencer.Advance now readings deployment.sequencer
      (processPending deployment element now readings).sequencer := by
  unfold processPending
  by_cases found : readings.deployed = true
  · rw [if_pos found, confirmElement_sequencer]
    exact .found element (Or.inl here) found
  have missing : readings.deployed = false := Bool.eq_false_iff.mpr found
  rw [if_neg found]
  by_cases left : (deployment.status.record.element element).attemptCount < deploymentMaxRetries
  · rw [if_pos left, startBurn_sequencer]
    exact .burnStart element here missing left
  · rw [if_neg left, enterState_sequencer]
    exact .giveUp element here missing left

variable [CLayout DeploymentRecord]

theorem processState_advances (deployment : Deployment) (now : UInt32) (readings : Readings) :
    Sequencer.Advance now readings deployment.sequencer
      (processState deployment now readings).sequencer := by
  unfold processState
  cases here : deployment.status.record.state with
  | inhibited =>
    dsimp only
    split
    · next opened =>
      rw [enterState_sequencer]
      exact .separate here opened
    · next closed => exact .attached here (Bool.eq_false_iff.mpr closed)
  | waiting =>
    dsimp only
    split
    · next elapsed =>
      split
      · next enabled =>
        rw [enterState_sequencer]
        exact .waitOver here elapsed enabled
      · next inhibited => exact .waitOn here fun _ => Bool.eq_false_iff.mpr inhibited
    · next early => exact .waitOn here fun elapsed => absurd elapsed early
  | antennaPending => exact processPending_advances deployment .antenna now readings here
  | antennaActive => exact processActive_advances deployment .antenna now readings here
  | antennaVerify => exact processVerify_advances deployment .antenna now readings here
  | solarPending => exact processPending_advances deployment .solarPanel now readings here
  | solarActive => exact processActive_advances deployment .solarPanel now readings here
  | solarVerify => exact processVerify_advances deployment .solarPanel now readings here
  | complete => exact .rest (Or.inl here)
  | failed => exact .rest (Or.inr here)
  | count =>
    dsimp only
    exact enterState_sequencer deployment .inhibited now ▸ .reset here

/-- A call of `deployment_process` takes one arrow of the diagram. -/
theorem deploymentProcess_advances (deployment : Deployment) (now : UInt32)
    (readings : Readings) (initialized : deployment.initialized = true) :
    Sequencer.Advance now readings deployment.sequencer
      (deploymentProcess deployment now readings).sequencer := by
  rw [deploymentProcess, if_pos initialized, updateSwitchStates_sequencer]
  exact processState_advances deployment now readings

end

/-! ### The ground's operations -/

theorem deploymentSetEnabled_sequencer (deployment : Deployment) (enable : Bool) :
    (deploymentSetEnabled deployment enable).sequencer =
      { deployment.sequencer with enabled := enable } := by
  refine Sequencer.mk.injEq .. |>.mpr ⟨rfl, rfl, rfl, rfl, rfl, rfl, ?_, ?_⟩ <;>
    funext element <;> cases element <;> rfl

theorem deploymentForceRetry_sequencer (deployment : Deployment) (element : DeploymentElement)
    (halTimerMs : UInt64) :
    (deploymentForceRetry deployment (some element) halTimerMs).1.sequencer =
      ((deployment.sequencer.countAttempts element 0).mark element false).enter
        element.pendingState halTimerMs.toUInt32 := by
  rw [deploymentForceRetry, enterState_sequencer]
  refine congrArg
    (fun sequencer => Sequencer.enter sequencer element.pendingState halTimerMs.toUInt32) ?_
  cases element <;>
    (refine Sequencer.mk.injEq .. |>.mpr ⟨rfl, rfl, rfl, rfl, rfl, rfl, ?_, ?_⟩ <;>
      funext other <;> cases other <;> rfl)

end SmartQso
