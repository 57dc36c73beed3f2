/-
This file bounds the burns of the deployment sequencer. Every burn counts an attempt of its
element, an attempt is made only while the counter is below its limit, and nothing but a
forced retry takes the counter back; so each forced retry of an element pays for three
burns more, and its first three are free.
-/

import SmartQso.DeploymentSafety

namespace SmartQso

open Runs

/-! ### Burns in the diagram -/

/-- An element begins to burn between two states of the sequencer. -/
def Sequencer.Starts (element : DeploymentElement) (before after : Sequencer) : Prop :=
  before.state ≠ element.activeState ∧ after.state = element.activeState

/-- What a step does to the counter of an element: a burn of the element counts an attempt below the
limit, and nothing else counts one. -/
def Sequencer.CountsBurn (element : DeploymentElement) (before after : Sequencer) : Prop :=
  (Starts element before after ∧ before.attempts element < deploymentMaxRetries ∧
      after.attempts element = before.attempts element + 1) ∨
    (¬ Starts element before after ∧ after.attempts element = before.attempts element)

namespace Sequencer

theorem isActive_activeState (element : DeploymentElement) : element.activeState.IsActive := by
  cases element
  · exact Or.inl rfl
  · exact Or.inr rfl

/-- No element begins to burn in a step that stays in a state or enters another one than an active
state. -/
theorem not_starts {element : DeploymentElement} {before after : Sequencer}
    (cold : after.state = before.state ∨ ¬ after.state.IsActive) :
    ¬ Starts element before after := by
  rintro ⟨outside, active⟩
  rcases cold with stays | cold
  · exact outside (stays ▸ active)
  · exact cold (active ▸ isActive_activeState element)

theorem activeState_injective {first second : DeploymentElement}
    (same : first.activeState = second.activeState) : first = second := by
  cases first <;> cases second <;> first | rfl | exact absurd same (by decide)

theorem not_isActive_element (element : DeploymentElement) :
    ¬ element.pendingState.IsActive ∧ ¬ element.verifyState.IsActive ∧
      ¬ element.doneState.IsActive := by
  cases element <;>
    simp [DeploymentState.IsActive, DeploymentElement.pendingState,
      DeploymentElement.verifyState, DeploymentElement.doneState]

theorem Advance.countsBurn {now : UInt32} {readings : Readings} {before after : Sequencer}
    (advance : Advance now readings before after) (element : DeploymentElement) :
    CountsBurn element before after := by
  cases advance with
  | attached here closed | waitOn here held | rest here =>
    exact Or.inr ⟨not_starts (Or.inl rfl), rfl⟩
  | burnOn other here early | verifyOn other here missing early =>
    exact Or.inr ⟨not_starts (Or.inl rfl), rfl⟩
  | separate here opened | waitOver here elapsed enabled | reset here =>
    exact Or.inr ⟨not_starts (Or.inr (by simp [DeploymentState.IsActive])), rfl⟩
  | giveUp other here missing spent =>
    exact Or.inr ⟨not_starts (Or.inr (by simp [DeploymentState.IsActive])), rfl⟩
  | found other here deployed =>
    exact Or.inr ⟨not_starts (Or.inr (not_isActive_element other).2.2), rfl⟩
  | burnEnd other here elapsed =>
    exact Or.inr ⟨not_starts (Or.inr (not_isActive_element other).2.1), rfl⟩
  | retry other here missing timedOut elapsed =>
    exact Or.inr ⟨not_starts (Or.inr (not_isActive_element other).1), rfl⟩
  | burnStart other here missing left =>
    by_cases same : other = element
    · subst same
      refine Or.inl ⟨⟨fun active => ?_, rfl⟩, left, Function.update_self other _ before.attempts⟩
      have pending := not_isActive_element other |>.1
      rw [← here, active] at pending
      exact pending (isActive_activeState other)
    · refine Or.inr ⟨fun starts => same (activeState_injective starts.2), ?_⟩
      exact Function.update_of_ne (Ne.symm same) _ before.attempts

/-- The wire is on when an element has begun to burn. -/
theorem Advance.burning_of_starts {now : UInt32} {readings : Readings} {before after : Sequencer}
    (advance : Advance now readings before after) {element : DeploymentElement}
    (starts : Starts element before after) : after.burning = true := by
  cases advance with
  | burnStart other here missing left => rfl
  | attached here closed | waitOn here held | rest here =>
    exact absurd starts (not_starts (Or.inl rfl))
  | burnOn other here early | verifyOn other here missing early =>
    exact absurd starts (not_starts (Or.inl rfl))
  | separate here opened | waitOver here elapsed enabled | reset here =>
    exact absurd starts (not_starts (Or.inr (by simp [DeploymentState.IsActive])))
  | giveUp other here missing spent =>
    exact absurd starts (not_starts (Or.inr (by simp [DeploymentState.IsActive])))
  | found other here deployed =>
    exact absurd starts (not_starts (Or.inr (not_isActive_element other).2.2))
  | burnEnd other here elapsed =>
    exact absurd starts (not_starts (Or.inr (not_isActive_element other).2.1))
  | retry other here missing timedOut elapsed =>
    exact absurd starts (not_starts (Or.inr (not_isActive_element other).1))

/-- A step that switches the wire on starts the burn of an element. -/
theorem Advance.starts_of_heated {now : UInt32} {readings : Readings} {before after : Sequencer}
    (advance : Advance now readings before after) (cold : before.burning = false)
    (hot : after.burning = true) : ∃ element, Starts element before after := by
  cases advance with
  | burnStart element here missing left =>
    refine ⟨element, fun active => (not_isActive_element element).1 ?_, rfl⟩
    rw [← here, active]
    exact isActive_activeState element
  | burnEnd element here elapsed => exact absurd hot Bool.false_ne_true
  | _ => exact absurd (cold.symm.trans hot) Bool.false_ne_true

end Sequencer

/-! ### Burns and retries in a run -/

/-- The call forces a retry of the element. -/
def retriesElement (element : DeploymentElement) : DeploymentCall → Bool
  | .forceRetry (some retried) _ => decide (retried = element)
  | _ => false

/-- The retries that a run forces of an element. -/
def forcedRetries (element : DeploymentElement) (calls : List DeploymentCall) : Nat :=
  calls.countP (retriesElement element)

section

variable [CLayout FaultRecord] [CLayout DeploymentRecord]

/-- The call starts a burn of the element: it takes the sequencer to the active state of the element
from another one. -/
def BeginsBurn (element : DeploymentElement) (deployment : Deployment)
    (call : DeploymentCall) : Prop :=
  deployment.status.record.state ≠ element.activeState ∧
    (deploymentCall deployment call).status.record.state = element.activeState

instance (element : DeploymentElement) (deployment : Deployment) (call : DeploymentCall) :
    Decidable (BeginsBurn element deployment call) :=
  inferInstanceAs (Decidable (_ ∧ _))

/-- The burns of an element that a run starts. -/
def burnsBegun (element : DeploymentElement) : Deployment → List DeploymentCall → Nat
  | _, [] => 0
  | deployment, call :: rest =>
    (if BeginsBurn element deployment call then 1 else 0) +
      burnsBegun element (deploymentCall deployment call) rest

theorem not_beginsBurn {element : DeploymentElement} {deployment : Deployment}
    {call : DeploymentCall}
    (cold : (deploymentCall deployment call).status.record.state = deployment.status.record.state ∨
      ¬ (deploymentCall deployment call).status.record.state.IsActive) :
    ¬ BeginsBurn element deployment call :=
  @Sequencer.not_starts element deployment.sequencer (deploymentCall deployment call).sequencer cold

/-- Every call that switches the wire on starts the burn of an element. -/
theorem beginsBurn_of_startsBurn {deployment : Deployment} {call : DeploymentCall}
    (initialized : deployment.initialized = true) (starts : StartsBurn deployment call) :
    ∃ element, BeginsBurn element deployment call := by
  obtain ⟨cold, hot⟩ := starts
  cases call with
  | process now readings =>
    exact (deploymentProcess_advances deployment now readings initialized).starts_of_heated cold hot
  | setEnabled enable => exact absurd (cold.symm.trans hot) Bool.false_ne_true
  | forceRetry retried halTimerMs =>
    cases retried <;> exact absurd (cold.symm.trans hot) Bool.false_ne_true

/-- Every burn is on the wire. -/
theorem deployEn_of_beginsBurn {deployment : Deployment} {call : DeploymentCall}
    (initialized : deployment.initialized = true) {element : DeploymentElement}
    (begins : BeginsBurn element deployment call) :
    (deploymentCall deployment call).deployEn = true := by
  cases call with
  | process now readings =>
    exact (deploymentProcess_advances deployment now readings initialized).burning_of_starts begins
  | setEnabled enable => exact absurd begins (not_beginsBurn (Or.inl rfl))
  | forceRetry retried halTimerMs =>
    cases retried with
    | none => exact absurd begins (not_beginsBurn (Or.inl rfl))
    | some retried =>
      have cold := (Sequencer.not_isActive_element retried).1
      exact absurd begins (not_beginsBurn (Or.inr cold))

/-- The wire is switched on to begin the burn of an element, and a burn that begins is on it. -/
def BurnsOnWire (deployment : Deployment) (call : DeploymentCall) : Prop :=
  (StartsBurn deployment call → ∃ element, BeginsBurn element deployment call) ∧
    ∀ element, BeginsBurn element deployment call →
      (deploymentCall deployment call).deployEn = true

/-- `attempt_count` of an element. -/
def attemptCount (element : DeploymentElement) (deployment : Deployment) : UInt8 :=
  (deployment.status.record.element element).attemptCount

/-- A call counts the burns it starts, and only a forced retry of the element forgets attempts. -/
theorem deploymentCall_counts {deployment : Deployment}
    (initialized : deployment.initialized = true) (element : DeploymentElement)
    (call : DeploymentCall) :
    (retriesElement element call = false ∧
        Sequencer.CountsBurn element deployment.sequencer
          (deploymentCall deployment call).sequencer) ∨
      (retriesElement element call = true ∧ ¬ BeginsBurn element deployment call ∧
        attemptCount element (deploymentCall deployment call) = 0) := by
  cases call with
  | process now readings =>
    exact Or.inl ⟨rfl, (deploymentProcess_advances deployment now readings initialized).countsBurn
      element⟩
  | setEnabled enable =>
    refine Or.inl ⟨rfl, Or.inr ⟨Sequencer.not_starts (Or.inl ?_), ?_⟩⟩
    · rfl
    · rfl
  | forceRetry retried halTimerMs =>
    cases retried with
    | none => exact Or.inl ⟨rfl, Or.inr ⟨Sequencer.not_starts (Or.inl rfl), rfl⟩⟩
    | some retried =>
      have forced := deploymentForceRetry_sequencer deployment retried halTimerMs
      have cold := Sequencer.not_isActive_element retried |>.1
      have counter :
          (deploymentForceRetry deployment (some retried) halTimerMs).1.sequencer.attempts element =
            Function.update deployment.sequencer.attempts retried 0 element := by
        rw [forced]
        rfl
      by_cases same : retried = element
      · subst same
        refine Or.inr ⟨decide_eq_true rfl, not_beginsBurn (Or.inr cold), ?_⟩
        exact counter.trans (Function.update_self retried 0 deployment.sequencer.attempts)
      · refine Or.inl ⟨decide_eq_false same, Or.inr ⟨not_beginsBurn (Or.inr cold), ?_⟩⟩
        exact counter.trans (Function.update_of_ne (Ne.symm same) 0 deployment.sequencer.attempts)

/-- The burns of a run are paid for by the attempts it leaves counted and by its forced retries. -/
theorem burnsBegun_bounded {deployment : Deployment} (initialized : deployment.initialized = true)
    (element : DeploymentElement) (calls : List DeploymentCall)
    (within : (attemptCount element deployment).toNat ≤ 3) :
    (attemptCount element (finalState deploymentCall deployment calls)).toNat ≤ 3 ∧
      burnsBegun element deployment calls + (attemptCount element deployment).toNat ≤
        3 * forcedRetries element calls +
          (attemptCount element (finalState deploymentCall deployment calls)).toNat := by
  induction calls generalizing deployment with
  | nil => exact ⟨within, Nat.le_refl (0 + (attemptCount element deployment).toNat)⟩
  | cons call rest inductionHypothesis =>
    have ready := (deploymentCall_initialized deployment call).trans initialized
    rw [finalState_cons, burnsBegun, forcedRetries, List.countP_cons]
    rcases deploymentCall_counts initialized element call with
      ⟨kept, ⟨starts, left, counted⟩ | ⟨none, counted⟩⟩ | ⟨retried, none, counted⟩
    · have few : (attemptCount element deployment).toNat < 3 := UInt8.lt_iff_toNat_lt.mp left
      have more : (attemptCount element (deploymentCall deployment call)).toNat =
          (attemptCount element deployment).toNat + 1 := by
        refine (congrArg UInt8.toNat counted).trans ?_
        rw [UInt8.toNat_add]
        exact Nat.mod_eq_of_lt (Nat.lt_of_lt_of_le (Nat.succ_lt_succ few) (by decide))
      obtain ⟨bound, paid⟩ := inductionHypothesis ready (more ▸ few)
      refine ⟨bound, ?_⟩
      have begins : BeginsBurn element deployment call := starts
      rw [if_pos begins, kept, if_neg Bool.false_ne_true]
      unfold forcedRetries at paid
      omega
    · have same : attemptCount element (deploymentCall deployment call) =
          attemptCount element deployment := counted
      obtain ⟨bound, paid⟩ := inductionHypothesis ready (same ▸ within)
      refine ⟨bound, ?_⟩
      have resting : ¬ BeginsBurn element deployment call := none
      rw [if_neg resting, kept, if_neg Bool.false_ne_true]
      unfold forcedRetries at paid
      rw [same] at paid
      omega
    · obtain ⟨bound, paid⟩ := inductionHypothesis ready (by rw [counted]; exact Nat.zero_le 3)
      refine ⟨bound, ?_⟩
      rw [if_neg none, if_pos retried]
      unfold forcedRetries at paid
      omega

/-- In every run from the initialization on, with arbitrary times and readings, the burns are those
on the wire, no element is tried more often than the limit allows, and its burns are three for each
of its forced retries and three free ones at most. -/
theorem burns_bounded (faults : FaultMgmt) (calls : List DeploymentCall)
    (element : DeploymentElement) :
    EachStep deploymentCall BurnsOnWire (deploymentStart faults) calls ∧
      attemptCount element (finalState deploymentCall (deploymentStart faults) calls) ≤
        deploymentMaxRetries ∧
      burnsBegun element (deploymentStart faults) calls ≤
        deploymentMaxRetries.toNat * (1 + forcedRetries element calls) := by
  have fresh : attemptCount element (deploymentStart faults) = 0 := by cases element <;> rfl
  obtain ⟨bound, paid⟩ := @burnsBegun_bounded _ _ (deploymentStart faults) rfl element calls
    (by rw [fresh]; exact Nat.zero_le 3)
  have onWire : ∀ deployment call, deployment.initialized = true → BurnsOnWire deployment call :=
    fun deployment call initialized =>
      ⟨beginsBurn_of_startsBurn initialized, fun element => deployEn_of_beginsBurn initialized⟩
  have kept : ∀ deployment call, deployment.initialized = true →
      (deploymentCall deployment call).initialized = true :=
    fun deployment call => (deploymentCall_initialized deployment call).trans
  have limit : deploymentMaxRetries.toNat = 3 := rfl
  rw [UInt8.le_iff_toNat_le, limit]
  exact ⟨eachStep_of_invariant kept onWire rfl calls, bound, by omega⟩

end

end SmartQso
