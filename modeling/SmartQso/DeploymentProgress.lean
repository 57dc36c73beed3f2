/-
This file proves that the deployment sequence comes to an end: when `deployment_process`
is called often enough after the separation, the sequence is complete or has failed by a
deadline, whatever the switches read, and the burn wire is off. The times are natural
numbers, of which the code sees the low 32 bits.
-/

import SmartQso.DeploymentSafety
import SmartQso.Phases

namespace SmartQso

open Runs Phases

/-! ### Phases of the sequence -/

namespace Sequencer

/-- The time one attempt at an element takes at most: the burn, the delay before the retry, and a
gap before each of its three ends is seen. -/
def attemptMs (gap : ℕ) (element : DeploymentElement) : ℕ :=
  element.burnTimeMs.toNat + deploymentRetryDelayMs.toNat + 3 * gap

/-- The time the attempts left for an element take at most, with the look that ends them. -/
def elementBudget (gap : ℕ) (sequencer : Sequencer) (element : DeploymentElement) : ℕ :=
  (deploymentMaxRetries.toNat - (sequencer.attempts element).toNat) * attemptMs gap element + gap

/-- The time from a pending element to the end of the sequence. -/
def pendingBudget (gap : ℕ) (sequencer : Sequencer) : DeploymentElement → ℕ
  | .antenna => elementBudget gap sequencer .antenna + elementBudget gap sequencer .solarPanel
  | .solarPanel => elementBudget gap sequencer .solarPanel

variable (gap : ℕ) (sequencer : Sequencer) (begun : ℕ)

def waitingPhase : Phase where
  begun := begun
  lasts := deploymentWaitTimeMs.toNat
  budget := deploymentWaitTimeMs.toNat + gap + pendingBudget gap sequencer .antenna
  covered := by rw [Nat.add_assoc]; exact Nat.le_add_right _ _

def pendingPhase (element : DeploymentElement) : Phase where
  begun := begun
  lasts := 0
  budget := pendingBudget gap sequencer element
  covered := Nat.zero_le _

def verifyPhase (element : DeploymentElement) : Phase where
  begun := begun
  lasts := deploymentRetryDelayMs.toNat
  budget := deploymentRetryDelayMs.toNat + gap + pendingBudget gap sequencer element
  covered := by rw [Nat.add_assoc]; exact Nat.le_add_right _ _

def activePhase (element : DeploymentElement) : Phase where
  begun := begun
  lasts := element.burnTimeMs.toNat
  budget := element.burnTimeMs.toNat + gap +
    (deploymentRetryDelayMs.toNat + gap + pendingBudget gap sequencer element)
  covered := by rw [Nat.add_assoc]; exact Nat.le_add_right _ _

/-- The phase of a state entered at `begun`; before the separation and after the end there is
none. -/
def phase : Option Phase :=
  match sequencer.state with
  | .waiting => some (waitingPhase gap sequencer begun)
  | .antennaPending => some (pendingPhase gap sequencer begun .antenna)
  | .antennaActive => some (activePhase gap sequencer begun .antenna)
  | .antennaVerify => some (verifyPhase gap sequencer begun .antenna)
  | .solarPending => some (pendingPhase gap sequencer begun .solarPanel)
  | .solarActive => some (activePhase gap sequencer begun .solarPanel)
  | .solarVerify => some (verifyPhase gap sequencer begun .solarPanel)
  | .inhibited | .complete | .failed | .count => none

variable {gap sequencer begun}

theorem phase_pending {element : DeploymentElement}
    (here : sequencer.state = element.pendingState) :
    sequencer.phase gap begun = some (pendingPhase gap sequencer begun element) := by
  unfold phase
  rw [here]
  cases element <;> rfl

theorem phase_active {element : DeploymentElement}
    (here : sequencer.state = element.activeState) :
    sequencer.phase gap begun = some (activePhase gap sequencer begun element) := by
  unfold phase
  rw [here]
  cases element <;> rfl

theorem phase_verify {element : DeploymentElement}
    (here : sequencer.state = element.verifyState) :
    sequencer.phase gap begun = some (verifyPhase gap sequencer begun element) := by
  unfold phase
  rw [here]
  cases element <;> rfl

/-- The sequence has come to its end. -/
def Over (sequencer : Sequencer) : Prop :=
  sequencer.state = .complete ∨ sequencer.state = .failed

/-- The sequencer is in a phase: it entered its state when the phase began. -/
structure InPhase (gap : ℕ) (sequencer : Sequencer) (phase : Phase) : Prop where
  enabled : sequencer.enabled = true
  entered : sequencer.entryTime = UInt32.ofNat phase.begun
  here : sequencer.phase gap phase.begun = some phase

theorem InPhase.eq {sequencer : Sequencer} {phase other : Phase}
    (inPhase : InPhase gap sequencer phase)
    (here : sequencer.phase gap phase.begun = some other) : phase = other :=
  Option.some.inj (inPhase.here.symm.trans here)

/-- No phase lasts longer than the wait. -/
theorem InPhase.lasts_le {sequencer : Sequencer} {phase : Phase}
    (inPhase : InPhase gap sequencer phase) : phase.lasts ≤ deploymentWaitTimeMs.toNat := by
  have here := inPhase.here
  generalize phase.begun = begun at here
  unfold Sequencer.phase at here
  split at here <;> cases here <;>
    simp only [waitingPhase, pendingPhase, activePhase, verifyPhase] <;> decide

theorem InPhase.ne_idle {sequencer : Sequencer} {phase : Phase}
    (inPhase : InPhase gap sequencer phase) :
    sequencer.state ≠ .inhibited ∧ sequencer.state ≠ .count := by
  have here := inPhase.here
  unfold Sequencer.phase at here
  refine ⟨fun idle => ?_, fun idle => ?_⟩ <;> rw [idle] at here <;> cases here

/-- The time in the state, as the code computes it, is the time since the phase began. -/
theorem InPhase.elapsed_iff {sequencer : Sequencer} {phase : Phase} {now : ℕ}
    (inPhase : InPhase gap sequencer phase) (forward : phase.begun ≤ now)
    (soon : now ≤ phase.begun + phase.lasts + gap)
    (small : gap + deploymentWaitTimeMs.toNat < 4294967296) (limit : UInt32) :
    limit ≤ UInt32.ofNat now - sequencer.entryTime ↔ phase.begun + limit.toNat ≤ now := by
  have lasts := inPhase.lasts_le
  have elapsed : (UInt32.ofNat now - UInt32.ofNat phase.begun).toNat = now - phase.begun := by
    rw [UInt32.toNat_sub, UInt32.toNat_ofNat', UInt32.toNat_ofNat']
    omega
  rw [inPhase.entered, UInt32.le_iff_toNat_le, elapsed]
  omega

/-! ### Every look is progress -/

/-- What the attempts left cost covers one attempt and those left after it. -/
theorem elementBudget_countAttempts {sequencer : Sequencer} {element : DeploymentElement}
    (left : sequencer.attempts element < deploymentMaxRetries) :
    attemptMs gap element +
        elementBudget gap
          (sequencer.countAttempts element (sequencer.attempts element + 1)) element =
      elementBudget gap sequencer element := by
  have counted : ((sequencer.countAttempts element (sequencer.attempts element + 1)).attempts
      element).toNat = (sequencer.attempts element).toNat + 1 := by
    have bound : (sequencer.attempts element).toNat < 3 := UInt8.lt_iff_toNat_lt.mp left
    unfold countAttempts
    dsimp only
    rw [Function.update_self, UInt8.toNat_add]
    change (_ + 1) % 256 = _
    omega
  have bound := UInt8.lt_iff_toNat_lt.mp left
  unfold elementBudget
  rw [counted, ← Nat.add_assoc]
  congr 1
  rw [show deploymentMaxRetries.toNat - (sequencer.attempts element).toNat =
    deploymentMaxRetries.toNat - ((sequencer.attempts element).toNat + 1) + 1 by omega,
    Nat.succ_mul, Nat.add_comm]

theorem pendingBudget_countAttempts {sequencer : Sequencer} {element : DeploymentElement}
    (left : sequencer.attempts element < deploymentMaxRetries) :
    attemptMs gap element +
        pendingBudget gap
          (sequencer.countAttempts element (sequencer.attempts element + 1)) element =
      pendingBudget gap sequencer element := by
  have counted := @elementBudget_countAttempts gap sequencer element left
  cases element with
  | antenna =>
    unfold pendingBudget
    dsimp only
    rw [← counted, Nat.add_assoc]
    rfl
  | solarPanel => exact counted

theorem le_elementBudget (sequencer : Sequencer) (element : DeploymentElement) :
    gap ≤ elementBudget gap sequencer element := Nat.le_add_left _ _

/-- A phase that begins now goes with the state entered now. -/
theorem InPhase.enter {sequencer : Sequencer} {state : DeploymentState} {now : ℕ} {phase : Phase}
    (enabled : sequencer.enabled = true)
    (here : (sequencer.enter state (UInt32.ofNat now)).phase gap now = some phase)
    (begins : phase.begun = now) :
    InPhase gap (sequencer.enter state (UInt32.ofNat now)) phase := by
  subst begins
  exact ⟨enabled, rfl, here⟩

/-- A look ends the sequence or finds a next phase. -/
theorem Advance.progress {now : ℕ} {readings : Readings} {before after : Sequencer} {phase : Phase}
    (advance : Advance (UInt32.ofNat now) readings before after)
    (inPhase : InPhase gap before phase) (forward : phase.begun ≤ now)
    (soon : now ≤ phase.begun + phase.lasts + gap)
    (small : gap + deploymentWaitTimeMs.toNat < 4294967296) :
    after.Over ∨ ∃ next, phase.Next gap now next ∧ InPhase gap after next := by
  have elapsed := inPhase.elapsed_iff forward soon small
  cases advance with
  | separate here _ => exact absurd here inPhase.ne_idle.1
  | attached here _ => exact absurd here inPhase.ne_idle.1
  | waitOver here _ _ =>
    have eq := inPhase.eq (by unfold Sequencer.phase; rw [here])
    refine Or.inr ⟨pendingPhase gap before now .antenna, .moves _ rfl ?_,
      .enter inPhase.enabled rfl rfl⟩
    rw [eq]
    exact Nat.le_refl _
  | waitOn here held =>
    have eq := inPhase.eq (by unfold Sequencer.phase; rw [here])
    have lasts : phase.lasts = deploymentWaitTimeMs.toNat := congrArg Phase.lasts eq
    refine Or.inr ⟨phase, .goesOn (Nat.lt_of_not_le fun late => ?_), inPhase⟩
    rw [lasts] at late
    exact Bool.false_ne_true ((held ((elapsed _).mpr late)).symm.trans inPhase.enabled)
  | found element here deployed =>
    cases element with
    | solarPanel => exact Or.inl (Or.inl rfl)
    | antenna =>
      refine Or.inr ⟨pendingPhase gap (before.mark .antenna true) now .solarPanel,
        .moves _ rfl ?_, .enter inPhase.enabled rfl rfl⟩
      have spare := @le_elementBudget gap before .antenna
      change phase.lasts + gap + elementBudget gap before .solarPanel ≤ phase.budget
      rcases here with pending | verify
      · rw [inPhase.eq (phase_pending pending)]
        unfold pendingPhase pendingBudget
        dsimp only
        omega
      · rw [inPhase.eq (phase_verify verify)]
        unfold verifyPhase pendingBudget
        dsimp only
        omega
  | burnStart element here missing left =>
    have eq := inPhase.eq (phase_pending here)
    refine Or.inr ⟨activePhase gap
      (before.countAttempts element (before.attempts element + 1)) now element,
      .moves _ rfl ?_, .enter inPhase.enabled (phase_active rfl) rfl⟩
    have counted := @pendingBudget_countAttempts gap before element left
    rw [eq]
    unfold activePhase pendingPhase
    unfold attemptMs at counted
    dsimp only
    omega
  | giveUp element here missing spent => exact Or.inl (Or.inr rfl)
  | burnEnd element here late =>
    have eq := inPhase.eq (phase_active here)
    refine Or.inr ⟨verifyPhase gap before now element, .moves _ rfl ?_,
      .enter inPhase.enabled (phase_verify rfl) rfl⟩
    rw [eq]
    exact Nat.le_refl _
  | burnOn element here early =>
    have lasts : phase.lasts = element.burnTimeMs.toNat :=
      congrArg Phase.lasts (inPhase.eq (phase_active here))
    refine Or.inr ⟨phase, .goesOn (Nat.lt_of_not_le fun late => ?_), inPhase⟩
    rw [lasts] at late
    exact early ((elapsed _).mpr late)
  | retry element here missing timedOut late =>
    have eq := inPhase.eq (phase_verify here)
    refine Or.inr ⟨pendingPhase gap before now element, .moves _ rfl ?_,
      .enter inPhase.enabled (phase_pending rfl) rfl⟩
    rw [eq]
    exact Nat.le_refl _
  | verifyOn element here missing early =>
    have lasts : phase.lasts = deploymentRetryDelayMs.toNat :=
      congrArg Phase.lasts (inPhase.eq (phase_verify here))
    refine Or.inr ⟨phase, .goesOn (Nat.lt_of_not_le fun late => ?_), inPhase⟩
    rw [lasts] at late
    have delayed := (elapsed _).mpr late
    have timedOut : deploymentVerifyTimeoutMs ≤ deploymentRetryDelayMs := by decide
    exact early (UInt32.le_trans timedOut delayed) delayed
  | rest here => exact Or.inl here
  | reset here => exact absurd here inPhase.ne_idle.2

/-! ### Where there is one arrow -/

theorem Advance.eq_of_ended {now : UInt32} {readings : Readings} {before after : Sequencer}
    (advance : Advance now readings before after) (ended : before.Over) : after = before := by
  unfold Over at ended
  cases advance with
  | attached | waitOn | burnOn | verifyOn | rest => rfl
  | separate here | waitOver here | reset here =>
    rw [here] at ended
    rcases ended with impossible | impossible <;> cases impossible
  | burnStart element here | giveUp element here | burnEnd element here | retry element here =>
    rw [here] at ended
    cases element <;> rcases ended with impossible | impossible <;> cases impossible
  | found element here =>
    rcases here with here | here <;> rw [here] at ended <;> cases element <;>
      rcases ended with impossible | impossible <;> cases impossible

theorem Advance.eq_of_inhibited {now : UInt32} {readings : Readings} {before after : Sequencer}
    (advance : Advance now readings before after) (inhibited : before.state = .inhibited) :
    after = if readings.separation then
        { before with separated := true, separationTime := now }.enter .waiting now
      else before := by
  cases advance with
  | separate _ opened => rw [if_pos opened]
  | attached _ closed => rw [if_neg (Bool.eq_false_iff.mp closed)]
  | waitOver here | waitOn here | reset here => cases inhibited.symm.trans here
  | burnStart element here | giveUp element here | burnEnd element here | burnOn element here
  | retry element here | verifyOn element here =>
    cases element <;> cases inhibited.symm.trans here
  | found element here =>
    rcases here with here | here <;> cases element <;> cases inhibited.symm.trans here
  | rest here => rcases here with here | here <;> cases inhibited.symm.trans here

end Sequencer

/-! ### Looks at the sequence -/

/-- A call of `deployment_process`: its time, and what the outside answers. -/
structure DeploymentLook where
  timeMs : ℕ
  readings : Readings

section

variable [CLayout FaultRecord] [CLayout DeploymentRecord] {gap : ℕ}

/-- The effect of a call; the code sees the low 32 bits of its time. -/
def deploymentLook (deployment : Deployment) (look : DeploymentLook) : Deployment :=
  deploymentProcess deployment (UInt32.ofNat look.timeMs) look.readings

theorem deploymentLook_initialized (deployment : Deployment) (look : DeploymentLook) :
    (deploymentLook deployment look).initialized = deployment.initialized :=
  deploymentCall_initialized deployment (.process (UInt32.ofNat look.timeMs) look.readings)

theorem deploymentLook_advances {deployment : Deployment}
    (initialized : deployment.initialized = true) (look : DeploymentLook) :
    Sequencer.Advance (UInt32.ofNat look.timeMs) look.readings deployment.sequencer
      (deploymentLook deployment look).sequencer :=
  deploymentProcess_advances deployment _ look.readings initialized

/-- The sequence of an initialized deployment has come to its end. -/
def DeploymentOver (deployment : Deployment) : Prop :=
  deployment.initialized = true ∧ deployment.sequencer.Over

/-- An initialized deployment is in a phase. -/
def DeploymentShows (gap : ℕ) (deployment : Deployment) (phase : Phase) : Prop :=
  deployment.initialized = true ∧ Sequencer.InPhase gap deployment.sequencer phase

theorem deploymentOver_stays (deployment : Deployment) (look : DeploymentLook)
    (ended : DeploymentOver deployment) : DeploymentOver (deploymentLook deployment look) := by
  obtain ⟨initialized, ended⟩ := ended
  refine ⟨(deploymentLook_initialized deployment look).trans initialized, ?_⟩
  rw [(deploymentLook_advances initialized look).eq_of_ended ended]
  exact ended

/-- The sequence stays in step with the burn wire. -/
theorem deploymentLook_wireInStep (deployment : Deployment) (look : DeploymentLook)
    (kept : deployment.initialized = true ∧ deployment.sequencer.WireInStep) :
    (deploymentLook deployment look).initialized = true ∧
      (deploymentLook deployment look).sequencer.WireInStep :=
  ⟨(deploymentLook_initialized deployment look).trans kept.1,
    (deploymentLook_advances kept.1 look).wireInStep kept.2⟩

/-- Every look at a phase is progress. -/
theorem deploymentShows_progress (small : gap + deploymentWaitTimeMs.toNat < 4294967296)
    (deployment : Deployment) (look : DeploymentLook) (phase : Phase)
    (shows : DeploymentShows gap deployment phase) (forward : phase.begun ≤ look.timeMs)
    (soon : look.timeMs ≤ phase.begun + phase.lasts + gap) :
    DeploymentOver (deploymentLook deployment look) ∨
      ∃ next, phase.Next gap look.timeMs next ∧
        DeploymentShows gap (deploymentLook deployment look) next := by
  obtain ⟨initialized, inPhase⟩ := shows
  have kept := (deploymentLook_initialized deployment look).trans initialized
  rcases (deploymentLook_advances initialized look).progress inPhase forward soon small with
    ended | ⟨next, found, inNext⟩
  · exact Or.inl ⟨kept, ended⟩
  · exact Or.inr ⟨next, found, kept, inNext⟩

/-- Before the separation nothing happens. -/
theorem attached_sequencer {deployment : Deployment} {looks : List DeploymentLook}
    (attached : ∀ look ∈ looks, look.readings.separation = false)
    (initialized : deployment.initialized = true)
    (inhibited : deployment.sequencer.state = .inhibited) :
    (finalState deploymentLook deployment looks).initialized = true ∧
      (finalState deploymentLook deployment looks).sequencer = deployment.sequencer := by
  induction looks generalizing deployment with
  | nil => exact ⟨initialized, rfl⟩
  | cons look rest inductionHypothesis =>
    obtain ⟨first, others⟩ := List.forall_mem_cons.mp attached
    have same := (deploymentLook_advances initialized look).eq_of_inhibited inhibited
    rw [first, if_neg Bool.false_ne_true] at same
    rw [finalState_cons]
    have later := inductionHypothesis others
      ((deploymentLook_initialized deployment look).trans initialized) (same ▸ inhibited)
    exact ⟨later.1, later.2.trans same⟩

/-- The time from the separation to the end of the sequence: the wait, three attempts at each
element and a gap before each of at most 21 looks that move it on. -/
def deploymentBudgetMs (gap : ℕ) : ℕ := 2184000 + 21 * gap

omit [CLayout FaultRecord] [CLayout DeploymentRecord] in
theorem waitingPhase_budget {sequencer : Sequencer} (begun : ℕ)
    (fresh : ∀ element, sequencer.attempts element = 0) :
    (Sequencer.waitingPhase gap sequencer begun).budget = deploymentBudgetMs gap := by
  unfold Sequencer.waitingPhase Sequencer.pendingBudget Sequencer.elementBudget
    Sequencer.attemptMs deploymentBudgetMs
  dsimp only
  rw [fresh, fresh]
  change 1800000 + gap + (3 * (3000 + 60000 + 3 * gap) + gap +
    (3 * (5000 + 60000 + 3 * gap) + gap)) = _
  omega

/-- The call that sees the separation begins the wait. -/
theorem separation_shows {deployment : Deployment} (faults : FaultMgmt)
    (initialized : deployment.initialized = true)
    (same : deployment.sequencer = (deploymentStart faults).sequencer) {look : DeploymentLook}
    (separated : look.readings.separation = true) :
    ∃ phase, DeploymentShows gap (deploymentLook deployment look) phase ∧
      phase.begun = look.timeMs ∧ phase.budget = deploymentBudgetMs gap := by
  have inhibited : deployment.sequencer.state = .inhibited := same ▸ rfl
  have eq := (deploymentLook_advances initialized look).eq_of_inhibited inhibited
  rw [separated, if_pos rfl, same] at eq
  have attempts : ∀ element, (deploymentLook deployment look).sequencer.attempts element = 0 := by
    rw [eq]
    intro element
    cases element <;> rfl
  refine ⟨Sequencer.waitingPhase gap (deploymentLook deployment look).sequencer look.timeMs,
    ⟨(deploymentLook_initialized deployment look).trans initialized, ?_, ?_, ?_⟩, rfl,
    waitingPhase_budget look.timeMs attempts⟩
  · rw [eq]
    rfl
  · rw [eq]
    rfl
  · rw [eq]
    rfl

end

/-- Calls every five minutes after the separation, while no element ever moves. -/
def stuckLooks : List DeploymentLook :=
  (List.range 30).map fun index => ⟨300000 * (index + 1), stuckReadings⟩

theorem stuckLooks_prompt : Prompt 300000 DeploymentLook.timeMs 0 stuckLooks := by
  decide +kernel

end SmartQso
