/-
This file settles what the deployment sequencer guarantees over whole runs, with
the switches, the clocks and the ground's two operations in any order. The burn
wire follows the state, completion is honest and the separation inhibit is kept
as long as `deployment_force_retry` is used within limits that the code does not
check, and the ground inhibit holds only where no pending state is processed. Each
result names the exact step that breaks the guarantee, and each comes with a run
that takes it.
-/

import SmartQso.DeploymentSequence

namespace SmartQso

open Runs

/-! ### Runs of the sequencer -/

/-- A call made to the sequencer, with what it reads from outside. -/
inductive DeploymentCall
  | process (currentTimeMs : UInt32) (readings : Readings)
  | setEnabled (enable : Bool)
  | forceRetry (element : Option DeploymentElement) (halTimerMs : UInt64)

/-- The sequencer as `deployment_init` leaves it after a boot. -/
def deploymentStart (faults : FaultMgmt) : Deployment :=
  deploymentInit (Deployment.boot faults)

/-- The burn wire is on exactly in the two active states. -/
def WireInStep (deployment : Deployment) : Prop :=
  deployment.deployEn = true ↔
    deployment.status.record.state = .antennaActive ∨
      deployment.status.record.state = .solarActive

/-- The complete state means that both elements are marked deployed, and the states of the
second half mean that the antenna is. -/
def HonestCompletion (deployment : Deployment) : Prop :=
  (deployment.status.record.state = .complete → deploymentAllComplete deployment = true) ∧
  (deployment.status.record.state = .solarPending ∨
      deployment.status.record.state = .solarActive ∨
      deployment.status.record.state = .solarVerify →
    deployment.status.record.antenna.deployed = true)

/-- No retry is forced while an element is burning. -/
def NoRetryWhileBurning (deployment : Deployment) : DeploymentCall → Prop
  | .forceRetry (some _) _ => ¬ deployment.status.record.state.IsActive
  | _ => True

/-- The solar panel is retried only when the antenna is marked deployed. -/
def PanelRetryAfterAntenna (deployment : Deployment) : DeploymentCall → Prop
  | .forceRetry (some .solarPanel) _ => deployment.status.record.antenna.deployed = true
  | _ => True

theorem wireInStep_iff (deployment : Deployment) :
    WireInStep deployment ↔ deployment.sequencer.WireInStep := Iff.rfl

theorem honestCompletion_iff (deployment : Deployment) :
    HonestCompletion deployment ↔ deployment.sequencer.Honest := by
  unfold HonestCompletion deploymentAllComplete
  rw [Bool.and_eq_true]
  rfl

/-- Readings of a satellite that has separated and on which no element has moved. -/
def stuckReadings : Readings := ⟨true, false, false, false, 0⟩

/-- Separation at time zero, and the end of the wait. -/
def waitedOut : List DeploymentCall :=
  [.process 0 stuckReadings, .process deploymentWaitTimeMs stuckReadings]

section

variable [CLayout FaultRecord] [CLayout DeploymentRecord]

/-- The effect of a call. -/
def deploymentCall (deployment : Deployment) : DeploymentCall → Deployment
  | .process currentTimeMs readings => deploymentProcess deployment currentTimeMs readings
  | .setEnabled enable => deploymentSetEnabled deployment enable
  | .forceRetry element halTimerMs => (deploymentForceRetry deployment element halTimerMs).1

theorem processState_initialized (deployment : Deployment) (now : UInt32)
    (readings : Readings) :
    (processState deployment now readings).initialized = deployment.initialized := by
  unfold processState processPending processActive processVerify
  split <;> dsimp only <;> repeat' split
  all_goals rfl

theorem deploymentCall_initialized (deployment : Deployment) (call : DeploymentCall) :
    (deploymentCall deployment call).initialized = deployment.initialized := by
  cases call with
  | process now readings =>
    show (deploymentProcess deployment now readings).initialized = deployment.initialized
    unfold deploymentProcess
    split
    · exact processState_initialized deployment now readings
    · rfl
  | setEnabled enable => rfl
  | forceRetry element halTimerMs => cases element <;> rfl

/-! ### The burn wire follows the state -/

/-- Of all calls, only a retry forced during a burn takes the wire out of step. -/
theorem wireInStep_step (deployment : Deployment) (call : DeploymentCall)
    (initialized : deployment.initialized = true) (inStep : WireInStep deployment) :
    WireInStep (deploymentCall deployment call) ↔ NoRetryWhileBurning deployment call := by
  rw [wireInStep_iff] at *
  cases call with
  | process now readings =>
    exact iff_of_true
      ((deploymentProcess_advances deployment now readings initialized).wireInStep inStep) trivial
  | setEnabled enable => exact iff_of_true inStep trivial
  | forceRetry element halTimerMs =>
    cases element with
    | none => exact iff_of_true inStep trivial
    | some element =>
      -- The retry enters a pending state and leaves the wire as it was.
      have pending : ¬ element.pendingState.IsActive := by
        cases element <;> simp [DeploymentElement.pendingState, DeploymentState.IsActive]
      show (deploymentForceRetry deployment (some element) halTimerMs).1.sequencer.WireInStep ↔
        ¬ deployment.status.record.state.IsActive
      rw [deploymentForceRetry_sequencer]
      show (deployment.sequencer.burning = true ↔ element.pendingState.IsActive) ↔ _
      rw [iff_false_right pending]
      exact not_congr inStep

/-- In a run from `deployment_init` the burn wire is on exactly in the active states, in every
state reached, if and only if no retry of an element is forced during a burn. -/
theorem burn_wire_in_step_iff (faults : FaultMgmt) (calls : List DeploymentCall) :
    Throughout deploymentCall WireInStep (deploymentStart faults) calls ↔
      EachStep deploymentCall NoRetryWhileBurning (deploymentStart faults) calls := by
  refine throughout_iff_eachStep
    (fun deployment (kept : deployment.initialized = true ∧ WireInStep deployment) => kept.2)
    (fun deployment call kept => wireInStep_step deployment call kept.1 kept.2)
    (fun deployment call kept met =>
      ⟨(deploymentCall_initialized deployment call).trans kept.1,
        (wireInStep_step deployment call kept.1 kept.2).mpr met⟩) ?_ calls
  refine ⟨rfl, ?_⟩
  simp [WireInStep, deploymentStart, deploymentInit, Deployment.boot]

omit [CLayout FaultRecord] [CLayout DeploymentRecord] in
/-- A retry forced during the first burn: the state is pending again and the wire stays on. -/
theorem retry_leaves_wire_on :
    letI := CLayout.blank FaultRecord
    letI := CLayout.blank DeploymentRecord
    ¬ Throughout deploymentCall WireInStep (deploymentStart FaultMgmt.boot)
      (waitedOut ++
        [.process 1800100 stuckReadings, .forceRetry (some .antenna) 1800600]) := by
  intro throughout
  -- The state after the last of the four calls.
  have last := throughout.2.2.2.2
  rcases last.mp rfl with active | active
  · exact absurd active (by decide)
  · exact absurd active (by decide)

/-! ### Completion is honest -/

/-- Of all calls, only a retry of the panel before the antenna is deployed breaks the order of
the sequence. -/
theorem honestCompletion_step (deployment : Deployment) (call : DeploymentCall)
    (initialized : deployment.initialized = true) (honest : HonestCompletion deployment) :
    HonestCompletion (deploymentCall deployment call) ↔
      PanelRetryAfterAntenna deployment call := by
  rw [honestCompletion_iff] at *
  cases call with
  | process now readings =>
    exact iff_of_true
      ((deploymentProcess_advances deployment now readings initialized).honest honest) trivial
  | setEnabled enable =>
    refine iff_of_true ?_ trivial
    show (deploymentSetEnabled deployment enable).sequencer.Honest
    rw [deploymentSetEnabled_sequencer]
    exact honest
  | forceRetry element halTimerMs =>
    cases element with
    | none => exact iff_of_true honest trivial
    | some element =>
      show (deploymentForceRetry deployment (some element) halTimerMs).1.sequencer.Honest ↔ _
      rw [deploymentForceRetry_sequencer]
      cases element with
      | antenna =>
        refine iff_of_true ⟨?_, ?_⟩ trivial
        · simp [DeploymentElement.pendingState]
        · simp [DeploymentElement.pendingState, DeploymentState.IsSolar]
      | solarPanel =>
        constructor
        · rintro ⟨_, solar⟩
          have antenna := solar (Or.inl rfl)
          show deployment.sequencer.deployed .antenna = true
          simpa using antenna
        · intro antenna
          have marked : deployment.sequencer.deployed .antenna = true := antenna
          refine ⟨?_, fun _ => ?_⟩
          · simp [DeploymentElement.pendingState]
          · simpa using marked

/-- In a run from `deployment_init` completion is honest in every state reached if and only if
the solar panel is never retried by command before the antenna is marked deployed. -/
theorem completion_honest_iff (faults : FaultMgmt) (calls : List DeploymentCall) :
    Throughout deploymentCall HonestCompletion (deploymentStart faults) calls ↔
      EachStep deploymentCall PanelRetryAfterAntenna (deploymentStart faults) calls := by
  refine throughout_iff_eachStep
    (fun deployment (kept : deployment.initialized = true ∧ HonestCompletion deployment) =>
      kept.2)
    (fun deployment call kept => honestCompletion_step deployment call kept.1 kept.2)
    (fun deployment call kept met =>
      ⟨(deploymentCall_initialized deployment call).trans kept.1,
        (honestCompletion_step deployment call kept.1 kept.2).mpr met⟩) ?_ calls
  refine ⟨rfl, ?_⟩
  simp [HonestCompletion, deploymentStart, deploymentInit, Deployment.boot]

omit [CLayout FaultRecord] [CLayout DeploymentRecord] in
/-- The panel is retried by command in place of the antenna and its switch then reads deployed:
the sequence is complete with the antenna stowed. -/
theorem panel_retry_completes_without_antenna :
    letI := CLayout.blank FaultRecord
    letI := CLayout.blank DeploymentRecord
    ¬ Throughout deploymentCall HonestCompletion (deploymentStart FaultMgmt.boot)
      (waitedOut ++
        [.forceRetry (some .solarPanel) 1800100,
          .process 1800200 { stuckReadings with deployed := true }]) := by
  intro throughout
  have last := throughout.2.2.2.2
  exact absurd (last.1 rfl) (by decide)

/-! ### The ground inhibit -/

/-- The call drives the burn wire from off to on. -/
def StartsBurn (deployment : Deployment) (call : DeploymentCall) : Prop :=
  deployment.deployEn = false ∧ (deploymentCall deployment call).deployEn = true

/-- No burn is started while deployment is inhibited by the ground. -/
def InhibitRespected (deployment : Deployment) (call : DeploymentCall) : Prop :=
  StartsBurn deployment call → deployment.status.record.deploymentEnabled = true

/-- An inhibited sequencer with a cold wire is not processed in a pending state, unless the
element's switch reads deployed or its attempts are used up. -/
def NoInhibitedPending (deployment : Deployment) : DeploymentCall → Prop
  | .process _ readings =>
    deployment.deployEn = false → deployment.status.record.deploymentEnabled = false →
      ∀ element : DeploymentElement, deployment.status.record.state = element.pendingState →
        readings.deployed = true ∨
          ¬ (deployment.status.record.element element).attemptCount < deploymentMaxRetries
  | _ => True

theorem inhibitRespected_step (deployment : Deployment) (call : DeploymentCall)
    (initialized : deployment.initialized = true) :
    InhibitRespected deployment call ↔ NoInhibitedPending deployment call := by
  cases call with
  | process now readings =>
    have advance := deploymentProcess_advances deployment now readings initialized
    constructor
    · intro respected cold inhibited element pending
      by_contra missed
      obtain ⟨missing, left⟩ := not_or.mp missed
      have hot : (deploymentProcess deployment now readings).deployEn = true :=
        advance.heated_of_pending element pending (Bool.eq_false_iff.mpr missing)
          (not_not.mp left)
      exact absurd (inhibited.symm.trans (respected ⟨cold, hot⟩)) Bool.false_ne_true
    · rintro guarded ⟨cold, hot⟩
      obtain ⟨element, pending, missing, left⟩ := advance.burnStart_of_heated cold hot
      by_contra disabled
      rcases guarded cold (Bool.eq_false_iff.mpr disabled) element pending with found | spent
      · exact absurd (missing.symm.trans found) Bool.false_ne_true
      · exact spent left
  | setEnabled enable =>
    exact iff_of_true (fun starts => absurd (starts.1.symm.trans starts.2) Bool.false_ne_true)
      trivial
  | forceRetry element halTimerMs =>
    refine iff_of_true (fun starts => ?_) trivial
    have unchanged : (deploymentCall deployment (.forceRetry element halTimerMs)).deployEn =
        deployment.deployEn := by
      cases element <;> rfl
    exact absurd (starts.1.symm.trans (unchanged.symm.trans starts.2)) Bool.false_ne_true

/-- In a run from `deployment_init` no call starts a burn under the ground inhibit if and only
if no call processes a pending state under the inhibit with a cold wire, the element's switch
not reading deployed and attempts left. -/
theorem ground_inhibit_respected_iff (faults : FaultMgmt) (calls : List DeploymentCall) :
    EachStep deploymentCall InhibitRespected (deploymentStart faults) calls ↔
      EachStep deploymentCall NoInhibitedPending (deploymentStart faults) calls := by
  refine eachStep_iff_of_invariant
    (fun deployment call (initialized : deployment.initialized = true) _ =>
      (deploymentCall_initialized deployment call).trans initialized)
    (fun deployment call initialized => inhibitRespected_step deployment call initialized)
    rfl calls

omit [CLayout FaultRecord] [CLayout DeploymentRecord] in
/-- The ground raises the inhibit while the antenna is pending: the next call burns all the
same. -/
theorem burn_starts_under_inhibit :
    letI := CLayout.blank FaultRecord
    letI := CLayout.blank DeploymentRecord
    ¬ EachStep deploymentCall InhibitRespected (deploymentStart FaultMgmt.boot)
      (waitedOut ++ [.setEnabled false, .process 1800200 stuckReadings]) := by
  intro steps
  have respected := steps.2.2.2.1
  exact absurd (respected ⟨rfl, rfl⟩) (by decide)

/-! ### The separation inhibit -/

/-- The sequencer together with the time of the latest `deployment_process` call. -/
structure Timeline where
  deployment : Deployment
  lastProcessMs : UInt32

/-- The effect of a call on the timeline. -/
def timelineCall (timeline : Timeline) (call : DeploymentCall) : Timeline where
  deployment := deploymentCall timeline.deployment call
  lastProcessMs :=
    match call with
    | .process currentTimeMs _ => currentTimeMs
    | _ => timeline.lastProcessMs

/-- The times passed to `deployment_process` do not go back. -/
def Nondecreasing (timeline : Timeline) : DeploymentCall → Prop
  | .process currentTimeMs _ => timeline.lastProcessMs ≤ currentTimeMs
  | _ => True

/-- An element is retried by command only after the wait: not before separation, and not in the
waiting state before `DEPLOYMENT_WAIT_TIME_MS` have passed. -/
def RetryAfterWait (timeline : Timeline) : DeploymentCall → Prop
  | .forceRetry (some _) _ =>
    let record := timeline.deployment.status.record
    record.state ≠ .inhibited ∧
      (record.state = .waiting →
        record.separationTimeMs.toNat + deploymentWaitTimeMs.toNat ≤
          timeline.lastProcessMs.toNat)
  | _ => True

/-- While the burn wire is on, separation has been detected and the wait after it is over. -/
def WaitKept (timeline : Timeline) : Prop :=
  timeline.deployment.deployEn = true →
    timeline.deployment.status.record.separationDetected = true ∧
      timeline.deployment.status.record.separationTimeMs.toNat + deploymentWaitTimeMs.toNat ≤
        timeline.lastProcessMs.toNat

theorem waiting_step (timeline : Timeline) (call : DeploymentCall)
    (waiting : timeline.deployment.initialized = true ∧
      timeline.deployment.sequencer.Waiting timeline.lastProcessMs)
    (met : Nondecreasing timeline call ∧ RetryAfterWait timeline call) :
    (timelineCall timeline call).deployment.initialized = true ∧
      (timelineCall timeline call).deployment.sequencer.Waiting
        (timelineCall timeline call).lastProcessMs := by
  obtain ⟨initialized, waiting⟩ := waiting
  obtain ⟨forward, afterWait⟩ := met
  refine ⟨(deploymentCall_initialized timeline.deployment call).trans initialized, ?_⟩
  cases call with
  | process now readings =>
    exact (deploymentProcess_advances timeline.deployment now readings initialized).waiting
      (waiting.later forward)
  | setEnabled enable =>
    exact ⟨waiting.valid, waiting.cold, waiting.measured, waiting.elapsed⟩
  | forceRetry element halTimerMs =>
    cases element with
    | none => exact waiting
    | some element =>
      have waited : timeline.deployment.sequencer.WaitedBy timeline.lastProcessMs := by
        by_cases before : timeline.deployment.sequencer.state.BeforeWait
        · rcases before with inhibited | inWait
          · exact absurd inhibited afterWait.1
          · exact ⟨(waiting.measured inWait).1, afterWait.2 inWait⟩
        · exact waiting.elapsed before
      show (deploymentForceRetry timeline.deployment (some element) halTimerMs).1.sequencer.Waiting
        timeline.lastProcessMs
      rw [deploymentForceRetry_sequencer]
      exact .of_waitedBy waited (Sequencer.ne_count_element element).1
        (Sequencer.not_beforeWait_element element).1

/-- In a run from `deployment_init` with nondecreasing times, in which elements are retried by
command only after the wait, the burn wire is never on before separation has been detected and
`DEPLOYMENT_WAIT_TIME_MS` have passed since. -/
theorem separation_inhibit_kept (faults : FaultMgmt) (calls : List DeploymentCall)
    (forward : EachStep timelineCall Nondecreasing ⟨deploymentStart faults, 0⟩ calls)
    (afterWait : EachStep timelineCall RetryAfterWait ⟨deploymentStart faults, 0⟩ calls) :
    Throughout timelineCall WaitKept ⟨deploymentStart faults, 0⟩ calls := by
  have throughout := throughout_of_invariant waiting_step ?_ (forward.and afterWait)
  · refine throughout.mono fun timeline kept hot => ?_
    by_cases before : timeline.deployment.sequencer.state.BeforeWait
    · exact absurd ((kept.2.cold before).symm.trans hot) Bool.false_ne_true
    · exact kept.2.elapsed before
  · refine ⟨rfl, ?_, fun _ => rfl, fun here => ?_, fun past => ?_⟩
    · simp [deploymentStart, deploymentInit, Deployment.boot, Deployment.sequencer]
    · simp [deploymentStart, deploymentInit, Deployment.boot, Deployment.sequencer] at here
    · exact absurd (Or.inl rfl) past

omit [CLayout FaultRecord] [CLayout DeploymentRecord] in
/-- The normal sequence up to the first burn, with a retry commanded once the wait is over. -/
theorem separation_inhibit_kept_first_burn :
    letI := CLayout.blank FaultRecord
    letI := CLayout.blank DeploymentRecord
    Throughout timelineCall WaitKept ⟨deploymentStart FaultMgmt.boot, 0⟩
      (waitedOut ++
        [.forceRetry (some .antenna) 1800100, .process 1800200 stuckReadings]) := by
  let _ := CLayout.blank FaultRecord
  let _ := CLayout.blank DeploymentRecord
  refine separation_inhibit_kept FaultMgmt.boot _ ?_ ?_
  · have first : (0 : UInt32) ≤ deploymentWaitTimeMs := by decide
    have last : deploymentWaitTimeMs ≤ 1800200 := by decide
    exact ⟨UInt32.le_refl 0, first, trivial, last, trivial⟩
  · exact ⟨trivial, trivial, ⟨by decide, fun here => absurd here (by decide)⟩, trivial, trivial⟩

omit [CLayout FaultRecord] [CLayout DeploymentRecord] in
/-- The antenna is retried by command before separation: the next call burns it on the
launcher. -/
theorem retry_burns_before_separation :
    letI := CLayout.blank FaultRecord
    letI := CLayout.blank DeploymentRecord
    let calls : List DeploymentCall :=
      [.forceRetry (some .antenna) 0, .process 0 { stuckReadings with separation := false }]
    EachStep timelineCall Nondecreasing ⟨deploymentStart FaultMgmt.boot, 0⟩ calls ∧
      ¬ Throughout timelineCall WaitKept ⟨deploymentStart FaultMgmt.boot, 0⟩ calls := by
  intro calls
  refine ⟨⟨trivial, UInt32.le_refl 0, trivial⟩, fun throughout => ?_⟩
  have last := throughout.2.2
  exact absurd (last rfl).1 (by decide)

end

end SmartQso
