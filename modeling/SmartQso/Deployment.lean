/-
This file models `deployment.c`, the sequencer that waits out the separation
inhibit and then burns the antenna and the solar panel free. What the outside
answers during a call -- the separation switch, the deployment switches, the
clocks -- is an input of the call. The simulation build answers the switches from
a counter and from `deploy_attempted`, the flight build from the pins, and both
are covered because the answers are arbitrary. `hal_gpio_set` on the burn wire
succeeds. The debug log is not modelled.
-/

import SmartQso.FaultMgmt

namespace SmartQso

/-! ### Constants and types of `deployment.h` -/

/-- `DEPLOYMENT_WAIT_TIME_MS`, thirty minutes. -/
def deploymentWaitTimeMs : UInt32 := 30 * 60 * 1000

/-- `DEPLOYMENT_MAX_RETRIES`. -/
def deploymentMaxRetries : UInt8 := 3

/-- `DEPLOYMENT_RETRY_DELAY_MS`. -/
def deploymentRetryDelayMs : UInt32 := 60000

/-- `DEPLOYMENT_VERIFY_TIMEOUT_MS`. -/
def deploymentVerifyTimeoutMs : UInt32 := 10000

/-- `DeploymentState_t`; `count` stands for every value that names no state. -/
inductive DeploymentState
  | inhibited
  | waiting
  | antennaPending
  | antennaActive
  | antennaVerify
  | solarPending
  | solarActive
  | solarVerify
  | complete
  | failed
  | count
  deriving DecidableEq

/-- `DeploymentElement_t`, without its count. -/
inductive DeploymentElement
  | antenna
  | solarPanel
  deriving DecidableEq

/-- `DeploymentElementStatus_t`. -/
structure DeploymentElementStatus where
  deployed : Bool
  deployAttempted : Bool
  attemptCount : UInt8
  deployTimeMs : UInt32
  switchState : Bool
  deriving DecidableEq

/-- `DeploymentStatus_t` without its checksum. -/
structure DeploymentRecord where
  state : DeploymentState
  separationTimeMs : UInt32
  stateEntryTimeMs : UInt32
  deployStartTimeMs : UInt32
  antenna : DeploymentElementStatus
  solarPanel : DeploymentElementStatus
  separationDetected : Bool
  deploymentEnabled : Bool
  deriving DecidableEq

/-- The statics of `deployment.c`, the level of `GPIO_PIN_DEPLOY_EN`, and the fault log. -/
structure Deployment where
  status : Sealed DeploymentRecord
  initialized : Bool
  deployEn : Bool
  faults : FaultMgmt

/-- What the outside answers during one call of `deployment_process`: `check_deployment_switch`,
the `check_element_deployed` made by the state at hand, the two made for telemetry at the end,
and the clock that stamps fault entries. -/
structure Readings where
  separation : Bool
  deployed : Bool
  antennaAfter : Bool
  solarAfter : Bool
  wallClockMs : UInt64

/-! ### The states each element passes through -/

namespace DeploymentElement

/-- Ready to burn this element. -/
def pendingState : DeploymentElement → DeploymentState
  | antenna => .antennaPending
  | solarPanel => .solarPending

/-- Burning this element. -/
def activeState : DeploymentElement → DeploymentState
  | antenna => .antennaActive
  | solarPanel => .solarActive

/-- Waiting for this element's switch after a burn. -/
def verifyState : DeploymentElement → DeploymentState
  | antenna => .antennaVerify
  | solarPanel => .solarVerify

/-- Where the sequence goes once this element is deployed. -/
def doneState : DeploymentElement → DeploymentState
  | antenna => .solarPending
  | solarPanel => .complete

/-- `ANTENNA_DEPLOY_BURN_TIME_MS` and `SOLAR_DEPLOY_BURN_TIME_MS`. -/
def burnTimeMs : DeploymentElement → UInt32
  | antenna => 3000
  | solarPanel => 5000

/-- The fault entered when the attempts of this element are used up. -/
def failedFault : DeploymentElement → String
  | antenna => "Antenna deployment failed"
  | solarPanel => "Solar panel deployment failed"

end DeploymentElement

/-- The states in which the burn wire is meant to be on. -/
def DeploymentState.IsActive (state : DeploymentState) : Prop :=
  state = .antennaActive ∨ state = .solarActive

/-- The states before the wait after separation is over. -/
def DeploymentState.BeforeWait (state : DeploymentState) : Prop :=
  state = .inhibited ∨ state = .waiting

/-- The states of the second half of the sequence, before it is complete. -/
def DeploymentState.IsSolar (state : DeploymentState) : Prop :=
  state = .solarPending ∨ state = .solarActive ∨ state = .solarVerify

/-- `s_deploy_status.elements[element]`. -/
def DeploymentRecord.element (record : DeploymentRecord) :
    DeploymentElement → DeploymentElementStatus
  | .antenna => record.antenna
  | .solarPanel => record.solarPanel

/-- Assign to members of `s_deploy_status.elements[element]`. -/
def DeploymentRecord.updateElement (record : DeploymentRecord) (element : DeploymentElement)
    (change : DeploymentElementStatus → DeploymentElementStatus) : DeploymentRecord :=
  match element with
  | .antenna => { record with antenna := change record.antenna }
  | .solarPanel => { record with solarPanel := change record.solarPanel }

/-! ### The operations -/

/-- Change members of the status; the checksum keeps its value. -/
def Deployment.updateStatus (deployment : Deployment)
    (change : DeploymentRecord → DeploymentRecord) : Deployment :=
  { deployment with status.record := change deployment.status.record }

/-- `enter_state`. -/
def enterState (deployment : Deployment) (newState : DeploymentState)
    (currentTimeMs : UInt32) : Deployment :=
  deployment.updateStatus fun record =>
    { record with state := newState, stateEntryTimeMs := currentTimeMs }

/-- `actuate_deployment`: one wire burns both elements. -/
def actuateDeployment (deployment : Deployment) (activate : Bool) : Deployment :=
  { deployment with deployEn := activate }

/-- The statics before `deployment_init` has run. -/
def Deployment.boot (faults : FaultMgmt) : Deployment where
  status.record :=
    { state := .inhibited
      separationTimeMs := 0
      stateEntryTimeMs := 0
      deployStartTimeMs := 0
      antenna := ⟨false, false, 0, 0, false⟩
      solarPanel := ⟨false, false, 0, 0, false⟩
      separationDetected := false
      deploymentEnabled := false }
  status.crc32 := 0
  initialized := false
  deployEn := false
  faults := faults

/-- `deployment_init`. `deployment_load_state` never finds a saved state. -/
def deploymentInit (deployment : Deployment) : Deployment :=
  if deployment.initialized then deployment
  else
    { Deployment.boot deployment.faults with
      status.record.deploymentEnabled := true
      initialized := true }

/-- Mark an element deployed and move on, as the pending and the verify states both do. -/
def confirmElement (deployment : Deployment) (element : DeploymentElement)
    (currentTimeMs : UInt32) : Deployment :=
  let marked := deployment.updateStatus fun record =>
    record.updateElement element fun status =>
      { status with deployed := true, deployTimeMs := currentTimeMs }
  enterState marked element.doneState currentTimeMs

/-- Start a burn and count the attempt. -/
def startBurn (deployment : Deployment) (element : DeploymentElement)
    (currentTimeMs : UInt32) : Deployment :=
  let burning := actuateDeployment deployment true
  let counted := burning.updateStatus fun record =>
    { record.updateElement element fun status =>
        { status with deployAttempted := true, attemptCount := status.attemptCount + 1 } with
      deployStartTimeMs := currentTimeMs }
  enterState counted element.activeState currentTimeMs

/-- The active branch of `deployment_process`. -/
def processActive (deployment : Deployment) (element : DeploymentElement)
    (currentTimeMs timeInState : UInt32) : Deployment :=
  if timeInState ≥ element.burnTimeMs then
    enterState (actuateDeployment deployment false) element.verifyState currentTimeMs
  else deployment

/-- The verify branch of `deployment_process`. -/
def processVerify (deployment : Deployment) (element : DeploymentElement)
    (currentTimeMs timeInState : UInt32) (readings : Readings) : Deployment :=
  if readings.deployed then confirmElement deployment element currentTimeMs
  else if timeInState ≥ deploymentVerifyTimeoutMs then
    if timeInState ≥ deploymentRetryDelayMs then
      enterState deployment element.pendingState currentTimeMs
    else deployment
  else deployment

section

variable [CLayout FaultRecord] [CLayout DeploymentRecord]

/-- `deployment_save_state`. -/
def deploymentSaveState (deployment : Deployment) : Deployment :=
  { deployment with status := deployment.status.updateCrc }

/-- The pending branch of `deployment_process`. -/
def processPending (deployment : Deployment) (element : DeploymentElement)
    (currentTimeMs : UInt32) (readings : Readings) : Deployment :=
  if readings.deployed then confirmElement deployment element currentTimeMs
  else if (deployment.status.record.element element).attemptCount < deploymentMaxRetries then
    startBurn deployment element currentTimeMs
  else
    let logged := { deployment with
      faults := faultLogAdd deployment.faults .deployment .error element.failedFault 0
        readings.wallClockMs }
    enterState logged .failed currentTimeMs

/-- The `switch` of `deployment_process`. -/
def processState (deployment : Deployment) (currentTimeMs : UInt32) (readings : Readings) :
    Deployment :=
  -- Unsigned subtraction: the time in the state is taken modulo 2^32.
  let timeInState := currentTimeMs - deployment.status.record.stateEntryTimeMs
  match deployment.status.record.state with
  | .inhibited =>
    if readings.separation then
      let separated := deployment.updateStatus fun record =>
        { record with separationDetected := true, separationTimeMs := currentTimeMs }
      enterState separated .waiting currentTimeMs
    else deployment
  | .waiting =>
    if timeInState ≥ deploymentWaitTimeMs then
      if deployment.status.record.deploymentEnabled then
        enterState deployment .antennaPending currentTimeMs
      else deployment
    else deployment
  | .antennaPending => processPending deployment .antenna currentTimeMs readings
  | .antennaActive => processActive deployment .antenna currentTimeMs timeInState
  | .antennaVerify => processVerify deployment .antenna currentTimeMs timeInState readings
  | .solarPending => processPending deployment .solarPanel currentTimeMs readings
  | .solarActive => processActive deployment .solarPanel currentTimeMs timeInState
  | .solarVerify => processVerify deployment .solarPanel currentTimeMs timeInState readings
  | .complete => deploymentSaveState deployment
  | .failed => deployment
  | .count =>
    let reset := enterState deployment .inhibited currentTimeMs
    { reset with
      faults := faultLogAdd reset.faults .swInternal .error "Invalid deployment state" 0
        readings.wallClockMs }

/-- The switch states refreshed for telemetry at the end of `deployment_process`. -/
def updateSwitchStates (deployment : Deployment) (readings : Readings) : Deployment :=
  deployment.updateStatus fun record =>
    { record with
      antenna.switchState := readings.antennaAfter
      solarPanel.switchState := readings.solarAfter }

/-- `deployment_process`. -/
def deploymentProcess (deployment : Deployment) (currentTimeMs : UInt32) (readings : Readings) :
    Deployment :=
  if deployment.initialized then
    updateSwitchStates (processState deployment currentTimeMs readings) readings
  else deployment

end

/-- `deployment_set_enabled`. -/
def deploymentSetEnabled (deployment : Deployment) (enable : Bool) : Deployment :=
  deployment.updateStatus fun record => { record with deploymentEnabled := enable }

/-- `deployment_force_retry`, with its answer. `none` stands for a value at or above
`DEPLOY_ELEMENT_COUNT`. -/
def deploymentForceRetry (deployment : Deployment) (element : Option DeploymentElement)
    (halTimerMs : UInt64) : Deployment × Bool :=
  match element with
  | none => (deployment, false)
  | some element =>
    let cleared := deployment.updateStatus fun record =>
      record.updateElement element fun status =>
        { status with attemptCount := 0, deployed := false }
    (enterState cleared element.pendingState halTimerMs.toUInt32, true)

/-- `deployment_all_complete`. -/
def deploymentAllComplete (deployment : Deployment) : Bool :=
  deployment.status.record.antenna.deployed && deployment.status.record.solarPanel.deployed

end SmartQso
