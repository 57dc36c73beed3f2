/-
This file settles what the state of the payload supervisor tells about the reasons for
it. Commands, the loss of the link and the thermal check all assign the one state, each
for a reason of its own. A supervisor that is shut down stays so, and one that throttles
keeps throttling as long as there is a reason, exactly in the runs in which no handler
overrides the others.
-/

import SmartQso.PayloadSupervisor
import SmartQso.Runs

namespace SmartQso.Payload

open Runs

/-! ### Shutdown -/

/-- What can happen while a supervisor shuts down and afterwards. -/
inductive SupervisorEvent
  | command (data : HealthData)
  | disconnect
  | thermalCheck (temp : ℚ)
  | stopReturns

def supervisorEvent (shared : Shared) : SupervisorEvent → Shared
  | .command data => handleHealthCommand shared data
  | .disconnect => handleObcDisconnect shared
  | .thermalCheck temp => checkThermal shared temp
  | .stopReturns => stopEnds shared

/-- The supervisor is neither running nor throttling. -/
def Down (shared : Shared) : Prop := shared.state ≠ .running ∧ shared.state ≠ .throttling

/-- A command that stores a power state which a supervisor takes up whatever its state is. -/
def HealthData.Activates (data : HealthData) : Prop :=
  (data.command = .heartbeat ∨ data.command = .powerState) ∧
    (PowerState.ofValue data.powerState = some .safe ∨
      PowerState.ofValue data.powerState = some .active)

/-- The event is not one of those that assign the state without a look at it. -/
def LeavesDown (shared : Shared) : SupervisorEvent → Prop
  | .command data => ¬ data.Activates
  | .disconnect => False
  | .thermalCheck temp =>
    temp < shared.config.thermalThrottleTempC ∨ shared.config.thermalShutdownTempC ≤ temp
  | .stopReturns => True

theorem receivePowerState_down_iff {shared : Shared} (down : Down shared) (value : Int) :
    Down (receivePowerState shared value) ↔
      ¬ (PowerState.ofValue value = some .safe ∨ PowerState.ofValue value = some .active) := by
  unfold receivePowerState handlePowerStateChange
  cases stored : PowerState.ofValue value with
  | none => exact iff_of_true down (by simp)
  | some power =>
    cases power with
    | safe => simp [Down]
    | idle =>
      simp only [if_neg down.2]
      exact iff_of_true down (by simp)
    | active => simp [Down]

theorem handleHealthCommand_down_iff {shared : Shared} (down : Down shared) (data : HealthData) :
    Down (handleHealthCommand shared data) ↔ ¬ data.Activates := by
  have stores := receivePowerState_down_iff down data.powerState
  unfold handleHealthCommand HealthData.Activates
  cases data.command with
  | heartbeat => simpa using stores
  | statusRequest => exact iff_of_true down (by simp)
  | shutdown => exact iff_of_true (by simp [Down, stopBegins]) (by simp)
  | restart => exact iff_of_true down (by simp)
  | powerState => simpa using stores
  | configUpdate =>
    refine iff_of_true ?_ (by simp)
    unfold handleConfigUpdate
    cases data.data with
    | none => exact down
    | some update => exact down

theorem checkThermal_down_iff {shared : Shared} (down : Down shared) (temp : ℚ) :
    Down (checkThermal shared temp) ↔
      temp < shared.config.thermalThrottleTempC ∨ shared.config.thermalShutdownTempC ≤ temp := by
  unfold checkThermal
  by_cases shutdown : temp ≥ shared.config.thermalShutdownTempC
  · rw [if_pos shutdown]
    exact iff_of_true (by simp [Down, stopBegins]) (Or.inr shutdown)
  · rw [if_neg shutdown]
    by_cases hot : temp ≥ shared.config.thermalThrottleTempC
    · rw [if_pos hot, if_pos down.2]
      refine iff_of_false (fun kept => kept.2 rfl) ?_
      rintro (cool | tooHot)
      · exact absurd hot (not_le.mpr cool)
      · exact shutdown tooHot
    · rw [if_neg hot, if_neg down.2]
      exact iff_of_true down (Or.inl (not_le.mp hot))

/-- An event leaves the supervisor down exactly when it does not assign the state blindly. -/
theorem supervisorEvent_down_iff (shared : Shared) (event : SupervisorEvent)
    (down : Down shared) : Down (supervisorEvent shared event) ↔ LeavesDown shared event := by
  cases event with
  | command data => exact handleHealthCommand_down_iff down data
  | disconnect => exact iff_of_false (fun kept => kept.2 rfl) id
  | thermalCheck temp => exact checkThermal_down_iff down temp
  | stopReturns => exact iff_of_true (by simp [Down, supervisorEvent, stopEnds]) trivial

/-- After `stop` has begun, a supervisor stays down through any events exactly when none of them
is a lost link, a power state SAFE or ACTIVE, or a check at a temperature for throttling. -/
theorem shutDown_stays_down_iff (shared : Shared) (events : List SupervisorEvent) :
    Throughout supervisorEvent Down (stopBegins shared) events ↔
      EachStep supervisorEvent LeavesDown (stopBegins shared) events :=
  throughout_iff_eachStep (fun _ down => down) supervisorEvent_down_iff
    (fun reached event down met => (supervisorEvent_down_iff reached event down).mpr met)
    ⟨by simp [stopBegins], by simp [stopBegins]⟩ events

/-- A heartbeat in the active mode that arrives while a supervisor stops makes it run again. -/
theorem shutDown_revived :
    ¬ ∀ (shared : Shared) (events : List SupervisorEvent),
      Throughout supervisorEvent Down (stopBegins shared) events := by
  intro claimed
  have kept := claimed (start (Shared.new SupervisorConfig.default))
    [.command ⟨.heartbeat, 2, none⟩, .stopReturns]
  exact kept.2.1.1 rfl

/-! ### Throttling -/

/-- What can happen to a started supervisor that is not told to stop. -/
inductive ThrottleEvent
  | heartbeat (powerState : Int)
  | powerState (powerState : Int)
  | disconnect
  | thermalCheck (temp : ℚ)

def ThrottleEvent.toSupervisorEvent : ThrottleEvent → SupervisorEvent
  | .heartbeat value => .command ⟨.heartbeat, value, none⟩
  | .powerState value => .command ⟨.powerState, value, none⟩
  | .disconnect => .disconnect
  | .thermalCheck temp => .thermalCheck temp

/-- A supervisor, and whether the last thermal check found it hot. -/
structure Watched where
  shared : Shared
  hot : Bool

def throttleEvent (watched : Watched) (event : ThrottleEvent) : Watched where
  shared := supervisorEvent watched.shared event.toSupervisorEvent
  hot :=
    match event with
    | .thermalCheck temp => decide (temp ≥ watched.shared.config.thermalThrottleTempC)
    | _ => watched.hot

/-- The supervisor does not run while the power state is SAFE or it was found hot. -/
def Throttles (watched : Watched) : Prop :=
  (watched.shared.powerState = .safe → watched.shared.state ≠ .running) ∧
    (watched.hot = true → watched.shared.state ≠ .running)

/-- A stored power state does not end the throttling of a hot supervisor. -/
def KeepsHeat (watched : Watched) (value : Int) : Prop :=
  watched.hot = true → PowerState.ofValue value ≠ some .active ∧
    (PowerState.ofValue value = some .idle → watched.shared.state ≠ .throttling)

/-- The event does not lift the throttling for one reason while the other remains. -/
def LiftsNothing (watched : Watched) : ThrottleEvent → Prop
  | .heartbeat value => KeepsHeat watched value
  | .powerState value => KeepsHeat watched value
  | .disconnect => True
  | .thermalCheck temp =>
    temp < watched.shared.config.thermalThrottleTempC →
      temp < watched.shared.config.thermalShutdownTempC →
        watched.shared.powerState = .safe → watched.shared.state ≠ .throttling

theorem receivePowerState_throttles_iff {watched : Watched} (throttles : Throttles watched)
    (value : Int) :
    Throttles ⟨receivePowerState watched.shared value, watched.hot⟩ ↔ KeepsHeat watched value := by
  unfold receivePowerState handlePowerStateChange KeepsHeat
  cases stored : PowerState.ofValue value with
  | none => exact iff_of_true throttles (fun _ => by simp)
  | some power =>
    cases power with
    | safe => exact iff_of_true (by simp [Throttles]) (fun _ => by simp)
    | idle =>
      by_cases throttling : watched.shared.state = .throttling
      · simp [Throttles, throttling]
      · have kept := throttles.2
        simpa [Throttles, throttling] using kept
    | active => simp [Throttles]

theorem checkThermal_throttles_iff {watched : Watched} (throttles : Throttles watched)
    (temp : ℚ) :
    Throttles ⟨checkThermal watched.shared temp,
        decide (temp ≥ watched.shared.config.thermalThrottleTempC)⟩ ↔
      LiftsNothing watched (.thermalCheck temp) := by
  unfold checkThermal LiftsNothing
  by_cases shutdown : temp ≥ watched.shared.config.thermalShutdownTempC
  · rw [if_pos shutdown]
    exact iff_of_true (by simp [Throttles, stopBegins])
      (fun _ under => absurd shutdown (not_le.mpr under))
  · rw [if_neg shutdown]
    by_cases hot : temp ≥ watched.shared.config.thermalThrottleTempC
    · rw [if_pos hot]
      refine iff_of_true ?_ (fun cool => absurd hot (not_le.mpr cool))
      by_cases throttling : watched.shared.state = .throttling
      · simp [Throttles, throttling]
      · simp [Throttles, throttling]
    · rw [if_neg hot]
      have cool := not_le.mp hot
      have under := not_le.mp shutdown
      by_cases throttling : watched.shared.state = .throttling
      · simp [Throttles, throttling, cool, under]
      · have kept := throttles.1
        simpa [Throttles, throttling, cool, under] using kept

/-- An event keeps the supervisor throttling for every remaining reason exactly when it lifts
nothing that another reason asks for. -/
theorem throttleEvent_throttles_iff (watched : Watched) (event : ThrottleEvent)
    (throttles : Throttles watched) :
    Throttles (throttleEvent watched event) ↔ LiftsNothing watched event := by
  cases event with
  | heartbeat value => exact receivePowerState_throttles_iff throttles value
  | powerState value => exact receivePowerState_throttles_iff throttles value
  | disconnect =>
    exact iff_of_true
      (by simp [Throttles, throttleEvent, ThrottleEvent.toSupervisorEvent, supervisorEvent,
        handleObcDisconnect]) trivial
  | thermalCheck temp => exact checkThermal_throttles_iff throttles temp

/-- Along every run of a started supervisor, no throttling is lifted while the power state is SAFE
or the last check found it hot, exactly when no command ends the throttling of a hot supervisor
and no cool check ends that of one in the state SAFE. -/
theorem throttling_kept_iff (config : SupervisorConfig) (events : List ThrottleEvent) :
    Throughout throttleEvent Throttles ⟨start (Shared.new config), false⟩ events ↔
      EachStep throttleEvent LiftsNothing ⟨start (Shared.new config), false⟩ events :=
  throughout_iff_eachStep (fun _ throttles => throttles) throttleEvent_throttles_iff
    (fun reached event throttles met =>
      (throttleEvent_throttles_iff reached event throttles).mpr met)
    ⟨(fun safe => by cases safe), (fun hot => by cases hot)⟩ events

/-- The next thermal check at 40 degrees makes a supervisor run again that throttles because the
power state is SAFE. -/
theorem throttling_lifted :
    ¬ ∀ (config : SupervisorConfig) (events : List ThrottleEvent),
      Throughout throttleEvent Throttles ⟨start (Shared.new config), false⟩ events := by
  intro claimed
  have kept := claimed SupervisorConfig.default [.powerState 0, .thermalCheck 40]
  refine kept.2.2.1 rfl ?_
  decide +kernel

end SmartQso.Payload
