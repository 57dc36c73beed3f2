/-
This file asks what a clean flag is worth. After a successful save a state that is
not dirty should be the one that a load restores. The accessors and the commands keep
that up, since whatever they change they mark; the state machine is changed behind
the flag's back, through the pointer to its context, and a save can lose the file
without the flag noticing.
-/

import SmartQso.CommandAuthority
import SmartQso.StateMachineHistory
import SmartQso.StatePersistence

namespace SmartQso

open Runs

/-! ### Runs of the stored state -/

/-- The on-board computer with the statics of `system_state.c` and its file, and a ghost: a save
has answered success at least once. -/
structure StoredObc (Handler : Type) where
  obc : Obc Handler
  lastUptimeUpdate : UInt64
  file : Option StateFile
  saved : Bool

/-- A call that may change the state or the file. -/
inductive StoredCall
  | access (access : SysAccess) (now : UInt64)
  | command (call : CommandCall)
  | save (io : SaveIo) (now : UInt64)
  | load (now : UInt64)

section

variable {Handler : Type} [CLayout FaultRecord] [CLayout SystemRecord]

def storedCall (invoke : Invoke Handler) (stored : StoredObc Handler) :
    StoredCall → StoredObc Handler
  | .access access now =>
    let reached := sysAccess ⟨stored.obc.sys, stored.lastUptimeUpdate, stored.obc.faults⟩
      (access, now)
    { stored with
      obc := { stored.obc with sys := reached.state, faults := reached.faults }
      lastUptimeUpdate := reached.lastUptimeUpdate }
  | .command call => { stored with obc := commandCall invoke stored.obc call }
  | .save io now =>
    let reached := sysStateSave stored.obc.sys stored.file io now
    { stored with
      obc := { stored.obc with sys := reached.1 }
      file := reached.2.1
      saved := stored.saved || decide (reached.2.2 = .ok) }
  | .load now =>
    { stored with obc := { stored.obc with sys := sysStateLoad stored.file now } }

/-- After a first successful save, a state that is not dirty is the one that a load restores. -/
def CleanRestores (stored : StoredObc Handler) : Prop :=
  stored.saved = true → sysStateIsDirty stored.obc.sys = false → ∀ now,
    systemView (sysStateLoad stored.file now) = systemView stored.obc.sys

/-- The state relies on the file: it has been saved, and it is not dirty. -/
def Clean (stored : StoredObc Handler) : Prop :=
  stored.saved = true ∧ sysStateIsDirty stored.obc.sys = false

/-- What is kept by a save differs in nothing from the defaults. -/
def AtDefaults (stored : StoredObc Handler) : Prop :=
  systemView stored.obc.sys = systemView (sysStateInit 0)

/-- A clean state meets an event only where the table has no row for it, and a forced change only
to the state it is in. -/
def LeavesStateMachine (stored : StoredObc Handler) : SysAccess → Prop
  | .processEvent event =>
    Clean stored → findTransitionByValue (sysGetOperationalState stored.obc.sys) event = none
  | .forceState newState => Clean stored → newState = sysGetOperationalState stored.obc.sys
  | _ => True

/-- A save that empties the file and leaves the state clean finds it at the defaults. -/
def KeepsFile (stored : StoredObc Handler) : SaveIo → Prop
  | .writeFails => Clean stored → AtDefaults stored
  | .closeFails => AtDefaults stored
  | .openFails => True
  | .succeeds => True

/-- The condition on a step: it changes neither the state machine nor the file behind the back of
the flag. -/
def KeepsTrack (stored : StoredObc Handler) : StoredCall → Prop
  | .access access _ => LeavesStateMachine stored access
  | .command _ => True
  | .save io _ => KeepsFile stored io
  | .load _ => True

/-- What every call preserves: the state and its state machine are initialized, and no handler is
registered. -/
structure Running (stored : StoredObc Handler) : Prop where
  initialized : stored.obc.sys.record.initialized = true
  machine : stored.obc.sys.record.smContext.isInitialized = true
  plain : NoCustomHandlers stored.obc

/-! ### Accesses -/

/-- The accesses through the pointer to the context. -/
def SysAccess.reachesMachine : SysAccess → Bool
  | .processEvent _ => true
  | .forceState _ => true
  | _ => false

omit [CLayout SystemRecord] in
/-- An access other than an event or a forced change marks the state, or leaves it as it is. -/
theorem sysAccess_marks (statics : SysStatics) {access : SysAccess}
    (other : access.reachesMachine = false) (now : UInt64) :
    sysStateIsDirty (sysAccess statics (access, now)).state = true ∨
      (sysAccess statics (access, now)).state = statics.state := by
  cases access with
  | setTemperature sensor tempC =>
    simp only [sysAccess, sysSetTemperature]
    split
    · exact Or.inr rfl
    · exact Or.inl rfl
  | setBeaconInterval intervalS =>
    simp only [sysAccess, sysSetBeaconInterval]
    split
    · exact Or.inr rfl
    · exact Or.inl rfl
  | updateUptime =>
    simp only [sysAccess, sysUpdateUptime]
    generalize (if statics.lastUptimeUpdate = 0 then now else statics.lastUptimeUpdate) = last
    split
    · exact Or.inl rfl
    · exact Or.inr rfl
  | processEvent event | forceState newState => exact absurd other Bool.false_ne_true.symm
  | _ => exact Or.inl rfl

omit [CLayout FaultRecord] [CLayout SystemRecord] in
/-- Assigning a context changes what is kept exactly when it changes the operational state. -/
theorem systemView_setSmContext_iff (sys : SystemState) (context : SmContext) :
    systemView (setSmContext sys context) = systemView sys ↔
      context.currentState = sysGetOperationalState sys := by
  constructor
  · exact fun same => congrArg SystemView.operational same
  · intro same
    show ({ systemView sys with operational := context.currentState } : SystemView) = _
    rw [same]
    rfl

omit [CLayout FaultRecord] in
/-- A load gives the same blocks at any time. -/
theorem sysStateLoad_view (file : Option StateFile) (first second : UInt64) :
    systemView (sysStateLoad file first) = systemView (sysStateLoad file second) := by
  cases file with
  | none => rfl
  | some content =>
    cases content with
    | short => rfl
    | image loaded =>
      unfold sysStateLoad acceptState
      dsimp only
      split <;> rfl

/-! ### Each call -/

variable {stored : StoredObc Handler}

omit [CLayout FaultRecord] in
/-- A call that leaves the file alone and changes the state only where it marks it. -/
theorem cleanRestores_of_marked (restores : CleanRestores stored) {sys : SystemState}
    (marked : sysStateIsDirty sys = true ∨ sys = stored.obc.sys) (cmd : CmdHandler Handler)
    (faults : FaultMgmt) (lastUptimeUpdate : UInt64) :
    CleanRestores ⟨⟨cmd, sys, faults⟩, lastUptimeUpdate, stored.file, stored.saved⟩ := by
  rcases marked with dirty | rfl
  · intro _ clean
    exact absurd (dirty.symm.trans clean) Bool.false_ne_true.symm
  · exact restores

omit [CLayout FaultRecord] in
/-- Changing the state machine keeps a clean state restorable exactly when the operational state
stays. -/
theorem cleanRestores_setSmContext_iff (restores : CleanRestores stored) (context : SmContext)
    (faults : FaultMgmt) :
    CleanRestores
        { stored with
          obc :=
            { stored.obc with sys := setSmContext stored.obc.sys context, faults := faults } } ↔
      (Clean stored → context.currentState = sysGetOperationalState stored.obc.sys) := by
  constructor
  · rintro after ⟨saved, clean⟩
    have before := restores saved clean 0
    rw [← systemView_setSmContext_iff, ← after saved clean 0, before]
  · intro stays saved clean now
    have same := (systemView_setSmContext_iff _ _).mpr (stays ⟨saved, clean⟩)
    exact (restores saved clean now).trans same.symm

theorem access_restores_iff (invoke : Invoke Handler) (running : Running stored)
    (restores : CleanRestores stored) (access : SysAccess) (now : UInt64) :
    CleanRestores (storedCall invoke stored (.access access now)) ↔
      LeavesStateMachine stored access := by
  cases access with
  | processEvent event =>
    refine (cleanRestores_setSmContext_iff restores _ _).trans ?_
    exact imp_congr_right fun _ => smProcessEvent_stays_iff running.machine _ event now
  | forceState newState => exact cleanRestores_setSmContext_iff restores _ _
  | _ =>
    exact iff_of_true (cleanRestores_of_marked restores (sysAccess_marks _ rfl now) _ _ _) trivial

/-- A command marks the state, or leaves it as it is. -/
theorem command_restores (invoke : Invoke Handler) (running : Running stored)
    (restores : CleanRestores stored) (call : CommandCall) :
    CleanRestores (storedCall invoke stored (.command call)) := by
  have executed := cmdExecute_executed invoke stored.obc call.cmd call.response call.now
    (running.plain call.cmd.cmdId)
  refine cleanRestores_of_marked restores ?_ _ _ _
  rcases executed.granted_or_refused with ⟨effect, _, _, after, _⟩ | ⟨_, _, same⟩
  · exact Or.inl (congrArg sysStateIsDirty after)
  · exact Or.inr same

/-- A save that leaves a clean state behind has written it, or the state is at the defaults. -/
theorem save_restores_iff (invoke : Invoke Handler) (running : Running stored)
    (restores : CleanRestores stored) (io : SaveIo) (now : UInt64) :
    CleanRestores (storedCall invoke stored (.save io now)) ↔ KeepsFile stored io := by
  unfold storedCall sysStateSave
  dsimp only
  rw [if_pos running.initialized]
  cases io with
  | openFails =>
    refine iff_of_true (fun saved clean => ?_) trivial
    have before : stored.saved = true := by
      rw [← saved]
      exact (Bool.or_false stored.saved).symm
    exact restores before clean
  | writeFails =>
    constructor
    · rintro after ⟨saved, clean⟩
      exact (after (Bool.or_eq_true_iff.mpr (Or.inl saved)) clean 0).symm
    · intro defaults saved clean now
      have before : stored.saved = true := by
        rw [← saved]
        exact (Bool.or_false stored.saved).symm
      exact (defaults ⟨before, clean⟩).symm
  | closeFails =>
    constructor
    · intro after
      exact (after (Bool.or_true stored.saved) rfl 0).symm
    · intro defaults _ _ now
      exact Eq.symm defaults
  | succeeds =>
    refine iff_of_true (fun _ _ now => ?_) trivial
    exact sysStateLoad_image (Sealed.updateCrc_verifies stored.obc.sys) now

theorem load_restores (invoke : Invoke Handler) (stored : StoredObc Handler) (now : UInt64) :
    CleanRestores (storedCall invoke stored (.load now)) :=
  fun _ _ later => sysStateLoad_view stored.file later now

/-- A call keeps the flag honest exactly under its condition. -/
theorem storedCall_restores_iff (invoke : Invoke Handler) (running : Running stored)
    (restores : CleanRestores stored) (call : StoredCall) :
    CleanRestores (storedCall invoke stored call) ↔ KeepsTrack stored call := by
  cases call with
  | access access now => exact access_restores_iff invoke running restores access now
  | command call => exact iff_of_true (command_restores invoke running restores call) trivial
  | save io now => exact save_restores_iff invoke running restores io now
  | load now => exact iff_of_true (load_restores invoke stored now) trivial

/-! ### What every call preserves -/

omit [CLayout SystemRecord] in
theorem sysAccess_machine (statics : SysStatics) (access : SysAccess × UInt64)
    (machine : statics.state.record.smContext.isInitialized = true) :
    (sysAccess statics access).state.record.smContext.isInitialized = true := by
  obtain ⟨access, now⟩ := access
  cases access with
  | setTemperature sensor tempC =>
    simp only [sysAccess, sysSetTemperature]
    split <;> exact machine
  | setBeaconInterval intervalS =>
    simp only [sysAccess, sysSetBeaconInterval]
    split <;> exact machine
  | updateUptime =>
    simp only [sysAccess, sysUpdateUptime]
    split <;> split <;> exact machine
  | processEvent event => exact smProcessEvent_initialized machine statics.faults event now
  | _ => exact machine

omit [CLayout SystemRecord] in
/-- An effect keeps the state and its state machine initialized. -/
theorem CommandEffect.onSystem_running (effect : CommandEffect) {sys : SystemState}
    (faults : FaultMgmt) (now : UInt64) (initialized : sys.record.initialized = true)
    (machine : sys.record.smContext.isInitialized = true) :
    (effect.onSystem sys faults now).record.initialized = true ∧
      (effect.onSystem sys faults now).record.smContext.isInitialized = true := by
  cases effect with
  | setBeacon intervalS =>
    unfold onSystem sysSetBeaconInterval
    dsimp only
    split <;> exact ⟨initialized, machine⟩
  | detumble =>
    exact ⟨initialized, smProcessEvent_initialized machine faults eventBootComplete now⟩
  | _ => exact ⟨initialized, machine⟩

omit [CLayout SystemRecord] in
theorem commandCall_running (invoke : Invoke Handler) {obc : Obc Handler}
    (plain : NoCustomHandlers obc) (call : CommandCall)
    (initialized : obc.sys.record.initialized = true)
    (machine : obc.sys.record.smContext.isInitialized = true) :
    (commandCall invoke obc call).sys.record.initialized = true ∧
      (commandCall invoke obc call).sys.record.smContext.isInitialized = true := by
  have executed := cmdExecute_executed invoke obc call.cmd call.response call.now
    (plain call.cmd.cmdId)
  rcases executed.granted_or_refused with ⟨effect, _, _, after, _⟩ | ⟨_, _, same⟩
  · rw [commandCall, after]
    exact effect.onSystem_running obc.faults call.now initialized machine
  · rw [commandCall, same]
    exact ⟨initialized, machine⟩

omit [CLayout FaultRecord] in
theorem sysStateLoad_running (file : Option StateFile) (now : UInt64) :
    (sysStateLoad file now).record.initialized = true ∧
      (sysStateLoad file now).record.smContext.isInitialized = true := by
  cases file with
  | none => exact ⟨rfl, rfl⟩
  | some content =>
    cases content with
    | short => exact ⟨rfl, rfl⟩
    | image loaded =>
      unfold sysStateLoad acceptState
      dsimp only
      split <;> exact ⟨rfl, rfl⟩

theorem storedCall_running (invoke : Invoke Handler) (running : Running stored)
    (call : StoredCall) : Running (storedCall invoke stored call) := by
  obtain ⟨initialized, machine, plain⟩ := running
  cases call with
  | access access now =>
    exact ⟨sysAccess_initialized _ _ initialized, sysAccess_machine _ _ machine, plain⟩
  | command call =>
    obtain ⟨stillInitialized, stillMachine⟩ :=
      commandCall_running invoke plain call initialized machine
    exact ⟨stillInitialized, stillMachine, commandCall_noCustomHandlers invoke plain call⟩
  | save io now =>
    unfold storedCall sysStateSave
    dsimp only
    rw [if_pos initialized]
    cases io <;> exact ⟨initialized, machine, plain⟩
  | load now =>
    obtain ⟨stillInitialized, stillMachine⟩ := sysStateLoad_running stored.file now
    exact ⟨stillInitialized, stillMachine, plain⟩

/-! ### Every run -/

/-- The on-board computer after the initializations, with whatever is in the file. -/
def StoredObc.start (faults : FaultMgmt) (lastUptimeUpdate now : UInt64)
    (file : Option StateFile) : StoredObc Handler :=
  ⟨Obc.start faults now, lastUptimeUpdate, file, false⟩

/-- In every run of accesses, events, commands, saves and loads after the initializations, a clean
state is restored by a load throughout exactly when no step changes the operational state through
the pointer, or empties the file, while the state is clean and differs from what is left. -/
theorem clean_restores_iff (invoke : Invoke Handler) (faults : FaultMgmt)
    (lastUptimeUpdate now : UInt64) (file : Option StateFile) (calls : List StoredCall) :
    Throughout (storedCall invoke) CleanRestores
        (StoredObc.start faults lastUptimeUpdate now file) calls ↔
      EachStep (storedCall invoke) KeepsTrack
        (StoredObc.start faults lastUptimeUpdate now file) calls := by
  have initial : CleanRestores (StoredObc.start faults lastUptimeUpdate now file :
        StoredObc Handler) ∧
      Running (StoredObc.start faults lastUptimeUpdate now file : StoredObc Handler) :=
    ⟨fun saved => absurd saved Bool.false_ne_true, rfl, rfl, noCustomHandlers_init _ _⟩
  have exact : ∀ (stored : StoredObc Handler) (call : StoredCall),
      CleanRestores stored ∧ Running stored →
        (CleanRestores (storedCall invoke stored call) ↔ KeepsTrack stored call) :=
    fun stored call both => storedCall_restores_iff invoke both.2 both.1 call
  exact throughout_iff_eachStep (fun stored both => both.1) exact
    (fun stored call both kept =>
      ⟨(exact stored call both).mpr kept, storedCall_running invoke both.2 call⟩)
    initial calls

end

/-- The state is saved, the boot ends, and the state still counts as clean, but a load goes back to
the boot. -/
theorem clean_state_not_restored :
    letI := CLayout.blank FaultRecord
    letI := CLayout.blank SystemRecord
    let start : StoredObc Empty := StoredObc.start FaultMgmt.boot 0 0 none
    let calls : List StoredCall := [.save .succeeds 1, .access (.processEvent eventBootComplete) 2]
    let reached := finalState (storedCall noHandler) start calls
    reached.saved = true ∧ sysStateIsDirty reached.obc.sys = false ∧
      sysGetOperationalState reached.obc.sys = .detumble ∧
      sysGetOperationalState (sysStateLoad reached.file 3) = .boot ∧
      ¬ Throughout (storedCall noHandler) CleanRestores start calls := by
  intro start calls reached
  have saved : reached.saved = true := by decide +kernel
  have clean : sysStateIsDirty reached.obc.sys = false := by decide +kernel
  have detumble : sysGetOperationalState reached.obc.sys = .detumble := by decide +kernel
  have boot : sysGetOperationalState (@sysStateLoad (CLayout.blank SystemRecord) reached.file 3) =
      .boot := by
    decide +kernel
  refine ⟨saved, clean, detumble, boot, fun restores => ?_⟩
  have same := congrArg SystemView.operational (restores.finish saved clean 3)
  exact SmState.noConfusion (boot.symm.trans (same.trans detumble))

end SmartQso
