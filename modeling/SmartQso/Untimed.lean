/-
This file compares states up to the times they record. Erasing the times of the
system state commutes with what commands do to it, and fault logs that agree up to
times and checksums still do after the same faults are entered, at whatever times.
So a command does the same whenever it is executed.
-/

import SmartQso.CommandEffects

namespace SmartQso

open BoundedHistory

/-! ### Erasing times -/

/-- The context without the times of its transitions. -/
def SmContext.untimed (context : SmContext) : SmContext :=
  { context with lastTransitionMs := 0, stateEntryMs := 0 }

/-- The system state without the times a command may set. -/
def untimedSystem (sys : SystemState) : SystemState :=
  sys.update fun record =>
    { record with
      power := { record.power with modeEntryTimeMs := 0 }
      smContext := record.smContext.untimed
      lastUpdateMs := 0 }

section

variable [CLayout FaultRecord]

/-- A fault entry without its time, and whether its checksum is right. -/
def untimedEntry (entry : FaultLogEntry) : FaultRecord × Bool :=
  ({ entry.record with timestampMs := 0 }, entry.verifies)

/-- The same faults, logged and stored, at whatever times. -/
structure SameFaults (first second : FaultMgmt) : Prop where
  log : first.log.entries.map untimedEntry = second.log.entries.map untimedEntry
  file : first.file.map (List.map untimedEntry) = second.file.map (List.map untimedEntry)
  watchdog : first.watchdogTriggered = second.watchdogTriggered

theorem SameFaults.refl (faults : FaultMgmt) : SameFaults faults faults := ⟨rfl, rfl, rfl⟩

/-- The same system state and fault log, timestamps aside. -/
structure SameButTimes {Handler : Type} (first second : Obc Handler) : Prop where
  sys : untimedSystem first.sys = untimedSystem second.sys
  faults : SameFaults first.faults second.faults

/-! ### The fault log -/

theorem faultLogAdd_sameFaults {first second : FaultMgmt} (same : SameFaults first second)
    (faultType : FaultType) (severity : FaultSeverity) (description : String) (soc : ℚ)
    (now later : UInt64) :
    SameFaults (faultLogAdd first faultType severity description soc now)
      (faultLogAdd second faultType severity description soc later) := by
  -- The two entries differ in their times, and each carries its own checksum.
  have entry : ∀ record : FaultRecord, untimedEntry ⟨record, recordCrc record⟩ =
      ({ record with timestampMs := 0 }, true) := by
    intro record
    exact congrArg (Prod.mk _) (Sealed.updateCrc_verifies ⟨record, 0⟩)
  have log : (faultLogAdd first faultType severity description soc now).log.entries.map
        untimedEntry =
      (faultLogAdd second faultType severity description soc later).log.entries.map
        untimedEntry := by
    unfold faultLogAdd faultLogSave
    rw [FaultLog.add_entries, FaultLog.add_entries, ← newest_map, ← newest_map, List.map_append,
      List.map_append, same.log, List.map_singleton, List.map_singleton, entry, entry]
  exact ⟨log, congrArg some log, same.watchdog⟩

theorem logFailedAction_sameFaults {first second : FaultMgmt} (same : SameFaults first second)
    (answer : SmartQsoResult) (description : String) (now later : UInt64) :
    SameFaults (logFailedAction first answer description now)
      (logFailedAction second answer description later) := by
  unfold logFailedAction
  split
  · exact same
  · exact faultLogAdd_sameFaults same _ _ _ _ now later

/-! ### The state machine -/

theorem takeTransition_sameFaults (context : SmContext) (faults : FaultMgmt)
    (transition : SmTransition) (now later : UInt64) :
    SameFaults (takeTransition context faults transition now).2.1
      (takeTransition context faults transition later).2.1 := by
  refine logFailedAction_sameFaults ?_ _ _ now later
  refine faultLogAdd_sameFaults ?_ _ _ _ _ now later
  refine logFailedAction_sameFaults ?_ _ _ now later
  exact logFailedAction_sameFaults (SameFaults.refl faults) _ _ now later

/-- An event enters the same faults at any time. -/
theorem smProcessEvent_sameFaults (context : SmContext) (faults : FaultMgmt) (event : UInt32)
    (now later : UInt64) :
    SameFaults (smProcessEvent context faults event now).2.1
      (smProcessEvent context faults event later).2.1 := by
  unfold smProcessEvent
  split
  · cases SmEvent.ofValue? event with
    | none => exact SameFaults.refl faults
    | some named =>
      dsimp only
      cases findTransition context.currentState named with
      | none => exact SameFaults.refl faults
      | some transition =>
        dsimp only
        split
        · exact takeTransition_sameFaults context faults transition now later
        · exact SameFaults.refl faults
  · exact SameFaults.refl faults

/-- An event leads to the same state at any time. -/
theorem smProcessEvent_untimed (context : SmContext) (faults : FaultMgmt) (event : UInt32)
    (now : UInt64) :
    (smProcessEvent context faults event now).1.untimed =
      (smProcessEvent context.untimed faults event 0).1 := by
  have ready : context.untimed.isInitialized = context.isInitialized := rfl
  have state : context.untimed.currentState = context.currentState := rfl
  unfold smProcessEvent
  rw [ready, state]
  split
  · cases SmEvent.ofValue? event with
    | none => rfl
    | some named =>
      dsimp only
      cases findTransition context.currentState named with
      | none => rfl
      | some transition =>
        dsimp only
        split <;> rfl
  · rfl

/-! ### Effects of commands -/

omit [CLayout FaultRecord] in
theorem sysIncrementCommandCount_untimed (sys : SystemState) (now : UInt64) :
    untimedSystem (sysIncrementCommandCount sys now) =
      sysIncrementCommandCount (untimedSystem sys) 0 := rfl

/-- Erasing the times before an effect or after it is the same. -/
theorem CommandEffect.onSystem_untimed (effect : CommandEffect) (sys : SystemState)
    (faults : FaultMgmt) (now : UInt64) :
    untimedSystem (effect.onSystem sys faults now) =
      effect.onSystem (untimedSystem sys) faults 0 := by
  cases effect with
  | detumble =>
    show setSmContext (untimedSystem sys)
      (smProcessEvent sys.record.smContext faults eventBootComplete now).1.untimed = _
    rw [smProcessEvent_untimed]
    rfl
  | setBeacon intervalS =>
    unfold onSystem sysSetBeaconInterval
    dsimp only
    split <;> rfl
  | _ => rfl

/-- An effect enters the same faults at any time. -/
theorem CommandEffect.onFaults_sameFaults (effect : CommandEffect) (sys : SystemState)
    (faults : FaultMgmt) (now later : UInt64) :
    SameFaults (effect.onFaults sys faults now) (effect.onFaults sys faults later) := by
  cases effect with
  | noteReset | force state =>
    exact faultLogAdd_sameFaults (SameFaults.refl faults) _ _ _ _ now later
  | detumble =>
    exact smProcessEvent_sameFaults sys.record.smContext faults eventBootComplete now later
  | _ => exact SameFaults.refl _

end

end SmartQso
