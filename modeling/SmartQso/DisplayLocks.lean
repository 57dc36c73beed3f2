/-
This file settles when the callbacks of `telemetry_display.py` may use the display. Every
method takes `_lock`, which its thread cannot take twice. `update` calls the update
callback without the lock, but `_check_limits` calls the alarm callback with it. So an
update returns exactly when it raises no alarm or the alarm callback leaves the display
alone.
-/

import SmartQso.NonReentrantLock
import SmartQso.TelemetryDisplay

namespace SmartQso.GroundDisplay

open NonReentrantLock Runs

variable {V T : Type}

/-! ### Methods under the lock -/

/-- A method that reads the display under the lock. -/
def lockedRead {Result : Type} (read : TelemetryDisplay V T → Result) :
    Call (TelemetryDisplay V T) Result :=
  withLock do
    let display ← getState
    pure (read display)

/-- `acknowledge_alarm`. -/
def lockedAcknowledge (parameter : String) : Call (TelemetryDisplay V T) Bool :=
  withLock do
    let display ← getState
    modifyState fun _ => (display.acknowledgeAlarm parameter).1
    pure (display.acknowledgeAlarm parameter).2

/-- The methods that a callback may call. -/
inductive Query (T : Type)
  | getValue (name : String)
  | getPoint (name : String)
  | getAllValues
  | getHistory (name : String) (count : Option Int)
  | getAlarms (activeOnly : Bool)
  | acknowledgeAlarm (parameter : String)
  | getStatistics (now : T)

section

variable [Sub T]

/-- Call a method for what it does to the display and its lock. -/
def callQuery : Query T → Call (TelemetryDisplay V T) Unit
  | .getValue name => do
    let _ ← lockedRead fun display => display.getValue name
    pure ()
  | .getPoint name => do
    let _ ← lockedRead fun display => display.getPoint name
    pure ()
  | .getAllValues => do
    let _ ← lockedRead fun display => display.getAllValues
    pure ()
  | .getHistory name count => do
    let _ ← lockedRead fun display => display.getHistory name count
    pure ()
  | .getAlarms activeOnly => do
    let _ ← lockedRead fun display => display.getAlarms activeOnly
    pure ()
  | .acknowledgeAlarm parameter => do
    let _ ← lockedAcknowledge parameter
    pure ()
  | .getStatistics now => do
    let _ ← lockedRead fun display => display.getStatistics now
    pure ()

variable [LT V] [DecidableLT V] [ToString V]

/-- `_check_limits` under the lock, with the calls that the alarm callback makes. -/
def checkLimitsBody (reading : Reading V T) (alarmCalls : List (Query T)) :
    Call (TelemetryDisplay V T) Unit := do
  let display ← getState
  match display.newAlarm? reading.name reading.value reading.alarmTime with
  | none => pure ()
  | some alarm => do
    modifyState fun display => { display with alarms := display.alarms ++ [alarm] }
    perform callQuery alarmCalls

/-- `update`, with the calls that the two callbacks make. A callback that is not registered makes
none, and an exception of a callback is caught. -/
def updateCall (reading : Reading V T) (updateCalls alarmCalls : List (Query T)) :
    Call (TelemetryDisplay V T) Unit := do
  withLock (modifyState fun display => display.recordReading reading)
  withLock (checkLimitsBody reading alarmCalls)
  perform callQuery updateCalls

/-- A call that is made from outside. -/
inductive DisplayCall (V T : Type)
  | update (reading : Reading V T) (updateCalls alarmCalls : List (Query T))
  | setLimits (name : String) (limits : Option (TelemetryLimit V))
  | clearAlarms
  | query (query : Query T)

/-- Make a call. -/
def displayCall : DisplayCall V T → Call (TelemetryDisplay V T) Unit
  | .update reading updateCalls alarmCalls => updateCall reading updateCalls alarmCalls
  | .setLimits name limits => withLock (modifyState fun display => display.setLimits name limits)
  | .clearAlarms => withLock (modifyState TelemetryDisplay.clearAlarms)
  | .query query => callQuery query

/-- An update that raises a new alarm has an alarm callback that makes no call. -/
def LeavesLockAlone (display : TelemetryDisplay V T) : DisplayCall V T → Prop
  | .update reading _ alarmCalls =>
    ((display.recordReading reading).newAlarm? reading.name reading.value
      reading.alarmTime).isSome → alarmCalls = []
  | _ => True

end

/-! ### Queries -/

theorem returns_lockedRead_iff {Result : Type} {read : TelemetryDisplay V T → Result}
    {start : Locked (TelemetryDisplay V T)} :
    Returns (lockedRead read) start ↔ start.held = false :=
  returns_withLock_iff.trans
    (and_iff_left (returns_getState_bind_iff.mpr (returns_pure _ _)))

theorem returns_lockedAcknowledge_iff {parameter : String}
    {start : Locked (TelemetryDisplay V T)} :
    Returns (lockedAcknowledge parameter) start ↔ start.held = false :=
  returns_withLock_iff.trans (and_iff_left (returns_getState_bind_iff.mpr
    (returns_modifyState_bind_iff.mpr (returns_pure _ _))))

section

variable [Sub T]

/-- A query returns exactly when the lock is free. -/
theorem returns_callQuery_iff (query : Query T) (start : Locked (TelemetryDisplay V T)) :
    Returns (callQuery query) start ↔ start.held = false := by
  have ignored {Result : Type} (_ : Result) (finish : Locked (TelemetryDisplay V T)) :
      Returns (pure () : Call (TelemetryDisplay V T) Unit) finish := returns_pure _ _
  cases query with
  | acknowledgeAlarm parameter =>
    exact (returns_bind_of_returns ignored).trans returns_lockedAcknowledge_iff
  | _ => exact (returns_bind_of_returns ignored).trans returns_lockedRead_iff

theorem balanced_callQuery (query : Query T) :
    Balanced (callQuery query : Call (TelemetryDisplay V T) Unit) := by
  cases query <;> exact (balanced_withLock _).bind fun _ => balanced_pure ()

/-- Under the lock only a callback without calls returns. -/
theorem returns_queries_held_iff (queries : List (Query T))
    {start : Locked (TelemetryDisplay V T)} (held : start.held = true) :
    Returns (perform callQuery queries) start ↔ queries = [] := by
  rw [List.eq_nil_iff_forall_not_mem]
  refine returns_perform_held_iff (fun query inside taken => ?_) balanced_callQuery held queries
  rw [returns_callQuery_iff, taken]
  exact iff_of_false (by decide) id

/-- Without the lock every callback returns. -/
theorem returns_queries_of_free (queries : List (Query T))
    {start : Locked (TelemetryDisplay V T)} (free : start.held = false) :
    Returns (perform callQuery queries) start :=
  returns_perform_of_free (fun query reached => (returns_callQuery_iff query reached).mpr)
    balanced_callQuery free queries

/-! ### Updates -/

variable [LT V] [DecidableLT V] [ToString V]

/-- Under the lock the check returns unless it raises an alarm whose callback makes a call. -/
theorem returns_checkLimitsBody_iff (reading : Reading V T) (alarmCalls : List (Query T))
    {start : Locked (TelemetryDisplay V T)} (held : start.held = true) :
    Returns (checkLimitsBody reading alarmCalls) start ↔
      ((start.state.newAlarm? reading.name reading.value reading.alarmTime).isSome →
        alarmCalls = []) := by
  rw [checkLimitsBody, returns_getState_bind_iff]
  cases start.state.newAlarm? reading.name reading.value reading.alarmTime with
  | none => exact iff_of_true (returns_pure _ _) (fun raised => by cases raised)
  | some alarm =>
    rw [returns_modifyState_bind_iff, Option.isSome_some, forall_prop_of_true rfl]
    exact returns_queries_held_iff alarmCalls held

theorem balanced_updateCall (reading : Reading V T) (updateCalls alarmCalls : List (Query T)) :
    Balanced (updateCall reading updateCalls alarmCalls) :=
  (balanced_withLock _).bind fun _ =>
    (balanced_withLock _).bind fun _ => balanced_perform balanced_callQuery updateCalls

/-- The calls of the update callback always return. -/
theorem returns_updateCall_iff (reading : Reading V T) (updateCalls alarmCalls : List (Query T))
    {start : Locked (TelemetryDisplay V T)} (free : start.held = false) :
    Returns (updateCall reading updateCalls alarmCalls) start ↔
      (((start.state.recordReading reading).newAlarm? reading.name reading.value
        reading.alarmTime).isSome → alarmCalls = []) := by
  unfold updateCall
  rw [returns_withLock_modifyState_bind_iff free, (balanced_withLock _).returns_bind_iff,
    returns_withLock_iff, and_iff_right rfl]
  · exact returns_checkLimitsBody_iff reading alarmCalls rfl
  · exact fun _ finish unlocked => returns_queries_of_free updateCalls unlocked

/-- Without a callback the check does what the model of its effect says. -/
theorem checkLimitsBody_eq (reading : Reading V T) (start : Locked (TelemetryDisplay V T)) :
    checkLimitsBody reading ([] : List (Query T)) start = .ok () { start with
      state := start.state.checkLimits reading.name reading.value reading.alarmTime } := by
  rw [checkLimitsBody, bind_ok (show getState start = .ok start.state start from rfl)]
  unfold TelemetryDisplay.checkLimits
  cases start.state.newAlarm? reading.name reading.value reading.alarmTime with
  | none =>
    rw [Option.toList_none, List.append_nil]
    rfl
  | some alarm => rfl

/-- Without callbacks an update does what the model of its effect says. -/
theorem updateCall_eq (reading : Reading V T) {start : Locked (TelemetryDisplay V T)}
    (free : start.held = false) :
    updateCall reading [] [] start = .ok () ⟨false, start.state.update reading⟩ := by
  have checked : withLock (checkLimitsBody reading ([] : List (Query T)))
      ⟨false, start.state.recordReading reading⟩ = .ok () ⟨false, start.state.update reading⟩ := by
    rw [withLock, if_neg Bool.false_ne_true, checkLimitsBody_eq]
    rfl
  unfold updateCall
  rw [bind_ok (withLock_modifyState _ free), bind_ok checked]
  rfl

/-! ### Sequences of calls -/

/-- With the lock free, a call returns exactly when it leaves the lock alone. -/
theorem returns_displayCall_iff {start : Locked (TelemetryDisplay V T)} (free : start.held = false)
    (call : DisplayCall V T) :
    Returns (displayCall call) start ↔ LeavesLockAlone start.state call := by
  cases call with
  | update reading updateCalls alarmCalls =>
    exact returns_updateCall_iff reading updateCalls alarmCalls free
  | setLimits name limits =>
    refine iff_of_true ?_ trivial
    rw [displayCall, returns_withLock_iff]
    exact ⟨free, returns_modifyState _ _⟩
  | clearAlarms =>
    refine iff_of_true ?_ trivial
    rw [displayCall, returns_withLock_iff]
    exact ⟨free, returns_modifyState _ _⟩
  | query query => exact iff_of_true ((returns_callQuery_iff query start).mpr free) trivial

theorem balanced_displayCall (call : DisplayCall V T) : Balanced (displayCall call) := by
  cases call with
  | update reading updateCalls alarmCalls =>
    exact balanced_updateCall reading updateCalls alarmCalls
  | setLimits name limits =>
    rw [displayCall]
    exact balanced_withLock _
  | clearAlarms =>
    rw [displayCall]
    exact balanced_withLock _
  | query query => exact balanced_callQuery query

/-- A sequence of calls on one thread returns exactly when every update that raises a new alarm has
an alarm callback that makes no call. -/
theorem displayCalls_return_iff (display : TelemetryDisplay V T) (calls : List (DisplayCall V T)) :
    Returns (perform displayCall calls) ⟨false, display⟩ ↔
      EachStep (fun reached call => after (displayCall call) reached)
        (fun reached call => LeavesLockAlone reached.state call) ⟨false, display⟩ calls := by
  rw [returns_perform_iff]
  refine @eachStep_iff_of_invariant (Locked (TelemetryDisplay V T)) _ _
    (fun reached => reached.held = false) _ _ ?_
    (fun _ call free => returns_displayCall_iff free call) ⟨false, display⟩ rfl calls
  intro reached call held returned
  exact ((balanced_displayCall call).after_held returned).trans held

end

/-- An alarm callback that asks for the value waits for the lock of its own thread. -/
theorem displayCalls_block :
    ¬ ∀ (display : TelemetryDisplay ℚ ℚ) (calls : List (DisplayCall ℚ ℚ)),
      Returns (perform displayCall calls) ⟨false, display⟩ := by
  intro claimed
  let reading : Reading ℚ ℚ := ⟨"temperature", 75, "C", none, 0, 0⟩
  have returned := (returns_perform_iff _ _ _).mp (claimed (TelemetryDisplay.init id 1000 0)
    [.update reading [] [.getValue "temperature"]])
  have silent := (returns_updateCall_iff _ _ _ rfl).mp returned.1 (by decide +kernel)
  exact absurd silent (List.cons_ne_nil _ _)

end SmartQso.GroundDisplay
