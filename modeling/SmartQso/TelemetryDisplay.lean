/-
This file models `ground/telemetry_display.py` without its exports: the points with
their bounded history, the limits, the alarms and the queries. Values and times are
those of the caller, and the clock is read at every call that needs it. A dictionary is
the list of its entries in the order of insertion. Callbacks and logging are left out
here.
-/

import Mathlib.Algebra.Order.Ring.Rat
import Mathlib.Logic.Function.Basic
import SmartQso.Newest

namespace SmartQso.GroundDisplay

open BoundedHistory

/-! ### Data -/

/-- `LimitStatus`. -/
inductive LimitStatus
  | nominal
  | warningLow
  | warningHigh
  | criticalLow
  | criticalHigh
  deriving DecidableEq

/-- `AlarmPriority`. -/
inductive AlarmPriority
  | info
  | warning
  | critical
  deriving DecidableEq

/-- `TelemetryLimit`. -/
structure TelemetryLimit (V : Type) where
  criticalLow : Option V
  warningLow : Option V
  warningHigh : Option V
  criticalHigh : Option V

/-- `Alarm`. -/
structure Alarm (V T : Type) where
  parameter : String
  value : V
  limitStatus : LimitStatus
  priority : AlarmPriority
  timestamp : T
  acknowledged : Bool
  message : String

/-- `TelemetryPoint`. -/
structure TelemetryPoint (V T : Type) where
  name : String
  value : V
  unit : String
  timestamp : T
  limits : Option (TelemetryLimit V)
  history : List (T × V)

/-- `TelemetryDisplay`. -/
structure TelemetryDisplay (V T : Type) where
  historySize : Nat
  points : List (TelemetryPoint V T)
  limits : String → Option (TelemetryLimit V)
  alarms : List (Alarm V T)
  updateCount : Nat
  startTime : T
  defaultLimits : String → Option (TelemetryLimit V)

variable {V T : Type}

/-- The limits that parameters have by default. `number` turns a literal into a value. -/
def commonLimits (number : ℚ → V) : String → Option (TelemetryLimit V)
  | "battery_voltage" => some {
      criticalLow := some (number 3.0), warningLow := some (number 3.2)
      warningHigh := some (number 4.2), criticalHigh := some (number 4.35) }
  | "battery_soc" => some {
      criticalLow := some (number 10), warningLow := some (number 20)
      warningHigh := none, criticalHigh := none }
  | "temperature" => some {
      criticalLow := some (number (-30)), warningLow := some (number (-20))
      warningHigh := some (number 60), criticalHigh := some (number 70) }
  | _ => none

/-- `__init__`. -/
def TelemetryDisplay.init (number : ℚ → V) (historySize : Nat) (startTime : T) :
    TelemetryDisplay V T :=
  { historySize := historySize
    points := []
    limits := fun _ => none
    alarms := []
    updateCount := 0
    startTime := startTime
    defaultLimits := commonLimits number }

/-! ### Recording -/

/-- The point of a name. -/
def TelemetryDisplay.point? (display : TelemetryDisplay V T) (name : String) :
    Option (TelemetryPoint V T) :=
  display.points.find? fun point => point.name = name

/-- Change the point of a name. -/
def modifyPoint (name : String) (change : TelemetryPoint V T → TelemetryPoint V T)
    (points : List (TelemetryPoint V T)) : List (TelemetryPoint V T) :=
  points.map fun point => if point.name = name then change point else point

/-- The first block of `update` under the lock. -/
def TelemetryDisplay.record (display : TelemetryDisplay V T) (name : String) (value : V)
    (unit : String) (timestamp : T) : TelemetryDisplay V T :=
  let points :=
    if (display.point? name).isNone then
      let limits := (display.limits name).or (display.defaultLimits name)
      display.points ++ [⟨name, value, unit, timestamp, limits, []⟩]
    else
      modifyPoint name (fun point =>
        { point with
          value := value
          timestamp := timestamp
          unit := if unit ≠ "" then unit else point.unit }) display.points
  { display with
    points := modifyPoint name (fun point =>
      { point with
        history := newest display.historySize (point.history ++ [(timestamp, value)]) }) points
    updateCount := display.updateCount + 1 }

/-! ### Limits and alarms -/

/-- What a check of the limits finds out. -/
structure LimitCheck where
  status : LimitStatus
  priority : AlarmPriority
  message : String

/-- An alarm of the parameter that is not acknowledged. -/
def Alarm.opens (parameter : String) (alarm : Alarm V T) : Bool :=
  alarm.parameter = parameter && !alarm.acknowledged

/-- The first alarm of the parameter that is not acknowledged. -/
def TelemetryDisplay.openAlarm? (display : TelemetryDisplay V T) (parameter : String) :
    Option (Alarm V T) :=
  display.alarms.find? (Alarm.opens parameter)

section

variable [LT V] [DecidableLT V] [ToString V]

/-- The comparisons of `_check_limits`. A limit that is not set is not checked. -/
def TelemetryLimit.check (limits : TelemetryLimit V) (name : String) (value : V) : LimitCheck :=
  match limits.criticalLow.filter (value < ·) with
  | some limit => ⟨.criticalLow, .critical, s!"{name} critically low: {value} < {limit}"⟩
  | none =>
    match limits.warningLow.filter (value < ·) with
    | some limit => ⟨.warningLow, .warning, s!"{name} low: {value} < {limit}"⟩
    | none =>
      match limits.criticalHigh.filter (· < value) with
      | some limit => ⟨.criticalHigh, .critical, s!"{name} critically high: {value} > {limit}"⟩
      | none =>
        match limits.warningHigh.filter (· < value) with
        | some limit => ⟨.warningHigh, .warning, s!"{name} high: {value} > {limit}"⟩
        | none => ⟨.nominal, .info, ""⟩

/-- The alarm that `_check_limits` appends, if it does. -/
def TelemetryDisplay.newAlarm? (display : TelemetryDisplay V T) (name : String) (value : V)
    (now : T) : Option (Alarm V T) := do
  let point ← display.point? name
  let limits ← point.limits
  let check := limits.check name value
  if check.status = .nominal ∨ (display.openAlarm? name).isSome then none
  else some ⟨name, value, check.status, check.priority, now, false, check.message⟩

/-- `_check_limits`. -/
def TelemetryDisplay.checkLimits (display : TelemetryDisplay V T) (name : String) (value : V)
    (now : T) : TelemetryDisplay V T :=
  { display with alarms := display.alarms ++ (display.newAlarm? name value now).toList }

/-- The arguments of `update`, and the times that the clock shows in it. -/
structure Reading (V T : Type) where
  name : String
  value : V
  unit : String
  timestamp : Option T
  now : T
  alarmTime : T

/-- The first block of `update` for a reading. -/
def TelemetryDisplay.recordReading (display : TelemetryDisplay V T) (reading : Reading V T) :
    TelemetryDisplay V T :=
  display.record reading.name reading.value reading.unit (reading.timestamp.getD reading.now)

/-- `update`, up to the callback. -/
def TelemetryDisplay.update (display : TelemetryDisplay V T) (reading : Reading V T) :
    TelemetryDisplay V T :=
  (display.recordReading reading).checkLimits reading.name reading.value reading.alarmTime

/-- `update_batch`: one time for all values, which each come with their unit and with the time of an
alarm. -/
def TelemetryDisplay.updateBatch (display : TelemetryDisplay V T) (timestamp : T)
    (values : List (String × V × String × T)) : TelemetryDisplay V T :=
  values.foldl (fun display (name, value, unit, alarmTime) =>
    display.update ⟨name, value, unit, some timestamp, timestamp, alarmTime⟩) display

end

/-- `set_limits`. -/
def TelemetryDisplay.setLimits (display : TelemetryDisplay V T) (name : String)
    (limits : Option (TelemetryLimit V)) : TelemetryDisplay V T :=
  { display with
    limits := Function.update display.limits name limits
    points := modifyPoint name (fun point => { point with limits := limits }) display.points }

/-- Acknowledge the first open alarm of a parameter, and tell whether there is one. -/
def acknowledgeFirst (parameter : String) : List (Alarm V T) → List (Alarm V T) × Bool
  | [] => ([], false)
  | alarm :: rest =>
    if alarm.opens parameter then ({ alarm with acknowledged := true } :: rest, true)
    else
      let (rest, found) := acknowledgeFirst parameter rest
      (alarm :: rest, found)

/-- `acknowledge_alarm`. -/
def TelemetryDisplay.acknowledgeAlarm (display : TelemetryDisplay V T) (parameter : String) :
    TelemetryDisplay V T × Bool :=
  let (alarms, found) := acknowledgeFirst parameter display.alarms
  ({ display with alarms := alarms }, found)

/-- `clear_alarms`. -/
def TelemetryDisplay.clearAlarms (display : TelemetryDisplay V T) : TelemetryDisplay V T :=
  { display with alarms := display.alarms.filter fun alarm => !alarm.acknowledged }

/-! ### Queries -/

/-- `get_value`. -/
def TelemetryDisplay.getValue (display : TelemetryDisplay V T) (name : String) : Option V :=
  (display.point? name).map TelemetryPoint.value

/-- `get_point`. -/
def TelemetryDisplay.getPoint (display : TelemetryDisplay V T) (name : String) :
    Option (TelemetryPoint V T) :=
  display.point? name

/-- `get_all_values`. -/
def TelemetryDisplay.getAllValues (display : TelemetryDisplay V T) : List (String × V) :=
  display.points.map fun point => (point.name, point.value)

/-- `history[-count:]`: the last `count` entries, all entries for zero, and the entries behind the
first ones for a negative count. -/
def lastEntries {Entry : Type} (count : Int) (history : List Entry) : List Entry :=
  match count with
  | .ofNat 0 => history
  | .ofNat count => history.drop (history.length - count)
  | .negSucc skipped => history.drop (skipped + 1)

/-- `get_history`. -/
def TelemetryDisplay.getHistory (display : TelemetryDisplay V T) (name : String)
    (count : Option Int) : List (T × V) :=
  match display.point? name with
  | none => []
  | some point =>
    match count with
    | none => point.history
    | some count => lastEntries count point.history

/-- `get_alarms`. -/
def TelemetryDisplay.getAlarms (display : TelemetryDisplay V T) (activeOnly : Bool) :
    List (Alarm V T) :=
  if activeOnly then display.alarms.filter fun alarm => !alarm.acknowledged else display.alarms

/-- What `get_statistics` returns. -/
structure DisplayStatistics (T : Type) where
  updateCount : Nat
  parameterCount : Nat
  activeAlarms : Nat
  uptime : T

/-- `get_statistics`. -/
def TelemetryDisplay.getStatistics [Sub T] (display : TelemetryDisplay V T) (now : T) :
    DisplayStatistics T :=
  { updateCount := display.updateCount
    parameterCount := display.points.length
    activeAlarms := (display.alarms.filter fun alarm => !alarm.acknowledged).length
    uptime := now - display.startTime }

/-! ### Operations -/

/-- The calls that change the display. -/
inductive Operation (V T : Type)
  | update (reading : Reading V T)
  | setLimits (name : String) (limits : Option (TelemetryLimit V))
  | acknowledgeAlarm (parameter : String)
  | clearAlarms

/-- Make a call. -/
def operate [LT V] [DecidableLT V] [ToString V] (display : TelemetryDisplay V T) :
    Operation V T → TelemetryDisplay V T
  | .update reading => display.update reading
  | .setLimits name limits => display.setLimits name limits
  | .acknowledgeAlarm parameter => (display.acknowledgeAlarm parameter).1
  | .clearAlarms => display.clearAlarms

end SmartQso.GroundDisplay
