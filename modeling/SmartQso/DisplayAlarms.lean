/-
This file proves what holds of the alarms of `telemetry_display.py` in every run of its
calls. Every parameter has one open alarm at most, because a new one is appended only
when none is open. For the same reason a value that turns critical while a warning is
open shows no critical alarm.
-/

import SmartQso.Runs
import SmartQso.TelemetryDisplay

namespace SmartQso.GroundDisplay

open Runs

variable {V T : Type}

/-! ### Open alarms -/

/-- The alarms of a parameter that are not acknowledged. -/
def TelemetryDisplay.openAlarms (display : TelemetryDisplay V T) (parameter : String) :
    List (Alarm V T) :=
  display.alarms.filter (Alarm.opens parameter)

theorem Alarm.opens_iff {parameter : String} {alarm : Alarm V T} :
    alarm.opens parameter = true ↔ alarm.parameter = parameter ∧ alarm.acknowledged = false := by
  rw [opens, Bool.and_eq_true, decide_eq_true_iff, Bool.not_eq_true']

theorem openAlarm?_eq_none_iff {display : TelemetryDisplay V T} {parameter : String} :
    display.openAlarm? parameter = none ↔ display.openAlarms parameter = [] := by
  rw [TelemetryDisplay.openAlarm?, TelemetryDisplay.openAlarms, List.find?_eq_none,
    List.filter_eq_nil_iff]

/-- A parameter with one open alarm at most has only the one that is found. -/
theorem openAlarms_eq_singleton {display : TelemetryDisplay V T} {parameter : String}
    (unique : (display.openAlarms parameter).length ≤ 1) {alarm : Alarm V T}
    (found : display.openAlarm? parameter = some alarm) :
    display.openAlarms parameter = [alarm] := by
  have member : alarm ∈ display.openAlarms parameter :=
    List.mem_filter.mpr ⟨List.mem_of_find?_eq_some found, List.find?_some found⟩
  obtain ⟨only, shape⟩ := List.length_eq_one_iff.mp
    (Nat.le_antisymm unique (List.length_pos_of_mem member))
  rw [shape, List.mem_singleton] at member
  rw [shape, member]

/-- Acknowledging opens no alarm. -/
theorem length_filter_acknowledgeFirst_le (acknowledged parameter : String)
    (alarms : List (Alarm V T)) :
    ((acknowledgeFirst acknowledged alarms).1.filter (Alarm.opens parameter)).length ≤
      (alarms.filter (Alarm.opens parameter)).length := by
  induction alarms with
  | nil => exact Nat.le_refl 0
  | cons alarm rest inductionHypothesis =>
    rw [acknowledgeFirst]
    split
    case isTrue opened =>
      have closed : ({ alarm with acknowledged := true } : Alarm V T).opens parameter = false :=
        Bool.and_false _
      rw [List.filter_cons_of_neg (by rw [closed]; exact Bool.false_ne_true)]
      exact ((List.sublist_cons_self alarm rest).filter _).length_le
    case isFalse =>
      dsimp only
      rw [List.filter_cons, List.filter_cons]
      split
      · exact Nat.succ_le_succ inductionHypothesis
      · exact inductionHypothesis

/-- An alarm is acknowledged exactly when one is open. -/
theorem acknowledgeFirst_found_iff (parameter : String) (alarms : List (Alarm V T)) :
    (acknowledgeFirst parameter alarms).2 = true ↔
      ∃ alarm ∈ alarms, alarm.parameter = parameter ∧ alarm.acknowledged = false := by
  simp only [← Alarm.opens_iff]
  induction alarms with
  | nil => simp [acknowledgeFirst]
  | cons alarm rest inductionHypothesis =>
    rw [acknowledgeFirst, List.exists_mem_cons_iff]
    split
    case isTrue opened => exact iff_of_true rfl (Or.inl opened)
    case isFalse closed =>
      rw [or_iff_right closed]
      exact inductionHypothesis

/-! ### New alarms -/

section

variable [LT V] [DecidableLT V] [ToString V]

/-- A new alarm is the first one that is open for its parameter, and has the priority of the
check. -/
theorem newAlarm?_spec {display : TelemetryDisplay V T} {name : String} {value : V} {now : T}
    {alarm : Alarm V T} (new : display.newAlarm? name value now = some alarm) :
    display.openAlarm? name = none ∧ alarm.parameter = name ∧ alarm.acknowledged = false ∧
      ∃ point limits, display.point? name = some point ∧ point.limits = some limits ∧
        alarm.priority = (limits.check name value).priority := by
  unfold TelemetryDisplay.newAlarm? at new
  obtain ⟨point, found, new⟩ := Option.bind_eq_some_iff.mp new
  obtain ⟨limits, set, new⟩ := Option.bind_eq_some_iff.mp new
  dsimp only at new
  split_ifs at new with quiet
  cases new
  rw [not_or, Bool.not_eq_true, Option.isSome_eq_false_iff, Option.isNone_iff_eq_none] at quiet
  exact ⟨quiet.2, rfl, rfl, point, limits, found, set, rfl⟩

/-- The alarms after an update. -/
theorem alarms_update (display : TelemetryDisplay V T) (reading : Reading V T) :
    (display.update reading).alarms = display.alarms ++ ((display.recordReading reading).newAlarm?
      reading.name reading.value reading.alarmTime).toList := rfl

/-- While an alarm of its parameter is open an update opens none. -/
theorem openAlarms_update_of_open {display : TelemetryDisplay V T} {reading : Reading V T}
    {alarm : Alarm V T} (found : display.openAlarm? reading.name = some alarm) :
    (display.update reading).openAlarms reading.name = display.openAlarms reading.name := by
  have none : (display.recordReading reading).newAlarm? reading.name reading.value
      reading.alarmTime = none := by
    by_contra new
    obtain ⟨appended, new⟩ := Option.ne_none_iff_exists'.mp new
    have closed : display.openAlarm? reading.name = none := (newAlarm?_spec new).1
    rw [found] at closed
    cases closed
  rw [TelemetryDisplay.openAlarms, alarms_update, none, Option.toList_none, List.append_nil]
  rfl

/-- An update opens an alarm only for a parameter without one. -/
theorem length_openAlarms_update_le {display : TelemetryDisplay V T}
    (unique : ∀ parameter, (display.openAlarms parameter).length ≤ 1) (reading : Reading V T)
    (parameter : String) : ((display.update reading).openAlarms parameter).length ≤ 1 := by
  rw [TelemetryDisplay.openAlarms, alarms_update, List.filter_append, List.length_append]
  cases new : (display.recordReading reading).newAlarm? reading.name reading.value
      reading.alarmTime with
  | none => exact unique parameter
  | some alarm =>
    obtain ⟨none, named, -⟩ := newAlarm?_spec new
    rw [Option.toList_some]
    by_cases same : reading.name = parameter
    · subst same
      have empty : display.alarms.filter (Alarm.opens reading.name) = [] :=
        openAlarm?_eq_none_iff.mp none
      rw [empty, List.length_nil, Nat.zero_add]
      exact List.length_filter_le _ _
    · have other : alarm.opens parameter ≠ true :=
        fun opened => same (named.symm.trans (Alarm.opens_iff.mp opened).1)
      rw [List.filter_cons_of_neg other]
      exact unique parameter

end

/-! ### One open alarm -/

/-- A parameter has one open alarm at most, `clear_alarms` removes acknowledged alarms only, and
`acknowledge_alarm` tells whether an alarm was open. -/
structure AlarmsInOrder (display : TelemetryDisplay V T) : Prop where
  unique : ∀ parameter, (display.openAlarms parameter).length ≤ 1
  clears : display.clearAlarms.alarms.Sublist display.alarms ∧
    display.clearAlarms.alarms.filter (fun alarm => !alarm.acknowledged) =
      display.alarms.filter fun alarm => !alarm.acknowledged
  acknowledges : ∀ parameter, (display.acknowledgeAlarm parameter).2 = true ↔
    ∃ alarm ∈ display.alarms, alarm.parameter = parameter ∧ alarm.acknowledged = false

/-- Only the first part takes a history. -/
theorem AlarmsInOrder.of_unique {display : TelemetryDisplay V T}
    (unique : ∀ parameter, (display.openAlarms parameter).length ≤ 1) : AlarmsInOrder display where
  unique := unique
  clears := by
    refine ⟨List.filter_sublist, ?_⟩
    rw [TelemetryDisplay.clearAlarms, List.filter_filter]
    simp only [Bool.and_self]
  acknowledges := fun parameter => acknowledgeFirst_found_iff parameter display.alarms

section

variable [LT V] [DecidableLT V] [ToString V]

/-- Every call keeps one open alarm at most for each parameter. -/
theorem length_openAlarms_operate_le {display : TelemetryDisplay V T}
    (unique : ∀ parameter, (display.openAlarms parameter).length ≤ 1)
    (operation : Operation V T) (parameter : String) :
    ((operate display operation).openAlarms parameter).length ≤ 1 := by
  cases operation with
  | update reading => exact length_openAlarms_update_le unique reading parameter
  | setLimits name limits => exact unique parameter
  | acknowledgeAlarm acknowledged =>
    exact (length_filter_acknowledgeFirst_le acknowledged parameter display.alarms).trans
      (unique parameter)
  | clearAlarms =>
    exact ((List.filter_sublist.filter (Alarm.opens parameter)).length_le).trans (unique parameter)

/-- A batch is a sequence of updates. -/
theorem AlarmsInOrder.updateBatch {display : TelemetryDisplay V T}
    (inOrder : AlarmsInOrder display) (timestamp : T) (values : List (String × V × String × T)) :
    AlarmsInOrder (display.updateBatch timestamp values) := by
  unfold TelemetryDisplay.updateBatch
  induction values generalizing display with
  | nil => exact inOrder
  | cons item rest inductionHypothesis =>
    exact inductionHypothesis (.of_unique (length_openAlarms_update_le inOrder.unique _))

/-- The alarms are in order throughout every run of calls. -/
theorem alarmsInOrder (number : ℚ → V) (historySize : Nat) (startTime : T)
    (operations : List (Operation V T)) :
    Throughout operate AlarmsInOrder (TelemetryDisplay.init number historySize startTime)
      operations := by
  refine throughout_of_preserved (fun display operation inOrder => ?_) ?_ operations
  · exact .of_unique (length_openAlarms_operate_le inOrder.unique operation)
  · exact .of_unique fun parameter => Nat.zero_le 1

end

/-! ### Critical values -/

/-- The limits that an update of a parameter is checked against. -/
def TelemetryDisplay.limitsOf (display : TelemetryDisplay V T) (name : String) :
    Option (TelemetryLimit V) :=
  match display.point? name with
  | some point => point.limits
  | none => (display.limits name).or (display.defaultLimits name)

/-- A change that keeps the names changes the point that is found. -/
theorem find?_modifyPoint {name : String} {change : TelemetryPoint V T → TelemetryPoint V T}
    (kept : ∀ point, (change point).name = point.name) (points : List (TelemetryPoint V T)) :
    (modifyPoint name change points).find? (fun point => point.name = name) =
      (points.find? fun point => point.name = name).map change := by
  induction points with
  | nil => rfl
  | cons point rest inductionHypothesis =>
    rw [modifyPoint, List.map_cons, List.find?_cons, List.find?_cons]
    by_cases named : point.name = name
    · rw [if_pos named, kept, decide_eq_true named]
      rfl
    · rw [if_neg named, decide_eq_false named]
      exact inductionHypothesis

/-- Recording a reading makes the point with these limits, or keeps its limits. -/
theorem point?_recordReading (display : TelemetryDisplay V T) (reading : Reading V T) :
    ∃ point, (display.recordReading reading).point? reading.name = some point ∧
      point.limits = display.limitsOf reading.name := by
  unfold TelemetryDisplay.recordReading TelemetryDisplay.record TelemetryDisplay.point?
    TelemetryDisplay.limitsOf
  dsimp only
  rw [find?_modifyPoint (by exact fun _ => rfl)]
  cases found : display.point? reading.name with
  | none =>
    have missing : display.points.find? (fun point => point.name = reading.name) = none := found
    rw [missing, Option.isNone_none, if_pos rfl, List.find?_append, missing, Option.none_or,
      List.find?_cons, decide_eq_true rfl]
    exact ⟨_, rfl, rfl⟩
  | some point =>
    have present : display.points.find? (fun point => point.name = reading.name) = some point :=
      found
    rw [present, Option.isNone_some, if_neg Bool.false_ne_true,
      find?_modifyPoint (by exact fun _ => rfl), present]
    exact ⟨_, rfl, rfl⟩

section

variable [Preorder V]

/-- `critical_low <= warning_low <= warning_high <= critical_high`, for the limits that are set. -/
def TelemetryLimit.Ordered (limits : TelemetryLimit V) : Prop :=
  ([limits.criticalLow, limits.warningLow, limits.warningHigh, limits.criticalHigh].filterMap
    id).Pairwise (· ≤ ·)

/-- A value below the low or above the high critical limit. -/
def TelemetryLimit.Critical (limits : TelemetryLimit V) (value : V) : Prop :=
  (∃ low, limits.criticalLow = some low ∧ value < low) ∨
    ∃ high, limits.criticalHigh = some high ∧ high < value

/-- The low limit of a warning is below the high critical one. -/
theorem TelemetryLimit.Ordered.low_le_high {limits : TelemetryLimit V} (ordered : limits.Ordered)
    {low high : V} (warning : limits.warningLow = some low)
    (critical : limits.criticalHigh = some high) : low ≤ high := by
  have sublist : [limits.warningLow, limits.criticalHigh].Sublist
      [limits.criticalLow, limits.warningLow, limits.warningHigh, limits.criticalHigh] :=
    .cons _ (.cons_cons _ (.cons _ (.cons_cons _ .slnil)))
  have pair := List.Pairwise.sublist (sublist.filterMap id) ordered
  rw [warning, critical] at pair
  exact List.rel_of_pairwise_cons pair List.mem_cons_self

variable [DecidableLT V] [ToString V]

/-- With limits in order a critical value has the critical priority. -/
theorem check_critical {limits : TelemetryLimit V} (ordered : limits.Ordered) {value : V}
    (critical : limits.Critical value) (name : String) :
    (limits.check name value).status ≠ .nominal ∧
      (limits.check name value).priority = .critical := by
  unfold TelemetryLimit.check
  cases low : limits.criticalLow.filter (value < ·) with
  | some limit =>
    dsimp only
    exact ⟨by decide, rfl⟩
  | none =>
    obtain ⟨limit, set, below⟩ | ⟨high, set, above⟩ := critical
    · rw [Option.filter_eq_none_iff] at low
      exact absurd (decide_eq_true below) (low limit set)
    · -- A warning for a low value would put the value below the high limit.
      have noWarning : limits.warningLow.filter (value < ·) = none := by
        rw [Option.filter_eq_none_iff]
        intro limit warning below
        have chain := (of_decide_eq_true below).trans_le (ordered.low_le_high warning set)
        exact absurd (chain.trans above) (lt_irrefl value)
      have exceeded : limits.criticalHigh.filter (· < value) = some high := by
        rw [set]
        exact Option.filter_some_pos (decide_eq_true above)
      rw [noWarning, exceeded]
      dsimp only
      exact ⟨by decide, rfl⟩

/-! ### Masked alarms -/

/-- An update with a critical value, where the limits are in order, leaves a critical alarm open. -/
def ShowsCritical (display : TelemetryDisplay V T) : Operation V T → Prop
  | .update reading => ∀ limits, display.limitsOf reading.name = some limits → limits.Ordered →
      limits.Critical reading.value →
      ∃ alarm ∈ (display.update reading).openAlarms reading.name, alarm.priority = .critical
  | _ => True

/-- Such an update finds no alarm open, or a critical one. -/
def FindsNoMilderAlarm (display : TelemetryDisplay V T) : Operation V T → Prop
  | .update reading => ∀ limits, display.limitsOf reading.name = some limits → limits.Ordered →
      limits.Critical reading.value →
      ∀ alarm ∈ display.openAlarms reading.name, alarm.priority = .critical
  | _ => True

/-- With no alarm open a critical value opens a critical one. -/
theorem newAlarm?_critical {display : TelemetryDisplay V T} {reading : Reading V T}
    {limits : TelemetryLimit V} (set : display.limitsOf reading.name = some limits)
    (ordered : limits.Ordered) (critical : limits.Critical reading.value)
    (none : display.openAlarm? reading.name = none) :
    ∃ alarm, (display.recordReading reading).newAlarm? reading.name reading.value
      reading.alarmTime = some alarm ∧ alarm.opens reading.name = true ∧
        alarm.priority = .critical := by
  obtain ⟨point, found, kept⟩ := point?_recordReading display reading
  obtain ⟨violated, priority⟩ := check_critical ordered critical reading.name
  have quiet : ¬ ((limits.check reading.name reading.value).status = .nominal ∨
      ((display.recordReading reading).openAlarm? reading.name).isSome) := by
    rintro (nominal | opened)
    · exact violated nominal
    · have same : (display.recordReading reading).openAlarm? reading.name =
        display.openAlarm? reading.name := rfl
      rw [same, none] at opened
      cases opened
  let check := limits.check reading.name reading.value
  refine ⟨⟨reading.name, reading.value, check.status, check.priority, reading.alarmTime, false,
    check.message⟩, ?_, Alarm.opens_iff.mpr ⟨rfl, rfl⟩, priority⟩
  unfold TelemetryDisplay.newAlarm?
  rw [found, Option.bind_eq_bind, Option.bind_some, kept, set, Option.bind_eq_bind,
    Option.bind_some]
  exact if_neg quiet

/-- With one open alarm at most, a critical alarm is shown exactly when no milder one is open. -/
theorem showsCritical_iff {display : TelemetryDisplay V T}
    (unique : ∀ parameter, (display.openAlarms parameter).length ≤ 1) (operation : Operation V T) :
    ShowsCritical display operation ↔ FindsNoMilderAlarm display operation := by
  cases operation with
  | update reading =>
    refine forall_congr' fun limits => forall_congr' fun set => forall_congr' fun ordered =>
      forall_congr' fun critical => ?_
    cases found : display.openAlarm? reading.name with
    | none =>
      have empty := openAlarm?_eq_none_iff.mp found
      obtain ⟨alarm, new, opened, priority⟩ := newAlarm?_critical set ordered critical found
      refine iff_of_true ⟨alarm, ?_, priority⟩ fun alarm member => ?_
      · rw [TelemetryDisplay.openAlarms, alarms_update, new]
        exact List.mem_filter.mpr ⟨List.mem_append_right _ List.mem_cons_self, opened⟩
      · rw [empty] at member
        exact absurd member List.not_mem_nil
    | some alarm =>
      have kept := openAlarms_update_of_open found
      have single := openAlarms_eq_singleton (unique reading.name) found
      rw [kept, single]
      simp only [List.mem_singleton, exists_eq_left, forall_eq]
  | _ => exact Iff.rfl

/-- In a run every critical value shows a critical alarm exactly when no such update finds a milder
alarm open. -/
theorem showsCritical_run_iff (number : ℚ → V) (historySize : Nat) (startTime : T)
    (operations : List (Operation V T)) :
    EachStep operate ShowsCritical (TelemetryDisplay.init number historySize startTime) operations ↔
      EachStep operate FindsNoMilderAlarm (TelemetryDisplay.init number historySize startTime)
        operations := by
  refine @eachStep_iff_of_invariant _ _ operate
    (fun display => ∀ parameter, (display.openAlarms parameter).length ≤ 1) _ _ ?_ ?_ _ ?_
    operations
  · exact fun display operation unique _ => length_openAlarms_operate_le unique operation
  · exact fun display operation unique => showsCritical_iff unique operation
  · exact fun parameter => Nat.zero_le 1

end

/-- A temperature that rises to 65 and then to 75 shows the warning only. -/
theorem showsCritical_run_fails :
    ¬ ∀ (number : ℚ → ℚ) (historySize : Nat) (startTime : ℚ) (operations : List (Operation ℚ ℚ)),
      EachStep operate ShowsCritical (TelemetryDisplay.init number historySize startTime)
        operations := by
  intro claimed
  let reading (value : ℚ) : Reading ℚ ℚ := ⟨"temperature", value, "C", none, 0, 0⟩
  obtain ⟨-, shown, -⟩ := claimed id 1000 0 [.update (reading 65), .update (reading 75)]
  let limits : TelemetryLimit ℚ := ⟨some (-30), some (-20), some 60, some 70⟩
  have ordered : limits.Ordered := by
    unfold TelemetryLimit.Ordered
    decide +kernel
  obtain ⟨alarm, member, critical⟩ :=
    shown limits rfl ordered (Or.inr ⟨70, rfl, by decide +kernel⟩)
  have warnings : ((operate (operate (TelemetryDisplay.init id 1000 0) (.update (reading 65)))
      (.update (reading 75))).openAlarms "temperature").all
        (fun alarm => decide (alarm.priority = .warning)) = true := by
    decide +kernel
  have warning := of_decide_eq_true (List.all_eq_true.mp warnings alarm member)
  rw [critical] at warning
  cases warning

end SmartQso.GroundDisplay
