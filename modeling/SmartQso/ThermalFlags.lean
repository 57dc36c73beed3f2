/-
This file compares the thermal fault flag with the temperatures it stands for. The
two flags are set from the value of each call alone, so they tell about the sensor
that was written last; they tell about all five sensors in exactly those runs in
which an unremarkable value never arrives while another sensor is out of range.
-/

import Mathlib.Algebra.Order.Field.Rat
import Mathlib.Logic.Function.Basic
import SmartQso.Runs
import SmartQso.SystemState

namespace SmartQso

open Runs

/-! ### Readings -/

/-- A call of `sys_set_temperature`. -/
structure TemperatureCall where
  sensor : UInt8
  tempC : ℚ
  now : UInt64

/-- The system state with a ghost: the latest reading of each sensor. -/
structure ThermalRun where
  sys : SystemState
  latest : UInt8 → ℚ

/-- The temperatures that are faults. -/
def OutOfRange (tempC : ℚ) : Prop := 60 < tempC ∨ tempC < -20

instance (tempC : ℚ) : Decidable (OutOfRange tempC) := inferInstanceAs (Decidable (_ ∨ _))

/-- The start of a run: the initial values count as readings. -/
def ThermalRun.init [CLayout SystemRecord] (now : UInt64) : ThermalRun where
  sys := sysStateInit now
  latest := fun sensor => if sensor = 4 then 0 else 25

/-- A call, with the reading noted if there is such a sensor. -/
def temperatureCall (run : ThermalRun) (call : TemperatureCall) : ThermalRun where
  sys := (sysSetTemperature run.sys call.sensor call.tempC call.now).getD run.sys
  latest :=
    if call.sensor < 5 then Function.update run.latest call.sensor call.tempC else run.latest

/-- The temperatures in the state are the latest readings. -/
def Stored (run : ThermalRun) : Prop :=
  let thermal := run.sys.record.thermal
  [thermal.obcTempC, thermal.epsTempC, thermal.batteryTempC, thermal.payloadTempC,
    thermal.externalTempC] = [0, 1, 2, 3, 4].map run.latest

/-- The fault flag is up exactly when some sensor is out of range. -/
def FlagReflectsSensors (run : ThermalRun) : Prop :=
  sysHasThermalFault run.sys = true ↔ ∃ sensor < 5, OutOfRange (run.latest sensor)

/-- A reading that is in range comes only while every other sensor is. -/
def OthersInRange (run : ThermalRun) (call : TemperatureCall) : Prop :=
  call.sensor < 5 → ¬ OutOfRange call.tempC →
    ∀ sensor < 5, sensor ≠ call.sensor → ¬ OutOfRange (run.latest sensor)

/-! ### Each call -/

theorem sensor_cases {sensor : UInt8} (known : sensor < 5) :
    sensor = 0 ∨ sensor = 1 ∨ sensor = 2 ∨ sensor = 3 ∨ sensor = 4 := by
  have small : sensor.toNat < 5 := UInt8.lt_iff_toNat_lt.mp known
  simp only [← UInt8.toNat_inj]
  show sensor.toNat = 0 ∨ sensor.toNat = 1 ∨ sensor.toNat = 2 ∨ sensor.toNat = 3 ∨ sensor.toNat = 4
  omega

/-- A sensor that exists is assigned. -/
theorem assignTemperature_known (thermal : ThermalState) {sensor : UInt8} (known : sensor < 5)
    (tempC : ℚ) : ∃ assigned, assignTemperature thermal sensor tempC = some assigned := by
  rcases sensor_cases known with rfl | rfl | rfl | rfl | rfl
  all_goals exact ⟨_, rfl⟩

/-- Another index is not. -/
theorem sysSetTemperature_unknown (sys : SystemState) {sensor : UInt8} (unknown : ¬ sensor < 5)
    (tempC : ℚ) (now : UInt64) : sysSetTemperature sys sensor tempC now = none := by
  have other : ∀ index : UInt8, index < 5 → ¬ sensor = index := by
    rintro index known rfl
    exact unknown known
  unfold sysSetTemperature assignTemperature
  rw [if_neg (other 0 (by decide)), if_neg (other 1 (by decide)), if_neg (other 2 (by decide)),
    if_neg (other 3 (by decide)), if_neg (other 4 (by decide))]

/-- After a reading the flag tells about that reading. -/
theorem sysSetTemperature_flag (sys : SystemState) {sensor : UInt8} (known : sensor < 5)
    (tempC : ℚ) (now : UInt64) :
    ∃ reached, sysSetTemperature sys sensor tempC now = some reached ∧
      sysHasThermalFault reached = decide (OutOfRange tempC) := by
  obtain ⟨assigned, same⟩ := assignTemperature_known sys.record.thermal known tempC
  unfold sysSetTemperature
  rw [same]
  refine ⟨_, rfl, ?_⟩
  exact (Bool.decide_or _ _).symm

theorem temperatureCall_unknown (run : ThermalRun) {call : TemperatureCall}
    (unknown : ¬ call.sensor < 5) : temperatureCall run call = run := by
  rw [temperatureCall, sysSetTemperature_unknown run.sys unknown, if_neg unknown]
  rfl

/-- A call keeps the flag a summary exactly when it is out of range itself or the others are in
range. -/
theorem temperatureCall_reflects_iff {run : ThermalRun} (reflects : FlagReflectsSensors run)
    (call : TemperatureCall) :
    FlagReflectsSensors (temperatureCall run call) ↔ OthersInRange run call := by
  by_cases known : call.sensor < 5
  · obtain ⟨reached, same, flag⟩ := sysSetTemperature_flag run.sys known call.tempC call.now
    have flagged : sysHasThermalFault (temperatureCall run call).sys = true ↔
        OutOfRange call.tempC := by
      rw [temperatureCall, same, Option.getD_some, flag, decide_eq_true_iff]
    have latest : (temperatureCall run call).latest =
        Function.update run.latest call.sensor call.tempC := if_pos known
    have here : (temperatureCall run call).latest call.sensor = call.tempC := by
      rw [latest, Function.update_self]
    have elsewhere : ∀ sensor, sensor ≠ call.sensor →
        (temperatureCall run call).latest sensor = run.latest sensor := by
      intro sensor other
      rw [latest, Function.update_of_ne other]
    unfold FlagReflectsSensors
    rw [flagged]
    constructor
    · intro summary _ inside sensor present other outside
      refine inside (summary.mpr ⟨sensor, present, ?_⟩)
      rw [elsewhere sensor other]
      exact outside
    · intro alone
      refine ⟨fun outside => ⟨call.sensor, known, here.symm ▸ outside⟩, ?_⟩
      rintro ⟨sensor, present, outside⟩
      by_contra inside
      by_cases other : sensor = call.sensor
      · rw [other, here] at outside
        exact inside outside
      · rw [elsewhere sensor other] at outside
        exact alone known inside sensor present other outside
  · rw [temperatureCall_unknown run known]
    exact iff_of_true reflects fun sensor => absurd sensor known

/-- The state stores the latest readings. -/
theorem temperatureCall_stored {run : ThermalRun} (stored : Stored run) (call : TemperatureCall) :
    Stored (temperatureCall run call) := by
  by_cases known : call.sensor < 5
  · have latest : (temperatureCall run call).latest =
        Function.update run.latest call.sensor call.tempC := if_pos known
    unfold Stored at stored ⊢
    rw [latest]
    obtain ⟨sensor, tempC, now⟩ := call
    simp only [List.map_cons, List.map_nil, List.cons.injEq, and_true] at stored ⊢
    obtain ⟨obc, eps, battery, payload, external⟩ := stored
    rcases sensor_cases known with rfl | rfl | rfl | rfl | rfl
    -- The one that is written holds the new reading, and the others are untouched.
    · exact ⟨rfl, eps, battery, payload, external⟩
    · exact ⟨obc, rfl, battery, payload, external⟩
    · exact ⟨obc, eps, rfl, payload, external⟩
    · exact ⟨obc, eps, battery, rfl, external⟩
    · exact ⟨obc, eps, battery, payload, rfl⟩
  · rw [temperatureCall_unknown run known]
    exact stored

/-! ### Every run -/

section

variable [CLayout SystemRecord]

theorem flagReflectsSensors_init (now : UInt64) : FlagReflectsSensors (ThermalRun.init now) := by
  refine iff_of_false Bool.false_ne_true ?_
  rintro ⟨sensor, _, outside⟩
  have range : (ThermalRun.init now).latest sensor = 0 ∨
      (ThermalRun.init now).latest sensor = 25 := by
    show (if sensor = 4 then (0 : ℚ) else 25) = 0 ∨ (if sensor = 4 then (0 : ℚ) else 25) = 25
    split
    · exact Or.inl rfl
    · exact Or.inr rfl
  rcases range with same | same
  all_goals
    rw [same] at outside
    exact absurd outside (by decide)

/-- In every sequence of temperature calls after the initialization, the state stores the latest
readings and a call with an unknown index changes nothing. The fault flag reflects all five
sensors throughout exactly when no reading in range arrives while another sensor is out of
range. -/
theorem thermal_flag_reflects_iff (now : UInt64) (calls : List TemperatureCall) :
    (Throughout temperatureCall FlagReflectsSensors (ThermalRun.init now) calls ↔
      EachStep temperatureCall OthersInRange (ThermalRun.init now) calls) ∧
    Throughout temperatureCall Stored (ThermalRun.init now) calls ∧
    EachStep temperatureCall (fun run call => ¬ call.sensor < 5 →
      sysSetTemperature run.sys call.sensor call.tempC call.now = none ∧
        temperatureCall run call = run) (ThermalRun.init now) calls := by
  refine ⟨?_, ?_, ?_⟩
  · have exact : ∀ (run : ThermalRun) (call : TemperatureCall), FlagReflectsSensors run →
        (FlagReflectsSensors (temperatureCall run call) ↔ OthersInRange run call) :=
      fun run call reflects => temperatureCall_reflects_iff reflects call
    exact throughout_iff_eachStep (fun run reflects => reflects) exact
      (fun run call reflects alone => (exact run call reflects).mpr alone)
      (flagReflectsSensors_init now) calls
  · have preserved : ∀ (run : ThermalRun) (call : TemperatureCall), Stored run →
        Stored (temperatureCall run call) :=
      fun run call stored => temperatureCall_stored stored call
    have initial : Stored (ThermalRun.init now) := by
      unfold Stored
      rfl
    exact throughout_of_preserved preserved initial calls
  · have unchanged : ∀ (run : ThermalRun) (call : TemperatureCall), True →
        ¬ call.sensor < 5 → sysSetTemperature run.sys call.sensor call.tempC call.now = none ∧
          temperatureCall run call = run := fun run call _ unknown =>
      ⟨sysSetTemperature_unknown run.sys unknown _ _, temperatureCall_unknown run unknown⟩
    exact eachStep_of_invariant (fun _ _ _ => trivial) unchanged trivial calls

omit [CLayout SystemRecord] in
/-- The OBC reports 70 degrees and the EPS then 25: the flag is down. -/
theorem thermal_fault_forgotten :
    letI := CLayout.blank SystemRecord
    let run := finalState temperatureCall (ThermalRun.init 0) [⟨0, 70, 1⟩, ⟨1, 25, 2⟩]
    run.latest 0 = 70 ∧ run.sys.record.thermal.obcTempC = 70 ∧
      sysHasThermalFault run.sys = false ∧ ¬ FlagReflectsSensors run := by
  intro run
  have hot : run.latest 0 = 70 := rfl
  have down : sysHasThermalFault run.sys = false := by decide +kernel
  refine ⟨hot, rfl, down, fun reflects => ?_⟩
  have outside : OutOfRange (run.latest 0) := by
    rw [hot]
    decide
  exact Bool.false_ne_true (down.symm.trans (reflects.mpr ⟨0, by decide, outside⟩))

end

end SmartQso
