/-
This file follows the array of sensors through any sequence of loads. The loader of a
file looks at the room that is left before it stores a sensor; the loader of the default
sensors does not. So the stores stay inside the array exactly when the defaults are
always loaded behind at most 23 sensors.
-/

import SmartQso.Runs
import SmartQso.SensorConfig

namespace SmartQso

open Runs TextLines

/-! ### The loaders -/

/-- A store behind the sensors. There is none past the end of the array. -/
def storeSensor (sensors : List SensorEntry) (sensor : SensorEntry) : Option (List SensorEntry) :=
  if sensors.length < smartQsoMaxSensors then some (sensors ++ [sensor]) else none

/-- The copies of the texts of a default sensor. -/
def defaultSensor (id name type units channel : String) (period : UInt32) : SensorEntry where
  id := id.toList.take (smartQsoSensorIdLen - 1)
  name := name.toList.take (smartQsoSensorNameLen - 1)
  type := type.toList.take (smartQsoSensorTypeLen - 1)
  units := units.toList.take (smartQsoSensorUnitsLen - 1)
  channel := channel.toList.take (smartQsoSensorChannelLen - 1)
  periodMs := period

/-- The definitions of `sensors_load_defaults`. -/
def sensorDefaults : List SensorEntry :=
  [ defaultSensor "SET" "Spacecraft Elapsed Timer" "software_timer" "s" "" 1000,
    defaultSensor "BV" "Battery Voltage" "eps_voltage" "V" "battery" 1000,
    defaultSensor "BT" "Battery Temperature" "eps_temperature" "C" "battery" 2000,
    defaultSensor "BUSV" "Bus Voltage" "eps_voltage" "V" "bus" 1000,
    defaultSensor "BDI" "Battery Discharge Current" "eps_current" "A" "battery_discharge" 1000,
    defaultSensor "JPC" "Jetson Payload Current" "eps_current" "A" "jetson" 1000,
    defaultSensor "SPV" "Solar Panel Voltage" "eps_voltage" "V" "solar" 1000,
    defaultSensor "SPC" "Solar Panel Current" "eps_current" "A" "solar" 1000,
    defaultSensor "ST" "Status Hex" "status_hex2" "hex" "" 1000 ]

/-- A round of the loop of `sensors_load_defaults`. -/
def loadDefault (sensors : List SensorEntry) (sensor : SensorEntry) : Option (List SensorEntry) :=
  if (bindSensorBehavior sensor.type).isSome then storeSensor sensors sensor else some sensors

/-- `sensors_load_defaults`, behind the sensors that are there. -/
def sensorsLoadDefaults (sensors : List SensorEntry) : Option (List SensorEntry) :=
  sensorDefaults.foldlM loadDefault sensors

/-- The loop of `sensors_load_yaml` over a file, behind the sensors that are there. -/
def sensorsLoadFile (sensors : List SensorEntry) (text : List Char) : List SensorEntry :=
  ((fgetsPieces (256 - 1) (256 - 1) text).foldl loadLine
    { SensorsLoad.start with sensors := sensors }).finish

/-- `sensors_load_yaml`, with the text of the file, if it can be opened, and whether it can be
closed. -/
def sensorsLoadYamlInto (sensors : List SensorEntry) (file : Option (List Char)) (closes : Bool) :
    List SensorEntry × SmartQsoResult :=
  match file with
  | none => (sensors, .errorIo)
  | some text =>
    let loaded := sensorsLoadFile sensors text
    (loaded, if !closes then .errorIo else if loaded.length > 0 then .ok else .error)

/-- After `sensors_init` this is the loader of a file. -/
theorem sensorsLoadFile_nil (text : List Char) :
    sensorsLoadFile [] text = sensorsLoadYaml text := rfl

/-! ### Calls -/

/-- A call that initializes or loads the sensors. -/
inductive SensorsCall
  | init
  | loadYaml (file : Option (List Char)) (closes : Bool)
  | loadDefaults

/-- The sensors after a call, or nothing after a store past the end of the array. -/
def sensorsCall (state : Option (List SensorEntry)) : SensorsCall → Option (List SensorEntry)
  | .init => state.map fun _ => []
  | .loadYaml file closes => state.map fun sensors => (sensorsLoadYamlInto sensors file closes).1
  | .loadDefaults => state.bind sensorsLoadDefaults

/-- No store has gone past the end of the array, and the count is at most its size. -/
def SensorsInside (state : Option (List SensorEntry)) : Prop :=
  ∃ sensors, state = some sensors ∧ sensors.length ≤ smartQsoMaxSensors

/-- The defaults are loaded behind sensors that leave room for nine more. -/
def RoomForDefaults (state : Option (List SensorEntry)) : SensorsCall → Prop
  | .loadDefaults => ∀ sensors, state = some sensors →
      sensors.length + sensorDefaults.length ≤ smartQsoMaxSensors
  | _ => True

/-- The loads of `init_system`: those of a file, and of the default sensors when that fails. -/
def initSystemSensors (state : Option (List SensorEntry)) (file : Option (List Char))
    (closes : Bool) : Option (List SensorEntry) :=
  (sensorsCall state .init).bind fun cleared =>
    let loaded := sensorsLoadYamlInto cleared file closes
    if loaded.2 ≠ .ok then sensorsLoadDefaults loaded.1 else some loaded.1

/-! ### The loader of a file -/

theorem length_addSensorFromFields {load : SensorsLoad}
    (fits : load.sensors.length ≤ smartQsoMaxSensors) :
    (addSensorFromFields load).sensors.length ≤ smartQsoMaxSensors := by
  unfold addSensorFromFields
  split
  · exact fits
  · rename_i room
    split
    · exact fits
    · rw [List.length_append, List.length_singleton]
      exact Nat.lt_of_not_le room

theorem length_loadLine {load : SensorsLoad} (fits : load.sensors.length ≤ smartQsoMaxSensors)
    (piece : List Char) : (loadLine load piece).sensors.length ≤ smartQsoMaxSensors := by
  unfold loadLine
  dsimp only
  split
  · exact fits
  · split
    · split <;> exact fits
    · split
      · split
        · exact length_addSensorFromFields fits
        · exact fits
      · split <;> exact fits

theorem length_foldl_loadLine (pieces : List (List Char)) {load : SensorsLoad}
    (fits : load.sensors.length ≤ smartQsoMaxSensors) :
    (pieces.foldl loadLine load).sensors.length ≤ smartQsoMaxSensors := by
  induction pieces generalizing load with
  | nil => exact fits
  | cons piece rest inductionHypothesis =>
    rw [List.foldl_cons]
    exact inductionHypothesis (length_loadLine fits piece)

/-- A file never overfills the array. -/
theorem length_sensorsLoadFile {sensors : List SensorEntry}
    (fits : sensors.length ≤ smartQsoMaxSensors) (text : List Char) :
    (sensorsLoadFile sensors text).length ≤ smartQsoMaxSensors := by
  unfold sensorsLoadFile SensorsLoad.finish
  split
  · exact length_addSensorFromFields (length_foldl_loadLine _ fits)
  · exact length_foldl_loadLine _ fits

theorem sensorsLoadYamlInto_ok_iff (sensors : List SensorEntry) (text : List Char)
    (closes : Bool) :
    (sensorsLoadYamlInto sensors (some text) closes).2 = .ok ↔
      closes = true ∧ 0 < (sensorsLoadFile sensors text).length := by
  unfold sensorsLoadYamlInto
  dsimp only
  cases closes with
  | false => exact iff_of_false SmartQsoResult.noConfusion (fun both => Bool.false_ne_true both.1)
  | true =>
    rw [Bool.not_true, if_neg Bool.false_ne_true, and_iff_right rfl]
    split
    case isTrue some => exact iff_of_true rfl some
    case isFalse none => exact iff_of_false SmartQsoResult.noConfusion none

theorem length_sensorsLoadYamlInto {sensors : List SensorEntry}
    (fits : sensors.length ≤ smartQsoMaxSensors) (file : Option (List Char)) (closes : Bool) :
    (sensorsLoadYamlInto sensors file closes).1.length ≤ smartQsoMaxSensors := by
  cases file with
  | none => exact fits
  | some text => exact length_sensorsLoadFile fits text

/-! ### The loader of the defaults -/

/-- Sensors that can all be bound are stored one behind the other, as far as the array reaches. -/
theorem foldlM_loadDefault {added : List SensorEntry}
    (bound : ∀ sensor ∈ added, (bindSensorBehavior sensor.type).isSome = true)
    (sensors : List SensorEntry) (fits : sensors.length ≤ smartQsoMaxSensors) :
    added.foldlM loadDefault sensors =
      if sensors.length + added.length ≤ smartQsoMaxSensors then some (sensors ++ added)
      else none := by
  induction added generalizing sensors with
  | nil =>
    rw [List.length_nil, Nat.add_zero, if_pos fits, List.append_nil]
    rfl
  | cons sensor rest inductionHypothesis =>
    obtain ⟨first, others⟩ := List.forall_mem_cons.mp bound
    rw [List.foldlM_cons, loadDefault, if_pos first, storeSensor, List.length_cons]
    by_cases room : sensors.length < smartQsoMaxSensors
    · have stored : (sensors ++ [sensor]).length = sensors.length + 1 := List.length_append
      rw [if_pos room, Option.bind_eq_bind, Option.bind_some,
        inductionHypothesis others _ (stored ▸ room), stored, List.append_assoc,
        List.singleton_append, Nat.add_right_comm, Nat.add_assoc]
    · rw [if_neg room, if_neg (by omega)]
      rfl

theorem sensorsLoadDefaults_eq {sensors : List SensorEntry}
    (fits : sensors.length ≤ smartQsoMaxSensors) :
    sensorsLoadDefaults sensors =
      if sensors.length + sensorDefaults.length ≤ smartQsoMaxSensors then
        some (sensors ++ sensorDefaults)
      else none :=
  foldlM_loadDefault (by decide) sensors fits

/-! ### Sequences of calls -/

theorem sensorsCall_inside_iff {state : Option (List SensorEntry)} (inside : SensorsInside state)
    (call : SensorsCall) : SensorsInside (sensorsCall state call) ↔ RoomForDefaults state call := by
  obtain ⟨sensors, rfl, fits⟩ := inside
  cases call with
  | init => exact iff_of_true ⟨[], rfl, Nat.zero_le _⟩ trivial
  | loadYaml file closes =>
    exact iff_of_true ⟨_, rfl, length_sensorsLoadYamlInto fits file closes⟩ trivial
  | loadDefaults =>
    have room : RoomForDefaults (some sensors) .loadDefaults ↔
        sensors.length + sensorDefaults.length ≤ smartQsoMaxSensors :=
      ⟨fun all => all sensors rfl, by rintro few _ ⟨⟩; exact few⟩
    rw [room]
    dsimp only [sensorsCall]
    rw [Option.bind_some, sensorsLoadDefaults_eq fits]
    split
    case isTrue few =>
      exact iff_of_true ⟨_, rfl, by rw [List.length_append]; exact few⟩ few
    case isFalse many =>
      exact iff_of_false (by rintro ⟨_, ⟨⟩, _⟩) many

theorem sensorsLoadDefaults_inside_iff {sensors : List SensorEntry}
    (fits : sensors.length ≤ smartQsoMaxSensors) :
    SensorsInside (sensorsLoadDefaults sensors) ↔
      sensors.length + sensorDefaults.length ≤ smartQsoMaxSensors := by
  have called := sensorsCall_inside_iff ⟨sensors, rfl, fits⟩ .loadDefaults
  exact called.trans ⟨fun room => room sensors rfl, by rintro few _ ⟨⟩; exact few⟩

/-- The loads of `init_system` stay inside the array unless a file with too many sensors cannot be
closed. -/
theorem initSystemSensors_inside_iff (sensors : List SensorEntry) (file : Option (List Char))
    (closes : Bool) :
    SensorsInside (initSystemSensors (some sensors) file closes) ↔
      (closes = false → ∀ text, file = some text →
        (sensorsLoadYaml text).length + sensorDefaults.length ≤ smartQsoMaxSensors) := by
  unfold initSystemSensors sensorsCall
  rw [Option.map_some, Option.bind_some]
  cases file with
  | none =>
    refine iff_of_true ?_ fun _ text absent => by cases absent
    exact (@sensorsLoadDefaults_inside_iff [] (Nat.zero_le _)).mpr (by decide)
  | some text =>
    have fits := @length_sensorsLoadFile [] (Nat.zero_le _) text
    have result := sensorsLoadYamlInto_ok_iff [] text closes
    by_cases ok : (sensorsLoadYamlInto [] (some text) closes).2 = .ok
    · obtain ⟨closed, -⟩ := result.mp ok
      dsimp only
      rw [if_neg (not_not.mpr ok)]
      exact iff_of_true ⟨_, rfl, fits⟩ fun failed => by rw [failed] at closed; cases closed
    · dsimp only
      rw [if_pos ok]
      refine (sensorsLoadDefaults_inside_iff fits).trans ⟨?_, fun few => ?_⟩
      · rintro few - _ ⟨⟩
        exact few
      · cases closes with
        | false => exact few rfl text rfl
        | true =>
          have empty := Nat.eq_zero_of_not_pos fun some => ok (result.mpr ⟨rfl, some⟩)
          show (sensorsLoadFile [] text).length + _ ≤ _
          rw [empty]
          exact Nat.le_of_ble_eq_true rfl

/-- In any sequence of calls the stores stay inside the array exactly when the default sensors are
always loaded behind few enough. -/
theorem sensorsInside_iff (calls : List SensorsCall) :
    Throughout sensorsCall SensorsInside (some []) calls ↔
      EachStep sensorsCall RoomForDefaults (some []) calls :=
  @throughout_iff_eachStep _ _ sensorsCall SensorsInside SensorsInside RoomForDefaults
    (fun _ inside => inside)
    (fun _ call inside => sensorsCall_inside_iff inside call)
    (fun _ call inside room => (sensorsCall_inside_iff inside call).mpr room)
    (some []) ⟨[], rfl, Nat.zero_le _⟩ calls

/-- The fourth load of the default sensors goes past the end of the array. -/
theorem sensorsInside_fails :
    ¬ ∀ calls : List SensorsCall, Throughout sensorsCall SensorsInside (some []) calls := by
  intro claimed
  obtain ⟨sensors, reached, _⟩ :=
    (claimed [.init, .loadDefaults, .loadDefaults, .loadDefaults, .loadDefaults]).finish
  have none : finalState sensorsCall (some [])
      [.init, .loadDefaults, .loadDefaults, .loadDefaults, .loadDefaults] = none := by
    decide +kernel
  rw [none] at reached
  cases reached

end SmartQso
