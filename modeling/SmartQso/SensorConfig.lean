/-
This file models how `sensors.c` reads its configuration: a loop over the lines of a
file that knows the start of the list, the dash of an item and the fields of a sensor.
A file is a list of characters, one for each byte. The members of `Sensor_t` that do not
come from the file are left out, and so are failures of the file operations.
-/

import SmartQso.CNumerals
import SmartQso.Sensors
import SmartQso.TextLines

namespace SmartQso

open TextLines

/-! ### Constants -/

/-- `SMART_QSO_MAX_SENSORS`. -/
def smartQsoMaxSensors : Nat := 32

/-- `SMART_QSO_SENSOR_ID_LEN`. -/
def smartQsoSensorIdLen : Nat := 8

/-- `SMART_QSO_SENSOR_NAME_LEN`. -/
def smartQsoSensorNameLen : Nat := 64

/-- `SMART_QSO_SENSOR_UNITS_LEN`. -/
def smartQsoSensorUnitsLen : Nat := 16

/-- `SMART_QSO_SENSOR_TYPE_LEN`. -/
def smartQsoSensorTypeLen : Nat := 32

/-- `SMART_QSO_SENSOR_CHANNEL_LEN`. -/
def smartQsoSensorChannelLen : Nat := 32

/-! ### Sensors -/

/-- The members of `Sensor_t` that a configuration sets. -/
structure SensorEntry where
  id : List Char
  name : List Char
  type : List Char
  units : List Char
  channel : List Char
  periodMs : UInt32
  deriving DecidableEq

/-- A sensor that `memset` has cleared. -/
def SensorEntry.clear : SensorEntry := ⟨[], [], [], [], [], 0⟩

/-- `bind_sensor_behavior`: the read function for the type of a sensor. -/
def bindSensorBehavior (type : List Char) : Option SensorType :=
  if type = "software_timer".toList then some .softwareTimer
  else if type = "eps_voltage".toList then some .epsVoltage
  else if type = "eps_current".toList then some .epsCurrent
  else if type = "eps_temperature".toList then some .epsTemperature
  else if type = "status_hex2".toList then some .statusHex2
  else none

/-! ### Lines -/

/-- A mark around a value. -/
def isQuote (char : Char) : Bool := char == '"' || char == '\x27'

/-- The last step of `parse_keyval`: a quote at each end of a value is removed. -/
def removeQuotes (value : List Char) : List Char :=
  if value.head?.any isQuote ∧ 2 ≤ value.length ∧ value.getLast?.any isQuote then
    value.tail.dropLast
  else value

/-- `parse_keyval` with a buffer of 64 characters for the key and one of 128 for the value. -/
def parseKeyval (line : List Char) : List Char × List Char :=
  match line.dropWhile (· != ':') with
  | [] => ([], [])
  | _ :: afterColon =>
    let key := (line.takeWhile (· != ':')).take (64 - 1)
    let value := (afterColon.dropWhile isBlank).take (128 - 1)
    (trim key, removeQuotes (trim value))

/-- `strtoul` with base 10, where the end of the number is not asked for. -/
def strtoul (text : List Char) : UInt64 := (CNumerals.strtoul text).1

/-- Store a value under its key. A text is cut to its buffer. -/
def SensorEntry.set (sensor : SensorEntry) (key value : List Char) : SensorEntry :=
  if key = "id".toList then { sensor with id := value.take (smartQsoSensorIdLen - 1) }
  else if key = "name".toList then { sensor with name := value.take (smartQsoSensorNameLen - 1) }
  else if key = "type".toList then { sensor with type := value.take (smartQsoSensorTypeLen - 1) }
  else if key = "units".toList then
    { sensor with units := value.take (smartQsoSensorUnitsLen - 1) }
  else if key = "channel".toList then
    { sensor with channel := value.take (smartQsoSensorChannelLen - 1) }
  else if key = "period_ms".toList then { sensor with periodMs := (strtoul value).toUInt32 }
  else sensor

/-! ### The loop -/

/-- The locals of `sensors_load_yaml`, and the sensors stored so far. -/
structure SensorsLoad where
  inList : Bool
  haveItem : Bool
  cur : SensorEntry
  sensors : List SensorEntry
  deriving DecidableEq

/-- The state before the loop, after `sensors_init`. -/
def SensorsLoad.start : SensorsLoad := ⟨false, false, SensorEntry.clear, []⟩

/-- `add_sensor_from_fields`. -/
def addSensorFromFields (load : SensorsLoad) : SensorsLoad :=
  if load.sensors.length ≥ smartQsoMaxSensors then load
  else if (bindSensorBehavior load.cur.type).isNone then load
  else { load with sensors := load.sensors ++ [load.cur] }

/-- A round of the loop of `sensors_load_yaml`, with what `fgets` has read. -/
def loadLine (load : SensorsLoad) (piece : List Char) : SensorsLoad :=
  let line := trim (piece.takeWhile (· != '\x00'))
  if line.head? = some '#' ∨ line = [] then load
  else if !load.inList then
    if line = "sensors:".toList then { load with inList := true } else load
  else if line.take 2 = "- ".toList ∨ line = "-".toList then
    if load.haveItem then { addSensorFromFields load with cur := SensorEntry.clear }
    else { load with haveItem := true }
  else
    let (key, value) := parseKeyval line
    if key = [] then load else { load with cur := load.cur.set key value }

/-- The sensors after the loop, the last item included. -/
def SensorsLoad.finish (load : SensorsLoad) : List SensorEntry :=
  if load.haveItem then (addSensorFromFields load).sensors else load.sensors

/-- The sensors after `sensors_load_yaml`, with a line buffer of 256 characters. -/
def sensorsLoadYaml (text : List Char) : List SensorEntry :=
  ((fgetsPieces (256 - 1) (256 - 1) text).foldl loadLine SensorsLoad.start).finish

example : sensorsLoadYaml "sensors:\n  - id: BV\n    type: eps_voltage\n".toList =
    [{ SensorEntry.clear with type := "eps_voltage".toList }] := by
  decide

end SmartQso
