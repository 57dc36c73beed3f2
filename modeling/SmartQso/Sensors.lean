/-
This file models the polling of `sensors.c` and what the read functions do to the
rest of the system: they enter faults, and a hot reading starts the thermal
recovery. The value a read function returns is an input: the simulation computes
it from a base and noise, and here it is any value at all, as from a sensor in
flight. The members of `Sensor_t` that only format output are left out.
-/

import SmartQso.Eps

namespace SmartQso

/-- The read functions that `bind_sensor_behavior` binds to the type of a sensor. -/
inductive SensorType
  | softwareTimer
  | epsVoltage
  | epsCurrent
  | epsTemperature
  | statusHex2
  deriving DecidableEq

/-- `SensorValueType_t` of a bound sensor. -/
def SensorType.isNumeric : SensorType → Bool
  | .statusHex2 => false
  | _ => true

/-- `Sensor_t`. -/
structure Sensor where
  sensorType : SensorType
  channel : String
  periodMs : UInt32
  nextPollMs : UInt64
  lastValue : ℚ
  deriving DecidableEq

/-- The statics of `sensors.c`. -/
structure Sensors where
  sensors : List Sensor
  sunlit : Bool
  soc : ℚ

/-- `sensors_set_environment`. -/
def sensorsSetEnvironment (bank : Sensors) (sunlit : Bool) (soc : ℚ) : Sensors :=
  { bank with sunlit := sunlit, soc := soc }

section

variable [CLayout EpsRecord] [CLayout FaultRecord]

/-- The checks of `read_eps_voltage`. -/
def readEpsVoltage (sensor : Sensor) (bank : Sensors) (eps : Eps) (now : UInt64) : Eps :=
  if sensor.channel = "battery" then
    let base := 81 / 10 + 15 / 100 * (bank.soc - 1 / 2)
    if base < 7 then
      eps.logFault .voltageLow .error "Low battery voltage detected" bank.soc now
    else eps
  else if sensor.channel = "bus" then
    let base : ℚ := 5
    if base < 45 / 10 ∨ 55 / 10 < base then
      eps.logFault .voltageRange .error "Bus voltage out of range" bank.soc now
    else eps
  else eps

/-- The checks of `read_eps_current`. -/
def readEpsCurrent (sensor : Sensor) (bank : Sensors) (eps : Eps) (now : UInt64) : Eps :=
  if sensor.channel = "battery_discharge" then
    let value : ℚ :=
      if bank.sunlit then 5 / 100
      else if epsIsPayloadEnabled eps then 8 / 10
      else 25 / 100
    if 1 < value then
      eps.logFault .currentHigh .error "Excessive battery discharge current" bank.soc now
    else eps
  else eps

/-- The checks of `read_eps_temperature`. -/
def readEpsTemperature (bank : Sensors) (eps : Eps) (now : UInt64) : Eps :=
  let base : ℚ := (if bank.sunlit then 22 else 14) + if epsIsPayloadEnabled eps then 3 else 0
  if 45 < base then
    let logged := eps.logFault .tempHigh .error "High temperature detected" bank.soc now
    faultRecoverThermal logged bank.soc now
  else if base < -10 then
    eps.logFault .tempLow .warning "Low temperature detected" bank.soc now
  else eps

/-- What the read function bound to a sensor does to the rest of the system. -/
def readSensor (sensor : Sensor) (bank : Sensors) (eps : Eps) (now : UInt64) : Eps :=
  match sensor.sensorType with
  | .softwareTimer => eps
  | .epsVoltage => readEpsVoltage sensor bank eps now
  | .epsCurrent => readEpsCurrent sensor bank eps now
  | .epsTemperature => readEpsTemperature bank eps now
  | .statusHex2 => eps

/-- One round of the loop of `sensors_poll`, with the value the sensor returns. -/
def pollSensor (sensor : Sensor) (bank : Sensors) (eps : Eps) (currentMs : UInt64) (value : ℚ) :
    Eps × Sensor :=
  if currentMs ≥ sensor.nextPollMs then
    let period := if sensor.periodMs > 0 then sensor.periodMs.toUInt64 else 1000
    (readSensor sensor bank eps currentMs,
      { sensor with
        lastValue := if sensor.sensorType.isNumeric then value else sensor.lastValue
        nextPollMs := currentMs + period })
  else (eps, sensor)

/-- The loop of `sensors_poll` from the sensor at `index` on; `values` gives the value of each
sensor. -/
def pollFrom (bank : Sensors) (currentMs : UInt64) (values : Nat → ℚ) :
    Nat → Eps → List Sensor → Eps × List Sensor
  | _, eps, [] => (eps, [])
  | index, eps, sensor :: rest =>
    let polled := pollSensor sensor bank eps currentMs (values index)
    let others := pollFrom bank currentMs values (index + 1) polled.1 rest
    (others.1, polled.2 :: others.2)

/-- `sensors_poll`. -/
def sensorsPoll (bank : Sensors) (eps : Eps) (currentMs : UInt64) (values : Nat → ℚ) :
    Eps × Sensors :=
  let polled := pollFrom bank currentMs values 0 eps bank.sensors
  (polled.1, { bank with sensors := polled.2 })

end

end SmartQso
