/-
This file models `adcs_control.c`. Numbers of type `double` are those of an ordered field,
with the functions of C on them as parameters, so nothing here depends on rounding. The
sensors are the simulated ones, as the code has no others; every call takes the times that
it reads.
-/

import Mathlib.Algebra.Field.Defs
import Mathlib.Algebra.Order.Field.Basic
import Mathlib.Data.Rat.Cast.Defs
import SmartQso.FaultMgmt

namespace SmartQso

/-! ### Constants -/

/-- `ADCS_DETUMBLE_SETTLING_MS`. -/
def adcsDetumbleSettlingMs : UInt64 := 300000

/-- `ADCS_DETUMBLE_TIMEOUT_MS`. -/
def adcsDetumbleTimeoutMs : UInt64 := 5400000

/-- `ADCS_SUN_SENSOR_COUNT`. -/
def adcsSunSensorCount : Nat := 6

/-! ### Types -/

/-- `Vec3_t`, over any type of components. -/
structure Vec3 (K : Type) where
  x : K
  y : K
  z : K
  deriving DecidableEq

/-- `AdcsMode_t`. Any other number can be set too, and is no mode of the controller. -/
inductive AdcsMode
  | idle
  | detumble
  | sunpoint
  | eclipse
  | safe
  | other (code : UInt32)
  deriving DecidableEq

/-- `MagData_t`. -/
structure MagData (K : Type) where
  field : Vec3 K
  fieldRate : Vec3 K
  timestampMs : UInt64
  valid : Bool

/-- `SunSensorData_t`. -/
structure SunSensorData (K : Type) where
  raw : Vector UInt16 adcsSunSensorCount
  sunVector : Vec3 K
  intensity : K
  sunVisible : Bool
  timestampMs : UInt64

/-- `MtqCommand_t`. -/
structure MtqCommand (K : Type) where
  dipole : Vec3 K
  pwm : Vec3 Int8
  enabled : Bool

/-- `AdcsState_t` of the controller. -/
structure AdcsControlState (K : Type) where
  mode : AdcsMode
  mag : MagData K
  sun : SunSensorData K
  mtq : MtqCommand K
  angularRateEst : Vec3 K
  rateMagnitude : K
  detumbleStartMs : UInt64
  settlingStartMs : UInt64
  detumbleComplete : Bool
  controlCycles : UInt32
  faultCount : UInt32

/-- The statics of `adcs_control.c`, and the fault log. -/
structure AdcsControl (K : Type) where
  state : AdcsControlState K
  magPrev : MagData K
  initialized : Bool
  simMag : Vec3 K
  simSun : Vec3 K
  simRate : Vec3 K
  simMode : Bool
  faults : FaultMgmt

/-- The functions of C on `double` that the controller uses: the square root, and the casts to the
small integers. -/
structure AdcsNumbers (K : Type) [Zero K] where
  sqrt : K → K
  sqrt_zero : sqrt 0 = 0
  toInt8 : K → Int8
  toUint16 : K → UInt16

/-- The times that an update reads: its argument, those of the two sensors, and the one of a fault
entry. -/
structure AdcsClock where
  nowMs : UInt64
  magMs : UInt64
  sunMs : UInt64
  faultMs : UInt64
  deriving DecidableEq

section

variable {K : Type} [Field K] [LinearOrder K] (numbers : AdcsNumbers K)

/-! ### Vectors -/

/-- The vector of zeros. -/
def Vec3.zero : Vec3 K := ⟨0, 0, 0⟩

/-- `vec3_magnitude`. -/
def vec3Magnitude (v : Vec3 K) : K := numbers.sqrt (v.x * v.x + v.y * v.y + v.z * v.z)

/-- `vec3_normalize`. -/
def vec3Normalize (v : Vec3 K) : Vec3 K :=
  let mag := vec3Magnitude numbers v
  if mag > 1e-10 then ⟨v.x / mag, v.y / mag, v.z / mag⟩ else v

/-- `vec3_cross`. -/
def vec3Cross (a b : Vec3 K) : Vec3 K :=
  ⟨a.y * b.z - a.z * b.y, a.z * b.x - a.x * b.z, a.x * b.y - a.y * b.x⟩

/-- `vec3_dot`. -/
def vec3Dot (a b : Vec3 K) : K := a.x * b.x + a.y * b.y + a.z * b.z

/-- `adcs_saturate_dipole`. -/
def adcsSaturateDipole (dipole : Vec3 K) (maxDipole : K) : Vec3 K :=
  let mag := vec3Magnitude numbers dipole
  if mag > maxDipole ∧ mag > 1e-10 then
    let scale := maxDipole / mag
    ⟨dipole.x * scale, dipole.y * scale, dipole.z * scale⟩
  else dipole

/-! ### State -/

/-- A cleared `MagData_t`. -/
def MagData.cleared : MagData K := ⟨Vec3.zero, Vec3.zero, 0, false⟩

/-- `AdcsState_t` as `adcs_init` leaves it. -/
def AdcsControlState.cleared : AdcsControlState K where
  mode := .idle
  mag := MagData.cleared
  sun := ⟨Vector.replicate _ 0, Vec3.zero, 0, false, 0⟩
  mtq := ⟨Vec3.zero, ⟨0, 0, 0⟩, false⟩
  angularRateEst := Vec3.zero
  rateMagnitude := 0
  detumbleStartMs := 0
  settlingStartMs := 0
  detumbleComplete := false
  controlCycles := 0
  faultCount := 0

/-- `adcs_init`. -/
def adcsInit (adcs : AdcsControl K) : AdcsControl K :=
  { adcs with
    state := AdcsControlState.cleared
    magPrev := MagData.cleared
    initialized := true }

/-- `adcs_set_sim_sensors`; none stands for a null pointer. -/
def adcsSetSimSensors (adcs : AdcsControl K) (mag sun rate : Option (Vec3 K)) : AdcsControl K :=
  { adcs with
    simMag := mag.getD adcs.simMag
    simSun := sun.getD adcs.simSun
    simRate := rate.getD adcs.simRate }

/-- `adcs_set_mode`. -/
def adcsSetMode (adcs : AdcsControl K) (mode : AdcsMode) (nowMs : UInt64) :
    AdcsControl K × SmartQsoResult :=
  if adcs.initialized then
    let changed := { adcs with state.mode := mode }
    if mode = .detumble ∧ adcs.state.mode ≠ .detumble then
      ({ changed with
        state.detumbleStartMs := nowMs
        state.settlingStartMs := 0
        state.detumbleComplete := false }, .ok)
    else (changed, .ok)
  else (adcs, .error)

/-! ### Sensors -/

/-- `adcs_read_magnetometer`. -/
def adcsReadMagnetometer (adcs : AdcsControl K) (data : MagData K) (nowMs : UInt64) :
    MagData K × SmartQsoResult :=
  if adcs.simMode then
    ({ data with field := adcs.simMag, timestampMs := nowMs, valid := true }, .ok)
  else (data, .error)

/-- `adcs_read_sun_sensors`. -/
def adcsReadSunSensors (adcs : AdcsControl K) (data : SunSensorData K) (nowMs : UInt64) :
    SunSensorData K × SmartQsoResult :=
  if adcs.simMode then
    let intensity := vec3Magnitude numbers adcs.simSun
    ({ raw := Vector.replicate _ (numbers.toUint16 (1000 * intensity))
       sunVector := vec3Normalize numbers adcs.simSun
       intensity := intensity
       sunVisible := decide (intensity > 0.1)
       timestampMs := nowMs }, .ok)
  else (data, .error)

/-! ### Rate estimation -/

/-- The seconds between two readings. -/
def secondsBetween (earlierMs laterMs : UInt64) : K := ((laterMs - earlierMs).toNat : K) / 1000

/-- A new rate is estimated from the reading before and this one: both are valid, they are far
enough apart, and the field is strong enough. -/
def estimatesRate (prev mag : MagData K) (nowMs : UInt64) : Bool :=
  prev.valid && mag.valid && decide ((secondsBetween prev.timestampMs nowMs : K) > 0.01) &&
    decide (vec3Magnitude numbers mag.field > 1)

/-- The rate of change of the field. -/
def fieldRateBetween (prev mag : MagData K) (nowMs : UInt64) : Vec3 K :=
  let dt : K := secondsBetween prev.timestampMs nowMs
  ⟨(mag.field.x - prev.field.x) / dt, (mag.field.y - prev.field.y) / dt,
    (mag.field.z - prev.field.z) / dt⟩

/-- The reading and the estimated rate after the estimation. -/
def estimateRate (prev mag : MagData K) (estimate : Vec3 K) (nowMs : UInt64) :
    MagData K × Vec3 K :=
  if estimatesRate numbers prev mag nowMs then
    let bDot := fieldRateBetween prev mag nowMs
    let bMag := vec3Magnitude numbers mag.field
    ({ mag with fieldRate := bDot }, ⟨bDot.x / bMag, bDot.y / bMag, bDot.z / bMag⟩)
  else (mag, estimate)

/-! ### Control -/

/-- `ADCS_MAX_DIPOLE`. -/
def adcsMaxDipole : K := 0.2

/-- `ADCS_DETUMBLE_RATE_THRESHOLD`. -/
def adcsDetumbleRateThreshold : K := 0.0087

/-- `adcs_compute_bdot`, with the gain `ADCS_BDOT_GAIN`. -/
def adcsComputeBdot (mag : MagData K) : Vec3 K :=
  if mag.valid then
    let k : K := 5.0e6
    adcsSaturateDipole numbers
      ⟨-k * mag.fieldRate.x * 1e-6, -k * mag.fieldRate.y * 1e-6, -k * mag.fieldRate.z * 1e-6⟩
      adcsMaxDipole
  else Vec3.zero

/-- `adcs_compute_sunpoint`, with the gain `ADCS_SUNPOINT_KP`. -/
def adcsComputeSunpoint (sun : SunSensorData K) (mag : MagData K) : Vec3 K :=
  if sun.sunVisible && mag.valid then
    let error := vec3Cross sun.sunVector ⟨1, 0, 0⟩
    let torque : Vec3 K := ⟨0.001 * error.x, 0.001 * error.y, 0.001 * error.z⟩
    let bMagSq := vec3Dot mag.field mag.field
    let dipole : Vec3 K :=
      if bMagSq > 1 then
        let tauCrossB := vec3Cross torque mag.field
        ⟨tauCrossB.x / bMagSq * 1e6, tauCrossB.y / bMagSq * 1e6, tauCrossB.z / bMagSq * 1e6⟩
      else Vec3.zero
    adcsSaturateDipole numbers dipole adcsMaxDipole
  else Vec3.zero

/-- The clamp of a PWM value. -/
def clampPwm (pwm : Int8) : Int8 := if pwm > 100 then 100 else if pwm < -100 then -100 else pwm

/-- The PWM value of a component of the dipole. -/
def pwmOf (component : K) : Int8 :=
  clampPwm (numbers.toInt8 (component / adcsMaxDipole * 100))

/-- `adcs_apply_dipole` of an initialized controller. -/
def adcsApplyDipole (state : AdcsControlState K) (dipole : Vec3 K) : AdcsControlState K :=
  { state with
    mtq :=
      { dipole := dipole
        pwm := ⟨pwmOf numbers dipole.x, pwmOf numbers dipole.y, pwmOf numbers dipole.z⟩
        enabled := true } }

/-- `adcs_disable_mtq` of an initialized controller. -/
def adcsDisableMtq (state : AdcsControlState K) : AdcsControlState K :=
  { state with mtq := ⟨Vec3.zero, ⟨0, 0, 0⟩, false⟩ }

/-- The timeout of the detumble mode has passed. -/
def AdcsControlState.timedOut (state : AdcsControlState K) (nowMs : UInt64) : Bool :=
  decide (state.detumbleStartMs > 0) &&
    decide (nowMs - state.detumbleStartMs > adcsDetumbleTimeoutMs)

/-- The check for convergence in the detumble mode. -/
def checkConvergence (state : AdcsControlState K) (nowMs : UInt64) : AdcsControlState K :=
  if state.rateMagnitude < adcsDetumbleRateThreshold then
    if state.settlingStartMs = 0 then { state with settlingStartMs := nowMs }
    else if nowMs - state.settlingStartMs > adcsDetumbleSettlingMs then
      { state with detumbleComplete := true, mode := .idle }
    else state
  else { state with settlingStartMs := 0 }

/-- The sensors are read, and the rate is estimated from them. -/
def adcsSense (adcs : AdcsControl K) (clock : AdcsClock) : AdcsControl K :=
  let read := (adcsReadMagnetometer adcs adcs.state.mag clock.magMs).1
  let sun := (adcsReadSunSensors numbers adcs adcs.state.sun clock.sunMs).1
  let estimated := estimateRate numbers adcs.magPrev read adcs.state.angularRateEst clock.nowMs
  { adcs with
    state :=
      { adcs.state with
        mag := estimated.1
        sun := sun
        angularRateEst := estimated.2
        rateMagnitude := vec3Magnitude numbers estimated.2 }
    magPrev := estimated.1 }

variable [CLayout FaultRecord]

/-- The control of the mode at hand, with the dipole it asks for. -/
def adcsControlMode (adcs : AdcsControl K) (clock : AdcsClock) : AdcsControl K × Vec3 K :=
  match adcs.state.mode with
  | .detumble =>
    if adcs.state.timedOut clock.nowMs then
      ({ adcs with
        state := { adcs.state with detumbleComplete := true, mode := .idle }
        faults := faultLogAdd adcs.faults .adcs .warning "Detumble timeout" 0 clock.faultMs },
        Vec3.zero)
    else
      ({ adcs with state := checkConvergence adcs.state clock.nowMs },
        adcsComputeBdot numbers adcs.state.mag)
  | .sunpoint =>
    if adcs.state.sun.sunVisible then
      (adcs, adcsComputeSunpoint numbers adcs.state.sun adcs.state.mag)
    else ({ adcs with state.mode := .eclipse }, Vec3.zero)
  | .eclipse =>
    if adcs.state.sun.sunVisible then ({ adcs with state.mode := .sunpoint }, Vec3.zero)
    else (adcs, Vec3.zero)
  | _ => (adcs, Vec3.zero)

/-- The modes with active control. -/
def AdcsMode.IsControlled (mode : AdcsMode) : Prop := mode = .detumble ∨ mode = .sunpoint

instance (mode : AdcsMode) : Decidable mode.IsControlled := inferInstanceAs (Decidable (_ ∨ _))

/-- `adcs_update`. -/
def adcsUpdate (adcs : AdcsControl K) (clock : AdcsClock) : AdcsControl K × SmartQsoResult :=
  if adcs.initialized then
    let controlled := adcsControlMode numbers (adcsSense numbers adcs clock) clock
    let state := controlled.1.state
    let commanded :=
      if state.mode.IsControlled then adcsApplyDipole numbers state controlled.2
      else adcsDisableMtq state
    ({ controlled.1 with
      state := { commanded with controlCycles := commanded.controlCycles + 1 } }, .ok)
  else (adcs, .error)

end

end SmartQso
