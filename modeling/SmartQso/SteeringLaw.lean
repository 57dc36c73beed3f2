/-
This file settles what the controller asks of the magnetorquers. Against the tumbling it
asks for a dipole against the rate of the field. Towards the sun it takes the torque as the
cross product of the sun and the axis and the dipole as that of torque and field, both in
the order opposite to the usual one, so that the dipole turns the axis to the sun in every
field. No dipole is longer than the greatest one, so the PWM values never leave their range.
-/

import Mathlib.LinearAlgebra.CrossProduct
import Mathlib.Tactic.Positivity
import SmartQso.DetumbleEvidence
import SmartQso.PwmSaturation

namespace SmartQso

open Matrix Runs

section

variable {K : Type}

/-! ### Vectors -/

/-- The components of a vector. -/
def Vec3.components (v : Vec3 K) : Fin 3 → K := ![v.x, v.y, v.z]

/-- The axis that is to point at the sun. -/
def sunAxis [Zero K] [One K] : Vec3 K := ⟨1, 0, 0⟩

variable [Field K]

theorem vec3Dot_eq (a b : Vec3 K) : vec3Dot a b = a.components ⬝ᵥ b.components := by
  simp only [vec3Dot, Vec3.components, dotProduct, Fin.sum_univ_three, Matrix.cons_val_zero,
    Matrix.cons_val_one, Matrix.cons_val]

theorem vec3Cross_components (a b : Vec3 K) :
    (vec3Cross a b).components = a.components ⨯₃ b.components := by
  rw [cross_apply]
  rfl

/-- A multiple of a vector. -/
def Vec3.times (v : Vec3 K) (factor : K) : Vec3 K := ⟨v.x * factor, v.y * factor, v.z * factor⟩

theorem Vec3.times_components (v : Vec3 K) (factor : K) :
    (v.times factor).components = factor • v.components := by
  funext index
  fin_cases index
  · exact mul_comm v.x factor
  · exact mul_comm v.y factor
  · exact mul_comm v.z factor

theorem Vec3.times_times (v : Vec3 K) (first second : K) :
    (v.times first).times second = v.times (first * second) := by
  simp only [Vec3.times, mul_assoc]

theorem vec3Dot_times (v : Vec3 K) (factor : K) :
    vec3Dot (v.times factor) (v.times factor) = vec3Dot v v * (factor * factor) := by
  simp only [vec3Dot, Vec3.times]
  ring

/-- A dipole that is a multiple of the cross product of a torque and the field is at right angles to
the field. -/
theorem times_cross_dot_field (torque field : Vec3 K) (factor : K) :
    vec3Dot ((vec3Cross torque field).times factor) field = 0 := by
  rw [vec3Dot_eq, Vec3.times_components, vec3Cross_components, smul_dotProduct, dotProduct_comm,
    dot_cross_self, smul_zero]

/-- What such a dipole does in the field against the torque. -/
theorem times_cross_cross_dot (torque field : Vec3 K) (factor : K) :
    vec3Dot torque (vec3Cross ((vec3Cross torque field).times factor) field) =
      -factor * vec3Dot (vec3Cross torque field) (vec3Cross torque field) := by
  rw [vec3Dot_eq, vec3Dot_eq, vec3Cross_components, Vec3.times_components, vec3Cross_components,
    map_smul, LinearMap.smul_apply, dotProduct_smul, triple_product_permutation,
    ← cross_anticomm torque.components field.components, dotProduct_neg, smul_eq_mul, mul_neg,
    neg_mul]

variable [LinearOrder K] [IsStrictOrderedRing K] {numbers : AdcsNumbers K}

theorem vec3Dot_self_nonneg (v : Vec3 K) : 0 ≤ vec3Dot v v :=
  add_nonneg (add_nonneg (mul_self_nonneg v.x) (mul_self_nonneg v.y)) (mul_self_nonneg v.z)

/-! ### Roots -/

/-- Roots are not negative, and their squares are exact to one percent from below. -/
structure AdcsNumbers.RootsClose (numbers : AdcsNumbers K) : Prop where
  nonneg : ∀ value, 0 ≤ value → 0 ≤ numbers.sqrt value
  close : ∀ value, 0 ≤ value → 99 * value ≤ 100 * (numbers.sqrt value * numbers.sqrt value)

omit [LinearOrder K] [IsStrictOrderedRing K] in
theorem vec3Magnitude_eq (numbers : AdcsNumbers K) (v : Vec3 K) :
    vec3Magnitude numbers v = numbers.sqrt (vec3Dot v v) := rfl

theorem adcsMaxDipole_pos : (0 : K) < adcsMaxDipole := by
  unfold adcsMaxDipole
  norm_num

/-- A saturated dipole is a multiple of the dipole, and hardly longer than the greatest one. -/
theorem adcsSaturateDipole_spec (roots : numbers.RootsClose) (dipole : Vec3 K) :
    (∃ factor, 0 ≤ factor ∧
        adcsSaturateDipole numbers dipole adcsMaxDipole = dipole.times factor) ∧
      99 * vec3Dot (adcsSaturateDipole numbers dipole adcsMaxDipole)
          (adcsSaturateDipole numbers dipole adcsMaxDipole) ≤
        100 * (adcsMaxDipole * adcsMaxDipole) := by
  have square := vec3Dot_self_nonneg dipole
  have root := roots.nonneg _ square
  have close := roots.close _ square
  rw [← vec3Magnitude_eq] at root close
  have greatest := @adcsMaxDipole_pos K _ _ _
  unfold adcsSaturateDipole
  dsimp only
  split_ifs with long
  · have positive : 0 < vec3Magnitude numbers dipole := greatest.trans long.1
    have scaled : (⟨dipole.x * (adcsMaxDipole / vec3Magnitude numbers dipole),
        dipole.y * (adcsMaxDipole / vec3Magnitude numbers dipole),
        dipole.z * (adcsMaxDipole / vec3Magnitude numbers dipole)⟩ : Vec3 K) =
          dipole.times (adcsMaxDipole / vec3Magnitude numbers dipole) := rfl
    rw [scaled]
    refine ⟨⟨_, div_nonneg greatest.le root, rfl⟩, ?_⟩
    rw [vec3Dot_times, ← mul_assoc, div_mul_div_comm, ← mul_div_assoc,
      div_le_iff₀ (mul_pos positive positive)]
    calc
      99 * vec3Dot dipole dipole * (adcsMaxDipole * adcsMaxDipole) ≤
          100 * (vec3Magnitude numbers dipole * vec3Magnitude numbers dipole) *
            (adcsMaxDipole * adcsMaxDipole) :=
        mul_le_mul_of_nonneg_right close (mul_self_nonneg _)
      _ = 100 * (adcsMaxDipole * adcsMaxDipole) *
          (vec3Magnitude numbers dipole * vec3Magnitude numbers dipole) := by ring
  · have short : vec3Magnitude numbers dipole ≤ adcsMaxDipole := by
      by_contra longer
      have tiny : (1e-10 : K) < adcsMaxDipole := by
        unfold adcsMaxDipole
        norm_num
      exact long ⟨not_le.mp longer, tiny.trans (not_le.mp longer)⟩
    refine ⟨⟨1, zero_le_one, ?_⟩, close.trans ?_⟩
    · simp only [Vec3.times, mul_one]
    · exact mul_le_mul_of_nonneg_left (mul_self_le_mul_self root short) (by norm_num)

/-! ### The two laws -/

omit [LinearOrder K] [IsStrictOrderedRing K] in
theorem vec3Cross_times (v w : Vec3 K) (factor : K) :
    vec3Cross (v.times factor) w = (vec3Cross v w).times factor := by
  simp only [vec3Cross, Vec3.times, Vec3.mk.injEq]
  refine ⟨?_, ?_, ?_⟩
  · ring
  · ring
  · ring

/-- The dipole against the tumbling is against the rate of the field. -/
theorem adcsComputeBdot_spec (roots : numbers.RootsClose) (mag : MagData K) :
    ∃ gain, 0 ≤ gain ∧ adcsComputeBdot numbers mag = mag.fieldRate.times (-gain) := by
  unfold adcsComputeBdot
  split_ifs with valid
  · dsimp only
    have law : (⟨-5.0e6 * mag.fieldRate.x * 1e-6, -5.0e6 * mag.fieldRate.y * 1e-6,
        -5.0e6 * mag.fieldRate.z * 1e-6⟩ : Vec3 K) = mag.fieldRate.times (-5) := by
      simp only [Vec3.times, Vec3.mk.injEq]
      refine ⟨?_, ?_, ?_⟩
      · ring
      · ring
      · ring
    rw [law]
    obtain ⟨⟨factor, nonneg, scaled⟩, -⟩ :=
      adcsSaturateDipole_spec roots (mag.fieldRate.times (-5))
    refine ⟨5 * factor, mul_nonneg (by norm_num) nonneg, ?_⟩
    rw [scaled, Vec3.times_times, neg_mul]
  · refine ⟨0, le_rfl, ?_⟩
    simp only [Vec3.times, neg_zero, mul_zero, Vec3.zero]

/-- The dipole towards the sun is a multiple of the cross product of the error and the field. -/
theorem adcsComputeSunpoint_spec (roots : numbers.RootsClose) (sun : SunSensorData K)
    (mag : MagData K) :
    ∃ factor, 0 ≤ factor ∧ adcsComputeSunpoint numbers sun mag =
      (vec3Cross (vec3Cross sun.sunVector sunAxis) mag.field).times factor := by
  have none : (Vec3.zero : Vec3 K) =
      (vec3Cross (vec3Cross sun.sunVector sunAxis) mag.field).times 0 := by
    simp only [Vec3.times, mul_zero, Vec3.zero]
  unfold adcsComputeSunpoint
  split_ifs with visible
  · dsimp only
    have torque : (⟨0.001 * (vec3Cross sun.sunVector ⟨1, 0, 0⟩).x,
        0.001 * (vec3Cross sun.sunVector ⟨1, 0, 0⟩).y,
        0.001 * (vec3Cross sun.sunVector ⟨1, 0, 0⟩).z⟩ : Vec3 K) =
          (vec3Cross sun.sunVector sunAxis).times 0.001 := by
      simp only [Vec3.times, sunAxis, mul_comm]
    rw [torque, vec3Cross_times]
    split_ifs with strong
    · have law : (⟨((vec3Cross (vec3Cross sun.sunVector sunAxis) mag.field).times 0.001).x /
            vec3Dot mag.field mag.field * 1e6,
          ((vec3Cross (vec3Cross sun.sunVector sunAxis) mag.field).times 0.001).y /
            vec3Dot mag.field mag.field * 1e6,
          ((vec3Cross (vec3Cross sun.sunVector sunAxis) mag.field).times 0.001).z /
            vec3Dot mag.field mag.field * 1e6⟩ : Vec3 K) =
            (vec3Cross (vec3Cross sun.sunVector sunAxis) mag.field).times
              (0.001 / vec3Dot mag.field mag.field * 1e6) := by
        simp only [Vec3.times, mul_div_assoc, mul_assoc]
      rw [law]
      obtain ⟨⟨factor, nonneg, scaled⟩, -⟩ := adcsSaturateDipole_spec roots
        ((vec3Cross (vec3Cross sun.sunVector sunAxis) mag.field).times
          (0.001 / vec3Dot mag.field mag.field * 1e6))
      refine ⟨_, mul_nonneg ?_ nonneg, scaled.trans (Vec3.times_times _ _ _)⟩
      have positive : 0 < vec3Dot mag.field mag.field := zero_lt_one.trans strong
      positivity
    · obtain ⟨⟨factor, -, scaled⟩, -⟩ := adcsSaturateDipole_spec roots (Vec3.zero : Vec3 K)
      refine ⟨0, le_rfl, ?_⟩
      rw [scaled]
      simp only [Vec3.times, Vec3.zero, zero_mul, mul_zero]
  · exact ⟨0, le_rfl, none⟩

theorem zero_short :
    99 * vec3Dot (Vec3.zero : Vec3 K) Vec3.zero ≤ 100 * (adcsMaxDipole * adcsMaxDipole) := by
  simp only [vec3Dot, Vec3.zero, mul_zero, add_zero]
  exact mul_nonneg (by norm_num) (mul_self_nonneg _)

/-- Both dipoles are hardly longer than the greatest one. -/
theorem adcsComputeBdot_short (roots : numbers.RootsClose) (mag : MagData K) :
    99 * vec3Dot (adcsComputeBdot numbers mag) (adcsComputeBdot numbers mag) ≤
      100 * (adcsMaxDipole * adcsMaxDipole) := by
  unfold adcsComputeBdot
  split_ifs with valid
  · exact (adcsSaturateDipole_spec roots _).2
  · exact zero_short

theorem adcsComputeSunpoint_short (roots : numbers.RootsClose) (sun : SunSensorData K)
    (mag : MagData K) :
    99 * vec3Dot (adcsComputeSunpoint numbers sun mag) (adcsComputeSunpoint numbers sun mag) ≤
      100 * (adcsMaxDipole * adcsMaxDipole) := by
  unfold adcsComputeSunpoint
  split_ifs with visible
  · exact (adcsSaturateDipole_spec roots _).2
  · exact zero_short

/-! ### Updates -/

/-- The command is what the mode asks for: against the rate of the field in the detumble mode, to
the sun without waste along the field in the sun-pointing mode, and nothing in the others. -/
structure AdcsControlState.Steers (state : AdcsControlState K) : Prop where
  detumbles : state.mode = .detumble →
    ∃ gain, 0 ≤ gain ∧ state.mtq.dipole = state.mag.fieldRate.times (-gain)
  crosses : state.mode = .sunpoint → vec3Dot state.mtq.dipole state.mag.field = 0
  turns : state.mode = .sunpoint →
    0 ≤ vec3Dot (vec3Cross sunAxis state.sun.sunVector)
      (vec3Cross state.mtq.dipole state.mag.field)
  rests : ¬ state.mode.IsControlled → state.mtq = ⟨Vec3.zero, ⟨0, 0, 0⟩, false⟩

omit [LinearOrder K] [IsStrictOrderedRing K] in
theorem vec3Cross_swap (v w : Vec3 K) : vec3Cross w v = (vec3Cross v w).times (-1) := by
  simp only [vec3Cross, Vec3.times, Vec3.mk.injEq]
  refine ⟨?_, ?_, ?_⟩
  · ring
  · ring
  · ring

omit [LinearOrder K] [IsStrictOrderedRing K] in
theorem vec3Dot_times_left (v w : Vec3 K) (factor : K) :
    vec3Dot (v.times factor) w = factor * vec3Dot v w := by
  simp only [vec3Dot, Vec3.times]
  ring

/-- A multiple of the cross product of the error and the field turns the axis to the sun. -/
theorem turns_of_times {sunVector field : Vec3 K} {factor : K} (nonneg : 0 ≤ factor) :
    0 ≤ vec3Dot (vec3Cross sunAxis sunVector)
      (vec3Cross ((vec3Cross (vec3Cross sunVector sunAxis) field).times factor) field) := by
  rw [vec3Cross_swap sunVector sunAxis, vec3Dot_times_left, times_cross_cross_dot, neg_mul,
    neg_mul, one_mul, neg_neg]
  exact mul_nonneg nonneg (vec3Dot_self_nonneg _)

variable [CLayout FaultRecord]

/-- The mode, and the dipole it asks for, before the command is given. -/
structure Asks (numbers : AdcsNumbers K) (state : AdcsControlState K) (dipole : Vec3 K) : Prop where
  short : 99 * vec3Dot dipole dipole ≤ 100 * (adcsMaxDipole * adcsMaxDipole)
  detumbles : state.mode = .detumble → dipole = adcsComputeBdot numbers state.mag
  points : state.mode = .sunpoint →
    dipole = adcsComputeSunpoint numbers state.sun state.mag ∨ dipole = Vec3.zero

omit [CLayout FaultRecord] in
theorem Asks.of_zero {state : AdcsControlState K} (other : state.mode ≠ .detumble) :
    Asks numbers state Vec3.zero :=
  ⟨zero_short, fun detumbles => absurd detumbles other, fun _ => Or.inr rfl⟩

omit [IsStrictOrderedRing K] [CLayout FaultRecord] in
theorem checkConvergence_mode (state : AdcsControlState K) (nowMs : UInt64) :
    (checkConvergence state nowMs).mode = state.mode ∨
      (checkConvergence state nowMs).mode = .idle := by
  unfold checkConvergence
  split_ifs
  · exact Or.inl rfl
  · exact Or.inr rfl
  · exact Or.inl rfl
  · exact Or.inl rfl

omit [IsStrictOrderedRing K] [CLayout FaultRecord] in
theorem checkConvergence_mag (state : AdcsControlState K) (nowMs : UInt64) :
    (checkConvergence state nowMs).mag = state.mag := by
  unfold checkConvergence
  split_ifs
  · rfl
  · rfl
  · rfl
  · rfl

theorem adcsControlMode_asks (roots : numbers.RootsClose) (adcs : AdcsControl K)
    (clock : AdcsClock) :
    Asks numbers (adcsControlMode numbers adcs clock).1.state
      (adcsControlMode numbers adcs clock).2 := by
  unfold adcsControlMode
  cases mode : adcs.state.mode with
  | detumble =>
    dsimp only
    split_ifs with late
    · exact Asks.of_zero AdcsMode.noConfusion
    · refine ⟨adcsComputeBdot_short roots _, fun _ => ?_, fun points => ?_⟩
      · rw [checkConvergence_mag]
      · rcases checkConvergence_mode adcs.state clock.nowMs with same | idle
        · rw [same, mode] at points
          cases points
        · rw [idle] at points
          cases points
  | sunpoint =>
    dsimp only
    split_ifs with visible
    · refine ⟨adcsComputeSunpoint_short roots _ _, fun detumbles => ?_, fun _ => Or.inl rfl⟩
      rw [mode] at detumbles
      cases detumbles
    · exact Asks.of_zero AdcsMode.noConfusion
  | eclipse =>
    dsimp only
    split_ifs with visible
    · exact Asks.of_zero AdcsMode.noConfusion
    · exact Asks.of_zero (by rw [mode]; exact AdcsMode.noConfusion)
  | idle => exact Asks.of_zero (by rw [mode]; exact AdcsMode.noConfusion)
  | safe => exact Asks.of_zero (by rw [mode]; exact AdcsMode.noConfusion)
  | other code => exact Asks.of_zero (by rw [mode]; exact AdcsMode.noConfusion)

omit [CLayout FaultRecord] in
/-- What is asked for is what the mode needs. -/
theorem steers_of_asks (roots : numbers.RootsClose) {state : AdcsControlState K} {dipole : Vec3 K}
    (asks : Asks numbers state dipole) (controlled : state.mode.IsControlled) :
    (adcsApplyDipole numbers state dipole).Steers where
  detumbles detumbles := by
    obtain ⟨gain, nonneg, law⟩ := adcsComputeBdot_spec roots state.mag
    exact ⟨gain, nonneg, (asks.detumbles detumbles).trans law⟩
  crosses points := by
    show vec3Dot dipole state.mag.field = 0
    rcases asks.points points with law | rest
    · obtain ⟨factor, -, scaled⟩ := adcsComputeSunpoint_spec roots state.sun state.mag
      rw [law, scaled, times_cross_dot_field]
    · rw [rest]
      simp only [vec3Dot, Vec3.zero, zero_mul, add_zero]
  turns points := by
    show 0 ≤ vec3Dot (vec3Cross sunAxis state.sun.sunVector) (vec3Cross dipole state.mag.field)
    rcases asks.points points with law | rest
    · obtain ⟨factor, nonneg, scaled⟩ := adcsComputeSunpoint_spec roots state.sun state.mag
      rw [law, scaled]
      exact turns_of_times nonneg
    · rw [rest]
      simp only [vec3Dot, vec3Cross, Vec3.zero, zero_mul, sub_zero, mul_zero, add_zero, le_refl]
  rests uncontrolled := absurd controlled uncontrolled

theorem adcsUpdate_steers (roots : numbers.RootsClose) {adcs : AdcsControl K}
    (initialized : adcs.initialized = true) (clock : AdcsClock) :
    (adcsUpdate numbers adcs clock).1.state.Steers := by
  have asks := adcsControlMode_asks roots (adcsSense numbers adcs clock) clock
  unfold adcsUpdate
  rw [if_pos initialized]
  dsimp only
  split_ifs with controlled
  · obtain ⟨detumbles, crosses, turns, rests⟩ := steers_of_asks roots asks controlled
    exact ⟨detumbles, crosses, turns, rests⟩
  · refine ⟨fun detumbles => ?_, fun points => ?_, fun points => ?_, fun _ => rfl⟩
    · exact absurd (Or.inl detumbles) controlled
    · exact absurd (Or.inr points) controlled
    · exact absurd (Or.inr points) controlled

/-! ### Every run of the controller -/

/-- An update leaves the command that its mode asks for. -/
def SteersSoundly (numbers : AdcsNumbers K) (run : AdcsRun K) (event : AdcsEvent K) : Prop :=
  ∀ clock, event = .update clock → (adcsRunEvent numbers run event).adcs.state.Steers

omit [IsStrictOrderedRing K] in
theorem adcsRunEvent_initialized {run : AdcsRun K} (initialized : run.adcs.initialized = true)
    (event : AdcsEvent K) : (adcsRunEvent numbers run event).adcs.initialized = true := by
  cases event with
  | update clock => exact adcsUpdate_initialized numbers initialized clock
  | setMode mode nowMs => exact adcsSetMode_initialized initialized mode nowMs
  | setSimSensors mag sun rate => exact initialized

/-- In every run after `adcs_init`, with any sensors, each update leaves a dipole against the rate
of the field, one at right angles to the field that turns the axis to the sun, or none, by the mode
it ends in. -/
theorem steersSoundly (roots : numbers.RootsClose) (boot : AdcsControl K)
    (events : List (AdcsEvent K)) :
    EachStep (adcsRunEvent numbers) (SteersSoundly numbers) (AdcsRun.initial boot) events := by
  have preserved : ∀ (run : AdcsRun K) (event : AdcsEvent K), run.adcs.initialized = true →
      (adcsRunEvent numbers run event).adcs.initialized = true :=
    fun _ event initialized => adcsRunEvent_initialized initialized event
  refine eachStep_of_invariant preserved ?_ rfl events
  rintro run _ initialized clock rfl
  exact adcsUpdate_steers roots initialized clock

end

/-! ### PWM values -/

/-- The PWM values are the dipole in percent of the greatest one, without its fraction. -/
def MtqCommand.InPercent (mtq : MtqCommand ℚ) : Prop :=
  ∀ axis, (mtq.pwm.on axis).toInt = truncated (100 * mtq.dipole.on axis / adcsMaxDipole) ∧
    -100 ≤ (mtq.pwm.on axis).toInt ∧ (mtq.pwm.on axis).toInt ≤ 100

theorem component_mul_self_le (v : Vec3 ℚ) (axis : Axis) : v.on axis * v.on axis ≤ vec3Dot v v := by
  have squares := And.intro (mul_self_nonneg v.x)
    (And.intro (mul_self_nonneg v.y) (mul_self_nonneg v.z))
  unfold vec3Dot
  cases axis with
  | x => exact (le_add_of_nonneg_right squares.2.1).trans (le_add_of_nonneg_right squares.2.2)
  | y => exact (le_add_of_nonneg_left squares.1).trans (le_add_of_nonneg_right squares.2.2)
  | z => exact le_add_of_nonneg_left (add_nonneg squares.1 squares.2.1)

/-- The components of a dipole that is hardly longer than the greatest one. -/
theorem component_bounds {dipole : Vec3 ℚ}
    (short : 99 * vec3Dot dipole dipole ≤ 100 * (adcsMaxDipole * adcsMaxDipole)) (axis : Axis) :
    -101 < 500 * dipole.on axis ∧ 500 * dipole.on axis < 101 := by
  have square := component_mul_self_le dipole axis
  have greatest : (adcsMaxDipole : ℚ) * adcsMaxDipole = 1 / 25 := by norm_num [adcsMaxDipole]
  rw [greatest] at short
  refine abs_lt_of_sq_lt_sq' ?_ (by norm_num)
  nlinarith only [short, square]

theorem adcsApplyDipole_inPercent {numbers : AdcsNumbers ℚ} (casts : CastsToInt8 numbers.toInt8)
    {dipole : Vec3 ℚ}
    (short : 99 * vec3Dot dipole dipole ≤ 100 * (adcsMaxDipole * adcsMaxDipole))
    (state : AdcsControlState ℚ) : (adcsApplyDipole numbers state dipole).mtq.InPercent := by
  intro axis
  obtain ⟨low, high⟩ := component_bounds short axis
  have fits : FitsInt8 (dipole.on axis) := ⟨by linarith only [low], by linarith only [high]⟩
  have stored : ((adcsApplyDipole numbers state dipole).mtq.pwm.on axis).toInt =
      cutToDuty (truncated (500 * dipole.on axis)) := by
    rw [← saturatedPwm_eq, ← pwmOf_of_fits casts fits]
    cases axis <;> rfl
  have least : -100 ≤ truncated (500 * dipole.on axis) := by
    have outside := mt (@truncated_le (-101) (by decide) (500 * dipole.on axis)).mp
      (not_le.mpr (by rw [Int.cast_neg, Int.cast_ofNat]; exact low))
    omega
  have greatest : truncated (500 * dipole.on axis) ≤ 100 := by
    have outside := mt (@le_truncated 101 (by decide) (500 * dipole.on axis)).mp
      (not_le.mpr (by rw [Int.cast_ofNat]; exact high))
    omega
  have kept : cutToDuty (truncated (500 * dipole.on axis)) =
      truncated (500 * dipole.on axis) := by
    unfold cutToDuty
    omega
  have percent : 100 * dipole.on axis / adcsMaxDipole = 500 * dipole.on axis := by
    rw [← duty_eq, mul_div_assoc, mul_comm]
  rw [stored, kept]
  refine ⟨?_, least, greatest⟩
  show truncated (500 * dipole.on axis) = truncated (100 * dipole.on axis / adcsMaxDipole)
  rw [percent]

theorem inPercent_off : (⟨Vec3.zero, ⟨0, 0, 0⟩, false⟩ : MtqCommand ℚ).InPercent := by
  intro axis
  cases axis <;> decide +kernel

section

variable [CLayout FaultRecord] {numbers : AdcsNumbers ℚ}

theorem adcsUpdate_inPercent (roots : numbers.RootsClose) (casts : CastsToInt8 numbers.toInt8)
    {adcs : AdcsControl ℚ} (initialized : adcs.initialized = true) (clock : AdcsClock) :
    (adcsUpdate numbers adcs clock).1.state.mtq.InPercent := by
  have asks := adcsControlMode_asks roots (adcsSense numbers adcs clock) clock
  unfold adcsUpdate
  rw [if_pos initialized]
  dsimp only
  split_ifs with controlled
  · exact adcsApplyDipole_inPercent casts asks.short _
  · exact inPercent_off

end

/-! ### Rational roots -/

/-- Roots of rational numbers to three digits, and the casts of C. -/
def digitNumbers : AdcsNumbers ℚ where
  sqrt value := (Nat.sqrt (value.num.toNat * value.den * 1000000) : ℚ) / (value.den * 1000 : ℕ)
  sqrt_zero := by decide +kernel
  toInt8 := zeroOutside.toInt8
  toUint16 := zeroOutside.toUint16

theorem sqrt_mul_self_close {number : Nat} (large : number = 0 ∨ 1000000 ≤ number) :
    99 * number ≤ 100 * (Nat.sqrt number * Nat.sqrt number) := by
  rcases large with rfl | large
  · exact Nat.zero_le _
  · have root : 1000 ≤ Nat.sqrt number := Nat.le_sqrt.mpr large
    have above := Nat.lt_succ_sqrt number
    rw [Nat.succ_mul_succ] at above
    nlinarith only [root, above]

theorem rootsClose_digitNumbers : digitNumbers.RootsClose where
  nonneg value _ := div_nonneg (Nat.cast_nonneg _) (Nat.cast_nonneg _)
  close value nonneg := by
    have digits : value.num.toNat * value.den * 1000000 = 0 ∨
        1000000 ≤ value.num.toNat * value.den * 1000000 := by
      omega
    have close := sqrt_mul_self_close digits
    have denominator : (0 : ℚ) < (value.den : ℚ) := Nat.cast_pos.mpr value.den_pos
    have whole : ((value.num.toNat : ℤ) : ℚ) = value.num :=
      congrArg _ (Int.toNat_of_nonneg (Rat.num_nonneg.mpr nonneg))
    have numerator : (value.num.toNat : ℚ) = value * value.den := by
      rw [Rat.mul_den_eq_num, ← whole, Int.cast_natCast]
    have cast : (99 : ℚ) * (value.num.toNat * value.den * 1000000) ≤
        100 * (Nat.sqrt (value.num.toNat * value.den * 1000000) *
          Nat.sqrt (value.num.toNat * value.den * 1000000)) := by
      exact_mod_cast close
    show 99 * value ≤ 100 * (_ / ((value.den * 1000 : ℕ) : ℚ) * (_ / ((value.den * 1000 : ℕ) : ℚ)))
    rw [div_mul_div_comm, ← mul_div_assoc, le_div_iff₀ (by positivity)]
    refine le_trans (le_of_eq ?_) cast
    push_cast
    rw [numerator]
    ring

/-- The first update after a change to the sun-pointing mode, with the sun off the solar axis. -/
def turnToSun : List (AdcsEvent ℚ) :=
  [.setMode .sunpoint 1, .setSimSensors (some ⟨20, 0, 30⟩) (some ⟨3 / 5, 4 / 5, 0⟩) none,
    .update ⟨1000, 1000, 1000, 1000⟩]

theorem steersSoundly_sunpoint :
    letI := CLayout.blank FaultRecord
    (finalState (adcsRunEvent digitNumbers) (AdcsRun.initial AdcsControl.boot)
        turnToSun).adcs.state.mtq.dipole.y < 0 ∧
      EachStep (adcsRunEvent digitNumbers) (SteersSoundly digitNumbers)
        (AdcsRun.initial AdcsControl.boot) turnToSun := by
  let := CLayout.blank FaultRecord
  exact ⟨by decide +kernel, steersSoundly rootsClose_digitNumbers AdcsControl.boot turnToSun⟩

end SmartQso
