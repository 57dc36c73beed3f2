/-
This file compares the PWM values that `adcs_apply_dipole` stores with what they should be: the
duty cycle of a dipole, cut to the range of a duty cycle. The code casts to eight bits before it
clamps, and a cast of a number that does not fit gives anything. The two agree exactly where the
number fits. Numbers are exact rationals, so the rounding of the quotient and of the product to
`double` is outside of what is proved.
-/

import Mathlib.Data.Rat.Floor
import Mathlib.Tactic.Linarith
import Mathlib.Tactic.NormNum
import SmartQso.DetumbleHistory

namespace SmartQso

/-! ### The function -/

/-- `adcs_apply_dipole`. -/
def applyDipole {K : Type} [Field K] [LinearOrder K] (numbers : AdcsNumbers K)
    (adcs : AdcsControl K) (dipole : Option (Vec3 K)) : SmartQsoResult × AdcsControl K :=
  match dipole with
  | none => (.errorNullPtr, adcs)
  | some dipole =>
    if adcs.initialized then (.ok, { adcs with state := adcsApplyDipole numbers adcs.state dipole })
    else (.error, adcs)

/-- An axis of the satellite. -/
inductive Axis
  | x
  | y
  | z
  deriving DecidableEq

/-- The component of a vector on an axis. -/
def Vec3.on {K : Type} (vector : Vec3 K) : Axis → K
  | .x => vector.x
  | .y => vector.y
  | .z => vector.z

/-! ### Truncation -/

/-- A number without its fraction. -/
def truncated (value : ℚ) : ℤ := if 0 ≤ value then ⌊value⌋ else ⌈value⌉

theorem truncated_of_nonneg {value : ℚ} (nonneg : 0 ≤ value) : truncated value = ⌊value⌋ :=
  if_pos nonneg

theorem truncated_of_nonpos {value : ℚ} (nonpos : value ≤ 0) : truncated value = ⌈value⌉ := by
  unfold truncated
  split_ifs with nonneg
  · obtain rfl : value = 0 := le_antisymm nonpos nonneg
    rw [Int.floor_zero, Int.ceil_zero]
  · rfl

theorem truncated_nonneg {value : ℚ} (nonneg : 0 ≤ value) : 0 ≤ truncated value := by
  rw [truncated_of_nonneg nonneg]
  exact Int.floor_nonneg.mpr nonneg

theorem truncated_nonpos {value : ℚ} (nonpos : value ≤ 0) : truncated value ≤ 0 := by
  rw [truncated_of_nonpos nonpos]
  exact Int.ceil_le.mpr (by rw [Int.cast_zero]; exact nonpos)

theorem truncated_monotone {low high : ℚ} (below : low ≤ high) :
    truncated low ≤ truncated high := by
  rcases le_total 0 low with positive | negative
  · rw [truncated_of_nonneg positive, truncated_of_nonneg (le_trans positive below)]
    exact Int.floor_le_floor below
  · rcases le_total 0 high with above | under
    · exact le_trans (truncated_nonpos negative) (truncated_nonneg above)
    · rw [truncated_of_nonpos negative, truncated_of_nonpos under]
      exact Int.ceil_le_ceil below

/-- The numbers whose integer is at least a positive one. -/
theorem le_truncated {bound : ℤ} (positive : 0 < bound) {value : ℚ} :
    bound ≤ truncated value ↔ (bound : ℚ) ≤ value := by
  rcases le_total 0 value with nonneg | nonpos
  · rw [truncated_of_nonneg nonneg, Int.le_floor]
  · have less : (0 : ℚ) < bound := Int.cast_pos.mpr positive
    have none := truncated_nonpos nonpos
    constructor
    · intro reached
      omega
    · intro reached
      exact absurd (le_trans reached nonpos) (not_le.mpr less)

/-- The numbers whose integer is at most a negative one. -/
theorem truncated_le {bound : ℤ} (negative : bound < 0) {value : ℚ} :
    truncated value ≤ bound ↔ value ≤ (bound : ℚ) := by
  rcases le_total value 0 with nonpos | nonneg
  · rw [truncated_of_nonpos nonpos, Int.ceil_le]
  · have less : (bound : ℚ) < 0 := Int.cast_lt_zero.mpr negative
    have none := truncated_nonneg nonneg
    constructor
    · intro reached
      omega
    · intro reached
      exact absurd (le_trans nonneg reached) (not_le.mpr less)

/-- The quotient of the numerator and the denominator in C has no fraction either. -/
theorem truncated_eq_tdiv (value : ℚ) : truncated value = value.num.tdiv value.den := by
  rcases le_total 0 value with nonneg | nonpos
  · rw [truncated_of_nonneg nonneg, Rat.floor_def',
      Int.tdiv_eq_ediv_of_nonneg (Rat.num_nonneg.mpr nonneg)]
  · have flipped : 0 ≤ -value.num := Int.neg_nonneg.mpr (Rat.num_nonpos.mpr nonpos)
    rw [truncated_of_nonpos nonpos, Rat.ceil_def', ← Int.tdiv_eq_ediv_of_nonneg flipped,
      Int.neg_tdiv, neg_neg]

/-! ### Casts and clamps -/

/-- The cast of C to `int8_t` drops the fraction of a number. C leaves open what it gives when the
integer that stays is no `int8_t`. -/
def CastsToInt8 (toInt8 : ℚ → Int8) : Prop :=
  ∀ value, -129 < value → value < 128 → (toInt8 value).toInt = truncated value

/-- The range of a PWM value. -/
def cutToDuty (value : ℤ) : ℤ := max (-100) (min 100 value)

/-- The PWM value that a component of the dipole should have. -/
def saturatedPwm (component : ℚ) : ℤ := cutToDuty (truncated (100 * component / adcsMaxDipole))

/-- The component gives a PWM value that an `int8_t` holds before it is clamped. -/
def FitsInt8 (component : ℚ) : Prop := -129 < 500 * component ∧ 500 * component < 128

theorem duty_eq (component : ℚ) : component / adcsMaxDipole * 100 = 500 * component := by
  rw [adcsMaxDipole]
  ring

theorem saturatedPwm_eq (component : ℚ) :
    saturatedPwm component = cutToDuty (truncated (500 * component)) := by
  rw [saturatedPwm, ← duty_eq, mul_div_assoc, mul_comm]

theorem toInt_clampPwm (pwm : Int8) : (clampPwm pwm).toInt = cutToDuty pwm.toInt := by
  unfold clampPwm cutToDuty
  have hundred : (100 : Int8).toInt = 100 := by decide
  have minus : (-100 : Int8).toInt = -100 := by decide
  split_ifs with high low
  · have above := Int8.lt_iff_toInt_lt.mp high
    omega
  · have below := Int8.lt_iff_toInt_lt.mp low
    omega
  · have within := mt Int8.lt_iff_toInt_lt.mpr high
    have without := mt Int8.lt_iff_toInt_lt.mpr low
    omega

theorem cutToDuty_monotone {low high : ℤ} (below : low ≤ high) :
    cutToDuty low ≤ cutToDuty high := by
  unfold cutToDuty
  omega

theorem saturatedPwm_monotone {low high : ℚ} (below : low ≤ high) :
    saturatedPwm low ≤ saturatedPwm high := by
  rw [saturatedPwm_eq, saturatedPwm_eq]
  exact cutToDuty_monotone (truncated_monotone (by linarith))

theorem saturatedPwm_nonneg {component : ℚ} (nonneg : 0 ≤ component) :
    0 ≤ saturatedPwm component := by
  have whole : 0 ≤ truncated (500 * component) := truncated_nonneg (by linarith)
  rw [saturatedPwm_eq, cutToDuty]
  omega

theorem saturatedPwm_nonpos {component : ℚ} (nonpos : component ≤ 0) :
    saturatedPwm component ≤ 0 := by
  have whole : truncated (500 * component) ≤ 0 := truncated_nonpos (by linarith)
  rw [saturatedPwm_eq, cutToDuty]
  omega

/-! ### The values that are stored -/

/-- A component that fits is stored as it should be. -/
theorem pwmOf_of_fits {numbers : AdcsNumbers ℚ} (casts : CastsToInt8 numbers.toInt8)
    {component : ℚ} (fits : FitsInt8 component) :
    (pwmOf numbers component).toInt = saturatedPwm component := by
  rw [pwmOf, toInt_clampPwm, duty_eq, casts _ fits.1 fits.2, saturatedPwm_eq]

/-- The integer of a number that fits is an `int8_t`. -/
theorem truncated_bounds {value : ℚ} (low : -129 < value) (high : value < 128) :
    -128 ≤ truncated value ∧ truncated value ≤ 127 := by
  have least := mt (@truncated_le (-129) (by decide) value).mp
    (not_le.mpr (by rw [Int.cast_neg, Int.cast_ofNat]; exact low))
  have greatest := mt (@le_truncated 128 (by decide) value).mp
    (not_le.mpr (by rw [Int.cast_ofNat]; exact high))
  omega

/-- A component that does not fit should give one end of the range. -/
theorem saturatedPwm_ne_zero {component : ℚ} (outside : ¬ FitsInt8 component) :
    saturatedPwm component ≠ 0 := by
  rw [saturatedPwm_eq, cutToDuty]
  rcases not_and_or.mp outside with low | high
  · have least : truncated (500 * component) ≤ -129 :=
      (truncated_le (by decide)).mpr (by rw [Int.cast_neg, Int.cast_ofNat]; exact not_lt.mp low)
    omega
  · have greatest : 128 ≤ truncated (500 * component) :=
      (le_truncated (by decide)).mpr (by rw [Int.cast_ofNat]; exact not_lt.mp high)
    omega

/-- Numbers that are cast as in C, and to zero where C leaves the result open. -/
def zeroOutside : AdcsNumbers ℚ where
  sqrt _ := 0
  sqrt_zero := rfl
  toInt8 value := if -129 < value ∧ value < 128 then Int8.ofInt (truncated value) else 0
  toUint16 _ := 0

theorem casts_zeroOutside : CastsToInt8 zeroOutside.toInt8 := by
  intro value low high
  obtain ⟨least, greatest⟩ := truncated_bounds low high
  have cast : zeroOutside.toInt8 value = Int8.ofInt (truncated value) := if_pos ⟨low, high⟩
  rw [cast]
  exact Int8.toInt_ofInt_of_le least (Int.lt_add_one_of_le greatest)

theorem pwmOf_zeroOutside {component : ℚ} (outside : ¬ FitsInt8 component) :
    (pwmOf zeroOutside component).toInt = 0 := by
  have cast : zeroOutside.toInt8 (500 * component) = 0 := if_neg outside
  rw [pwmOf, duty_eq, cast]
  rfl

theorem pwm_on (numbers : AdcsNumbers ℚ) {adcs : AdcsControl ℚ}
    (initialized : adcs.initialized = true) (dipole : Vec3 ℚ) (axis : Axis) :
    (applyDipole numbers adcs (some dipole)).2.state.mtq.pwm.on axis =
      pwmOf numbers (dipole.on axis) := by
  dsimp only [applyDipole]
  rw [if_pos initialized]
  cases axis <;> rfl

/-- A component is stored as the saturated PWM value, whatever C leaves open, exactly when its
unsaturated one is held by an `int8_t`. The saturated value is monotone and has the sign of the
component. -/
theorem stored_saturated_iff {adcs : AdcsControl ℚ} (initialized : adcs.initialized = true) :
    (∀ (dipole : Vec3 ℚ) (axis : Axis),
      (∀ numbers : AdcsNumbers ℚ, CastsToInt8 numbers.toInt8 →
        ((applyDipole numbers adcs (some dipole)).2.state.mtq.pwm.on axis).toInt =
          saturatedPwm (dipole.on axis)) ↔
        FitsInt8 (dipole.on axis)) ∧
    (∀ low high, low ≤ high → saturatedPwm low ≤ saturatedPwm high) ∧
    ∀ component, (0 ≤ component → 0 ≤ saturatedPwm component) ∧
      (component ≤ 0 → saturatedPwm component ≤ 0) := by
  refine ⟨fun dipole axis => ⟨?_, ?_⟩, fun _ _ => saturatedPwm_monotone,
    fun component => ⟨saturatedPwm_nonneg, saturatedPwm_nonpos⟩⟩
  · intro stored
    by_contra outside
    have zero := stored zeroOutside casts_zeroOutside
    rw [pwm_on zeroOutside initialized, pwmOf_zeroOutside outside] at zero
    exact saturatedPwm_ne_zero outside zero.symm
  · intro fits numbers casts
    rw [pwm_on numbers initialized]
    exact pwmOf_of_fits casts fits

/-- A weak dipole is stored as it should be. -/
theorem stored_saturated_sample :
    ((applyDipole zeroOutside (adcsInit AdcsControl.boot) (some ⟨0.1, 0, 0⟩)).2.state.mtq.pwm.on
      .x).toInt = saturatedPwm 0.1 :=
  ((stored_saturated_iff rfl).1 ⟨0.1, 0, 0⟩ .x).mpr (by constructor <;> norm_num [Vec3.on])
    zeroOutside casts_zeroOutside

/-! ### A strong dipole -/

/-- The cast that keeps the low eight bits of the integer. -/
theorem casts_rationalNumbers : CastsToInt8 rationalNumbers.toInt8 := by
  intro value low high
  obtain ⟨least, greatest⟩ := truncated_bounds low high
  have cast : rationalNumbers.toInt8 value = Int8.ofInt (truncated value) := by
    rw [truncated_eq_tdiv]
    rfl
  rw [cast]
  exact Int8.toInt_ofInt_of_le least (Int.lt_add_one_of_le greatest)

/-- Twice the greatest dipole on an axis is stored as a negative PWM value by the cast that keeps
the low eight bits. -/
theorem strong_dipole_wraps :
    CastsToInt8 rationalNumbers.toInt8 ∧
    (applyDipole rationalNumbers (adcsInit AdcsControl.boot) (some ⟨0.4, 0, 0⟩)).1 = .ok ∧
    ((applyDipole rationalNumbers (adcsInit AdcsControl.boot)
      (some ⟨0.4, 0, 0⟩)).2.state.mtq.pwm.on .x).toInt = -56 ∧
    saturatedPwm 0.4 = 100 :=
  ⟨casts_rationalNumbers, rfl, by decide +kernel, by decide +kernel⟩

end SmartQso
