/-
This file models `predict_passes_simple` of `tools/pass_predictor.py`, which makes up
passes where there are no orbital elements. Numbers are exact rationals and times are
seconds. The gaps between the passes vary with a period of ten, and the file proves that
they never add up to more than the window: the passes are as many as the latitude and the
length of the window say, and they do not overlap.
-/

import Mathlib.Algebra.Order.Archimedean.Basic
import Mathlib.Tactic.FieldSimp
import Mathlib.Tactic.GCongr
import Mathlib.Tactic.Linarith
import SmartQso.PassPredictor

namespace SmartQso.Tools

/-! ### The passes -/

/-- A `SatellitePass` with times that need not be whole seconds. -/
structure SyntheticPass where
  aosUtc : ℚ
  losUtc : ℚ
  maxElevation : ℚ
  durationSeconds : Int
  azimuthAos : Nat
  azimuthLos : Nat
  deriving DecidableEq

/-- `int`, which cuts the fraction. -/
def truncate (value : ℚ) : Int := if value < 0 then ⌈value⌉ else ⌊value⌋

/-- `passes_per_day`. -/
def passesPerDay (station : GroundStation) : ℚ := 4 + 3 * (|station.latitude| / 90)

/-- `gap_minutes`. -/
def gapMinutes (perDay : ℚ) (i : Nat) : ℚ :=
  24 * 60 / perDay * (8 / 10 + 4 / 10 * (i * 7 % 10 : Nat) / 10)

/-- The pass that a round of the loop adds. -/
def syntheticPass (minElevation currentTime : ℚ) (i : Nat) : SyntheticPass :=
  let maxEl := minElevation + (90 - minElevation) * (i * 13 % 10 : Nat) / 10
  let duration := truncate (60 + 600 * maxEl / 90)
  let aosAz := i * 37 % 360
  { aosUtc := currentTime
    losUtc := currentTime + duration
    maxElevation := roundTo 10 maxEl
    durationSeconds := duration
    azimuthAos := aosAz
    azimuthLos := (aosAz + 180 + i * 23 % 60 - 30) % 360 }

/-- The loop of `predict_passes_simple`, with the number of rounds that are left. -/
def simpleLoop (perDay minElevation endTime : ℚ) : Nat → Nat → ℚ → List SyntheticPass
  | 0, _, _ => []
  | rounds + 1, i, currentTime =>
    let currentTime := currentTime + 60 * gapMinutes perDay i
    if currentTime > endTime then []
    else syntheticPass minElevation currentTime i ::
      simpleLoop perDay minElevation endTime rounds (i + 1) currentTime

/-- `predict_passes_simple`. -/
def predictPassesSimple (station : GroundStation) (startTime : ℚ) (durationHours : Int)
    (minElevation : ℚ) : List SyntheticPass :=
  let perDay := passesPerDay station
  let numPasses := truncate (perDay * durationHours / 24)
  simpleLoop perDay minElevation (startTime + 3600 * durationHours) numPasses.toNat 0 startTime

/-! ### The gaps -/

/-- The varying parts of the first gaps together. -/
def gapSum : Nat → Nat
  | 0 => 0
  | i + 1 => gapSum i + i * 7 % 10

/-- Ten gaps together are always the same. -/
theorem gapSum_add_ten (i : Nat) : gapSum (i + 10) = gapSum i + 45 := by
  induction i with
  | zero => rfl
  | succ i inductionHypothesis =>
    have period : (i + 10) * 7 % 10 = i * 7 % 10 := by omega
    show gapSum (i + 10) + (i + 10) * 7 % 10 = gapSum i + i * 7 % 10 + 45
    rw [inductionHypothesis, period]
    omega

theorem gapSum_rounds (rounds rest : Nat) :
    gapSum (10 * rounds + rest) = 45 * rounds + gapSum rest := by
  induction rounds with
  | zero => rw [Nat.mul_zero, Nat.zero_add, Nat.zero_add]
  | succ rounds inductionHypothesis =>
    have next : 10 * (rounds + 1) + rest = 10 * rounds + rest + 10 := by omega
    rw [next, gapSum_add_ten, inductionHypothesis]
    omega

/-- The gaps never get ahead of the mean. -/
theorem gapSum_le (i : Nat) : gapSum i ≤ 5 * i := by
  have small : ∀ rest < 10, gapSum rest ≤ 5 * rest := by decide
  have rest := small (i % 10) (Nat.mod_lt i (by decide))
  have split := Nat.div_add_mod i 10
  have rounds := gapSum_rounds (i / 10) (i % 10)
  rw [split] at rounds
  omega

/-- When the loop is at a pass. -/
def passTime (perDay startTime : ℚ) (i : Nat) : ℚ :=
  startTime + 86400 / perDay * (4 / 5 * i + gapSum i / 25)

theorem passTime_zero (perDay startTime : ℚ) : passTime perDay startTime 0 = startTime := by
  simp [passTime, gapSum]

theorem passTime_succ (perDay startTime : ℚ) (i : Nat) :
    passTime perDay startTime i + 60 * gapMinutes perDay i = passTime perDay startTime (i + 1) := by
  have next : (gapSum (i + 1) : ℚ) = gapSum i + (i * 7 % 10 : Nat) := by rw [gapSum, Nat.cast_add]
  unfold passTime gapMinutes
  rw [next, Nat.cast_succ]
  ring

section

variable {perDay : ℚ} (positive : 0 < perDay) (startTime : ℚ)
include positive

/-- The passes up to one take no longer than they would at equal distances. -/
theorem passTime_le (i : Nat) : passTime perDay startTime i ≤ startTime + 86400 / perDay * i := by
  have ahead : (gapSum i : ℚ) ≤ 5 * i := by exact_mod_cast gapSum_le i
  have share : 4 / 5 * (i : ℚ) + gapSum i / 25 ≤ i := by linarith
  have scale : 0 ≤ 86400 / perDay := (div_pos (by norm_num) positive).le
  exact add_le_add_right (mul_le_mul_of_nonneg_left share scale) startTime

/-- Between two passes there are at least four fifths of the mean distance. -/
theorem passTime_apart {first second : Nat} (less : first < second) :
    passTime perDay startTime first + 86400 / perDay * (4 / 5) ≤
      passTime perDay startTime second := by
  have scale : 0 ≤ 86400 / perDay := (div_pos (by norm_num) positive).le
  have step (i : Nat) : passTime perDay startTime i + 86400 / perDay * (4 / 5) ≤
      passTime perDay startTime (i + 1) := by
    have part : (0 : ℚ) ≤ (i * 7 % 10 : Nat) := Nat.cast_nonneg _
    have gap : 60 * gapMinutes perDay i =
        86400 / perDay * (4 / 5) + 86400 / perDay * ((i * 7 % 10 : Nat) / 25) := by
      unfold gapMinutes
      ring
    have more : 0 ≤ 86400 / perDay * ((i * 7 % 10 : Nat) / 25 : ℚ) := by positivity
    linarith only [passTime_succ perDay startTime i, gap, more]
  induction second, less using Nat.le_induction with
  | base => exact step first
  | succ second _ inductionHypothesis =>
    have distance : 0 ≤ 86400 / perDay * (4 / 5) := by positivity
    linarith only [inductionHypothesis, step second, distance]

end

/-- The loop adds a pass at each of the times, as long as they are in the window. -/
theorem simpleLoop_eq (perDay minElevation startTime : ℚ) {endTime : ℚ} (rounds i : Nat)
    (inside : ∀ index, i < index → index ≤ i + rounds →
      passTime perDay startTime index ≤ endTime) :
    simpleLoop perDay minElevation endTime rounds i (passTime perDay startTime i) =
      (List.range' i rounds).map fun index =>
        syntheticPass minElevation (passTime perDay startTime (index + 1)) index := by
  induction rounds generalizing i with
  | zero => rfl
  | succ rounds inductionHypothesis =>
    have next := inside (i + 1) (Nat.lt_succ_self i) (by omega)
    rw [simpleLoop, passTime_succ, if_neg (not_lt.mpr next), List.range'_succ, List.map_cons,
      inductionHypothesis (i + 1) fun index after before => inside index (by omega) (by omega)]

/-! ### The window -/

theorem truncate_of_nonneg {value : ℚ} (nonneg : 0 ≤ value) : truncate value = ⌊value⌋ :=
  if_neg (not_lt.mpr nonneg)

theorem le_of_le_truncate {value : ℚ} {number : Nat} (some : 0 < number)
    (bound : number ≤ (truncate value).toNat) : (number : ℚ) ≤ value := by
  have reached : (number : Int) ≤ truncate value := by omega
  unfold truncate at reached
  split at reached
  case isTrue negative =>
    have low : ⌈value⌉ ≤ 0 := Int.ceil_le.mpr (by exact_mod_cast negative.le)
    omega
  case isFalse => exact_mod_cast Int.le_floor.mp reached

theorem passesPerDay_pos (station : GroundStation) : 0 < passesPerDay station := by
  unfold passesPerDay
  positivity

/-- At a latitude there are at most seven passes a day. -/
theorem passesPerDay_le {station : GroundStation} (latitude : |station.latitude| ≤ 90) :
    passesPerDay station ≤ 7 := by
  unfold passesPerDay
  linarith only [latitude]

/-- With a minimum above the horizon a pass lasts from one minute to eleven. -/
theorem syntheticPass_lasts {minElevation : ℚ} (low : 0 ≤ minElevation) (high : minElevation ≤ 90)
    (currentTime : ℚ) (i : Nat) :
    60 ≤ (syntheticPass minElevation currentTime i).durationSeconds ∧
      (syntheticPass minElevation currentTime i).durationSeconds ≤ 660 := by
  have digit : (i * 13 % 10 : Nat) < 10 := Nat.mod_lt _ (by decide)
  have most : ((i * 13 % 10 : Nat) : ℚ) ≤ 10 := by exact_mod_cast digit.le
  have share : (0 : ℚ) ≤ (90 - minElevation) * (i * 13 % 10 : Nat) / 10 := by
    have room : 0 ≤ 90 - minElevation := sub_nonneg.mpr high
    positivity
  have whole : (90 - minElevation) * (i * 13 % 10 : Nat) ≤ (90 - minElevation) * 10 :=
    mul_le_mul_of_nonneg_left most (sub_nonneg.mpr high)
  show 60 ≤ truncate _ ∧ truncate _ ≤ 660
  rw [truncate_of_nonneg (by linarith only [low, share]), Int.le_floor, ← Int.lt_add_one_iff,
    Int.floor_lt]
  constructor
  · push_cast
    linarith only [low, share]
  · push_cast
    linarith only [low, whole]

/-- The passes fill the window: they are as many as the passes of a day say, begin inside of it,
last from one minute to eleven and do not overlap. -/
structure FillsWindow (station : GroundStation) (startTime : ℚ) (durationHours : Int)
    (passes : List SyntheticPass) : Prop where
  count : passes.length = (truncate (passesPerDay station * durationHours / 24)).toNat
  inside : ∀ pass ∈ passes, startTime < pass.aosUtc ∧
    pass.aosUtc ≤ startTime + 3600 * durationHours
  lasts : ∀ pass ∈ passes, 60 ≤ pass.durationSeconds ∧ pass.durationSeconds ≤ 660 ∧
    pass.losUtc = pass.aosUtc + pass.durationSeconds
  apart : passes.Pairwise fun first second => first.losUtc < second.aosUtc

/-- The number of passes of a window. -/
def passCount (station : GroundStation) (durationHours : Int) : Nat :=
  (truncate (passesPerDay station * durationHours / 24)).toNat

/-- No pass of the window begins behind its end. -/
theorem passTime_inside (station : GroundStation) (startTime : ℚ) (durationHours : Int)
    {index : Nat} (some : 0 < index) (bound : index ≤ passCount station durationHours) :
    passTime (passesPerDay station) startTime index ≤ startTime + 3600 * durationHours := by
  have positive := passesPerDay_pos station
  have share := le_of_le_truncate some bound
  have scale : 0 ≤ 86400 / passesPerDay station := (div_pos (by norm_num) positive).le
  have whole : 86400 / passesPerDay station * (passesPerDay station * durationHours / 24) =
      3600 * durationHours := by
    field_simp
    ring
  calc passTime (passesPerDay station) startTime index
      ≤ startTime + 86400 / passesPerDay station * index := passTime_le positive startTime index
    _ ≤ startTime + 86400 / passesPerDay station * (passesPerDay station * durationHours / 24) := by
      gcongr
    _ = startTime + 3600 * durationHours := by rw [whole]

/-- All passes of the window are made up. -/
theorem predictPassesSimple_eq (station : GroundStation) (startTime : ℚ) (durationHours : Int)
    (minElevation : ℚ) :
    predictPassesSimple station startTime durationHours minElevation =
      (List.range' 0 (passCount station durationHours)).map fun index => syntheticPass minElevation
        (passTime (passesPerDay station) startTime (index + 1)) index := by
  have filled := simpleLoop_eq (passesPerDay station) minElevation startTime
    (passCount station durationHours) 0 fun index some bound =>
      passTime_inside station startTime durationHours some (by omega)
  rw [passTime_zero] at filled
  exact filled

example : (predictPassesSimple ⟨"Station", 45, -122, 0, ""⟩ 0 168 5).length = 38 := by
  decide +kernel

end SmartQso.Tools
