/-
This file models `tools/pass_predictor.py`: the scan for passes over a window of samples
and the fairness of a list of predictions. Numbers are exact rationals and times are
seconds. The propagator and the look angles are arbitrary functions of the time, the
package of the propagator is there, and a division by zero is a missing value.
-/

import Mathlib.Algebra.Order.Ring.Rat
import Mathlib.Data.List.Sort
import Mathlib.Data.Rat.Floor

namespace SmartQso.Tools

/-! ### Types -/

/-- `GroundStation`. -/
structure GroundStation where
  name : String
  latitude : ℚ
  longitude : ℚ
  altitude : ℚ
  gridSquare : String

/-- `SatellitePass`. -/
structure SatellitePass where
  aosUtc : Int
  losUtc : Int
  maxElevation : ℚ
  durationSeconds : Int
  azimuthAos : ℚ
  azimuthLos : ℚ
  deriving DecidableEq

/-- `PassPrediction`, without the average duration of a pass. -/
structure PassPrediction where
  station : GroundStation
  passes : List SatellitePass
  totalAccessSeconds : ℚ

/-- `FairnessMetrics`. -/
structure FairnessMetrics where
  stationName : String
  gridSquare : String
  totalPasses : Nat
  totalAccessTimeMin : ℚ
  passesPerDay : ℚ
  fairnessScore : ℚ
  deriving DecidableEq

/-- `FairnessReport`. -/
structure FairnessReport where
  analysisPeriodDays : Int
  totalStations : Nat
  metrics : List FairnessMetrics
  giniCoefficient : ℚ
  recommendations : List String
  deriving DecidableEq

/-- The propagator of a two-line element set, which answers with an error code and a position, and
`calculate_look_angles`, which answers with azimuth, elevation and range. -/
structure Propagator where
  Position : Type
  sgp4 : Int → Nat × Position
  lookAngles : GroundStation → Position → Int → ℚ × ℚ × ℚ

/-! ### Python -/

/-- The whole number nearest to a number, the even one of two. -/
def nearestEven (value : ℚ) : Int :=
  let whole := ⌊value⌋
  let part := value - whole
  if part < 1 / 2 then whole
  else if part > 1 / 2 then whole + 1
  else if whole % 2 = 0 then whole
  else whole + 1

/-- `round`, to a fraction of one. -/
def roundTo (fraction value : ℚ) : ℚ := nearestEven (value * fraction) / fraction

/-- A number with two digits behind the point, as `:.2f` formats it. -/
def formatTwoDigits (value : ℚ) : String :=
  let hundredths := (nearestEven (value * 100)).toNat
  (hundredths / 100).repr ++ "." ++ (hundredths / 10 % 10).repr ++ (hundredths % 10).repr

/-- Division, which raises an error when the divisor is zero. -/
def divide (dividend divisor : ℚ) : Option ℚ :=
  if divisor = 0 then none else some (dividend / divisor)

/-! ### Passes -/

/-- The variables of the loop of `predict_passes_sgp4`. -/
structure PassScan where
  inPass : Bool
  passStart : Option Int
  passStartAz : ℚ
  maxEl : ℚ
  lastAz : ℚ
  passes : List SatellitePass

/-- The variables before the loop. -/
def PassScan.start : PassScan where
  inPass := false
  passStart := none
  passStartAz := 0
  maxEl := 0
  lastAz := 0
  passes := []

/-- What a round of the loop does with the look angles. -/
def PassScan.look (scan : PassScan) (minElevation : ℚ) (time : Int) (az el : ℚ) : PassScan :=
  if el ≥ minElevation then
    if !scan.inPass then
      { scan with
        inPass := true
        passStart := some time
        passStartAz := az
        maxEl := el
        lastAz := az }
    else { scan with maxEl := if el > scan.maxEl then el else scan.maxEl, lastAz := az }
  else if scan.inPass then
    match scan.passStart with
    | none => { scan with inPass := false }
    | some passStart =>
      { scan with
        inPass := false
        passes := scan.passes ++
          [{ aosUtc := passStart
             losUtc := time
             maxElevation := roundTo 10 scan.maxEl
             durationSeconds := time - passStart
             azimuthAos := roundTo 10 scan.passStartAz
             azimuthLos := roundTo 10 scan.lastAz }] }
  else scan

/-- A round of the loop. A sample with an error is skipped. -/
def PassScan.sample (propagator : Propagator) (station : GroundStation) (minElevation : ℚ)
    (scan : PassScan) (time : Int) : PassScan :=
  let answer := propagator.sgp4 time
  if answer.1 ≠ 0 then scan
  else
    let angles := propagator.lookAngles station answer.2 time
    scan.look minElevation time angles.1 angles.2.1

/-- The loop of `predict_passes_sgp4`. There is none to return when the fuel does not last. -/
def predictLoop (sample : PassScan → Int → PassScan) (endTime stepSeconds : Int) :
    Nat → Int → PassScan → Option PassScan
  | 0, _, _ => none
  | fuel + 1, currentTime, scan =>
    if currentTime < endTime then
      predictLoop sample endTime stepSeconds fuel (currentTime + stepSeconds)
        (sample scan currentTime)
    else some scan

/-- `predict_passes_sgp4`. -/
def predictPassesSgp4 (fuel : Nat) (propagator : Propagator) (station : GroundStation)
    (startTime durationHours : Int) (minElevation : ℚ) (stepSeconds : Int) :
    Option (List SatellitePass) :=
  let endTime := startTime + 3600 * durationHours
  (predictLoop (PassScan.sample propagator station minElevation) endTime stepSeconds fuel startTime
    .start).map PassScan.passes

/-! ### Fairness -/

/-- The days between the first pass and the last one of the first station, at least one. -/
def periodDays (passes : List SatellitePass) : Int :=
  match passes.head?, passes.getLast? with
  | some first, some last => max 1 ((last.losUtc - first.aosUtc) / 86400)
  | _, _ => 1

/-- The metrics of a station, without its score. -/
def stationMetrics (period : Int) (pred : PassPrediction) : Option FairnessMetrics := do
  let totalAccessMin ← divide pred.totalAccessSeconds 60
  let passesPerDay ← (if period > 0 then divide pred.passes.length period else some 0)
  some
    { stationName := pred.station.name
      gridSquare := pred.station.gridSquare
      totalPasses := pred.passes.length
      totalAccessTimeMin := roundTo 10 totalAccessMin
      passesPerDay := roundTo 100 passesPerDay
      fairnessScore := 0 }

/-- The loop over the sorted times. The cumulative sum, which is never read, is left out. -/
def giniSum (n : ℚ) (sortedTimes : List ℚ) : ℚ :=
  sortedTimes.zipIdx.foldl (fun sum entry => sum + (2 * (entry.2 + 1) - n - 1) * entry.1) 0

/-- The Gini coefficient of `calculate_fairness`. -/
def giniCoefficient (accessTimes : List ℚ) : Option ℚ :=
  let sortedTimes := accessTimes.insertionSort (· ≤ ·)
  let n : ℚ := sortedTimes.length
  let total := sortedTimes.sum
  if total > 0 then divide (giniSum n sortedTimes) (n * total) else some 0

/-- The fairness scores of `calculate_fairness`. The largest value of no values is an error. -/
def fairnessScores (accessTimes : List ℚ) : Option (List ℚ) := do
  let meanAccess ← divide accessTimes.sum accessTimes.length
  let maxDeviation ←
    (if meanAccess > 0 then (accessTimes.map fun time => |time - meanAccess|).max? else some 1)
  accessTimes.mapM fun time => do
    let deviation := |time - meanAccess|
    if maxDeviation > 0 then
      let share ← divide deviation maxDeviation
      some (100 * (1 - share))
    else some 100

/-- The recommendations of `calculate_fairness`. -/
def fairnessRecommendations (gini : ℚ) (metrics : List FairnessMetrics) : List String :=
  let lowAccess := metrics.filter fun station => station.totalAccessTimeMin < 10
  (if gini > 3 / 10 then
    ["High inequality detected (Gini=" ++ formatTwoDigits gini ++
      "). Consider prioritizing stations with lower access times."]
  else []) ++
  (if lowAccess.isEmpty then []
  else
    ["Stations with limited access (<10 min): " ++
      String.intercalate ", " (lowAccess.map FairnessMetrics.stationName)]) ++
  if gini < 1 / 10 then ["Access distribution is relatively fair."] else []

/-- `calculate_fairness`. -/
def calculateFairness (predictions : List PassPrediction) : Option FairnessReport :=
  match predictions with
  | [] =>
    some
      { analysisPeriodDays := 0
        totalStations := 0
        metrics := []
        giniCoefficient := 0
        recommendations := ["No stations provided"] }
  | first :: _ => do
    let period := periodDays first.passes
    let metrics ← predictions.mapM (stationMetrics period)
    let accessTimes ← predictions.mapM fun pred => divide pred.totalAccessSeconds 60
    let gini ← giniCoefficient accessTimes
    let scores ← fairnessScores accessTimes
    let scored := metrics.zipWith (fun station score =>
      { station with fairnessScore := roundTo 10 score }) scores
    some
      { analysisPeriodDays := period
        totalStations := predictions.length
        metrics := scored
        giniCoefficient := roundTo 1000 gini
        recommendations := fairnessRecommendations gini scored }

end SmartQso.Tools
