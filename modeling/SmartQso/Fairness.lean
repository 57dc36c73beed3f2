/-
This file proves that the fairness of predictions is well defined: the loop over the sorted
times computes the Gini coefficient, nothing is divided by zero, and the scores are
percentages.
-/

import SmartQso.Gini
import SmartQso.PassPredictor

namespace SmartQso.Tools

/-! ### Divisions -/

theorem divide_of_ne (dividend : ℚ) {divisor : ℚ} (nonzero : divisor ≠ 0) :
    divide dividend divisor = some (dividend / divisor) :=
  if_neg nonzero

/-- A loop whose rounds all have a value has one. -/
theorem mapM_of_forall {Value Result : Type} {round : Value → Option Result}
    {Good : Result → Prop} {values : List Value}
    (rounds : ∀ value ∈ values, ∃ result, round value = some result ∧ Good result) :
    ∃ results, values.mapM round = some results ∧ results.length = values.length ∧
      ∀ result ∈ results, Good result := by
  induction values with
  | nil => exact ⟨[], rfl, rfl, fun _ member => absurd member List.not_mem_nil⟩
  | cons value values inductionHypothesis =>
    obtain ⟨first, rest⟩ := List.forall_mem_cons.mp rounds
    obtain ⟨result, computed, good⟩ := first
    obtain ⟨results, others, length, allGood⟩ := inductionHypothesis rest
    refine ⟨result :: results, ?_, congrArg Nat.succ length,
      List.forall_mem_cons.mpr ⟨good, allGood⟩⟩
    rw [List.mapM_cons, computed, others]
    rfl

/-! ### Access times -/

/-- The access times in minutes. -/
def accessMinutes (predictions : List PassPrediction) : List ℚ :=
  predictions.map fun pred => pred.totalAccessSeconds / 60

theorem accessMinutes_computed (predictions : List PassPrediction) :
    predictions.mapM (fun pred => divide pred.totalAccessSeconds 60) =
      some (accessMinutes predictions) := by
  have rounds : (fun pred : PassPrediction => divide pred.totalAccessSeconds 60) =
      fun pred => pure (pred.totalAccessSeconds / 60) := by
    funext pred
    exact divide_of_ne _ (by norm_num)
  rw [rounds, List.mapM_pure]
  rfl

theorem accessMinutes_nonneg {predictions : List PassPrediction}
    (nonneg : ∀ pred ∈ predictions, 0 ≤ pred.totalAccessSeconds) :
    ∀ time ∈ accessMinutes predictions, 0 ≤ time :=
  List.forall_mem_map.mpr fun pred member => div_nonneg (nonneg pred member) (by norm_num)

/-- Scaled times are scaled in minutes too. -/
theorem accessMinutes_scale {predictions scaled : List PassPrediction} {factor : ℚ}
    (times : scaled.map PassPrediction.totalAccessSeconds =
      predictions.map fun pred => factor * pred.totalAccessSeconds) :
    accessMinutes scaled = (accessMinutes predictions).map (factor * ·) := by
  calc accessMinutes scaled
      = (scaled.map PassPrediction.totalAccessSeconds).map (· / 60) := by
        rw [List.map_map]
        rfl
    _ = (predictions.map fun pred => factor * pred.totalAccessSeconds).map (· / 60) := by
        rw [times]
    _ = (accessMinutes predictions).map (factor * ·) := by
        rw [accessMinutes, List.map_map, List.map_map]
        refine List.map_congr_left fun pred _ => ?_
        exact mul_div_assoc factor pred.totalAccessSeconds 60

/-! ### The Gini coefficient -/

/-- The loop adds times that are weighted by rank. -/
theorem giniSum_foldl (n sum : ℚ) (times : List ℚ) (rank : Nat) :
    (times.zipIdx rank).foldl (fun sum entry => sum + (2 * (entry.2 + 1) - n - 1) * entry.1) sum =
      sum + Gini.rankSum (2 * rank + 1 - n) times := by
  induction times generalizing sum rank with
  | nil => exact (add_zero sum).symm
  | cons time times inductionHypothesis =>
    have weight : 2 * ((rank : ℚ) + 1) - n - 1 = 2 * rank + 1 - n := by ring
    have next : 2 * ((rank + 1 : Nat) : ℚ) + 1 - n = 2 * rank + 1 - n + 2 := by
      rw [Nat.cast_succ]
      ring
    rw [List.zipIdx_cons, List.foldl_cons, inductionHypothesis, Gini.rankSum, weight, next,
      add_assoc]

theorem giniSum_eq (n : ℚ) (times : List ℚ) : giniSum n times = Gini.rankSum (1 - n) times := by
  rw [giniSum, giniSum_foldl, Nat.cast_zero, mul_zero, zero_add, zero_add]

/-- The code computes the Gini coefficient. -/
theorem giniCoefficient_eq {times : List ℚ} (nonneg : ∀ time ∈ times, 0 ≤ time) :
    giniCoefficient times = some (Gini.coefficient times) := by
  have perm : (times.insertionSort (· ≤ ·)).Perm times := List.perm_insertionSort (· ≤ ·) times
  have sorted : (times.insertionSort (· ≤ ·)).Pairwise (· ≤ ·) :=
    List.pairwise_insertionSort (· ≤ ·) times
  unfold giniCoefficient
  rw [← Gini.coefficient_perm perm]
  have sortedNonneg : ∀ time ∈ times.insertionSort (· ≤ ·), 0 ≤ time :=
    fun time member => nonneg time (perm.mem_iff.mp member)
  generalize times.insertionSort (· ≤ ·) = sortedTimes at sorted sortedNonneg
  dsimp only
  rcases (List.sum_nonneg sortedNonneg).eq_or_lt with empty | positive
  · rw [if_neg (not_lt_of_ge (le_of_eq empty.symm)), Gini.coefficient, ← empty, mul_zero, div_zero]
  · have count : (sortedTimes.length : ℚ) ≠ 0 := by
      rw [Nat.cast_ne_zero, Ne, List.length_eq_zero_iff]
      rintro rfl
      exact lt_irrefl 0 positive
    rw [if_pos positive, divide_of_ne _ (mul_ne_zero count (ne_of_gt positive)), giniSum_eq,
      Gini.rankSum_sorted sorted]
    rfl

/-! ### The scores -/

/-- A share of the largest deviation gives a percentage. -/
theorem score_bounds {deviation largest : ℚ} (nonneg : 0 ≤ deviation) (bound : deviation ≤ largest)
    (positive : 0 < largest) :
    0 ≤ 100 * (1 - deviation / largest) ∧ 100 * (1 - deviation / largest) ≤ 100 := by
  have share := div_nonneg nonneg (le_of_lt positive)
  have most := (div_le_one positive).mpr bound
  exact ⟨by linarith, by linarith⟩

/-- The mean of times whose total is zero deviates from none of them. -/
theorem deviation_of_mean {times : List ℚ} (nonneg : ∀ time ∈ times, 0 ≤ time)
    (none : ¬ times.sum / times.length > 0) {time : ℚ} (member : time ∈ times) :
    |time - times.sum / times.length| = 0 := by
  have mean : times.sum / times.length = 0 :=
    le_antisymm (not_lt.mp none) (div_nonneg (List.sum_nonneg nonneg) (Nat.cast_nonneg _))
  have count : (times.length : ℚ) ≠ 0 :=
    Nat.cast_ne_zero.mpr (List.length_pos_iff.mpr (List.ne_nil_of_mem member)).ne'
  have total : times.sum = 0 := (div_eq_zero_iff.mp mean).resolve_right count
  rw [mean, Gini.eq_zero_of_sum_eq_zero nonneg total time member, sub_zero, abs_zero]

/-- Every time has a score, and the scores are percentages. -/
theorem fairnessScores_bounds {times : List ℚ} (nonempty : times ≠ [])
    (nonneg : ∀ time ∈ times, 0 ≤ time) :
    ∃ scores, fairnessScores times = some scores ∧ scores.length = times.length ∧
      ∀ score ∈ scores, 0 ≤ score ∧ score ≤ 100 := by
  have count : (times.length : ℚ) ≠ 0 :=
    Nat.cast_ne_zero.mpr (List.length_pos_iff.mpr nonempty).ne'
  obtain ⟨largest, chosen, bound⟩ : ∃ largest,
      (if times.sum / times.length > 0 then
        (times.map fun time => |time - times.sum / times.length|).max? else some 1) =
        some largest ∧ ∀ time ∈ times, |time - times.sum / times.length| ≤ largest := by
    by_cases some : times.sum / times.length > 0
    · obtain ⟨largest, chosen⟩ := Option.isSome_iff_exists.mp (List.isSome_max?_of_ne_nil
        (List.map_eq_nil_iff.not.mpr nonempty :
          (times.map fun time => |time - times.sum / times.length|) ≠ []))
      exact ⟨largest, (if_pos some).trans chosen,
        List.forall_mem_map.mp ((List.max?_le_iff chosen).mp (le_refl largest))⟩
    · refine ⟨1, if_neg some, fun time member => ?_⟩
      rw [deviation_of_mean nonneg some member]
      exact zero_le_one
  unfold fairnessScores
  rw [divide_of_ne _ count, Option.bind_eq_bind, Option.bind_some, chosen, Option.bind_eq_bind,
    Option.bind_some]
  refine mapM_of_forall fun time member => ?_
  by_cases positive : largest > 0
  · refine ⟨100 * (1 - |time - times.sum / times.length| / largest), ?_,
      score_bounds (abs_nonneg _) (bound time member) positive⟩
    rw [if_pos positive, divide_of_ne _ (ne_of_gt positive)]
    rfl
  · exact ⟨100, if_neg positive, by norm_num, le_refl 100⟩

/-! ### The report -/

/-- A station has metrics, and its score is not calculated yet. -/
theorem stationMetrics_returns (period : Int) (pred : PassPrediction) :
    ∃ metrics, stationMetrics period pred = some metrics ∧ metrics.fairnessScore = 0 := by
  obtain ⟨perDay, divided⟩ : ∃ perDay,
      (if period > 0 then divide pred.passes.length period else some 0) = some perDay := by
    by_cases positive : period > 0
    · exact ⟨_, (if_pos positive).trans (divide_of_ne _ (Int.cast_ne_zero.mpr (ne_of_gt positive)))⟩
    · exact ⟨0, if_neg positive⟩
  have minutes := divide_of_ne pred.totalAccessSeconds (by norm_num : (60 : ℚ) ≠ 0)
  unfold stationMetrics
  rw [minutes, Option.bind_eq_bind, Option.bind_some, divided]
  exact ⟨_, rfl, rfl⟩

/-- What `calculate_fairness` computes for predictions: its report, and the numbers that the report
shows rounded. -/
structure FairnessComputed (predictions : List PassPrediction) (report : FairnessReport) (gini : ℚ)
    (scores : List ℚ) : Prop where
  returned : calculateFairness predictions = some report
  values : ∃ accessTimes,
    predictions.mapM (fun pred => divide pred.totalAccessSeconds 60) = some accessTimes ∧
      giniCoefficient accessTimes = some gini ∧ fairnessScores accessTimes = some scores
  giniReported : report.giniCoefficient = roundTo 1000 gini
  scoresReported : report.metrics.map FairnessMetrics.fairnessScore = scores.map (roundTo 10)

/-- Scores that are put into metrics are found there. -/
theorem map_fairnessScore_zipWith {metrics : List FairnessMetrics} {scores : List ℚ}
    (length : scores.length = metrics.length) :
    (metrics.zipWith (fun station score => { station with fairnessScore := roundTo 10 score })
      scores).map FairnessMetrics.fairnessScore = scores.map (roundTo 10) := by
  induction metrics generalizing scores with
  | nil =>
    rw [List.length_eq_zero_iff.mp length]
    rfl
  | cons station metrics inductionHypothesis =>
    cases scores with
    | nil => rfl
    | cons score scores =>
      rw [List.zipWith_cons_cons, List.map_cons, List.map_cons,
        inductionHypothesis (Nat.succ.inj length)]

/-- The code computes the Gini coefficient of the access times, and percentages. -/
theorem calculateFairness_returns {predictions : List PassPrediction}
    (nonempty : predictions ≠ []) (nonneg : ∀ pred ∈ predictions, 0 ≤ pred.totalAccessSeconds) :
    ∃ report scores,
      FairnessComputed predictions report (Gini.coefficient (accessMinutes predictions)) scores ∧
      ∀ score ∈ scores, 0 ≤ score ∧ score ≤ 100 := by
  have minutesNonneg := accessMinutes_nonneg nonneg
  have minutesNonempty : accessMinutes predictions ≠ [] := List.map_eq_nil_iff.not.mpr nonempty
  obtain ⟨first, rest, rfl⟩ := List.exists_cons_of_ne_nil nonempty
  obtain ⟨metrics, measured, metricsLength, _⟩ : ∃ metrics,
      (first :: rest).mapM (stationMetrics (periodDays first.passes)) = some metrics ∧
        metrics.length = (first :: rest).length ∧
          ∀ station ∈ metrics, station.fairnessScore = 0 :=
    mapM_of_forall fun pred _ => stationMetrics_returns (periodDays first.passes) pred
  obtain ⟨scores, scored, scoresLength, bounds⟩ :=
    fairnessScores_bounds minutesNonempty minutesNonneg
  have computed := accessMinutes_computed (first :: rest)
  have gini := giniCoefficient_eq minutesNonneg
  have length : scores.length = metrics.length := by
    rw [scoresLength, metricsLength, accessMinutes, List.length_map]
  obtain ⟨report, returned, giniReported, metricsReported⟩ : ∃ report,
      calculateFairness (first :: rest) = some report ∧
        report.giniCoefficient = roundTo 1000 (Gini.coefficient (accessMinutes (first :: rest))) ∧
        report.metrics = metrics.zipWith
          (fun station score => { station with fairnessScore := roundTo 10 score }) scores := by
    rw [calculateFairness, measured, computed, Option.bind_eq_bind, Option.bind_some,
      Option.bind_eq_bind, Option.bind_some, gini, Option.bind_eq_bind, Option.bind_some, scored]
    exact ⟨_, rfl, rfl, rfl⟩
  refine ⟨report, scores, ⟨returned, ⟨_, computed, gini, scored⟩, giniReported, ?_⟩, bounds⟩
  rw [metricsReported, map_fairnessScore_zipWith length]

/-! ### Fairness -/

section

variable {predictions : List PassPrediction} (nonempty : predictions ≠ [])
  (nonneg : ∀ pred ∈ predictions, 0 ≤ pred.totalAccessSeconds)

include nonempty nonneg

/-- The order of the stations does not matter for the Gini coefficient. -/
theorem fairnessComputed_perm {permuted : List PassPrediction} (perm : permuted.Perm predictions) :
    ∃ report scores,
      FairnessComputed permuted report (Gini.coefficient (accessMinutes predictions)) scores := by
  obtain ⟨report, scores, computed, _⟩ := calculateFairness_returns
    (fun empty => nonempty (List.nil_perm.mp (empty ▸ perm)))
    (fun pred member => nonneg pred (perm.mem_iff.mp member))
  have same : Gini.coefficient (accessMinutes permuted) =
      Gini.coefficient (accessMinutes predictions) := Gini.coefficient_perm (perm.map _)
  exact ⟨report, scores, same ▸ computed⟩

/-- The unit of the times does not matter either. -/
theorem fairnessComputed_scale {scaled : List PassPrediction} {factor : ℚ} (positive : 0 < factor)
    (times : scaled.map PassPrediction.totalAccessSeconds =
      predictions.map fun pred => factor * pred.totalAccessSeconds) :
    ∃ report scores,
      FairnessComputed scaled report (Gini.coefficient (accessMinutes predictions)) scores := by
  have scaledNonempty : scaled ≠ [] := by
    rintro rfl
    exact nonempty (List.map_eq_nil_iff.mp times.symm)
  have scaledNonneg : ∀ pred ∈ scaled, 0 ≤ pred.totalAccessSeconds := by
    intro pred member
    have isTime := List.mem_map_of_mem (f := PassPrediction.totalAccessSeconds) member
    rw [times] at isTime
    obtain ⟨original, isOriginal, same⟩ := List.mem_map.mp isTime
    rw [← same]
    exact mul_nonneg (le_of_lt positive) (nonneg original isOriginal)
  obtain ⟨report, scores, computed, _⟩ := calculateFairness_returns scaledNonempty scaledNonneg
  have same : Gini.coefficient (accessMinutes scaled) =
      Gini.coefficient (accessMinutes predictions) := by
    rw [accessMinutes_scale times, Gini.coefficient_scale positive]
  exact ⟨report, scores, same ▸ computed⟩

end

/-- The fairness of predictions is well defined: all divisions have a divisor, the Gini coefficient
of `n` stations is between `0` and `(n - 1) / n`, it is `0` exactly for equal times, neither the
order of the stations nor the unit of the times matters, and the scores are percentages. -/
theorem fairness_well_defined {predictions : List PassPrediction} (nonempty : predictions ≠ [])
    (nonneg : ∀ pred ∈ predictions, 0 ≤ pred.totalAccessSeconds) :
    ∃ report gini scores,
      FairnessComputed predictions report gini scores ∧
      0 ≤ gini ∧ gini ≤ (predictions.length - 1) / predictions.length ∧
      (gini = 0 ↔ ∀ first ∈ predictions, ∀ second ∈ predictions,
        first.totalAccessSeconds = second.totalAccessSeconds) ∧
      (∀ permuted, permuted.Perm predictions →
        ∃ otherReport otherScores, FairnessComputed permuted otherReport gini otherScores) ∧
      (∀ factor scaled, 0 < factor →
        scaled.map PassPrediction.totalAccessSeconds =
          predictions.map (fun pred => factor * pred.totalAccessSeconds) →
        ∃ otherReport otherScores, FairnessComputed scaled otherReport gini otherScores) ∧
      ∀ score ∈ scores, 0 ≤ score ∧ score ≤ 100 := by
  have minutesNonneg := accessMinutes_nonneg nonneg
  have minutesNonempty : accessMinutes predictions ≠ [] := List.map_eq_nil_iff.not.mpr nonempty
  obtain ⟨report, scores, computed, bounds⟩ := calculateFairness_returns nonempty nonneg
  have most := Gini.coefficient_le minutesNonneg minutesNonempty
  rw [accessMinutes, List.length_map] at most
  refine ⟨report, _, scores, computed, Gini.coefficient_nonneg minutesNonneg, most, ?_, ?_, ?_,
    bounds⟩
  · rw [Gini.coefficient_eq_zero_iff minutesNonneg, accessMinutes]
    simp only [List.forall_mem_map, div_left_inj' (by norm_num : (60 : ℚ) ≠ 0)]
  · exact fun permuted perm => fairnessComputed_perm nonempty nonneg perm
  · exact fun factor scaled positive times =>
      fairnessComputed_scale nonempty nonneg positive times

/-- A station with one pass. -/
def PassPrediction.single (name : String) (seconds : Int) : PassPrediction where
  station :=
    { name := name
      latitude := 0
      longitude := 0
      altitude := 0
      gridSquare := "JJ00aa" }
  passes :=
    [{ aosUtc := 0
       losUtc := seconds
       maxElevation := 45
       durationSeconds := seconds
       azimuthAos := 0
       azimuthLos := 180 }]
  totalAccessSeconds := seconds

/-- Two stations, of which one has three times the access of the other. -/
theorem fairness_well_defined_pair :
    ∃ report gini scores,
      FairnessComputed [.single "near" 600, .single "far" 1800] report gini scores ∧
        0 ≤ gini ∧ gini ≤ (2 - 1) / 2 := by
  have nonneg : ∀ pred ∈ [PassPrediction.single "near" 600, .single "far" 1800],
      0 ≤ pred.totalAccessSeconds := by
    decide +kernel
  obtain ⟨report, gini, scores, computed, least, most, _⟩ :=
    fairness_well_defined (List.cons_ne_nil _ _) nonneg
  exact ⟨report, gini, scores, computed, least, most⟩

end SmartQso.Tools
