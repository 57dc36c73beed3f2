/-
This file relates the passes of a prediction to the runs of samples above the minimum
elevation. The scan reports a run when it sees a valid sample below the minimum; samples
with errors do not end a run, and a run that is still going on when the window ends is
not reported.
-/

import SmartQso.MaximalRuns
import SmartQso.PassPredictor

namespace SmartQso.Tools

open MaximalRuns

/-! ### Samples -/

/-- A sample of the window: its time, and azimuth and elevation unless the propagator failed. -/
structure Sample where
  time : Int
  angles : Option (ℚ × ℚ)

/-- What the propagator says about a time. -/
def Propagator.observe (propagator : Propagator) (station : GroundStation) (time : Int) : Sample :=
  let answer := propagator.sgp4 time
  if answer.1 ≠ 0 then ⟨time, none⟩
  else
    let angles := propagator.lookAngles station answer.2 time
    ⟨time, some (angles.1, angles.2.1)⟩

/-- A sample without an error. -/
def Sample.valid (sample : Sample) : Bool := sample.angles.isSome

/-- The elevation of a valid sample. -/
def Sample.elevation (sample : Sample) : ℚ := (sample.angles.map Prod.snd).getD 0

/-- A valid sample with the minimum elevation. -/
def Sample.visible (minElevation : ℚ) (sample : Sample) : Bool :=
  sample.valid && decide (sample.elevation ≥ minElevation)

theorem valid_of_visible {minElevation : ℚ} {sample : Sample}
    (visible : sample.visible minElevation = true) : sample.valid = true :=
  (Bool.and_eq_true_iff.mp visible).1

/-- The times of a window. -/
def sampleTimes (startTime endTime stepSeconds : Int) : List Int :=
  if 0 < stepSeconds then
    (List.range ((endTime - startTime + stepSeconds - 1) / stepSeconds).toNat).map
      fun count : Nat => startTime + stepSeconds * count
  else []

/-- The samples of a window. -/
def windowSamples (propagator : Propagator) (station : GroundStation)
    (startTime durationHours stepSeconds : Int) : List Sample :=
  (sampleTimes startTime (startTime + 3600 * durationHours) stepSeconds).map
    (propagator.observe station)

/-! ### Passes -/

/-- The greatest elevation of a run. -/
structure IsPeak (run : List Sample) (peak : ℚ) : Prop where
  reached : ∃ sample ∈ run, sample.elevation = peak
  bound : ∀ sample ∈ run, sample.elevation ≤ peak

/-- A pass that reports a run: it starts with the first sample and shows the greatest elevation. -/
structure Reports (pass : SatellitePass) (run : List Sample) : Prop where
  aos : run.head?.map Sample.time = some pass.aosUtc
  maxElevation : ∃ peak, IsPeak run peak ∧ pass.maxElevation = roundTo 10 peak

/-- Passes in order and without overlap. -/
structure InOrder (passes : List SatellitePass) : Prop where
  apart : passes.Pairwise fun earlier later => earlier.losUtc ≤ later.aosUtc
  forward : ∀ pass ∈ passes, pass.aosUtc ≤ pass.losUtc

/-- The prediction returns, and what it returns are passes in order and without overlap, one for
each of the runs. -/
def PredictsRuns (propagator : Propagator) (station : GroundStation)
    (startTime durationHours : Int) (minElevation : ℚ) (stepSeconds : Int)
    (expected : List (List Sample)) : Prop :=
  ∃ fuel passes,
    predictPassesSgp4 fuel propagator station startTime durationHours minElevation stepSeconds =
      some passes ∧
    List.Forall₂ Reports passes expected ∧ InOrder passes

/-! ### The scan -/

/-- What the scan has done up to a time: the ended runs are reported, and the variables describe the
run that has not ended. -/
structure Scanned (scan : PassScan) (now : Int) (ended : List (List Sample))
    (current : List Sample) : Prop where
  reports : List.Forall₂ Reports scan.passes ended
  inOrder : InOrder scan.passes
  inPass : scan.inPass = !current.isEmpty
  started : current ≠ [] → scan.passStart = current.head?.map Sample.time
  peak : current ≠ [] → IsPeak current scan.maxEl
  past : ∀ pass ∈ scan.passes, pass.losUtc ≤ now
  behind : ∀ sample ∈ current, sample.time ≤ now ∧ ∀ pass ∈ scan.passes, pass.losUtc ≤ sample.time

theorem scanned_start (now : Int) : Scanned .start now [] [] where
  reports := .nil
  inOrder := ⟨.nil, fun _ member => absurd member List.not_mem_nil⟩
  inPass := rfl
  started nonempty := absurd rfl nonempty
  peak nonempty := absurd rfl nonempty
  past _ member := absurd member List.not_mem_nil
  behind _ member := absurd member List.not_mem_nil

section

variable {scan : PassScan} {now time : Int} {ended : List (List Sample)} {current : List Sample}
  {minElevation az el : ℚ}

/-- The variables do not depend on the time. -/
theorem Scanned.later (scanned : Scanned scan now ended current) (advances : now ≤ time) :
    Scanned scan time ended current :=
  { scanned with
    past := fun pass member => (scanned.past pass member).trans advances
    behind := fun sample member => ⟨(scanned.behind sample member).1.trans advances,
      (scanned.behind sample member).2⟩ }

/-- The first sample of a run is its peak. -/
theorem isPeak_singleton (sample : Sample) : IsPeak [sample] sample.elevation where
  reached := ⟨sample, List.mem_singleton_self sample, rfl⟩
  bound other member := by rw [List.mem_singleton.mp member]

/-- The peak of a longer run. -/
theorem IsPeak.append {run : List Sample} {peak : ℚ} (isPeak : IsPeak run peak) (sample : Sample) :
    IsPeak (run ++ [sample]) (if sample.elevation > peak then sample.elevation else peak) := by
  obtain ⟨⟨highest, member, reached⟩, bound⟩ := isPeak
  by_cases higher : sample.elevation > peak
  · rw [if_pos higher]
    refine ⟨⟨sample, List.mem_append_right _ (List.mem_singleton_self sample), rfl⟩, ?_⟩
    intro other isOther
    rcases List.mem_append.mp isOther with before | last
    · exact (bound other before).trans (le_of_lt higher)
    · rw [List.mem_singleton.mp last]
  · rw [if_neg higher]
    refine ⟨⟨highest, List.mem_append_left _ member, reached⟩, fun other isOther => ?_⟩
    rcases List.mem_append.mp isOther with before | last
    · exact bound other before
    · rw [List.mem_singleton.mp last]
      exact not_lt.mp higher

/-- A sample with the minimum elevation extends the run. -/
theorem Scanned.visible (scanned : Scanned scan now ended current) (advances : now ≤ time)
    (high : el ≥ minElevation) :
    Scanned (scan.look minElevation time az el) time ended
      (current ++ [⟨time, some (az, el)⟩]) := by
  have later := scanned.later advances
  have inPass := scanned.inPass
  have behind : ∀ sample ∈ current ++ [⟨time, some (az, el)⟩], sample.time ≤ time ∧
      ∀ pass ∈ scan.passes, pass.losUtc ≤ sample.time := by
    intro sample member
    rcases List.mem_append.mp member with before | last
    · exact later.behind sample before
    · rw [List.mem_singleton.mp last]
      exact ⟨le_refl time, later.past⟩
  unfold PassScan.look
  rw [if_pos high]
  cases current with
  | nil =>
    have outside : scan.inPass = false := inPass
    rw [outside, Bool.not_false, if_pos rfl]
    exact
      { reports := scanned.reports
        inOrder := scanned.inOrder
        inPass := rfl
        started := fun _ => rfl
        peak := fun _ => isPeak_singleton ⟨time, some (az, el)⟩
        past := later.past
        behind := behind }
  | cons first rest =>
    have within : scan.inPass = true := inPass
    rw [within, Bool.not_true, if_neg Bool.false_ne_true]
    exact
      { reports := scanned.reports
        inOrder := scanned.inOrder
        inPass := rfl
        started := fun _ => scanned.started (List.cons_ne_nil first rest)
        peak := fun _ => (scanned.peak (List.cons_ne_nil first rest)).append ⟨time, some (az, el)⟩
        past := later.past
        behind := behind }

/-- A pass behind all others keeps them in order. -/
theorem InOrder.append {passes : List SatellitePass} {pass : SatellitePass}
    (inOrder : InOrder passes) (last : ∀ earlier ∈ passes, earlier.losUtc ≤ pass.aosUtc)
    (forward : pass.aosUtc ≤ pass.losUtc) : InOrder (passes ++ [pass]) where
  apart := by
    refine List.pairwise_append.mpr ⟨inOrder.apart, List.pairwise_singleton _ _, ?_⟩
    intro earlier member other isOther
    rw [List.mem_singleton.mp isOther]
    exact last earlier member
  forward other member := by
    rcases List.mem_append.mp member with before | isLast
    · exact inOrder.forward other before
    · rw [List.mem_singleton.mp isLast]
      exact forward

/-- A valid sample below the minimum ends the run. -/
theorem Scanned.below (scanned : Scanned scan now ended current) (advances : now ≤ time)
    (low : ¬ el ≥ minElevation) :
    Scanned (scan.look minElevation time az el) time (ended ++ proper current) [] := by
  have later := scanned.later advances
  have inPass := scanned.inPass
  unfold PassScan.look
  rw [if_neg low]
  cases current with
  | nil =>
    have outside : scan.inPass = false := inPass
    have nothing : ended ++ proper [] = ended := List.append_nil ended
    rw [outside, if_neg Bool.false_ne_true, nothing]
    exact later
  | cons first rest =>
    have within : scan.inPass = true := inPass
    have started : scan.passStart = some first.time := scanned.started (List.cons_ne_nil first rest)
    obtain ⟨notFuture, behind⟩ := later.behind first List.mem_cons_self
    rw [within, if_pos rfl, started]
    exact
      { reports := List.rel_append scanned.reports (.cons
          { aos := rfl
            maxElevation := ⟨scan.maxEl, scanned.peak (List.cons_ne_nil first rest), rfl⟩ } .nil)
        inOrder := scanned.inOrder.append behind notFuture
        inPass := rfl
        started := fun nonempty => absurd rfl nonempty
        peak := fun nonempty => absurd rfl nonempty
        past := fun pass member => by
          rcases List.mem_append.mp member with before | isLast
          · exact later.past pass before
          · rw [List.mem_singleton.mp isLast]
        behind := fun _ member => absurd member List.not_mem_nil }

end

/-! ### A window -/

variable (propagator : Propagator) (station : GroundStation) (minElevation : ℚ)

/-- A round skips a sample with an error, and looks at any other one. -/
theorem sample_cases (scan : PassScan) (time : Int) :
    ((propagator.observe station time).valid = false ∧
        scan.sample propagator station minElevation time = scan) ∨
      ∃ az el, propagator.observe station time = ⟨time, some (az, el)⟩ ∧
        scan.sample propagator station minElevation time = scan.look minElevation time az el := by
  by_cases failed : (propagator.sgp4 time).1 ≠ 0
  · refine Or.inl ⟨?_, if_pos failed⟩
    rw [Propagator.observe, if_pos failed]
    rfl
  · exact Or.inr ⟨_, _, if_neg failed, if_neg failed⟩

/-- The scan of times in order reports the runs that are ended by a valid sample. -/
theorem scanned_foldl {times : List Int} {scan : PassScan} {now : Int}
    {ended : List (List Sample)} {current : List Sample}
    (scanned : Scanned scan now ended current)
    (inside : ∀ sample ∈ current, sample.visible minElevation = true)
    (sorted : times.Pairwise (· ≤ ·)) (future : ∀ time ∈ times, now ≤ time) :
    ∃ finish open_,
      Scanned (times.foldl (PassScan.sample propagator station minElevation) scan) finish
        (ended ++ endedRuns (Sample.visible minElevation)
          (current ++ (times.map (propagator.observe station)).filter Sample.valid)) open_ := by
  induction times generalizing scan now ended current with
  | nil =>
    refine ⟨now, current, ?_⟩
    rw [List.map_nil, List.filter_nil, List.append_nil, endedRuns_of_all inside, List.append_nil]
    exact scanned
  | cons time rest inductionHypothesis =>
    obtain ⟨first, sortedRest⟩ := List.pairwise_cons.mp sorted
    have advances := future time List.mem_cons_self
    rw [List.foldl_cons, List.map_cons]
    rcases sample_cases propagator station minElevation scan time with
      ⟨unseen, skipped⟩ | ⟨az, el, observed, looked⟩
    · -- The run goes on behind the sample.
      rw [skipped, List.filter_cons_of_neg (Bool.eq_false_iff.mp unseen)]
      exact inductionHypothesis (scanned.later advances) inside sortedRest first
    · have seen : Sample.valid ⟨time, some (az, el)⟩ = true := rfl
      rw [looked, observed, List.filter_cons_of_pos seen]
      by_cases high : el ≥ minElevation
      · have visible : Sample.visible minElevation ⟨time, some (az, el)⟩ = true :=
          decide_eq_true high
        have longer := inductionHypothesis (scanned.visible advances high)
          (List.forall_mem_append.mpr ⟨inside, List.forall_mem_singleton.mpr visible⟩) sortedRest
          first
        rwa [List.append_assoc, List.singleton_append] at longer
      · have hidden : Sample.visible minElevation ⟨time, some (az, el)⟩ = false :=
          decide_eq_false high
        have stopped : Scanned (scan.look minElevation time az el) time (ended ++ proper current)
            [] := scanned.below advances high
        have reported := inductionHypothesis stopped
          (fun _ member => absurd member List.not_mem_nil) sortedRest first
        rw [List.append_assoc, List.nil_append] at reported
        rwa [endedRuns_append_cons inside hidden]

/-- The times of a window are in order. -/
theorem sampleTimes_sorted (startTime endTime stepSeconds : Int) :
    (sampleTimes startTime endTime stepSeconds).Pairwise (· ≤ ·) := by
  unfold sampleTimes
  split_ifs with forward
  · refine List.pairwise_map.mpr (List.pairwise_lt_range.imp fun {earlier later} before => ?_)
    have scaled := Int.mul_le_mul_of_nonneg_left (Int.ofNat_le.mpr (Nat.le_of_lt before))
      (Int.le_of_lt forward)
    exact Int.add_le_add_left scaled startTime
  · exact .nil

/-- The window starts with its first time. -/
theorem le_of_mem_sampleTimes {startTime endTime stepSeconds time : Int}
    (member : time ∈ sampleTimes startTime endTime stepSeconds) : startTime ≤ time := by
  unfold sampleTimes at member
  split_ifs at member with forward
  · obtain ⟨count, _, rfl⟩ := List.mem_map.mp member
    exact Int.le_add_of_nonneg_right
      (Int.mul_nonneg (Int.le_of_lt forward) (Int.natCast_nonneg count))
  · exact absurd member List.not_mem_nil

/-- The number of samples that are left after a step. -/
theorem windowCount_step {startTime endTime stepSeconds : Int} (forward : 0 < stepSeconds) :
    (endTime - (startTime + stepSeconds) + stepSeconds - 1) / stepSeconds =
      (endTime - startTime + stepSeconds - 1) / stepSeconds - 1 := by
  have shifted : endTime - (startTime + stepSeconds) + stepSeconds - 1 =
      endTime - startTime + stepSeconds - 1 + -1 * stepSeconds := by
    ring
  rw [shifted, Int.add_mul_ediv_right _ _ (ne_of_gt forward)]
  rfl

theorem windowCount_pos_iff {startTime endTime stepSeconds : Int} (forward : 0 < stepSeconds) :
    0 < (endTime - startTime + stepSeconds - 1) / stepSeconds ↔ startTime < endTime := by
  rw [Int.lt_iff_add_one_le, Int.le_ediv_iff_mul_le forward]
  omega

/-- With a positive step the loop goes through the times of the window. -/
theorem predictLoop_forward (sample : PassScan → Int → PassScan)
    {startTime endTime stepSeconds : Int} (forward : 0 < stepSeconds) (scan : PassScan) :
    ∃ fuel, predictLoop sample endTime stepSeconds fuel startTime scan =
      some ((sampleTimes startTime endTime stepSeconds).foldl sample scan) := by
  rw [sampleTimes, if_pos forward]
  generalize counted : ((endTime - startTime + stepSeconds - 1) / stepSeconds).toNat = count
  induction count generalizing startTime scan with
  | zero =>
    have closed : ¬ startTime < endTime := by
      rw [← windowCount_pos_iff forward]
      omega
    exact ⟨1, if_neg closed⟩
  | succ count inductionHypothesis =>
    have window : startTime < endTime := by
      rw [← windowCount_pos_iff forward]
      omega
    have left : ((endTime - (startTime + stepSeconds) + stepSeconds - 1) / stepSeconds).toNat =
        count := by
      rw [windowCount_step forward]
      omega
    obtain ⟨fuel, finished⟩ := inductionHypothesis (sample scan startTime) left
    refine ⟨fuel + 1, ?_⟩
    rw [predictLoop, if_pos window, finished, List.range_succ_eq_map, List.map_cons,
      List.foldl_cons, List.map_map]
    have first : startTime + stepSeconds * ((0 : Nat) : Int) = startTime := by
      rw [Int.natCast_zero, Int.mul_zero, Int.add_zero]
    have others : (fun step : Nat => startTime + stepSeconds * (step : Int)) ∘ Nat.succ =
        fun step : Nat => startTime + stepSeconds + stepSeconds * (step : Int) := by
      funext step
      rw [Function.comp_apply, Int.natCast_succ]
      ring
    rw [first, others]

/-- Without one it comes to its end only when there is nothing to do. -/
theorem predictLoop_stuck (sample : PassScan → Int → PassScan) {startTime endTime stepSeconds : Int}
    (stuck : stepSeconds ≤ 0) (window : startTime < endTime) (fuel : Nat) (scan : PassScan) :
    predictLoop sample endTime stepSeconds fuel startTime scan = none := by
  induction fuel generalizing startTime scan with
  | zero => rfl
  | succ fuel inductionHypothesis =>
    rw [predictLoop, if_pos window]
    exact inductionHypothesis (by omega) _

/-- Runs of the loop that return agree, whatever fuel they had. -/
theorem predictLoop_unique (sample : PassScan → Int → PassScan)
    {startTime endTime stepSeconds : Int} {firstFuel secondFuel : Nat}
    {scan first second : PassScan}
    (isFirst : predictLoop sample endTime stepSeconds firstFuel startTime scan = some first)
    (isSecond : predictLoop sample endTime stepSeconds secondFuel startTime scan = some second) :
    first = second := by
  induction firstFuel generalizing secondFuel startTime scan with
  | zero => exact absurd isFirst (Option.some_ne_none first).symm
  | succ firstFuel inductionHypothesis =>
    cases secondFuel with
    | zero => exact absurd isSecond (Option.some_ne_none second).symm
    | succ secondFuel =>
      rw [predictLoop] at isFirst isSecond
      split_ifs at isFirst isSecond
      · exact inductionHypothesis isFirst isSecond
      · exact Option.some.inj (isFirst.symm.trans isSecond)

/-! ### Predictions -/

section

variable (startTime : Int) {durationHours stepSeconds : Int}

/-- The prediction returns when the step is positive or the window is empty. -/
theorem predictPasses_returns (returns : 0 < stepSeconds ∨ durationHours ≤ 0) :
    PredictsRuns propagator station startTime durationHours minElevation stepSeconds
      (endedRuns (Sample.visible minElevation)
        ((windowSamples propagator station startTime durationHours stepSeconds).filter
          Sample.valid)) := by
  obtain ⟨fuel, finished⟩ : ∃ fuel,
      predictLoop (PassScan.sample propagator station minElevation)
        (startTime + 3600 * durationHours) stepSeconds fuel startTime .start =
      some ((sampleTimes startTime (startTime + 3600 * durationHours) stepSeconds).foldl
        (PassScan.sample propagator station minElevation) .start) := by
    by_cases forward : 0 < stepSeconds
    · exact predictLoop_forward _ forward _
    · have closed : ¬ startTime < startTime + 3600 * durationHours := by
        have empty := returns.resolve_left forward
        omega
      rw [sampleTimes, if_neg forward]
      exact ⟨1, if_neg closed⟩
  obtain ⟨finish, current, scanned⟩ := scanned_foldl propagator station minElevation
    (scanned_start startTime) (fun _ member => absurd member List.not_mem_nil)
    (sampleTimes_sorted startTime (startTime + 3600 * durationHours) stepSeconds)
    (fun time member => le_of_mem_sampleTimes member)
  refine ⟨fuel, _, ?_, scanned.reports, scanned.inOrder⟩
  rw [predictPassesSgp4, finished, Option.map_some]

/-- A prediction that returns reports the ended runs of the valid samples. -/
theorem length_of_predicts {expected : List (List Sample)}
    (predicts : PredictsRuns propagator station startTime durationHours minElevation stepSeconds
      expected) :
    (0 < stepSeconds ∨ durationHours ≤ 0) ∧
      (endedRuns (Sample.visible minElevation)
        ((windowSamples propagator station startTime durationHours stepSeconds).filter
          Sample.valid)).length = expected.length := by
  obtain ⟨fuel, passes, predicted, reports, _⟩ := predicts
  obtain ⟨finish, looped, rfl⟩ := Option.map_eq_some_iff.mp predicted
  have returns : 0 < stepSeconds ∨ durationHours ≤ 0 := by
    by_contra stuck
    have never : predictLoop (PassScan.sample propagator station minElevation)
        (startTime + 3600 * durationHours) stepSeconds fuel startTime .start = none :=
      predictLoop_stuck _ (by omega) (by omega) fuel .start
    exact Option.some_ne_none finish (looped.symm.trans never)
  refine ⟨returns, ?_⟩
  obtain ⟨otherFuel, others, otherPredicted, otherReports, _⟩ :=
    predictPasses_returns propagator station minElevation startTime returns
  obtain ⟨otherFinish, otherLooped, rfl⟩ := Option.map_eq_some_iff.mp otherPredicted
  have same : finish = otherFinish := predictLoop_unique _ looped otherLooped
  rw [← otherReports.length_eq, ← reports.length_eq, same]

end

/-- The passes that are predicted are the maximal runs of the window exactly when the prediction
returns and every run is ended by a valid sample below the minimum before the next one starts.
When samples with errors are left out of the sequence, they are its runs exactly when the last
sample that is left is below the minimum. -/
theorem passes_are_runs_iff (startTime durationHours stepSeconds : Int) :
    (PredictsRuns propagator station startTime durationHours minElevation stepSeconds
        (runs (Sample.visible minElevation)
          (windowSamples propagator station startTime durationHours stepSeconds)) ↔
      (0 < stepSeconds ∨ durationHours ≤ 0) ∧
        Resolved (Sample.visible minElevation) Sample.valid
          (windowSamples propagator station startTime durationHours stepSeconds)) ∧
    (PredictsRuns propagator station startTime durationHours minElevation stepSeconds
        (runs (Sample.visible minElevation)
          ((windowSamples propagator station startTime durationHours stepSeconds).filter
            Sample.valid)) ↔
      (0 < stepSeconds ∨ durationHours ≤ 0) ∧
        ∀ last, ((windowSamples propagator station startTime durationHours stepSeconds).filter
            Sample.valid).getLast? = some last →
          last.visible minElevation = false) := by
  have predicted (expected : List (List Sample)) :=
    @length_of_predicts propagator station minElevation startTime durationHours stepSeconds expected
  have reported : 0 < stepSeconds ∨ durationHours ≤ 0 → _ :=
    predictPasses_returns propagator station minElevation startTime
  generalize windowSamples propagator station startTime durationHours stepSeconds = samples
    at predicted reported ⊢
  have whole : (samples.filter Sample.valid).filter (fun _ => true) = samples.filter Sample.valid :=
    List.filter_eq_self.mpr fun _ _ => rfl
  have covers : ∀ sample : Sample, sample.visible minElevation = true → sample.valid = true :=
    fun _ => valid_of_visible
  obtain ⟨_, resolves, agree⟩ := findsRuns covers samples
  obtain ⟨_, resolvesValid, agreeValid⟩ := @findsRuns _ (Sample.visible minElevation)
    (fun _ => true) (fun _ _ => rfl) (samples.filter Sample.valid)
  rw [whole] at resolvesValid agreeValid
  rw [← resolved_all_iff]
  refine ⟨⟨fun matched => ?_, fun both => ?_⟩, fun matched => ?_, fun both => ?_⟩
  · obtain ⟨returns, length⟩ := predicted _ matched
    exact ⟨returns, resolves length⟩
  · rw [← agree both.2]
    exact reported both.1
  · obtain ⟨returns, length⟩ := predicted _ matched
    exact ⟨returns, resolvesValid length⟩
  · rw [← agreeValid both.2]
    exact reported both.1

/-! ### A pass at the end of the window -/

/-- A satellite that stays overhead. -/
def Propagator.overhead : Propagator where
  Position := Unit
  sgp4 _ := (0, ())
  lookAngles _ _ _ := (0, 90, 400)

/-- A station on the equator. -/
def GroundStation.equator : GroundStation where
  name := "Equator"
  latitude := 0
  longitude := 0
  altitude := 0
  gridSquare := "JJ00aa"

/-- The only run of the window is still going on at its end, and no pass is returned. -/
theorem pass_in_progress_lost :
    let samples := windowSamples .overhead .equator 0 1 1800
    predictPassesSgp4 3 .overhead .equator 0 1 10 1800 = some [] ∧
    (runs (Sample.visible 10) samples).length = 1 ∧
    samples.filter Sample.valid = samples ∧
    ¬ PredictsRuns .overhead .equator 0 1 10 1800 (runs (Sample.visible 10) samples) := by
  intro samples
  have observed : (runs (Sample.visible 10) samples).length = 1 := by decide +kernel
  have reported : (endedRuns (Sample.visible 10) (samples.filter Sample.valid)).length = 0 := by
    decide +kernel
  refine ⟨rfl, observed, rfl, fun predicted => ?_⟩
  obtain ⟨_, same⟩ := length_of_predicts .overhead .equator 10 0 predicted
  exact Nat.zero_ne_one (reported.symm.trans (same.trans observed))

end SmartQso.Tools
