/-
This file settles what the persisted uptime means once the spacecraft has been reset.
`mission_data_init` loads the total of the sessions before, but each iteration of the
main loop overwrites it with the time since the start of its own session. A mission
keeps an accumulated total exactly when no session that runs an iteration follows one
that has run for some time.
-/

import SmartQso.MainLoop
import SmartQso.Runs
import Mathlib.Data.List.Pairwise

namespace SmartQso

open Runs

/-! ### Sessions -/

/-- A session: what `init_system` finds besides the mission data, the EPS as it leaves it, and what
the outside answers in each iteration. -/
structure Session where
  eps : Eps
  sensors : List Sensor
  uartOpens : Bool
  telemetryIntervalMs : UInt32
  soc : ℚ
  startMs : UInt64
  inputs : List LoopInput

/-- The clock does not run backwards between the start of the session and its last iteration. -/
def Session.Steady (session : Session) : Prop :=
  (session.startMs :: session.inputs.map LoopInput.updateMs).Pairwise (· ≤ ·)

/-- The time from the start of a session to an iteration of it. -/
def elapsedMs (startMs : UInt64) (input : LoopInput) : Nat :=
  input.updateMs.toNat - startMs.toNat

/-- The time a session runs, up to its last iteration. -/
def Session.ranMs (session : Session) : Nat :=
  (session.inputs.getLast?.map (elapsedMs session.startMs)).getD 0

/-- The uptime a reader finds in the mission data file. -/
def persistedTotal (file : Option (Sealed MissionRecord)) : UInt64 :=
  (file.map fun stored => stored.record.totalUptimeMs).getD 0

/-- The uptime that a save leaves in the file, and the time that has been run by then. -/
structure UptimeSave where
  total : UInt64
  ran : Nat
  deriving DecidableEq

/-- The total never decreases from one save to the next, and is the time run. -/
def Accumulates (saves : List UptimeSave) : Prop :=
  saves.Pairwise (fun earlier later => earlier.total ≤ later.total) ∧
    ∀ save ∈ saves, save.total.toNat = save.ran

/-! ### The clock of a session -/

/-- The save an iteration would make. -/
def iterationSave (startMs : UInt64) (input : LoopInput) : UptimeSave :=
  ⟨input.updateMs - startMs, elapsedMs startMs input⟩

/-- An iteration that the clock puts behind the start measures the time run. -/
theorem iterationSave_exact {startMs : UInt64} {input : LoopInput}
    (after : startMs ≤ input.updateMs) :
    (iterationSave startMs input).total.toNat = (iterationSave startMs input).ran :=
  UInt64.toNat_sub_of_le _ _ after

theorem Session.Steady.start_le {session : Session} (steady : session.Steady) {input : LoopInput}
    (member : input ∈ session.inputs) : session.startMs ≤ input.updateMs :=
  (List.pairwise_cons.mp steady).1 _ (List.mem_map_of_mem member)

theorem Session.Steady.sorted {session : Session} (steady : session.Steady) :
    session.inputs.Pairwise fun earlier later =>
      elapsedMs session.startMs earlier ≤ elapsedMs session.startMs later := by
  have readings := List.pairwise_map.mp (List.pairwise_cons.mp steady).2
  exact readings.imp fun ordered => Nat.sub_le_sub_right (UInt64.le_iff_toNat_le.mp ordered) _

theorem Session.ranMs_of_ne_nil {session : Session} (nonempty : session.inputs ≠ []) :
    session.ranMs = elapsedMs session.startMs (session.inputs.getLast nonempty) := by
  rw [Session.ranMs, List.getLast?_eq_some_getLast nonempty, Option.map_some, Option.getD_some]

theorem Session.Steady.elapsed_le {session : Session} (steady : session.Steady)
    {input : LoopInput} (member : input ∈ session.inputs) :
    elapsedMs session.startMs input ≤ session.ranMs := by
  rw [Session.ranMs_of_ne_nil (List.ne_nil_of_mem member)]
  have reflexive : elapsedMs session.startMs (session.inputs.getLast (List.ne_nil_of_mem member)) ≤
      elapsedMs session.startMs (session.inputs.getLast (List.ne_nil_of_mem member)) := le_rfl
  exact steady.sorted.rel_getLast_of_rel_getLast_getLast member reflexive

section

/-! ### Runs of the software -/

variable [CLayout EpsRecord] [CLayout FaultRecord] [CLayout MissionRecord]

/-- The state in which the main loop of a session starts, over the file of the sessions before. -/
def Session.boot (session : Session) (file : Option (Sealed MissionRecord)) : Flight :=
  { Flight.launch session.eps.faults session.sensors file session.uartOpens
      session.telemetryIntervalMs session.soc session.startMs with eps := session.eps }

/-- The periodic saves of the iterations. -/
def loopSaves : Flight → List LoopInput → List UptimeSave
  | _, [] => []
  | flight, input :: rest =>
    let next := mainLoopIteration flight input
    if flight.tick % persistenceIntervalTicks = 0 then
      ⟨persistedTotal next.mission.file, elapsedMs flight.programStartMs input⟩ ::
        loopSaves next rest
    else loopSaves next rest

/-- The file a session leaves: the main loop ends and the mission data is saved. -/
def Session.fileAfter (session : Session) (file : Option (Sealed MissionRecord)) :
    Option (Sealed MissionRecord) :=
  (missionDataSave
    (finalState mainLoopIteration (session.boot file) session.inputs).mission).file

/-- The saves of a session, in order. -/
def Session.saves (session : Session) (file : Option (Sealed MissionRecord)) : List UptimeSave :=
  loopSaves (session.boot file) session.inputs ++
    [⟨persistedTotal (session.fileAfter file), session.ranMs⟩]

/-- The saves of a sequence of sessions, each with the time run in all sessions so far. -/
def missionSaves : Nat → Option (Sealed MissionRecord) → List Session → List UptimeSave
  | _, _, [] => []
  | finished, file, session :: rest =>
    (session.saves file).map (fun save => { save with ran := finished + save.ran }) ++
      missionSaves (finished + session.ranMs) (session.fileAfter file) rest

/-! ### One iteration -/

theorem updateMissionState_total (flight : Flight) (now : UInt64) :
    (updateMissionState flight now).mission.data.record.totalUptimeMs =
      now - flight.programStartMs := by
  unfold updateMissionState
  simp only []
  split <;> rfl

omit [CLayout MissionRecord] in
/-- The health check leaves the mission data, the start of the program and the tick alone. -/
theorem monitorSystemHealth_frame (flight : Flight) (uartOpens : Bool) (now : UInt64) :
    (monitorSystemHealth flight uartOpens now).mission = flight.mission ∧
      (monitorSystemHealth flight uartOpens now).programStartMs = flight.programStartMs ∧
      (monitorSystemHealth flight uartOpens now).tick = flight.tick := by
  unfold monitorSystemHealth
  split <;> exact ⟨rfl, rfl, rfl⟩

theorem updateAndMonitor_total (flight : Flight) (input : LoopInput) :
    (updateAndMonitor flight input).mission.data.record.totalUptimeMs =
      input.updateMs - flight.programStartMs := by
  rw [updateAndMonitor, (monitorSystemHealth_frame _ _ _).1, updateMissionState_total]

theorem updateAndMonitor_tick (flight : Flight) (input : LoopInput) :
    (updateAndMonitor flight input).tick = flight.tick :=
  (monitorSystemHealth_frame _ _ _).2.2

theorem mainLoopIteration_programStartMs (flight : Flight) (input : LoopInput) :
    (mainLoopIteration flight input).programStartMs = flight.programStartMs :=
  (monitorSystemHealth_frame _ _ _).2.1

/-- An iteration overwrites the total with the time since the start of its session. -/
theorem mainLoopIteration_total (flight : Flight) (input : LoopInput) :
    (mainLoopIteration flight input).mission.data.record.totalUptimeMs =
      input.updateMs - flight.programStartMs := by
  rw [← updateAndMonitor_total, mainLoopIteration]
  unfold pollAndSave
  simp only []
  split <;> rfl

/-- An iteration that saves puts its own total into the file. -/
theorem persistedTotal_saved {flight : Flight} (input : LoopInput)
    (due : flight.tick % persistenceIntervalTicks = 0) :
    persistedTotal (mainLoopIteration flight input).mission.file =
      input.updateMs - flight.programStartMs := by
  rw [← updateAndMonitor_total flight input, mainLoopIteration]
  unfold pollAndSave
  simp only [updateAndMonitor_tick, due, if_true]
  rfl

/-! ### One session -/

/-- The periodic saves are made by some of the iterations, in their order. -/
theorem loopSaves_sublist (flight : Flight) (inputs : List LoopInput) :
    (loopSaves flight inputs).Sublist (inputs.map (iterationSave flight.programStartMs)) := by
  induction inputs generalizing flight with
  | nil => exact List.Sublist.refl []
  | cons input rest inductionHypothesis =>
    have later := inductionHypothesis (mainLoopIteration flight input)
    rw [mainLoopIteration_programStartMs] at later
    rw [loopSaves, List.map_cons]
    by_cases due : flight.tick % persistenceIntervalTicks = 0
    · simp only [if_pos due, persistedTotal_saved input due]
      exact later.cons_cons _
    · simp only [if_neg due]
      exact later.cons _

theorem finalState_programStartMs (flight : Flight) (inputs : List LoopInput) :
    (finalState mainLoopIteration flight inputs).programStartMs = flight.programStartMs :=
  @finalState_of_invariant _ _ mainLoopIteration
    (fun reached => reached.programStartMs = flight.programStartMs)
    (fun reached input kept => (mainLoopIteration_programStartMs reached input).trans kept)
    flight rfl inputs

/-- A session that has run an iteration leaves the time of its last one. -/
theorem Session.persistedTotal_fileAfter {session : Session} (nonempty : session.inputs ≠ [])
    (file : Option (Sealed MissionRecord)) :
    persistedTotal (session.fileAfter file) =
      (iterationSave session.startMs (session.inputs.getLast nonempty)).total := by
  have split := List.dropLast_append_getLast nonempty
  show (finalState mainLoopIteration (session.boot file)
    session.inputs).mission.data.record.totalUptimeMs = _
  conv_lhs => rw [← split, finalState, List.foldl_append]
  show (mainLoopIteration _ _).mission.data.record.totalUptimeMs = _
  rw [mainLoopIteration_total]
  congr 1
  exact finalState_programStartMs _ _

/-- The record in a file, if there is one, carries the right checksum. -/
def FileIntact (file : Option (Sealed MissionRecord)) : Prop :=
  ∀ stored ∈ file, stored.verifies = true

theorem Session.fileAfter_intact (session : Session) (file : Option (Sealed MissionRecord)) :
    FileIntact (session.fileAfter file) := by
  intro stored member
  obtain rfl := Option.some.inj member
  exact Sealed.updateCrc_verifies _

/-- A session without an iteration leaves the total it has found. -/
theorem Session.persistedTotal_fileAfter_nil {session : Session} (idle : session.inputs = [])
    {file : Option (Sealed MissionRecord)} (intact : FileIntact file) :
    persistedTotal (session.fileAfter file) = persistedTotal file := by
  show (finalState mainLoopIteration (session.boot file)
    session.inputs).mission.data.record.totalUptimeMs = _
  rw [idle]
  show (missionDataInit (MissionData.boot file) session.startMs).data.record.totalUptimeMs = _
  cases file with
  | none => rfl
  | some stored =>
    have verified : stored.verifies = true := intact stored rfl
    unfold missionDataInit missionDataLoad
    simp only [MissionData.boot, verified, if_true]
    rfl

/-- A session measures the time run so far exactly when it starts from nothing, or runs no
iteration. -/
theorem Session.saves_exact_iff {session : Session} (steady : session.Steady)
    {file : Option (Sealed MissionRecord)} (intact : FileIntact file) {finished : Nat}
    (loaded : (persistedTotal file).toNat = finished) :
    (∀ save ∈ session.saves file, save.total.toNat = finished + save.ran) ↔
      (session.inputs ≠ [] → finished = 0) := by
  rw [Session.saves]
  constructor
  · intro exact nonempty
    have final := exact _ (List.mem_append_right _ List.mem_cons_self)
    have measured := iterationSave_exact (steady.start_le (List.getLast_mem nonempty))
    rw [Session.persistedTotal_fileAfter nonempty, measured, Session.ranMs_of_ne_nil nonempty]
      at final
    exact Nat.right_eq_add.mp final
  · intro first save member
    by_cases idle : session.inputs = []
    · rw [idle, loopSaves, List.nil_append] at member
      obtain rfl := List.mem_singleton.mp member
      rw [Session.persistedTotal_fileAfter_nil idle intact, loaded, Session.ranMs, idle]
      rfl
    · rw [first idle, Nat.zero_add]
      rcases List.mem_append.mp member with periodic | final
      · have made := (loopSaves_sublist _ _).subset periodic
        obtain ⟨input, run, rfl⟩ := List.mem_map.mp made
        exact iterationSave_exact (steady.start_le run)
      · obtain rfl := List.mem_singleton.mp final
        rw [Session.persistedTotal_fileAfter idle, Session.ranMs_of_ne_nil idle]
        exact iterationSave_exact (steady.start_le (List.getLast_mem idle))

/-! ### All sessions -/

/-- The times run at the saves of a session, in order. -/
theorem Session.Steady.ran_sorted {session : Session} (steady : session.Steady)
    (file : Option (Sealed MissionRecord)) :
    (session.saves file).Pairwise (fun earlier later => earlier.ran ≤ later.ran) ∧
      ∀ save ∈ session.saves file, save.ran ≤ session.ranMs := by
  have made := loopSaves_sublist (session.boot file) session.inputs
  have bounded : ∀ save ∈ loopSaves (session.boot file) session.inputs,
      save.ran ≤ session.ranMs := by
    intro save member
    obtain ⟨input, run, rfl⟩ := List.mem_map.mp (made.subset member)
    exact steady.elapsed_le run
  have ordered : (session.inputs.map (iterationSave session.startMs)).Pairwise
      fun earlier later => earlier.ran ≤ later.ran :=
    List.pairwise_map.mpr steady.sorted
  rw [Session.saves]
  constructor
  · refine List.pairwise_append.mpr ⟨ordered.sublist made, List.pairwise_singleton _ _, ?_⟩
    intro earlier periodic later final
    obtain rfl := List.mem_singleton.mp final
    exact bounded earlier periodic
  · intro save member
    rcases List.mem_append.mp member with periodic | final
    · exact bounded save periodic
    · obtain rfl := List.mem_singleton.mp final
      exact le_rfl

theorem missionSaves_ran_sorted {sessions : List Session}
    (steady : ∀ session ∈ sessions, session.Steady) (finished : Nat)
    (file : Option (Sealed MissionRecord)) :
    (missionSaves finished file sessions).Pairwise
        (fun earlier later => earlier.ran ≤ later.ran) ∧
      ∀ save ∈ missionSaves finished file sessions, finished ≤ save.ran := by
  induction sessions generalizing finished file with
  | nil => exact ⟨List.Pairwise.nil, fun save member => absurd member List.not_mem_nil⟩
  | cons session rest inductionHypothesis =>
    obtain ⟨sorted, bounded⟩ := (steady session List.mem_cons_self).ran_sorted file
    obtain ⟨restSorted, restBounded⟩ := inductionHypothesis
      (fun later member => steady later (List.mem_cons_of_mem _ member))
      (finished + session.ranMs) (session.fileAfter file)
    rw [missionSaves]
    constructor
    · refine List.pairwise_append.mpr ⟨List.pairwise_map.mpr ?_, restSorted, ?_⟩
      · exact sorted.imp fun ordered => Nat.add_le_add_left ordered finished
      · intro earlier own later behind
        obtain ⟨save, member, rfl⟩ := List.mem_map.mp own
        exact (Nat.add_le_add_left (bounded save member) finished).trans
          (restBounded later behind)
    · intro save member
      rcases List.mem_append.mp member with own | behind
      · obtain ⟨save, member, rfl⟩ := List.mem_map.mp own
        exact Nat.le_add_right _ _
      · exact (Nat.le_add_right _ _).trans (restBounded save behind)

/-- No session that runs an iteration follows one that has run for some time. -/
def RunsOnce (sessions : List Session) : Prop :=
  sessions.Pairwise fun earlier later => later.inputs ≠ [] → earlier.ranMs = 0

theorem missionSaves_exact_iff {sessions : List Session}
    (steady : ∀ session ∈ sessions, session.Steady) {finished : Nat}
    {file : Option (Sealed MissionRecord)} (intact : FileIntact file)
    (loaded : (persistedTotal file).toNat = finished) :
    (∀ save ∈ missionSaves finished file sessions, save.total.toNat = save.ran) ↔
      (∀ session ∈ sessions, session.inputs ≠ [] → finished = 0) ∧ RunsOnce sessions := by
  induction sessions generalizing finished file with
  | nil =>
    exact iff_of_true (fun save member => absurd member List.not_mem_nil)
      ⟨fun session member => absurd member List.not_mem_nil, List.Pairwise.nil⟩
  | cons session rest inductionHypothesis =>
    have own := Session.saves_exact_iff (steady session List.mem_cons_self) intact loaded
    have steadyRest : ∀ later ∈ rest, later.Steady :=
      fun later member => steady later (List.mem_cons_of_mem _ member)
    rw [missionSaves, List.forall_mem_append, List.forall_mem_map, own, List.forall_mem_cons,
      RunsOnce, List.pairwise_cons, and_assoc]
    refine and_congr_right fun first => ?_
    -- a session that meets its condition hands its whole time on
    have following : (persistedTotal (session.fileAfter file)).toNat =
        finished + session.ranMs :=
      own.mpr first _ (List.mem_append_right _ List.mem_cons_self)
    rw [inductionHypothesis steadyRest (session.fileAfter_intact file) following, ← and_assoc,
      ← RunsOnce]
    refine and_congr_left fun _ => ?_
    simp only [Nat.add_eq_zero_iff, imp_and, forall_and]

/-- After any steady sessions, the persisted uptime never decreases from one save to the next and
is the time run in all sessions exactly when no session that runs an iteration follows one that
has run for some time. -/
theorem uptime_accumulates_iff (sessions : List Session)
    (steady : ∀ session ∈ sessions, session.Steady) :
    Accumulates (missionSaves 0 none sessions) ↔
      sessions.Pairwise fun earlier later => later.inputs ≠ [] → earlier.ranMs = 0 := by
  have intact : FileIntact none := fun stored member => absurd member (Option.not_mem_none stored)
  have measured : (∀ save ∈ missionSaves 0 none sessions, save.total.toNat = save.ran) ↔
      RunsOnce sessions :=
    (missionSaves_exact_iff steady intact rfl).trans
      (and_iff_right fun session member run => rfl)
  refine Iff.trans (and_iff_right_of_imp fun exact => ?_) measured
  -- totals that are the times run are in the order of the times
  refine (missionSaves_ran_sorted steady 0 none).1.imp_of_mem ?_
  intro earlier later first second ordered
  rw [UInt64.le_iff_toNat_le, exact earlier first, exact later second]
  exact ordered

end

/-- A session of one iteration. -/
def shortSession (startMs updateMs : UInt64) : Session where
  eps := Eps.boot [] FaultMgmt.boot
  sensors := []
  uartOpens := true
  telemetryIntervalMs := 1000
  soc := 3 / 4
  startMs := startMs
  inputs := [⟨updateMs, updateMs, updateMs, true, true, true, true, fun _ => 0⟩]

theorem uptime_accumulates_short :
    letI := CLayout.blank EpsRecord
    letI := CLayout.blank FaultRecord
    letI := CLayout.blank MissionRecord
    (∀ session ∈ [shortSession 0 0, shortSession 1000 6000], session.Steady) ∧
      (Accumulates (missionSaves 0 none [shortSession 0 0, shortSession 1000 6000]) ↔
        [shortSession 0 0, shortSession 1000 6000].Pairwise
          fun earlier later => later.inputs ≠ [] → earlier.ranMs = 0) := by
  let := CLayout.blank EpsRecord
  let := CLayout.blank FaultRecord
  let := CLayout.blank MissionRecord
  have steady : ∀ session ∈ [shortSession 0 0, shortSession 1000 6000], session.Steady := by
    unfold Session.Steady
    decide
  exact ⟨steady, uptime_accumulates_iff _ steady⟩

/-- A session of five seconds, and one of a millisecond behind it: the second overwrites the
total of the first. -/
theorem uptime_overwritten :
    letI := CLayout.blank EpsRecord
    letI := CLayout.blank FaultRecord
    letI := CLayout.blank MissionRecord
    let sessions := [shortSession 0 5000, shortSession 10000 10001]
    (∀ session ∈ sessions, session.Steady) ∧
      missionSaves 0 none sessions = [⟨5000, 5000⟩, ⟨5000, 5000⟩, ⟨1, 5001⟩, ⟨1, 5001⟩] ∧
      ¬ Accumulates (missionSaves 0 none sessions) := by
  let := CLayout.blank EpsRecord
  let := CLayout.blank FaultRecord
  let := CLayout.blank MissionRecord
  have saved : missionSaves 0 none [shortSession 0 5000, shortSession 10000 10001] =
      [⟨5000, 5000⟩, ⟨5000, 5000⟩, ⟨1, 5001⟩, ⟨1, 5001⟩] := by decide +kernel
  refine ⟨by unfold Session.Steady; decide, saved, ?_⟩
  rw [saved]
  rintro ⟨_, exact⟩
  exact absurd (exact ⟨1, 5001⟩ (by decide)) (by decide)

end SmartQso
