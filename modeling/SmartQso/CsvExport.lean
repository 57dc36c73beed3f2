/-
This file settles when `export_csv` of `telemetry_display.py` loses no sample. It writes
one row for every distinct time, and a cell holds the first value that its parameter has
at that time. So a second value at the same time has no place, and a time that `datetime`
cannot convert ends the file. That the file can be opened and written is taken for
granted, and so is that the times are ordered.
-/

import Mathlib.Data.Finset.Sort
import SmartQso.TelemetryDisplay

namespace SmartQso.GroundDisplay

variable {V T : Type}

/-! ### The file -/

/-- A row. A cell without a value is the empty text. -/
structure CsvRow (V T : Type) where
  timestamp : T
  datetime : String
  cells : List (Option V)

/-- The header and the rows. -/
structure CsvFile (V T : Type) where
  header : List String
  rows : List (CsvRow V T)

/-- The parameters of an export: all that are known, unless they are named. -/
def TelemetryDisplay.exported (display : TelemetryDisplay V T) (parameters : Option (List String)) :
    List String :=
  parameters.getD (display.points.map TelemetryPoint.name)

section

variable [LinearOrder T]

/-- `all_times`. -/
def TelemetryDisplay.allTimes (display : TelemetryDisplay V T) (parameters : List String) :
    Finset T :=
  (parameters.flatMap fun name => (display.getHistory name none).map Prod.fst).toFinset

/-- The cell of a parameter: its first value at the time. -/
def TelemetryDisplay.cell (display : TelemetryDisplay V T) (ts : T) (name : String) : Option V :=
  ((display.getHistory name none).find? fun sample => sample.1 = ts).map Prod.snd

/-- The loop over the times, and whether it comes to its end. `isoformat` is the text of a time,
where `datetime.fromtimestamp` does not raise. -/
def TelemetryDisplay.writeRows (display : TelemetryDisplay V T) (isoformat : T → Option String)
    (parameters : List String) : List T → List (CsvRow V T) × Bool
  | [] => ([], true)
  | ts :: rest =>
    match isoformat ts with
    | none => ([], false)
    | some datetime =>
      let (rows, finished) := display.writeRows isoformat parameters rest
      (⟨ts, datetime, parameters.map (display.cell ts)⟩ :: rows, finished)

/-- `export_csv`, and whether it returns. -/
def TelemetryDisplay.exportCsv (display : TelemetryDisplay V T) (isoformat : T → Option String)
    (parameters : Option (List String)) : CsvFile V T × Bool :=
  let parameters := display.exported parameters
  let sortedTimes := (display.allTimes parameters).sort
  let (rows, finished) := display.writeRows isoformat parameters sortedTimes
  (⟨["timestamp", "datetime"] ++ parameters, rows⟩, finished)

/-! ### Nothing lost -/

/-- Every sample of an exported parameter is in a row with its time, under its parameter, and the
rows are in the order of their times. -/
structure LosesNoSample (display : TelemetryDisplay V T) (isoformat : T → Option String)
    (parameters : Option (List String)) : Prop where
  kept : ∀ name ∈ display.exported parameters, ∀ sample ∈ display.getHistory name none,
    ∃ row ∈ (display.exportCsv isoformat parameters).1.rows, row.timestamp = sample.1 ∧
      (name, some sample.2) ∈ (display.exported parameters).zip row.cells
  ordered : (display.exportCsv isoformat parameters).1.rows.Pairwise
    fun earlier later => earlier.timestamp ≤ later.timestamp

/-- The times of the exported histories can be converted, and no exported parameter has two values
at one time. -/
def Tabular (display : TelemetryDisplay V T) (isoformat : T → Option String)
    (parameters : Option (List String)) : Prop :=
  ∀ name ∈ display.exported parameters,
    (∀ sample ∈ display.getHistory name none, (isoformat sample.1).isSome) ∧
      ∀ sample ∈ display.getHistory name none, ∀ other ∈ display.getHistory name none,
        sample.1 = other.1 → sample.2 = other.2

/-! ### The rows -/

variable {display : TelemetryDisplay V T} {isoformat : T → Option String}

theorem mem_allTimes {parameters : List String} {name : String} (exported : name ∈ parameters)
    {sample : T × V} (member : sample ∈ display.getHistory name none) :
    sample.1 ∈ display.allTimes parameters := by
  rw [TelemetryDisplay.allTimes, List.mem_toFinset, List.mem_flatMap]
  exact ⟨name, exported, List.mem_map_of_mem member⟩

/-- A row holds the cells of its time, which has been converted. -/
theorem mem_writeRows {parameters : List String} {times : List T} {row : CsvRow V T}
    (member : row ∈ (display.writeRows isoformat parameters times).1) :
    (isoformat row.timestamp).isSome ∧ row.cells = parameters.map (display.cell row.timestamp) := by
  induction times with
  | nil => exact absurd member List.not_mem_nil
  | cons ts rest inductionHypothesis =>
    rw [TelemetryDisplay.writeRows] at member
    split at member
    case h_1 => exact absurd member List.not_mem_nil
    case h_2 datetime converted =>
      rcases List.mem_cons.mp member with rfl | later
      · exact ⟨converted ▸ rfl, rfl⟩
      · exact inductionHypothesis later

/-- The times of the rows are the first ones of all times. -/
theorem timestamps_writeRows (parameters : List String) (times : List T) :
    (display.writeRows isoformat parameters times).1.map CsvRow.timestamp <+: times := by
  induction times with
  | nil => exact List.nil_prefix
  | cons ts rest inductionHypothesis =>
    rw [TelemetryDisplay.writeRows]
    split
    case h_1 => exact List.nil_prefix
    case h_2 => exact List.prefix_cons_inj ts |>.mpr inductionHypothesis

/-- With every time converted there is a row for each. -/
theorem exists_row {parameters : List String} {times : List T}
    (converted : ∀ ts ∈ times, (isoformat ts).isSome) {ts : T} (member : ts ∈ times) :
    ∃ row ∈ (display.writeRows isoformat parameters times).1, row.timestamp = ts := by
  induction times with
  | nil => exact absurd member List.not_mem_nil
  | cons first rest inductionHypothesis =>
    obtain ⟨some, later⟩ := List.forall_mem_cons.mp converted
    obtain ⟨datetime, converts⟩ := Option.isSome_iff_exists.mp some
    rw [TelemetryDisplay.writeRows, converts]
    rcases List.mem_cons.mp member with rfl | member
    · exact ⟨_, List.mem_cons_self, rfl⟩
    · obtain ⟨row, inside, same⟩ := inductionHypothesis later member
      exact ⟨row, List.mem_cons_of_mem _ inside, same⟩

/-- The rows of an export are always in order. -/
theorem ordered_exportCsv (parameters : Option (List String)) :
    (display.exportCsv isoformat parameters).1.rows.Pairwise
      fun earlier later => earlier.timestamp ≤ later.timestamp := by
  rw [← List.pairwise_map]
  exact (Finset.pairwise_sort _ _).sublist (timestamps_writeRows _ _).sublist

/-- A value stands under its parameter exactly when it is the cell. -/
theorem mem_zip_cells_iff {parameters : List String} {cells : String → Option V} {name : String}
    {value : V} : (name, some value) ∈ parameters.zip (parameters.map cells) ↔
      name ∈ parameters ∧ cells name = some value := by
  rw [← List.map_prod_left_eq_zip, List.mem_map]
  constructor
  · rintro ⟨other, member, same⟩
    obtain ⟨named, same⟩ := Prod.mk.inj same
    exact ⟨named ▸ member, named ▸ same⟩
  · rintro ⟨member, same⟩
    exact ⟨name, member, by rw [same]⟩

/-- Where a parameter has one value at a time, the cell holds it. -/
theorem cell_eq {name : String} {sample : T × V} (member : sample ∈ display.getHistory name none)
    (single : ∀ other ∈ display.getHistory name none, sample.1 = other.1 → sample.2 = other.2) :
    display.cell sample.1 name = some sample.2 := by
  unfold TelemetryDisplay.cell
  cases found : (display.getHistory name none).find? fun other => other.1 = sample.1 with
  | none =>
    rw [List.find?_eq_none] at found
    exact absurd (decide_eq_true rfl) (found sample member)
  | some other =>
    have same : other.1 = sample.1 := by simpa using List.find?_some found
    rw [Option.map_some, single other (List.mem_of_find?_eq_some found) same.symm]

/-- A sample that is not lost has been converted, and is the one in its cell. -/
theorem LosesNoSample.read {parameters : Option (List String)}
    (lossless : LosesNoSample display isoformat parameters) {name : String}
    (exported : name ∈ display.exported parameters) {sample : T × V}
    (member : sample ∈ display.getHistory name none) :
    (isoformat sample.1).isSome ∧ display.cell sample.1 name = some sample.2 := by
  obtain ⟨row, inside, same, shown⟩ := lossless.kept name exported sample member
  obtain ⟨converted, cells⟩ := mem_writeRows inside
  rw [same] at converted cells
  rw [cells] at shown
  exact ⟨converted, (mem_zip_cells_iff.mp shown).2⟩

variable (display isoformat) in
/-- An export loses no sample exactly when its times can be converted and no parameter has two
values at one time. -/
theorem losesNoSample_iff (parameters : Option (List String)) :
    LosesNoSample display isoformat parameters ↔ Tabular display isoformat parameters := by
  constructor
  · intro lossless name exported
    refine ⟨fun sample member => (lossless.read exported member).1,
      fun sample member other inside same => ?_⟩
    have first := (lossless.read exported member).2
    rw [same, (lossless.read exported inside).2] at first
    exact (Option.some.inj first).symm
  · intro tabular
    refine ⟨fun name exported sample member => ?_, ordered_exportCsv parameters⟩
    have converted : ∀ ts ∈ (display.allTimes (display.exported parameters)).sort,
        (isoformat ts).isSome := by
      intro ts inside
      rw [Finset.mem_sort, TelemetryDisplay.allTimes, List.mem_toFinset, List.mem_flatMap] at inside
      obtain ⟨other, exported, inside⟩ := inside
      obtain ⟨sample, member, rfl⟩ := List.mem_map.mp inside
      exact (tabular other exported).1 sample member
    obtain ⟨row, inside, same⟩ :=
      exists_row converted ((Finset.mem_sort _).mpr (mem_allTimes exported member))
    refine ⟨row, inside, same, ?_⟩
    rw [(mem_writeRows inside).2, same, mem_zip_cells_iff]
    exact ⟨exported, cell_eq member ((tabular name exported).2 sample member)⟩

end

/-- Of two values at one time the second one is lost. -/
theorem losesNoSample_fails :
    ¬ ∀ (isoformat : ℚ → Option String) (number : ℚ → ℚ) (historySize : Nat) (startTime : ℚ)
      (readings : List (Reading ℚ ℚ)) (parameters : Option (List String)),
      LosesNoSample (readings.foldl TelemetryDisplay.update
        (TelemetryDisplay.init number historySize startTime)) isoformat parameters := by
  intro claimed
  let reading (value : ℚ) : Reading ℚ ℚ := ⟨"voltage", value, "V", some 100, 100, 100⟩
  let display := [reading 1, reading 2].foldl TelemetryDisplay.update
    (TelemetryDisplay.init id 1000 0)
  have lossless := claimed (fun _ => some "") id 1000 0 [reading 1, reading 2] none
  have exported : "voltage" ∈ display.exported none := by decide +kernel
  have member : ((100, 2) : ℚ × ℚ) ∈ display.getHistory "voltage" none := by decide +kernel
  have shown := (lossless.read exported member).2
  have first : display.cell 100 "voltage" = some 1 := by decide +kernel
  have same := shown.symm.trans first
  revert same
  decide +kernel

end SmartQso.GroundDisplay
