/-
This file models `sensors_format_telemetry` in the buffer that it fills. A field that does not fit
is cut by `snprintf` and has then overwritten a part of the buffer, but the number returned ends
before it. The file proves that it ends behind the most fields that fit, and that the telemetry
line of `main.c` has just these.
-/

import SmartQso.CheckedMemory
import SmartQso.CStrings
import SmartQso.JetsonTelemetry

namespace SmartQso

open CheckedMemory CStrings

/-! ### The function -/

/-- What `%.3f` makes of a number. The greatest one has 309 digits before the point. -/
structure NumberFormat (Double : Type) where
  text : Double → Text
  short : ∀ value, (text value).characters.length ≤ 314

/-- The members of `Sensor_t` that a field shows. -/
structure TelemetrySensor (Double : Type) where
  id : TextArray 8
  units : TextArray 16
  valueType : SensorValueType
  lastValue : Double
  lastText : TextArray 8

/-- `snprintf` of a text: as many of its characters as fit are stored, with a terminator. Its result
is the number of all of them, or negative when that is no `int`. -/
def snprintf (memory : Memory UInt8) (dest size : Nat) (text : List UInt8) :
    Option (Int × Memory UInt8) := do
  let memory ← (if size = 0 then some memory
    else storeAll memory dest (text.take (size - 1) ++ [0]))
  some (if text.length < 2147483648 then text.length else -1, memory)

section

variable {Double : Type} (numbers : NumberFormat Double)

/-- The text of a value. -/
def sensorValue (sensor : TelemetrySensor Double) : List UInt8 :=
  match sensor.valueType with
  | .numeric => (numbers.text sensor.lastValue).characters
  | .hex2 => sensor.lastText.characters

/-- A field: the identifier, the value and the units. -/
def sensorField (sensor : TelemetrySensor Double) : List UInt8 :=
  sensor.id.characters ++ ascii "=" ++ sensorValue numbers sensor ++ sensor.units.characters ++
    ascii ","

/-- The loop of `sensors_format_telemetry`. -/
def formatFields (buffer bufferLen : Nat) :
    List (TelemetrySensor Double) → Nat → Memory UInt8 → Option (Nat × Memory UInt8)
  | [], offset, memory => some (offset, memory)
  | sensor :: rest, offset, memory => do
    let printed ← snprintf memory (buffer + offset) (bufferLen - offset)
      (sensorField numbers sensor)
    if printed.1 < 0 ∨ printed.1.toNat ≥ bufferLen - offset then some (offset, printed.2)
    else formatFields buffer bufferLen rest (offset + printed.1.toNat) printed.2

/-- `sensors_format_telemetry` into a buffer in memory. -/
def formatTelemetry (memory : Memory UInt8) (sensors : List (TelemetrySensor Double))
    (buffer bufferLen : Nat) : Option (Nat × Memory UInt8) :=
  formatFields numbers buffer bufferLen sensors 0 memory

end

/-! ### The fields that fit -/

/-- The fields at the start of a list that fit with a terminator, and no more of them do. -/
structure LongestFit (room : Nat) (fields : List (List UInt8)) (count : Nat) : Prop where
  few : count ≤ fields.length
  fits : (fields.take count).flatten.length < room
  longest : ∀ more, count < more → more ≤ fields.length →
    room ≤ (fields.take more).flatten.length

/-- Fields are taken one after the other, as long as they fit. -/
def fitting : Nat → List (List UInt8) → Nat
  | _, [] => 0
  | room, field :: rest =>
    if field.length < room then fitting (room - field.length) rest + 1 else 0

/-- The fields that are taken are the most that fit. -/
theorem longestFit_fitting {room : Nat} (positive : 0 < room) (fields : List (List UInt8)) :
    LongestFit room fields (fitting room fields) := by
  induction fields generalizing room with
  | nil =>
    refine ⟨Nat.le_refl _, positive, fun more greater within => ?_⟩
    exact absurd greater (Nat.not_lt.mpr within)
  | cons field rest inductionHypothesis =>
    rw [fitting]
    split_ifs with fits
    · obtain ⟨few, restFits, longest⟩ := inductionHypothesis (Nat.sub_pos_of_lt fits)
      refine ⟨Nat.succ_le_succ few, ?_, fun more greater within => ?_⟩
      · rw [List.take_succ_cons, List.flatten_cons, List.length_append]
        omega
      · obtain ⟨more, rfl⟩ := Nat.exists_eq_succ_of_ne_zero (Nat.ne_zero_of_lt greater)
        have further := longest more (Nat.lt_of_succ_lt_succ greater)
          (Nat.le_of_succ_le_succ within)
        rw [List.take_succ_cons, List.flatten_cons, List.length_append]
        omega
    · refine ⟨Nat.zero_le _, positive, fun more greater _ => ?_⟩
      obtain ⟨more, rfl⟩ := Nat.exists_eq_succ_of_ne_zero (Nat.ne_zero_of_lt greater)
      rw [List.take_succ_cons, List.flatten_cons, List.length_append]
      exact Nat.le_add_right_of_le (Nat.not_lt.mp fits)

/-- The text of the fields that are taken. -/
def fittingText (room : Nat) (fields : List (List UInt8)) : List UInt8 :=
  (fields.take (fitting room fields)).flatten

theorem fittingText_cons {room : Nat} {field : List UInt8} (fits : field.length < room)
    (rest : List (List UInt8)) :
    fittingText room (field :: rest) = field ++ fittingText (room - field.length) rest := by
  rw [fittingText, fitting, if_pos fits, List.take_succ_cons, List.flatten_cons]
  rfl

theorem fittingText_of_long {room : Nat} {field : List UInt8} (long : ¬ field.length < room)
    (rest : List (List UInt8)) : fittingText room (field :: rest) = [] := by
  rw [fittingText, fitting, if_neg long]
  rfl

/-- The telemetry line shows the fields that are taken. -/
theorem sensorsFormatTelemetry_eq (room : Nat) (readings : List SensorReading) :
    sensorsFormatTelemetry room readings = fittingText room (readings.map formatReading) := by
  induction readings generalizing room with
  | nil => rfl
  | cons reading rest inductionHypothesis =>
    rw [List.map_cons, sensorsFormatTelemetry]
    split_ifs with long
    · exact (fittingText_of_long (Nat.not_lt.mpr long) _).symm
    · rw [fittingText_cons (Nat.not_le.mp long), inductionHypothesis]

/-! ### The buffer -/

section

variable {memory : Memory UInt8}

theorem snprintf_eq {dest size : Nat} {text : List UInt8} (positive : 0 < size)
    (accessible : Accessible memory dest size) (short : text.length < 2147483648) :
    snprintf memory dest size text =
      some ((text.length : Int), written memory dest (text.take (size - 1) ++ [0])) := by
  have few : (text.take (size - 1)).length ≤ size - 1 := List.length_take_le _ _
  have cells : Accessible memory dest (text.take (size - 1) ++ [0]).length := by
    intro index inside
    rw [List.length_append, List.length_singleton] at inside
    exact accessible index (by omega)
  rw [snprintf, if_neg (Nat.ne_of_gt positive), storeAll_eq cells, Option.bind_eq_bind,
    Option.bind_some, if_pos short]

variable {Double : Type} (numbers : NumberFormat Double)

theorem length_sensorField_lt (sensor : TelemetrySensor Double) :
    (sensorField numbers sensor).length < 2147483648 := by
  have value : (sensorValue numbers sensor).length ≤ 314 := by
    unfold sensorValue
    cases sensor.valueType with
    | numeric => exact numbers.short sensor.lastValue
    | hex2 => exact Nat.le_trans (Nat.le_of_lt sensor.lastText.fits) (by decide)
  have id := sensor.id.fits
  have units := sensor.units.fits
  have equals : (ascii "=").length = 1 := rfl
  have comma : (ascii ",").length = 1 := rfl
  simp only [sensorField, List.length_append, equals, comma]
  omega

/-- From an offset on, the loop leaves the fields that fit, and nothing outside the buffer has
changed. The induction is on the sensors that are left: what is printed behind a field leaves the
field as it is. -/
theorem formatFields_spec {buffer bufferLen : Nat} (sensors : List (TelemetrySensor Double))
    {offset : Nat} (inside : offset < bufferLen)
    (accessible : Accessible memory (buffer + offset) (bufferLen - offset)) :
    ∃ after,
      formatFields numbers buffer bufferLen sensors offset memory = some
        (offset + (fittingText (bufferLen - offset) (sensors.map (sensorField numbers))).length,
          after) ∧
      Contains after (buffer + offset)
        (fittingText (bufferLen - offset) (sensors.map (sensorField numbers))) ∧
      ∀ place, place < buffer + offset ∨ buffer + bufferLen ≤ place →
        after place = memory place := by
  induction sensors generalizing offset memory with
  | nil => exact ⟨memory, rfl, fun _ none => absurd none (Nat.not_lt_zero _), fun _ _ => rfl⟩
  | cons sensor rest inductionHypothesis =>
    have printed := snprintf_eq (Nat.sub_pos_of_lt inside) accessible
      (length_sensorField_lt numbers sensor)
    rw [List.map_cons, formatFields, printed, Option.bind_eq_bind, Option.bind_some]
    dsimp only
    generalize sensorField numbers sensor = field
    by_cases fits : field.length < bufferLen - offset
    · have whole : field.take (bufferLen - offset - 1) = field :=
        List.take_of_length_le (Nat.le_sub_one_of_lt fits)
      have next : Accessible (written memory (buffer + offset) (field ++ [0]))
          (buffer + (offset + field.length)) (bufferLen - (offset + field.length)) := by
        rw [← Nat.add_assoc]
        exact (accessible.part (by omega)).kept
      obtain ⟨after, formatted, shown, untouched⟩ := inductionHypothesis (by omega) next
      rw [Nat.sub_add_eq, ← Nat.add_assoc] at shown
      rw [Nat.sub_add_eq] at formatted
      rw [if_neg (by omega), Int.toNat_natCast, whole, formatted, fittingText_cons fits,
        List.length_append]
      refine ⟨after, congrArg some (Prod.ext (Nat.add_assoc _ _ _) rfl), ?_, ?_⟩
      · refine contains_append.mpr ⟨fun index within => ?_, shown⟩
        rw [untouched _ (Or.inl (by omega))]
        exact (contains_append.mp contains_written).1 index within
      · intro place outside
        rw [untouched place (by omega)]
        exact written_outside (by rw [List.length_append, List.length_singleton]; omega)
    · have few : (field.take (bufferLen - offset - 1)).length ≤ bufferLen - offset - 1 :=
        List.length_take_le _ _
      rw [Int.toNat_natCast, if_pos (Or.inr (Nat.not_lt.mp fits)), fittingText_of_long fits]
      refine ⟨_, rfl, fun _ none => absurd none (Nat.not_lt_zero _), fun place outside => ?_⟩
      exact written_outside (by rw [List.length_append, List.length_singleton]; omega)

/-- The number returned is the length of the most fields at the start of the list that fit with a
terminator, and these fields are at the start of the buffer. The memory may hold nothing but the
buffer that may be accessed. -/
theorem telemetry_ends_behind_field {buffer bufferLen : Nat} (positive : 1 ≤ bufferLen)
    (accessible : Accessible memory buffer bufferLen) (sensors : List (TelemetrySensor Double)) :
    let fields := sensors.map fun sensor =>
      sensor.id.characters ++ ascii "=" ++ sensorValue numbers sensor ++ sensor.units.characters ++
        ascii ","
    ∃ count after,
      LongestFit bufferLen fields count ∧
      formatTelemetry numbers memory sensors buffer bufferLen =
        some ((fields.take count).flatten.length, after) ∧
      Contains after buffer (fields.take count).flatten ∧
      ∀ place, place < buffer ∨ buffer + bufferLen ≤ place → after place = memory place := by
  have start : Accessible memory (buffer + 0) (bufferLen - 0) := accessible
  obtain ⟨after, formatted, shown, untouched⟩ := formatFields_spec numbers sensors positive start
  rw [Nat.zero_add, Nat.sub_zero] at formatted
  exact ⟨_, after, longestFit_fitting positive _, formatted, shown, untouched⟩

end

/-! ### The fields of the telemetry line -/

/-- A number with a text that is no longer than that of the greatest `double`. -/
def ShortNumber : Type := { value : ℚ // (formatFixed 3 value).length ≤ 314 }

theorem zero_not_mem_formatUnsigned (value : Nat) : (0 : UInt8) ∉ formatUnsigned value :=
  fun member => absurd (digit_of_mem_formatUnsigned member).1 (by decide)

theorem zero_not_mem_formatFixed (places : Nat) (value : ℚ) :
    (0 : UInt8) ∉ formatFixed places value := by
  have minus : (0 : UInt8) ∉ if value < 0 then ascii "-" else [] := by
    split_ifs <;> decide
  have point : (0 : UInt8) ∉ ascii "." := by decide
  have zeros : ∀ count, (0 : UInt8) ∉ List.replicate count 0x30 :=
    fun count member => absurd (List.eq_of_mem_replicate member) (by decide)
  unfold formatFixed
  simp only [List.mem_append, not_or, minus, point, zeros, zero_not_mem_formatUnsigned,
    not_false_iff, and_self]

/-- The numbers of the telemetry line. -/
def shortNumbers : NumberFormat ShortNumber where
  text number := ⟨formatFixed 3 number.val, zero_not_mem_formatFixed 3 number.val⟩
  short number := number.property

/-- The members of a sensor in the telemetry line. -/
def TelemetrySensor.reading (sensor : TelemetrySensor ShortNumber) : SensorReading where
  id := sensor.id.characters
  units := sensor.units.characters
  valueType := sensor.valueType
  lastValue := sensor.lastValue.val
  lastText := sensor.lastText.characters

theorem formatReading_eq (sensor : TelemetrySensor ShortNumber) :
    formatReading sensor.reading = sensorField shortNumbers sensor := by
  obtain ⟨id, units, valueType, lastValue, lastText⟩ := sensor
  cases valueType <;> rfl

/-- The fields in the buffer are those of the telemetry line. -/
theorem formatTelemetry_eq {memory : Memory UInt8} {buffer bufferLen : Nat}
    (positive : 1 ≤ bufferLen) (accessible : Accessible memory buffer bufferLen)
    (sensors : List (TelemetrySensor ShortNumber)) :
    ∃ after,
      formatTelemetry shortNumbers memory sensors buffer bufferLen = some
        ((sensorsFormatTelemetry bufferLen (sensors.map TelemetrySensor.reading)).length, after) ∧
      Contains after buffer
        (sensorsFormatTelemetry bufferLen (sensors.map TelemetrySensor.reading)) := by
  have fields : (sensors.map TelemetrySensor.reading).map formatReading =
      sensors.map (sensorField shortNumbers) := by
    rw [List.map_map]
    exact List.map_congr_left fun sensor _ => formatReading_eq sensor
  have start : Accessible memory (buffer + 0) (bufferLen - 0) := accessible
  obtain ⟨after, formatted, shown, -⟩ := formatFields_spec shortNumbers sensors positive start
  rw [Nat.zero_add, Nat.sub_zero] at formatted
  rw [sensorsFormatTelemetry_eq, fields]
  exact ⟨after, formatted, shown⟩

/-- The battery voltage. -/
def sampleVoltage : TelemetrySensor ShortNumber where
  id := ⟨⟨ascii "BV", by decide⟩, by decide⟩
  units := ⟨⟨ascii "V", by decide⟩, by decide⟩
  valueType := .numeric
  lastValue := ⟨37 / 5, by decide +kernel⟩
  lastText := ⟨⟨ascii "", by decide⟩, by decide⟩

/-- The status of a device. -/
def sampleStatus : TelemetrySensor ShortNumber where
  id := ⟨⟨ascii "ST", by decide⟩, by decide⟩
  units := ⟨⟨ascii "hex", by decide⟩, by decide⟩
  valueType := .hex2
  lastValue := ⟨0, by decide +kernel⟩
  lastText := ⟨⟨ascii "0A", by decide⟩, by decide⟩

/-- Of two fields with ten and nine characters one fits into sixteen bytes. -/
theorem telemetry_ends_behind_field_sample :
    let fields := [sampleVoltage, sampleStatus].map fun sensor =>
      sensor.id.characters ++ ascii "=" ++ sensorValue shortNumbers sensor ++
        sensor.units.characters ++ ascii ","
    ∃ count after,
      LongestFit 16 fields count ∧
      formatTelemetry shortNumbers (block 0x100 (List.replicate 16 0))
        [sampleVoltage, sampleStatus] 0x100 16 =
        some ((fields.take count).flatten.length, after) ∧
      Contains after 0x100 (fields.take count).flatten ∧
      ∀ place, place < 0x100 ∨ 0x100 + 16 ≤ place →
        after place = block 0x100 (List.replicate 16 0) place := by
  have contained : Contains (block 0x100 (List.replicate 16 (0 : UInt8))) 0x100
      (List.replicate 16 0) := contains_written
  exact telemetry_ends_behind_field shortNumbers (by decide) contained.accessible
    [sampleVoltage, sampleStatus]

end SmartQso
