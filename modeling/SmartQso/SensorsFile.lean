/-
This file settles what a configuration of sensors loads to. The line with the dash of an
item also holds its first field, the id, and the loader goes on to the next line without
looking at it. Everything else is read back: for every list of sensors, in whatever
order their fields stand and whatever comments come in between, the loaded sensors are
the ones in the file but for their ids.
-/

import SmartQso.CNumerals
import SmartQso.SensorConfig

namespace SmartQso

open TextLines

/-! ### The layout -/

/-- A field that has a line of its own. -/
inductive SensorField
  | name
  | type
  | units
  | channel
  | periodMs
  deriving DecidableEq

/-- The key of a field. -/
def SensorField.key : SensorField → List Char
  | .name => "name".toList
  | .type => "type".toList
  | .units => "units".toList
  | .channel => "channel".toList
  | .periodMs => "period_ms".toList

/-- The text of a field of a sensor. -/
def SensorField.value (sensor : SensorEntry) : SensorField → List Char
  | .name => sensor.name
  | .type => sensor.type
  | .units => sensor.units
  | .channel => sensor.channel
  | .periodMs => Nat.toDigits 10 sensor.periodMs.toNat

/-- A field of a sensor, taken over from another. -/
def SensorField.copy (given cur : SensorEntry) : SensorField → SensorEntry
  | .name => { cur with name := given.name }
  | .type => { cur with type := given.type }
  | .units => { cur with units := given.units }
  | .channel => { cur with channel := given.channel }
  | .periodMs => { cur with periodMs := given.periodMs }

/-- Two sensors agree on a field. -/
def SensorField.Agrees (first second : SensorEntry) : SensorField → Prop
  | .name => first.name = second.name
  | .type => first.type = second.type
  | .units => first.units = second.units
  | .channel => first.channel = second.channel
  | .periodMs => first.periodMs = second.periodMs

/-- A text that is printable, without quotes and without blanks around it, and shorter than its
buffer. -/
structure FitsBuffer (size : Nat) (text : List Char) : Prop where
  printable : ∀ char ∈ text, ' ' ≤ char ∧ char ≤ '~'
  unquoted : ∀ char ∈ text, isQuote char = false
  trimmed : Trimmed text
  short : text.length < size

/-- A sensor of a supported type whose texts fit. -/
structure SensorEntry.Valid (sensor : SensorEntry) : Prop where
  id : FitsBuffer smartQsoSensorIdLen sensor.id
  name : FitsBuffer smartQsoSensorNameLen sensor.name
  type : FitsBuffer smartQsoSensorTypeLen sensor.type
  units : FitsBuffer smartQsoSensorUnitsLen sensor.units
  channel : FitsBuffer smartQsoSensorChannelLen sensor.channel
  supported : (bindSensorBehavior sensor.type).isSome = true

/-- A sensor with the order of its fields in the file. A field that is empty may be left out. -/
structure SensorItem where
  sensor : SensorEntry
  order : List SensorField
  valid : sensor.Valid
  complete : ∀ field : SensorField, field ∉ order → field.Agrees SensorEntry.clear sensor

/-- The line of a field. -/
def SensorField.line (sensor : SensorEntry) (field : SensorField) : List Char :=
  "    ".toList ++ field.key ++ ": ".toList ++ field.value sensor

theorem SensorField.line_eq (sensor : SensorEntry) (field : SensorField) :
    field.line sensor = "    ".toList ++ field.key ++ ": ".toList ++ field.value sensor := rfl

/-- The lines of a sensor. -/
def SensorItem.lines (item : SensorItem) : List (List Char) :=
  ("  - id: ".toList ++ item.sensor.id) :: item.order.map (SensorField.line item.sensor)

/-- A blank line or a comment. -/
def isFiller (line : List Char) : Bool := (trim line).head? == some '#' || (trim line).isEmpty

/-- A file in the layout of `sensors.yaml`: the start of the list and the lines of at most 32
sensors, with blank lines and comments anywhere. -/
structure SensorsFile where
  items : List SensorItem
  lines : List (List Char)
  atMost : items.length ≤ smartQsoMaxSensors
  oneLine : ∀ line ∈ lines, '\n' ∉ line
  layout : (lines.filter fun line => !isFiller line) =
    "sensors:".toList :: items.flatMap SensorItem.lines

/-- The text of a file. -/
def SensorsFile.text (file : SensorsFile) : List Char := unlines file.lines

/-- No part of a line that the loader reads in one piece is content. -/
def Inert (line : List Char) : Prop :=
  ∀ piece ∈ fgetsPieces (256 - 1) (256 - 1) (line ++ ['\n']),
    isFiller (piece.takeWhile (· != '\x00')) = true

/-! ### Fields -/

theorem FitsBuffer.mono {size larger : Nat} {text : List Char} (fits : FitsBuffer size text)
    (le : size ≤ larger) : FitsBuffer larger text :=
  ⟨fits.printable, fits.unquoted, fits.trimmed, fits.short.trans_le le⟩

/-- The digits of a period fit a small buffer. -/
theorem fitsBuffer_toDigits (periodMs : UInt32) :
    FitsBuffer 11 (Nat.toDigits 10 periodMs.toNat) := by
  have digit : ∀ char ∈ Nat.toDigits 10 periodMs.toNat, '0'.toNat ≤ char.toNat ∧
      char.toNat ≤ '9'.toNat :=
    fun _ => CNumerals.toNat_of_mem_toDigits
  refine ⟨?_, ?_, Trimmed.of_noSpace (List.any_eq_false.mpr ?_), ?_⟩
  · intro char member
    obtain ⟨low, high⟩ := digit char member
    exact ⟨le_trans (by decide) low, le_trans high (by decide)⟩
  · intro char member
    obtain ⟨low, high⟩ := digit char member
    simp only [isQuote, Bool.or_eq_false_iff, beq_eq_false_iff_ne]
    constructor
    · rintro rfl
      exact absurd low (by decide)
    · rintro rfl
      exact absurd low (by decide)
  · intro char member space
    obtain ⟨low, _⟩ := digit char member
    simp only [isSpace, isBlank, Bool.or_eq_true, beq_iff_eq] at space
    obtain (rfl | rfl) | (rfl | rfl) := space
    all_goals exact absurd low (by decide)
  · exact Nat.lt_succ_of_le ((Nat.length_toDigits_le_iff (by decide) (by decide)).mpr
      (periodMs.toNat_lt.trans (by decide)))

/-- The value that stands for a field fits every buffer on its way. -/
theorem SensorEntry.Valid.value {sensor : SensorEntry} (valid : sensor.Valid)
    (field : SensorField) : FitsBuffer 64 (field.value sensor) := by
  cases field with
  | name => exact valid.name
  | type => exact valid.type.mono (by decide)
  | units => exact valid.units.mono (by decide)
  | channel => exact valid.channel.mono (by decide)
  | periodMs => exact (fitsBuffer_toDigits sensor.periodMs).mono (by decide)

/-- The number that `strtoul` reads from the digits of a period. -/
theorem strtoul_toDigits (periodMs : UInt32) :
    (strtoul (Nat.toDigits 10 periodMs.toNat)).toUInt32 = periodMs := by
  have fits : periodMs.toNat < UInt64.size := periodMs.toNat_lt.trans (by decide)
  unfold strtoul CNumerals.strtoul
  rw [(CNumerals.denotes_toDigits periodMs.toNat).convert]
  apply UInt32.toNat.inj
  rw [UInt64.toNat_toUInt32, CNumerals.toNat_toUnsignedLong fits]
  exact Nat.mod_eq_of_lt periodMs.toNat_lt

/-- A text that fits is not cut. -/
theorem FitsBuffer.take {size : Nat} {text : List Char} (fits : FitsBuffer size text) :
    text.take (size - 1) = text :=
  List.take_of_length_le (by have short := fits.short; omega)

/-- The value of a field, once read, is stored as it is. -/
theorem SensorEntry.Valid.set {sensor : SensorEntry} (valid : sensor.Valid) (cur : SensorEntry)
    (field : SensorField) : cur.set field.key (field.value sensor) = field.copy sensor cur := by
  cases field with
  | name =>
    rw [SensorEntry.set, if_neg (by decide), if_pos (by rfl)]
    exact congrArg (fun text => { cur with name := text }) valid.name.take
  | type =>
    rw [SensorEntry.set, if_neg (by decide), if_neg (by decide), if_pos (by rfl)]
    exact congrArg (fun text => { cur with type := text }) valid.type.take
  | units =>
    rw [SensorEntry.set, if_neg (by decide), if_neg (by decide), if_neg (by decide),
      if_pos (by rfl)]
    exact congrArg (fun text => { cur with units := text }) valid.units.take
  | channel =>
    rw [SensorEntry.set, if_neg (by decide), if_neg (by decide), if_neg (by decide),
      if_neg (by decide), if_pos (by rfl)]
    exact congrArg (fun text => { cur with channel := text }) valid.channel.take
  | periodMs =>
    rw [SensorEntry.set, if_neg (by decide), if_neg (by decide), if_neg (by decide),
      if_neg (by decide), if_neg (by decide), if_pos (by rfl)]
    exact congrArg (fun period => { cur with periodMs := period })
      (strtoul_toDigits sensor.periodMs)

/-! ### Lines -/

/-- A line of a key and a value, without the white space around it. -/
def keyLine (key value : List Char) : List Char :=
  key ++ ':' :: if value = [] then [] else ' ' :: value

/-- What trimming leaves of a line of a key and a value. -/
theorem trim_keyLine {before key value : List Char} (blanks : before.all isBlank = true)
    (keyTrimmed : Trimmed key) (keySome : key ≠ []) (valueTrimmed : Trimmed value) :
    trim (before ++ key ++ ": ".toList ++ value ++ ['\n']) = keyLine key value := by
  have colon : Trimmed [':'] := Trimmed.of_noSpace (by decide)
  unfold keyLine
  by_cases empty : value = []
  · have shape : before ++ key ++ ": ".toList ++ value ++ ['\n'] =
        before ++ (key ++ [] ++ [':']) ++ [' ', '\n'] := by
      rw [empty]
      simp
    rw [shape, if_pos empty]
    rw [trim_pad (keyTrimmed.append colon keySome (by simp) []) blanks (by decide)]
    simp
  · have shape : before ++ key ++ ": ".toList ++ value ++ ['\n'] =
        before ++ (key ++ [':', ' '] ++ value) ++ ['\n'] := by
      simp
    rw [shape, if_neg empty]
    rw [trim_pad (keyTrimmed.append valueTrimmed keySome empty [':', ' ']) blanks (by decide),
      List.append_assoc]
    rfl

/-- A line of a key and a value is read back. -/
theorem parseKeyval_keyLine {key value : List Char} (noColon : ':' ∉ key)
    (keyTrimmed : Trimmed key) (keyShort : key.length < 64) (fits : FitsBuffer 64 value) :
    parseKeyval (keyLine key value) = (key, value) := by
  have drops : (keyLine key value).dropWhile (· != ':') =
      ':' :: if value = [] then [] else ' ' :: value := dropWhile_ne_append noColon _
  have takes : (keyLine key value).takeWhile (· != ':') = key := takeWhile_ne_append noColon _
  have afterColon : (if value = [] then [] else ' ' :: value).dropWhile isBlank = value := by
    by_cases empty : value = []
    · rw [if_pos empty, empty]
      rfl
    · rw [if_neg empty]
      exact @dropWhile_blanks [' '] value (by decide) fits.trimmed.first
  have unquoted : removeQuotes value = value := by
    cases value with
    | nil => rfl
    | cons mark rest =>
      refine if_neg fun quoted => ?_
      have quote : isQuote mark = true := quoted.1
      rw [fits.unquoted mark List.mem_cons_self] at quote
      cases quote
  unfold parseKeyval
  rw [drops]
  dsimp only
  rw [takes, afterColon, List.take_of_length_le (by omega), trim_of_trimmed keyTrimmed,
    List.take_of_length_le (by have short := fits.short; omega), trim_of_trimmed fits.trimmed,
    unquoted]

theorem SensorField.key_spec (field : SensorField) :
    ':' ∉ field.key ∧ '\x00' ∉ field.key ∧ field.key ≠ [] ∧ field.key.length < 64 ∧
      field.key.any isSpace = false ∧ field.key.head? ≠ some '#' ∧
        field.key.head? ≠ some '-' := by
  cases field <;> decide

theorem FitsBuffer.noNull {size : Nat} {text : List Char} (fits : FitsBuffer size text) :
    '\x00' ∉ text := fun member => absurd (fits.printable _ member).1 (by decide)

/-- The line of a field sets it. -/
theorem loadLine_field {load : SensorsLoad} (inList : load.inList = true) {sensor : SensorEntry}
    (valid : sensor.Valid) (field : SensorField) :
    loadLine load (field.line sensor ++ ['\n']) =
      { load with cur := field.copy sensor load.cur } := by
  obtain ⟨noColon, keyNoNull, some, short, noSpace, noComment, noDash⟩ := field.key_spec
  have fits := valid.value field
  have noNull : '\x00' ∉ field.line sensor ++ ['\n'] := by
    rw [SensorField.line_eq]
    simp only [List.mem_append, not_or]
    exact ⟨⟨⟨⟨by decide, keyNoNull⟩, by decide⟩, fits.noNull⟩, by decide⟩
  have trimmed : trim (field.line sensor ++ ['\n']) = keyLine field.key (field.value sensor) :=
    trim_keyLine (by decide) (Trimmed.of_noSpace noSpace) some fits.trimmed
  have head : (keyLine field.key (field.value sensor)).head? = field.key.head? :=
    List.head?_append_of_ne_nil _ some
  have noItem : ¬ ((keyLine field.key (field.value sensor)).take 2 = "- ".toList ∨
      keyLine field.key (field.value sensor) = "-".toList) := by
    rintro (dash | dash)
    · have first := congrArg List.head? dash
      rw [List.head?_take, if_neg (by decide), head] at first
      exact noDash first
    · have first := congrArg List.head? dash
      rw [head] at first
      exact noDash first
  have content : ¬ ((keyLine field.key (field.value sensor)).head? = Option.some '#' ∨
      keyLine field.key (field.value sensor) = []) := by
    rw [head]
    rintro (comment | empty)
    · exact noComment comment
    · exact List.append_ne_nil_of_left_ne_nil some _ empty
  unfold loadLine
  dsimp only
  rw [takeWhile_ne_self noNull, trimmed, if_neg content, inList, Bool.not_true,
    if_neg Bool.false_ne_true, if_neg noItem,
    parseKeyval_keyLine noColon (Trimmed.of_noSpace noSpace) short fits]
  dsimp only
  rw [if_neg some, valid.set]

/-- The line of an item with a dash ends the item before, and its id is not looked at. -/
theorem loadLine_item {load : SensorsLoad} (inList : load.inList = true) {id : List Char}
    (fits : FitsBuffer smartQsoSensorIdLen id) :
    loadLine load ("  - id: ".toList ++ id ++ ['\n']) =
      if load.haveItem then { addSensorFromFields load with cur := SensorEntry.clear }
      else { load with haveItem := true } := by
  have noNull : '\x00' ∉ "  - id: ".toList ++ id ++ ['\n'] := by
    simp only [List.mem_append, not_or]
    exact ⟨⟨by decide, fits.noNull⟩, by decide⟩
  have trimmed : trim ("  - id: ".toList ++ id ++ ['\n']) = keyLine "- id".toList id := by
    have shape : "  - id: ".toList ++ id ++ ['\n'] =
        "  ".toList ++ "- id".toList ++ ": ".toList ++ id ++ ['\n'] := by
      rfl
    rw [shape]
    refine trim_keyLine (by decide) ⟨?_, ?_⟩ (by decide) fits.trimmed
    · rintro _ ⟨⟩
      decide
    · rintro _ ⟨⟩
      decide
  unfold loadLine
  dsimp only
  rw [takeWhile_ne_self noNull, trimmed, inList, Bool.not_true, if_neg Bool.false_ne_true,
    if_neg, if_pos]
  · exact Or.inl rfl
  · rintro (comment | empty)
    · exact absurd (Option.some.inj comment) (by decide)
    · exact List.append_ne_nil_of_left_ne_nil (by decide) _ empty

/-! ### Files -/

/-- A line without content leaves the loader as it is. -/
theorem loadLine_filler (load : SensorsLoad) {piece : List Char}
    (filler : isFiller (piece.takeWhile (· != '\x00')) = true) : loadLine load piece = load := by
  simp only [isFiller, Bool.or_eq_true, beq_iff_eq, List.isEmpty_iff] at filler
  exact if_pos filler

theorem foldl_loadLine_filler (pieces : List (List Char)) (load : SensorsLoad)
    (filler : ∀ piece ∈ pieces, isFiller (piece.takeWhile (· != '\x00')) = true) :
    pieces.foldl loadLine load = load := by
  induction pieces with
  | nil => rfl
  | cons piece rest inductionHypothesis =>
    rw [List.foldl_cons, loadLine_filler load (filler piece List.mem_cons_self)]
    exact inductionHypothesis fun other member => filler other (List.mem_cons_of_mem _ member)

/-- Comments and blank lines do not matter, and every other line is read in one piece. -/
theorem foldl_loadLine_lines (lines : List (List Char)) (load : SensorsLoad)
    (oneLine : ∀ line ∈ lines, '\n' ∉ line)
    (inert : ∀ line ∈ lines, isFiller line = true → Inert line)
    (short : ∀ line ∈ lines, isFiller line = false → line.length < 256 - 1) :
    (lines.flatMap fun line => fgetsPieces (256 - 1) (256 - 1) (line ++ ['\n'])).foldl loadLine
        load =
      (lines.filter fun line => !isFiller line).foldl
        (fun load line => loadLine load (line ++ ['\n'])) load := by
  induction lines generalizing load with
  | nil => rfl
  | cons line rest inductionHypothesis =>
    have onward := fun load => inductionHypothesis load
      (fun other member => oneLine other (List.mem_cons_of_mem _ member))
      (fun other member => inert other (List.mem_cons_of_mem _ member))
      (fun other member => short other (List.mem_cons_of_mem _ member))
    rw [List.flatMap_cons, List.foldl_append, onward]
    cases filler : isFiller line with
    | true =>
      rw [foldl_loadLine_filler _ load (inert line List.mem_cons_self filler),
        List.filter_cons_of_neg (by simp [filler])]
    | false =>
      rw [fgetsPieces_line _ (oneLine line List.mem_cons_self)
        (short line List.mem_cons_self filler), List.filter_cons_of_pos (by simp [filler])]
      rfl

/-! ### Sensors -/

/-- What a sensor is loaded as. -/
def SensorEntry.withoutId (sensor : SensorEntry) : SensorEntry := { sensor with id := [] }

theorem SensorField.agrees_copy (given cur : SensorEntry) (field : SensorField) :
    field.Agrees (field.copy given cur) given := by
  cases field <;> rfl

theorem SensorField.agrees_copy_of_agrees {given cur : SensorEntry} {field : SensorField}
    (agrees : field.Agrees cur given) (other : SensorField) :
    field.Agrees (other.copy given cur) given := by
  cases field <;> cases other <;> first | exact agrees | rfl

/-- The lines of the fields set all of them. -/
theorem foldl_loadLine_fields {load : SensorsLoad} (inList : load.inList = true)
    {sensor : SensorEntry} (valid : sensor.Valid) (order : List SensorField) :
    (order.map (SensorField.line sensor)).foldl (fun load line => loadLine load (line ++ ['\n']))
        load =
      { load with cur := order.foldl (fun cur field => field.copy sensor cur) load.cur } := by
  induction order generalizing load with
  | nil => rfl
  | cons field rest inductionHypothesis =>
    rw [List.map_cons, List.foldl_cons, List.foldl_cons, loadLine_field inList valid]
    exact inductionHypothesis inList

theorem foldl_copy {sensor cur : SensorEntry} (noId : cur.id = []) (order : List SensorField)
    (complete : ∀ field : SensorField, field ∉ order → field.Agrees cur sensor) :
    order.foldl (fun cur field => field.copy sensor cur) cur = sensor.withoutId := by
  induction order generalizing cur with
  | nil =>
    have agrees := fun field => complete field (List.not_mem_nil)
    obtain ⟨id, name, type, units, channel, periodMs⟩ := cur
    have fields : name = sensor.name ∧ type = sensor.type ∧ units = sensor.units ∧
        channel = sensor.channel ∧ periodMs = sensor.periodMs :=
      ⟨agrees .name, agrees .type, agrees .units, agrees .channel, agrees .periodMs⟩
    obtain ⟨rfl, rfl, rfl, rfl, rfl⟩ := fields
    exact congrArg (fun id => { sensor with id := id }) noId
  | cons field rest inductionHypothesis =>
    rw [List.foldl_cons]
    refine inductionHypothesis ?_ fun other absent => ?_
    · cases field <;> exact noId
    · by_cases same : other = field
      · rw [same]
        exact field.agrees_copy sensor cur
      · refine SensorField.agrees_copy_of_agrees (complete other fun member => ?_) field
        obtain here | later := List.mem_cons.mp member
        · exact same here
        · exact absent later

/-- The loader is in the list, and no field is set before the first item. -/
structure InList (load : SensorsLoad) : Prop where
  inList : load.inList = true
  unset : load.haveItem = false → load.cur = SensorEntry.clear

/-- After the line with the dash, the sensors before are stored and no field is set. -/
theorem loadLine_item_eq {load : SensorsLoad} (reading : InList load) {id : List Char}
    (fits : FitsBuffer smartQsoSensorIdLen id) :
    loadLine load ("  - id: ".toList ++ id ++ ['\n']) =
      ⟨true, true, SensorEntry.clear, load.finish⟩ := by
  rw [loadLine_item reading.inList fits]
  obtain ⟨inList, haveItem, cur, sensors⟩ := load
  obtain ⟨rfl, unset⟩ := reading
  cases haveItem with
  | true =>
    simp only [SensorsLoad.finish, addSensorFromFields, if_true]
    split
    · rfl
    · split <;> rfl
  | false =>
    rw [show cur = SensorEntry.clear from unset rfl]
    rfl

/-- At the end the last item is stored, when there is room and its type is supported. -/
theorem finish_item {cur : SensorEntry} {sensors : List SensorEntry}
    (room : sensors.length < smartQsoMaxSensors)
    (supported : (bindSensorBehavior cur.type).isSome = true) :
    (⟨true, true, cur, sensors⟩ : SensorsLoad).finish = sensors ++ [cur] := by
  have bound : ¬ (bindSensorBehavior cur.type).isNone = true := by
    rw [Option.isNone_iff_eq_none]
    exact Option.isSome_iff_ne_none.mp supported
  unfold SensorsLoad.finish addSensorFromFields
  rw [if_pos rfl, if_neg (not_le.mpr room), if_neg bound]

/-- The lines of a sensor add it, without its id. -/
theorem foldl_loadLine_item {load : SensorsLoad} (reading : InList load) (item : SensorItem)
    (room : load.finish.length < smartQsoMaxSensors) :
    let after := item.lines.foldl (fun load line => loadLine load (line ++ ['\n'])) load
    InList after ∧ after.finish = load.finish ++ [item.sensor.withoutId] := by
  have fields : item.lines.foldl (fun load line => loadLine load (line ++ ['\n'])) load =
      ⟨true, true, item.sensor.withoutId, load.finish⟩ := by
    rw [SensorItem.lines, List.foldl_cons, loadLine_item_eq reading item.valid.id,
      foldl_loadLine_fields rfl item.valid, foldl_copy rfl item.order item.complete]
  dsimp only
  rw [fields]
  refine ⟨⟨rfl, fun absurdly => by cases absurdly⟩, finish_item room ?_⟩
  exact item.valid.supported

/-- The lines of all sensors add them, without their ids. -/
theorem foldl_loadLine_items (items : List SensorItem) {load : SensorsLoad}
    (reading : InList load) (room : load.finish.length + items.length ≤ smartQsoMaxSensors) :
    ((items.flatMap SensorItem.lines).foldl (fun load line => loadLine load (line ++ ['\n']))
        load).finish =
      load.finish ++ items.map fun item => item.sensor.withoutId := by
  induction items generalizing load with
  | nil => exact (List.append_nil _).symm
  | cons item rest inductionHypothesis =>
    rw [List.length_cons] at room
    obtain ⟨still, added⟩ := foldl_loadLine_item reading item (by omega)
    rw [List.flatMap_cons, List.foldl_append, inductionHypothesis still, added, List.map_cons,
      List.append_assoc, List.singleton_append]
    rw [added, List.length_append, List.length_singleton]
    omega

/-- The lines with content of a file are shorter than the buffer. -/
theorem SensorsFile.short (file : SensorsFile) :
    ∀ line ∈ file.lines, isFiller line = false → line.length < 256 - 1 := by
  intro line member content
  have inside : line ∈ "sensors:".toList :: file.items.flatMap SensorItem.lines := by
    rw [← file.layout, List.mem_filter]
    exact ⟨member, by rw [content]; rfl⟩
  obtain rfl | ofItem := List.mem_cons.mp inside
  · decide
  obtain ⟨item, _, ofLines⟩ := List.mem_flatMap.mp ofItem
  obtain rfl | ofField := List.mem_cons.mp ofLines
  · have short := item.valid.id.short
    have indented : "  - id: ".toList.length = 8 := by decide
    rw [List.length_append, indented]
    unfold smartQsoSensorIdLen at short
    omega
  · obtain ⟨field, _, rfl⟩ := List.mem_map.mp ofField
    have short := (item.valid.value field).short
    have keyShort := field.key_spec.2.2.2.1
    have around : "    ".toList.length = 4 ∧ ": ".toList.length = 2 := by decide
    rw [SensorField.line_eq, List.length_append, List.length_append, List.length_append, around.1,
      around.2]
    omega

/-- What a file in the layout loads to. -/
theorem sensorsLoadYaml_text (file : SensorsFile)
    (inert : ∀ line ∈ file.lines, isFiller line = true → Inert line) :
    sensorsLoadYaml file.text = file.items.map fun item => item.sensor.withoutId := by
  have begins : loadLine SensorsLoad.start ("sensors:".toList ++ ['\n']) =
      ⟨true, false, SensorEntry.clear, []⟩ := by decide
  unfold sensorsLoadYaml SensorsFile.text
  rw [fgetsPieces_unlines _ file.oneLine, foldl_loadLine_lines file.lines _ file.oneLine inert
    file.short, file.layout, List.foldl_cons, begins,
    foldl_loadLine_items file.items ⟨rfl, fun _ => rfl⟩ (by
      rw [SensorsLoad.finish]
      exact (Nat.zero_add _).trans_le file.atMost)]
  rfl

/-- For every list of sensors and every layout of it, the file loads to exactly these sensors
if and only if none of them has an id. -/
theorem sensorsLoadYaml_eq_iff (file : SensorsFile)
    (inert : ∀ line ∈ file.lines, isFiller line = true → Inert line) :
    sensorsLoadYaml file.text = file.items.map SensorItem.sensor ↔
      ∀ item ∈ file.items, item.sensor.id = [] := by
  rw [sensorsLoadYaml_text file inert, List.map_inj_left]
  refine forall₂_congr fun item _ => ?_
  constructor
  · intro same
    rw [← same]
    rfl
  · intro empty
    exact congrArg (fun id => { item.sensor with id := id }) empty.symm

/-! ### Examples of files -/

/-- A comment or blank line that fits the buffer is inert. -/
theorem inert_of_short {line : List Char} (oneLine : '\n' ∉ line) (noNull : '\x00' ∉ line)
    (filler : isFiller line = true) (short : line.length < 256 - 1) : Inert line := by
  intro piece member
  rw [fgetsPieces_line _ oneLine short, List.mem_singleton] at member
  have whole : '\x00' ∉ line ++ ['\n'] := by
    rw [List.mem_append, not_or]
    exact ⟨noNull, by decide⟩
  have same : trim (line ++ ['\n']) = trim line := by
    unfold trim
    rw [List.rdropWhile_concat_pos _ _ _ (by decide)]
  rw [member, takeWhile_ne_self whole, isFiller, same]
  exact filler

theorem fitsBuffer_of_all {size : Nat} {text : List Char}
    (all : (text.all fun char => decide (' ' ≤ char ∧ char ≤ '~') && !isQuote char &&
      !isSpace char) = true)
    (short : text.length < size) : FitsBuffer size text := by
  simp only [List.all_eq_true, Bool.and_eq_true, decide_eq_true_eq, Bool.not_eq_true'] at all
  exact ⟨fun char member => (all char member).1.1, fun char member => (all char member).1.2,
    Trimmed.of_noSpace (List.any_eq_false.mpr fun char member =>
      ne_true_of_eq_false (all char member).2), short⟩

theorem fitsBuffer_nil {size : Nat} (some : 0 < size) : FitsBuffer size [] :=
  fitsBuffer_of_all rfl some

theorem fitsBuffer_timer : FitsBuffer smartQsoSensorTypeLen "software_timer".toList :=
  fitsBuffer_of_all (by decide) (by decide)

/-- A timer with an id and nothing else. -/
def timerItem (id : List Char) (fits : FitsBuffer smartQsoSensorIdLen id) : SensorItem where
  sensor := { SensorEntry.clear with id := id, type := "software_timer".toList }
  order := [.type]
  valid :=
    { id := fits
      name := fitsBuffer_nil (by decide)
      type := fitsBuffer_timer
      units := fitsBuffer_nil (by decide)
      channel := fitsBuffer_nil (by decide)
      supported := by rfl }
  complete field absent := by
    cases field with
    | type => exact absurd List.mem_cons_self absent
    | _ => rfl

/-- A file of a timer without an id and a comment. -/
def anonymousFile : SensorsFile where
  items := [timerItem [] (fitsBuffer_nil (by decide))]
  lines := ["# timers".toList, "sensors:".toList, "  - id: ".toList,
    "    type: software_timer".toList]
  atMost := by decide
  oneLine := List.forall_iff_forall_mem.mp (by decide)
  layout := by decide

theorem sensorsLoadYaml_anonymousFile :
    sensorsLoadYaml anonymousFile.text = anonymousFile.items.map SensorItem.sensor := by
  have plain : (anonymousFile.lines.all fun line => !line.contains '\n' &&
      !line.contains '\x00' && decide (line.length < 256 - 1)) = true := by decide
  refine (sensorsLoadYaml_eq_iff anonymousFile fun line member filler => ?_).mpr ?_
  · have fits := List.all_eq_true.mp plain line member
    simp only [Bool.and_eq_true, Bool.not_eq_true', List.contains_eq_mem, decide_eq_false_iff_not,
      decide_eq_true_eq] at fits
    exact inert_of_short fits.1.1 fits.1.2 filler fits.2
  · intro item member
    rw [List.mem_singleton.mp member]
    rfl

/-- A file of one timer. -/
def timerFile : SensorsFile where
  items := [timerItem "SET".toList (fitsBuffer_of_all (by decide) (by decide))]
  lines := ["sensors:".toList, "  - id: SET".toList, "    type: software_timer".toList]
  atMost := by decide
  oneLine := List.forall_iff_forall_mem.mp (by decide)
  layout := by decide

/-- The timer of the file is loaded without its id. -/
theorem sensorsLoadYaml_loses_id :
    ¬ ∀ file : SensorsFile, sensorsLoadYaml file.text = file.items.map SensorItem.sensor := by
  intro claimed
  have loaded := claimed timerFile
  revert loaded
  decide

end SmartQso
