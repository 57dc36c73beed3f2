/-
This file settles which info fields can be transmitted. Only the text is cut to ASCII and
to the room that is left; the telemetry behind it goes through as it is. The fields of
the record alone can make an info field too long or put a character into it that cannot
be sent, and a line break in the text stays.
-/

import SmartQso.Formatter

namespace SmartQso.Payload

open JsonText

/-! ### Plain texts -/

/-- The character ends a line. -/
def isLineBreak (char : CodePoint) : Bool := char.val == 0x0A || char.val == 0x0D

/-- The character is one of ASCII that does not end a line. -/
def isPlain (char : CodePoint) : Bool := decide (char.val < 0x80) && !isLineBreak char

/-- An info field that can be transmitted for a record: of at most 200 characters, all of them ASCII
and none a line break, with the telemetry of the record at the end. -/
structure Transmittable (health : Health) (field : List CodePoint) : Prop where
  short : field.length ≤ 200
  ascii : field.all (fun char => char.val < 0x80) = true
  oneLine : field.any isLineBreak = false
  telemetry : pyText " | " ++ buildTail health <:+ field

/-- The number of characters that the fields of a record take in the telemetry. -/
def fieldsLength (health : Health) : Nat :=
  health.timeIsoZ.length + health.mode.length + (intText health.soc).length +
    health.pwr.length + (intText health.qso).length

/-- The fields of the record take at most 166 characters, its texts are plain, and the part of the
text for which there is room has no line break. -/
structure FitsField (health : Health) (text : List CodePoint) : Prop where
  short : fieldsLength health ≤ 166
  time : health.timeIsoZ.all isPlain = true
  mode : health.mode.all isPlain = true
  pwr : health.pwr.all isPlain = true
  oneLine : ((toAscii text).take (166 - fieldsLength health)).any isLineBreak = false

theorem all_isPlain_iff (text : List CodePoint) :
    text.all isPlain = true ↔
      text.all (fun char => char.val < 0x80) = true ∧ text.any isLineBreak = false := by
  simp only [isPlain, List.all_eq_true, List.any_eq_false, Bool.and_eq_true, Bool.not_eq_true',
    Bool.not_eq_true, forall₂_and]

theorem isPlain_codePoint {char : Char} (printable : isPrintable char = true) :
    isPlain (codePoint char) = true := by
  have range := of_decide_eq_true printable
  have value : (codePoint char).val = char.toNat := rfl
  simp only [isPlain, isLineBreak, value, Bool.and_eq_true, decide_eq_true_eq, Bool.not_eq_true',
    Bool.or_eq_false_iff, beq_eq_false_iff_ne]
  omega

theorem all_isPlain_pyInt (value : Int) : (pyInt value).all isPlain = true := by
  have printable := printable_intText value
  rw [List.all_eq_true] at printable
  rw [pyInt, List.all_map, List.all_eq_true]
  exact fun char member => isPlain_codePoint (printable char member)

theorem toAscii_toAscii (text : List CodePoint) : toAscii (toAscii text) = toAscii text :=
  List.filter_filter .. |>.trans (by simp only [Bool.and_self, toAscii])

/-- A text of ASCII is cut to the limit. -/
theorem clampBytes_toAscii (text : List CodePoint) (limit : Nat) :
    clampBytes (toAscii text) limit = (toAscii text).take limit := by
  unfold clampBytes
  dsimp only
  rw [toAscii_toAscii]
  split
  case isTrue fits => exact (List.take_of_length_le fits).symm
  case isFalse => rfl

theorem all_ascii_toAscii (text : List CodePoint) (limit : Nat) :
    ((toAscii text).take limit).all (fun char => char.val < 0x80) = true := by
  rw [List.all_eq_true]
  exact fun char member => (List.mem_filter.mp (List.mem_of_mem_take member)).2

/-! ### The telemetry -/

/-- The telemetry of a record that was read is plain exactly when its texts are. -/
theorem all_isPlain_buildTail_iff (health : Health) :
    (buildTail health).all isPlain = true ↔
      health.timeIsoZ.all isPlain = true ∧ health.mode.all isPlain = true ∧
        health.pwr.all isPlain = true := by
  have labels : (["T=", " M=", " SOC=", " SUN=", " RF=", " PWR=", " QSO="].all fun label =>
      (pyText label).all isPlain) = true := by decide
  simp only [List.all_cons, List.all_nil, Bool.and_true, Bool.and_eq_true] at labels
  obtain ⟨time, mode, soc, sun, rf, pwr, qso⟩ := labels
  simp only [buildTail, List.all_append, all_isPlain_pyInt, time, mode, soc, sun, rf, pwr, qso,
    Bool.true_and, Bool.and_true, Bool.and_eq_true, and_assoc]

/-- A record that was read says of the sun and of the radio one digit each. -/
theorem length_buildTail {health : Health} (sun : health.sun = 0 ∨ health.sun = 1)
    (rf : health.rf = 0 ∨ health.rf = 1) :
    (buildTail health).length = 31 + fieldsLength health := by
  have digit : ∀ value : Int, value = 0 ∨ value = 1 → (pyInt value).length = 1 := by
    rintro value (rfl | rfl) <;> rfl
  have labels : ["T=", " M=", " SOC=", " SUN=", " RF=", " PWR=", " QSO="].map
      (fun label => (pyText label).length) = [2, 3, 5, 5, 4, 5, 5] := by decide
  simp only [List.map_cons, List.map_nil, List.cons.injEq, and_true] at labels
  obtain ⟨time, mode, soc, sunLabel, rfLabel, pwr, qso⟩ := labels
  have digits : ∀ value, (pyInt value).length = (intText value).length :=
    fun value => List.length_map _
  simp only [buildTail, List.length_append, digit _ sun, digit _ rf, digits health.soc,
    digits health.qso, time, mode, soc, sunLabel, rfLabel, pwr, qso, fieldsLength]
  omega

theorem parseHealthLine_flags {py : PyLibrary} {nowIsoZ line : List CodePoint} {health : Health}
    (accepted : parseHealthLine py nowIsoZ line = some health) :
    (health.sun = 0 ∨ health.sun = 1) ∧ (health.rf = 0 ∨ health.rf = 1) := by
  unfold parseHealthLine at accepted
  split at accepted
  case h_1 entries _ =>
    simp only [Option.bind_eq_bind, Option.bind_eq_some_iff, Option.pure_def,
      Option.some.injEq] at accepted
    obtain ⟨soc, _, qso, _, rfl⟩ := accepted
    dsimp only
    constructor
    · split
      · exact Or.inr rfl
      · exact Or.inl rfl
    · split
      · exact Or.inr rfl
      · exact Or.inl rfl
  case h_2 => cases accepted

/-! ### Info fields -/

theorem composeInfoField_eq {health : Health} (sun : health.sun = 0 ∨ health.sun = 1)
    (rf : health.rf = 0 ∨ health.rf = 1) (text : List CodePoint) :
    composeInfoField health text =
      (toAscii text).take (166 - fieldsLength health) ++ pyText " | " ++ buildTail health := by
  have room : 200 - (3 + (buildTail health).length) = 166 - fieldsLength health := by
    rw [length_buildTail sun rf]
    omega
  unfold composeInfoField
  dsimp only
  rw [clampBytes_toAscii, room]

/-- For every line that is accepted and every text, the info field can be transmitted exactly when
the fields of the record and the start of the text allow it. -/
theorem transmittable_iff {py : PyLibrary} {nowIsoZ line : List CodePoint} {health : Health}
    (accepted : parseHealthLine py nowIsoZ line = some health) (text : List CodePoint) :
    Transmittable health (composeInfoField health text) ↔ FitsField health text := by
  obtain ⟨sun, rf⟩ := parseHealthLine_flags accepted
  have telemetry := length_buildTail sun rf
  have separator : (pyText " | ").all isPlain = true ∧ (pyText " | ").length = 3 := by decide
  have plain : (composeInfoField health text).all isPlain = true ↔
      ((toAscii text).take (166 - fieldsLength health)).any isLineBreak = false ∧
        health.timeIsoZ.all isPlain = true ∧ health.mode.all isPlain = true ∧
          health.pwr.all isPlain = true := by
    rw [composeInfoField_eq sun rf, List.all_append, List.all_append, separator.1, Bool.and_true,
      Bool.and_eq_true, all_isPlain_buildTail_iff, all_isPlain_iff]
    exact and_congr_left' (and_iff_right (all_ascii_toAscii text _))
  constructor
  · intro transmittable
    obtain ⟨oneLine, time, mode, pwr⟩ :=
      plain.mp ((all_isPlain_iff _).mpr ⟨transmittable.ascii, transmittable.oneLine⟩)
    refine ⟨?_, time, mode, pwr, oneLine⟩
    have short := transmittable.short
    rw [composeInfoField_eq sun rf, List.length_append, List.length_append, separator.2,
      telemetry] at short
    omega
  · intro fits
    have allPlain := plain.mpr ⟨fits.oneLine, fits.time, fits.mode, fits.pwr⟩
    refine ⟨?_, ((all_isPlain_iff _).mp allPlain).1, ((all_isPlain_iff _).mp allPlain).2, ?_⟩
    · have short := fits.short
      rw [composeInfoField_eq sun rf, List.length_append, List.length_append, separator.2,
        telemetry]
      have cut := List.length_take_le (166 - fieldsLength health) (toAscii text)
      omega
    · rw [composeInfoField_eq sun rf, List.append_assoc]
      exact List.suffix_append _ _

/-! ### Lines of input -/

/-- A library as far as short lines need it: it loads the given line, and knows what becomes of
strings, of integers and of the letters of ASCII. -/
def smallLibrary (line : List CodePoint) (entries : List (Key × Value)) : PyLibrary where
  loads given := if given = line then some (.dict entries) else none
  str
    | .str text => text
    | _ => []
  upper text := text.map fun char =>
    if codePoint 'a' ≤ char ∧ char ≤ codePoint 'z' then char - codePoint ' ' else char
  int
    | .int value => some value
    | _ => none

/-- The record of an empty object. -/
def plainHealth (nowIsoZ : List CodePoint) : Health :=
  ⟨pyText "SMARTQ-1", nowIsoZ, pyText "IDLE", 50, 1, 1, pyText "FAIR", 0⟩

theorem transmittable_plainHealth :
    parseHealthLine (smallLibrary (pyText "\x7b\x7d") []) (pyText "2026-01-02Z")
        (pyText "\x7b\x7d") = some (plainHealth (pyText "2026-01-02Z")) ∧
      Transmittable (plainHealth (pyText "2026-01-02Z"))
        (composeInfoField (plainHealth (pyText "2026-01-02Z")) (pyText "73!")) := by
  have accepted : parseHealthLine (smallLibrary (pyText "\x7b\x7d") []) (pyText "2026-01-02Z")
      (pyText "\x7b\x7d") = some (plainHealth (pyText "2026-01-02Z")) := by
    rfl
  refine ⟨accepted, (transmittable_iff accepted _).mpr ⟨?_, ?_, ?_, ?_, ?_⟩⟩
  · decide
  · decide
  · decide
  · decide
  · decide

/-- A time with an accent goes through into the info field. -/
theorem transmittable_fails :
    ¬ ∀ (py : PyLibrary) (nowIsoZ line : List CodePoint) (health : Health),
      parseHealthLine py nowIsoZ line = some health →
        ∀ text, Transmittable health (composeInfoField health text) := by
  intro claimed
  have accepted : parseHealthLine
      (smallLibrary (pyText "\x7b\"time\":\"é\"\x7d") [(.str (pyText "time"), .str (pyText "é"))])
      (pyText "2026-01-02Z") (pyText "\x7b\"time\":\"é\"\x7d") =
        some (plainHealth (pyText "é")) := by
    rfl
  have ascii := (claimed _ _ _ _ accepted []).ascii
  revert ascii
  decide

end SmartQso.Payload
