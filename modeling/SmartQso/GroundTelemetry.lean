/-
This file models what the ground station's `beacon_decoder.py` extracts from the text of
a beacon: its patterns are those of the source, on the characters an ASCII decoding can
give, and a converted voltage is the decimal fraction it was written as.
-/

import Mathlib.Algebra.Order.Ring.Rat
import SmartQso.GroundDecoder
import SmartQso.TextPattern

namespace SmartQso.Ground

open TextPattern

/-! ### Python -/

/-- A byte in `bytes.decode('ascii', errors='replace')`. -/
def decodeByte (byte : UInt8) : Char := if byte < 0x80 then chr byte else '\uFFFD'

/-- `bytes.decode('ascii', errors='replace')`. -/
def decodeAscii (data : List UInt8) : List Char := data.map decodeByte

/-- `\w` of a pattern. -/
def isWord (char : Char) : Bool := char.isAlphanum || char == '_'

/-- `\d+` of a pattern. -/
def digits : List (Piece Char) := [.one Char.isDigit, .many Char.isDigit]

/-- `int`, of digits with an optional sign. -/
def parseInt (value : List Char) : Int :=
  match value with
  | '-' :: rest => - (Nat.ofDigitChars 10 rest 0 : Int)
  | _ => Nat.ofDigitChars 10 value 0

/-- `float`, of digits with an optional point. -/
def parseFloat (value : List Char) : ℚ :=
  let whole := value.takeWhile (· != '.')
  let fraction := (value.dropWhile (· != '.')).drop 1
  (Nat.ofDigitChars 10 (whole ++ fraction) 0 : ℚ) / (10 ^ fraction.length : Nat)

/-! ### Patterns -/

/-- The pattern of `battery_voltage`. -/
def batteryVoltagePattern : Pattern Char where
  before := literal "V:".toList
  group := digits ++ [.optional (· == '.'), .many Char.isDigit]
  after := [.optional (· == 'V')]

/-- The pattern of `battery_soc`. -/
def batterySocPattern : Pattern Char where
  before := literal "B:".toList
  group := digits
  after := literal "%".toList

/-- The pattern of `temperature`. -/
def temperaturePattern : Pattern Char where
  before := literal "T:".toList
  group := .optional (· == '-') :: digits
  after := literal "C".toList

/-- The pattern of `power_mode`. -/
def powerModePattern : Pattern Char where
  before := literal "M:".toList
  group := [.one isWord, .many isWord]
  after := []

/-- The pattern of `orbit_number`. -/
def orbitNumberPattern : Pattern Char where
  before := literal "O:".toList ++ [.optional (· == '#')]
  group := digits
  after := []

/-- The pattern of `uptime`. -/
def uptimePattern : Pattern Char where
  before := literal "U:".toList
  group := digits
  after := literal "s".toList

/-- The pattern of `_extract_timestamp`. -/
def timestampPattern : Pattern Char where
  before := literal "T:".toList
  group := digits
  after := []

/-! ### Extraction -/

/-- The telemetry of a decoded beacon, by the keys of `TELEMETRY_PATTERNS`. -/
structure Telemetry where
  batteryVoltage : Option ℚ
  batterySoc : Option Int
  temperature : Option Int
  powerMode : Option (List Char)
  orbitNumber : Option Int
  uptime : Option Int
  deriving DecidableEq

/-- `_extract_timestamp`. -/
def extractTimestamp (info : List Char) : Option Int :=
  (timestampPattern.search info).map parseInt

/-- `_extract_telemetry`. -/
def extractTelemetry (info : List Char) : Telemetry where
  batteryVoltage := (batteryVoltagePattern.search info).map parseFloat
  batterySoc := (batterySocPattern.search info).map parseInt
  temperature := (temperaturePattern.search info).map parseInt
  powerMode := powerModePattern.search info
  orbitNumber := (orbitNumberPattern.search info).map parseInt
  uptime := (uptimePattern.search info).map parseInt

example : extractTelemetry "SQSO-1 V:3.8V B:80% T:22C M:IDLE O:#100 U:3600s".toList =
    ⟨some (19 / 5), some 80, some 22, some "IDLE".toList, some 100, some 3600⟩ := by
  decide +kernel

/-! ### Texts without markers -/

/-- The letters in front of the colons of the patterns. -/
def markerLetters : List Char := ['V', 'B', 'T', 'M', 'O', 'U']

/-- A text without a marker of a telemetry field. -/
def Unmarked (text : List Char) : Prop := ∀ letter ∈ markerLetters, ¬ [letter, ':'] <:+: text

instance (text : List Char) : Decidable (Unmarked text) :=
  List.decidableBAll (fun letter => ¬ [letter, ':'] <:+: text) markerLetters

/-- Nothing is extracted from a text without a marker. -/
theorem extractTelemetry_unmarked {info : List Char} (unmarked : Unmarked info) :
    extractTelemetry info = ⟨none, none, none, none, none, none⟩ := by
  unfold extractTelemetry
  rw [batteryVoltagePattern.search_eq_none rfl (unmarked 'V' (by decide)),
    batterySocPattern.search_eq_none rfl (unmarked 'B' (by decide)),
    temperaturePattern.search_eq_none rfl (unmarked 'T' (by decide)),
    powerModePattern.search_eq_none rfl (unmarked 'M' (by decide)),
    orbitNumberPattern.search_eq_none rfl (unmarked 'O' (by decide)),
    uptimePattern.search_eq_none rfl (unmarked 'U' (by decide))]
  rfl

theorem extractTimestamp_unmarked {info : List Char} (unmarked : Unmarked info) :
    extractTimestamp info = none := by
  unfold extractTimestamp
  rw [timestampPattern.search_eq_none rfl (unmarked 'T' (by decide))]
  rfl

end SmartQso.Ground
