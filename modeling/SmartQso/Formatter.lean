/-
This file models the formatting of info fields, `formatter.py`, and how `agent.py` reads
a health record from a line of input. Strings are lists of code points. What the Python
library makes of texts and of values that are not strings, and the date of the day, are
parameters.
-/

import SmartQso.JsonText

namespace SmartQso.Payload

open JsonText

/-! ### Texts -/

/-- A character as a code point. -/
def codePoint (char : Char) : CodePoint :=
  ⟨char.toNat, by
    obtain low | high := char.valid
    · exact lt_trans low (by decide)
    · exact high.2⟩

/-- A string literal. -/
def pyText (text : String) : List CodePoint := text.toList.map codePoint

/-- An integer in a formatted string. -/
def pyInt (value : Int) : List CodePoint := (intText value).map codePoint

/-- What is used of the Python library: `json.loads`, `str`, `str.upper` and `int`. Where they raise
an exception there is no value. -/
structure PyLibrary where
  loads : List CodePoint → Option Value
  str : Value → List CodePoint
  upper : List CodePoint → List CodePoint
  int : Value → Option Int

/-- The truth value of an object. -/
def truthy : Value → Bool
  | .null => false
  | .bool value => value
  | .int value => value != 0
  | .float (.finite repr) => repr.text != "0.0".toList && repr.text != "-0.0".toList
  | .float _ => true
  | .str text => !text.isEmpty
  | .list items => !items.isEmpty
  | .dict entries => !entries.isEmpty

/-- The key of an entry is the string. -/
def hasKey (key : String) : Key × Value → Bool
  | (.str text, _) => text == pyText key
  | _ => false

/-- `dict.get`. -/
def dictGet (entries : List (Key × Value)) (key : String) (default : Value) : Value :=
  ((entries.find? (hasKey key)).map Prod.snd).getD default

/-! ### Health records -/

/-- `Health`. -/
structure Health where
  call : List CodePoint
  timeIsoZ : List CodePoint
  mode : List CodePoint
  soc : Int
  sun : Int
  rf : Int
  pwr : List CodePoint
  qso : Int

/-- `parse_health_line` on the day that `now_iso_z` gives. -/
def parseHealthLine (py : PyLibrary) (nowIsoZ line : List CodePoint) : Option Health :=
  match py.loads line with
  | some (.dict entries) => do
    let soc ← py.int (dictGet entries "soc" (.int 50))
    let qso ← py.int (dictGet entries "qso" (.int 0))
    return {
      call := py.str (dictGet entries "call" (.str (pyText "SMARTQ-1")))
      timeIsoZ := py.str (dictGet entries "time" (.str nowIsoZ))
      mode := py.upper (py.str (dictGet entries "mode" (.str (pyText "IDLE"))))
      soc := soc
      sun := if truthy (dictGet entries "sun" (.bool true)) then 1 else 0
      rf := if truthy (dictGet entries "rf" (.bool true)) then 1 else 0
      pwr := py.upper (py.str (dictGet entries "pwr" (.str (pyText "FAIR"))))
      qso := qso }
  | _ => none

/-! ### Info fields -/

/-- `to_ascii`. -/
def toAscii (text : List CodePoint) : List CodePoint := text.filter fun char => char.val < 0x80

/-- `clamp_bytes`. -/
def clampBytes (text : List CodePoint) (limit : Nat) : List CodePoint :=
  let data := toAscii text
  if data.length ≤ limit then text else data.take limit

/-- `build_tail`. -/
def buildTail (health : Health) : List CodePoint :=
  pyText "T=" ++ health.timeIsoZ ++ pyText " M=" ++ health.mode ++ pyText " SOC=" ++
    pyInt health.soc ++ pyText " SUN=" ++ pyInt health.sun ++ pyText " RF=" ++ pyInt health.rf ++
    pyText " PWR=" ++ health.pwr ++ pyText " QSO=" ++ pyInt health.qso

/-- `compose_info_field`. -/
def composeInfoField (health : Health) (text : List CodePoint) : List CodePoint :=
  let tail := buildTail health
  let maxText := 200 - (3 + tail.length)
  clampBytes (toAscii text) maxText ++ pyText " | " ++ tail

end SmartQso.Payload
