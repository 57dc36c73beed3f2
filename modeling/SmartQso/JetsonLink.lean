/-
This file connects the two ends of the link to the payload: the line that the flight
computer sends and the reader of `agent.py`. How the interpreter decodes the bytes of its
input is a parameter, of which only the first character is used. No line that the flight
computer sends is a health record.
-/

import SmartQso.InfoField
import SmartQso.JetsonTelemetry
import SmartQso.JsonDecode

namespace SmartQso

open JsonText Payload

/-- The decoding of the input, which may raise an exception, keeps an ASCII character at the start,
as the encodings of standard input do. -/
def AsciiCompatible (decode : List UInt8 → Option (List CodePoint)) : Prop :=
  ∀ (byte : UInt8) (rest : List UInt8) (text : List CodePoint), byte < 0x80 →
    decode (byte :: rest) = some text →
      ∃ (char : CodePoint) (others : List CodePoint),
        char.val = byte.toNat ∧ text = char :: others

/-- One character for each byte. -/
def decodeLatin (bytes : List UInt8) : List CodePoint :=
  bytes.map fun byte => ⟨byte.toNat, lt_trans byte.toNat_lt (by decide)⟩

/-- The reader of `agent.py` over the scanner of `json.loads`. -/
def readHealthLine (interpreter : Interpreter) (py : PyLibrary) (nowIsoZ text : List CodePoint) :
    Option Health :=
  parseHealthLine { py with loads := loads interpreter } nowIsoZ text

/-- An interpreter with the limits of its default settings. -/
def defaultLimits : Interpreter := ⟨1000, 4300, fun _ => .nan⟩

-- A line of the form that the reader expects, with the mode in small letters.
example :
    let line := pyText "\x7b\"mode\": \"active\", \"soc\": 75, \"sun\": 1\x7d\n"
    (readHealthLine defaultLimits (smallLibrary [] []) [] line).map
      (fun health => (health.mode, health.soc, health.sun)) = some (pyText "ACTIVE", 75, 1) := by
  decide +kernel

/-- The mode, the state of charge in percent and the sunlight are those of the flight computer. -/
structure Carries (flight : Flight) (health : Health) : Prop where
  mode : health.mode = pyText (powerModeName (epsGetPowerMode flight.eps))
  soc : health.soc = (100 * flight.soc).floor
  sun : health.sun = if flight.sunlit then 1 else 0

/-- The reader accepts the bytes of a line, and its record is about the flight computer. -/
def Understood (interpreter : Interpreter) (py : PyLibrary) (nowIsoZ : List CodePoint)
    (decode : List UInt8 → Option (List CodePoint)) (flight : Flight) (line : List UInt8) : Prop :=
  ∃ text health, decode line = some text ∧
    readHealthLine interpreter py nowIsoZ text = some health ∧ Carries flight health

theorem parseHealthLine_none {py : PyLibrary} {line : List CodePoint}
    (refused : py.loads line = none) (nowIsoZ : List CodePoint) :
    parseHealthLine py nowIsoZ line = none := by
  unfold parseHealthLine
  rw [refused]

/-- The reader takes no text that starts with the first letter of the tag. -/
theorem readHealthLine_none (interpreter : Interpreter) (py : PyLibrary)
    (nowIsoZ : List CodePoint) {char : CodePoint} (letter : char.val = 0x54)
    (rest : List CodePoint) : readHealthLine interpreter py nowIsoZ (char :: rest) = none := by
  obtain rfl : char = ⟨0x54, by decide⟩ := Fin.ext letter
  have refused : loads interpreter (⟨0x54, by decide⟩ :: rest) = none :=
    loads_none interpreter (by decide) (by decide) rest
  exact @parseHealthLine_none { py with loads := loads interpreter } _ refused nowIsoZ

/-- The reader takes no line that the flight computer sends. -/
theorem readHealthLine_sent {decode : List UInt8 → Option (List CodePoint)}
    (compatible : AsciiCompatible decode) {flight : Flight} {readings : List SensorReading}
    {now : UInt64} {line : List UInt8}
    (sent : sendTelemetryToJetson flight readings now = some line) {text : List CodePoint}
    (decoded : decode line = some text) (interpreter : Interpreter) (py : PyLibrary)
    (nowIsoZ : List CodePoint) : readHealthLine interpreter py nowIsoZ text = none := by
  obtain ⟨rest, rfl⟩ := (sendTelemetryToJetson_spec sent).2
  obtain ⟨char, others, same, rfl⟩ :=
    compatible 0x54 (ascii "ELEMETRY" ++ rest) text (by decide) decoded
  exact readHealthLine_none interpreter py nowIsoZ same others

theorem decodeLatin_compatible : AsciiCompatible fun bytes => some (decodeLatin bytes) := by
  intro byte rest text _ decoded
  exact ⟨_, decodeLatin rest, rfl, (Option.some.inj decoded).symm⟩

/-- The flight computer after the start and the first round of its loop, in sunlight. -/
def firstRound : Flight :=
  letI := CLayout.blank EpsRecord
  letI := CLayout.blank FaultRecord
  letI := CLayout.blank MissionRecord
  updateAndMonitor (Flight.launch FaultMgmt.boot [] none true 1000 (3 / 4) 0)
    ⟨1000, 1000, 1000, true, true, true, true, fun _ => 0⟩

/-- The battery voltage. -/
def batteryReading : SensorReading :=
  ⟨ascii "BV", ascii "V", .numeric, 81 / 10, []⟩

/-- The line of the first round. -/
def firstLine : List UInt8 :=
  ascii "TELEMETRY,2000,SUNLIT,0.752,2,3.0,BV=8.100V," ++
    ascii "EPS_PAYLOAD=ON,EPS_RADIO=ON,EPS_ADCS=ON,EPS_BEACON=ON," ++
    ascii "LAST_FAULT=Entered ACTIVE mode,FAULT_COUNT=2,UART_HEALTH=OK,WATCHDOG=OK\n"

theorem firstRound_sends :
    sendTelemetryToJetson firstRound [batteryReading] 2000 = some firstLine := by
  decide +kernel

/-- Whatever the sensors read and the fault log holds, the reader takes no line that the flight
computer sends, and so none is understood. -/
theorem sent_line_not_understood (interpreter : Interpreter) (py : PyLibrary)
    (nowIsoZ : List CodePoint) (decode : List UInt8 → Option (List CodePoint))
    (compatible : AsciiCompatible decode) (flight : Flight) (readings : List SensorReading)
    (now : UInt64) (line : List UInt8)
    (sent : sendTelemetryToJetson flight readings now = some line) :
    (∀ text, decode line = some text → readHealthLine interpreter py nowIsoZ text = none) ∧
      ¬ Understood interpreter py nowIsoZ decode flight line := by
  have refused : ∀ text, decode line = some text →
      readHealthLine interpreter py nowIsoZ text = none :=
    fun text decoded => readHealthLine_sent compatible sent decoded interpreter py nowIsoZ
  refine ⟨refused, ?_⟩
  rintro ⟨text, health, decoded, accepted, _⟩
  rw [refused text decoded] at accepted
  cases accepted

/-- The first line of the flight computer is refused. -/
theorem sent_line_not_understood_first :
    (∀ text, some (decodeLatin firstLine) = some text →
        readHealthLine defaultLimits (smallLibrary [] []) (pyText "2026-01-02T03:04:05Z") text =
          none) ∧
      ¬ Understood defaultLimits (smallLibrary [] []) (pyText "2026-01-02T03:04:05Z")
        (fun bytes => some (decodeLatin bytes)) firstRound firstLine :=
  sent_line_not_understood defaultLimits (smallLibrary [] []) (pyText "2026-01-02T03:04:05Z")
    (fun bytes => some (decodeLatin bytes)) decodeLatin_compatible firstRound [batteryReading] 2000
    firstLine firstRound_sends

/-- Not every line that the flight computer sends is understood. -/
theorem first_line_refused :
    ¬ ∀ line, sendTelemetryToJetson firstRound [batteryReading] 2000 = some line →
      Understood defaultLimits (smallLibrary [] []) (pyText "2026-01-02T03:04:05Z")
        (fun bytes => some (decodeLatin bytes)) firstRound line := by
  intro claimed
  obtain ⟨text, health, decoded, accepted, _⟩ := claimed firstLine firstRound_sends
  rw [readHealthLine_sent decodeLatin_compatible firstRound_sends decoded] at accepted
  cases accepted

end SmartQso
