/-
This file models the telemetry line that `main.c` sends to the payload: a header with
the state of the mission, the sensors as `sensors.c` formats them, the EPS, the last
fault and the health of the link. A line is a list of bytes in a buffer of fixed size,
and what does not fit is left out. The members of `Sensor_t` that the line prints are
kept here, with the numbers as exact rationals. The file proves that every line fits
its buffer and starts with its tag.
-/

import SmartQso.Beacon
import SmartQso.MainLoop

namespace SmartQso

/-! ### Constants and members -/

/-- `UART_TX_BUFFER_SIZE`. -/
def uartTxBufferSize : Nat := 2048

/-- `SensorValueType_t`. -/
inductive SensorValueType
  | numeric
  | hex2
  deriving DecidableEq

/-- The members of `Sensor_t` that a line prints. -/
structure SensorReading where
  id : List UInt8
  units : List UInt8
  valueType : SensorValueType
  lastValue : ℚ
  lastText : List UInt8

/-! ### Conversions -/

/-- The conversion `%.1f` or `%.3f`, with the number of places. -/
def formatFixed (places : Nat) (value : ℚ) : List UInt8 :=
  let scaled := roundHalfEven (value.num.natAbs * 10 ^ places) value.den
  let fraction := formatUnsigned (scaled % 10 ^ places)
  (if value < 0 then ascii "-" else []) ++ formatUnsigned (scaled / 10 ^ places) ++ ascii "." ++
    List.replicate (places - fraction.length) 0x30 ++ fraction

example : formatFixed 3 (-81 / 40000) = ascii "-0.002" ∧ formatFixed 1 (1 / 4) = ascii "0.2" := by
  decide +kernel

/-- A switch of the EPS. -/
def switchName (enabled : Bool) : List UInt8 := if enabled then ascii "ON" else ascii "OFF"

/-! ### The pieces of a line -/

/-- What the loop of `sensors_format_telemetry` prints for a sensor. -/
def formatReading (reading : SensorReading) : List UInt8 :=
  match reading.valueType with
  | .numeric =>
    reading.id ++ ascii "=" ++ formatFixed 3 reading.lastValue ++ reading.units ++ ascii ","
  | .hex2 => reading.id ++ ascii "=" ++ reading.lastText ++ reading.units ++ ascii ","

/-- `sensors_format_telemetry` into a buffer of `bufferLen` bytes. It stops at the first sensor
that does not fit. -/
def sensorsFormatTelemetry : Nat → List SensorReading → List UInt8
  | _, [] => []
  | bufferLen, reading :: rest =>
    let written := formatReading reading
    if written.length ≥ bufferLen then []
    else written ++ sensorsFormatTelemetry (bufferLen - written.length) rest

/-- The header with the state of the mission. -/
def telemetryHeader (flight : Flight) (now : UInt64) : List UInt8 :=
  ascii "TELEMETRY," ++ formatUnsigned now.toNat ++ ascii "," ++
    (if flight.sunlit then ascii "SUNLIT" else ascii "ECLIPSE") ++ ascii "," ++
    formatFixed 3 flight.soc ++ ascii "," ++
    formatUnsigned (epsGetPowerMode flight.eps).toNat ++ ascii "," ++
    formatFixed 1 (epsGetPowerLimit flight.eps) ++ ascii ","

/-- The switches of the EPS. -/
def formatEpsState (record : EpsRecord) : List UInt8 :=
  ascii "EPS_PAYLOAD=" ++ switchName record.payloadEnabled ++
    ascii ",EPS_RADIO=" ++ switchName record.radioEnabled ++
    ascii ",EPS_ADCS=" ++ switchName record.adcsEnabled ++
    ascii ",EPS_BEACON=" ++ switchName record.beaconEnabled ++ ascii ","

/-- The last fault, with the number of faults in the log. -/
def formatLastFault (faults : FaultMgmt) (lastFault : FaultLogEntry) : List UInt8 :=
  ascii "LAST_FAULT=" ++ ascii lastFault.record.description ++
    ascii ",FAULT_COUNT=" ++ formatUnsigned faults.log.entries.length ++ ascii ","

/-- The health of the link and of the watchdog. -/
def formatLinkHealth (uartInitialized watchdogTriggered : Bool) : List UInt8 :=
  ascii "UART_HEALTH=" ++ (if uartInitialized then ascii "OK" else ascii "FAIL") ++
    ascii ",WATCHDOG=" ++ if watchdogTriggered then ascii "TRIGGERED" else ascii "OK"

/-! ### The line -/

/-- A piece that does not fit behind the others is left out. -/
def appendFitting (line piece : List UInt8) : List UInt8 :=
  if 0 < piece.length ∧ piece.length < uartTxBufferSize - line.length then line ++ piece else line

/-- A comma at the end becomes the end of the line, which otherwise is added if it fits. -/
def finishLine (line : List UInt8) : List UInt8 :=
  if line.getLast? = some 0x2C then line.dropLast ++ [0x0A]
  else if line.length < uartTxBufferSize - 1 then line ++ [0x0A]
  else line

/-- The line before its end, from its header on. -/
def telemetryFields (flight : Flight) (readings : List SensorReading) (header : List UInt8) :
    List UInt8 :=
  let sensors := header ++ sensorsFormatTelemetry (uartTxBufferSize - header.length) readings
  let eps :=
    match epsGetState flight.eps with
    | some record => appendFitting sensors (formatEpsState record)
    | none => sensors
  let faults :=
    match faultLogGetLast flight.eps.faults with
    | some lastFault => appendFitting eps (formatLastFault flight.eps.faults lastFault)
    | none => eps
  appendFitting faults
    (formatLinkHealth flight.uartInitialized flight.eps.faults.watchdogTriggered)

/-- `send_telemetry_to_jetson`: the bytes it hands to `uart_send`, if it does. -/
def sendTelemetryToJetson (flight : Flight) (readings : List SensorReading) (now : UInt64) :
    Option (List UInt8) :=
  if !epsIsPayloadEnabled flight.eps || !flight.uartInitialized then none
  else
    let header := telemetryHeader flight now
    if header.length ≥ uartTxBufferSize then none
    else some (finishLine (telemetryFields flight readings header))

/-! ### What every line is -/

/-- A part of a line has room in the buffer with its terminator. -/
def FitsTxBuffer (line : List UInt8) : Prop := line.length < uartTxBufferSize

theorem length_sensorsFormatTelemetry_lt (readings : List SensorReading) :
    ∀ {bufferLen : Nat}, 0 < bufferLen →
      (sensorsFormatTelemetry bufferLen readings).length < bufferLen := by
  induction readings with
  | nil => exact fun room => room
  | cons reading rest inductionHypothesis =>
    intro bufferLen room
    unfold sensorsFormatTelemetry
    dsimp only
    split
    · exact room
    · rename_i fits
      have left := inductionHypothesis (Nat.sub_pos_of_lt (Nat.not_le.mp fits))
      rw [List.length_append]
      omega

theorem appendFitting_fits {line : List UInt8} (fits : FitsTxBuffer line) (piece : List UInt8) :
    FitsTxBuffer (appendFitting line piece) := by
  unfold appendFitting
  split
  · rename_i room
    rw [FitsTxBuffer, List.length_append]
    exact Nat.add_lt_of_lt_sub' room.2
  · exact fits

theorem isPrefix_appendFitting (line piece : List UInt8) :
    line <+: appendFitting line piece := by
  unfold appendFitting
  split
  · exact List.prefix_append line piece
  · exact List.prefix_rfl

theorem telemetryFields_spec (flight : Flight) (readings : List SensorReading)
    {header : List UInt8} (fits : FitsTxBuffer header) :
    FitsTxBuffer (telemetryFields flight readings header) ∧
      header <+: telemetryFields flight readings header := by
  have sensors : FitsTxBuffer
      (header ++ sensorsFormatTelemetry (uartTxBufferSize - header.length) readings) := by
    rw [FitsTxBuffer, List.length_append]
    exact Nat.add_lt_of_lt_sub' (length_sensorsFormatTelemetry_lt readings (Nat.sub_pos_of_lt fits))
  unfold telemetryFields
  extract_lets line eps faults
  have afterEps : FitsTxBuffer eps ∧ header <+: eps := by
    dsimp only [eps]
    split
    · exact ⟨appendFitting_fits sensors _,
        (List.prefix_append _ _).trans (isPrefix_appendFitting _ _)⟩
    · exact ⟨sensors, List.prefix_append _ _⟩
  have afterFaults : FitsTxBuffer faults ∧ header <+: faults := by
    dsimp only [faults]
    split
    · exact ⟨appendFitting_fits afterEps.1 _, afterEps.2.trans (isPrefix_appendFitting _ _)⟩
    · exact afterEps
  exact ⟨appendFitting_fits afterFaults.1 _, afterFaults.2.trans (isPrefix_appendFitting _ _)⟩

theorem finishLine_fits {line : List UInt8} (fits : FitsTxBuffer line) :
    FitsTxBuffer (finishLine line) := by
  unfold finishLine
  split
  · rename_i comma
    have nonempty : line ≠ [] := by
      rintro rfl
      cases comma
    rw [FitsTxBuffer, List.length_append, List.length_dropLast, List.length_singleton,
      Nat.sub_add_cancel (List.length_pos_iff.mpr nonempty)]
    exact fits
  · split
    · rename_i room
      rw [FitsTxBuffer, List.length_append, List.length_singleton]
      exact Nat.add_lt_of_lt_sub room
    · exact fits

/-- Ending a line keeps a start of it that ends with no comma. -/
theorem isPrefix_finishLine {start line : List UInt8} (starts : start <+: line)
    (ending : start.getLast? ≠ some 0x2C) : start <+: finishLine line := by
  unfold finishLine
  split
  · rename_i comma
    obtain ⟨rest, rfl⟩ := starts
    have nonempty : rest ≠ [] := by
      rintro rfl
      rw [List.append_nil] at comma
      exact ending comma
    rw [List.dropLast_append_of_ne_nil nonempty, List.append_assoc]
    exact List.prefix_append start _
  · split
    · exact starts.trans (List.prefix_append line _)
    · exact starts

/-- Every line that is sent fits the buffer of the UART and starts with its tag. -/
theorem sendTelemetryToJetson_spec {flight : Flight} {readings : List SensorReading}
    {now : UInt64} {line : List UInt8}
    (sent : sendTelemetryToJetson flight readings now = some line) :
    FitsTxBuffer line ∧ ascii "TELEMETRY" <+: line := by
  unfold sendTelemetryToJetson at sent
  split at sent
  · cases sent
  · dsimp only at sent
    split at sent
    · cases sent
    · rename_i room
      obtain rfl := Option.some.inj sent
      obtain ⟨fits, start⟩ := telemetryFields_spec flight readings (Nat.not_le.mp room)
      have tag : ascii "TELEMETRY" <+: telemetryHeader flight now := by
        unfold telemetryHeader
        simp only [List.append_assoc]
        exact List.IsPrefix.trans (by decide) (List.prefix_append (ascii "TELEMETRY,") _)
      exact ⟨finishLine_fits fits, isPrefix_finishLine (tag.trans start) (by decide)⟩

end SmartQso
