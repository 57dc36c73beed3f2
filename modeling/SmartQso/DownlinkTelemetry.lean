/-
This file compares the telemetry the flight software prints with the one the ground
station looks for. The flight software writes a name, an equals sign and a value, the
patterns expect a letter and a colon: the only colon of a line stands behind the
callsign, so nothing the flight software measures is ever found.
-/

import Mathlib.Algebra.Order.Ring.Abs
import SmartQso.BeaconFrames
import SmartQso.GroundTelemetry

namespace SmartQso

open Ground TextPattern

/-! ### The printed telemetry -/

theorem colon_not_mem_formatUnsigned (value : Nat) : (0x3A : UInt8) ∉ formatUnsigned value :=
  fun member => absurd (digit_of_mem_formatUnsigned member).2 (by decide)

/-- The telemetry at the end of the line is printed without colons. -/
theorem colon_not_mem_telemetryTail (telemetry : BeaconTelemetry) :
    (0x3A : UInt8) ∉ telemetryTail telemetry := by
  have labels : (0x3A : UInt8) ∉ ascii " | T=" ∧ (0x3A : UInt8) ∉ ascii " M=" ∧
      (0x3A : UInt8) ∉ ascii " SOC=" ∧ (0x3A : UInt8) ∉ ascii " BV=" ∧
      (0x3A : UInt8) ∉ ascii " SUN=" ∧ (0x3A : UInt8) ∉ ascii " RF=" ∧
      (0x3A : UInt8) ∉ ascii " QSO=" ∧ (0x3A : UInt8) ∉ ascii "." := by decide
  have mode : (0x3A : UInt8) ∉ ascii (powerModeName telemetry.powerMode) := by
    unfold powerModeName
    by_cases safe : telemetry.powerMode = 0
    · rw [if_pos safe]
      decide
    · rw [if_neg safe]
      by_cases idle : telemetry.powerMode = 1
      · rw [if_pos idle]
        decide
      · rw [if_neg idle]
        decide
  obtain ⟨timestamp, powerMode, soc, voltage, sunlit, radio, contacts, point⟩ := labels
  unfold telemetryTail formatVolts
  simp only [List.mem_append, not_or, timestamp, powerMode, soc, voltage, sunlit, radio, contacts,
    point, mode, colon_not_mem_formatUnsigned, not_false_iff, and_self]

theorem decodeByte_eq_colon {byte : UInt8} (colon : decodeByte byte = ':') : byte = 0x3A := by
  unfold decodeByte at colon
  by_cases plain : byte < 0x80
  · rw [if_pos plain] at colon
    exact UInt8.toNat_inj.mp ((chr_toNat byte).symm.trans (congrArg Char.toNat colon))
  · rw [if_neg plain] at colon
    exact absurd colon (by decide)

/-- A line has the markers of its text, and no others. -/
theorem unmarked_beaconLine {content : BeaconContent}
    (unmarked : Unmarked (decodeAscii (cString content.text))) :
    Unmarked (decodeAscii (beaconLine content)) := by
  intro letter isLetter inside
  have split : decodeAscii (beaconLine content) = "de SQSO-1: ".toList ++
      (decodeAscii (cString content.text) ++ decodeAscii (telemetryTail content.telemetry)) := by
    have callsign : decodeAscii (ascii "de " ++ ascii beaconCallsign ++ ascii ": ") =
        "de SQSO-1: ".toList := by
      decide
    unfold beaconLine
    rw [List.append_assoc]
    exact List.map_append.trans (congrArg₂ _ callsign List.map_append)
  have front : Unmarked "de SQSO-1: ".toList := by decide
  have blank : "de SQSO-1: ".toList.getLast? = some ' ' := rfl
  have noColon : ':' ∉ decodeAscii (telemetryTail content.telemetry) := by
    intro member
    obtain ⟨byte, inTail, colon⟩ := List.mem_map.mp member
    rw [decodeByte_eq_colon colon] at inTail
    exact colon_not_mem_telemetryTail content.telemetry inTail
  rw [split] at inside
  rcases pair_infix_append inside with inFront | behind | ⟨last, _⟩
  · exact front letter isLetter inFront
  · rcases pair_infix_append behind with inText | inTail | ⟨_, head⟩
    · exact unmarked letter isLetter inText
    · exact noColon (inTail.subset (List.mem_cons_of_mem _ (List.mem_singleton_self _)))
    · exact noColon (List.mem_of_mem_head? head)
  · rw [← Option.some.inj (blank.symm.trans last)] at isLetter
    exact absurd isLetter (by decide)

/-! ### Recovery -/

/-- What the ground station should find in a line with the telemetry. -/
structure Recovered (telemetry : BeaconTelemetry) (info : List Char) : Prop where
  voltage : ∃ volts ∈ (extractTelemetry info).batteryVoltage,
    |volts - telemetry.batteryMv.toNat / 1000| ≤ 1 / 10
  soc : (extractTelemetry info).batterySoc = some (telemetry.soc.toNat : Int)
  powerMode : (extractTelemetry info).powerMode = some (powerModeName telemetry.powerMode).toList
  timestamp : extractTimestamp info = some (telemetry.timestamp.toNat : Int)

/-- The line that is formatted, as the ground station reads it. -/
def formattedInfo {size : Nat} (printed : Vector UInt8 size × Nat) : List Char :=
  decodeAscii (printed.1.toList.take printed.2)

theorem formattedInfo_eq {content : BeaconContent} {size : Nat} {buffer : Vector UInt8 size}
    (formatted : (beaconFormatPayload content buffer).2 ≠ 0) :
    formattedInfo (beaconFormatPayload content buffer) = decodeAscii (beaconLine content) := by
  have fits : (beaconLine content).length < size :=
    Nat.lt_of_not_le fun long => formatted (beaconFormatPayload_long long buffer)
  have room : (beaconLine content ++ [0]).length ≤ size := by
    rw [List.length_append]
    exact fits
  rw [beaconFormatPayload_fits fits, formattedInfo, overwrite_toList _ _ room, List.append_assoc,
    List.take_left]

/-- From the line of a content whose text has no marker nothing is extracted, whatever the
telemetry is, so the telemetry is not recovered. -/
theorem telemetry_never_recovered {size : Nat} (content : BeaconContent)
    (buffer : Vector UInt8 size)
    (formatted : (beaconFormatPayload content buffer).2 ≠ 0)
    (unmarked : Unmarked (decodeAscii (cString content.text))) :
    let info := formattedInfo (beaconFormatPayload content buffer)
    extractTelemetry info = ⟨none, none, none, none, none, none⟩ ∧
      extractTimestamp info = none ∧ ¬ Recovered content.telemetry info := by
  dsimp only
  rw [formattedInfo_eq formatted]
  have telemetry := extractTelemetry_unmarked (unmarked_beaconLine unmarked)
  have timestamp := extractTimestamp_unmarked (unmarked_beaconLine unmarked)
  refine ⟨telemetry, timestamp, fun recovered => ?_⟩
  exact Option.some_ne_none _ (recovered.timestamp.symm.trans timestamp)

/-- A content with a short text and the telemetry of a powered satellite. -/
def poweredContent : BeaconContent where
  text := overwrite (ascii "hi" ++ [0]) (zeroed _)
  textLen := 2
  source := .template
  telemetry :=
    { timestamp := 100
      powerMode := 1
      soc := 75
      batteryMv := 7400
      tempObc := 0
      tempPayload := 0
      sunlit := 1
      rfPower := 1
      qsoCount := 0
      orbitNumber := 0
      faultFlags := 0 }
  sequence := 1

theorem poweredContent_unmarked : Unmarked (decodeAscii (cString poweredContent.text)) := by
  have text : cString poweredContent.text = ascii "hi" :=
    cString_overwrite _ (by decide +kernel) (by decide +kernel)
  rw [text]
  decide +kernel

theorem telemetry_never_recovered_powered :
    let info := formattedInfo
      (beaconFormatPayload poweredContent (zeroed beaconMaxPayloadLen))
    extractTelemetry info = ⟨none, none, none, none, none, none⟩ ∧
      extractTimestamp info = none ∧ ¬ Recovered poweredContent.telemetry info :=
  telemetry_never_recovered poweredContent (zeroed beaconMaxPayloadLen) (by decide +kernel)
    poweredContent_unmarked

/-- What the flight software prints, and what the ground station makes of it. -/
theorem equals_signs_not_found :
    let info := formattedInfo
      (beaconFormatPayload poweredContent (zeroed beaconMaxPayloadLen))
    info = "de SQSO-1: hi | T=100 M=IDLE SOC=75 BV=7.4 SUN=1 RF=1 QSO=0".toList ∧
      ¬ Recovered poweredContent.telemetry info := by
  intro info
  have printed :
      info = "de SQSO-1: hi | T=100 M=IDLE SOC=75 BV=7.4 SUN=1 RF=1 QSO=0".toList := by
    decide +kernel
  refine ⟨printed, fun recovered => ?_⟩
  have charge := recovered.soc
  rw [printed] at charge
  exact absurd charge (by decide +kernel)

end SmartQso
