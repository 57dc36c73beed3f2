/-
This file models the frame parsing of the ground station's `beacon_decoder.py`: the
guess of the flags, the address list, the fields behind it and the check sequence. A
`bytes` value is its list of bytes, a `str` its list of characters, and an index
error, which the parser catches, is a missing value.
-/

import Mathlib.Data.List.DropRight
import Mathlib.Logic.Function.Iterate

namespace SmartQso.Ground

/-! ### Types -/

/-- `AX25Address`. -/
structure AX25Address where
  callsign : List Char
  ssid : UInt8
  commandResponse : Bool
  last : Bool
  deriving DecidableEq

/-- `AX25Frame`. -/
structure AX25Frame where
  destination : AX25Address
  source : AX25Address
  digipeaters : List AX25Address
  control : UInt8
  pid : UInt8
  info : List UInt8
  fcsValid : Bool
  deriving DecidableEq

/-- `FLAG`. -/
def flag : UInt8 := 0x7E

/-- `MIN_FRAME_SIZE`. -/
def minFrameSize : Nat := 17

/-! ### Python -/

/-- `data[start:stop]` for positions that are not negative. -/
def slice (data : List UInt8) (start stop : Nat) : List UInt8 := (data.take stop).drop start

/-- `chr`. -/
def chr (byte : UInt8) : Char := Char.ofNat byte.toNat

theorem chr_toNat (byte : UInt8) : (chr byte).toNat = byte.toNat := by
  have bound := byte.toNat_lt
  have valid : byte.toNat.isValidChar := Or.inl (by omega)
  unfold chr Char.ofNat
  rw [dif_pos valid]
  rfl

/-- The characters below 128 that `str.strip` takes for white space. -/
def isSpace (char : Char) : Bool :=
  decide (9 ≤ char.toNat ∧ char.toNat ≤ 13 ∨ 28 ≤ char.toNat ∧ char.toNat ≤ 32)

/-- `str.strip`. -/
def strip (text : List Char) : List Char := (text.rdropWhile isSpace).dropWhile isSpace

/-- `struct.unpack('<H', data)[0]`. -/
def unpackUint16 (data : List UInt8) : Option Nat :=
  match data with
  | [low, high] => some (low.toNat + 256 * high.toNat)
  | _ => none

/-! ### Parsing -/

/-- `_parse_address`. -/
def parseAddress (data : List UInt8) : Option AX25Address :=
  if data.length ≠ 7 then none
  else
    let ssidByte := data.getD 6 0
    some
      { callsign := strip ((data.take 6).map fun byte : UInt8 => chr (byte >>> 1))
        ssid := (ssidByte >>> 1) &&& 0x0F
        commandResponse := decide (ssidByte &&& 0x80 ≠ 0)
        last := decide (ssidByte &&& 0x01 ≠ 0) }

/-- The inner loop of `_calculate_fcs`. -/
def fcsBit (fcs : Nat) : Nat :=
  if fcs &&& 0x0001 ≠ 0 then (fcs >>> 1) ^^^ 0x8408 else fcs >>> 1

/-- `_calculate_fcs`. -/
def calculateFcs (data : List UInt8) : Nat :=
  data.foldl (fun fcs byte => fcsBit^[8] (fcs ^^^ byte.toNat)) 0xFFFF ^^^ 0xFFFF

/-- The flags are removed if present: the first byte and the last one are taken for flags when
they look like one. -/
def removeFlags (data : List UInt8) : List UInt8 :=
  let opened := if data.head? = some flag then data.drop 1 else data
  if opened.getLast? = some flag then opened.dropLast else opened

/-- The digipeater loop: what it has collected and the offset it leaves. A round takes seven
bytes, so the length of the data is more fuel than it can use. -/
def digipeaterLoop (data : List UInt8) : Nat → Nat → List AX25Address → List AX25Address × Nat
  | 0, offset, digis => (digis, offset)
  | fuel + 1, offset, digis =>
    if offset + 7 + 3 ≤ data.length then
      match parseAddress (slice data offset (offset + 7)) with
      | none => (digis, offset)
      | some digi =>
        if digi.last then (digis ++ [digi], offset)
        else digipeaterLoop data fuel (offset + 7) (digis ++ [digi])
    else (digis, offset)

/-- The part of `_parse_ax25` behind the flags. -/
def parseFields (data : List UInt8) : Option AX25Frame :=
  if data.length < minFrameSize then none
  else do
    let dest ← parseAddress (slice data 0 7)
    let src ← parseAddress (slice data 7 14)
    let loop := if src.last then ([], 14) else digipeaterLoop data data.length 14 []
    let offset := loop.2
    let control ← data[offset]?
    let pid ← data[offset + 1]?
    let info := slice data (offset + 2) (data.length - 2)
    let fcs ← unpackUint16 (data.drop (data.length - 2))
    let calculatedFcs := calculateFcs (data.take (data.length - 2))
    some
      { destination := dest
        source := src
        digipeaters := loop.1
        control := control
        pid := pid
        info := info
        fcsValid := decide (fcs = calculatedFcs) }

/-- `_parse_ax25`. -/
def parseAx25 (data : List UInt8) : Option AX25Frame := parseFields (removeFlags data)

end SmartQso.Ground
