/-
This file defines the layer 2 frames of amateur packet radio: addresses, the list of
addresses with its end bit, unnumbered information frames and their check sequence.
It names no program; an encoder is right when it writes these bytes and a decoder
when it reads the fields back from them.
-/

import SmartQso.ReflectedCrc

namespace Ax25

/-! ### Addresses -/

/-- The flag that opens and closes a frame. -/
def flag : UInt8 := 0x7E

/-- A station: a callsign of printable characters without blanks, and a secondary identifier. -/
structure Address where
  callsign : List UInt8
  ssid : UInt8
  commandBit : Bool
  short : callsign.length ≤ 6
  printable : ∀ char ∈ callsign, 0x20 < char ∧ char < 0x7F
  ssidBound : ssid < 16

/-- The characters of a callsign that is checked one by one. -/
theorem printable_of_all {callsign : List UInt8}
    (checked : callsign.all (fun char => decide (0x20 < char ∧ char < 0x7F)) = true) :
    ∀ char ∈ callsign, 0x20 < char ∧ char < 0x7F :=
  fun char member => of_decide_eq_true (List.all_eq_true.mp checked char member)

/-- The last byte of an address field. -/
def Address.ssidByte (address : Address) (last : Bool) : UInt8 :=
  let command : UInt8 := if address.commandBit then 0x80 else 0
  let ending : UInt8 := if last then 1 else 0
  command ||| (0x60 : UInt8) ||| address.ssid <<< 1 ||| ending

/-- The seven bytes of an address, shifted left by one to make room for the end bit. -/
def Address.field (address : Address) (last : Bool) : List UInt8 :=
  address.callsign.map (fun char : UInt8 => char <<< 1) ++
    List.replicate (6 - address.callsign.length) 0x40 ++ [address.ssidByte last]

/-- The address list from an address on: the end bit is set on the last one only. -/
def addressFields : Address → List Address → List UInt8
  | address, [] => address.field true
  | address, next :: rest => address.field false ++ addressFields next rest

@[simp] theorem Address.length_field (address : Address) (last : Bool) :
    (address.field last).length = 7 := by
  have short := address.short
  simp only [field, List.length_append, List.length_map, List.length_replicate,
    List.length_singleton]
  omega

@[simp] theorem length_addressFields (first : Address) (rest : List Address) :
    (addressFields first rest).length = 7 * (rest.length + 1) := by
  induction rest generalizing first with
  | nil => exact first.length_field true
  | cons next rest inductionHypothesis =>
    rw [addressFields, List.length_append, first.length_field, inductionHypothesis,
      List.length_cons]
    omega

/-! ### Frames -/

/-- The check sequence of a frame, the CRC-16 of CCITT. -/
def fcs (data : List UInt8) : BitVec 16 := ReflectedCrc.checksum 0x8408#16 data

/-- A number of two bytes, the less significant one first. -/
def littleEndian (value : BitVec 16) : List UInt8 :=
  [.ofBitVec (value.extractLsb' 0 8), .ofBitVec (value.extractLsb' 8 8)]

/-- An unnumbered information frame. -/
structure UiFrame where
  destination : Address
  source : Address
  digipeaters : List Address
  control : UInt8
  pid : UInt8
  info : List UInt8

/-- What the check sequence runs over. -/
def UiFrame.content (frame : UiFrame) : List UInt8 :=
  frame.destination.field false ++ addressFields frame.source frame.digipeaters ++
    [frame.control, frame.pid] ++ frame.info

/-- The frame without its flags. -/
def UiFrame.body (frame : UiFrame) : List UInt8 :=
  frame.content ++ littleEndian (fcs frame.content)

/-- The frame as it is sent. -/
def UiFrame.bytes (frame : UiFrame) : List UInt8 := flag :: frame.body ++ [flag]

end Ax25
