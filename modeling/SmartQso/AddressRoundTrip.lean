/-
This file follows an address field from the flight software to both decoders of the
ground station. A callsign of capital letters, digits and dashes has no blanks, so what
is padded is found again by stripping blanks at the end and by leaving out all of them.
-/

import SmartQso.AddressList
import SmartQso.BeaconTool

namespace SmartQso

open Ground

/-! ### Fields -/

/-- The characters of a callsign. -/
def isCallsignChar (char : Char) : Bool :=
  decide ('A' ≤ char ∧ char ≤ 'Z' ∨ '0' ≤ char ∧ char ≤ '9' ∨ char = '-')

/-- What `encode_ax25_address` is called with: a callsign of one to six characters, its secondary
identifier and the end bit. -/
@[ext] structure AddressField where
  callsign : String
  ssid : UInt8
  isLast : Bool
  nonempty : 0 < callsign.toList.length
  short : callsign.toList.length ≤ 6
  plain : ∀ char ∈ callsign.toList, isCallsignChar char = true
  ssidBound : ssid < 16

/-- The seven bytes the flight software writes. -/
def AddressField.encode (field : AddressField) : List UInt8 :=
  (encodeAx25Address field.callsign field.ssid field.isLast).toList

/-- A character of a callsign is a printable byte, and already a capital. -/
theorem callsignChar_byte {char : Char} (plain : isCallsignChar char = true) :
    0x20 < char.toNat.toUInt8 ∧ char.toNat.toUInt8 < 0x7F ∧
      toUpper char.toNat.toUInt8 = char.toNat.toUInt8 ∧ chr char.toNat.toUInt8 = char := by
  have each : ∀ value < 91, isCallsignChar (Char.ofNat value) = true →
      0x20 < value.toUInt8 ∧ value.toUInt8 < 0x7F ∧ toUpper value.toUInt8 = value.toUInt8 ∧
        chr value.toUInt8 = Char.ofNat value := by
    decide
  have bound : char.toNat < 91 := by
    rcases of_decide_eq_true plain with ⟨_, capital⟩ | ⟨_, digit⟩ | rfl
    · exact Nat.lt_succ_of_le (Char.le_def.mp capital)
    · exact Nat.lt_of_le_of_lt (Char.le_def.mp digit) (by decide)
    · decide
  have named := each char.toNat bound
  rw [Char.ofNat_toNat] at named
  exact named plain

/-- The address of the protocol a field stands for. -/
def AddressField.address (field : AddressField) : Ax25.Address where
  callsign := ascii field.callsign
  ssid := field.ssid
  commandBit := false
  short := by
    rw [ascii, List.length_map]
    exact field.short
  printable := by
    intro byte member
    obtain ⟨char, inCallsign, rfl⟩ := List.mem_map.mp member
    obtain ⟨low, high, _⟩ := callsignChar_byte (field.plain char inCallsign)
    exact ⟨low, high⟩
  ssidBound := field.ssidBound

/-- A padded text is the text and its padding. -/
theorem map_range_padded (chars : List UInt8) (change : UInt8 → UInt8) (padding : UInt8)
    (count : Nat) :
    (List.range (chars.length + count)).map (fun index =>
        if index < chars.length then change (chars.getD index 0) else padding) =
      chars.map change ++ List.replicate count padding := by
  rw [List.range_add, List.map_append, List.map_map]
  refine congrArg₂ _ (List.ext_getElem ?_ fun index inRange inChars => ?_)
    (List.eq_replicate_iff.mpr ⟨?_, fun byte member => ?_⟩)
  · rw [List.length_map, List.length_map, List.length_range]
  · rw [List.length_map] at inChars
    rw [List.getElem_map, List.getElem_map, List.getElem_range, if_pos inChars,
      List.getD_eq_getElem?_getD, List.getElem?_eq_getElem inChars, Option.getD_some]
  · rw [List.length_map, List.length_range]
  · obtain ⟨index, _, rfl⟩ := List.mem_map.mp member
    exact if_neg (Nat.not_lt.mpr (Nat.le_add_right _ index))

/-- The flight software writes the field of the protocol. -/
theorem AddressField.encode_eq (field : AddressField) :
    field.encode = field.address.field field.isLast := by
  have short : (ascii field.callsign).length ≤ 6 := field.address.short
  have capitals : ∀ byte ∈ ascii field.callsign, toUpper byte <<< 1 = byte <<< 1 := by
    intro byte member
    obtain ⟨char, inCallsign, rfl⟩ := List.mem_map.mp member
    rw [(callsignChar_byte (field.plain char inCallsign)).2.2.1]
  have low : field.ssid &&& 0x0F = field.ssid := by
    refine UInt8.toNat_inj.mp ?_
    rw [UInt8.toNat_and]
    exact (Nat.and_two_pow_sub_one_eq_mod _ 4).trans
      (Nat.mod_eq_of_lt (UInt8.lt_iff_toNat_lt.mp field.ssidBound))
  have written : field.encode =
      (List.range 6).map (fun index =>
        if index < (ascii field.callsign).length then
          toUpper ((ascii field.callsign).getD index 0) <<< 1
        else 0x40) ++
      [(0x60 : UInt8) ||| (field.ssid &&& 0x0F) <<< 1 ||| if field.isLast then 0x01 else 0x00] :=
    rfl
  have padded := map_range_padded (ascii field.callsign) (fun byte => toUpper byte <<< 1) 0x40
    (6 - (ascii field.callsign).length)
  rw [Nat.add_sub_cancel' short, List.map_congr_left capitals] at padded
  have ssidByte : field.address.ssidByte field.isLast =
      (0x60 : UInt8) ||| field.ssid <<< 1 ||| if field.isLast then 0x01 else 0x00 := by
    simp only [Ax25.Address.ssidByte, address, Bool.false_eq_true, if_false, UInt8.zero_or]
  rw [written, padded, low, Ax25.Address.field, ssidByte]
  rfl

/-! ### The decoders -/

/-- The characters come back from their bytes. -/
theorem AddressField.callsign_chars (field : AddressField) :
    (ascii field.callsign).map chr = field.callsign.toList := by
  rw [ascii, List.map_map]
  refine (List.map_congr_left fun char member => ?_).trans (List.map_id _)
  exact (callsignChar_byte (field.plain char member)).2.2.2

/-- The tool leaves out the padding and shifts the characters back. -/
theorem decodeCallsign_field (address : Ax25.Address) (last : Bool) :
    Tools.decodeCallsign (address.field last) = (address.callsign.map chr, address.ssid) := by
  have shifted : ∀ byte ∈ address.callsign, ((byte <<< 1) >>> 1) &&& 0x7F = byte := by
    intro byte member
    have small := UInt8.lt_iff_toNat_lt.mp (address.printable byte member).2
    rw [shift_back (address.printable byte member).2]
    refine UInt8.toNat_inj.mp ?_
    rw [UInt8.toNat_and]
    exact (Nat.and_two_pow_sub_one_eq_mod _ 7).trans (Nat.mod_eq_of_lt (Nat.lt_succ_of_lt small))
  have kept : (((address.field last).take 6).map fun byte : UInt8 =>
      (byte >>> 1) &&& 0x7F).filter (· != 0x20) = address.callsign := by
    have texts : (address.callsign.map (fun char : UInt8 => char <<< 1)).map
        (fun byte : UInt8 => (byte >>> 1) &&& 0x7F) = address.callsign := by
      rw [List.map_map]
      exact (List.map_congr_left shifted).trans (List.map_id' _)
    have blanks : (List.replicate (6 - address.callsign.length)
        (((0x40 : UInt8) >>> 1) &&& 0x7F)).filter (· != 0x20) = [] :=
      List.filter_replicate_of_neg (by decide)
    rw [take_field, List.map_append, texts, List.map_replicate, List.filter_append, blanks,
      List.append_nil]
    refine List.filter_eq_self.mpr fun byte member => bne_iff_ne.mpr ?_
    exact (UInt8.ne_of_lt (address.printable byte member).1).symm
  have stripped := strip_padded (callsign_not_space address) 0
  rw [List.replicate_zero, List.append_nil] at stripped
  have long : ¬ (address.field last).length < 7 := by
    rw [address.length_field]
    exact Nat.lt_irrefl 7
  simp only [Tools.decodeCallsign, if_neg long, kept, stripped, getD_field,
    (ssidByte_parts address last).1]

/-- Every address field is decoded by both decoders to the callsign and the identifier it was
written from, by the first one also to its end bit, and no two address fields are the same. -/
theorem address_round_trip :
    (∀ field : AddressField,
      parseAddress field.encode = some
        { callsign := field.callsign.toList
          ssid := field.ssid
          commandResponse := false
          last := field.isLast } ∧
      Tools.decodeCallsign field.encode = (field.callsign.toList, field.ssid)) ∧
    Function.Injective AddressField.encode := by
  have parsed : ∀ field : AddressField, parseAddress field.encode = some
      { callsign := field.callsign.toList
        ssid := field.ssid
        commandResponse := false
        last := field.isLast } := by
    intro field
    rw [field.encode_eq, parseAddress_field, ← field.callsign_chars]
    rfl
  refine ⟨fun field => ⟨parsed field, ?_⟩, fun first second same => ?_⟩
  · rw [field.encode_eq, decodeCallsign_field, ← field.callsign_chars]
    rfl
  · have decoded := (parsed first).symm.trans ((congrArg parseAddress same).trans (parsed second))
    simp only [Option.some_inj, AX25Address.mk.injEq] at decoded
    obtain ⟨callsign, ssid, _, last⟩ := decoded
    exact AddressField.ext (String.toList_inj.mp callsign) ssid last

/-- The last address field of a frame that goes by a relay. -/
def relayField : AddressField where
  callsign := "WIDE1"
  ssid := 7
  isLast := true
  nonempty := by decide
  short := by decide
  plain := List.all_eq_true.mp (by decide)
  ssidBound := by decide

theorem address_round_trip_relay :
    parseAddress relayField.encode = some ⟨['W', 'I', 'D', 'E', '1'], 7, false, true⟩ ∧
      Tools.decodeCallsign relayField.encode = (['W', 'I', 'D', 'E', '1'], 7) :=
  address_round_trip.1 relayField

end SmartQso
