/-
This file says what the ground station's parser makes of a frame of the protocol:
every address comes back from its field, the digipeater loop collects the whole list
and the check sequences agree, but the loop leaves the last digipeater in front of the
fields behind the list, which are then read seven bytes too early.
-/

import SmartQso.Ax25
import SmartQso.Beacon
import SmartQso.GroundDecoder

namespace SmartQso.Ground

open Ax25

/-! ### The check sequence -/

theorem calculateFcs_eq (data : List UInt8) : calculateFcs data = (fcs data).toNat :=
  (@ReflectedCrc.toNat_checksum _ 0x8408#16 _ (by decide)
    (fun crc => (ReflectedCrc.toNat_shiftBit 0x8408#16 crc).symm) data).symm

/-! ### Addresses -/

/-- The padding of a callsign is stripped. -/
theorem strip_padded {text : List Char} (plain : ∀ char ∈ text, isSpace char = false)
    (count : Nat) : strip (text ++ List.replicate count ' ') = text := by
  have right : (text ++ List.replicate count ' ').rdropWhile isSpace = text := by
    induction count with
    | zero =>
      rw [List.replicate_zero, List.append_nil]
      refine List.rdropWhile_eq_self_iff.mpr fun nonempty space => ?_
      exact absurd (space.symm.trans (plain _ (List.getLast_mem nonempty))) Bool.false_ne_true.symm
    | succ count inductionHypothesis =>
      rw [List.replicate_succ', ← List.append_assoc, List.rdropWhile_concat_pos _ _ _ (by decide),
        inductionHypothesis]
  unfold strip
  rw [right]
  refine List.dropWhile_eq_self_iff.mpr fun nonempty space => ?_
  exact absurd (space.symm.trans (plain _ (List.getElem_mem nonempty))) Bool.false_ne_true.symm

/-- What the decoder makes of an address. -/
def received (address : Address) (last : Bool) : AX25Address where
  callsign := address.callsign.map chr
  ssid := address.ssid
  commandResponse := address.commandBit
  last := last

theorem chr_not_space {char : UInt8} (printable : 0x20 < char ∧ char < 0x7F) :
    isSpace (chr char) = false := by
  have low : 32 < char.toNat := UInt8.lt_iff_toNat_lt.mp printable.1
  unfold isSpace
  rw [chr_toNat, decide_eq_false_iff_not]
  omega

/-- Shifting a character of seven bits left and right again gives it back. -/
theorem shift_back {char : UInt8} (printable : char < 0x7F) : (char <<< 1) >>> 1 = char := by
  have small : char.toNat < 127 := UInt8.lt_iff_toNat_lt.mp printable
  apply UInt8.toNat_inj.mp
  rw [UInt8.toNat_shiftRight, UInt8.toNat_shiftLeft]
  show (char.toNat <<< 1 % 256) >>> 1 = char.toNat
  rw [Nat.shiftLeft_eq, Nat.shiftRight_eq_div_pow]
  omega

/-- The last byte of an address field gives back its three parts. -/
theorem ssidByte_parts (address : Address) (last : Bool) :
    (address.ssidByte last >>> 1) &&& 0x0F = address.ssid ∧
      decide (address.ssidByte last &&& 0x80 ≠ 0) = address.commandBit ∧
      decide (address.ssidByte last &&& 0x01 ≠ 0) = last := by
  have bound : address.ssid.toNat < 16 := UInt8.lt_iff_toNat_lt.mp address.ssidBound
  have parts : ∀ (ssid : Fin 16) (command ending : Bool),
      let commandBit : UInt8 := if command then 0x80 else 0
      let endBit : UInt8 := if ending then 1 else 0
      let byte := commandBit ||| (0x60 : UInt8) ||| UInt8.ofNat ssid.val <<< 1 ||| endBit
      (byte >>> 1) &&& 0x0F = UInt8.ofNat ssid.val ∧ decide (byte &&& 0x80 ≠ 0) = command ∧
        decide (byte &&& 0x01 ≠ 0) = ending := by
    decide
  have named := parts ⟨address.ssid.toNat, bound⟩ address.commandBit last
  rw [UInt8.ofNat_toNat] at named
  exact named

/-- The callsign and its padding are six bytes. -/
theorem length_padded_callsign (address : Address) :
    (address.callsign.map (fun char : UInt8 => char <<< 1) ++
      List.replicate (6 - address.callsign.length) 0x40).length = 6 := by
  have short := address.short
  rw [List.length_append, List.length_map, List.length_replicate]
  omega

theorem take_field (address : Address) (last : Bool) :
    (address.field last).take 6 =
      address.callsign.map (fun char : UInt8 => char <<< 1) ++
        List.replicate (6 - address.callsign.length) 0x40 :=
  List.take_left' (length_padded_callsign address)

theorem getD_field (address : Address) (last : Bool) :
    (address.field last).getD 6 0 = address.ssidByte last := by
  rw [Address.field, List.getD_eq_getElem?_getD,
    List.getElem?_append_right (le_of_eq (length_padded_callsign address)),
    length_padded_callsign]
  rfl

/-- No character of a callsign is white space. -/
theorem callsign_not_space (address : Address) :
    ∀ char ∈ address.callsign.map chr, isSpace char = false := by
  intro char member
  obtain ⟨byte, inCallsign, rfl⟩ := List.mem_map.mp member
  exact chr_not_space (address.printable byte inCallsign)

theorem parseAddress_field (address : Address) (last : Bool) :
    parseAddress (address.field last) = some (received address last) := by
  have callsign : ((address.field last).take 6).map (fun byte : UInt8 => chr (byte >>> 1)) =
      address.callsign.map chr ++ List.replicate (6 - address.callsign.length) ' ' := by
    rw [take_field, List.map_append, List.map_map, List.map_replicate]
    refine congrArg₂ _ (List.map_congr_left fun char member => ?_) rfl
    exact congrArg chr (shift_back (address.printable char member).2)
  obtain ⟨ssid, command, ending⟩ := ssidByte_parts address last
  unfold parseAddress
  dsimp only
  rw [if_neg (not_not.mpr (address.length_field last)), callsign,
    strip_padded (callsign_not_space address), getD_field, ssid, command, ending]
  rfl

/-! ### Fields -/

/-- A slice between two positions is what stands between them. -/
theorem slice_append {front middle rest : List UInt8} {start stop : Nat}
    (starts : front.length = start) (stops : front.length + middle.length = stop) :
    slice (front ++ (middle ++ rest)) start stop = middle := by
  unfold slice
  rw [← List.append_assoc, List.take_left' (by rw [List.length_append, stops]),
    List.drop_left' starts]

/-- The check sequence is read back from its two bytes. -/
theorem unpack_littleEndian (value : BitVec 16) :
    unpackUint16 (littleEndian value) = some value.toNat := by
  unfold littleEndian unpackUint16
  have bound := value.isLt
  have low : (UInt8.ofBitVec (value.extractLsb' 0 8)).toNat = value.toNat % 256 := by
    show (value.extractLsb' 0 8).toNat = _
    rw [BitVec.extractLsb'_toNat, Nat.shiftRight_zero]
  have high : (UInt8.ofBitVec (value.extractLsb' 8 8)).toNat = value.toNat / 256 := by
    show (value.extractLsb' 8 8).toNat = _
    rw [BitVec.extractLsb'_toNat, Nat.shiftRight_eq_div_pow]
    omega
  show some (_ + 256 * _) = _
  rw [low, high]
  exact congrArg some (by omega)

/-- The addresses of a list as the decoder receives them. -/
def receivedList : Address → List Address → List AX25Address
  | address, [] => [received address true]
  | address, next :: rest => received address false :: receivedList next rest

/-- The digipeater loop collects the addresses up to the one with the end bit, and leaves the
offset of that one. -/
theorem digipeaterLoop_fields (rest : List Address) (first : Address) (front tail : List UInt8)
    (trailer : 3 ≤ tail.length) (digis : List AX25Address) {fuel : Nat}
    (enough : rest.length < fuel) :
    digipeaterLoop (front ++ (addressFields first rest ++ tail)) fuel front.length digis =
      (digis ++ receivedList first rest, front.length + 7 * rest.length) := by
  induction rest generalizing first front digis fuel with
  | nil =>
    obtain ⟨fuel, rfl⟩ := Nat.exists_eq_succ_of_ne_zero (Nat.ne_of_gt enough)
    have room : front.length + 7 + 3 ≤ (front ++ (addressFields first [] ++ tail)).length := by
      simp only [List.length_append, length_addressFields, List.length_nil]
      omega
    have field : slice (front ++ (addressFields first [] ++ tail)) front.length
        (front.length + 7) = first.field true :=
      slice_append rfl (congrArg _ (first.length_field true))
    rw [digipeaterLoop, if_pos room, field, parseAddress_field]
    rfl
  | cons next rest inductionHypothesis =>
    obtain ⟨fuel, rfl⟩ := Nat.exists_eq_succ_of_ne_zero (Nat.ne_of_gt (Nat.zero_lt_of_lt enough))
    have room : front.length + 7 + 3 ≤
        (front ++ (addressFields first (next :: rest) ++ tail)).length := by
      simp only [List.length_append, length_addressFields, List.length_cons]
      omega
    have regrouped : front ++ (addressFields first (next :: rest) ++ tail) =
        front ++ (first.field false ++ (addressFields next rest ++ tail)) := by
      rw [addressFields, List.append_assoc]
    have field : slice (front ++ (first.field false ++ (addressFields next rest ++ tail)))
        front.length (front.length + 7) = first.field false :=
      slice_append rfl (congrArg _ (first.length_field false))
    have advanced : (front ++ first.field false).length = front.length + 7 := by
      rw [List.length_append, first.length_field]
    have later := inductionHypothesis next (front ++ first.field false)
      (digis ++ [received first false]) (Nat.lt_of_succ_lt_succ enough)
    rw [advanced, List.append_assoc] at later
    rw [digipeaterLoop, if_pos room, regrouped, field, parseAddress_field]
    show digipeaterLoop _ fuel (front.length + 7) (digis ++ [received first false]) = _
    rw [later, List.append_assoc, List.length_cons]
    exact congrArg _ (by omega)

/-- The first two addresses of the data are parsed. -/
theorem parse_addresses (destination source : Address) (last : Bool) (rest : List UInt8) :
    let data := destination.field false ++ (source.field last ++ rest)
    parseAddress (slice data 0 7) = some (received destination false) ∧
      parseAddress (slice data 7 14) = some (received source last) := by
  intro data
  have dest : slice data 0 7 = destination.field false := by
    show slice ([] ++ (destination.field false ++ _)) 0 7 = _
    exact slice_append rfl ((Nat.zero_add _).trans (destination.length_field false))
  have src : slice data 7 14 = source.field last := by
    refine slice_append (destination.length_field false) ?_
    rw [destination.length_field, source.length_field]
  rw [dest, src]
  exact ⟨parseAddress_field destination false, parseAddress_field source last⟩

/-- A frame whose addresses, control byte and protocol are found is parsed into its parts. -/
theorem parseFields_parts {destination source : Address} {last : Bool} {content rest : List UInt8}
    (split : content = destination.field false ++ (source.field last ++ rest))
    {low high control pid : UInt8} (large : minFrameSize ≤ (content ++ [low, high]).length)
    {digis : List AX25Address} {offset : Nat}
    (loop : (if last then ([], 14)
      else digipeaterLoop (content ++ [low, high]) (content ++ [low, high]).length 14 []) =
      (digis, offset))
    (controlByte : (content ++ [low, high])[offset]? = some control)
    (pidByte : (content ++ [low, high])[offset + 1]? = some pid) :
    parseFields (content ++ [low, high]) =
      some
        { destination := received destination false
          source := received source last
          digipeaters := digis
          control := control
          pid := pid
          info := slice (content ++ [low, high]) (offset + 2) content.length
          fcsValid := decide (low.toNat + 256 * high.toNat = calculateFcs content) } := by
  have regrouped : content ++ [low, high] =
      destination.field false ++ (source.field last ++ (rest ++ [low, high])) := by
    simp only [split, List.append_assoc]
  have addresses := parse_addresses destination source last (rest ++ [low, high])
  rw [← regrouped] at addresses
  have front : (content ++ [low, high]).length - 2 = content.length := by
    rw [List.length_append]
    rfl
  have check : unpackUint16 [low, high] = some (low.toNat + 256 * high.toNat) := rfl
  unfold parseFields
  rw [if_neg (Nat.not_lt_of_le large), addresses.1, addresses.2, front, List.drop_left,
    List.take_left]
  simp only [Option.bind_eq_bind, Option.bind_some, received, loop, controlByte, pidByte, check]

/-- A frame without digipeaters, whatever its check sequence, is parsed into its fields. -/
theorem parseFields_direct (destination source : Address) (control pid low high : UInt8)
    (info : List UInt8) :
    let content := destination.field false ++ source.field true ++ [control, pid] ++ info
    parseFields (content ++ [low, high]) =
      some
        { destination := received destination false
          source := received source true
          digipeaters := []
          control := control
          pid := pid
          info := info
          fcsValid := decide (low.toNat + 256 * high.toNat = calculateFcs content) } := by
  intro content
  have split : content =
      destination.field false ++ (source.field true ++ ([control, pid] ++ info)) := by
    simp only [content, List.append_assoc]
  have contentLength : content.length = 16 + info.length := by
    simp only [content, List.length_append, Address.length_field, List.length_cons,
      List.length_nil]
  have large : minFrameSize ≤ (content ++ [low, high]).length := by
    rw [List.length_append, contentLength]
    show 17 ≤ 16 + info.length + 2
    omega
  have head : (destination.field false ++ source.field true).length = 14 := by
    rw [List.length_append, destination.length_field, source.length_field]
  have behind : content ++ [low, high] = (destination.field false ++ source.field true) ++
      (control :: pid :: (info ++ [low, high])) := by
    simp only [split, List.append_assoc, List.cons_append, List.nil_append]
  have controlByte : (content ++ [low, high])[14]? = some control := by
    rw [behind, List.getElem?_append_right (Nat.le_of_eq head), head]
    rfl
  have pidByte : (content ++ [low, high])[14 + 1]? = some pid := by
    rw [behind, List.getElem?_append_right (by omega), head]
    rfl
  have infoBytes : slice (content ++ [low, high]) (14 + 2) content.length = info := by
    have front : (destination.field false ++ source.field true ++ [control, pid]).length =
        14 + 2 := by
      rw [List.length_append, head]
      rfl
    show slice (destination.field false ++ source.field true ++ [control, pid] ++ info ++ _) _ _ = _
    rw [List.append_assoc _ info]
    refine slice_append front ?_
    rw [front, contentLength]
  rw [parseFields_parts split large (if_pos rfl) controlByte pidByte, infoBytes]

/-- With digipeaters the fields behind the list are read from the last address of the list: the
information comes out with the seven bytes that precede it. -/
theorem parseFields_relayed (destination source first : Address) (rest : List Address)
    (control pid low high : UInt8) (info : List UInt8) :
    let content := destination.field false ++ addressFields source (first :: rest) ++
      [control, pid] ++ info
    ∃ result, parseFields (content ++ [low, high]) = some result ∧
      result.digipeaters = receivedList first rest ∧ result.info.length = info.length + 7 := by
  intro content
  have split : content = destination.field false ++ (source.field false ++
      (addressFields first rest ++ ([control, pid] ++ info))) := by
    simp only [content, addressFields, List.append_assoc]
  have contentLength : content.length = 23 + 7 * rest.length + info.length := by
    simp only [content, List.length_append, Address.length_field, length_addressFields,
      List.length_cons, List.length_nil]
    omega
  have dataLength : (content ++ [low, high]).length = content.length + 2 := List.length_append
  have large : minFrameSize ≤ (content ++ [low, high]).length := by
    unfold minFrameSize
    omega
  have loop : digipeaterLoop (content ++ [low, high]) (content ++ [low, high]).length 14 [] =
      (receivedList first rest, 14 + 7 * rest.length) := by
    have head : (destination.field false ++ source.field false).length = 14 := by
      rw [List.length_append, destination.length_field, source.length_field]
    have trailer : 3 ≤ ([control, pid] ++ info ++ [low, high]).length := by
      simp only [List.length_append, List.length_cons, List.length_nil]
      omega
    have enough : rest.length < (content ++ [low, high]).length := by omega
    have collected := digipeaterLoop_fields rest first (destination.field false ++
      source.field false) ([control, pid] ++ info ++ [low, high]) trailer [] enough
    rw [head] at collected
    simp only [split, List.append_assoc] at collected ⊢
    exact collected
  have controlByte := List.getElem?_eq_getElem
    (show 14 + 7 * rest.length < (content ++ [low, high]).length by omega)
  have pidByte := List.getElem?_eq_getElem
    (show 14 + 7 * rest.length + 1 < (content ++ [low, high]).length by omega)
  refine ⟨_, parseFields_parts split large loop controlByte pidByte, rfl, ?_⟩
  show (slice (content ++ [low, high]) (14 + 7 * rest.length + 2) content.length).length = _
  unfold slice
  rw [List.take_left, List.length_drop]
  omega

/-! ### Whole frames -/

/-- The flags of a frame are removed. -/
theorem removeFlags_flags (body : List UInt8) :
    removeFlags (Ax25.flag :: body ++ [Ax25.flag]) = body := by
  have opening : (Ax25.flag :: body ++ [Ax25.flag]).head? = some flag := rfl
  have closing : (body ++ [Ax25.flag]).getLast? = some flag := List.getLast?_concat
  unfold removeFlags
  dsimp only
  rw [if_pos opening]
  show (if (body ++ [Ax25.flag]).getLast? = some flag then (body ++ [Ax25.flag]).dropLast
    else body ++ [Ax25.flag]) = body
  rw [if_pos closing, List.dropLast_concat]

/-- What a decoder should make of a frame. -/
def receivedFrame (frame : UiFrame) : AX25Frame where
  destination := received frame.destination false
  source := received frame.source frame.digipeaters.isEmpty
  digipeaters :=
    match frame.digipeaters with
    | [] => []
    | first :: rest => receivedList first rest
  control := frame.control
  pid := frame.pid
  info := frame.info
  fcsValid := true

/-- The two check sequences agree. -/
theorem check_littleEndian (data : List UInt8) :
    unpackUint16 (littleEndian (fcs data)) = some (calculateFcs data) := by
  rw [calculateFcs_eq]
  exact unpack_littleEndian (fcs data)

/-- A frame without digipeaters is received as it was sent. -/
theorem parseFields_body {frame : UiFrame} (direct : frame.digipeaters = []) :
    parseFields frame.body = some (receivedFrame frame) := by
  obtain ⟨destination, source, digipeaters, control, pid, info⟩ := frame
  subst direct
  have check := check_littleEndian (UiFrame.content ⟨destination, source, [], control, pid, info⟩)
  have valid := decide_eq_true (Option.some.inj check)
  refine (parseFields_direct destination source control pid _ _ info).trans (congrArg some ?_)
  exact congrArg (AX25Frame.mk _ _ _ _ _ _) valid

/-- Behind a digipeater the information is not the one that was sent. -/
theorem parseFields_body_relayed {frame : UiFrame} (relayed : frame.digipeaters ≠ []) :
    parseFields frame.body ≠ some (receivedFrame frame) := by
  obtain ⟨destination, source, digipeaters, control, pid, info⟩ := frame
  obtain ⟨first, rest, rfl⟩ := List.exists_cons_of_ne_nil relayed
  intro parsed
  obtain ⟨result, parsed', _, longer⟩ := parseFields_relayed destination source first rest control
    pid _ _ info
  have same : result = receivedFrame _ := Option.some.inj (parsed'.symm.trans parsed)
  rw [same] at longer
  exact absurd longer (Nat.ne_of_lt (Nat.lt_add_of_pos_right (by decide)))

/-- A frame is parsed into what was sent exactly when it came without digipeaters. -/
theorem address_list_parsed_iff (frame : UiFrame) :
    parseAx25 frame.bytes = some (receivedFrame frame) ↔ frame.digipeaters = [] := by
  unfold parseAx25 UiFrame.bytes
  rw [removeFlags_flags]
  by_cases direct : frame.digipeaters = []
  · exact iff_of_true (parseFields_body direct) direct
  · exact iff_of_false (parseFields_body_relayed direct) direct

/-- The destination of a beacon. -/
def cqAddress : Address :=
  ⟨ascii "CQ", 0, false, by decide, printable_of_all (by decide), by decide⟩

/-- The source of a beacon. -/
def beaconAddress : Address :=
  ⟨ascii beaconCallsign, 1, false, by decide, printable_of_all (by decide), by decide⟩

/-- A frame that was repeated once. -/
def repeatedFrame : UiFrame where
  destination := cqAddress
  source := ⟨ascii "SQSO", 1, false, by decide, printable_of_all (by decide), by decide⟩
  digipeaters := [⟨ascii "WIDE1", 1, true, by decide, printable_of_all (by decide), by decide⟩]
  control := 0x03
  pid := 0xF0
  info := ascii "hi"

/-- The parser takes the first two characters of the digipeater for control and protocol. -/
theorem repeated_frame_misread :
    (parseAx25 repeatedFrame.bytes).map (fun frame => (frame.control, frame.pid, frame.info)) =
        some (0xAE, 0x92, [0x88, 0x8A, 0x62, 0x40, 0xE3, 0x03, 0xF0, 0x68, 0x69]) ∧
      parseAx25 repeatedFrame.bytes ≠ some (receivedFrame repeatedFrame) := by
  decide +kernel

end SmartQso.Ground
