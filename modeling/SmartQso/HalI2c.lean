/-
This file models the I2C devices of the simulated hardware, `hal_sim.c`. A write counts
its register in eight bits and goes on at the start of the register file; a read copies a
block from the register on and runs past the end. What stands in memory behind a register
file is a parameter of a read.
-/

import Mathlib.Data.List.FinRange
import SmartQso.Types

namespace SmartQso

/-! ### The driver -/

/-- `I2C_BUS_COUNT`. -/
abbrev i2cBusCount : Nat := 2

/-- `SIM_I2C_DEVICE_COUNT`. -/
abbrev simI2cDeviceCount : Nat := 3

/-- `SimI2cDevice_t`. -/
structure SimI2cDevice where
  addr : UInt8
  registers : Vector UInt8 256

/-- The statics of the I2C simulation. -/
structure HalI2c where
  initialized : Vector Bool i2cBusCount
  devices : Vector SimI2cDevice simI2cDeviceCount

/-- What a read returns, and the places it reads, counted from the start of the register file. -/
structure I2cRead where
  data : List UInt8
  places : List Nat
  deriving DecidableEq

/-- `I2C_ADDR_EPS_CONTROLLER`. -/
def i2cAddrEpsController : UInt8 := 0x48

/-- `I2C_ADDR_BATTERY_MONITOR`. -/
def i2cAddrBatteryMonitor : UInt8 := 0x55

/-- `I2C_ADDR_SOLAR_MONITOR`. -/
def i2cAddrSolarMonitor : UInt8 := 0x40

/-- The statics of the I2C simulation before a bus is initialized. -/
def HalI2c.start : HalI2c where
  initialized := Vector.replicate i2cBusCount false
  devices := #v[⟨i2cAddrEpsController, Vector.replicate 256 0⟩,
    ⟨i2cAddrBatteryMonitor, Vector.replicate 256 0⟩, ⟨i2cAddrSolarMonitor, Vector.replicate 256 0⟩]

/-- The registers `hal_i2c_init` gives a device. -/
def SimI2cDevice.reset (device : SimI2cDevice) : SimI2cDevice :=
  let cleared : Vector UInt8 256 := Vector.replicate 256 0
  if device.addr = i2cAddrEpsController then
    { device with registers := ((cleared.set 0x00 0x43).set 0x01 0x01).set 0x16 75 }
  else { device with registers := cleared }

/-- `hal_i2c_init`. -/
def halI2cInit (i2c : HalI2c) (bus : Nat) : HalI2c × SmartQsoResult :=
  if bus ≥ i2cBusCount then (i2c, .errorInvalid)
  else
    ({ initialized := i2c.initialized.setIfInBounds bus true
       devices := i2c.devices.map SimI2cDevice.reset }, .ok)

/-- `find_i2c_device`. -/
def findI2cDevice (i2c : HalI2c) (addr : UInt8) : Option (Fin simI2cDeviceCount) :=
  (List.finRange simI2cDeviceCount).find? fun index => (i2c.devices.get index).addr == addr

/-- Whether a bus exists and is initialized. -/
def HalI2c.ready (i2c : HalI2c) (bus : Nat) : Bool := i2c.initialized[bus]?.getD false

/-- The loop of `hal_i2c_write`, from a register on. -/
def writeRegisters : List UInt8 → UInt8 → Vector UInt8 256 → Vector UInt8 256
  | [], _, registers => registers
  | byte :: rest, reg, registers =>
    writeRegisters rest (reg + 1) (registers.set reg.toNat byte reg.toNat_lt)

/-- `hal_i2c_write`. -/
def halI2cWrite (i2c : HalI2c) (bus : Nat) (addr : UInt8) (data : List UInt8) :
    HalI2c × SmartQsoResult :=
  if !i2c.ready bus then (i2c, .error)
  else
    match data with
    | [] => (i2c, .errorNullPtr)
    | reg :: bytes =>
      match findI2cDevice i2c addr with
      | none => (i2c, .error)
      | some index =>
        let device := i2c.devices.get index
        let written := { device with registers := writeRegisters bytes reg device.registers }
        ({ i2c with devices := i2c.devices.set index written }, .ok)

/-- `memcpy` out of a register file, with what stands in memory behind it. -/
def copyRegisters (behind : Nat → UInt8) (device : SimI2cDevice) (start len : Nat) : I2cRead where
  data := (List.range len).map fun index =>
    device.registers[start + index]?.getD (behind (start + index - 256))
  places := (List.range len).map (start + ·)

/-- `hal_i2c_read`. -/
def halI2cRead (behind : Nat → UInt8) (i2c : HalI2c) (bus : Nat) (addr : UInt8) (len : Nat) :
    Except SmartQsoResult I2cRead :=
  if !i2c.ready bus then .error .error
  else if len = 0 then .error .errorNullPtr
  else
    match findI2cDevice i2c addr with
    | none => .error .error
    | some index => .ok (copyRegisters behind (i2c.devices.get index) 0 len)

/-- `hal_i2c_write_read`. -/
def halI2cWriteRead (behind : Nat → UInt8) (i2c : HalI2c) (addr : UInt8) (writeData : List UInt8)
    (readLen : Nat) : Except SmartQsoResult I2cRead :=
  match writeData with
  | [] => .error .errorNullPtr
  | reg :: _ =>
    match findI2cDevice i2c addr with
    | none => .error .error
    | some index => .ok (copyRegisters behind (i2c.devices.get index) reg.toNat readLen)

/-! ### The loop of a write -/

/-- A register the loop does not come to keeps its value. -/
theorem writeRegisters_other {data : List UInt8} {reg : UInt8} {registers : Vector UInt8 256}
    {place : Nat} (other : ∀ index < data.length, place ≠ (reg.toNat + index) % 256) :
    (writeRegisters data reg registers)[place]? = registers[place]? := by
  induction data generalizing reg registers with
  | nil => rfl
  | cons byte rest inductionHypothesis =>
    have bound := reg.toNat_lt
    have first := other 0 (Nat.succ_pos _)
    have next : (reg + 1).toNat = (reg.toNat + 1) % 256 := UInt8.toNat_add reg 1
    rw [writeRegisters, inductionHypothesis, Vector.getElem?_set, if_neg (by omega)]
    intro index below
    have later := other (index + 1) (Nat.succ_lt_succ below)
    omega

/-- A register the loop comes to holds its byte, as the loop does not come around to it. -/
theorem writeRegisters_written {data : List UInt8} {reg : UInt8} {registers : Vector UInt8 256}
    (short : data.length ≤ 256) {index : Nat} (inside : index < data.length) :
    (writeRegisters data reg registers)[(reg.toNat + index) % 256]? = data[index]? := by
  induction data generalizing reg registers index with
  | nil => exact absurd inside (Nat.not_lt_zero index)
  | cons byte rest inductionHypothesis =>
    have bound := reg.toNat_lt
    have next : (reg + 1).toNat = (reg.toNat + 1) % 256 := UInt8.toNat_add reg 1
    rw [List.length_cons] at short inside
    rw [writeRegisters]
    cases index with
    | zero =>
      have place : (reg.toNat + 0) % 256 = reg.toNat := Nat.mod_eq_of_lt bound
      rw [place, writeRegisters_other, Vector.getElem?_set_self, List.getElem?_cons_zero]
      intro later below
      omega
    | succ index =>
      have shifted : (reg.toNat + (index + 1)) % 256 = ((reg + 1).toNat + index) % 256 := by omega
      rw [shifted, inductionHypothesis (by omega) (by omega), List.getElem?_cons_succ]

/-! ### Devices -/

/-- A register of the device at an address. -/
def HalI2c.register (i2c : HalI2c) (addr : UInt8) (place : Nat) : Option UInt8 :=
  (findI2cDevice i2c addr).bind fun index => (i2c.devices.get index).registers[place]?

theorem addr_of_find {i2c : HalI2c} {addr : UInt8} {index : Fin simI2cDeviceCount}
    (found : findI2cDevice i2c addr = some index) : (i2c.devices.get index).addr = addr :=
  beq_iff_eq.mp (List.find?_some (p := fun index => (i2c.devices.get index).addr == addr) found)

/-- The device that is written to, and the one that is looked at. -/
theorem get_set {devices : Vector SimI2cDevice simI2cDeviceCount}
    (index other : Fin simI2cDeviceCount) (written : SimI2cDevice) :
    (devices.set index.val written index.isLt).get other =
      if index = other then written else devices.get other := by
  show (devices.set index.val written index.isLt)[other.val] =
    if index = other then written else devices[other.val]
  rw [Vector.getElem_set]
  exact if_congr Fin.ext_iff.symm rfl rfl

/-- A write to a device that is there succeeds and changes its register file only. -/
theorem halI2cWrite_found {i2c : HalI2c} {bus : Nat} {addr : UInt8}
    {index : Fin simI2cDeviceCount} (ready : i2c.ready bus = true)
    (found : findI2cDevice i2c addr = some index) (reg : UInt8) (data : List UInt8) :
    let written := halI2cWrite i2c bus addr (reg :: data)
    written.2 = .ok ∧
      (∀ other, findI2cDevice written.1 other = findI2cDevice i2c other) ∧
      (written.1.devices.get index).registers =
        writeRegisters data reg (i2c.devices.get index).registers ∧
      ∀ other, other ≠ index → written.1.devices.get other = i2c.devices.get other := by
  have effect : halI2cWrite i2c bus addr (reg :: data) =
      ({ i2c with
          devices := i2c.devices.set index { i2c.devices.get index with
            registers := writeRegisters data reg (i2c.devices.get index).registers } }, .ok) := by
    simp only [halI2cWrite, ready, found, Bool.not_true, Bool.false_eq_true, if_false]
  dsimp only
  rw [effect]
  refine ⟨rfl, fun other => ?_, ?_, fun other different => ?_⟩
  · unfold findI2cDevice
    congr 1
    funext place
    rw [get_set]
    by_cases same : index = place
    · rw [if_pos same, same]
    · rw [if_neg same]
  · rw [get_set, if_pos rfl]
  · rw [get_set, if_neg different.symm]

/-- A write changes no register it does not come to, and no register of another device. -/
theorem halI2cWrite_unchanged {i2c : HalI2c} {bus : Nat} {addr other reg : UInt8}
    {index : Fin simI2cDeviceCount} {data : List UInt8} {place : Nat}
    (ready : i2c.ready bus = true) (found : findI2cDevice i2c addr = some index)
    (elsewhere : other ≠ addr ∨ ∀ step < data.length, place ≠ (reg.toNat + step) % 256) :
    (halI2cWrite i2c bus addr (reg :: data)).1.register other place = i2c.register other place := by
  obtain ⟨_, sameFind, file, others⟩ := halI2cWrite_found ready found reg data
  unfold HalI2c.register
  rw [sameFind]
  cases looked : findI2cDevice i2c other with
  | none => rfl
  | some target =>
    rw [Option.bind_some, Option.bind_some]
    by_cases same : target = index
    · subst same
      have sameAddr : other = addr := (addr_of_find looked).symm.trans (addr_of_find found)
      rw [file, writeRegisters_other (elsewhere.resolve_left (not_not.mpr sameAddr))]
    · rw [others target same]

/-! ### Register files -/

/-- What a driver expects of a register file: data that is written from a register on is read back
from the registers it wrapped to, no other register changes, and a read from that register, however
long, stays within the register file. -/
structure RegisterRoundTrip (behind : Nat → UInt8) (i2c : HalI2c) (bus : Nat) (addr reg : UInt8)
    (data : List UInt8) (readLen : Nat) : Prop where
  written : (halI2cWrite i2c bus addr (reg :: data)).2 = .ok
  unchanged : ∀ other place,
    other ≠ addr ∨ (∀ index < data.length, place ≠ (reg.toNat + index) % 256) →
    (halI2cWrite i2c bus addr (reg :: data)).1.register other place = i2c.register other place
  readBack : halI2cWriteRead behind (halI2cWrite i2c bus addr (reg :: data)).1 addr [reg]
      data.length =
    .ok ⟨data, (List.range data.length).map fun index => (reg.toNat + index) % 256⟩
  inside : ∀ read,
    halI2cWriteRead behind (halI2cWrite i2c bus addr (reg :: data)).1 addr [reg] readLen =
      .ok read → ∀ place ∈ read.places, place < 256

/-- A copy stays within the register file exactly when it ends before its end. -/
theorem copyRegisters_inside_iff (behind : Nat → UInt8) (device : SimI2cDevice) (reg : UInt8)
    (len : Nat) :
    (∀ place ∈ (copyRegisters behind device reg.toNat len).places, place < 256) ↔
      reg.toNat + len ≤ 256 := by
  have bound := reg.toNat_lt
  constructor
  · intro inside
    by_contra long
    have last := inside (reg.toNat + (len - 1))
      (List.mem_map.mpr ⟨len - 1, List.mem_range.mpr (by omega), rfl⟩)
    omega
  · intro short place member
    obtain ⟨index, inRange, rfl⟩ := List.mem_map.mp member
    have below := List.mem_range.mp inRange
    omega

/-- A copy from the register on returns what was written, unless it runs past the end. -/
theorem copyRegisters_written (behind : Nat → UInt8) {device : SimI2cDevice} {reg : UInt8}
    {data : List UInt8} {before : Vector UInt8 256} (fits : reg.toNat + data.length ≤ 256)
    (written : device.registers = writeRegisters data reg before) :
    copyRegisters behind device reg.toNat data.length =
      ⟨data, (List.range data.length).map fun index => (reg.toNat + index) % 256⟩ := by
  have unwrapped : ∀ index < data.length, (reg.toNat + index) % 256 = reg.toNat + index := by
    intro index below
    exact Nat.mod_eq_of_lt (by omega)
  unfold copyRegisters
  refine congrArg₂ I2cRead.mk (List.ext_getElem ?_ fun index inRange inData => ?_)
    (List.map_congr_left fun index member => ?_)
  · rw [List.length_map, List.length_range]
  · have stored := @writeRegisters_written data reg before (by omega) index inData
    rw [unwrapped index inData, List.getElem?_eq_getElem inData] at stored
    rw [List.getElem_map, List.getElem_range, written, stored, Option.getD_some]
  · exact (unwrapped index (List.mem_range.mp member)).symm

/-- A plain read starts at the first register and stays within the register file exactly when it is
no longer than that. -/
theorem halI2cRead_inside_iff (behind : Nat → UInt8) {i2c : HalI2c} {bus : Nat} {addr : UInt8}
    (len : Nat) (ready : i2c.ready bus = true) (present : (findI2cDevice i2c addr).isSome) :
    (∀ read, halI2cRead behind i2c bus addr len = .ok read → ∀ place ∈ read.places, place < 256) ↔
      len ≤ 256 := by
  obtain ⟨index, found⟩ := Option.isSome_iff_exists.mp present
  by_cases empty : len = 0
  · refine iff_of_true (fun read isRead => ?_) (empty ▸ Nat.zero_le 256)
    simp only [halI2cRead, ready, Bool.not_true, Bool.false_eq_true, if_false, if_pos empty,
      reduceCtorEq] at isRead
  · have reads : halI2cRead behind i2c bus addr len =
        .ok (copyRegisters behind (i2c.devices.get index) 0 len) := by
      simp only [halI2cRead, ready, Bool.not_true, Bool.false_eq_true, if_false, if_neg empty,
        found]
    have bounded := copyRegisters_inside_iff behind (i2c.devices.get index) 0 len
    rw [UInt8.toNat_zero, Nat.zero_add] at bounded
    rw [reads, ← bounded]
    exact ⟨fun inside => inside _ rfl, fun inside read isRead => Except.ok.inj isRead ▸ inside⟩

/-- A register file does what a driver expects of it exactly when neither what is written nor what
is read reaches past its end. -/
theorem register_round_trip_iff (behind : Nat → UInt8) {i2c : HalI2c} {bus : Nat} {addr reg : UInt8}
    {data : List UInt8} (readLen : Nat) (ready : i2c.ready bus = true)
    (present : (findI2cDevice i2c addr).isSome) :
    RegisterRoundTrip behind i2c bus addr reg data readLen ↔
      reg.toNat + data.length ≤ 256 ∧ reg.toNat + readLen ≤ 256 := by
  obtain ⟨index, found⟩ := Option.isSome_iff_exists.mp present
  obtain ⟨accepted, sameFind, file, others⟩ := halI2cWrite_found ready found reg data
  have reads : ∀ len, halI2cWriteRead behind (halI2cWrite i2c bus addr (reg :: data)).1 addr [reg]
      len = .ok (copyRegisters behind
        ((halI2cWrite i2c bus addr (reg :: data)).1.devices.get index) reg.toNat len) := by
    intro len
    unfold halI2cWriteRead
    rw [sameFind, found]
  constructor
  · rintro ⟨_, _, readBack, inside⟩
    rw [reads] at readBack
    refine ⟨?_, (copyRegisters_inside_iff behind _ reg readLen).mp (inside _ (reads readLen))⟩
    refine (copyRegisters_inside_iff behind
      ((halI2cWrite i2c bus addr (reg :: data)).1.devices.get index) reg data.length).mp ?_
    intro place member
    rw [Except.ok.inj readBack] at member
    obtain ⟨_, _, rfl⟩ := List.mem_map.mp member
    exact Nat.mod_lt _ (by decide)
  · rintro ⟨writeFits, readFits⟩
    refine ⟨accepted, fun other place => halI2cWrite_unchanged ready found, ?_,
      fun read isRead => ?_⟩
    · rw [reads, copyRegisters_written behind writeFits file]
    · rw [reads] at isRead
      rw [← Except.ok.inj isRead]
      exact (copyRegisters_inside_iff behind _ reg readLen).mpr readFits

theorem register_round_trip_iff_start :
    RegisterRoundTrip (fun _ => 0) (halI2cInit HalI2c.start 0).1 0 i2cAddrBatteryMonitor 0x10
      [1, 2] 2 ↔ (0x10 : UInt8).toNat + 2 ≤ 256 ∧ (0x10 : UInt8).toNat + 2 ≤ 256 :=
  register_round_trip_iff (fun _ => 0) 2 (by decide +kernel) (by decide +kernel)

/-- A write of two bytes from the last register on wraps, but a read of them does not: it returns
a byte from behind the register file. -/
theorem register_file_end :
    let i2c := (halI2cInit HalI2c.start 0).1
    ¬ RegisterRoundTrip (fun _ => 0) i2c 0 i2cAddrBatteryMonitor 0xFF [1, 2] 2 ∧
      halI2cWriteRead (fun _ => 0) (halI2cWrite i2c 0 i2cAddrBatteryMonitor [0xFF, 1, 2]).1
        i2cAddrBatteryMonitor [0xFF] 2 = .ok ⟨[1, 0], [255, 256]⟩ := by
  intro i2c
  have read : halI2cWriteRead (fun _ => 0)
      (halI2cWrite i2c 0 i2cAddrBatteryMonitor [0xFF, 1, 2]).1 i2cAddrBatteryMonitor [0xFF] 2 =
        .ok ⟨[1, 0], [255, 256]⟩ := by
    decide +kernel
  refine ⟨fun claimed => ?_, read⟩
  exact absurd (claimed.inside _ read 256 (by decide)) (by decide)

end SmartQso
