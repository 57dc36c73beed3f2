/-
This file models the flash of the simulated hardware, `hal_sim.c`, and the branch of
`system_state.c` that stores the state in it. The object representation of the state is
a parameter, of which only the length matters: nothing that is stored here is ever
read back.
-/

import SmartQso.SystemPersistence

namespace SmartQso

/-! ### The driver -/

/-- `HalFlashRegion_t`, without its count. -/
inductive HalFlashRegion
  | missionData
  | epsConfig
  | sensorConfig
  | faultLog
  | backup
  | state
  deriving DecidableEq

/-- The number of a region. -/
def HalFlashRegion.code : HalFlashRegion → Nat
  | .missionData => 0
  | .epsConfig => 1
  | .sensorConfig => 2
  | .faultLog => 3
  | .backup => 4
  | .state => 5

/-- `s_flash_sizes`. The array has a place for every region, and the initializer names five sizes;
the rest is zero. -/
def flashSizes (region : HalFlashRegion) : Nat := [512, 256, 512, 4096, 1024].getD region.code 0

/-- The statics of the flash simulation. A region without memory is a null pointer. -/
structure HalFlash where
  initialized : Bool
  data : HalFlashRegion → Option (List UInt8)

/-- `hal_flash_init` when there is memory for every region. -/
def halFlashInit (flash : HalFlash) : HalFlash where
  initialized := true
  data region :=
    match flash.data region with
    | some bytes => some bytes
    | none => some (List.replicate (flashSizes region) 0x00)

/-- `hal_flash_read`. -/
def halFlashRead (flash : HalFlash) (region : HalFlashRegion) (offset len : Nat) :
    Except SmartQsoResult (List UInt8) :=
  if !flash.initialized then .error .error
  else if offset + len > flashSizes region then .error .errorInvalid
  else .ok ((((flash.data region).getD []).drop offset).take len)

/-- Overwrite bytes of a region. -/
def spliceBytes (bytes : List UInt8) (offset : Nat) (written : List UInt8) : List UInt8 :=
  bytes.take offset ++ written ++ bytes.drop (offset + written.length)

/-- `hal_flash_write`. -/
def halFlashWrite (flash : HalFlash) (region : HalFlashRegion) (offset : Nat)
    (written : List UInt8) : HalFlash × SmartQsoResult :=
  if !flash.initialized then (flash, .error)
  else if offset + written.length > flashSizes region then (flash, .errorInvalid)
  else
    ({ flash with
        data := fun other =>
          if other = region then (flash.data region).map fun bytes =>
            spliceBytes bytes offset written
          else flash.data other }, .ok)

/-- `hal_flash_erase`. -/
def halFlashErase (flash : HalFlash) (region : HalFlashRegion) : HalFlash × SmartQsoResult :=
  if !flash.initialized then (flash, .error)
  else
    ({ flash with
        data := fun other =>
          if other = region then some (List.replicate (flashSizes region) 0xFF)
          else flash.data other }, .ok)

/-! ### The flash branch -/

/-- The object representation of `SystemState_t`: its size, its bytes, and the record that bytes
represent. -/
class StateImage extends CLayout SystemRecord where
  size : Nat
  encode : SystemState → List UInt8
  decode : List UInt8 → SystemState
  size_pos : 0 < size
  length_encode : ∀ sys, (encode sys).length = size

/-- A representation for closed runs, which forgets the record. -/
@[reducible] def StateImage.blank : StateImage where
  bytes _ := []
  size := 264
  encode _ := List.replicate 264 0x00
  decode _ := ⟨systemDefaults 0, 0⟩
  size_pos := by decide
  length_encode _ := List.length_replicate

section

variable [StateImage]

/-- `sys_state_load` of a flight build. -/
def sysStateLoadFlash (flash : HalFlash) (now : UInt64) : SystemState :=
  match halFlashRead flash .state 0 StateImage.size with
  | .error _ => sysStateInit now
  | .ok bytes => acceptState (StateImage.decode bytes) now

/-- `sys_state_save` of a flight build. -/
def sysStateSaveFlash (sys : SystemState) (flash : HalFlash) (now : UInt64) :
    SystemState × HalFlash × SmartQsoResult :=
  if sys.record.initialized then
    let sealed := sys.updateCrc
    let erased := halFlashErase flash .state
    if erased.2 ≠ .ok then (sealed, erased.1, .errorIo)
    else
      let written := halFlashWrite erased.1 .state 0 (StateImage.encode sealed)
      if written.2 ≠ .ok then (sealed, written.1, .errorIo)
      else (markSaved sealed now, written.1, .ok)
  else (sys, flash, .errorInvalid)

/-! ### Histories -/

/-- A call to the storage, with the time at which it runs. -/
inductive PersistCall
  | save (now : UInt64)
  | load (now : UInt64)

/-- A call over the file, when every file operation succeeds. -/
def fileCall (sys : SystemState) (file : Option StateFile) :
    PersistCall → SystemState × Option StateFile × SmartQsoResult
  | .save now => sysStateSave sys file .succeeds now
  | .load now => (sysStateLoad file now, file, .ok)

/-- A call over the flash. -/
def flashCall (sys : SystemState) (flash : HalFlash) :
    PersistCall → SystemState × HalFlash × SmartQsoResult
  | .save now => sysStateSaveFlash sys flash now
  | .load now => (sysStateLoadFlash flash now, flash, .ok)

/-- What a caller sees of a history: the answers, and the state after each call. -/
def observe {Medium : Type}
    (call : SystemState → Medium → PersistCall → SystemState × Medium × SmartQsoResult) :
    SystemState → Medium → List PersistCall → List (SmartQsoResult × SystemState)
  | _, _, [] => []
  | sys, medium, next :: rest =>
    let done := call sys medium next
    (done.2.2, done.1) :: observe call done.1 done.2.1 rest

/-! ### What the simulated flash does -/

omit [StateImage] in
theorem halFlashInit_initialized (flash : HalFlash) :
    (halFlashInit flash).initialized = true := rfl

omit [StateImage] in
theorem halFlashErase_of_initialized {flash : HalFlash} (initialized : flash.initialized = true)
    (region : HalFlashRegion) :
    (halFlashErase flash region).2 = .ok ∧
      (halFlashErase flash region).1.initialized = true := by
  rw [halFlashErase, if_neg (by rw [initialized]; decide)]
  exact ⟨rfl, initialized⟩

/-- There is no room for the state, so nothing is read. -/
theorem sysStateLoadFlash_eq {flash : HalFlash} (initialized : flash.initialized = true)
    (now : UInt64) : sysStateLoadFlash flash now = sysStateInit now := by
  have outside : 0 + StateImage.size > flashSizes .state :=
    Nat.lt_of_lt_of_le StateImage.size_pos (Nat.le_add_left _ 0)
  rw [sysStateLoadFlash, halFlashRead, if_neg (by rw [initialized]; decide), if_pos outside]

/-- There is no room for the state, so nothing is written. -/
theorem sysStateSaveFlash_eq {sys : SystemState} {flash : HalFlash}
    (started : sys.record.initialized = true) (initialized : flash.initialized = true)
    (now : UInt64) :
    sysStateSaveFlash sys flash now =
      (sys.updateCrc, (halFlashErase flash .state).1, .errorIo) := by
  obtain ⟨erased, ready⟩ := halFlashErase_of_initialized initialized .state
  have outside : 0 + (StateImage.encode sys.updateCrc).length > flashSizes .state := by
    rw [StateImage.length_encode]
    exact Nat.lt_of_lt_of_le StateImage.size_pos (Nat.le_add_left _ 0)
  have refused : halFlashWrite (halFlashErase flash .state).1 .state 0
      (StateImage.encode sys.updateCrc) = ((halFlashErase flash .state).1, .errorInvalid) := by
    rw [halFlashWrite, if_neg (by rw [ready]; decide), if_pos outside]
  rw [sysStateSaveFlash, if_pos started]
  simp only [erased, refused]
  rfl

end

end SmartQso
