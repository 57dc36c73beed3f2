/-
This file follows the flash of the simulated hardware, `hal_sim.c`, over whole histories.
Its regions are allocated, where the memory for one of them may be missing, freed, read,
written and erased. The abstract flash is what a caller can write down from the answers
to its own calls: whether the flash is open, and a byte for every place of every region.
The simulated flash answers every call as that record says.
-/

import Mathlib.Data.List.GetD
import SmartQso.HalFlash
import SmartQso.Runs

namespace SmartQso

/-! ### Allocation -/

/-- The regions in the order of their numbers. -/
def HalFlashRegion.all : List HalFlashRegion :=
  [.missionData, .epsConfig, .sensorConfig, .faultLog, .backup, .state]

theorem HalFlashRegion.mem_all (region : HalFlashRegion) : region ∈ all := by
  cases region <;> decide

/-- The static storage at boot. -/
def HalFlash.boot : HalFlash where
  initialized := false
  data _ := none

/-- `calloc` for a region. -/
def HalFlash.allocate (flash : HalFlash) (region : HalFlashRegion) : HalFlash :=
  { flash with
    data := Function.update flash.data region
      (some (List.replicate (flashSizes region) 0x00)) }

/-- The loop of `hal_flash_init` over the regions that are left, and what follows it. `memory` says
for which regions `calloc` finds memory. -/
def halFlashInitFrom (memory : HalFlashRegion → Bool) (flash : HalFlash) :
    List HalFlashRegion → HalFlash × SmartQsoResult
  | [] => ({ flash with initialized := true }, .ok)
  | region :: rest =>
    if (flash.data region).isSome then halFlashInitFrom memory flash rest
    else if memory region then halFlashInitFrom memory (flash.allocate region) rest
    else (flash, .errorNoMem)

/-- What `hal_deinit` does to the flash. -/
def halDeinit (_flash : HalFlash) : HalFlash where
  initialized := false
  data _ := none

/-! ### Calls -/

/-- A call to the flash. The buffer of a caller is an object, and no object is so long that the sum
of an offset and its length wraps. -/
inductive FlashCall
  | init (memory : HalFlashRegion → Bool)
  | deinit
  | read (region : HalFlashRegion) (offset len : Nat)
  | write (region : HalFlashRegion) (offset : Nat) (bytes : List UInt8)
  | erase (region : HalFlashRegion)

/-- What a caller gets: an error, or the bytes of a read. Other calls return no bytes. -/
abbrev FlashAnswer := Except SmartQsoResult (List UInt8)

/-- The answer of a call that returns no bytes. -/
def resultAnswer (result : SmartQsoResult) : FlashAnswer :=
  if result = .ok then .ok [] else .error result

/-- The flash after a call, with its answer. -/
def answerFlashCall (flash : HalFlash) : FlashCall → HalFlash × FlashAnswer
  | .init memory =>
    let done := halFlashInitFrom memory flash HalFlashRegion.all
    (done.1, resultAnswer done.2)
  | .deinit => (halDeinit flash, .ok [])
  | .read region offset len => (flash, halFlashRead flash region offset len)
  | .write region offset bytes =>
    let done := halFlashWrite flash region offset bytes
    (done.1, resultAnswer done.2)
  | .erase region =>
    let done := halFlashErase flash region
    (done.1, resultAnswer done.2)

/-- The calls of a history with their answers. -/
def flashTrace (flash : HalFlash) : List FlashCall → List (FlashCall × FlashAnswer)
  | [] => []
  | call :: rest =>
    let done := answerFlashCall flash call
    (call, done.2) :: flashTrace done.1 rest

/-! ### What a caller writes down -/

/-- The abstract flash. -/
structure StoredFlash where
  isOpen : Bool
  bytes : HalFlashRegion → Nat → UInt8

/-- A flash nobody has opened. -/
def StoredFlash.closed : StoredFlash where
  isOpen := false
  bytes _ _ := 0x00

/-- Bytes of a region after others are written to it. -/
def storedAfterWrite (stored : Nat → UInt8) (offset : Nat) (written : List UInt8) (place : Nat) :
    UInt8 :=
  if offset ≤ place then written.getD (place - offset) (stored place) else stored place

/-- What a caller makes of an answer. A call that is refused changes nothing. -/
def StoredFlash.record (store : StoredFlash) : FlashCall × FlashAnswer → StoredFlash
  | (_, .error _) => store
  | (.init _, .ok _) => { store with isOpen := true }
  | (.deinit, .ok _) => closed
  | (.read _ _ _, .ok _) => store
  | (.write region offset written, .ok _) =>
    { store with
      bytes := Function.update store.bytes region
        (storedAfterWrite (store.bytes region) offset written) }
  | (.erase region, .ok _) =>
    { store with bytes := Function.update store.bytes region fun _ => 0xFF }

/-- An access to a part of a region: refused on a closed flash, and outside the region. -/
def StoredFlash.access (store : StoredFlash) (region : HalFlashRegion) (offset len : Nat)
    (bytes : List UInt8) : FlashAnswer :=
  if !store.isOpen then .error .error
  else if offset + len > flashSizes region then .error .errorInvalid
  else .ok bytes

/-- The answer that the record foretells. Whether there is memory is not in the record, so a closed
flash may refuse to open. -/
def StoredFlash.Foretells (store : StoredFlash) : FlashCall → FlashAnswer → Prop
  | .init memory, answer =>
    store.isOpen = true ∨ (∀ region, memory region = true) → answer = .ok []
  | .deinit, answer => answer = .ok []
  | .read region offset len, answer =>
    answer = store.access region offset len
      ((List.range len).map fun index => store.bytes region (offset + index))
  | .write region offset written, answer =>
    answer = store.access region offset written.length []
  | .erase _, answer => answer = if store.isOpen then .ok [] else .error .error

/-! ### Bytes of a region -/

/-- The bytes of a region, with those `calloc` would give it where it has none. -/
def HalFlash.contents (flash : HalFlash) (region : HalFlashRegion) : List UInt8 :=
  (flash.data region).getD (List.replicate (flashSizes region) 0x00)

/-- The bytes of a region as a list. -/
def StoredFlash.listed (store : StoredFlash) (region : HalFlashRegion) : List UInt8 :=
  (List.range (flashSizes region)).map (store.bytes region)

theorem getElem?_map_range (value : Nat → UInt8) (size place : Nat) :
    ((List.range size).map value)[place]? = if place < size then some (value place) else none := by
  rw [List.getElem?_map]
  by_cases inside : place < size
  · rw [List.getElem?_range inside, if_pos inside, Option.map_some]
  · rw [List.getElem?_eq_none (by rw [List.length_range]; exact Nat.le_of_not_lt inside),
      if_neg inside, Option.map_none]

/-- A part of a listed region is the list of its places. -/
theorem take_drop_map_range (value : Nat → UInt8) {size offset len : Nat}
    (inside : offset + len ≤ size) :
    (((List.range size).map value).drop offset).take len =
      (List.range len).map fun index => value (offset + index) := by
  refine List.ext_getElem? fun index => ?_
  rw [List.getElem?_take, List.getElem?_drop, getElem?_map_range, getElem?_map_range]
  by_cases below : index < len
  · rw [if_pos below, if_pos below, if_pos (by omega)]
  · rw [if_neg below, if_neg below]

/-- Writing into a listed region is writing to its places. -/
theorem spliceBytes_map_range (value : Nat → UInt8) {size offset : Nat} {written : List UInt8}
    (inside : offset + written.length ≤ size) :
    spliceBytes ((List.range size).map value) offset written =
      (List.range size).map (storedAfterWrite value offset written) := by
  have length : ((List.range size).map value).length = size := by
    rw [List.length_map, List.length_range]
  have front : (((List.range size).map value).take offset).length = offset := by
    rw [List.length_take, length]
    omega
  refine List.ext_getElem? fun place => ?_
  rw [spliceBytes, getElem?_map_range, List.append_assoc]
  unfold storedAfterWrite
  by_cases before : place < offset
  · rw [List.getElem?_append_left (by rw [front]; exact before), List.getElem?_take_of_lt before,
      getElem?_map_range, if_neg (Nat.not_le.mpr before)]
  · have reached := Nat.le_of_not_lt before
    rw [List.getElem?_append_right (by rw [front]; exact reached), front, if_pos reached]
    by_cases covered : place - offset < written.length
    · rw [List.getElem?_append_left covered, if_pos (by omega), List.getD_eq_getElem?_getD,
        List.getElem?_eq_getElem covered, Option.getD_some]
    · have beyond := Nat.le_of_not_lt covered
      rw [List.getElem?_append_right beyond, List.getElem?_drop, getElem?_map_range,
        List.getD_eq_default _ _ beyond]
      have same : offset + written.length + (place - offset - written.length) = place := by omega
      rw [same]

/-! ### Opening the flash -/

theorem HalFlash.allocate_data (flash : HalFlash) (region other : HalFlashRegion) :
    (flash.allocate region).data other =
      if other = region then some (List.replicate (flashSizes region) 0x00)
      else flash.data other := by
  by_cases same : other = region
  · subst same
    rw [if_pos rfl]
    exact Function.update_self _ _ _
  · rw [if_neg same]
    exact Function.update_of_ne same _ _

theorem HalFlash.contents_allocate {flash : HalFlash} {region : HalFlashRegion}
    (missing : (flash.data region).isSome = false) :
    (flash.allocate region).contents = flash.contents := by
  funext other
  have empty : flash.data region = none := by
    rwa [Option.isSome_eq_false_iff, Option.isNone_iff_eq_none] at missing
  rw [contents, contents, allocate_data]
  by_cases same : other = region
  · rw [if_pos same, same, empty]
    rfl
  · rw [if_neg same]

/-- Opening the flash shows a caller no other bytes. -/
theorem contents_halFlashInitFrom (memory : HalFlashRegion → Bool) (flash : HalFlash)
    (regions : List HalFlashRegion) :
    (halFlashInitFrom memory flash regions).1.contents = flash.contents := by
  induction regions generalizing flash with
  | nil => rfl
  | cons region rest inductionHypothesis =>
    rw [halFlashInitFrom]
    cases present : (flash.data region).isSome with
    | true => exact inductionHypothesis flash
    | false =>
      rw [if_neg Bool.false_ne_true]
      cases memory region with
      | true => exact (inductionHypothesis _).trans (HalFlash.contents_allocate present)
      | false => rfl

/-- A flash whose regions all have memory opens without asking for more. -/
theorem halFlashInitFrom_of_ready (memory : HalFlashRegion → Bool) {flash : HalFlash}
    (ready : ∀ region, (flash.data region).isSome = true) (regions : List HalFlashRegion) :
    halFlashInitFrom memory flash regions = ({ flash with initialized := true }, .ok) := by
  induction regions with
  | nil => rfl
  | cons region rest inductionHypothesis =>
    rw [halFlashInitFrom, if_pos (ready region), inductionHypothesis]

/-- When there is memory for every region, the flash opens. -/
theorem halFlashInitFrom_of_memory {memory : HalFlashRegion → Bool}
    (enough : ∀ region, memory region = true) (flash : HalFlash) (regions : List HalFlashRegion) :
    (halFlashInitFrom memory flash regions).2 = .ok := by
  induction regions generalizing flash with
  | nil => rfl
  | cons region rest inductionHypothesis =>
    rw [halFlashInitFrom]
    cases (flash.data region).isSome with
    | true => exact inductionHypothesis flash
    | false =>
      rw [if_neg Bool.false_ne_true, if_pos (enough region)]
      exact inductionHypothesis _

/-- A region that has memory keeps it. -/
theorem halFlashInitFrom_keeps (memory : HalFlashRegion → Bool) {flash : HalFlash}
    {region : HalFlashRegion} (present : (flash.data region).isSome = true)
    (regions : List HalFlashRegion) :
    ((halFlashInitFrom memory flash regions).1.data region).isSome = true := by
  induction regions generalizing flash with
  | nil => exact present
  | cons next rest inductionHypothesis =>
    rw [halFlashInitFrom]
    cases (flash.data next).isSome with
    | true => exact inductionHypothesis present
    | false =>
      rw [if_neg Bool.false_ne_true]
      cases memory next with
      | true =>
        refine inductionHypothesis ?_
        rw [HalFlash.allocate_data]
        split
        · rfl
        · exact present
      | false => exact present

/-- A flash that opens has memory for every region that the loop has gone over. -/
theorem ready_of_halFlashInitFrom {memory : HalFlashRegion → Bool} {flash : HalFlash}
    {regions : List HalFlashRegion} (opened : (halFlashInitFrom memory flash regions).2 = .ok)
    {region : HalFlashRegion} (member : region ∈ regions) :
    ((halFlashInitFrom memory flash regions).1.data region).isSome = true := by
  induction regions generalizing flash with
  | nil => exact absurd member List.not_mem_nil
  | cons next rest inductionHypothesis =>
    rw [halFlashInitFrom] at opened ⊢
    cases present : (flash.data next).isSome with
    | true =>
      rw [present, if_pos rfl] at opened
      rw [if_pos rfl]
      rcases List.mem_cons.mp member with rfl | later
      · exact halFlashInitFrom_keeps memory present rest
      · exact inductionHypothesis opened later
    | false =>
      rw [present, if_neg Bool.false_ne_true] at opened
      rw [if_neg Bool.false_ne_true]
      cases found : memory next with
      | true =>
        rw [found, if_pos rfl] at opened
        rw [if_pos rfl]
        rcases List.mem_cons.mp member with rfl | later
        · refine halFlashInitFrom_keeps memory ?_ rest
          rw [HalFlash.allocate_data, if_pos rfl]
          rfl
        · exact inductionHypothesis opened later
      | false =>
        rw [found, if_neg Bool.false_ne_true] at opened
        exact absurd opened (show SmartQsoResult.errorNoMem ≠ .ok by decide)

/-- A flash is open afterwards when it opens, or when it was open before. -/
theorem halFlashInitFrom_initialized (memory : HalFlashRegion → Bool) (flash : HalFlash)
    (regions : List HalFlashRegion) :
    (halFlashInitFrom memory flash regions).1.initialized =
      (decide ((halFlashInitFrom memory flash regions).2 = .ok) || flash.initialized) := by
  induction regions generalizing flash with
  | nil => rfl
  | cons region rest inductionHypothesis =>
    rw [halFlashInitFrom]
    cases (flash.data region).isSome with
    | true => exact inductionHypothesis flash
    | false =>
      rw [if_neg Bool.false_ne_true]
      cases memory region with
      | true => exact inductionHypothesis _
      | false => rfl

/-- With memory for every region, the loop gives its bytes to each region it goes over. -/
theorem halFlashInitFrom_data {memory : HalFlashRegion → Bool}
    (enough : ∀ region, memory region = true) (flash : HalFlash) (regions : List HalFlashRegion)
    (other : HalFlashRegion) :
    (halFlashInitFrom memory flash regions).1.data other =
      if other ∈ regions then some (flash.contents other) else flash.data other := by
  induction regions generalizing flash with
  | nil => rw [if_neg List.not_mem_nil, halFlashInitFrom]
  | cons region rest inductionHypothesis =>
    rw [halFlashInitFrom]
    cases present : (flash.data region).isSome with
    | true =>
      rw [if_pos rfl, inductionHypothesis]
      by_cases same : other = region
      · obtain ⟨bytes, found⟩ := Option.isSome_iff_exists.mp present
        rw [same, if_pos List.mem_cons_self, HalFlash.contents, found, Option.getD_some, ite_self]
      · simp only [List.mem_cons, same, false_or]
    | false =>
      rw [if_neg Bool.false_ne_true, if_pos (enough region), inductionHypothesis,
        HalFlash.contents_allocate present, HalFlash.allocate_data]
      by_cases same : other = region
      · have empty : flash.data region = none := by
          rwa [Option.isSome_eq_false_iff, Option.isNone_iff_eq_none] at present
        rw [same, if_pos List.mem_cons_self, if_pos rfl, HalFlash.contents, empty,
          Option.getD_none, ite_self]
      · simp only [List.mem_cons, same, false_or, if_false]

/-- With memory for every region, the loop is the initialization of the whole array. -/
theorem halFlashInitFrom_all {memory : HalFlashRegion → Bool}
    (enough : ∀ region, memory region = true) (flash : HalFlash) :
    halFlashInitFrom memory flash HalFlashRegion.all = (halFlashInit flash, .ok) := by
  have opened := halFlashInitFrom_of_memory enough flash HalFlashRegion.all
  have initialized := halFlashInitFrom_initialized memory flash HalFlashRegion.all
  have data : (halFlashInitFrom memory flash HalFlashRegion.all).1.data =
      (halFlashInit flash).data := by
    funext region
    rw [halFlashInitFrom_data enough, if_pos region.mem_all, HalFlash.contents, halFlashInit]
    dsimp only
    cases flash.data region <;> rfl
  rw [opened, decide_eq_true rfl, Bool.true_or] at initialized
  generalize halFlashInitFrom memory flash HalFlashRegion.all = done at opened initialized data
  obtain ⟨⟨flag, regions⟩, result⟩ := done
  subst opened initialized data
  rfl

/-! ### The invariant -/

/-- The flash holds what the record says. -/
structure HalFlash.Holds (flash : HalFlash) (store : StoredFlash) : Prop where
  isOpen : flash.initialized = store.isOpen
  ready : flash.initialized = true → ∀ region, (flash.data region).isSome = true
  contents : flash.contents = store.listed

theorem HalFlash.boot_holds : HalFlash.boot.Holds .closed where
  isOpen := rfl
  ready opened := absurd opened Bool.false_ne_true
  contents := by
    funext region
    refine List.ext_getElem? fun place => ?_
    rw [StoredFlash.listed, getElem?_map_range]
    exact List.getElem?_replicate

section

variable {flash : HalFlash} {store : StoredFlash}

/-- An open region has its bytes in memory. -/
theorem HalFlash.Holds.data_eq (holds : flash.Holds store) (opened : flash.initialized = true)
    (region : HalFlashRegion) : flash.data region = some (store.listed region) := by
  obtain ⟨bytes, present⟩ := Option.isSome_iff_exists.mp (holds.ready opened region)
  have listed := congrFun holds.contents region
  rw [HalFlash.contents, present, Option.getD_some] at listed
  rw [present, listed]

/-- A read answers with the places of the record. -/
theorem HalFlash.Holds.read (holds : flash.Holds store) (region : HalFlashRegion)
    (offset len : Nat) :
    halFlashRead flash region offset len =
      store.access region offset len
        ((List.range len).map fun index => store.bytes region (offset + index)) := by
  rw [halFlashRead, StoredFlash.access, ← holds.isOpen]
  cases opened : flash.initialized with
  | false => rfl
  | true =>
    rw [holds.data_eq opened region, Option.getD_some, StoredFlash.listed]
    by_cases outside : offset + len > flashSizes region
    · rw [if_pos outside, if_pos outside]
    · rw [if_neg outside, if_neg outside, take_drop_map_range _ (Nat.le_of_not_lt outside)]

/-- A write answers as it is foretold, and is written down. -/
theorem HalFlash.Holds.write (holds : flash.Holds store) (region : HalFlashRegion) (offset : Nat)
    (written : List UInt8) :
    resultAnswer (halFlashWrite flash region offset written).2 =
        store.access region offset written.length [] ∧
      (halFlashWrite flash region offset written).1.Holds
        (store.record (.write region offset written,
          resultAnswer (halFlashWrite flash region offset written).2)) := by
  rw [halFlashWrite, StoredFlash.access, ← holds.isOpen]
  cases opened : flash.initialized with
  | false => exact ⟨rfl, holds⟩
  | true =>
    by_cases outside : offset + written.length > flashSizes region
    · rw [if_pos outside, if_pos outside]
      exact ⟨rfl, holds⟩
    · rw [if_neg outside, if_neg outside]
      refine ⟨rfl, ⟨opened.symm.trans holds.isOpen, fun _ other => ?_, funext fun other => ?_⟩⟩
      · show (if other = region then (flash.data region).map _ else flash.data other).isSome = true
        split
        · rw [Option.isSome_map]
          exact holds.ready opened region
        · exact holds.ready opened other
      · show (if other = region then (flash.data region).map _ else flash.data other).getD _ =
          (List.range (flashSizes other)).map
            (Function.update store.bytes region
              (storedAfterWrite (store.bytes region) offset written) other)
        by_cases same : other = region
        · subst same
          rw [if_pos rfl, Function.update_self, holds.data_eq opened other, Option.map_some,
            Option.getD_some, StoredFlash.listed,
            spliceBytes_map_range _ (Nat.le_of_not_lt outside)]
        · rw [if_neg same, Function.update_of_ne same]
          exact congrFun holds.contents other

/-- An erasure answers as it is foretold, and is written down. -/
theorem HalFlash.Holds.erase (holds : flash.Holds store) (region : HalFlashRegion) :
    resultAnswer (halFlashErase flash region).2 =
        (if store.isOpen then .ok [] else .error .error) ∧
      (halFlashErase flash region).1.Holds
        (store.record (.erase region, resultAnswer (halFlashErase flash region).2)) := by
  rw [halFlashErase, ← holds.isOpen]
  cases opened : flash.initialized with
  | false => exact ⟨rfl, holds⟩
  | true =>
    refine ⟨rfl, ⟨opened.symm.trans holds.isOpen, fun _ other => ?_, funext fun other => ?_⟩⟩
    · show (if other = region then some _ else flash.data other).isSome = true
      split
      · rfl
      · exact holds.ready opened other
    · show (if other = region then some _ else flash.data other).getD _ =
        (List.range (flashSizes other)).map
          (Function.update store.bytes region (fun _ => 0xFF) other)
      by_cases same : other = region
      · subst same
        rw [if_pos rfl, Function.update_self, Option.getD_some]
        refine List.ext_getElem? fun place => ?_
        rw [getElem?_map_range]
        exact List.getElem?_replicate
      · rw [if_neg same, Function.update_of_ne same]
        exact congrFun holds.contents other

/-- Opening the flash answers as it is foretold, and is written down. -/
theorem HalFlash.Holds.init (holds : flash.Holds store) (memory : HalFlashRegion → Bool) :
    (store.isOpen = true ∨ (∀ region, memory region = true) →
        resultAnswer (halFlashInitFrom memory flash HalFlashRegion.all).2 = .ok []) ∧
      (halFlashInitFrom memory flash HalFlashRegion.all).1.Holds
        (store.record (.init memory,
          resultAnswer (halFlashInitFrom memory flash HalFlashRegion.all).2)) := by
  have initialized := halFlashInitFrom_initialized memory flash HalFlashRegion.all
  have contents := contents_halFlashInitFrom memory flash HalFlashRegion.all
  constructor
  · rintro (opened | enough)
    · rw [halFlashInitFrom_of_ready memory (holds.ready (holds.isOpen.trans opened))]
      rfl
    · rw [halFlashInitFrom_of_memory enough]
      rfl
  · by_cases opened : (halFlashInitFrom memory flash HalFlashRegion.all).2 = .ok
    · rw [decide_eq_true opened, Bool.true_or] at initialized
      rw [resultAnswer, if_pos opened]
      exact ⟨initialized, fun _ region => ready_of_halFlashInitFrom opened region.mem_all,
        contents.trans holds.contents⟩
    · rw [decide_eq_false opened, Bool.false_or] at initialized
      rw [resultAnswer, if_neg opened]
      refine ⟨initialized.trans holds.isOpen, fun before region => ?_,
        contents.trans holds.contents⟩
      exact halFlashInitFrom_keeps memory (holds.ready (initialized.symm.trans before) region) _

/-- Every call answers as the record foretells, and the record keeps up with it. -/
theorem HalFlash.Holds.answer (holds : flash.Holds store) (call : FlashCall) :
    store.Foretells call (answerFlashCall flash call).2 ∧
      (answerFlashCall flash call).1.Holds
        (store.record (call, (answerFlashCall flash call).2)) := by
  cases call with
  | init memory => exact holds.init memory
  | deinit => exact ⟨rfl, HalFlash.boot_holds⟩
  | read region offset len =>
    refine ⟨holds.read region offset len, ?_⟩
    show flash.Holds (store.record (_, halFlashRead flash region offset len))
    cases halFlashRead flash region offset len <;> exact holds
  | write region offset written => exact holds.write region offset written
  | erase region => exact holds.erase region

end

/-- In every history, every call is answered as the record of the calls before it foretells. -/
theorem flashTrace_foretold (calls : List FlashCall) :
    Runs.EachStep StoredFlash.record (fun store entry => store.Foretells entry.1 entry.2)
      .closed (flashTrace .boot calls) := by
  suffices general : ∀ (flash : HalFlash) (store : StoredFlash), flash.Holds store →
      Runs.EachStep StoredFlash.record (fun store entry => store.Foretells entry.1 entry.2)
        store (flashTrace flash calls) from general _ _ HalFlash.boot_holds
  induction calls with
  | nil => exact fun _ _ _ => trivial
  | cons call rest inductionHypothesis =>
    intro flash store holds
    obtain ⟨foretold, kept⟩ := holds.answer call
    exact ⟨foretold, inductionHypothesis _ _ kept⟩

end SmartQso
