/-
This file models the copy and the concatenation of strings of `safe_string.c` in a memory of
which only some cells may be accessed. What they leave in a destination is the text that
should be there, cut to the size of the destination.
-/

import SmartQso.CheckedMemory
import SmartQso.CStrings
import SmartQso.Types

namespace SmartQso

open CheckedMemory CStrings

/-! ### The functions -/

/-- What a function of `safe_string.c` leaves: its result, the memory, and the number at its last
pointer, if that is not null. -/
structure StringOutcome where
  result : SmartQsoResult
  memory : Memory UInt8
  reported : Option Nat

/-- The copy loop of `safe_strcpy` and `safe_strcat`, with the room that is left. -/
def copyCharacters (dest src : Nat) : Nat → Nat → Memory UInt8 → Option (Nat × Memory UInt8)
  | 0, copied, memory => some (copied, memory)
  | room + 1, copied, memory => do
    let character ← memory (src + copied)
    if character ≠ 0 then
      let memory ← store memory (dest + copied) character
      copyCharacters dest src room (copied + 1) memory
    else some (copied, memory)

/-- What `safe_strcpy` and `safe_strcat` share: a string is copied behind the characters that stay,
it is terminated, and all of them are reported. -/
def copyBehind (memory : Memory UInt8) (dest stay room src : Nat) (reported : Option Nat) :
    Option StringOutcome := do
  let copy ← copyCharacters (dest + stay) src room 0 memory
  let memory ← store copy.2 (dest + stay + copy.1) 0
  let next ← memory (src + copy.1)
  some
    { result := if next ≠ 0 then .errorTruncated else .ok
      memory := memory
      reported := reported.map fun _ => stay + copy.1 }

/-- `safe_strcpy`. -/
def safeStrcpy (memory : Memory UInt8) (dest : Option Nat) (destSize : Nat) (src : Option Nat)
    (charsCopied : Option Nat) : Option StringOutcome :=
  match dest, src with
  | some dest, some src =>
    if destSize = 0 then some ⟨.errorParam, memory, charsCopied⟩
    else copyBehind memory dest 0 (destSize - 1) src charsCopied
  | _, _ => some ⟨.errorParam, memory, charsCopied⟩

/-- The loop of `safe_strcat` that finds the end of the destination, with the cells that are
left. -/
def findEnd (memory : Memory UInt8) (dest : Nat) : Nat → Nat → Option Nat
  | 0, destLen => some destLen
  | left + 1, destLen => do
    let character ← memory (dest + destLen)
    if character ≠ 0 then findEnd memory dest left (destLen + 1) else some destLen

/-- `safe_strcat`. -/
def safeStrcat (memory : Memory UInt8) (dest : Option Nat) (destSize : Nat) (src : Option Nat)
    (totalLength : Option Nat) : Option StringOutcome :=
  match dest, src with
  | some dest, some src =>
    if destSize = 0 then some ⟨.errorParam, memory, totalLength⟩
    else do
      let destLen ← findEnd memory dest destSize 0
      if destLen ≥ destSize then some ⟨.errorParam, memory, totalLength⟩
      else copyBehind memory dest destLen (destSize - destLen - 1) src totalLength
  | _, _ => some ⟨.errorParam, memory, totalLength⟩

/-! ### Their effects -/

/-- A text in a destination of a size: as many of its characters as fit, their terminator and their
number. -/
def boundedText (memory : Memory UInt8) (dest destSize : Nat) (text : List UInt8)
    (reported : Option Nat) : StringOutcome where
  result := if text.length < destSize then .ok else .errorTruncated
  memory := written memory dest (text.take (destSize - 1) ++ [0])
  reported := reported.map fun _ => (text.take (destSize - 1)).length

/-- A string in memory, with its terminator. -/
def terminated (text : Text) : List UInt8 := text.characters ++ [0]

/-- A destination of a size and a source that has no cell in common with it. -/
structure StringCall (memory : Memory UInt8) (dest : Nat) (buffer : List UInt8) (src : Nat)
    (source : Text) : Prop where
  atDest : Contains memory dest buffer
  atSrc : Contains memory src (terminated source)
  apart : Apart dest buffer.length src (terminated source).length

section

variable {memory : Memory UInt8} {dest src : Nat}

/-- The loop copies as many characters as there is room for. -/
theorem copyCharacters_eq {room copied : Nat} {source : List UInt8} (plain : 0 ∉ source)
    (contains : Contains memory (src + copied) (source ++ [0]))
    (accessible : Accessible memory (dest + copied) room)
    (apart : Apart (dest + copied) room (src + copied) (source ++ [0]).length) :
    copyCharacters dest src room copied memory =
      some (copied + (source.take room).length,
        written memory (dest + copied) (source.take room)) := by
  induction room generalizing copied source memory with
  | zero =>
    rw [List.take_zero, written_nil]
    rfl
  | succ room inductionHypothesis =>
    cases source with
    | nil =>
      have ended : memory (src + copied) = some 0 := contains_singleton.mp contains
      rw [copyCharacters, ended, List.take_nil, written_nil]
      rfl
    | cons character rest =>
      obtain ⟨nonzero, restPlain⟩ := not_or.mp (mt List.mem_cons.mpr plain)
      obtain ⟨read, behind⟩ := contains_cons.mp contains
      have cell : (memory (dest + copied)).isSome = true := accessible 0 (Nat.zero_lt_succ room)
      have left : Accessible (written memory (dest + copied) [character]) (dest + (copied + 1))
          room :=
        (accessible.part (Nat.le_of_eq (Nat.add_comm 1 room))).kept
      have size : (character :: rest ++ [0]).length = (rest ++ [0]).length + 1 := rfl
      rw [size] at apart
      have further : Apart (dest + (copied + 1)) room (src + (copied + 1)) (rest ++ [0]).length :=
        apart.part (by omega) (by omega) (by omega) (by omega)
      have cellApart : Apart (dest + copied) [character].length (src + copied + 1)
          (rest ++ [0]).length :=
        apart.part (Nat.le_refl _) (by rw [List.length_singleton]; omega) (Nat.le_add_right _ _)
          (by omega)
      have unread : Contains (written memory (dest + copied) [character]) (src + (copied + 1))
          (rest ++ [0]) := behind.written_apart cellApart
      rw [copyCharacters, read, Option.bind_eq_bind, Option.bind_some, if_pos (Ne.symm nonzero),
        store_eq cell, Option.bind_eq_bind, Option.bind_some,
        inductionHypothesis restPlain unread left further, List.take_succ_cons, List.length_cons]
      refine congrArg some (Prod.ext (by omega) ?_)
      exact (written_append [character] (rest.take room)).symm

/-- The character behind a copy is the terminator exactly when there was room for all. -/
theorem terminated_next (source : Text) (room : Nat) :
    ∃ next, (terminated source)[(source.characters.take room).length]? = some next ∧
      (next = 0 ↔ source.characters.length ≤ room) := by
  by_cases fits : source.characters.length ≤ room
  · rw [List.take_of_length_le fits]
    exact ⟨0, List.getElem?_concat_length, iff_of_true rfl fits⟩
  · have inside : room < source.characters.length := Nat.lt_of_not_le fits
    refine ⟨source.characters[room], ?_, iff_of_false (fun zero => ?_) fits⟩
    · rw [List.length_take_of_le (Nat.le_of_lt inside), terminated,
        List.getElem?_append_left inside, List.getElem?_eq_getElem inside]
    · exact source.plain (zero ▸ List.getElem_mem inside)

/-- The rest of a copy: the terminator, and the look at the character that comes next. -/
theorem copyBehind_eq {stay room : Nat} {source : Text}
    (contains : Contains memory src (terminated source))
    (accessible : Accessible memory (dest + stay) (room + 1))
    (apart : Apart (dest + stay) (room + 1) src (terminated source).length)
    (reported : Option Nat) :
    copyBehind memory dest stay room src reported = some
      { result := if source.characters.length ≤ room then .ok else .errorTruncated
        memory := written memory (dest + stay) (source.characters.take room ++ [0])
        reported := reported.map fun _ => stay + (source.characters.take room).length } := by
  have copied : copyCharacters (dest + stay) src room 0 memory =
      some (0 + (source.characters.take room).length,
        written memory (dest + stay) (source.characters.take room)) :=
    copyCharacters_eq source.plain contains
      (fun index inside => accessible index (Nat.lt_succ_of_lt inside))
      (apart.part (Nat.le_refl _) (Nat.le_succ _) (Nat.le_refl _) (Nat.le_refl _))
  have few : (source.characters.take room).length ≤ room := List.length_take_le _ _
  have cell : (written memory (dest + stay) (source.characters.take room)
      (dest + stay + (source.characters.take room).length)).isSome = true :=
    isSome_written (accessible _ (Nat.lt_succ_of_le few))
  have unread : Contains (written memory (dest + stay) (source.characters.take room ++ [0])) src
      (terminated source) := by
    refine contains.written_apart (apart.part (Nat.le_refl _) ?_ (Nat.le_refl _) (Nat.le_refl _))
    rw [List.length_append, List.length_singleton]
    omega
  rw [copyBehind, copied, Option.bind_eq_bind, Option.bind_some, Nat.zero_add, store_eq cell,
    Option.bind_eq_bind, Option.bind_some, ← written_append]
  obtain ⟨next, behind, ended⟩ := terminated_next source room
  have inside : (source.characters.take room).length < (terminated source).length :=
    (List.getElem?_eq_some_iff.mp behind).1
  rw [unread _ inside, behind, Option.bind_eq_bind, Option.bind_some]
  refine congrArg some ?_
  rw [StringOutcome.mk.injEq]
  refine ⟨?_, rfl, rfl⟩
  by_cases fits : source.characters.length ≤ room
  · rw [if_neg (not_not_intro (ended.mpr fits)), if_pos fits]
  · rw [if_pos (mt ended.mp fits), if_neg fits]

/-- The search stops at the first terminator, or behind the destination when it has none. -/
theorem findEnd_eq {buffer : List UInt8} {destLen : Nat}
    (contains : Contains memory (dest + destLen) buffer) :
    findEnd memory dest buffer.length destLen =
      some (destLen + (buffer.takeWhile (· != 0)).length) := by
  induction buffer generalizing destLen with
  | nil => rfl
  | cons character rest inductionHypothesis =>
    obtain ⟨read, behind⟩ := contains_cons.mp contains
    rw [List.length_cons, findEnd, read, Option.bind_eq_bind, Option.bind_some]
    by_cases ended : character = 0
    · subst ended
      rw [if_neg (not_not_intro rfl), List.takeWhile_cons_of_neg (by decide)]
      rfl
    · have more : (character != 0) = true := bne_iff_ne.mpr ended
      rw [if_pos ended, inductionHypothesis behind, List.takeWhile_cons, if_pos more,
        List.length_cons]
      exact congrArg some (by omega)

/-- A string is copied into a destination. -/
theorem safeStrcpy_eq {buffer : List UInt8} {source : Text}
    (call : StringCall memory dest buffer src source) (room : buffer ≠ [])
    (charsCopied : Option Nat) :
    safeStrcpy memory (some dest) buffer.length (some src) charsCopied =
      some (boundedText memory dest buffer.length source.characters charsCopied) := by
  obtain ⟨atDest, atSrc, apart⟩ := call
  have accessible := atDest.accessible
  obtain ⟨last, size⟩ := Nat.exists_eq_succ_of_ne_zero (List.length_pos_iff.mpr room).ne'
  rw [size] at accessible apart ⊢
  have cells : Accessible memory (dest + 0) (last + 1) := accessible
  have away : Apart (dest + 0) (last + 1) src (terminated source).length := apart
  have copied := copyBehind_eq atSrc cells away charsCopied
  dsimp only [safeStrcpy]
  rw [if_neg (Nat.succ_ne_zero last), Nat.succ_sub_one, copied]
  simp only [boundedText, Nat.succ_sub_one, Nat.lt_succ_iff, Nat.zero_add, Nat.add_zero]

/-- A string is copied behind the one in a destination. -/
theorem safeStrcat_eq {held source : Text} {rest : List UInt8}
    (call : StringCall memory dest (terminated held ++ rest) src source)
    (totalLength : Option Nat) :
    safeStrcat memory (some dest) (terminated held ++ rest).length (some src) totalLength =
      some (boundedText memory dest (terminated held ++ rest).length
        (held.characters ++ source.characters) totalLength) := by
  obtain ⟨atDest, atSrc, apart⟩ := call
  have size : (terminated held ++ rest).length = held.characters.length + rest.length + 1 := by
    rw [List.length_append, terminated, List.length_append, List.length_singleton,
      Nat.add_right_comm]
  have accessible := atDest.accessible
  obtain ⟨whole, _⟩ := contains_append.mp atDest
  have kept : written memory dest held.characters = memory :=
    (contains_append.mp whole).1.written_eq
  rw [size] at accessible apart ⊢
  have searched := @findEnd_eq memory dest _ 0 atDest
  rw [size, terminated, List.append_assoc, List.singleton_append, held.takeWhile_terminated]
    at searched
  have copied : copyBehind memory dest held.characters.length rest.length src totalLength = _ :=
    copyBehind_eq atSrc (accessible.part (by omega))
      (apart.part (Nat.le_add_right _ _) (by omega) (Nat.le_refl _) (Nat.le_refl _)) totalLength
  have left : held.characters.length + rest.length + 1 - held.characters.length - 1 =
      rest.length := by
    omega
  dsimp only [safeStrcat]
  rw [if_neg (Nat.succ_ne_zero _), searched, Option.bind_eq_bind, Option.bind_some, Nat.zero_add,
    if_neg (by omega), left, copied]
  have fits : source.characters.length ≤ rest.length ↔
      held.characters.length + source.characters.length <
        held.characters.length + rest.length + 1 := by
    omega
  simp only [boundedText, fits, List.length_append, Nat.add_sub_cancel,
    List.take_length_add_append, List.append_assoc]
  have placed : written memory dest
      (held.characters ++ (source.characters.take rest.length ++ [0])) =
      written memory (dest + held.characters.length)
        (source.characters.take rest.length ++ [0]) := by
    rw [written_append, kept]
  rw [placed]

/-- Nothing is done to a destination without a terminator. -/
theorem safeStrcat_unterminated {buffer : List UInt8} (unterminated : 0 ∉ buffer)
    (contains : Contains memory dest buffer) (totalLength : Option Nat) :
    safeStrcat memory (some dest) buffer.length (some src) totalLength =
      some ⟨.errorParam, memory, totalLength⟩ := by
  by_cases empty : buffer.length = 0
  · exact if_pos empty
  · have searched := @findEnd_eq memory dest buffer 0 contains
    rw [takeWhile_plain unterminated] at searched
    dsimp only [safeStrcat]
    rw [if_neg empty, searched, Option.bind_eq_bind, Option.bind_some, Nat.zero_add,
      if_pos (Nat.le_refl _)]

/-- Nothing outside a destination is written. -/
theorem boundedText_outside {destSize place : Nat} (positive : 0 < destSize)
    (outside : place < dest ∨ dest + destSize ≤ place) (text : List UInt8)
    (reported : Option Nat) :
    (boundedText memory dest destSize text reported).memory place = memory place := by
  have few : (text.take (destSize - 1)).length ≤ destSize - 1 := List.length_take_le _ _
  refine written_outside (outside.imp_right fun behind => ?_)
  rw [List.length_append, List.length_singleton]
  omega

/-- The concatenation of a string to the one in a destination leaves both there, as far as they fit,
with their terminator and number; the copy does the same with the source alone. A destination
without a terminator stays as it is. All of this holds in any memory in which the destination and
the source may be accessed, also when nothing else may be: what is behind the destination is neither
read nor written. -/
theorem bounded_concatenation {buffer : List UInt8} {source : Text}
    (call : StringCall memory dest buffer src source) (reported : Option Nat) :
    (∀ (held : Text) (rest : List UInt8), buffer = terminated held ++ rest →
      safeStrcat memory (some dest) buffer.length (some src) reported =
        some (boundedText memory dest buffer.length (held.characters ++ source.characters)
          reported)) ∧
    (0 ∉ buffer →
      safeStrcat memory (some dest) buffer.length (some src) reported =
        some ⟨.errorParam, memory, reported⟩) ∧
    safeStrcpy memory (some dest) buffer.length (some src) reported =
      some (if buffer = [] then ⟨.errorParam, memory, reported⟩
        else boundedText memory dest buffer.length source.characters reported) ∧
    ∀ text place, 0 < buffer.length → (place < dest ∨ dest + buffer.length ≤ place) →
      (boundedText memory dest buffer.length text reported).memory place = memory place := by
  refine ⟨?_, fun unterminated => safeStrcat_unterminated unterminated call.atDest reported, ?_,
    fun text place room outside => boundedText_outside room outside text reported⟩
  · rintro held rest rfl
    exact safeStrcat_eq call reported
  · by_cases empty : buffer = []
    · rw [if_pos empty, empty]
      rfl
    · rw [if_neg empty]
      exact safeStrcpy_eq call empty reported

end

/-- A string of two characters in an array of six. -/
def sampleBuffer : List UInt8 := [0x4F, 0x4B, 0, 0xFF, 0xFF, 0xFF]

/-- A string of four characters. -/
def sampleSource : Text where
  characters := [0x2D, 0x31, 0x32, 0x33]
  plain := by decide

/-- The two in a memory in which nothing else may be accessed. -/
def sampleMemory : Memory UInt8 :=
  written (block 0x100 sampleBuffer) 0x200 (terminated sampleSource)

theorem sampleCall : StringCall sampleMemory 0x100 sampleBuffer 0x200 sampleSource where
  atDest := by
    refine Contains.written_apart contains_written fun place reaches _ inBuffer => ?_
    have within : place < 0x100 + 6 := inBuffer.2
    omega
  atSrc := contains_written
  apart := by
    intro place _ within inSource
    have inside : place < 0x100 + 6 := within
    omega

/-- One of the four characters does not fit. -/
theorem bounded_concatenation_sample :
    safeStrcat sampleMemory (some 0x100) 6 (some 0x200) (some 0) =
      some (boundedText sampleMemory 0x100 6 ([0x4F, 0x4B] ++ [0x2D, 0x31, 0x32, 0x33]) (some 0)) :=
  (bounded_concatenation sampleCall (some 0)).1 ⟨[0x4F, 0x4B], by decide⟩ [0xFF, 0xFF, 0xFF] rfl

end SmartQso
