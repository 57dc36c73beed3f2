/-
This file models the block copies of `safe_string.c` in a flat memory: an address is a
number, a pointer that is not there is `NULL`. One function refuses blocks that overlap,
the other one picks the direction of the copy by the order of the two addresses.
-/

import SmartQso.BlockCopies
import SmartQso.Types

namespace SmartQso

open BlockCopies

/-! ### The functions -/

/-- `safe_memcpy`. -/
def safeMemcpy (memory : Nat → UInt8) (dest : Option Nat) (destSize : Nat) (src : Option Nat)
    (count : Nat) : SmartQsoResult × (Nat → UInt8) :=
  match dest, src with
  | some d, some s =>
    if count > destSize then (.errorParam, memory)
    else if d ≥ s ∧ d < s + count ∨ s ≥ d ∧ s < d + count then (.errorParam, memory)
    else (.ok, copyForward d s count memory)
  | _, _ => (.errorParam, memory)

/-- `safe_memmove`. -/
def safeMemmove (memory : Nat → UInt8) (dest : Option Nat) (destSize : Nat) (src : Option Nat)
    (count : Nat) : SmartQsoResult × (Nat → UInt8) :=
  match dest, src with
  | some d, some s =>
    if count > destSize then (.errorParam, memory)
    else if d < s then (.ok, copyForward d s count memory)
    else if d > s then (.ok, copyBackward d s count memory)
    else (.ok, memory)
  | _, _ => (.errorParam, memory)

/-! ### Their effects -/

/-- Two blocks of one length share a byte. -/
def Overlap (dest src count : Nat) : Prop :=
  ∃ place, (dest ≤ place ∧ place < dest + count) ∧ src ≤ place ∧ place < src + count

/-- The comparison of the addresses finds every overlap and nothing else. -/
theorem overlap_iff (dest src count : Nat) :
    Overlap dest src count ↔
      dest ≥ src ∧ dest < src + count ∨ src ≥ dest ∧ src < dest + count := by
  constructor
  · rintro ⟨place, inDest, inSrc⟩
    omega
  · rintro (⟨above, inside⟩ | ⟨above, inside⟩)
    · exact ⟨dest, by omega, above, inside⟩
    · exact ⟨src, ⟨above, inside⟩, by omega⟩

/-- A block that fits is moved, wherever it comes from. -/
theorem safeMemmove_fits (memory : Nat → UInt8) (dest src : Nat) {destSize count : Nat}
    (fits : count ≤ destSize) :
    safeMemmove memory (some dest) destSize (some src) count =
      (.ok, moved dest src count memory) := by
  simp only [safeMemmove, if_neg (Nat.not_lt.mpr fits)]
  rcases Nat.lt_trichotomy dest src with below | rfl | above
  · rw [if_pos below, copyForward_eq (Or.inl (Nat.le_of_lt below))]
  · rw [if_neg (Nat.lt_irrefl dest), if_neg (Nat.lt_irrefl dest), moved_self]
  · rw [if_neg (Nat.lt_asymm above), if_pos above, copyBackward_eq (Or.inl (Nat.le_of_lt above))]

/-- A block that fits and does not overlap its source is copied as it would be moved. -/
theorem safeMemcpy_apart (memory : Nat → UInt8) {dest src destSize count : Nat}
    (fits : count ≤ destSize) (apart : ¬ Overlap dest src count) :
    safeMemcpy memory (some dest) destSize (some src) count =
      safeMemmove memory (some dest) destSize (some src) count := by
  rw [safeMemmove_fits memory dest src fits]
  rw [overlap_iff] at apart
  simp only [safeMemcpy, if_neg (Nat.not_lt.mpr fits), if_neg apart]
  by_cases below : dest ≤ src
  · rw [copyForward_eq (Or.inl below)]
  · rw [copyForward_eq (Or.inr (by omega))]

theorem safeMemcpy_refused (memory : Nat → UInt8) {dest src destSize count : Nat}
    (refused : count > destSize ∨ Overlap dest src count) :
    safeMemcpy memory (some dest) destSize (some src) count = (.errorParam, memory) := by
  rw [overlap_iff] at refused
  unfold safeMemcpy
  by_cases long : count > destSize
  · exact if_pos long
  · exact (if_neg long).trans (if_pos (refused.resolve_left long))

/-- A block that fits is moved exactly, and nothing else is written. The copy is refused, and writes
nothing, exactly when the block does not fit or the blocks overlap; otherwise it does what the
move does. -/
theorem safe_memory_moves (memory : Nat → UInt8) (dest src destSize count : Nat) :
    (count ≤ destSize →
      let after := safeMemmove memory (some dest) destSize (some src) count
      after.1 = .ok ∧ (∀ index < count, after.2 (dest + index) = memory (src + index)) ∧
        ∀ place, place < dest ∨ dest + count ≤ place → after.2 place = memory place) ∧
    ∀ copied, copied = safeMemcpy memory (some dest) destSize (some src) count →
      (copied.1 ≠ .ok ↔ count > destSize ∨ Overlap dest src count) ∧
        (copied.1 ≠ .ok → copied.2 = memory) ∧
        (copied.1 = .ok → copied = safeMemmove memory (some dest) destSize (some src) count) := by
  refine ⟨fun fits => ?_, ?_⟩
  · rw [safeMemmove_fits memory dest src fits]
    exact ⟨rfl, fun _ inside => moved_inside inside, fun _ outside => moved_outside outside⟩
  · intro copied isCopied
    by_cases refused : count > destSize ∨ Overlap dest src count
    · have unchanged : copied = (.errorParam, memory) :=
        isCopied.trans (safeMemcpy_refused memory refused)
      rw [unchanged]
      exact ⟨iff_of_true SmartQsoResult.noConfusion refused, fun _ => rfl,
        fun accepted => absurd accepted SmartQsoResult.noConfusion⟩
    · obtain ⟨fits, apart⟩ := not_or.mp refused
      have same : copied = safeMemmove memory (some dest) destSize (some src) count :=
        isCopied.trans (safeMemcpy_apart memory (Nat.le_of_not_lt fits) apart)
      have accepted : copied.1 = .ok := by
        rw [same, safeMemmove_fits memory dest src (Nat.le_of_not_lt fits)]
      exact ⟨iff_of_false (not_not.mpr accepted) refused, fun error => absurd accepted error,
        fun _ => same⟩

end SmartQso
