/-
This file develops lists whose entries are numbered one after the other by a counter of
sixteen bits, which goes on from zero when it wraps. Nothing here names a particular
system.
-/

import Mathlib.Data.List.Chain
import Mathlib.Data.List.Nodup

namespace Numbering

variable {Entry : Type*} {label : Entry → UInt16} {number : UInt16} {entries : List Entry}

/-- The entries are numbered one after the other, from the given number. -/
def NumberedFrom (label : Entry → UInt16) : UInt16 → List Entry → Prop
  | _, [] => True
  | number, entry :: rest => label entry = number ∧ NumberedFrom label (number + 1) rest

theorem succ_add_ofNat (number : UInt16) (steps : Nat) :
    number + 1 + UInt16.ofNat steps = number + UInt16.ofNat (steps + 1) := by
  rw [Nat.add_comm steps, UInt16.ofNat_add, ← UInt16.add_assoc]
  rfl

theorem NumberedFrom.append {first second : List Entry}
    (earlier : NumberedFrom label number first)
    (later : NumberedFrom label (number + UInt16.ofNat first.length) second) :
    NumberedFrom label number (first ++ second) := by
  induction first generalizing number with
  | nil => exact (UInt16.add_zero number) ▸ later
  | cons entry rest inductionHypothesis =>
    refine ⟨earlier.1, inductionHypothesis earlier.2 ?_⟩
    rw [succ_add_ofNat]
    exact later

/-- The number of the entry at an index. -/
theorem NumberedFrom.get (numbered : NumberedFrom label number entries) {index : Nat}
    (inside : index < entries.length) :
    label (entries.get ⟨index, inside⟩) = number + UInt16.ofNat index := by
  induction entries generalizing number index with
  | nil => exact absurd inside (Nat.not_lt_zero index)
  | cons entry rest inductionHypothesis =>
    cases index with
    | zero => exact numbered.1.trans (UInt16.add_zero number).symm
    | succ index =>
      rw [← succ_add_ofNat]
      exact inductionHypothesis numbered.2 (Nat.lt_of_succ_lt_succ inside)

/-- Entries that are fewer than the numbers are different. -/
theorem NumberedFrom.nodup (numbered : NumberedFrom label number entries)
    (few : entries.length ≤ UInt16.size) : entries.Nodup := by
  refine List.nodup_iff_injective_get.mpr ?_
  rintro ⟨first, inFirst⟩ ⟨second, inSecond⟩ same
  have numbers := congrArg label same
  rw [numbered.get inFirst, numbered.get inSecond, UInt16.add_right_inj] at numbers
  have indices := congrArg UInt16.toNat numbers
  rw [UInt16.toNat_ofNat_of_lt' (Nat.lt_of_lt_of_le inFirst few),
    UInt16.toNat_ofNat_of_lt' (Nat.lt_of_lt_of_le inSecond few)] at indices
  exact Fin.ext indices

/-- Every entry has the number behind the one before it. -/
theorem NumberedFrom.chain (numbered : NumberedFrom label number entries) :
    entries.IsChain fun earlier later => label later = label earlier + 1 := by
  induction entries generalizing number with
  | nil => exact List.isChain_nil
  | cons entry rest inductionHypothesis =>
    cases rest with
    | nil => exact List.isChain_singleton entry
    | cons next others =>
      refine List.isChain_cons_cons.mpr ⟨?_, inductionHypothesis numbered.2⟩
      rw [numbered.1, numbered.2.1]

end Numbering
