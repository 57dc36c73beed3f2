/-
This file develops unsigned numbers as bytes in memory: a number of a given width with
its least or its most significant byte first, and the number that bytes stand for.
Nothing here names a particular system.
-/

import Mathlib.Algebra.Group.Nat.Defs

namespace ByteOrder

/-- The number written in so many bytes, the least significant one first. -/
def littleEndian : (width : Nat) → (value : Nat) → List UInt8
  | 0, _ => []
  | width + 1, value => UInt8.ofNat value :: littleEndian width (value / 256)

/-- The number written in so many bytes, the most significant one first. -/
def bigEndian (width value : Nat) : List UInt8 := (littleEndian width value).reverse

/-- The number that bytes stand for, the least significant one first. -/
def valueOf : List UInt8 → Nat
  | [] => 0
  | byte :: rest => byte.toNat + 256 * valueOf rest

@[simp] theorem length_littleEndian (width value : Nat) :
    (littleEndian width value).length = width := by
  induction width generalizing value with
  | zero => rfl
  | succ width inductionHypothesis =>
    rw [littleEndian, List.length_cons, inductionHypothesis]

@[simp] theorem length_bigEndian (width value : Nat) :
    (bigEndian width value).length = width := by
  rw [bigEndian, List.length_reverse, length_littleEndian]

/-- Bytes give back the number they were written from, as far as the width reaches. -/
theorem valueOf_littleEndian (width value : Nat) :
    valueOf (littleEndian width value) = value % 256 ^ width := by
  induction width generalizing value with
  | zero => rw [Nat.pow_zero, Nat.mod_one, littleEndian, valueOf]
  | succ width inductionHypothesis =>
    have low : (UInt8.ofNat value).toNat = value % 256 := UInt8.toNat_ofNat'
    rw [littleEndian, valueOf, inductionHypothesis, low, Nat.pow_succ,
      Nat.mul_comm (256 ^ width), Nat.mod_mul]

end ByteOrder
