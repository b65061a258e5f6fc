import Mathlib

/-!
# Conversions between C integers

Sizes are natural numbers here.  Two operations on them can leave the range
of a C type and are given explicitly: a `size_t` subtraction, which wraps
around modulo `2^64`, and the conversion of a `size_t` to `int`, which keeps
the low 32 bits as a two's complement number.
-/

namespace OpenVizsla.Foundation.Integers

/-- Subtraction of two `size_t` values, which are below `2^64`. -/
def sizeSub (left right : Nat) : Nat :=
  if right ≤ left then left - right else left + 2 ^ 64 - right

theorem sizeSub_of_le {left right : Nat} (ordered : right ≤ left) :
    sizeSub left right = left - right :=
  if_pos ordered

/-- The `int` value of a `size_t`. -/
def toInt (size : Nat) : Int :=
  Int.bmod size (2 ^ 32)

theorem toInt_of_lt {size : Nat} (small : size < 2 ^ 31) :
    toInt size = size := by
  unfold toInt
  rw [Int.bmod_def]
  split <;> omega

theorem toInt_eq_self_iff (size : Nat) :
    toInt size = size ↔ size < 2 ^ 31 := by
  refine ⟨fun equal => ?_, toInt_of_lt⟩
  unfold toInt at equal
  rw [Int.bmod_def] at equal
  split at equal <;> omega

theorem toInt_eq_neg_one_iff (size : Nat) :
    toInt size = -1 ↔ size % 2 ^ 32 = 2 ^ 32 - 1 := by
  unfold toInt
  rw [Int.bmod_def]
  split <;> omega

end OpenVizsla.Foundation.Integers
