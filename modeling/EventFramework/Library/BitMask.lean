import Mathlib.Algebra.Ring.Nat
import Mathlib.Data.List.Basic

/-!
# Masks of bits

A word as a set of small numbers: testing, setting and clearing one of them.
-/

namespace BitMask
set_option autoImplicit false

variable {w : Nat}

def bit (w i : Nat) : BitVec w := 1#w <<< i

theorem getLsbD_bit {i j : Nat} (hi : i < w) : (bit w i).getLsbD j = decide (i = j) := by
  rw [bit, BitVec.getLsbD_shiftLeft, BitVec.getLsbD_one]
  by_cases hij : i = j
  · subst hij
    simp [hi, show 0 < w by omega]
  · by_cases hle : i ≤ j
    · simp [hij, show ¬ j - i = 0 by omega]
    · simp [hij, show j < i by omega]

theorem eq_zero_iff (mask : BitVec w) : mask = 0 ↔ ∀ i, mask.getLsbD i = false := by
  constructor
  · rintro rfl i
    exact BitVec.getLsbD_zero
  · intro h
    apply BitVec.eq_of_getLsbD_eq
    intro i _
    rw [h i]
    exact BitVec.getLsbD_zero.symm

theorem and_bit_ne_zero {i : Nat} (hi : i < w) (mask : BitVec w) :
    mask &&& bit w i ≠ 0 ↔ mask.getLsbD i = true := by
  constructor
  · intro hne
    by_contra hclear
    apply hne
    rw [eq_zero_iff]
    intro j
    rw [BitVec.getLsbD_and, getLsbD_bit hi]
    by_cases hij : i = j
    · rw [← hij, Bool.eq_false_iff.mpr hclear, Bool.false_and]
    · rw [decide_eq_false hij, Bool.and_false]
  · intro hset hzero
    have hbit := (eq_zero_iff _).mp hzero i
    rw [BitVec.getLsbD_and, getLsbD_bit hi, hset] at hbit
    simp at hbit

theorem getLsbD_or_bit {i j : Nat} (hi : i < w) (mask : BitVec w) :
    (mask ||| bit w i).getLsbD j = (decide (i = j) || mask.getLsbD j) := by
  rw [BitVec.getLsbD_or, getLsbD_bit hi, Bool.or_comm]

theorem getLsbD_clear_bit {i j : Nat} (hi : i < w) (mask : BitVec w) :
    (mask &&& ~~~bit w i).getLsbD j = (!decide (i = j) && mask.getLsbD j) := by
  rw [BitVec.getLsbD_and, BitVec.getLsbD_not, getLsbD_bit hi]
  by_cases hj : j < w
  · rw [decide_eq_true hj, Bool.true_and, Bool.and_comm]
  · rw [BitVec.getLsbD_of_ge _ _ (Nat.not_lt.mp hj), Bool.false_and, Bool.and_false]

theorem toNat_clear_low (low : Nat) (mask : BitVec w) :
    (mask &&& ~~~BitVec.ofNat w (2 ^ low - 1)).toNat = mask.toNat / 2 ^ low * 2 ^ low := by
  apply Nat.eq_of_testBit_eq
  intro i
  rw [BitVec.testBit_toNat, BitVec.getLsbD_and, BitVec.getLsbD_not, BitVec.getLsbD_ofNat,
    Nat.testBit_two_pow_sub_one, Nat.testBit_mul_two_pow, Nat.testBit_div_two_pow,
    BitVec.testBit_toNat]
  by_cases hi : i < w
  · by_cases hlow : i < low
    · simp [hi, hlow, Nat.not_le.mpr hlow]
    · have hshift : i - low + low = i := by omega
      simp [hi, hlow, hshift, Nat.le_of_not_lt hlow]
  · rw [BitVec.getLsbD_of_ge mask i (Nat.le_of_not_lt hi), Bool.false_and]
    by_cases hlow : low ≤ i
    · have hshift : i - low + low = i := by omega
      rw [hshift, BitVec.getLsbD_of_ge mask i (Nat.le_of_not_lt hi), Bool.and_false]
    · simp [hlow]

end BitMask
