import Mathlib.Algebra.Order.Field.Basic
import Mathlib.Data.Rat.Cast.Order
import Mathlib.Algebra.Order.Ring.Abs
import Mathlib.Tactic.FieldSimp
import Mathlib.Tactic.Linarith
import Mathlib.Tactic.Ring

/-!
# Rounding half away from zero

The nearest integer of a rational number, and of two nearest ones the larger in magnitude; and the
truncating division that computes it.
-/

namespace Rounding
set_option autoImplicit false

structure RoundsAway (x : ℚ) (n : ℤ) : Prop where
  nearest : |x - n| ≤ 1 / 2
  away : |x - n| = 1 / 2 → |x| < |(n : ℚ)|

/-- Rounding a fraction, in integers. -/
theorem roundsAway_div_iff {a d n : ℤ} (hd : 0 < d) :
    RoundsAway ((a : ℚ) / d) n ↔
      2 * |a - n * d| ≤ d ∧ (2 * |a - n * d| = d → |a| < |n * d|) := by
  have hpos : (0 : ℚ) < d := Int.cast_pos.mpr hd
  have hdiff : (a : ℚ) / d - n = ((a - n * d : ℤ) : ℚ) / d := by
    push_cast
    field_simp
  have habs : |(a : ℚ) / d - n| = (|a - n * d| : ℤ) / d := by
    rw [hdiff, abs_div, abs_of_pos hpos, Int.cast_abs]
  have hnearest : |(a : ℚ) / d - n| ≤ 1 / 2 ↔ 2 * |a - n * d| ≤ d := by
    rw [habs, div_le_div_iff₀ hpos two_pos, one_mul, mul_comm]
    exact_mod_cast Iff.rfl
  have htie : |(a : ℚ) / d - n| = 1 / 2 ↔ 2 * |a - n * d| = d := by
    rw [habs, div_eq_div_iff hpos.ne' two_ne_zero, one_mul, mul_comm]
    exact_mod_cast Iff.rfl
  have haway : |(a : ℚ) / d| < |(n : ℚ)| ↔ |a| < |n * d| := by
    rw [abs_div, abs_of_pos hpos, div_lt_iff₀ hpos, abs_mul, abs_of_pos hd]
    exact_mod_cast Iff.rfl
  constructor
  · intro h
    exact ⟨hnearest.mp h.nearest, fun heq => haway.mp (h.away (htie.mpr heq))⟩
  · rintro ⟨hnear, hfar⟩
    exact ⟨hnearest.mpr hnear, fun heq => haway.mpr (hfar (htie.mp heq))⟩

theorem RoundsAway.neg {x : ℚ} {n : ℤ} (h : RoundsAway x n) : RoundsAway (-x) (-n) := by
  have hdiff : |-x - ((-n : ℤ) : ℚ)| = |x - n| := by
    rw [← abs_neg]
    congr 1
    push_cast
    ring
  refine ⟨by rw [hdiff]; exact h.nearest, fun heq => ?_⟩
  rw [abs_neg, Int.cast_neg, abs_neg]
  exact h.away (hdiff.symm.trans heq)

/-- Two integers next to each other are not both roundings: between them lies a tie. -/
theorem RoundsAway.not_succ {x : ℚ} {p q : ℤ} (hp : RoundsAway x p) (hq : RoundsAway x q) :
    p ≠ q + 1 := by
  intro hpq
  have hplow := (abs_le.mp hp.nearest).1
  have hqhigh := (abs_le.mp hq.nearest).2
  have hcast : (p : ℚ) = q + 1 := by exact_mod_cast hpq
  have hhalf : x = q + 1 / 2 := by linarith only [hplow, hqhigh, hcast]
  have hpback : x - p = -(1 / 2) := by linarith only [hhalf, hcast]
  have hqahead : x - q = 1 / 2 := by linarith only [hhalf]
  have hpaway := hp.away (by rw [hpback, abs_neg, abs_of_pos one_half_pos])
  have hqaway := hq.away (by rw [hqahead, abs_of_pos one_half_pos])
  rw [hhalf, hcast] at hpaway
  rw [hhalf] at hqaway
  rcases le_or_gt 0 q with hsign | hsign
  · have hq0 : (0 : ℚ) ≤ q := by exact_mod_cast hsign
    rw [abs_of_nonneg hq0, abs_of_pos (by linarith only [hq0])] at hqaway
    linarith only [hqaway]
  · have hq1 : (q : ℚ) ≤ -1 := by exact_mod_cast Int.le_sub_one_of_lt hsign
    rw [abs_of_neg (by linarith only [hq1]), abs_of_nonpos (by linarith only [hq1])] at hpaway
    linarith only [hpaway]

theorem RoundsAway.unique {x : ℚ} {n m : ℤ} (hn : RoundsAway x n) (hm : RoundsAway x m) : n = m := by
  obtain ⟨hnlow, hnhigh⟩ := abs_le.mp hn.nearest
  obtain ⟨hmlow, hmhigh⟩ := abs_le.mp hm.nearest
  have hupper : (n : ℚ) - m ≤ 1 := by linarith only [hnlow, hmhigh]
  have hlower : (m : ℚ) - n ≤ 1 := by linarith only [hnhigh, hmlow]
  have hupper' : n - m ≤ 1 := by exact_mod_cast hupper
  have hlower' : m - n ≤ 1 := by exact_mod_cast hlower
  have hbelow := hm.not_succ hn
  have habove := hn.not_succ hm
  omega

/-- Half of the divisor is added away from zero before a truncating division. -/
theorem roundsAway_tdiv {half : ℤ} (hpos : 0 < half) (a : ℤ) :
    RoundsAway ((a : ℚ) / (2 * half : ℤ))
      (if 0 ≤ a then (a + half).tdiv (2 * half) else (a - half).tdiv (2 * half)) := by
  have hnonneg (b : ℤ) (hb : 0 ≤ b) :
      RoundsAway ((b : ℚ) / (2 * half : ℤ)) ((b + half).tdiv (2 * half)) := by
    rw [roundsAway_div_iff (by omega), Int.tdiv_eq_ediv_of_nonneg (by omega)]
    have hdivmod := Int.ediv_mul_add_emod (b + half) (2 * half)
    have hlow := Int.emod_nonneg (b + half) (b := 2 * half) (by omega)
    have hhigh := Int.emod_lt_of_pos (b + half) (b := 2 * half) (by omega)
    generalize (b + half) / (2 * half) * (2 * half) = product at hdivmod ⊢
    generalize (b + half) % (2 * half) = rest at hdivmod hlow hhigh
    constructor
    · rw [show b - product = rest - half by omega]
      have habs : |rest - half| ≤ half := abs_le.mpr ⟨by omega, by omega⟩
      omega
    · intro htie
      rw [show b - product = rest - half by omega] at htie
      have hrest : rest = 0 := by
        rcases abs_cases (rest - half) with ⟨hcase, _⟩ | ⟨hcase, _⟩ <;> omega
      rw [abs_of_nonneg hb, abs_of_nonneg (by omega)]
      omega
  by_cases hsign : 0 ≤ a
  · rw [if_pos hsign]
    exact hnonneg a hsign
  · rw [if_neg hsign]
    have hflip := (hnonneg (-a) (by omega)).neg
    have hfraction : -(((-a : ℤ) : ℚ) / (2 * half : ℤ)) = (a : ℚ) / (2 * half : ℤ) := by
      push_cast
      ring
    have hquotient : -((-a + half).tdiv (2 * half)) = (a - half).tdiv (2 * half) := by
      rw [← Int.neg_tdiv]
      congr 1
      ring
    rwa [hfraction, hquotient] at hflip

end Rounding
