import Mathlib.Tactic.Ring

/-!
# Clocks that wrap

A clock counts modulo `2 * half`, and a deadline is reached when the difference to it is
not negative as a signed number. `lag` is that difference as a residue.
-/

namespace WrapClock
set_option autoImplicit false

/-- How far the clock is past the deadline, modulo `2 * half`. -/
def lag (half : Nat) (now deadline : Int) : Int := (now - deadline) % (2 * half)

def Reached (half : Nat) (now deadline : Int) : Prop := lag half now deadline < half

variable {half : Nat} {now deadline : Int}

theorem Reached.le (hwindow : deadline - now ≤ half) (h : Reached half now deadline) :
    deadline ≤ now := by
  by_contra hahead
  have hlag : lag half now deadline = now - deadline + 2 * half := by
    unfold lag
    rw [← Int.add_emod_right]
    exact Int.emod_eq_of_lt (by omega) (by omega)
  unfold Reached at h
  omega

/-- Within the window the clock can be read as if it did not wrap. -/
theorem reached_iff (hwindow : deadline - now ≤ half) (hpast : now - deadline < half) :
    Reached half now deadline ↔ deadline ≤ now := by
  refine ⟨Reached.le hwindow, fun hle => ?_⟩
  have hlag : lag half now deadline = now - deadline := Int.emod_eq_of_lt (by omega) (by omega)
  rw [Reached, hlag]
  exact hpast

theorem toInt32_nonneg_iff (difference : UInt32) :
    0 ≤ difference.toInt32 ↔ difference.toNat < 2 ^ 31 := by
  have hlt := difference.toNat_lt
  have hint : difference.toInt32.toInt = difference.toBitVec.toInt := rfl
  rw [Int32.le_iff_toInt_le, hint, BitVec.toInt_eq_toNat_cond]
  simp only [UInt32.toNat_toBitVec, Int32.toInt_zero]
  split <;> omega

/-- On a 32-bit clock that is a true time modulo `2 ^ 32`, the signed test is the half-range test. -/
theorem signed_iff (time due : Nat) :
    0 ≤ (UInt32.ofNat time - UInt32.ofNat due).toInt32 ↔ Reached (2 ^ 31) time due := by
  rw [toInt32_nonneg_iff, Reached, lag]
  simp only [UInt32.toNat_sub, UInt32.toNat_ofNat']
  omega

/-- How often a deadline is reached at one clock value while it is moved by `period`: a
period beyond `half` moves it backwards until it is `half` behind. -/
def firings (half period lag : Nat) : Nat :=
  if half ≤ lag then 0
  else if period ≤ half then lag / period + 1
  else (half - 1 - lag) / (2 * half - period) + 1

theorem firings_le (half period lag : Nat) : firings half period lag ≤ half := by
  unfold firings
  split
  · exact Nat.zero_le _
  · split
    · have := Nat.div_le_self lag period
      omega
    · have := Nat.div_le_self (half - 1 - lag) (2 * half - period)
      omega

theorem firings_advance {period lag : Nat} (hreached : lag < half) (hpos : 0 < period)
    (hperiod : period < 2 * half) :
    firings half period ((2 * half - period + lag) % (2 * half)) < firings half period lag := by
  have hlive : firings half period lag =
      if period ≤ half then lag / period + 1 else (half - 1 - lag) / (2 * half - period) + 1 := by
    simp [firings, hreached]
  rw [hlive]
  by_cases hshort : period ≤ half
  · rw [if_pos hshort]
    by_cases hbehind : period ≤ lag
    · have hmod : (2 * half - period + lag) % (2 * half) = lag - period := by
        rw [show 2 * half - period + lag = lag - period + 2 * half by omega, Nat.add_mod_right]
        exact Nat.mod_eq_of_lt (by omega)
      have hdiv : (lag - period) / period + 1 = lag / period := by
        rw [← Nat.add_div_right _ hpos]
        congr 1
        omega
      simp only [firings, hmod, if_neg (show ¬ half ≤ lag - period by omega), if_pos hshort]
      omega
    · have hmod : (2 * half - period + lag) % (2 * half) = 2 * half - period + lag :=
        Nat.mod_eq_of_lt (by omega)
      rw [firings, hmod, if_pos (by omega)]
      exact Nat.succ_pos _
  · rw [if_neg hshort]
    have hmod : (2 * half - period + lag) % (2 * half) = 2 * half - period + lag :=
      Nat.mod_eq_of_lt (by omega)
    by_cases hpast : half ≤ 2 * half - period + lag
    · rw [firings, hmod, if_pos hpast]
      exact Nat.succ_pos _
    · have hstep : (half - 1 - (2 * half - period + lag)) / (2 * half - period) + 1 =
          (half - 1 - lag) / (2 * half - period) := by
        rw [← Nat.add_div_right _ (by omega)]
        congr 1
        omega
      simp only [firings, hmod, if_neg hpast, if_neg hshort]
      omega

end WrapClock
