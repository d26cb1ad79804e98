import Mathlib.Tactic.Common

/-!
# A point that goes to and fro

A point that moves by one between zero and a bound, and turns at both ends. Where it is after a number
of steps is a triangle wave of that number.
-/

namespace Pendulum
set_option autoImplicit false

structure Swing where
  position : Nat
  rising : Bool
  deriving DecidableEq, Repr

def Swing.move (bound : Nat) (swing : Swing) : Swing :=
  if bound = 0 then ⟨0, true⟩
  else if swing.rising then
    if bound ≤ swing.position then ⟨swing.position - 1, false⟩ else ⟨swing.position + 1, true⟩
  else if swing.position = 0 then ⟨1, true⟩
  else ⟨swing.position - 1, false⟩

/-- The wave: up for `bound` steps and down for as many. -/
def triangle (bound steps : Nat) : Nat :=
  min (steps % (2 * bound)) (2 * bound - steps % (2 * bound))

theorem triangle_le (bound steps : Nat) : triangle bound steps ≤ bound := by
  unfold triangle
  omega

/-- The next phase is the next number, or the start of the next period. -/
theorem succ_phase {period : Nat} (h : 0 < period) (steps : Nat) :
    (steps + 1) % period = steps % period + 1 ∨
      steps % period + 1 = period ∧ (steps + 1) % period = 0 := by
  have hlt := Nat.mod_lt steps h
  have hnext := Nat.mod_add_mod steps period 1
  by_cases hlast : steps % period + 1 = period
  · right
    rw [hlast, Nat.mod_self] at hnext
    exact ⟨hlast, hnext.symm⟩
  · left
    rw [Nat.mod_eq_of_lt (by omega)] at hnext
    exact hnext.symm

/-- The point is where the wave says, and moves away from the end that it comes from. -/
structure Swing.At (bound phase : Nat) (swing : Swing) : Prop where
  position : swing.position = min phase (2 * bound - phase)
  up : 0 < phase → phase ≤ bound → swing.rising = true
  down : bound < phase → swing.rising = false

theorem at_start (bound : Nat) {rising : Bool} : Swing.At bound 0 ⟨0, rising⟩ where
  position := (Nat.zero_min _).symm
  up h := absurd h (Nat.lt_irrefl 0)
  down h := absurd h (Nat.not_lt_zero _)

theorem at_rising {bound phase : Nat} (h : phase ≤ bound) : Swing.At bound phase ⟨phase, true⟩ where
  position := (Nat.min_eq_left (by omega : phase ≤ 2 * bound - phase)).symm
  up _ _ := rfl
  down hhigh := absurd hhigh (Nat.not_lt.mpr h)

theorem at_falling {bound phase : Nat} (h : bound < phase) :
    Swing.At bound phase ⟨2 * bound - phase, false⟩ where
  position := (Nat.min_eq_right (by omega : 2 * bound - phase ≤ phase)).symm
  up _ hlow := absurd h (Nat.not_lt.mpr hlow)
  down _ := rfl

theorem Swing.At.move {bound phase next : Nat} {swing : Swing} (hbound : 0 < bound)
    (hlt : phase < 2 * bound) (h : swing.At bound phase)
    (hnext : next = phase + 1 ∨ phase + 1 = 2 * bound ∧ next = 0) :
    (swing.move bound).At bound next := by
  obtain ⟨hposition, hup, hdown⟩ := h
  have hturned (hhigh : bound < phase + 1) :
      Swing.At bound next ⟨2 * bound - (phase + 1), false⟩ := by
    rcases hnext with rfl | ⟨hlast, rfl⟩
    · exact at_falling hhigh
    · rw [hlast, Nat.sub_self]
      exact at_start bound
  unfold Swing.move
  rw [if_neg (Nat.ne_of_gt hbound)]
  by_cases hdirection : swing.rising = true
  · rw [if_pos hdirection]
    have hlow : phase ≤ bound := by
      refine Nat.le_of_not_lt fun hhigh => ?_
      rw [hdown hhigh] at hdirection
      cases hdirection
    rw [Nat.min_eq_left (by omega)] at hposition
    rw [hposition]
    by_cases hend : bound ≤ phase
    · rw [if_pos hend]
      have hback : phase - 1 = 2 * bound - (phase + 1) := by omega
      rw [hback]
      exact hturned (Nat.lt_succ_of_le hend)
    · rw [if_neg hend]
      obtain rfl : next = phase + 1 := by omega
      exact at_rising (Nat.lt_of_not_le hend)
  · rw [if_neg hdirection]
    have hhigh : phase = 0 ∨ bound < phase := by
      refine (Nat.eq_zero_or_pos phase).imp id fun hpos => Nat.lt_of_not_le fun hlow => ?_
      exact hdirection (hup hpos hlow)
    rcases hhigh with rfl | hhigh
    · rw [if_pos (hposition.trans (Nat.zero_min _))]
      obtain rfl : next = 1 := by omega
      exact at_rising hbound
    · rw [Nat.min_eq_right (by omega)] at hposition
      rw [hposition, if_neg (by omega)]
      have hon : 2 * bound - phase - 1 = 2 * bound - (phase + 1) := Nat.sub_sub _ _ _
      rw [hon]
      exact hturned (Nat.lt_succ_of_lt hhigh)

theorem Swing.At.succ {bound steps : Nat} {swing : Swing} (hbound : 0 < bound)
    (h : swing.At bound (steps % (2 * bound))) :
    (swing.move bound).At bound ((steps + 1) % (2 * bound)) :=
  h.move hbound (Nat.mod_lt steps (Nat.mul_pos Nat.two_pos hbound))
    (succ_phase (Nat.mul_pos Nat.two_pos hbound) steps)

end Pendulum
