import EventFramework.Library.Machine
import Mathlib.Logic.Function.Iterate

/-!
# Generations of a slot

A slot is handed out under a generation, freed, and handed out again under the next one. The
generations are `1` to `period` and come round.
-/

namespace Generations
set_option autoImplicit false

def next (period generation : Nat) : Nat := if generation = period then 1 else generation + 1

structure Slot where
  generation : Nat
  live : Bool

/-- What a step does to a slot; the flag tells that it handed the slot out. -/
inductive Turn (period : Nat) (old new : Slot) : Bool → Prop where
  | taken : old.live = false → new.generation = next period old.generation → Turn period old new true
  | kept : (new.live = true → old.live = true) → new.generation = old.generation →
    Turn period old new false

theorem next_iterate {period generation : Nat} (hle : generation ≤ period) (n : Nat)
    (hn : n < period) :
    (next period)^[n] generation =
      if generation + n ≤ period then generation + n else generation + n - period := by
  induction n with
  | zero =>
    rw [if_pos (by omega)]
    rfl
  | succ n ih =>
    rw [Function.iterate_succ_apply', ih (by omega), next]
    split
    · split
      · rw [if_neg (by omega)]
        omega
      · rw [if_pos (by omega)]
        omega
    · rw [if_neg (by omega), if_neg (by omega)]
      omega

theorem next_iterate_ne {period generation : Nat} (hle : generation ≤ period) {n : Nat}
    (hsome : 0 < n) (hn : n < period) : (next period)^[n] generation ≠ generation := by
  rw [next_iterate hle n hn]
  split
  · omega
  · omega

section Runs

variable {S I : Type} {step : S → I → S} {slot : S → Slot} {taken : S → I → Bool} {period : Nat}

variable (step taken) in
/-- How often the run hands the slot out. -/
def reuses (s : S) : List I → Nat
  | [] => 0
  | input :: inputs => (taken s input).toNat + reuses (step s input) inputs

variable (step slot taken period) in
/-- Every step of the machine takes its turn with the slot. -/
def Tracks : Prop := ∀ s input, Turn period (slot s) (slot (step s input)) (taken s input)

theorem reuses_append (s : S) (earlier later : List I) :
    reuses step taken s (earlier ++ later) =
      reuses step taken s earlier + reuses step taken (Machine.run step s earlier) later := by
  induction earlier generalizing s with
  | nil => exact (Nat.zero_add _).symm
  | cons input earlier ih => rw [List.cons_append, reuses, ih, reuses, Machine.run_cons, Nat.add_assoc]

theorem run_generation (h : Tracks step slot taken period) (inputs : List I) (s : S) :
    (slot (Machine.run step s inputs)).generation =
      (next period)^[reuses step taken s inputs] (slot s).generation := by
  induction inputs generalizing s with
  | nil => rfl
  | cons input inputs ih =>
    rw [Machine.run_cons, ih, reuses, Nat.add_comm, Function.iterate_add_apply]
    congr 1
    cases htaken : taken s input with
    | false =>
      rcases htaken ▸ h s input with _ | ⟨_, hsame⟩
      exact hsame
    | true =>
      rcases htaken ▸ h s input with ⟨_, hnext⟩ | _
      exact hnext

/-- A slot that is not handed out is live only if it was. -/
theorem live_of_unused (h : Tracks step slot taken period) {inputs : List I} {s : S}
    (hnone : reuses step taken s inputs = 0) (hlive : (slot (Machine.run step s inputs)).live = true) :
    (slot s).live = true := by
  induction inputs generalizing s with
  | nil => exact hlive
  | cons input inputs ih =>
    rw [reuses, Nat.add_eq_zero_iff] at hnone
    have hafter := ih hnone.2 hlive
    have hturn := h s input
    rw [(Bool.toNat_eq_zero).mp hnone.1] at hturn
    rcases hturn with _ | ⟨hbefore, _⟩
    exact hbefore hafter

/-- Handed out anew, but fewer times than there are generations: another generation. -/
theorem generation_ne (h : Tracks step slot taken period) {inputs : List I} {s : S}
    (hle : (slot s).generation ≤ period) (hsome : 0 < reuses step taken s inputs)
    (hfew : reuses step taken s inputs < period) :
    (slot (Machine.run step s inputs)).generation ≠ (slot s).generation := by
  rw [run_generation h]
  exact next_iterate_ne hle hsome hfew

/-- Once the slot was freed, its generation is not seen live again. -/
theorem stale (h : Tracks step slot taken period) {earlier inputs : List I} {s : S}
    (hle : (slot s).generation ≤ period) (hpre : earlier <+: inputs)
    (hfreed : (slot (Machine.run step s earlier)).live = false)
    (hfew : reuses step taken s inputs < period) :
    ¬((slot (Machine.run step s inputs)).live = true ∧
      (slot (Machine.run step s inputs)).generation = (slot s).generation) := by
  rintro ⟨hlive, hsame⟩
  rcases Nat.eq_zero_or_pos (reuses step taken s inputs) with hnone | hsome
  · obtain ⟨later, rfl⟩ := hpre
    rw [reuses_append, Nat.add_eq_zero_iff] at hnone
    rw [Machine.run_append] at hlive
    rw [live_of_unused h hnone.2 hlive] at hfreed
    cases hfreed
  · exact generation_ne h hle hsome hfew hsame

end Runs

end Generations
