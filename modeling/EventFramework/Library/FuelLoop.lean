import Mathlib.Tactic.Common

/-!
# Loops that run on fuel

A loop repeats its body until the body is done; without fuel it has no result. The body may
itself have none, so loops can be nested. More fuel never changes a result, and a measure
that goes down is fuel enough.
-/

namespace FuelLoop
set_option autoImplicit false

universe u v
variable {σ : Type u} {ρ : Type v}

inductive Step (σ : Type u) (ρ : Type v) where
  | again (s : σ)
  | done (r : ρ)

def loop (body : σ → Option (Step σ ρ)) : Nat → σ → Option ρ
  | 0, _ => none
  | fuel + 1, s =>
    match body s with
    | none => none
    | some (.done r) => some r
    | some (.again s) => loop body fuel s

theorem loop_mono {body body' : σ → Option (Step σ ρ)}
    (hbody : ∀ s t, body s = some t → body' s = some t) :
    ∀ {fuel fuel' : Nat} {s : σ} {r : ρ}, fuel ≤ fuel' → loop body fuel s = some r →
      loop body' fuel' s = some r := by
  intro fuel
  induction fuel with
  | zero =>
    intro fuel' s r _ h
    cases h
  | succ fuel ih =>
    intro fuel' s r hle h
    obtain ⟨more, rfl⟩ : ∃ more, fuel' = more + 1 := ⟨fuel' - 1, by omega⟩
    rw [loop] at h ⊢
    cases hstep : body s with
    | none =>
      rw [hstep] at h
      cases h
    | some step =>
      rw [hstep] at h
      rw [hbody s step hstep]
      cases step with
      | done r' => exact h
      | again s' => exact ih (by omega) h

/-- A loop whose body keeps an invariant and takes a measure down returns, and what the
body guarantees of its last result holds. -/
theorem loop_returns {body : σ → Option (Step σ ρ)} (measure : σ → Nat) (Inv : σ → Prop)
    (Post : ρ → Prop)
    (hbody : ∀ s, Inv s → (∃ r, body s = some (.done r) ∧ Post r) ∨
      ∃ t, body s = some (.again t) ∧ Inv t ∧ measure t < measure s) :
    ∀ (fuel : Nat) (s : σ), Inv s → measure s < fuel → ∃ r, loop body fuel s = some r ∧ Post r := by
  intro fuel
  induction fuel with
  | zero => exact fun s _ hlt => absurd hlt (Nat.not_lt_zero _)
  | succ fuel ih =>
    intro s hinv hlt
    rw [loop]
    rcases hbody s hinv with ⟨r, hdone, hpost⟩ | ⟨t, hagain, hnext, hless⟩
    · rw [hdone]
      exact ⟨r, rfl, hpost⟩
    · rw [hagain]
      exact ih t hnext (by omega)

/-- What holds of a result: the body keeps an invariant, and ends where it gives the result. -/
theorem loop_ends {body : σ → Option (Step σ ρ)} (Inv : σ → Prop) (Post : ρ → Prop)
    (hagain : ∀ s t, Inv s → body s = some (.again t) → Inv t)
    (hdone : ∀ s r, Inv s → body s = some (.done r) → Post r) :
    ∀ {fuel : Nat} {s : σ} {r : ρ}, Inv s → loop body fuel s = some r → Post r := by
  intro fuel
  induction fuel with
  | zero =>
    intro s r _ h
    cases h
  | succ fuel ih =>
    intro s r hinv h
    rw [loop] at h
    cases hstep : body s with
    | none =>
      rw [hstep] at h
      cases h
    | some step =>
      rw [hstep] at h
      cases step with
      | done r' =>
        obtain rfl : r' = r := Option.some.inj h
        exact hdone s r' hinv hstep
      | again t => exact ih (hagain s t hinv hstep) h

end FuelLoop
