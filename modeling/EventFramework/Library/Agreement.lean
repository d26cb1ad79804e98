import EventFramework.Library.Machine

/-!
# Agreement up to trust

A stateful computation that does what another one does, as far as the state it ends in is trusted.
Trust is lost for good: a trusted state was reached through trusted states only.
-/

namespace Agreement
set_option autoImplicit false

variable {S T R Q V I : Type}

/-- On related states `f` returns what `g` returns and the states stay related, if the state after `f`
is trusted. -/
structure Agrees (Rel : S → T → Prop) (Trusted : S → Prop) (f : S → R × S) (g : T → R × T) :
    Prop where
  follow : ∀ s t, Rel s t → Trusted (f s).2 → (f s).1 = (g t).1 ∧ Rel (f s).2 (g t).2
  earlier : ∀ s, Trusted (f s).2 → Trusted s

variable {Rel : S → T → Prop} {Trusted : S → Prop} {f : S → R × S} {g : T → R × T}

namespace Agrees

theorem pure (value : R) : Agrees Rel Trusted (fun s => (value, s)) (fun t => (value, t)) where
  follow _ _ hrel _ := ⟨rfl, hrel⟩
  earlier _ htrusted := htrusted

theorem update {u : S → S} {v : T → T} (value : R) (hrel : ∀ s t, Rel s t → Rel (u s) (v t))
    (hearlier : ∀ s, Trusted (u s) → Trusted s) :
    Agrees Rel Trusted (fun s => (value, u s)) (fun t => (value, v t)) where
  follow s t h _ := ⟨rfl, hrel s t h⟩
  earlier := hearlier

theorem bind {f' : R → S → Q × S} {g' : R → T → Q × T} (h : Agrees Rel Trusted f g)
    (h' : ∀ value, Agrees Rel Trusted (f' value) (g' value)) :
    Agrees Rel Trusted (fun s => f' (f s).1 (f s).2) (fun t => g' (g t).1 (g t).2) where
  follow s t hrel htrusted := by
    obtain ⟨hvalue, hnext⟩ := h.follow s t hrel ((h' _).earlier _ htrusted)
    rw [← hvalue]
    exact (h' _).follow _ _ hnext htrusted
  earlier s htrusted := h.earlier s ((h' _).earlier _ htrusted)

theorem map (h : Agrees Rel Trusted f g) (fn : R → Q) :
    Agrees Rel Trusted (fun s => (fn (f s).1, (f s).2)) (fun t => (fn (g t).1, (g t).2)) :=
  h.bind fun value => pure (fn value)

/-- A computation that first looks at a part that both sides share. -/
theorem read {view : S → V} {view' : T → V} (hview : ∀ s t, Rel s t → view s = view' t)
    {f : V → S → R × S} {g : V → T → R × T} (h : ∀ value, Agrees Rel Trusted (f value) (g value)) :
    Agrees Rel Trusted (fun s => f (view s) s) (fun t => g (view' t) t) where
  follow s t hrel htrusted := by
    rw [← hview s t hrel]
    exact (h _).follow s t hrel htrusted
  earlier s htrusted := (h _).earlier s htrusted

theorem ite {c : Prop} [Decidable c] {f' : S → R × S} {g' : T → R × T} (h : Agrees Rel Trusted f g)
    (h' : Agrees Rel Trusted f' g') :
    Agrees Rel Trusted (fun s => if c then f s else f' s) (fun t => if c then g t else g' t) := by
  by_cases hc : c
  · simp only [if_pos hc]
    exact h
  · simp only [if_neg hc]
    exact h'

end Agrees

/-- What a machine returns on a list of inputs, and where it ends. -/
def transcript (step : I → S → R × S) : List I → S → List R × S
  | [], s => ([], s)
  | input :: inputs, s =>
    ((step input s).1 :: (transcript step inputs (step input s).2).1,
      (transcript step inputs (step input s).2).2)

/-- Machines that agree on one input agree on every list of inputs. -/
theorem Agrees.transcript {step : I → S → R × S} {step' : I → T → R × T}
    (h : ∀ input, Agrees Rel Trusted (step input) (step' input)) (inputs : List I) :
    Agrees Rel Trusted (Agreement.transcript step inputs) (Agreement.transcript step' inputs) := by
  induction inputs with
  | nil => exact pure []
  | cons input inputs ih => exact (h input).bind fun value => ih.map (List.cons value)

theorem Agrees.run {step : S → I → S} {step' : T → I → T}
    (h : ∀ input, Agrees Rel Trusted (fun s => ((), step s input)) (fun t => ((), step' t input)))
    (inputs : List I) :
    Agrees Rel Trusted (fun s => ((), Machine.run step s inputs))
      (fun t => ((), Machine.run step' t inputs)) := by
  induction inputs with
  | nil => exact pure ()
  | cons input inputs ih => exact (h input).bind fun _ => ih

end Agreement
