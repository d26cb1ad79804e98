import Mathlib.Data.List.Basic
import Mathlib.Tactic.Common

/-!
# Round-robin scans with a moving cursor

A scan visits the indices below `count` in cyclic order, starting at a cursor that each
visit moves behind the visited index. Scans repeat from the cursor while they make
progress and some budget remains. Turns may pass over an index, find it idle, make
progress or abort everything.

The rules say how an invariant of one turn becomes one of a whole run. The events of a
run form a `Trace`, and in a trace no index is visited twice around another one that is
never passed over.
-/

namespace RoundRobin
set_option autoImplicit false

universe u v
variable {σ : Type u} {ρ : Type v}

def advance (count cursor : Nat) : Nat := if count ≤ cursor + 1 then 0 else cursor + 1

def inRange (count cursor : Nat) : Nat := if count ≤ cursor then 0 else cursor

theorem inRange_of_lt {count cursor : Nat} (h : cursor < count) : inRange count cursor = cursor :=
  if_neg (Nat.not_le.mpr h)

/-- What one index does with the state and the remaining budget. -/
inductive Turn (σ : Type u) (ρ : Type v) where
  | pass (s : σ)
  | idle (s : σ)
  | progress (s : σ) (used : Nat)
  | abort (s : σ) (result : ρ)

inductive Outcome (σ : Type u) (ρ : Type v) where
  | ended (remaining : Nat) (progressed : Bool) (s : σ)
  | aborted (s : σ) (result : ρ)

/-- One pass from `index` with `n` indices left; it stops early when the budget is used. -/
def scan (count : Nat) (body : Nat → Nat → σ → Turn σ ρ) :
    Nat → Nat → Nat → Bool → σ → Outcome σ ρ
  | 0, _, remaining, progressed, s => .ended remaining progressed s
  | n + 1, index, remaining, progressed, s =>
    match body index remaining s with
    | .pass s | .idle s => scan count body n (advance count index) remaining progressed s
    | .progress s used =>
      if remaining - used = 0 then .ended 0 true s
      else scan count body n (advance count index) (remaining - used) true s
    | .abort s result => .aborted s result

/-- Passes from the cursor, as long as budget remains and the last pass made progress. -/
def rounds (count : Nat) (body : Nat → Nat → σ → Turn σ ρ) (next : σ → Nat) :
    Nat → Nat → Bool → σ → Outcome σ ρ
  | 0, remaining, made, s => .ended remaining made s
  | fuel + 1, remaining, made, s =>
    if remaining = 0 then .ended remaining made s
    else match scan count body count (next s) remaining false s with
      | .aborted s result => .aborted s result
      | .ended remaining progressed s =>
        if progressed then rounds count body next fuel remaining true s
        else .ended remaining made s

section Rules

variable {count : Nat} {body : Nat → Nat → σ → Turn σ ρ} {next : σ → Nat}

/-- An invariant of the position, the remaining budget, the progress made and the state,
with what holds after an abort. -/
structure Invariant (count : Nat) (body : Nat → Nat → σ → Turn σ ρ) (next : σ → Nat)
    (J : Nat → Nat → Bool → σ → Prop) (A : σ → ρ → Prop) : Prop where
  pass : ∀ {i r made s s'}, 0 < r → J i r made s → body i r s = .pass s' →
    J (advance count i) r made s'
  idle : ∀ {i r made s s'}, 0 < r → J i r made s → body i r s = .idle s' →
    J (advance count i) r made s'
  progress : ∀ {i r made s s' used}, 0 < r → J i r made s → body i r s = .progress s' used →
    J (advance count i) (r - used) true s'
  abort : ∀ {i r made s s' x}, 0 < r → J i r made s → body i r s = .abort s' x → A s' x
  restart : ∀ {i r made s}, J i r made s → J (next s) r made s

/-- The invariant at the end of an outcome, whatever the position. -/
def Outcome.Satisfies (J : Nat → Nat → Bool → σ → Prop) (A : σ → ρ → Prop) : Outcome σ ρ → Prop
  | .ended remaining made s => ∃ index, J index remaining made s
  | .aborted s result => A s result

theorem Invariant.scan {J : Nat → Nat → Bool → σ → Prop} {A : σ → ρ → Prop}
    (h : Invariant count body next J A) (made : Bool) (n : Nat) :
    ∀ {index remaining : Nat} {progressed : Bool} {s : σ}, 0 < remaining →
      J index remaining (made || progressed) s →
      (scan count body n index remaining progressed s).Satisfies
        (fun i r progressed s => J i r (made || progressed) s) A := by
  induction n with
  | zero =>
    intro index remaining progressed s _ hJ
    exact ⟨index, hJ⟩
  | succ n ih =>
    intro index remaining progressed s hr hJ
    unfold RoundRobin.scan
    split
    · rename_i s' hturn
      exact ih hr (h.pass hr hJ hturn)
    · rename_i s' hturn
      exact ih hr (h.idle hr hJ hturn)
    · rename_i s' used hturn
      have hafter := h.progress hr hJ hturn
      have htrue : (made || true) = true := Bool.or_true made
      split
      · rename_i hzero
        refine ⟨advance count index, ?_⟩
        change J _ 0 (made || true) s'
        rw [htrue, ← hzero]
        exact hafter
      · rename_i hpos
        exact ih (Nat.pos_of_ne_zero hpos) (by rw [htrue]; exact hafter)
    · rename_i s' x hturn
      exact h.abort hr hJ hturn

theorem Invariant.rounds {J : Nat → Nat → Bool → σ → Prop} {A : σ → ρ → Prop}
    (h : Invariant count body next J A) (fuel : Nat) :
    ∀ (index remaining : Nat) (made : Bool) {s : σ}, J index remaining made s →
      (rounds count body next fuel remaining made s).Satisfies J A := by
  induction fuel with
  | zero =>
    intro index remaining made s hJ
    exact ⟨index, hJ⟩
  | succ fuel ih =>
    intro index remaining made s hJ
    unfold RoundRobin.rounds
    split
    · exact ⟨index, hJ⟩
    · rename_i hr
      have hscan := h.scan made count (Nat.pos_of_ne_zero hr)
        (by rw [Bool.or_false]; exact h.restart hJ)
      split
      · rename_i s' x hend
        rw [hend] at hscan
        exact hscan
      · rename_i remaining' progressed s' hend
        rw [hend] at hscan
        obtain ⟨index', hJ'⟩ := hscan
        split
        · rename_i hp
          rw [hp, Bool.or_true] at hJ'
          exact ih _ _ _ hJ'
        · rename_i hp
          rw [Bool.not_eq_true] at hp
          rw [hp, Bool.or_false] at hJ'
          exact ⟨index', hJ'⟩

/-- The state a turn leads to, with or without an abort. -/
def Turn.Leads (K A : σ → Prop) : Turn σ ρ → Prop
  | .pass s | .idle s | .progress s _ => K s
  | .abort s _ => A s

/-- An invariant that the budget plays no part in. -/
theorem Invariant.of_turn {J : Nat → σ → Prop} {A : σ → Prop}
    (hturn : ∀ {i r s}, J i s → (body i r s).Leads (J (advance count i)) A)
    (hrestart : ∀ {i s}, J i s → J (next s) s) :
    Invariant count body next (fun i _ _ s => J i s) (fun s _ => A s) := by
  constructor
  · intro i r made s s' _ hJ heq
    have hleads := hturn (r := r) hJ
    rwa [heq] at hleads
  · intro i r made s s' _ hJ heq
    have hleads := hturn (r := r) hJ
    rwa [heq] at hleads
  · intro i r made s s' used _ hJ heq
    have hleads := hturn (r := r) hJ
    rwa [heq] at hleads
  · intro i r made s s' x _ hJ heq
    have hleads := hturn (r := r) hJ
    rwa [heq] at hleads
  · intro i r made s hJ
    exact hrestart hJ

variable (count body next) in
/-- A reflexive and transitive relation that holds of every turn holds of the rounds. -/
theorem rounds_relation (R : σ → σ → Prop) (hrefl : ∀ s, R s s)
    (htrans : ∀ {s t u}, R s t → R t u → R s u)
    (hturn : ∀ i r s, (body i r s).Leads (R s) (R s)) (fuel remaining : Nat) (made : Bool) (s : σ) :
    (rounds count body next fuel remaining made s).Satisfies (fun _ _ _ t => R s t)
      (fun t _ => R s t) := by
  have hinv : Invariant count body next (fun _ _ _ t => R s t) (fun t _ => R s t) := by
    refine Invariant.of_turn (J := fun _ t => R s t) (A := fun t => R s t) ?_ id
    intro i r t ht
    have hleads := hturn i r t
    cases hbody : body i r t with
    | pass t' | idle t' | progress t' used | abort t' x =>
      rw [hbody] at hleads
      exact htrans ht hleads
  exact hinv.rounds fuel 0 remaining made (hrefl s)

/-- A pass that makes progress uses some of the budget. -/
theorem scan_remaining (hused : ∀ {i r s s' used}, body i r s = .progress s' used → 0 < used)
    (n : Nat) : ∀ {index remaining remaining' : Nat} {progressed progressed' : Bool} {s s' : σ},
      0 < remaining →
      scan count body n index remaining progressed s = .ended remaining' progressed' s' →
      remaining' ≤ remaining ∧ (progressed' = true → progressed = true ∨ remaining' < remaining) := by
  induction n with
  | zero =>
    intro index remaining remaining' progressed progressed' s s' _ hend
    simp only [scan, Outcome.ended.injEq] at hend
    obtain ⟨rfl, rfl, _⟩ := hend
    exact ⟨Nat.le_refl _, Or.inl⟩
  | succ n ih =>
    intro index remaining remaining' progressed progressed' s s' hr hend
    unfold scan at hend
    split at hend
    · exact ih hr hend
    · exact ih hr hend
    · rename_i s'' used hturn
      have hpos := hused hturn
      split at hend
      · simp only [Outcome.ended.injEq] at hend
        obtain ⟨rfl, _, _⟩ := hend
        exact ⟨Nat.zero_le _, fun _ => Or.inr hr⟩
      · rename_i hne
        obtain ⟨hle, _⟩ := ih (Nat.pos_of_ne_zero hne) hend
        exact ⟨by omega, fun _ => Or.inr (by omega)⟩
    · simp at hend

/-- Every pass that is repeated used some budget, so the budget is fuel enough. -/
theorem rounds_fuel (hused : ∀ {i r s s' used}, body i r s = .progress s' used → 0 < used) :
    ∀ (fuel : Nat) {remaining : Nat} (made : Bool) (s : σ), remaining ≤ fuel →
      rounds count body next fuel remaining made s =
        rounds count body next remaining remaining made s := by
  intro fuel
  induction fuel using Nat.strongRecOn with
  | ind fuel ih =>
    intro remaining made s hle
    cases fuel with
    | zero =>
      obtain rfl := Nat.le_zero.mp hle
      rfl
    | succ fuel =>
      cases remaining with
      | zero => rfl
      | succ remaining =>
        simp only [rounds, Nat.succ_ne_zero, if_false]
        cases hend : scan count body count (next s) (remaining + 1) false s with
        | aborted s' x => rfl
        | ended remaining' progressed s' =>
          cases progressed with
          | false => rfl
          | true =>
            have hless := (scan_remaining hused count (Nat.succ_pos _) hend).2 rfl
            have hlt : remaining' < remaining + 1 := by simpa using hless
            simp only [if_true]
            rw [ih fuel (Nat.lt_succ_self _) true s' (by omega)]
            by_cases hsame : remaining = fuel
            · rw [hsame, ih fuel (Nat.lt_succ_self _) true s' (by omega)]
            · rw [ih remaining (by omega) true s' (by omega)]

end Rules

inductive Event where
  | passed (index : Nat)
  | visited (index : Nat)
  deriving DecidableEq, Repr

/-- The events of a run, the cursor and the position after them. -/
inductive Trace (count : Nat) : List Event → Nat → Nat → Prop where
  | start {next : Nat} : next < count → Trace count [] next next
  | passed {events : List Event} {next index : Nat} : Trace count events next index →
      Trace count (events ++ [.passed index]) next (advance count index)
  | visited {events : List Event} {next index : Nat} : Trace count events next index →
      Trace count (events ++ [.visited index]) (advance count index) (advance count index)
  | restart {events : List Event} {next index : Nat} : Trace count events next index →
      Trace count events next next

/-- The number of steps from `i` forward to `j`. -/
def distance (count i j : Nat) : Nat := if i ≤ j then j - i else count + j - i

section Fairness

variable {count : Nat}

theorem advance_lt {i : Nat} (h : 0 < count) : advance count i < count := by
  unfold advance
  split <;> omega

theorem distance_advance {i j : Nat} (hi : i < count) (hj : j < count) (hne : i ≠ j) :
    distance count (advance count i) j + 1 = distance count i j := by
  unfold distance advance
  split <;> split <;> split <;> omega

theorem distance_behind {i j : Nat} (hi : i < count) (hj : j < count) (hne : j ≠ i) :
    distance count (advance count i) j < distance count (advance count i) i := by
  unfold distance advance
  split <;> split <;> split <;> omega

theorem Trace.bounds {events : List Event} {next index : Nat} (h : Trace count events next index) :
    next < count ∧ index < count := by
  induction h with
  | start hlt => exact ⟨hlt, hlt⟩
  | passed _ ih => exact ⟨ih.1, advance_lt (Nat.zero_lt_of_lt ih.1)⟩
  | visited _ ih =>
    have hpos := Nat.zero_lt_of_lt ih.1
    exact ⟨advance_lt hpos, advance_lt hpos⟩
  | restart _ ih => exact ⟨ih.1, ih.1⟩

theorem Trace.of_append {events later : List Event} {next index : Nat}
    (h : Trace count (events ++ later) next index) :
    ∃ next' index', Trace count events next' index' := by
  generalize hall : events ++ later = all at h
  induction h generalizing later with
  | start hlt =>
    obtain ⟨rfl, _⟩ := List.append_eq_nil_iff.mp hall
    exact ⟨_, _, .start hlt⟩
  | passed htrace ih =>
    rcases List.eq_nil_or_concat later with rfl | ⟨later', e, rfl⟩
    · rw [List.append_nil] at hall
      exact hall ▸ ⟨_, _, .passed htrace⟩
    · rw [List.concat_eq_append, ← List.append_assoc] at hall
      exact ih (List.append_inj' hall rfl).1
  | visited htrace ih =>
    rcases List.eq_nil_or_concat later with rfl | ⟨later', e, rfl⟩
    · rw [List.append_nil] at hall
      exact hall ▸ ⟨_, _, .visited htrace⟩
    · rw [List.concat_eq_append, ← List.append_assoc] at hall
      exact ih (List.append_inj' hall rfl).1
  | restart _ ih => exact ih hall

/-- A list that ends in `x` and is split around `y`: either `y` is that end, or the end
lies behind `y`. -/
theorem snoc_eq_append_cons {α : Type u} {xs before after : List α} {x y : α}
    (h : xs ++ [x] = before ++ y :: after) :
    (xs = before ∧ x = y ∧ after = []) ∨ ∃ after', after = after' ++ [x] ∧ xs = before ++ y :: after' := by
  rcases List.eq_nil_or_concat after with rfl | ⟨after', z, rfl⟩
  · obtain ⟨hxs, hx⟩ := List.append_inj' h rfl
    exact Or.inl ⟨hxs, by simpa using hx, rfl⟩
  · rw [List.concat_eq_append, ← List.cons_append, ← List.append_assoc] at h
    obtain ⟨hxs, hx⟩ := List.append_inj' h rfl
    obtain rfl : x = z := by simpa using hx
    exact Or.inr ⟨after', List.concat_eq_append, hxs⟩

/-- After a visit of `a`, and until `b` is visited or passed over, `b` lies before `a` on
the way of the scan and on the way of any scan from the cursor. -/
theorem Trace.ahead {a b : Nat} (ha : a < count) (hb : b < count) (hne : b ≠ a)
    {events : List Event} {next index : Nat} (h : Trace count events next index) :
    ∀ {before since : List Event}, events = before ++ .visited a :: since →
      .passed b ∉ since → .visited b ∉ since →
      .visited a ∉ since ∧ distance count index b < distance count index a ∧
        distance count next b < distance count next a := by
  have hself : distance count a a = 0 := by simp [distance]
  induction h with
  | start =>
    intro before since hall
    simp at hall
  | @passed events next index htrace ih =>
    intro before since hall hpassed hvisited
    have hbound := htrace.bounds
    rcases snoc_eq_append_cons hall with ⟨_, hlast, _⟩ | ⟨since', rfl, hbefore⟩
    · simp at hlast
    · simp only [List.mem_append, List.mem_singleton, not_or] at hpassed hvisited ⊢
      obtain ⟨hnew, hindex, hnext⟩ := ih hbefore hpassed.1 hvisited.1
      have hib : index ≠ b := by
        rintro rfl
        exact hpassed.2 rfl
      have hia : index ≠ a := by
        rintro rfl
        omega
      have hstepb := distance_advance hbound.2 hb hib
      have hstepa := distance_advance hbound.2 ha hia
      exact ⟨⟨hnew, by simp⟩, by omega, hnext⟩
  | @visited events next index htrace ih =>
    intro before since hall hpassed hvisited
    have hbound := htrace.bounds
    rcases snoc_eq_append_cons hall with ⟨_, hlast, rfl⟩ | ⟨since', rfl, hbefore⟩
    · obtain rfl : index = a := Event.visited.inj hlast
      have hbehind := distance_behind hbound.2 hb hne
      exact ⟨by simp, hbehind, hbehind⟩
    · simp only [List.mem_append, List.mem_singleton, not_or] at hpassed hvisited ⊢
      obtain ⟨hnew, hindex, hnext⟩ := ih hbefore hpassed.1 hvisited.1
      have hib : index ≠ b := by
        rintro rfl
        exact hvisited.2 rfl
      have hia : index ≠ a := by
        rintro rfl
        omega
      have hstepb := distance_advance hbound.2 hb hib
      have hstepa := distance_advance hbound.2 ha hia
      refine ⟨⟨hnew, ?_⟩, by omega, by omega⟩
      intro heq
      exact hia (Event.visited.inj heq).symm
  | restart _ ih =>
    intro before since hall hpassed hvisited
    obtain ⟨hnew, _, hnext⟩ := ih hall hpassed hvisited
    exact ⟨hnew, hnext, hnext⟩

/-- Fairness: between two visits of `a`, an index that is never passed over is visited. -/
theorem Trace.fair {a b : Nat} (ha : a < count) (hb : b < count) (hne : b ≠ a)
    {before between after : List Event} {next index : Nat}
    (h : Trace count (before ++ .visited a :: (between ++ .visited a :: after)) next index)
    (hpassed : .passed b ∉ between) : .visited b ∈ between := by
  by_contra hvisited
  have hsplit : before ++ Event.visited a :: (between ++ .visited a :: after) =
      (before ++ .visited a :: (between ++ [.visited a])) ++ after := by simp
  rw [hsplit] at h
  obtain ⟨next', index', htrace⟩ := h.of_append
  have hahead := htrace.ahead ha hb hne rfl (by simpa using hpassed)
    (by simpa [hne] using hvisited)
  exact hahead.1 (by simp)

end Fairness

end RoundRobin
