import Mathlib.Data.List.Infix

/-!
# Runs of a machine

A deterministic machine takes one input a step. A property holds always when it holds
after every prefix of the inputs. The rules turn facts about one step into facts about a
whole run.
-/

namespace Machine
set_option autoImplicit false

section Records

variable {E : Type}

/-- Every event of a record is justified by the events before it. -/
def Justified (P : List E → E → Prop) (record : List E) : Prop :=
  ∀ earlier event, earlier ++ [event] <+: record → P earlier event

variable {P : List E → E → Prop}

theorem justified_nil : Justified P [] := by
  intro earlier event hpre
  exact absurd (List.prefix_nil.mp hpre)
    (List.append_ne_nil_of_right_ne_nil _ (List.cons_ne_nil _ _))

theorem justified_snoc {record : List E} {event : E} :
    Justified P (record ++ [event]) ↔ Justified P record ∧ P record event := by
  constructor
  · intro h
    exact ⟨fun earlier next hpre => h earlier next (hpre.trans (List.prefix_append _ _)),
      h record event (List.prefix_refl _)⟩
  · rintro ⟨hrecord, hlast⟩ earlier next hpre
    rcases List.prefix_concat_iff.mp hpre with heq | hbefore
    · obtain ⟨rfl, hnext⟩ := List.append_inj' heq rfl
      rw [(List.cons.inj hnext).1]
      exact hlast
    · exact hrecord earlier next hbefore

theorem justified_cons {event : E} {events : List E} :
    Justified P (event :: events) ↔
      P [] event ∧ Justified (fun earlier next => P (event :: earlier) next) events := by
  constructor
  · intro h
    exact ⟨h [] event ⟨events, rfl⟩, fun earlier next hpre =>
      h (event :: earlier) next (List.prefix_cons_inj event |>.mpr hpre)⟩
  · rintro ⟨hhead, htail⟩ earlier next hpre
    cases earlier with
    | nil =>
      obtain ⟨rfl, _⟩ := List.cons_prefix_cons.mp hpre
      exact hhead
    | cons first rest =>
      obtain ⟨rfl, hrest⟩ := List.cons_prefix_cons.mp hpre
      exact htail rest next hrest

theorem justified_append {record : List E} (events : List E)
    (hrecord : Justified P record)
    (h : Justified (fun earlier event => P (record ++ earlier) event) events) :
    Justified P (record ++ events) := by
  induction events using List.reverseRecOn with
  | nil => rwa [List.append_nil]
  | append_singleton events event ih =>
    obtain ⟨hbefore, hlast⟩ := justified_snoc.mp h
    rw [← List.append_assoc]
    exact justified_snoc.mpr ⟨ih hbefore, hlast⟩

end Records

variable {S I : Type} (step : S → I → S)

def run (s : S) (inputs : List I) : S := inputs.foldl step s

@[simp] theorem run_nil (s : S) : run step s [] = s := rfl

@[simp] theorem run_cons (s : S) (input : I) (inputs : List I) :
    run step s (input :: inputs) = run step (step s input) inputs := rfl

theorem run_append (s : S) (earlier later : List I) :
    run step s (earlier ++ later) = run step (run step s earlier) later :=
  List.foldl_append

/-- `P` holds in every state the run goes through. -/
def Always (P : S → Prop) (s : S) (inputs : List I) : Prop :=
  ∀ earlier, earlier <+: inputs → P (run step s earlier)

/-- Every step of the run meets `C`. -/
def Each (C : S → I → Prop) (s : S) (inputs : List I) : Prop :=
  ∀ earlier input, earlier ++ [input] <+: inputs → C (run step s earlier) input

variable {step}

theorem Always.head {P : S → Prop} {s : S} {inputs : List I} (h : Always step P s inputs) : P s :=
  h [] List.nil_prefix

theorem Always.last {P : S → Prop} {s : S} {inputs : List I} (h : Always step P s inputs) :
    P (run step s inputs) :=
  h inputs (List.prefix_refl inputs)

theorem always_cons {P : S → Prop} {s : S} {input : I} {inputs : List I} :
    Always step P s (input :: inputs) ↔ P s ∧ Always step P (step s input) inputs := by
  constructor
  · intro h
    exact ⟨h.head, fun earlier hpre => h (input :: earlier) (List.prefix_cons_inj input |>.mpr hpre)⟩
  · rintro ⟨hhead, htail⟩ earlier hpre
    rcases List.prefix_cons_iff.mp hpre with rfl | ⟨rest, rfl, hrest⟩
    · exact hhead
    · exact htail rest hrest

theorem each_nil {C : S → I → Prop} {s : S} : Each step C s [] := justified_nil

theorem each_cons {C : S → I → Prop} {s : S} {input : I} {inputs : List I} :
    Each step C s (input :: inputs) ↔ C s input ∧ Each step C (step s input) inputs :=
  justified_cons

theorem each_snoc {C : S → I → Prop} {s : S} {input : I} {inputs : List I} :
    Each step C s (inputs ++ [input]) ↔ Each step C s inputs ∧ C (run step s inputs) input :=
  justified_snoc

theorem each_append {C : S → I → Prop} {s : S} {earlier later : List I} :
    Each step C s (earlier ++ later) ↔ Each step C s earlier ∧ Each step C (run step s earlier) later := by
  induction earlier generalizing s with
  | nil => exact ⟨fun h => ⟨each_nil, h⟩, And.right⟩
  | cons input earlier ih => rw [List.cons_append, each_cons, each_cons, ih, run_cons, and_assoc]

/-- An invariant that every step meeting `C` keeps holds always in a run of such steps. -/
theorem always_of_each (C : S → I → Prop) (Inv : S → Prop)
    (keep : ∀ s input, Inv s → C s input → Inv (step s input)) {s : S} (hinit : Inv s)
    {inputs : List I} (h : Each step C s inputs) : Always step Inv s inputs := by
  induction inputs generalizing s with
  | nil =>
    intro earlier hpre
    rw [List.prefix_nil.mp hpre]
    exact hinit
  | cons input inputs ih =>
    obtain ⟨hhead, htail⟩ := each_cons.mp h
    exact always_cons.mpr ⟨hinit, ih (keep s input hinit hhead) htail⟩

/-- An invariant that every step keeps holds always. -/
theorem always_of_step {Inv : S → Prop} (keep : ∀ s input, Inv s → Inv (step s input)) {s : S}
    (hinit : Inv s) (inputs : List I) : Always step Inv s inputs :=
  always_of_each (fun _ _ => True) Inv (fun s input h _ => keep s input h) hinit
    fun _ _ _ => trivial

/-- A property that a step keeps just when the step meets `C` holds always just when every step
meets it. -/
theorem always_iff_each (P : S → Prop) (C : S → I → Prop)
    (hstep : ∀ s input, P s → (P (step s input) ↔ C s input)) (s : S) (inputs : List I) :
    Always step P s inputs ↔ P s ∧ Each step C s inputs := by
  constructor
  · intro h
    refine ⟨h.head, fun earlier input hpre => ?_⟩
    have hnext := h (earlier ++ [input]) hpre
    rw [run_append, run_cons, run_nil] at hnext
    exact (hstep _ _ (h earlier ((List.prefix_append _ _).trans hpre))).mp hnext
  · rintro ⟨hfirst, heach⟩
    exact always_of_each C P (fun s input h hC => (hstep s input h).mpr hC) hfirst heach

theorem Always.imp {P Q : S → Prop} (hpq : ∀ s, P s → Q s) {s : S} {inputs : List I}
    (h : Always step P s inputs) : Always step Q s inputs :=
  fun earlier hpre => hpq _ (h earlier hpre)

/-- A condition on the record of the run that no later step repairs: `P` holds always just when
the whole run meets it, if steps that keep to it keep an invariant giving `P` and the first
step that breaks it breaks `P`. -/
theorem always_iff_final (P H Inv : S → Prop) (holds : ∀ s, Inv s → P s)
    (forget : ∀ s input, H (step s input) → H s)
    (keep : ∀ s input, Inv s → H (step s input) → Inv (step s input))
    (breaks : ∀ s input, Inv s → ¬H (step s input) → ¬P (step s input)) {s : S}
    (hinit : Inv s) (hstart : H s) (inputs : List I) :
    Always step P s inputs ↔ H (run step s inputs) := by
  induction inputs generalizing s with
  | nil =>
    refine ⟨fun _ => hstart, fun _ earlier hpre => ?_⟩
    rw [List.prefix_nil.mp hpre]
    exact holds s hinit
  | cons input inputs ih =>
    rw [always_cons, run_cons]
    by_cases hnext : H (step s input)
    · rw [ih (keep s input hinit hnext) hnext]
      exact ⟨fun h => h.2, fun h => ⟨holds s hinit, h⟩⟩
    · have hlost : ∀ (later : List I) (t : S), ¬H t → ¬H (run step t later) := by
        intro later
        induction later with
        | nil => exact fun _ h => h
        | cons next later ihl => exact fun t h => ihl _ fun hn => h (forget t next hn)
      exact ⟨fun h => absurd h.2.head (breaks s input hinit hnext),
        fun h => absurd h (hlost inputs _ hnext)⟩

/-- A flag that a fallible attempt raises whatever its outcome: the flag stands for a success in
every state just when the first attempt of the run succeeds. -/
theorem always_iff_first {R : Type} (raised : S → Prop) (attempts : S → List R) (ok : R)
    (hstep : ∀ s input,
      (attempts (step s input) = attempts s ∧ (raised (step s input) → raised s)) ∨
      ∃ r, attempts (step s input) = attempts s ++ [r] ∧ (r ≠ ok → raised (step s input)))
    {s : S} (hnone : attempts s = []) (hdown : ¬raised s) (inputs : List I) :
    Always step (fun s => raised s → ok ∈ attempts s) s inputs ↔
      ∀ r, (attempts (run step s inputs)).head? = some r → r = ok := by
  apply always_iff_final (fun s => raised s → ok ∈ attempts s)
    (fun s => ∀ r, (attempts s).head? = some r → r = ok)
    (fun s => (raised s → attempts s ≠ []) ∧ ∀ r, (attempts s).head? = some r → r = ok)
  · intro s hinv hraised
    cases hattempts : attempts s with
    | nil => exact absurd hattempts (hinv.1 hraised)
    | cons r rest =>
      have hok : r = ok := hinv.2 r (by rw [hattempts]; rfl)
      rw [hok]
      exact List.mem_cons_self
  · intro s input hnext r hr
    apply hnext r
    rcases hstep s input with ⟨hsame, _⟩ | ⟨r', hmore, _⟩
    · rwa [hsame]
    · rw [hmore, List.head?_append, hr]
      rfl
  · intro s input hinv hnext
    refine ⟨fun hraised => ?_, hnext⟩
    rcases hstep s input with ⟨hsame, hback⟩ | ⟨r', hmore, _⟩
    · rw [hsame]
      exact hinv.1 (hback hraised)
    · rw [hmore]
      exact List.append_ne_nil_of_right_ne_nil _ (List.cons_ne_nil _ _)
  · intro s input hinv hnext hholds
    rcases hstep s input with ⟨hsame, _⟩ | ⟨r', hmore, hraised⟩
    · apply hnext
      rw [hsame]
      exact hinv.2
    · cases hattempts : attempts s with
      | nil =>
        rw [hattempts, List.nil_append] at hmore
        rw [hmore] at hnext hholds
        have hfailed : r' ≠ ok := by
          intro hok
          apply hnext
          intro r hr
          rw [← hok]
          exact (Option.some.inj hr).symm
        exact hfailed (List.mem_singleton.mp (hholds (hraised hfailed))).symm
      | cons r rest =>
        apply hnext
        intro q hq
        apply hinv.2 q
        rw [hmore, hattempts] at hq
        rw [hattempts]
        exact hq
  · exact ⟨fun hraised => absurd hraised hdown, by simp [hnone]⟩
  · simp [hnone]

section Recency

/-- The last step of the run where `A` happened. -/
structure LastAt (step : S → I → S) (A : S → I → Prop) (s : S) (inputs before : List I) (input : I)
    (between : List I) : Prop where
  split : inputs = before ++ input :: between
  happened : A (run step s before) input
  since : Each step (fun t next => ¬A t next) (run step s (before ++ [input])) between

variable {A : S → I → Prop} {s : S} {inputs before between : List I} {input : I}

theorem lastAt_now (h : A (run step s inputs) input) :
    LastAt step A s (inputs ++ [input]) inputs input [] where
  split := rfl
  happened := h
  since := each_nil

theorem LastAt.later {next : I} (h : LastAt step A s inputs before input between)
    (hnext : ¬A (run step s inputs) next) :
    LastAt step A s (inputs ++ [next]) before input (between ++ [next]) where
  split := by rw [h.split, List.append_assoc, List.cons_append]
  happened := h.happened
  since := by
    refine each_snoc.mpr ⟨h.since, ?_⟩
    rw [← run_append, List.append_assoc, List.singleton_append, ← h.split]
    exact hnext

theorem LastAt.unique {before' between' : List I} {input' : I}
    (h : LastAt step A s inputs before input between)
    (h' : LastAt step A s inputs before' input' between') : before = before' ∧ between = between' := by
  have hlater {before before' between between' : List I} {input input' : I}
      (h : LastAt step A s inputs before input between)
      (h' : LastAt step A s inputs before' input' between') (rest : List I)
      (hbefore : before' = before ++ rest) (hbetween : input :: between = rest ++ input' :: between') :
      rest = [] := by
    cases rest with
    | nil => rfl
    | cons first rest =>
      obtain ⟨rfl, hrest⟩ := List.cons.inj hbetween
      have hnot := h.since rest input' ⟨between', by rw [hrest, List.append_assoc]; rfl⟩
      rw [← run_append, List.append_assoc, List.singleton_append, ← hbefore] at hnot
      exact absurd h'.happened hnot
  have hnil : before = before' := by
    rcases List.append_eq_append_iff.mp (h.split.symm.trans h'.split) with
      ⟨rest, hbefore, hbetween⟩ | ⟨rest, hbefore, hbetween⟩
    · rw [hbefore, hlater h h' rest hbefore hbetween, List.append_nil]
    · rw [hbefore, hlater h' h rest hbefore hbetween, List.append_nil]
  have hsplit := h.split.symm.trans h'.split
  rw [hnil] at hsplit
  exact ⟨hnil, (List.cons.inj (List.append_cancel_left hsplit)).2⟩

/-- The last step of a longer run: the new input, or the last step before it. -/
theorem LastAt.of_snoc {next : I} (h : LastAt step A s (inputs ++ [next]) before input between) :
    (before = inputs ∧ between = []) ∨
      ∃ rest, between = rest ++ [next] ∧ LastAt step A s inputs before input rest := by
  cases between using List.reverseRecOn with
  | nil =>
    left
    exact ⟨(List.append_inj' h.split rfl).1.symm, rfl⟩
  | append_singleton rest last _ =>
    right
    have hsplit := h.split
    rw [← List.cons_append, ← List.append_assoc] at hsplit
    obtain ⟨hinputs, hlast⟩ := List.append_inj' hsplit rfl
    rw [(List.cons.inj hlast).1]
    exact ⟨rest, rfl, hinputs, h.happened, (each_snoc.mp h.since).1⟩

end Recency

section Alterations

/-- Two lists of inputs that differ by inert inputs only. -/
inductive Altered (inert : I → Prop) : List I → List I → Prop where
  | nil : Altered inert [] []
  | kept {input : I} {inputs inputs' : List I} : Altered inert inputs inputs' →
    Altered inert (input :: inputs) (input :: inputs')
  | deleted {input : I} {inputs inputs' : List I} : inert input → Altered inert inputs inputs' →
    Altered inert (input :: inputs) inputs'
  | inserted {input : I} {inputs inputs' : List I} : inert input → Altered inert inputs inputs' →
    Altered inert inputs (input :: inputs')

variable {inert : I → Prop} {inputs inputs' : List I}

theorem Altered.points (h : Altered inert inputs inputs') :
    ∀ earlier, earlier <+: inputs →
      ∃ earlier', earlier' <+: inputs' ∧ Altered inert earlier earlier' := by
  induction h with
  | nil =>
    intro earlier hpre
    rw [List.prefix_nil.mp hpre]
    exact ⟨[], List.nil_prefix, .nil⟩
  | kept _ ih =>
    intro earlier hpre
    rcases List.prefix_cons_iff.mp hpre with rfl | ⟨rest, rfl, hrest⟩
    · exact ⟨[], List.nil_prefix, .nil⟩
    · obtain ⟨rest', hpre', haltered⟩ := ih rest hrest
      exact ⟨_ :: rest', (List.prefix_cons_inj _).mpr hpre', .kept haltered⟩
  | deleted hinert _ ih =>
    intro earlier hpre
    rcases List.prefix_cons_iff.mp hpre with rfl | ⟨rest, rfl, hrest⟩
    · exact ⟨[], List.nil_prefix, .nil⟩
    · obtain ⟨rest', hpre', haltered⟩ := ih rest hrest
      exact ⟨rest', hpre', .deleted hinert haltered⟩
  | inserted hinert _ ih =>
    intro earlier hpre
    obtain ⟨rest', hpre', haltered⟩ := ih earlier hpre
    exact ⟨_ :: rest', (List.prefix_cons_inj _).mpr hpre', .inserted hinert haltered⟩

/-- Inputs that change nothing that is observed change nothing that is observed later, if the
observation after a step depends on the observation before it. -/
theorem Altered.observe_eq {O : Type} (observe : S → O) (Inv : S → Prop)
    (keep : ∀ s input, Inv s → Inv (step s input))
    (quiet : ∀ s input, Inv s → inert input → observe (step s input) = observe s)
    (congr : ∀ s t input, observe s = observe t → observe (step s input) = observe (step t input))
    (h : Altered inert inputs inputs') :
    ∀ s t, Inv s → Inv t → observe s = observe t →
      observe (run step s inputs) = observe (run step t inputs') := by
  induction h with
  | nil => exact fun _ _ _ _ hst => hst
  | kept _ ih =>
    intro s t hs ht hst
    exact ih _ _ (keep _ _ hs) (keep _ _ ht) (congr _ _ _ hst)
  | deleted hinert _ ih =>
    intro s t hs ht hst
    exact ih _ _ (keep _ _ hs) ht ((quiet _ _ hs hinert).trans hst)
  | inserted hinert _ ih =>
    intro s t hs ht hst
    exact ih _ _ hs (keep _ _ ht) (hst.trans (quiet _ _ ht hinert).symm)

end Alterations

end Machine
