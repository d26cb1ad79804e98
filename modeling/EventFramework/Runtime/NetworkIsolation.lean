import EventFramework.Runtime.NetworkOutbox
import Mathlib.Data.List.Induction

/-!
# Isolation of the network categories

A category is isolated when its items stay within its limit and a push that evicts takes
the oldest item of its own category. The outbox isolates its categories in exactly those
runs where every drop meets an item of the pushed category at the head of the ring.
-/

namespace EventFramework
set_option autoImplicit false

inductive NetworkOutboxOp where
  | push (category : NetworkMsgCategory) (payload : Option (List UInt8)) (size : Nat)
  | pop
  deriving DecidableEq, Repr

namespace NetworkOutbox

def step (policy : NetworkBackpressurePolicy) (outbox : NetworkOutbox) :
    NetworkOutboxOp → Result × NetworkOutbox
  | .push category payload size => outbox.push policy category payload size
  | .pop => (outbox.pop.1, outbox.pop.2.2)

def run (policy : NetworkBackpressurePolicy) (outbox : NetworkOutbox) :
    List NetworkOutboxOp → NetworkOutbox
  | [] => outbox
  | op :: ops => run policy (outbox.step policy op).2 ops

def Bounded (policy : NetworkBackpressurePolicy) (outbox : NetworkOutbox) : Prop :=
  ∀ category, policy.categoryLimit category ≠ 0 →
    inCategory outbox.queued category ≤ policy.categoryLimit category

/-- The queue took an item without growing, and what went is the oldest item of the
pushed category. -/
def EvictsOwnOldest (category : NetworkMsgCategory) (before after : List NetworkOutboxItem) : Prop :=
  ∃ passed old later item, before = passed ++ old :: later ∧ after = passed ++ later ++ [item] ∧
    item.category = category ∧ old.category = category ∧ ∀ other ∈ passed, other.category ≠ category

/-- An evicting step: a push that succeeds while the queue does not grow. -/
def StepIsolated (policy : NetworkBackpressurePolicy) (outbox : NetworkOutbox) :
    NetworkOutboxOp → Prop
  | .push category payload size =>
    let out := outbox.push policy category payload size
    out.1 = .ok → out.2.pending ≤ outbox.pending →
      EvictsOwnOldest category outbox.queued out.2.queued
  | .pop => True

/-- The categories are isolated in every state and step of the run from `init`. -/
def Isolated (policy : NetworkBackpressurePolicy) (ops : List NetworkOutboxOp) : Prop :=
  (∀ done todo, ops = done ++ todo → (init.run policy done).Bounded policy) ∧
    ∀ done op todo, ops = done ++ op :: todo → (init.run policy done).StepIsolated policy op

def HeadIsOwn (policy : NetworkBackpressurePolicy) (outbox : NetworkOutbox) : NetworkOutboxOp → Prop
  | .push category _ _ =>
    outbox.Drops policy category → (outbox.items outbox.headIndex).category = category
  | .pop => True

theorem run_append (policy : NetworkBackpressurePolicy) (outbox : NetworkOutbox)
    (ops ops' : List NetworkOutboxOp) :
    outbox.run policy (ops ++ ops') = (outbox.run policy ops).run policy ops' := by
  induction ops generalizing outbox with
  | nil => rfl
  | cons op ops ih => exact ih _

theorem step_wf {outbox : NetworkOutbox} (h : outbox.Wf) (policy : NetworkBackpressurePolicy)
    (op : NetworkOutboxOp) : (outbox.step policy op).2.Wf := by
  cases op with
  | push category payload size => exact (push_cases h policy category payload size).1
  | pop => exact (pop_cases h).1

theorem run_wf {outbox : NetworkOutbox} (h : outbox.Wf) (policy : NetworkBackpressurePolicy)
    (ops : List NetworkOutboxOp) : (outbox.run policy ops).Wf := by
  induction ops generalizing outbox with
  | nil => exact h
  | cons op ops ih => exact ih (step_wf h policy op)

theorem Bounded.append {policy : NetworkBackpressurePolicy} {outbox' : NetworkOutbox}
    {kept : List NetworkOutboxItem} {item : NetworkOutboxItem}
    (hqueued : outbox'.queued = kept ++ [item])
    (hkept : ∀ category, policy.categoryLimit category ≠ 0 →
      inCategory kept category ≤ policy.categoryLimit category)
    (hroom : policy.categoryLimit item.category ≠ 0 →
      inCategory kept item.category < policy.categoryLimit item.category) :
    outbox'.Bounded policy := by
  intro category hlimit
  have hle := hkept category hlimit
  rw [hqueued]
  simp only [inCategory, List.countP_append, List.countP_singleton] at hle hroom ⊢
  by_cases he : item.category = category
  · subst he
    have := hroom hlimit
    simp only [beq_self_eq_true, if_true]
    omega
  · have hne : (item.category == category) = false := by simpa using he
    simpa [hne] using hle

/-- Step lemma: a step whose drop meets an item of its own category keeps the limits. -/
theorem step_bounded {outbox : NetworkOutbox} (h : outbox.Wf) {policy : NetworkBackpressurePolicy}
    (hbounded : outbox.Bounded policy) {op : NetworkOutboxOp} (hown : outbox.HeadIsOwn policy op) :
    (outbox.step policy op).2.Bounded policy := by
  cases op with
  | push category payload size =>
    have hcategory := outbox.stored_category category payload size
    obtain ⟨_, ⟨hdrops, _, first, rest, hq, hafter⟩ | ⟨_, _, hsame⟩ | ⟨_, _, hafter, hbelow⟩⟩ :=
      push_cases h policy category payload size
    · have hfirst := hown hdrops
      rw [queued_head hq] at hfirst
      have hle : ∀ category', policy.categoryLimit category' ≠ 0 →
          inCategory rest category' ≤ policy.categoryLimit category' := by
        intro category' hlimit
        have := hbounded category' hlimit
        rw [hq, inCategory, List.countP_cons] at this
        exact Nat.le_trans (Nat.le_add_right _ _) this
      refine Bounded.append hafter hle ?_
      intro hlimit
      have := hbounded category (hcategory ▸ hlimit)
      rw [hq, inCategory, List.countP_cons, hfirst, beq_self_eq_true, if_pos rfl] at this
      rw [hcategory]
      exact this
    · intro category' hlimit
      exact hsame ▸ hbounded category' hlimit
    · exact Bounded.append hafter hbounded (hcategory ▸ hbelow)
  | pop =>
    rcases (pop_cases h).2 with ⟨_, hsame⟩ | ⟨first, hq, _⟩
    · intro category hlimit
      have := hbounded category hlimit
      rwa [step, hsame]
    · intro category hlimit
      have := hbounded category hlimit
      rw [hq, inCategory, List.countP_cons] at this
      exact Nat.le_trans (Nat.le_add_right _ _) this

/-- A drop evicts the head; it is the oldest of its own category just when it is of the
pushed category at all. -/
theorem stepIsolated_iff {outbox : NetworkOutbox} (h : outbox.Wf)
    (policy : NetworkBackpressurePolicy) (op : NetworkOutboxOp) :
    outbox.StepIsolated policy op ↔ outbox.HeadIsOwn policy op := by
  cases op with
  | pop => exact Iff.rfl
  | push category payload size =>
    have hlength := outbox.length_queued
    have hlength' := (outbox.push policy category payload size).2.length_queued
    obtain ⟨_, ⟨hdrops, hok, first, rest, hq, hafter⟩ | ⟨hkeeps, hfail, _⟩ | ⟨hkeeps, _, hafter, _⟩⟩ :=
      push_cases h policy category payload size
    · have hhead := queued_head hq
      have hsize : (outbox.push policy category payload size).2.pending ≤ outbox.pending := by
        rw [← hlength, ← hlength', hq, hafter]
        simp
      constructor
      · intro hisolated _
        obtain ⟨passed, old, later, item', hbefore, hafter', _, hold, hpassed⟩ :=
          hisolated hok hsize
        rw [hhead]
        rw [hq] at hbefore
        rw [hafter] at hafter'
        cases passed with
        | nil => exact (List.cons.inj hbefore).1 ▸ hold
        | cons other passed =>
          -- Two readings of one queue: the old item would be among those passed over.
          exfalso
          have hrest : rest = passed ++ old :: later := (List.cons.inj hbefore).2
          have hsame := (List.append_inj' hafter' rfl).1
          rw [hrest, List.append_cons] at hsame
          have hshift := List.append_cancel_right hsame
          apply hpassed old _ hold
          rw [← hshift]
          simp
      · intro hown _ _
        have hfirst := hown hdrops
        rw [hhead] at hfirst
        exact ⟨[], first, rest, _, hq, hafter, outbox.stored_category .., hfirst, by simp⟩
    · exact ⟨fun _ hdrops => absurd hdrops hkeeps, fun _ hok _ => absurd hok hfail⟩
    · refine ⟨fun _ hdrops => absurd hdrops hkeeps, fun _ _ hsize => ?_⟩
      rw [← hlength, ← hlength', hafter, List.length_append, List.length_singleton] at hsize
      omega

/-- The outbox isolates its categories in exactly the runs where each drop finds an item
of the pushed category at the head of the ring. -/
theorem isolated_iff (policy : NetworkBackpressurePolicy) (ops : List NetworkOutboxOp) :
    Isolated policy ops ↔
      ∀ done op todo, ops = done ++ op :: todo → (init.run policy done).HeadIsOwn policy op := by
  have hwf := fun done => run_wf init_wf policy done
  constructor
  · intro hisolated done op todo hops
    exact (stepIsolated_iff (hwf done) policy op).mp (hisolated.2 done op todo hops)
  · intro hown
    refine ⟨?_, fun done op todo hops =>
      (stepIsolated_iff (hwf done) policy op).mpr (hown done op todo hops)⟩
    intro done
    induction done using List.reverseRecOn with
    | nil =>
      intro todo _ category _
      have hnone : init.queued = [] := rfl
      rw [run, hnone]
      exact Nat.zero_le _
    | append_singleton done op ih =>
      intro todo hops
      rw [List.append_assoc, List.singleton_append] at hops
      rw [run_append]
      exact step_bounded (hwf done) (ih _ hops) (hown done op todo hops)

/-- Telemetry is limited to one item and drops the oldest, faults have no limit. -/
def telemetryFirstPolicy : NetworkBackpressurePolicy where
  categoryLimit := fun category => if category = .telemetryLatest then 1 else 0
  dropOldest := fun category => if category = .telemetryLatest then 1 else 0

/-- A fault ahead of the telemetry in the ring is lost, and telemetry passes its limit. -/
theorem telemetry_evicts_fault : ¬ Isolated telemetryFirstPolicy
    [.push .faultCritical none 0, .push .telemetryLatest none 0, .push .telemetryLatest none 0] := by
  intro hisolated
  have hbounded := hisolated.1 _ [] (List.append_nil _).symm .telemetryLatest (by decide)
  exact absurd hbounded (by decide)

end NetworkOutbox

end EventFramework
