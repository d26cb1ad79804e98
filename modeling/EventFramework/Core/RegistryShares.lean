import EventFramework.Core.ExactlyOnce
import EventFramework.Core.PayloadOwner
import Mathlib.Algebra.Order.BigOperators.Group.Finset

/-!
# The shares in the mailboxes of a registry

The reference counts of the slots behind a pair of payload callbacks, against the copies queued for
all actors: deliveries, pops and disposals keep the balance.
-/

namespace EventFramework
set_option autoImplicit false

variable {P ω ι : Type}

namespace PayloadOwner

variable (owner : PayloadOwner P ω ι)

def registryShares (registry : ActorRegistry P) (index : ι) : Nat :=
  ∑ actor ∈ actorCatalog.toFinset, owner.queueShares (registry.queued actor) index

/-- The reference counts are those of the queued copies and of `rest`. -/
structure Balanced (rest : ι → Nat) (w : World P ω) : Prop where
  counts : owner.Counts w.outside fun i => owner.registryShares w.registry i + rest i
  wf : ∀ actor runtime, w.registry.slots actor = some runtime →
    actor.isValid = true ∧ runtime.mailbox.Wf
  owns : ∀ actor, ∀ msg ∈ w.registry.queued actor, owner.Owns w.outside msg

variable {owner} {registry : ActorRegistry P} {w : World P ω} {rest rest' : ι → Nat} {msg : Msg P}

theorem mem_actors {actor : ActorId} (h : actor.isValid = true) : actor ∈ actorCatalog.toFinset :=
  List.mem_toFinset.mpr ((mem_actorCatalog_iff actor).mpr h)

theorem queueShares_le_registryShares (owner : PayloadOwner P ω ι) (registry : ActorRegistry P)
    {actor : ActorId} (h : actor.isValid = true) (index : ι) :
    owner.queueShares (registry.queued actor) index ≤ owner.registryShares registry index := by
  let f : ActorId → Nat := fun actor => owner.queueShares (registry.queued actor) index
  have hle : f actor ≤ actorCatalog.toFinset.sum f :=
    Finset.single_le_sum (fun _ _ => Nat.zero_le _) (mem_actors h)
  exact hle

theorem queued_setRuntime (registry : ActorRegistry P) (runtime : ActorRuntime P) :
    (registry.setRuntime runtime).queued =
      Function.update registry.queued runtime.actorId runtime.mailbox.queued := by
  funext actor
  by_cases he : actor = runtime.actorId
  · subst he
    simp [ActorRegistry.queued, ActorRegistry.setRuntime]
  · simp [ActorRegistry.queued, ActorRegistry.setRuntime, Function.update_of_ne he]

theorem registryShares_setRuntime (owner : PayloadOwner P ω ι) (registry : ActorRegistry P)
    (runtime : ActorRuntime P) (h : runtime.actorId.isValid = true) (index : ι) :
    owner.registryShares (registry.setRuntime runtime) index +
        owner.queueShares (registry.queued runtime.actorId) index =
      owner.registryShares registry index + owner.queueShares runtime.mailbox.queued index := by
  unfold registryShares
  rw [queued_setRuntime]
  exact sum_update_add (mem_actors h) (fun queued => owner.queueShares queued index) registry.queued
    runtime.mailbox.queued

theorem queueShares_le_length (hone : ∀ (msg : Msg P) index, owner.shares msg index ≤ 1)
    (queued : List (Msg P)) (index : ι) : owner.queueShares queued index ≤ queued.length := by
  induction queued with
  | nil => exact Nat.le_refl _
  | cons msg queued ih =>
    have := hone msg index
    simp only [queueShares_cons, List.length_cons]
    omega

namespace Balanced

/-- All mailboxes together hold at most sixteen copies for each actor. -/
theorem registryShares_le (h : owner.Balanced rest w)
    (hone : ∀ (msg : Msg P) index, owner.shares msg index ≤ 1) (index : ι) :
    owner.registryShares w.registry index ≤ actorCount * 16 := by
  have hcard : actorCatalog.toFinset.card = actorCount :=
    List.toFinset_card_of_nodup actorCatalog_nodup
  rw [← hcard]
  refine Finset.sum_le_card_nsmul actorCatalog.toFinset _ 16 fun actor _ => ?_
  refine Nat.le_trans (queueShares_le_length hone _ index) ?_
  cases hslot : w.registry.slots actor with
  | none => simp [ActorRegistry.queued, hslot]
  | some runtime =>
    obtain ⟨_, hwf⟩ := h.wf actor runtime hslot
    rw [(ActorRegistry.books_of_slot hslot).1, ← Mailbox.Holds.count_eq ⟨hwf, rfl⟩]
    refine Nat.le_trans hwf.count_le (hwf.storageCount_eq ▸ ?_)
    cases runtime.mailbox.kind <;> decide

theorem isValid (h : owner.Balanced rest w) {actor : ActorId} (hmsg : msg ∈ w.registry.queued actor) :
    actor.isValid = true := by
  cases hslot : w.registry.slots actor with
  | none => simp [ActorRegistry.queued, hslot] at hmsg
  | some runtime => exact (h.wf actor runtime hslot).1

/-- A queued copy stays owned while the counts leave its queue the shares. -/
theorem owns_of_keeps {w' : ω} {c : ι → Nat} (h : owner.Balanced rest w)
    (hkeeps : owner.Keeps w.outside w') (hcounts : owner.Counts w' c) {actor : ActorId}
    (hmsg : msg ∈ w.registry.queued actor)
    (hle : ∀ i, owner.queueShares (w.registry.queued actor) i ≤ c i) : owner.Owns w' msg :=
  owner.owns_keeps (h.owns actor msg hmsg) hkeeps hcounts fun i =>
    Nat.le_trans (owner.shares_le_queueShares hmsg i) (hle i)

/-- A step outside the registry, to counts that leave the queued copies theirs. -/
theorem outside {w' : ω} (h : owner.Balanced rest w) (hkeeps : owner.Keeps w.outside w')
    (hcounts : owner.Counts w' fun i => owner.registryShares w.registry i + rest' i) :
    owner.Balanced rest' { w with outside := w' } := by
  refine ⟨hcounts, h.wf, fun actor msg hmsg => h.owns_of_keeps hkeeps hcounts hmsg fun i => ?_⟩
  exact Nat.le_add_right_of_le (queueShares_le_registryShares owner _ (h.isValid hmsg) i)

theorem dispose (h : owner.Balanced rest w) (howns : owner.Owns w.outside msg)
    (hrest : ∀ i, rest' i + owner.shares msg i = rest i) :
    owner.Balanced rest' { w with outside := (msg.dispose owner.callbacks w.outside).2.2 } ∧
      owner.Keeps w.outside (msg.dispose owner.callbacks w.outside).2.2 := by
  have hsum (i : ι) : owner.registryShares w.registry i + rest' i + owner.shares msg i =
      owner.registryShares w.registry i + rest i := by
    rw [Nat.add_assoc, hrest i]
  obtain ⟨hcounts, hkeeps⟩ := owner.dispose_counts h.counts howns
    (fun i => hsum i ▸ Nat.le_add_left _ _) hsum
  exact ⟨h.outside hkeeps hcounts, hkeeps⟩

theorem setRuntime {runtime runtime' : ActorRuntime P} {stats : ActorRegistryStats} {w' : World P ω}
    (h : owner.Balanced rest w) (hslot : w.registry.slots runtime.actorId = some runtime)
    (hregistry : w'.registry =
      ({ w.registry with stats := stats } : ActorRegistry P).setRuntime runtime')
    (hid : runtime'.actorId = runtime.actorId) (hwf : runtime'.mailbox.Wf)
    (hkeeps : owner.Keeps w.outside w'.outside)
    (hcounts : owner.Counts w'.outside fun i => owner.registryShares w'.registry i + rest' i)
    (howns : ∀ msg ∈ runtime'.mailbox.queued, owner.Owns w'.outside msg) :
    owner.Balanced rest' w' := by
  obtain ⟨hvalid, _⟩ := h.wf _ _ hslot
  refine ⟨hcounts, ?_, ?_⟩
  · intro actor other hother
    rw [hregistry, ActorRegistry.slots_setRuntime] at hother
    split at hother
    · rename_i he
      obtain rfl := Option.some.inj hother
      exact ⟨he ▸ hid ▸ hvalid, hwf⟩
    · exact h.wf actor other hother
  · intro actor msg hmsg
    have hqueued : w'.registry.queued =
        Function.update w.registry.queued runtime.actorId runtime'.mailbox.queued := by
      rw [hregistry, queued_setRuntime, hid]
      rfl
    by_cases he : actor = runtime.actorId
    · rw [hqueued, he, Function.update_self] at hmsg
      exact howns msg hmsg
    · have hold : w'.registry.queued actor = w.registry.queued actor := by
        rw [hqueued, Function.update_of_ne he]
      rw [hold] at hmsg
      refine h.owns_of_keeps hkeeps hcounts hmsg fun i => Nat.le_add_right_of_le ?_
      rw [← hold]
      exact queueShares_le_registryShares owner _ (h.isValid hmsg) i

theorem pop {actor : ActorId} {runtime : ActorRuntime P} {rc : Result} {mailbox : Mailbox P}
    (h : owner.Balanced rest w) (hslot : w.registry.slots actor = some runtime)
    (hpop : runtime.mailbox.pop = (rc, some msg, mailbox)) :
    owner.Balanced (fun i => rest i + owner.shares msg i)
        (w.setRuntime { runtime with mailbox := mailbox }) ∧ owner.Owns w.outside msg := by
  obtain rfl := w.registry.slot_id _ _ hslot
  obtain ⟨hvalid, hwf⟩ := h.wf _ _ hslot
  have hqueued := (ActorRegistry.books_of_slot hslot).1
  cases hq : runtime.mailbox.queued with
  | nil => simp [Mailbox.pop_empty ⟨hwf, hq⟩] at hpop
  | cons first others =>
    obtain ⟨_, hfirst, hholds, _⟩ := Mailbox.pop_holds ⟨hwf, hq⟩
    rw [hpop] at hfirst hholds
    obtain rfl : msg = first := Option.some.inj hfirst
    have howns : ∀ old ∈ msg :: others, owner.Owns w.outside old := fun old hold =>
      h.owns _ old (hqueued ▸ hq ▸ hold)
    refine ⟨h.setRuntime hslot rfl rfl hholds.1 (owner.keeps_refl _) ?_ ?_,
      howns msg (List.mem_cons_self ..)⟩
    · refine (congrArg (owner.Counts w.outside) (funext fun i => ?_)).mp h.counts
      have hset := registryShares_setRuntime owner w.registry { runtime with mailbox := mailbox } hvalid i
      rw [hqueued, hq, hholds.2, queueShares_cons] at hset
      change _ = owner.registryShares (w.registry.setRuntime { runtime with mailbox := mailbox }) i + _
      omega
    · intro old hold
      rw [hholds.2] at hold
      exact howns old (List.mem_cons_of_mem _ hold)

/-- A delivery of an owned message: the counts follow the mailbox of the target. -/
theorem deliver (h : owner.Balanced rest w) (howns : owner.Owns w.outside msg)
    (hle : ∀ i, owner.shares msg i ≤ rest i)
    (hroom : ∀ i, 0 < owner.shares msg i → owner.registryShares w.registry i + rest i + 1 < 2 ^ 32)
    (target : ActorId) (qos : RouteQos) (wantReport : Bool) :
    owner.Balanced rest (w.deliver owner.callbacks target msg qos wantReport).2.2 ∧
      owner.Keeps w.outside (w.deliver owner.callbacks target msg qos wantReport).2.2.outside := by
  rcases w.deliver_cases owner.callbacks target msg qos wantReport with
    ⟨_, _, houtside, hregistry⟩ | ⟨runtime, rc, report, mailbox, outside, stats, counts, hfind, hpush,
      _, houtside, hregistry, _⟩
  · have hqueued : (w.deliver owner.callbacks target msg qos wantReport).2.2.registry.queued =
        w.registry.queued := by
      rw [hregistry]
      rfl
    refine ⟨⟨?_, ?_, ?_⟩, ?_⟩
    · rw [houtside]
      unfold registryShares
      rw [hqueued]
      exact h.counts
    · rw [hregistry]
      exact h.wf
    · rw [houtside, hqueued]
      exact h.owns
    · rw [houtside]
      exact owner.keeps_refl _
  · obtain ⟨hvalid, hslot⟩ : target.isValid = true ∧ w.registry.slots target = some runtime := by
      simpa [ActorRegistry.find] using hfind
    obtain rfl := w.registry.slot_id _ _ hslot
    obtain ⟨_, hwf⟩ := h.wf _ _ hslot
    have hqueued := (ActorRegistry.books_of_slot hslot).1
    have hqle : ∀ i, owner.queueShares runtime.mailbox.queued i ≤
        owner.registryShares w.registry i + rest i := fun i =>
      Nat.le_add_right_of_le (hqueued ▸ queueShares_le_registryShares owner _ hvalid i)
    obtain ⟨hkeeps, hwf', hmem, hfollows⟩ : owner.Keeps w.outside outside ∧ mailbox.Wf ∧
        (∀ old ∈ mailbox.queued, old = msg ∨ old ∈ runtime.mailbox.queued) ∧
        owner.Follows (fun i => owner.registryShares w.registry i + rest i) runtime.mailbox.queued
          outside mailbox.queued :=
      pushQos_counts h.counts hwf howns (fun i => Nat.le_add_left_of_le (hle i)) hroom
        (fun old hold => h.owns _ old (hqueued ▸ hold)) hqle qos hpush
    rw [← houtside] at hkeeps hfollows
    have hcounts := hfollows (fun i => owner.registryShares
        (w.deliver owner.callbacks runtime.actorId msg qos wantReport).2.2.registry i + rest i) fun i => by
      have hset := registryShares_setRuntime owner { w.registry with stats := stats }
        { runtime with mailbox := mailbox, stats := counts } hvalid i
      rw [← hregistry] at hset
      have hsame : ActorRegistry.queued { w.registry with stats := stats } runtime.actorId =
          runtime.mailbox.queued := hqueued
      have hshares : owner.registryShares { w.registry with stats := stats } i =
          owner.registryShares w.registry i := rfl
      rw [hsame, hshares] at hset
      simp only at hset ⊢
      omega
    refine ⟨h.setRuntime hslot hregistry rfl hwf' hkeeps hcounts fun old hnow => ?_, hkeeps⟩
    rcases hmem old hnow with rfl | hbefore
    · exact owner.owns_keeps howns hkeeps hcounts fun i => Nat.le_add_left_of_le (hle i)
    · refine owner.owns_keeps (h.owns _ old (hqueued ▸ hbefore)) hkeeps hcounts fun i => ?_
      have hnew := queueShares_le_registryShares owner
        (w.deliver owner.callbacks runtime.actorId msg qos wantReport).2.2.registry hvalid i
      rw [hregistry, queued_setRuntime, Function.update_self] at hnew
      rw [hregistry]
      exact Nat.le_add_right_of_le (Nat.le_trans (owner.shares_le_queueShares hnow i) hnew)

end Balanced

end PayloadOwner

end EventFramework
