import EventFramework.Core.MailboxRefinement
import Mathlib.Algebra.BigOperators.Group.Finset.Piecewise
import Mathlib.Algebra.Order.BigOperators.Group.List
import Mathlib.Algebra.Order.Group.Nat

/-!
# Owners of payload slots

The slots behind a pair of payload callbacks, as the users of messages see them: a message owns
shares of slots, retaining it for a queue takes them once more, and releasing it gives them back.
What a queue does with the shares follows from these laws alone.
-/

namespace EventFramework
set_option autoImplicit false

variable {P ω ι : Type}

/-- A sum over a family with one member replaced: the new member for the old one. -/
theorem sum_update_add {ι α : Type} [DecidableEq ι] {s : Finset ι} {i : ι} (hi : i ∈ s) (f : α → Nat)
    (g : ι → α) (x : α) :
    ∑ j ∈ s, f (Function.update g i x j) + f (g i) = ∑ j ∈ s, f (g j) + f x := by
  have hrest : ∑ j ∈ s.erase i, f (Function.update g i x j) = ∑ j ∈ s.erase i, f (g j) := by
    apply Finset.sum_congr rfl
    intro j hj
    rw [Function.update_of_ne (Finset.ne_of_mem_erase hj)]
  rw [← Finset.add_sum_erase s _ hi, ← Finset.add_sum_erase s (fun j => f (g j)) hi, hrest,
    Function.update_self]
  omega

theorem card_filter_update {ι α : Type} [DecidableEq ι] {s : Finset ι} {i : ι} (hi : i ∈ s)
    (p : α → Bool) (g : ι → α) (x : α) :
    (s.filter fun j => p (Function.update g i x j) = true).card + (p (g i)).toNat =
      (s.filter fun j => p (g j) = true).card + (p x).toNat := by
  have hsum := sum_update_add hi (fun y => (p y).toNat) g x
  simpa only [Finset.card_filter, Bool.toNat, Bool.cond_eq_ite] using hsum

theorem MailboxKind.arrival_replaceAt {kind : MailboxKind} {queued : List (Msg P)} {msg : Msg P}
    {index : Nat} (h : kind.arrival queued msg = .replaceAt index) : index < queued.length := by
  cases kind with
  | fifo8 | fifo16 | lossyRing8 =>
    simp only [MailboxKind.arrival] at h
    split at h <;> simp at h
  | mailbox1 =>
    cases queued with
    | nil => simp [MailboxKind.arrival] at h
    | cons first rest =>
      have hzero : index = 0 := by simpa [MailboxKind.arrival] using h.symm
      rw [hzero]
      exact Nat.zero_lt_succ _
  | coalescedFlag =>
    simp only [MailboxKind.arrival] at h
    split at h
    · simp at h
    · split at h
      · simp at h
      · split at h <;> simp at h

theorem RouteQos.arrival_replaceAt {qos : RouteQos} {kind : MailboxKind} {queued : List (Msg P)}
    {msg : Msg P} {index : Nat} (h : qos.arrival kind queued msg = .replaceAt index) :
    index < queued.length := by
  cases qos with
  | coalesced =>
    simp only [RouteQos.arrival] at h
    split at h
    · simp at h
    · split at h
      · simp at h
      · exact MailboxKind.arrival_replaceAt h
  | latestOnly =>
    simp only [RouteQos.arrival] at h
    split at h
    · rename_i k hnew
      have hk : k = index := by simpa using h
      exact hk ▸ newestOf_lt hnew
    · split at h
      · simp at h
      · exact MailboxKind.arrival_replaceAt h
  | critical | bestEffort | lossy | wakeupCritical | telemetry | command =>
    exact MailboxKind.arrival_replaceAt h

namespace Arrival

theorem mem_place {α : Type} {queued : List α} {msg x : α} {arrival : Arrival}
    (h : x ∈ arrival.place msg queued) : x = msg ∨ x ∈ queued := by
  cases arrival with
  | reject _ | keep => exact Or.inr h
  | append =>
    rcases List.mem_append.mp h with h | h
    · exact Or.inr h
    · exact Or.inl (List.mem_singleton.mp h)
  | evictOldest =>
    rcases List.mem_append.mp h with h | h
    · exact Or.inr (List.mem_of_mem_tail h)
    · exact Or.inl (List.mem_singleton.mp h)
  | replaceAt k => exact (List.mem_or_eq_of_mem_set h).symm

theorem removed_mem {α : Type} {queued : List α} {old : α} {arrival : Arrival}
    (h : arrival.removed queued = some old) : old ∈ queued := by
  cases arrival with
  | reject _ | keep | append => simp [Arrival.removed] at h
  | evictOldest => exact List.mem_of_head? h
  | replaceAt k => exact List.mem_of_getElem? h

end Arrival

/-- Callbacks on a larger state that do to a part of it what other callbacks do. -/
structure Callbacks.Along {ω' : Type} (cb' : Callbacks P ω') (part : ω' → ω) (cb : Callbacks P ω) :
    Prop where
  retain : ∀ fn ctx data size w, (cb'.retain fn ctx data size w).1 = (cb.retain fn ctx data size (part w)).1 ∧
    part (cb'.retain fn ctx data size w).2 = (cb.retain fn ctx data size (part w)).2
  release : ∀ fn ctx data size w,
    part (cb'.release fn ctx data size w) = cb.release fn ctx data size (part w)

namespace Callbacks.Along

variable {ω' : Type} {cb' : Callbacks P ω'} {part : ω' → ω} {cb : Callbacks P ω}

theorem releasePayload (h : cb'.Along part cb) (msg : Msg P) (w : ω') :
    part (msg.releasePayload cb' w) = msg.releasePayload cb (part w) := by
  unfold Msg.releasePayload
  split
  · split
    · exact h.release ..
    · rfl
  · rfl

theorem retainMsg (h : cb'.Along part cb) (msg : Msg P) (w : ω') :
    (msg.retain cb' w).1 = (msg.retain cb (part w)).1 ∧
      part (msg.retain cb' w).2 = (msg.retain cb (part w)).2 := by
  unfold Msg.retain
  split
  · exact ⟨rfl, rfl⟩
  · cases eventMeta msg.eventId with
    | none => exact ⟨rfl, rfl⟩
    | some info =>
      simp only
      split
      · exact ⟨rfl, rfl⟩
      · cases info.payloadKind with
        | lease =>
          cases msg.external.retainFn with
          | none => exact ⟨rfl, rfl⟩
          | some fn => exact h.retain ..
        | _ => exact ⟨rfl, rfl⟩

theorem retainForQueue (h : cb'.Along part cb) (msg : Msg P) (w : ω') :
    (Mailbox.retainForQueue cb' msg w).1 = (Mailbox.retainForQueue cb msg (part w)).1 ∧
      part (Mailbox.retainForQueue cb' msg w).2 = (Mailbox.retainForQueue cb msg (part w)).2 := by
  unfold Mailbox.retainForQueue
  split
  · exact ⟨rfl, rfl⟩
  · exact h.retainMsg msg w

theorem dispose (h : cb'.Along part cb) (msg : Msg P) (w : ω') :
    part (msg.dispose cb' w).2.2 = (msg.dispose cb (part w)).2.2 := by
  unfold Msg.dispose
  split
  · rfl
  split
  · rfl
  · exact h.releasePayload msg w

end Callbacks.Along

/-- The slots behind a pair of callbacks: the shares of them that a message owns, the states in
which their reference counts are given, and the messages that point at them as they should. Between
two states that are kept, no slot was handed out anew. -/
structure PayloadOwner (P ω ι : Type) where
  callbacks : Callbacks P ω
  shares : Msg P → ι → Nat
  Counts : ω → (ι → Nat) → Prop
  Owns : ω → Msg P → Prop
  Keeps : ω → ω → Prop
  keeps_refl : ∀ w, Keeps w w
  keeps_trans : ∀ {u v w}, Keeps u v → Keeps v w → Keeps u w
  plain : ∀ {msg}, msg.storage ≠ .external → (∀ index, shares msg index = 0) ∧ ∀ w, Owns w msg
  stale : ∀ {w msg}, Owns w msg → msg.hasCookie = false ∨ msg.isDisposed = true →
    ∀ index, shares msg index = 0
  retarget : ∀ (msg : Msg P) (target : ActorId),
    shares { msg with targetActor := target } = shares msg ∧
      ∀ w, Owns w msg → Owns w { msg with targetActor := target }
  owns_keeps : ∀ {w w' msg c}, Owns w msg → Keeps w w' → Counts w' c →
    (∀ index, shares msg index ≤ c index) → Owns w' msg
  retain : ∀ {w c msg}, Counts w c → Owns w msg → (∀ index, shares msg index ≤ c index) →
    (∀ index, 0 < shares msg index → c index + 1 < 2 ^ 32) →
    Keeps w (Mailbox.retainForQueue callbacks msg w).2 ∧
      ((Mailbox.retainForQueue callbacks msg w).1 = .ok →
        Counts (Mailbox.retainForQueue callbacks msg w).2 fun index => c index + shares msg index) ∧
      ((Mailbox.retainForQueue callbacks msg w).1 ≠ .ok →
        Counts (Mailbox.retainForQueue callbacks msg w).2 c)
  release : ∀ {w c c' msg}, Counts w c → Owns w msg → (∀ index, shares msg index ≤ c index) →
    (∀ index, c' index + shares msg index = c index) →
    Counts (msg.releasePayload callbacks w) c' ∧ Keeps w (msg.releasePayload callbacks w)

namespace PayloadOwner

def along {ω' : Type} (owner : PayloadOwner P ω ι) {cb' : Callbacks P ω'} {part : ω' → ω}
    (h : cb'.Along part owner.callbacks) : PayloadOwner P ω' ι where
  callbacks := cb'
  shares := owner.shares
  Counts w := owner.Counts (part w)
  Owns w := owner.Owns (part w)
  Keeps w w' := owner.Keeps (part w) (part w')
  keeps_refl w := owner.keeps_refl (part w)
  keeps_trans := owner.keeps_trans
  plain hstorage := ⟨(owner.plain hstorage).1, fun w => (owner.plain hstorage).2 (part w)⟩
  stale := owner.stale
  retarget msg target :=
    ⟨(owner.retarget msg target).1, fun w => (owner.retarget msg target).2 (part w)⟩
  owns_keeps := owner.owns_keeps
  retain hcounts howns hle hroom := by
    rw [(h.retainForQueue _ _).1, (h.retainForQueue _ _).2]
    exact owner.retain hcounts howns hle hroom
  release hcounts howns hle hc := by
    rw [h.releasePayload]
    exact owner.release hcounts howns hle hc

variable (owner : PayloadOwner P ω ι) {c c' : ι → Nat} {w : ω} {msg : Msg P}

def queueShares (queued : List (Msg P)) (index : ι) : Nat :=
  (queued.map fun msg => owner.shares msg index).sum

@[simp] theorem queueShares_nil (index : ι) : owner.queueShares [] index = 0 := rfl

@[simp] theorem queueShares_cons (msg : Msg P) (rest : List (Msg P)) (index : ι) :
    owner.queueShares (msg :: rest) index =
      owner.shares msg index + owner.queueShares rest index := rfl

theorem queueShares_append (a b : List (Msg P)) (index : ι) :
    owner.queueShares (a ++ b) index = owner.queueShares a index + owner.queueShares b index := by
  simp [queueShares]

theorem shares_le_queueShares {queued : List (Msg P)} (h : msg ∈ queued) (index : ι) :
    owner.shares msg index ≤ owner.queueShares queued index :=
  List.le_sum_of_mem (List.mem_map_of_mem h)

theorem queueShares_set {queued : List (Msg P)} {i : Nat} {old : Msg P} (h : queued[i]? = some old)
    (msg : Msg P) (index : ι) :
    owner.queueShares (queued.set i msg) index + owner.shares old index =
      owner.queueShares queued index + owner.shares msg index := by
  induction queued generalizing i with
  | nil => simp at h
  | cons first rest ih =>
    cases i with
    | zero =>
      obtain rfl : first = old := by simpa using h
      simp only [List.set_cons_zero, queueShares_cons]
      omega
    | succ i =>
      have hrest := ih (by simpa using h)
      simp only [List.set_cons_succ, queueShares_cons]
      omega

/-- The shares of the queue after an arrival: the arrival's for the removed message's. -/
theorem place_shares (queued : List (Msg P)) (msg : Msg P) (arrival : Arrival)
    (hstored : arrival = .append ∨ arrival = .evictOldest ∨
      ∃ k, arrival = .replaceAt k ∧ k < queued.length) (index : ι) :
    owner.queueShares (arrival.place msg queued) index +
        (arrival.removed queued).elim 0 (fun old => owner.shares old index) =
      owner.queueShares queued index + owner.shares msg index := by
  rcases hstored with rfl | rfl | ⟨k, rfl, hk⟩
  · simp [Arrival.place, Arrival.removed, queueShares_append]
  · cases queued with
    | nil => simp [Arrival.place, Arrival.removed]
    | cons first rest =>
      simp only [Arrival.place, Arrival.removed, List.tail_cons, List.head?_cons, Option.elim,
        queueShares_append, queueShares_cons, queueShares_nil]
      omega
  · have hold := List.getElem?_eq_getElem hk
    simp only [Arrival.place, Arrival.removed, hold, Option.elim]
    exact owner.queueShares_set hold msg index

/-- The counts follow the shares of one queue, whatever else owns shares. -/
def Follows (c : ι → Nat) (queued : List (Msg P)) (w' : ω) (queued' : List (Msg P)) : Prop :=
  ∀ c' : ι → Nat,
    (∀ i, c' i + owner.queueShares queued i = c i + owner.queueShares queued' i) →
      owner.Counts w' c'

variable {owner}

theorem follows_of_counts {queued queued' : List (Msg P)} (hcounts : owner.Counts w c')
    (hsum : ∀ i, c' i + owner.queueShares queued i = c i + owner.queueShares queued' i) :
    owner.Follows c queued w queued' := by
  intro c'' hc
  have hsame : c'' = c' := funext fun i => by
    have := hc i
    have := hsum i
    omega
  exact hsame ▸ hcounts

theorem store_counts {queued : List (Msg P)} (h : owner.Counts w c)
    (howns : owner.Owns w msg) (hle : ∀ i, owner.shares msg i ≤ c i)
    (hroom : ∀ i, 0 < owner.shares msg i → c i + 1 < 2 ^ 32)
    (hqueued : ∀ old ∈ queued, owner.Owns w old)
    (hqle : ∀ i, owner.queueShares queued i ≤ c i) {arrival : Arrival}
    (hstored : arrival = .append ∨ arrival = .evictOldest ∨
      ∃ k, arrival = .replaceAt k ∧ k < queued.length)
    (hretain : (Mailbox.retainForQueue owner.callbacks msg w).1 = .ok) :
    owner.Keeps w ((arrival.removed queued).elim (Mailbox.retainForQueue owner.callbacks msg w).2
        (Msg.releasePayload owner.callbacks · (Mailbox.retainForQueue owner.callbacks msg w).2)) ∧
      owner.Follows c queued ((arrival.removed queued).elim
        (Mailbox.retainForQueue owner.callbacks msg w).2
        (Msg.releasePayload owner.callbacks · (Mailbox.retainForQueue owner.callbacks msg w).2))
        (arrival.place msg queued) := by
  obtain ⟨hkeeps, htaken, _⟩ := owner.retain h howns hle hroom
  have hcounts := htaken hretain
  have hshares := owner.place_shares queued msg arrival hstored
  cases hremoved : arrival.removed queued with
  | none =>
    simp only [hremoved, Option.elim] at hshares ⊢
    refine ⟨hkeeps, follows_of_counts hcounts fun i => ?_⟩
    have := hshares i
    omega
  | some old =>
    simp only [hremoved, Option.elim] at hshares ⊢
    have hmem := Arrival.removed_mem hremoved
    have hle' : ∀ i, owner.shares old i ≤ c i + owner.shares msg i := by
      intro i
      have := owner.shares_le_queueShares hmem i
      have := hqle i
      omega
    have howns' := owner.owns_keeps (hqueued old hmem) hkeeps hcounts hle'
    have hrest : ∀ i, c i + owner.shares msg i - owner.shares old i + owner.shares old i =
        c i + owner.shares msg i := fun i => Nat.sub_add_cancel (hle' i)
    obtain ⟨hback, hkeeps'⟩ := owner.release hcounts howns' hle' hrest
    refine ⟨owner.keeps_trans hkeeps hkeeps', follows_of_counts hback fun i => ?_⟩
    have := hshares i
    have := hle' i
    omega

/-- Offering a message to a queue: whatever the arrival, the counts follow the queue. -/
theorem offer_counts {queued : List (Msg P)} (h : owner.Counts w c)
    (howns : owner.Owns w msg) (hle : ∀ i, owner.shares msg i ≤ c i)
    (hroom : ∀ i, 0 < owner.shares msg i → c i + 1 < 2 ^ 32)
    (hqueued : ∀ old ∈ queued, owner.Owns w old)
    (hqle : ∀ i, owner.queueShares queued i ≤ c i) {arrival : Arrival}
    (hindex : ∀ k, arrival = .replaceAt k → k < queued.length) {out : Result × QueueState P ω}
    (hout : (QueueState.mk queued w).offer owner.callbacks arrival msg = out) :
    owner.Keeps w out.2.owners ∧ (∀ old ∈ out.2.queued, old = msg ∨ old ∈ queued) ∧
      owner.Follows c queued out.2.owners out.2.queued := by
  have hunchanged : owner.Keeps w w ∧ (∀ old ∈ queued, old = msg ∨ old ∈ queued) ∧
      owner.Follows c queued w queued :=
    ⟨owner.keeps_refl w, fun _ hold => Or.inr hold, follows_of_counts h fun _ => rfl⟩
  by_cases hv : msg.validate = .ok
  · have hstored (hplace : arrival = .append ∨ arrival = .evictOldest ∨
          ∃ k, arrival = .replaceAt k ∧ k < queued.length) :
        owner.Keeps w out.2.owners ∧ (∀ old ∈ out.2.queued, old = msg ∨ old ∈ queued) ∧
          owner.Follows c queued out.2.owners out.2.queued := by
      have hoffer : (QueueState.mk queued w).offer owner.callbacks arrival msg =
          if (Mailbox.retainForQueue owner.callbacks msg w).1 ≠ .ok then
            ((Mailbox.retainForQueue owner.callbacks msg w).1,
              ⟨queued, (Mailbox.retainForQueue owner.callbacks msg w).2⟩)
          else (.ok, ⟨arrival.place msg queued, (arrival.removed queued).elim
            (Mailbox.retainForQueue owner.callbacks msg w).2
            (Msg.releasePayload owner.callbacks ·
              (Mailbox.retainForQueue owner.callbacks msg w).2)⟩) := by
        rcases hplace with rfl | rfl | ⟨k, rfl, _⟩ <;> simp [QueueState.offer, hv]
      rw [hoffer] at hout
      by_cases hretain : (Mailbox.retainForQueue owner.callbacks msg w).1 = .ok
      · rw [if_neg (not_not.mpr hretain)] at hout
        subst hout
        obtain ⟨hkeeps, hfollows⟩ :=
          store_counts h howns hle hroom hqueued hqle hplace hretain
        exact ⟨hkeeps, fun _ hold => Arrival.mem_place hold, hfollows⟩
      · rw [if_pos hretain] at hout
        subst hout
        obtain ⟨hkeeps, _, hfailed⟩ := owner.retain h howns hle hroom
        exact ⟨hkeeps, fun _ hold => Or.inr hold, follows_of_counts (hfailed hretain) fun _ => rfl⟩
    cases arrival with
    | reject rc | keep =>
      simp only [QueueState.offer, hv, ne_eq, not_true_eq_false, if_false] at hout
      subst hout
      exact hunchanged
    | append => exact hstored (Or.inl rfl)
    | evictOldest => exact hstored (Or.inr (Or.inl rfl))
    | replaceAt k => exact hstored (Or.inr (Or.inr ⟨k, rfl, hindex k rfl⟩))
  · rw [Mailbox.offer_invalid owner.callbacks hv] at hout
    subst hout
    exact hunchanged

theorem pushQos_counts {mb : Mailbox P} (h : owner.Counts w c) (hwf : mb.Wf)
    (howns : owner.Owns w msg) (hle : ∀ i, owner.shares msg i ≤ c i)
    (hroom : ∀ i, 0 < owner.shares msg i → c i + 1 < 2 ^ 32)
    (hqueued : ∀ old ∈ mb.queued, owner.Owns w old)
    (hqle : ∀ i, owner.queueShares mb.queued i ≤ c i) (qos : RouteQos)
    {out : Result × MailboxDeliveryReport × Mailbox P × ω}
    (hout : mb.pushQos owner.callbacks msg qos w = out) :
    owner.Keeps w out.2.2.2 ∧ out.2.2.1.Wf ∧
      (∀ old ∈ out.2.2.1.queued, old = msg ∨ old ∈ mb.queued) ∧
      owner.Follows c mb.queued out.2.2.2 out.2.2.1.queued := by
  have hmatches := Mailbox.pushQos_matches owner.callbacks ⟨hwf, rfl⟩ msg qos w
  rw [hout] at hmatches
  obtain ⟨hkeeps, hmem, hfollows⟩ := offer_counts h howns hle hroom hqueued hqle
    (fun _ => RouteQos.arrival_replaceAt) rfl
  rw [← hmatches.owners, ← hmatches.holds.2] at *
  exact ⟨hkeeps, hmatches.holds.1, hmem, hfollows⟩

theorem dispose_counts (h : owner.Counts w c) (howns : owner.Owns w msg)
    (hle : ∀ i, owner.shares msg i ≤ c i) (hc : ∀ i, c' i + owner.shares msg i = c i) :
    owner.Counts (msg.dispose owner.callbacks w).2.2 c' ∧
      owner.Keeps w (msg.dispose owner.callbacks w).2.2 := by
  have hstale (hold : msg.hasCookie = false ∨ msg.isDisposed = true) :
      owner.Counts w c' ∧ owner.Keeps w w := by
    have hsame : c' = c := funext fun i => by
      have := hc i
      rwa [owner.stale howns hold i] at this
    exact ⟨hsame ▸ h, owner.keeps_refl w⟩
  unfold Msg.dispose
  split
  · rename_i hcookie
    exact hstale (Or.inl (by simpa using hcookie))
  · split
    · rename_i hdisposed
      exact hstale (Or.inr hdisposed)
    · exact owner.release h howns hle hc

end PayloadOwner

end EventFramework
