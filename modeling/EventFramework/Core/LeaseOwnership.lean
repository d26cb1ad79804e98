import EventFramework.Core.LeaseTransfer
import Mathlib.Data.Fintype.Basic

/-!
# Ownership of leased payloads

One lease pool, the message variables of its callers, their handles and any number of
mailboxes. Every share of a slot has one owner: a handle, a message or a queued copy.
-/

namespace EventFramework
set_option autoImplicit false

variable {κ ν M B : Type}

/-- `msgs` are the message variables of the callers, `held` the handles they have not
released yet. -/
structure LeaseSystem (κ ν M B : Type) where
  pool : LeasePool
  owners : ν
  msgs : M → Msg (LeasePtr κ)
  boxes : B → Mailbox (LeasePtr κ)
  held : List LeaseHandle

/-- The callbacks of `setExternal` are foreign ones: the pool keeps its own `static`. -/
inductive LeaseOp (κ M B : Type) where
  | acquire (payloadSize : Nat)
  | retain (handle : LeaseHandle)
  | release (handle : LeaseHandle)
  | attach (msg : M) (handle : LeaseHandle)
  | setExternal (msg : M) (data : Option (LeasePtr κ)) (size : Nat) (retainFn releaseFn : Option κ)
      (ctx : Option (LeasePtr κ))
  | setInline (msg : M) (data : Option (List UInt8)) (size : Nat)
  | initPublish (msg : M) (eventId : EventId) (sourceActor : ActorId)
  | initSend (msg : M) (eventId : EventId) (sourceActor targetActor : ActorId)
  | push (box : B) (msg : M)
  | pushQos (box : B) (msg : M) (qos : RouteQos)
  | pop (box : B) (msg : M)
  | reset (box : B)
  | dispose (msg : M)

namespace LeaseSystem

def start (pool : LeasePool) (kinds : B → MailboxKind) (owners : ν) : LeaseSystem κ ν M B where
  pool := pool
  owners := owners
  msgs := fun _ => Msg.zeroed
  boxes := fun box => Mailbox.fresh (kinds box)
  held := []

def heldShares (s : LeaseSystem κ ν M B) (index : Nat) : Nat :=
  s.held.countP fun handle => handle.slot == some index

def shares [Fintype M] [Fintype B] (s : LeaseSystem κ ν M B) (index : Nat) : Nat :=
  s.heldShares index + ∑ m, (s.msgs m).shares index +
    ∑ b, LeasePool.queueShares (s.boxes b).queued index

section Step

variable [DecidableEq M] [DecidableEq B] (foreign : Callbacks (LeasePtr κ) ν)

def setMsg (s : LeaseSystem κ ν M B) (m : M) (out : Msg (LeasePtr κ) × LeasePool × ν) :
    LeaseSystem κ ν M B :=
  { s with msgs := Function.update s.msgs m out.1, pool := out.2.1, owners := out.2.2 }

def setBox (s : LeaseSystem κ ν M B) (b : B) (out : Mailbox (LeasePtr κ) × LeasePool × ν) :
    LeaseSystem κ ν M B :=
  { s with boxes := Function.update s.boxes b out.1, pool := out.2.1, owners := out.2.2 }

def step (s : LeaseSystem κ ν M B) : LeaseOp κ M B → LeaseSystem κ ν M B
  | .acquire payloadSize =>
    let out := s.pool.acquire payloadSize
    { s with pool := out.2.2, held := out.2.1.toList ++ s.held }
  | .retain handle =>
    let out := s.pool.retain handle
    { s with pool := out.2, held := if out.1 = .ok then handle :: s.held else s.held }
  | .release handle =>
    let out := s.pool.release handle
    { s with pool := out.2, held := if out.1 = .ok then s.held.erase handle else s.held }
  | .attach m handle => s.setMsg m (LeasePool.attachMsg foreign (s.msgs m) handle (s.pool, s.owners)).2
  | .setExternal m data size retainFn releaseFn ctx =>
    s.setMsg m ((s.msgs m).setExternalPayload (leaseCallbacks foreign) data size
      (retainFn.map .foreign) (releaseFn.map .foreign) ctx (s.pool, s.owners)).2
  | .setInline m data size =>
    s.setMsg m ((s.msgs m).setInlinePayload (leaseCallbacks foreign) data size (s.pool, s.owners)).2
  | .initPublish m eventId sourceActor =>
    s.setMsg m (((s.msgs m).initPublish eventId sourceActor).2, s.pool, s.owners)
  | .initSend m eventId sourceActor targetActor =>
    s.setMsg m (((s.msgs m).initSend eventId sourceActor targetActor).2, s.pool, s.owners)
  | .push b m =>
    s.setBox b ((s.boxes b).push (leaseCallbacks foreign) (s.msgs m) (s.pool, s.owners)).2
  | .pushQos b m qos =>
    s.setBox b ((s.boxes b).pushQos (leaseCallbacks foreign) (s.msgs m) qos (s.pool, s.owners)).2.2
  | .pop b m =>
    let out := (s.boxes b).pop
    (s.setBox b (out.2.2, s.pool, s.owners)).setMsg m
      (out.2.1.getD (s.msgs m), s.pool, s.owners)
  | .reset b => s.setBox b ((s.boxes b).reset (leaseCallbacks foreign) (s.pool, s.owners)).2
  | .dispose m => s.setMsg m ((s.msgs m).dispose (leaseCallbacks foreign) (s.pool, s.owners)).2

/-- The callers' side of the bargain: a live handle is released by a holder, and a
message variable that owns a share is not overwritten. -/
def Linear (s : LeaseSystem κ ν M B) : LeaseOp κ M B → Prop
  | .release handle => s.pool.handleIsLive handle = true → handle ∈ s.held
  | .initPublish m eventId sourceActor =>
    ((s.msgs m).initPublish eventId sourceActor).1 = .ok → (s.msgs m).leasedSlot = none
  | .initSend m eventId sourceActor targetActor =>
    ((s.msgs m).initSend eventId sourceActor targetActor).1 = .ok → (s.msgs m).leasedSlot = none
  | .pop b m => (s.boxes b).pop.1 = .ok → (s.msgs m).leasedSlot = none
  | _ => True

instance decidableLinear (s : LeaseSystem κ ν M B) : (op : LeaseOp κ M B) → Decidable (s.Linear op)
  | .release handle =>
    inferInstanceAs (Decidable (s.pool.handleIsLive handle = true → handle ∈ s.held))
  | .initPublish m eventId sourceActor =>
    inferInstanceAs (Decidable (((s.msgs m).initPublish eventId sourceActor).1 = .ok →
      (s.msgs m).leasedSlot = none))
  | .initSend m eventId sourceActor targetActor =>
    inferInstanceAs (Decidable (((s.msgs m).initSend eventId sourceActor targetActor).1 = .ok →
      (s.msgs m).leasedSlot = none))
  | .pop b m =>
    inferInstanceAs (Decidable ((s.boxes b).pop.1 = .ok → (s.msgs m).leasedSlot = none))
  | .acquire _ | .retain _ | .attach _ _ | .setExternal _ _ _ _ _ _ | .setInline _ _ _ | .push _ _
  | .pushQos _ _ _ | .reset _ | .dispose _ => inferInstanceAs (Decidable True)

def taken (s : LeaseSystem κ ν M B) : LeaseOp κ M B → Option Nat
  | .retain handle | .attach _ handle => if s.pool.handleIsLive handle then handle.slot else none
  | .push _ m | .pushQos _ m _ => (s.msgs m).leasedSlot
  | _ => none

/-- The share an operation takes is one of fewer than 2^32. -/
def Roomy [Fintype M] [Fintype B] (s : LeaseSystem κ ν M B) (op : LeaseOp κ M B) : Prop :=
  ∀ index ∈ s.taken op, s.shares index + 1 < 2 ^ 32

variable [Fintype M] [Fintype B]

instance decidableRoomy (s : LeaseSystem κ ν M B) (op : LeaseOp κ M B) : Decidable (s.Roomy op) :=
  inferInstanceAs (Decidable (∀ index ∈ s.taken op, s.shares index + 1 < 2 ^ 32))

def step? (s : LeaseSystem κ ν M B) (op : LeaseOp κ M B) : Option (LeaseSystem κ ν M B) :=
  if s.Linear op ∧ s.Roomy op then some (s.step foreign op) else none

/-- A run, as long as the callers keep to `Linear` and `Roomy`. -/
def run? : LeaseSystem κ ν M B → List (LeaseOp κ M B) → Option (LeaseSystem κ ν M B)
  | s, [] => some s
  | s, op :: ops => (s.step? foreign op).bind fun t => run? t ops

end Step

section Invariant

variable [Fintype M] [Fintype B] [DecidableEq M] [DecidableEq B]
  {foreign : Callbacks (LeasePtr κ) ν}

/-- Every share has an owner, and every owner points at its slot as the pool expects. -/
structure Inv (s : LeaseSystem κ ν M B) : Prop where
  counts : s.pool.Counts s.shares
  msgs : ∀ m, s.pool.Owns (s.msgs m)
  boxes : ∀ b, (s.boxes b).Wf ∧ ∀ msg ∈ (s.boxes b).queued, s.pool.Owns msg
  held : ∀ handle ∈ s.held, s.pool.handleIsLive handle = true

/-- What a step leads to: the invariant again, and no slot with a share reused. -/
structure Follows (s t : LeaseSystem κ ν M B) : Prop where
  inv : t.Inv
  slotCount_eq : t.pool.slotCount = s.pool.slotCount
  slot : ∀ i, 0 < s.shares i → 0 < t.shares i →
    (t.pool.slots i).generation = (s.pool.slots i).generation ∧
    (t.pool.slots i).payloadSize = (s.pool.slots i).payloadSize

omit [DecidableEq B] in
theorem msg_shares_le (s : LeaseSystem κ ν M B) (m : M) (index : Nat) :
    (s.msgs m).shares index ≤ s.shares index := by
  have hrest := Finset.add_sum_erase Finset.univ (fun m => (s.msgs m).shares index)
    (Finset.mem_univ m)
  unfold shares
  omega

omit [DecidableEq M] in
theorem box_shares_le (s : LeaseSystem κ ν M B) (b : B) (index : Nat) :
    LeasePool.queueShares (s.boxes b).queued index ≤ s.shares index := by
  have hrest := Finset.add_sum_erase Finset.univ
    (fun b => LeasePool.queueShares (s.boxes b).queued index) (Finset.mem_univ b)
  unfold shares
  omega

omit [Fintype M] [Fintype B] [DecidableEq M] [DecidableEq B] in
theorem held_shares_pos {s : LeaseSystem κ ν M B} {handle : LeaseHandle} (h : handle ∈ s.held)
    {index : Nat} (hslot : handle.slot = some index) : 0 < s.heldShares index :=
  List.countP_pos_iff.mpr ⟨handle, h, by simp [hslot]⟩

/-- A step that acquires no slot keeps the invariant when the counts follow the shares. -/
theorem Inv.move {s t : LeaseSystem κ ν M B} (h : s.Inv) (hkeeps : s.pool.Keeps t.pool)
    (hcounts : t.pool.Counts t.shares) (hmsgs : ∀ m, s.pool.Owns (t.msgs m))
    (hboxes : ∀ b, (t.boxes b).Wf ∧ ∀ msg ∈ (t.boxes b).queued, s.pool.Owns msg)
    (hheld : ∀ handle ∈ t.held, s.pool.handleIsLive handle = true) : s.Follows t := by
  refine ⟨⟨hcounts, ?_, ?_, ?_⟩, hkeeps.slotCount_eq,
    fun i _ hpos => (hkeeps.slot i (hcounts.used hpos)).2⟩
  · intro m
    refine (hmsgs m).keeps hkeeps fun i hleased => hcounts.used ?_
    have hle := t.msg_shares_le m i
    rw [Msg.shares_self hleased] at hle
    exact hle
  · intro b
    refine ⟨(hboxes b).1, fun msg hmsg => ((hboxes b).2 msg hmsg).keeps hkeeps fun i hleased =>
      hcounts.used ?_⟩
    have hle := t.box_shares_le b i
    have hmem := LeasePool.shares_le_queueShares hmsg i
    rw [Msg.shares_self hleased] at hmem
    omega
  · intro handle hmem
    obtain ⟨i, hslot, _, hgen⟩ := (h.counts.live_iff handle).mp (hheld handle hmem)
    have hpos : 0 < t.shares i := by
      have := held_shares_pos hmem hslot
      unfold shares
      omega
    have hkept := hkeeps.slot i (hcounts.used hpos)
    exact (hcounts.live_iff handle).mpr ⟨i, hslot, hpos, hkept.2.1.trans hgen⟩

theorem Inv.setMsg {s : LeaseSystem κ ν M B} (h : s.Inv) (m : M)
    {out : Msg (LeasePtr κ) × LeasePool × ν}
    (hout : LeasePool.Settles s.shares (s.pool, s.owners) (s.msgs m) out) :
    s.Follows (s.setMsg m out) := by
  refine h.move hout.keeps (hout.counts _ fun i => ?_) ?_ h.boxes h.held
  · have hsum := sum_update_add (Finset.mem_univ m) (fun msg => Msg.shares msg i) s.msgs out.1
    simp only [shares, LeaseSystem.setMsg, heldShares]
    omega
  · intro m'
    by_cases he : m' = m
    · subst he
      simpa [LeaseSystem.setMsg] using hout.owns
    · simpa [LeaseSystem.setMsg, Function.update_of_ne he] using h.msgs m'

theorem Inv.setBox {s : LeaseSystem κ ν M B} (h : s.Inv) (b : B)
    {out : Mailbox (LeasePtr κ) × LeasePool × ν} (hwf : out.1.Wf)
    (hkeeps : s.pool.Keeps out.2.1) (howns : ∀ msg ∈ out.1.queued, s.pool.Owns msg)
    (hcounts : ∀ c : Nat → Nat, (∀ i, c i + LeasePool.queueShares (s.boxes b).queued i =
      s.shares i + LeasePool.queueShares out.1.queued i) → out.2.1.Counts c) :
    s.Follows (s.setBox b out) := by
  refine h.move hkeeps (hcounts _ fun i => ?_) h.msgs ?_ h.held
  · have hsum := sum_update_add (Finset.mem_univ b)
      (fun mb => LeasePool.queueShares (Mailbox.queued mb) i) s.boxes out.1
    simp only [shares, LeaseSystem.setBox, heldShares]
    omega
  · intro b'
    by_cases he : b' = b
    · subst he
      simpa [LeaseSystem.setBox] using ⟨hwf, howns⟩
    · simpa [LeaseSystem.setBox, Function.update_of_ne he] using h.boxes b'

/-- A push that ends as an offer to the queue of the mailbox. -/
theorem Inv.offer {s : LeaseSystem κ ν M B} (h : s.Inv) {b : B} {m : M}
    (hroom : ∀ i, (s.msgs m).leasedSlot = some i → s.shares i + 1 < 2 ^ 32) {arrival : Arrival}
    (hindex : ∀ k, arrival = .replaceAt k → k < (s.boxes b).queued.length)
    {out : Result × Mailbox (LeasePtr κ) × LeasePool × ν}
    (hout : Mailbox.Matches (s.boxes b).kind out ((QueueState.mk (s.boxes b).queued
      (s.pool, s.owners)).offer (leaseCallbacks foreign) arrival (s.msgs m))) :
    s.Follows (s.setBox b out.2) := by
  obtain ⟨hkeeps, hmem, hcounts⟩ := LeasePool.offer_counts
    (w := (s.pool, s.owners)) h.counts (h.msgs m) (s.msg_shares_le m) hroom (h.boxes b).2
    (s.box_shares_le b) hindex rfl
  rw [← hout.owners] at hkeeps hcounts
  rw [← hout.holds.2] at hmem hcounts
  refine h.setBox b hout.holds.1 hkeeps ?_ hcounts
  intro msg hqueued
  rcases hmem msg hqueued with rfl | hold
  · exact h.msgs m
  · exact (h.boxes b).2 msg hold

theorem Inv.setHeld {s : LeaseSystem κ ν M B} (h : s.Inv) {pool : LeasePool}
    {held : List LeaseHandle} (hkeeps : s.pool.Keeps pool) (hcounts : pool.Counts fun i =>
      s.shares i - s.heldShares i + held.countP fun handle => handle.slot == some i)
    (hheld : ∀ handle ∈ held, s.pool.handleIsLive handle = true) :
    s.Follows { s with pool := pool, held := held } := by
  have hshares : (fun i => s.shares i - s.heldShares i + held.countP fun handle =>
      handle.slot == some i) = shares { s with pool := pool, held := held } := by
    funext i
    unfold shares
    simp only [heldShares]
    omega
  rw [hshares] at hcounts
  exact h.move hkeeps hcounts h.msgs h.boxes hheld

theorem Inv.retain {s : LeaseSystem κ ν M B} (h : s.Inv) (handle : LeaseHandle)
    (hroom : s.Roomy (.retain handle)) : s.Follows (s.step foreign (.retain handle)) := by
  simp only [LeaseSystem.step]
  cases hlive : s.pool.handleIsLive handle with
  | false =>
    rw [LeasePool.retain_dead hlive]
    exact h.move (LeasePool.keeps_countStaleHandle _ _) (h.counts.countStaleHandle handle) h.msgs
      h.boxes h.held
  | true =>
    obtain ⟨i, hslot, _, _⟩ := (h.counts.live_iff handle).mp hlive
    have hbound : s.shares i + 1 < 2 ^ 32 := by
      apply hroom i
      simp [taken, hlive, hslot]
    obtain ⟨hok, hcounts, hkeeps⟩ := LeasePool.retain_live
      (fun j => s.shares j - s.heldShares j + (handle :: s.held).countP fun handle =>
        handle.slot == some j) h.counts hslot hlive hbound (by
        simp only [List.countP_cons, hslot, shares, heldShares, beq_self_eq_true, if_true]
        omega) (by
        intro j hj
        have hne : (some i == some j) = false := by simpa using Ne.symm hj
        simp only [List.countP_cons, hslot, shares, heldShares, hne, Bool.false_eq_true, if_false]
        omega)
    simp only [hok, if_true]
    refine h.setHeld hkeeps hcounts ?_
    intro handle' hmem
    rcases List.mem_cons.mp hmem with rfl | hmem
    · exact hlive
    · exact h.held handle' hmem

theorem Inv.release {s : LeaseSystem κ ν M B} (h : s.Inv) (handle : LeaseHandle)
    (hlinear : s.Linear (.release handle)) : s.Follows (s.step foreign (.release handle)) := by
  simp only [LeaseSystem.step]
  cases hlive : s.pool.handleIsLive handle with
  | false =>
    rw [LeasePool.release_dead hlive]
    exact h.move (LeasePool.keeps_countStaleHandle _ _) (h.counts.countStaleHandle handle) h.msgs
      h.boxes h.held
  | true =>
    have hmem := hlinear hlive
    obtain ⟨i, hslot, _, _⟩ := (h.counts.live_iff handle).mp hlive
    have hpos := held_shares_pos hmem hslot
    obtain ⟨hok, hcounts, hkeeps⟩ := LeasePool.release_live
      (fun j => s.shares j - s.heldShares j + (s.held.erase handle).countP fun handle =>
        handle.slot == some j) h.counts hslot hlive (by
        simp only [List.countP_erase, hslot, hmem, beq_self_eq_true, and_self, if_true]
        simp only [shares, heldShares] at hpos ⊢
        omega) (by
        intro j hj
        have hne : ¬ (handle ∈ s.held ∧ (handle.slot == some j) = true) := by
          rintro ⟨_, heq⟩
          rw [hslot] at heq
          have hij : i = j := by simpa using heq
          exact hj hij.symm
        simp only [List.countP_erase, hne, if_false, shares, heldShares]
        omega)
    simp only [hok, if_true]
    exact h.setHeld hkeeps hcounts fun handle' hmem' => h.held handle' (List.mem_of_mem_erase hmem')

theorem Inv.acquire {s : LeaseSystem κ ν M B} (h : s.Inv) (payloadSize : Nat) :
    s.Follows (s.step foreign (.acquire payloadSize)) := by
  simp only [LeaseSystem.step]
  rcases LeasePool.acquire_counts h.counts payloadSize with
    ⟨i, generation, hhandle, hfree, hcount, hsize, hgen, hframe, hcounts⟩ | ⟨hnone, hkeeps, hcounts⟩
  · have howns : ∀ msg : Msg (LeasePtr κ), (∀ j, msg.shares j ≤ s.shares j) → s.pool.Owns msg →
        (s.pool.acquire payloadSize).2.2.Owns msg := by
      intro msg hle hmsg huse
      obtain ⟨j, hatt⟩ := hmsg huse
      have hne : j ≠ i := by
        rintro rfl
        have := hle j
        rw [Msg.shares_self (LeasePool.leasedSlot_of_attached huse hatt)] at this
        omega
      exact ⟨j, hatt.cookie, hatt.live, hatt.retainFn_eq, hatt.releaseFn_eq, hatt.ctx_eq,
        by rw [hsize]; exact hatt.data_eq, by rw [hframe j hne]; exact hatt.size_eq⟩
    have hshares : shares { s with
        pool := (s.pool.acquire payloadSize).2.2
        held := (s.pool.acquire payloadSize).2.1.toList ++ s.held } =
        Function.update s.shares i 1 := by
      funext j
      by_cases hj : j = i
      · subst hj
        rw [Function.update_self]
        simp only [shares, heldShares] at hfree ⊢
        simp only [hhandle, Option.toList_some, List.singleton_append, List.countP_cons,
          beq_self_eq_true, if_true]
        omega
      · have hne : (some i == some j) = false := by simpa using Ne.symm hj
        rw [Function.update_of_ne hj]
        simp [shares, heldShares, hhandle, hne]
    have hcounts' := hshares ▸ hcounts
    refine ⟨⟨hcounts', ?_, ?_, ?_⟩, hcount, ?_⟩
    · intro m
      exact howns _ (s.msg_shares_le m) (h.msgs m)
    · intro b
      refine ⟨(h.boxes b).1, fun msg hmsg => howns msg (fun j => ?_) ((h.boxes b).2 msg hmsg)⟩
      exact Nat.le_trans (LeasePool.shares_le_queueShares hmsg j) (s.box_shares_le b j)
    · intro handle hmem
      simp only [hhandle, Option.toList_some, List.singleton_append, List.mem_cons] at hmem
      rcases hmem with rfl | hmem
      · exact (hcounts.live_iff _).mpr ⟨i, rfl, by simp, hgen⟩
      · obtain ⟨j, hslot, hpos, hgen'⟩ := (h.counts.live_iff handle).mp (h.held handle hmem)
        have hne : j ≠ i := by
          rintro rfl
          omega
        refine (hcounts.live_iff handle).mpr ⟨j, hslot, ?_, ?_⟩
        · rw [Function.update_of_ne hne]
          exact hpos
        · rw [hframe j hne]
          exact hgen'
    · intro j hpos _
      have hne : j ≠ i := by
        rintro rfl
        omega
      simp only [hframe j hne, and_self]
  · rw [hnone]
    exact h.move hkeeps hcounts h.msgs h.boxes h.held

theorem Inv.pop {s : LeaseSystem κ ν M B} (h : s.Inv) {b : B} {m : M}
    (hlinear : s.Linear (.pop b m)) : s.Follows (s.step foreign (.pop b m)) := by
  have hwf := (h.boxes b).1
  cases hq : (s.boxes b).queued with
  | nil =>
    have hpop := Mailbox.pop_empty ⟨hwf, hq⟩
    have hstay : s.step foreign (.pop b m) = s := by
      simp [LeaseSystem.step, LeaseSystem.setBox, LeaseSystem.setMsg, hpop]
    rw [hstay]
    exact h.move (LeasePool.Keeps.refl _) h.counts h.msgs h.boxes h.held
  | cons first rest =>
    obtain ⟨hok, hout, hholds, _⟩ := Mailbox.pop_holds ⟨hwf, hq⟩
    have hvacant := hlinear hok
    have hnone : ∀ i, (s.msgs m).shares i = 0 := by
      intro i
      simp [Msg.shares, hvacant]
    have howned := (h.boxes b).2
    simp only [LeaseSystem.step, hout, Option.getD_some]
    refine h.move (LeasePool.Keeps.refl _) ?_ ?_ ?_ h.held
    · have hsame : shares ((s.setBox b ((s.boxes b).pop.2.2, s.pool, s.owners)).setMsg m
          (first, s.pool, s.owners)) = s.shares := by
        funext i
        have hmsgs := sum_update_add (Finset.mem_univ m) (fun msg => Msg.shares msg i) s.msgs first
        have hboxes := sum_update_add (Finset.mem_univ b)
          (fun mb => LeasePool.queueShares (Mailbox.queued mb) i) s.boxes (s.boxes b).pop.2.2
        have := hnone i
        simp only [hholds.2, hq, LeasePool.queueShares_cons] at hboxes
        simp only [shares, LeaseSystem.setMsg, LeaseSystem.setBox, heldShares]
        omega
      rw [hsame]
      exact h.counts
    · intro m'
      by_cases he : m' = m
      · subst he
        simpa [LeaseSystem.setMsg] using howned first (by simp [hq])
      · simpa [LeaseSystem.setMsg, LeaseSystem.setBox, Function.update_of_ne he] using h.msgs m'
    · intro b'
      by_cases he : b' = b
      · subst he
        simp only [LeaseSystem.setMsg, LeaseSystem.setBox, Function.update_self, hholds.2]
        exact ⟨hholds.1, fun msg hmsg => howned msg (by simp [hq, hmsg])⟩
      · simpa [LeaseSystem.setMsg, LeaseSystem.setBox, Function.update_of_ne he] using h.boxes b'

theorem Inv.reset {s : LeaseSystem κ ν M B} (h : s.Inv) (b : B) :
    s.Follows (s.step foreign (.reset b)) := by
  obtain ⟨released, hperm, _, hholds, _, howners⟩ := Mailbox.reset_holds (leaseCallbacks foreign)
    ⟨(h.boxes b).1, rfl⟩ (s.pool, s.owners)
  have hshares := LeasePool.queueShares_perm hperm
  have hback : ∀ c : Nat → Nat, (∀ i, c i + LeasePool.queueShares released i = s.shares i) → _ :=
    fun c hc => LeasePool.releaseAll_counts foreign (w := (s.pool, s.owners)) h.counts
      (fun msg hmsg => (h.boxes b).2 msg (hperm.mem_iff.mp hmsg)) hc
  simp only [LeaseSystem.step]
  refine h.setBox b hholds.1 ?_ ?_ ?_
  · rw [howners]
    refine (hback (fun i => s.shares i - LeasePool.queueShares released i) fun i => ?_).2
    have := s.box_shares_le b i
    have := hshares i
    omega
  · rw [hholds.2]
    simp
  · intro c hc
    rw [howners]
    refine (hback c fun i => ?_).1
    have := hc i
    have := hshares i
    simp only [hholds.2, LeasePool.queueShares_nil] at *
    omega

theorem Inv.initMsg {s : LeaseSystem κ ν M B} (h : s.Inv) (m : M) {out : Result × Msg (LeasePtr κ)}
    (hout : out.1 = .ok ∧ out.2.storage = .none ∨ out.2 = s.msgs m)
    (hlinear : out.1 = .ok → (s.msgs m).leasedSlot = none) :
    s.Follows (s.setMsg m (out.2, s.pool, s.owners)) := by
  rcases hout with ⟨hok, hstorage⟩ | hsame
  · have huse : ¬ out.2.UsesPool := Msg.not_usesPool_of_storage (by simp [hstorage])
    refine h.setMsg m ⟨LeasePool.Keeps.refl _, LeasePool.owns_of_not_usesPool huse, ?_⟩
    intro c hc
    have hsame : c = s.shares := by
      funext i
      have := hc i
      have hnone : (s.msgs m).shares i = 0 := by simp [Msg.shares, hlinear hok]
      rw [Msg.shares_eq_zero huse, hnone] at this
      exact this
    exact hsame ▸ h.counts
  · rw [hsame]
    exact h.setMsg m (LeasePool.settles_unchanged h.counts (h.msgs m))

/-- Step lemma: every operation the callers may use keeps the invariant. -/
theorem Inv.step {s : LeaseSystem κ ν M B} (h : s.Inv) (op : LeaseOp κ M B) (hlinear : s.Linear op)
    (hroom : s.Roomy op) : s.Follows (s.step foreign op) := by
  have hle := fun m => s.msg_shares_le m
  cases op with
  | acquire payloadSize => exact h.acquire payloadSize
  | retain handle => exact h.retain handle hroom
  | release handle => exact h.release handle hlinear
  | attach m handle =>
    refine h.setMsg m (LeasePool.attachMsg_settles h.counts (h.msgs m) (hle m) handle ?_)
    intro i hslot hlive
    apply hroom i
    have hlive' : s.pool.handleIsLive handle = true := hlive
    simp [taken, hlive', hslot]
  | setExternal m data size retainFn releaseFn ctx =>
    exact h.setMsg m (LeasePool.setExternalPayload_settles h.counts (h.msgs m) (hle m) data size
      retainFn releaseFn ctx)
  | setInline m data size =>
    exact h.setMsg m (LeasePool.setInlinePayload_settles h.counts (h.msgs m) (hle m) data size)
  | initPublish m eventId sourceActor =>
    refine h.initMsg m ?_ hlinear
    unfold Msg.initPublish
    split
    · exact Or.inr rfl
    · exact Or.inl ⟨rfl, rfl⟩
  | initSend m eventId sourceActor targetActor =>
    refine h.initMsg m ?_ hlinear
    unfold Msg.initSend
    split
    · exact Or.inr rfl
    · exact Or.inl ⟨rfl, rfl⟩
  | push b m =>
    exact h.offer (fun i hleased => hroom i hleased) (fun k => MailboxKind.arrival_replaceAt)
      (Mailbox.push_matches _ ⟨(h.boxes b).1, rfl⟩ (s.msgs m) (s.pool, s.owners))
  | pushQos b m qos =>
    exact h.offer (fun i hleased => hroom i hleased) (fun k => RouteQos.arrival_replaceAt)
      (Mailbox.pushQos_matches _ ⟨(h.boxes b).1, rfl⟩ (s.msgs m) qos (s.pool, s.owners))
  | pop b m => exact h.pop hlinear
  | reset b => exact h.reset b
  | dispose m => exact h.setMsg m (LeasePool.dispose_settles h.counts (h.msgs m) (hle m))

theorem Inv.step? {s t : LeaseSystem κ ν M B} (h : s.Inv) {op : LeaseOp κ M B}
    (hstep : s.step? foreign op = some t) : s.Follows t := by
  unfold LeaseSystem.step? at hstep
  split at hstep
  · rename_i hallowed
    obtain rfl := Option.some.inj hstep
    exact h.step op hallowed.1 hallowed.2
  · simp at hstep

theorem Inv.run? {ops : List (LeaseOp κ M B)} {s t : LeaseSystem κ ν M B} (h : s.Inv)
    (hrun : s.run? foreign ops = some t) : t.Inv ∧ t.pool.slotCount = s.pool.slotCount := by
  induction ops generalizing s with
  | nil =>
    obtain rfl := Option.some.inj hrun
    exact ⟨h, rfl⟩
  | cons op ops ih =>
    obtain ⟨u, hstep, hrest⟩ := Option.bind_eq_some_iff.mp hrun
    have hfollows := h.step? hstep
    obtain ⟨hinv, hcount⟩ := ih hfollows.inv hrest
    exact ⟨hinv, hcount.trans hfollows.slotCount_eq⟩

omit [DecidableEq M] [DecidableEq B] in
theorem start_inv {slotCount slotSize : Nat} {pool : LeasePool}
    (hinit : LeasePool.init slotCount slotSize = .ok pool) (kinds : B → MailboxKind) (owners : ν) :
    (start pool kinds owners : LeaseSystem κ ν M B).Inv ∧ pool.slotCount = slotCount := by
  unfold LeasePool.init at hinit
  split at hinit
  · simp at hinit
  · rename_i hsize
    obtain ⟨_, hsize⟩ := not_or.mp hsize
    obtain rfl := Except.ok.inj hinit
    have hqueued := fun b => (Mailbox.fresh_holds (P := LeasePtr κ) (kinds b)).2
    have hzero : shares (start (LeasePool.fresh slotCount slotSize) kinds owners :
        LeaseSystem κ ν M B) = fun _ => 0 := by
      funext i
      have hmsg : ∀ i, (Msg.zeroed : Msg (LeasePtr κ)).shares i = 0 :=
        Msg.shares_eq_zero (Msg.not_usesPool_of_storage (by simp [Msg.zeroed]))
      simp [shares, heldShares, start, hqueued, hmsg]
    refine ⟨⟨?_, ?_, ?_, by simp [start]⟩, rfl⟩
    · rw [hzero]
      refine ⟨Nat.pos_of_ne_zero hsize, ?_, ?_, ?_, ?_, ?_, ?_⟩ <;>
        simp [start, LeasePool.fresh]
    · intro m
      exact LeasePool.owns_of_not_usesPool (Msg.not_usesPool_of_storage (by simp [start, Msg.zeroed]))
    · intro b
      refine ⟨(Mailbox.fresh_holds (kinds b)).1, ?_⟩
      intro msg hmsg
      simp [start, hqueued] at hmsg

/-- Conservation of lease ownership: after every step of every run, a slot is in use just
when it has a share, its reference count is the number of its owners, it is freed at the
step where that number reaches zero, and it is not reused before. -/
theorem lease_shares_conserved (foreign : Callbacks (LeasePtr κ) ν) {slotCount slotSize : Nat}
    {pool : LeasePool} (hinit : LeasePool.init slotCount slotSize = .ok pool)
    (kinds : B → MailboxKind) (owners : ν) (ops : List (LeaseOp κ M B)) (s : LeaseSystem κ ν M B)
    (hrun : (start pool kinds owners).run? foreign ops = some s) :
    (∀ i, i < slotCount →
      ((s.pool.slots i).inUse = true ↔ 1 ≤ (s.pool.slots i).refcount) ∧
      (s.pool.slots i).refcount.toNat = s.heldShares i + ∑ m, (s.msgs m).shares i +
        ∑ b, LeasePool.queueShares (s.boxes b).queued i) ∧
    s.pool.stats.inUse =
      ((Finset.range slotCount).filter fun i => (s.pool.slots i).inUse = true).card ∧
    ∀ op t, s.step? foreign op = some t → ∀ i, i < slotCount →
      (((s.pool.slots i).inUse = true ∧ (t.pool.slots i).inUse = false) ↔
        (0 < s.shares i ∧ t.shares i = 0)) ∧
      (0 < s.shares i → 0 < t.shares i →
        (t.pool.slots i).generation = (s.pool.slots i).generation ∧
        (t.pool.slots i).payloadSize = (s.pool.slots i).payloadSize) := by
  obtain ⟨hstart, hcount⟩ := start_inv (κ := κ) (M := M) hinit kinds owners
  obtain ⟨hinv, hsame⟩ := hstart.run? hrun
  have hslots : s.pool.slotCount = slotCount := hsame.trans hcount
  have hcounts := hinv.counts
  refine ⟨?_, ?_, ?_⟩
  · intro i hi
    have hrefs := hcounts.refcount_eq i (hslots ▸ hi)
    have hused := hcounts.inUse_iff i (hslots ▸ hi)
    refine ⟨?_, hrefs⟩
    rw [hused, ← hrefs, UInt32.le_iff_toNat_le]
    exact Iff.rfl
  · rw [hcounts.inUse_eq, hslots]
  · intro op t hstep i hi
    have hfollows := hinv.step? hstep
    have hbefore := hcounts.inUse_iff i (hslots ▸ hi)
    have hafter := hfollows.inv.counts.inUse_iff i (by rw [hfollows.slotCount_eq, hslots]; exact hi)
    refine ⟨?_, hfollows.slot i⟩
    rw [hbefore, ← Bool.not_eq_true, hafter, Nat.not_lt, Nat.le_zero]

/-- A leased payload handed from a producer through a mailbox to a consumer, up to the
last share. -/
def handover : List (LeaseOp Empty (Fin 2) Unit) :=
  [.acquire 4, .initPublish 0 .streamChunkReady .boot, .attach 0 ⟨some 0, 1⟩, .push () 0,
    .release ⟨some 0, 1⟩, .dispose 0, .pop () 1, .dispose 1]

theorem lease_shares_conserved_handover :
    ∃ s : LeaseSystem Empty Unit (Fin 2) Unit,
      (start (LeasePool.fresh 1 8) (fun _ => .fifo8) ()).run?
        ⟨fun _ _ _ _ w => (.ok, w), fun _ _ _ _ w => w⟩ handover = some s ∧
      (s.pool.slots 0).refcount.toNat = s.heldShares 0 + ∑ m, (s.msgs m).shares 0 +
        ∑ b, LeasePool.queueShares (s.boxes b).queued 0 := by
  refine ⟨_, rfl, ?_⟩
  exact ((lease_shares_conserved ⟨fun _ _ _ _ w => (.ok, w), fun _ _ _ _ w => w⟩
    (show LeasePool.init 1 8 = .ok (LeasePool.fresh 1 8) from rfl) (fun _ => .fifo8) () handover _ rfl).1 0
    (by decide)).2

end Invariant

end LeaseSystem

end EventFramework
