import EventFramework.Core.Catalog
import EventFramework.Library.RingWindow

/-!
# The network outbox

`ev_network_outbox.c`: one ring of eight items with a limit and a drop policy for each
category. A push at its limit drops the head of the ring, whatever its category, so the
categories are isolated in just those runs where that head is always one of their own.
-/

namespace EventFramework
set_option autoImplicit false

open RingWindow

/-- `undeclared` stands for the values outside the enumeration. -/
inductive NetworkMsgCategory where
  | telemetryLatest
  | telemetryPeriodic
  | commandResponse
  | faultCritical
  | undeclared (value : Int)
  deriving DecidableEq, Repr

/-- `ev_network_category_valid`. -/
def NetworkMsgCategory.isValid : NetworkMsgCategory → Bool
  | .undeclared _ => false
  | _ => true

structure NetworkBackpressurePolicy where
  categoryLimit : NetworkMsgCategory → Nat
  dropOldest : NetworkMsgCategory → UInt8

def networkOutboxCapacity : UInt32 := 8

def networkOutboxMask : UInt32 := networkOutboxCapacity - 1

def networkPayloadBytes : Nat := 64

structure NetworkOutboxItem where
  category : NetworkMsgCategory := .telemetryLatest
  size : Nat := 0
  payload : List UInt8 := List.replicate networkPayloadBytes 0
  deriving DecidableEq, Repr

structure NetworkOutbox where
  items : Nat → NetworkOutboxItem := fun _ => {}
  writeSeq : UInt32 := 0
  readSeq : UInt32 := 0
  highWater : UInt32 := 0
  queuedByCategory : NetworkMsgCategory → Nat := fun _ => 0
  accepted : UInt32 := 0
  rejected : UInt32 := 0
  dropped : UInt32 := 0

namespace NetworkOutbox

def init : NetworkOutbox := {}

def pendingU32 (outbox : NetworkOutbox) : UInt32 := outbox.writeSeq - outbox.readSeq

def pending (outbox : NetworkOutbox) : Nat := outbox.pendingU32.toNat

def headIndex (outbox : NetworkOutbox) : Nat := (outbox.readSeq &&& networkOutboxMask).toNat

def copyPayload (item : NetworkOutboxItem) (payload : Option (List UInt8)) (size : Nat) :
    NetworkOutboxItem :=
  let size := min size networkPayloadBytes
  { item with
    size := size
    payload := match payload with
      | some data => if 0 < size then data.take size ++ item.payload.drop size else item.payload
      | none => item.payload }

/-- The item that a push stores: the slot at `write_seq` with what the push overwrites. -/
def stored (outbox : NetworkOutbox) (category : NetworkMsgCategory)
    (payload : Option (List UInt8)) (size : Nat) : NetworkOutboxItem :=
  copyPayload { outbox.items (outbox.writeSeq &&& networkOutboxMask).toNat with category := category }
    payload size

/-- `--queued_by_category[category]`, guarded as in the source. -/
def uncount (outbox : NetworkOutbox) (category : NetworkMsgCategory) : NetworkOutbox :=
  if category.isValid ∧ 0 < outbox.queuedByCategory category then
    { outbox with
      queuedByCategory := Function.update outbox.queuedByCategory category
        (outbox.queuedByCategory category - 1) }
  else outbox

def dropHead (outbox : NetworkOutbox) : NetworkOutbox :=
  let outbox := outbox.uncount (outbox.items outbox.headIndex).category
  { outbox with readSeq := outbox.readSeq + 1, dropped := outbox.dropped + 1 }

def reject (outbox : NetworkOutbox) : Result × NetworkOutbox :=
  (.errFull, { outbox with rejected := outbox.rejected + 1 })

/-- The end of `ev_network_outbox_push`, from the capacity check on. -/
def enqueue (outbox : NetworkOutbox) (category : NetworkMsgCategory)
    (payload : Option (List UInt8)) (size : Nat) (pending : UInt32) : Result × NetworkOutbox :=
  if networkOutboxCapacity ≤ pending then outbox.reject
  else
    (.ok, { outbox with
      items := Function.update outbox.items (outbox.writeSeq &&& networkOutboxMask).toNat
        (outbox.stored category payload size)
      writeSeq := outbox.writeSeq + 1
      queuedByCategory := Function.update outbox.queuedByCategory category
        (outbox.queuedByCategory category + 1)
      accepted := outbox.accepted + 1
      highWater := if outbox.highWater < pending + 1 then pending + 1 else outbox.highWater })

def push (outbox : NetworkOutbox) (policy : NetworkBackpressurePolicy)
    (category : NetworkMsgCategory) (payload : Option (List UInt8)) (size : Nat) :
    Result × NetworkOutbox :=
  if !category.isValid then (.errInvalidArg, outbox)
  else
    let pending := outbox.pendingU32
    let limit := policy.categoryLimit category
    if limit ≠ 0 ∧ limit ≤ outbox.queuedByCategory category then
      if policy.dropOldest category ≠ 0 ∧ 0 < pending then
        outbox.dropHead.enqueue category payload size (pending - 1)
      else outbox.reject
    else outbox.enqueue category payload size pending

def pop (outbox : NetworkOutbox) : Result × Option NetworkOutboxItem × NetworkOutbox :=
  if outbox.pendingU32 = 0 then (.errEmpty, none, outbox)
  else
    let item := outbox.items outbox.headIndex
    let outbox := outbox.uncount item.category
    (.ok, some item, { outbox with readSeq := outbox.readSeq + 1 })

def queued (outbox : NetworkOutbox) : List NetworkOutboxItem :=
  window outbox.items 8 outbox.headIndex outbox.pending

def inCategory (items : List NetworkOutboxItem) (category : NetworkMsgCategory) : Nat :=
  items.countP fun item => item.category == category

structure Wf (outbox : NetworkOutbox) : Prop where
  pending_le : outbox.pending ≤ 8
  valid : ∀ item ∈ outbox.queued, item.category.isValid = true
  counts : ∀ category, outbox.queuedByCategory category = inCategory outbox.queued category

theorem init_wf : init.Wf := by
  refine ⟨by decide, ?_, ?_⟩
  · intro item hitem
    simp [queued, pending, pendingU32, init] at hitem
  · intro category
    rfl

theorem index_eq (seq : UInt32) : (seq &&& networkOutboxMask).toNat = seq.toNat % 8 := by
  rw [UInt32.toNat_and]
  exact Nat.and_two_pow_sub_one_eq_mod seq.toNat 3

theorem index_add (seq steps : UInt32) :
    ((seq + steps) &&& networkOutboxMask).toNat =
      cell 8 (seq &&& networkOutboxMask).toNat steps.toNat := by
  rw [index_eq, index_eq, UInt32.toNat_add]
  unfold cell
  omega

theorem headIndex_lt (outbox : NetworkOutbox) : outbox.headIndex < 8 := by
  rw [headIndex, index_eq]
  exact Nat.mod_lt _ (by decide)

theorem writeIndex_eq (outbox : NetworkOutbox) :
    (outbox.writeSeq &&& networkOutboxMask).toNat = cell 8 outbox.headIndex outbox.pending := by
  have hseq : outbox.writeSeq = outbox.readSeq + outbox.pendingU32 := by
    unfold pendingU32
    grind
  rw [hseq, index_add]
  rfl

@[simp] theorem stored_category (outbox : NetworkOutbox) (category : NetworkMsgCategory)
    (payload : Option (List UInt8)) (size : Nat) :
    (outbox.stored category payload size).category = category := rfl

@[simp] theorem length_queued (outbox : NetworkOutbox) : outbox.queued.length = outbox.pending :=
  window_length ..

theorem queued_head {outbox : NetworkOutbox} {first : NetworkOutboxItem}
    {rest : List NetworkOutboxItem} (h : outbox.queued = first :: rest) :
    outbox.items outbox.headIndex = first := by
  have hlen := congrArg List.length h
  rw [length_queued, List.length_cons] at hlen
  have hcons := window_cons outbox.items outbox.headIndex_lt rest.length
  rw [queued, hlen, hcons] at h
  exact (List.cons.inj h).1

theorem uncount_fields (outbox : NetworkOutbox) (category : NetworkMsgCategory) :
    (outbox.uncount category).items = outbox.items ∧
      (outbox.uncount category).readSeq = outbox.readSeq ∧
      (outbox.uncount category).writeSeq = outbox.writeSeq := by
  unfold uncount
  split <;> exact ⟨rfl, rfl, rfl⟩

/-- Advancing `read_seq` past the head, its category uncounted. -/
theorem Wf.advance {outbox outbox' : NetworkOutbox} {first : NetworkOutboxItem}
    {rest : List NetworkOutboxItem} (h : outbox.Wf) (hq : outbox.queued = first :: rest)
    (hitems : outbox'.items = outbox.items) (hread : outbox'.readSeq = outbox.readSeq + 1)
    (hwrite : outbox'.writeSeq = outbox.writeSeq)
    (hcounts : outbox'.queuedByCategory = (outbox.uncount first.category).queuedByCategory) :
    outbox'.Wf ∧ outbox'.queued = rest := by
  have hlen := congrArg List.length hq
  rw [length_queued, List.length_cons] at hlen
  have hpending : outbox'.pending = rest.length := by
    have hle := h.pending_le
    have hnat : (outbox.writeSeq - outbox.readSeq).toNat = rest.length + 1 := hlen
    have hsub : outbox'.pendingU32 = outbox.writeSeq - outbox.readSeq - 1 := by
      unfold pendingU32
      rw [hread, hwrite]
      grind
    rw [pending, hsub, UInt32.toNat_sub, hnat]
    simp only [UInt32.toNat_one]
    omega
  have hhead : outbox'.headIndex = cell 8 outbox.headIndex 1 := by
    rw [headIndex, hread]
    exact index_add _ 1
  have hrest : outbox'.queued = rest := by
    have hcons := window_cons outbox.items outbox.headIndex_lt rest.length
    rw [queued, hlen, hcons] at hq
    rw [queued, hitems, hhead, hpending]
    exact (List.cons.inj hq).2
  have hvalid := h.valid first (by simp [hq])
  refine ⟨⟨?_, ?_, ?_⟩, hrest⟩
  · have := h.pending_le
    omega
  · intro item hitem
    rw [hrest] at hitem
    exact h.valid item (by simp [hq, hitem])
  · intro category
    have hself := h.counts first.category
    have hcat := h.counts category
    rw [hq] at hself hcat
    simp only [inCategory, List.countP_cons, beq_self_eq_true, if_true] at hself hcat
    have hpos : 0 < outbox.queuedByCategory first.category := by omega
    rw [hcounts, hrest, uncount, if_pos ⟨hvalid, hpos⟩]
    by_cases he : category = first.category
    · subst he
      simp only [Function.update_self, inCategory]
      omega
    · have hne : (first.category == category) = false := by simpa using Ne.symm he
      rw [hne] at hcat
      simp only [Function.update_of_ne he, inCategory]
      simpa using hcat

theorem Wf.dropHead {outbox : NetworkOutbox} {first : NetworkOutboxItem}
    {rest : List NetworkOutboxItem} (h : outbox.Wf) (hq : outbox.queued = first :: rest) :
    outbox.dropHead.Wf ∧ outbox.dropHead.queued = rest := by
  have hhead := queued_head hq
  obtain ⟨hitems, hread, hwrite⟩ := outbox.uncount_fields first.category
  apply h.advance hq <;> simp only [NetworkOutbox.dropHead, hhead, hitems, hread, hwrite]

/-- Storing at `write_seq` and advancing it, the category counted. -/
theorem Wf.store {outbox : NetworkOutbox} (outbox' : NetworkOutbox) (h : outbox.Wf)
    (hroom : outbox.pending < 8) (item : NetworkOutboxItem) (hvalid : item.category.isValid = true)
    (hitems : outbox'.items =
      Function.update outbox.items (outbox.writeSeq &&& networkOutboxMask).toNat item)
    (hread : outbox'.readSeq = outbox.readSeq) (hwrite : outbox'.writeSeq = outbox.writeSeq + 1)
    (hcounts : outbox'.queuedByCategory = Function.update outbox.queuedByCategory item.category
      (outbox.queuedByCategory item.category + 1)) :
    outbox'.Wf ∧ outbox'.queued = outbox.queued ++ [item] := by
  have hpending : outbox'.pending = outbox.pending + 1 := by
    have hsum : outbox'.pendingU32 = outbox.pendingU32 + 1 := by
      unfold pendingU32
      rw [hread, hwrite]
      grind
    have hnat : outbox.pendingU32.toNat < 8 := hroom
    rw [pending, hsum, UInt32.toNat_add]
    simp only [UInt32.toNat_one]
    exact Nat.mod_eq_of_lt (by omega)
  have hhead : outbox'.headIndex = outbox.headIndex := by
    unfold headIndex
    rw [hread]
  have happend : outbox'.queued = outbox.queued ++ [item] := by
    rw [queued, hitems, hhead, hpending, writeIndex_eq]
    exact window_push outbox.items item hroom
  refine ⟨⟨by omega, ?_, ?_⟩, happend⟩
  · intro item' hitem'
    rw [happend] at hitem'
    rcases List.mem_append.mp hitem' with hold | hnew
    · exact h.valid item' hold
    · rw [List.mem_singleton.mp hnew]
      exact hvalid
  · intro category
    have hcat := h.counts category
    rw [happend, hcounts]
    simp only [inCategory, List.countP_append, List.countP_singleton] at hcat ⊢
    by_cases he : category = item.category
    · subst he
      simpa using hcat
    · have hne : (item.category == category) = false := by simpa using Ne.symm he
      rw [Function.update_of_ne he, hne]
      simpa using hcat

theorem Wf.enqueue {outbox : NetworkOutbox} (h : outbox.Wf) {category : NetworkMsgCategory}
    (hvalid : category.isValid = true) (payload : Option (List UInt8)) (size : Nat) :
    let out := outbox.enqueue category payload size outbox.pendingU32
    out.2.Wf ∧ (out.1 ≠ .ok ∧ out.2.queued = outbox.queued ∨ out.1 = .ok ∧
      out.2.queued = outbox.queued ++ [outbox.stored category payload size]) ∧
      (outbox.pending < 8 → out.1 = .ok) := by
  intro out
  by_cases hfull : networkOutboxCapacity ≤ outbox.pendingU32
  · have hout : out = outbox.reject := if_pos hfull
    rw [hout]
    refine ⟨⟨h.pending_le, h.valid, h.counts⟩, Or.inl ⟨by simp [reject], rfl⟩, ?_⟩
    intro hroom
    rw [UInt32.le_iff_toNat_le] at hfull
    exact absurd hroom (Nat.not_lt.mpr hfull)
  · have hroom : outbox.pending < 8 := by
      rw [UInt32.le_iff_toNat_le] at hfull
      exact Nat.not_le.mp hfull
    have hok : out.1 = .ok := by
      simp only [out, NetworkOutbox.enqueue, hfull, if_false]
    obtain ⟨hwf, hqueued⟩ := Wf.store out.2 h hroom (outbox.stored category payload size) hvalid
      (by simp only [out, NetworkOutbox.enqueue, hfull, if_false])
      (by simp only [out, NetworkOutbox.enqueue, hfull, if_false])
      (by simp only [out, NetworkOutbox.enqueue, hfull, if_false])
      (by simp only [out, NetworkOutbox.enqueue, hfull, if_false]; rfl)
    exact ⟨hwf, Or.inr ⟨hok, hqueued⟩, fun _ => hok⟩

/-- The push takes the branch that drops the head of the ring. -/
def Drops (outbox : NetworkOutbox) (policy : NetworkBackpressurePolicy)
    (category : NetworkMsgCategory) : Prop :=
  category.isValid = true ∧
    (policy.categoryLimit category ≠ 0 ∧
      policy.categoryLimit category ≤ outbox.queuedByCategory category) ∧
    policy.dropOldest category ≠ 0 ∧ 0 < outbox.pendingU32

theorem push_cases {outbox : NetworkOutbox} (h : outbox.Wf) (policy : NetworkBackpressurePolicy)
    (category : NetworkMsgCategory) (payload : Option (List UInt8)) (size : Nat) :
    let out := outbox.push policy category payload size
    out.2.Wf ∧
      ((outbox.Drops policy category ∧ out.1 = .ok ∧ ∃ first rest, outbox.queued = first :: rest ∧
          out.2.queued = rest ++ [outbox.stored category payload size]) ∨
      (¬ outbox.Drops policy category ∧ out.1 ≠ .ok ∧ out.2.queued = outbox.queued) ∨
      (¬ outbox.Drops policy category ∧ out.1 = .ok ∧
        out.2.queued = outbox.queued ++ [outbox.stored category payload size] ∧
        (policy.categoryLimit category ≠ 0 →
          inCategory outbox.queued category < policy.categoryLimit category))) := by
  intro out
  by_cases hvalid : category.isValid = true
  · by_cases hlimit : policy.categoryLimit category ≠ 0 ∧
        policy.categoryLimit category ≤ outbox.queuedByCategory category
    · by_cases hdrop : policy.dropOldest category ≠ 0 ∧ 0 < outbox.pendingU32
      · have hpos : 0 < outbox.pending := by
          have := hdrop.2
          rwa [UInt32.lt_iff_toNat_lt] at this
        cases hq : outbox.queued with
        | nil =>
          have hlen := congrArg List.length hq
          rw [length_queued, List.length_nil] at hlen
          omega
        | cons first rest =>
          obtain ⟨hwf, hrest⟩ := h.dropHead hq
          have hseqs := outbox.uncount_fields (outbox.items outbox.headIndex).category
          have hpending : outbox.pendingU32 - 1 = outbox.dropHead.pendingU32 := by
            simp only [pendingU32, NetworkOutbox.dropHead, hseqs]
            grind
          have hout : out = outbox.dropHead.enqueue category payload size
              outbox.dropHead.pendingU32 := by
            simp only [out, push, hvalid, hlimit, hdrop, hpending, Bool.not_true,
              Bool.false_eq_true, if_false, if_true, ne_eq, not_false_eq_true, and_self]
          have hroom : outbox.dropHead.pending < 8 := by
            have hle := h.pending_le
            have hlen := congrArg List.length hq
            have hlen' := congrArg List.length hrest
            rw [length_queued] at hlen hlen'
            simp only [List.length_cons] at hlen
            omega
          obtain ⟨hwf', hcases, hok⟩ := hwf.enqueue hvalid payload size
          rw [hout]
          refine ⟨hwf', Or.inl ⟨⟨hvalid, hlimit, hdrop⟩, hok hroom, ?_⟩⟩
          have hstored : outbox.dropHead.stored category payload size =
              outbox.stored category payload size := by
            simp only [stored, NetworkOutbox.dropHead, hseqs]
          rcases hcases with ⟨hfail, _⟩ | ⟨_, happend⟩
          · exact absurd (hok hroom) hfail
          · exact ⟨first, rest, rfl, by rw [happend, hrest, hstored]⟩
      · have hout : out = outbox.reject := by
          simp only [out, push, hvalid, hlimit, hdrop, Bool.not_true, Bool.false_eq_true, if_false,
            if_true, ne_eq, not_false_eq_true, and_self]
        rw [hout]
        exact ⟨⟨h.pending_le, h.valid, h.counts⟩,
          Or.inr (Or.inl ⟨fun hd => hdrop hd.2.2, by simp [reject], rfl⟩)⟩
    · have hout : out = outbox.enqueue category payload size outbox.pendingU32 := by
        simp only [out, push, hvalid, hlimit, Bool.not_true, Bool.false_eq_true, if_false]
      obtain ⟨hwf, hcases, _⟩ := h.enqueue hvalid payload size
      rw [hout]
      refine ⟨hwf, Or.inr ?_⟩
      rcases hcases with ⟨hfail, hsame⟩ | ⟨hok, happend⟩
      · exact Or.inl ⟨fun hd => hlimit hd.2.1, hfail, hsame⟩
      · refine Or.inr ⟨fun hd => hlimit hd.2.1, hok, happend, ?_⟩
        intro hne
        rw [← h.counts category]
        exact Nat.lt_of_not_le fun hle => hlimit ⟨hne, hle⟩
  · have hout : out = (.errInvalidArg, outbox) := by
      simp only [out, push, hvalid, Bool.not_false, if_true]
    rw [hout]
    exact ⟨h, Or.inr (Or.inl ⟨fun hd => hvalid hd.1, by simp, rfl⟩)⟩

theorem pop_cases {outbox : NetworkOutbox} (h : outbox.Wf) :
    outbox.pop.2.2.Wf ∧ (outbox.queued = [] ∧ outbox.pop = (.errEmpty, none, outbox) ∨
      ∃ first, outbox.queued = first :: outbox.pop.2.2.queued ∧ outbox.pop.1 = .ok ∧
        outbox.pop.2.1 = some first) := by
  unfold pop
  split
  · rename_i hempty
    have hlen := outbox.length_queued
    rw [pending, hempty] at hlen
    exact ⟨h, Or.inl ⟨List.length_eq_zero_iff.mp hlen, rfl⟩⟩
  · rename_i hpending
    cases hq : outbox.queued with
    | nil =>
      have hlen := congrArg List.length hq
      rw [length_queued, List.length_nil] at hlen
      have hzero : outbox.pendingU32.toNat = (0 : UInt32).toNat := hlen
      exact absurd (UInt32.toNat_inj.mp hzero) hpending
    | cons first rest =>
      have hhead := queued_head hq
      obtain ⟨hitems, hread, hwrite⟩ := outbox.uncount_fields first.category
      have hadvance : ∀ outbox', outbox' = { outbox.uncount first.category with
          readSeq := (outbox.uncount first.category).readSeq + 1 } →
          outbox'.Wf ∧ outbox'.queued = rest := by
        rintro outbox' rfl
        apply h.advance hq <;> simp only [hitems, hread, hwrite]
      obtain ⟨hwf, hrest⟩ := hadvance _ rfl
      simp only [hhead]
      exact ⟨hwf, Or.inr ⟨first, by rw [hrest], trivial, rfl⟩⟩

end NetworkOutbox

end EventFramework
