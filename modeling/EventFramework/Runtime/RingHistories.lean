import EventFramework.Library.Machine
import EventFramework.Library.RingWindow
import EventFramework.Runtime.Quiescence

/-!
# The ingress queue and the trace ring over their histories

The ingress queue refuses what does not fit, the trace ring overwrites its oldest record. Over any
history each message and each record has just one fate.
-/

namespace EventFramework
set_option autoImplicit false

variable {P : Type}

namespace IngressService

variable {ingress : IngressService P}

theorem messages_length (ingress : IngressService P) :
    ingress.messages.length = ingress.pending.toNat := SeqRing.entries_length ..

theorem index_eq (seq : UInt32) : (seq &&& ingressMask).toNat = seq.toNat % ingressCapacity :=
  SeqRing.toNat_and_mask (k := 4) rfl seq

theorem push_full (h : ingressCapacity ≤ ingress.messages.length) (msg : Msg P) :
    ingress.push msg = (.errFull, { ingress with dropped := ingress.dropped + 1 }) := by
  rw [messages_length] at h
  exact if_pos h

theorem push_room (h : ingress.messages.length < ingressCapacity) (msg : Msg P) :
    (ingress.push msg).1 = .ok ∧ (ingress.push msg).2.messages = ingress.messages ++ [msg] ∧
      (ingress.push msg).2.pushed = ingress.pushed + 1 := by
  rw [messages_length] at h
  unfold push
  rw [if_neg (Nat.not_le.mpr h)]
  refine ⟨rfl, ?_, rfl⟩
  simp only [messages, index_eq]
  exact SeqRing.entries_write (by decide) (by decide) ingress.queue msg h

theorem pop_nil (h : ingress.messages = []) : ingress.pop = (.errEmpty, none, ingress) :=
  if_pos (messages_eq_nil.mp h)

theorem pop_cons {first : Msg P} {rest : List (Msg P)} (h : ingress.messages = first :: rest) :
    ingress.pop.1 = .ok ∧ ingress.pop.2.1 = some first ∧ ingress.pop.2.2.messages = rest ∧
      ingress.pop.2.2.pushed = ingress.pushed := by
  have hne : ingress.pending ≠ 0 := by
    intro hzero
    rw [messages_eq_nil.mpr hzero] at h
    cases h
  have hread := SeqRing.entries_read (n := ingressCapacity) (by decide) ingress.queue hne
  rw [← index_eq] at hread
  obtain ⟨hfirst, hrest⟩ := List.cons.inj (hread.symm.trans h)
  unfold pop
  rw [if_neg hne]
  exact ⟨rfl, congrArg some hfirst, hrest, rfl⟩

end IngressService

inductive IngressOp (P : Type) where
  | push (msg : Msg P)
  | pop

/-- The service with the messages that it accepted and that it returned. -/
structure IngressRun (P : Type) where
  service : IngressService P := .init
  accepted : List (Msg P) := []
  popped : List (Msg P) := []

namespace IngressRun

def step (s : IngressRun P) : IngressOp P → IngressRun P
  | .push msg =>
    let out := s.service.push msg
    { s with service := out.2, accepted := s.accepted ++ if out.1 = .ok then [msg] else [] }
  | .pop =>
    let out := s.service.pop
    { s with service := out.2.2, popped := s.popped ++ out.2.1.toList }

structure Inv (s : IngressRun P) : Prop where
  accepted_eq : s.accepted = s.popped ++ s.service.messages
  pushed_eq : s.service.pushed = UInt32.ofNat s.accepted.length
  bounded : s.service.messages.length ≤ ingressCapacity

theorem init_inv : ({} : IngressRun P).Inv := by
  have hnil : (IngressService.init : IngressService P).messages = [] := SeqRing.entries_self ..
  refine ⟨hnil.symm, rfl, ?_⟩
  change (IngressService.init : IngressService P).messages.length ≤ ingressCapacity
  rw [hnil]
  exact Nat.zero_le _

theorem Inv.step {s : IngressRun P} (h : s.Inv) (op : IngressOp P) : (s.step op).Inv := by
  cases op with
  | push msg =>
    simp only [IngressRun.step]
    by_cases hroom : s.service.messages.length < ingressCapacity
    · obtain ⟨hok, hmessages, hpushed⟩ := IngressService.push_room hroom msg
      rw [hok, if_pos rfl]
      refine ⟨?_, ?_, ?_⟩
      · simp only
        rw [hmessages, h.accepted_eq, List.append_assoc]
      · simp only [List.length_append, List.length_singleton, UInt32.ofNat_add]
        rw [hpushed, h.pushed_eq]
        rfl
      · simp only
        rw [hmessages, List.length_append, List.length_singleton]
        exact hroom
    · rw [IngressService.push_full (Nat.le_of_not_lt hroom) msg]
      refine ⟨?_, ?_, h.bounded⟩
      · exact (List.append_nil _).trans h.accepted_eq
      · change s.service.pushed = UInt32.ofNat (s.accepted ++ []).length
        rw [List.append_nil]
        exact h.pushed_eq
  | pop =>
    simp only [IngressRun.step]
    cases hmessages : s.service.messages with
    | nil =>
      rw [IngressService.pop_nil hmessages]
      refine ⟨?_, h.pushed_eq, h.bounded⟩
      exact h.accepted_eq.trans (congrArg (· ++ _) (List.append_nil _).symm)
    | cons first rest =>
      obtain ⟨_, hfirst, hrest, hpushed⟩ := IngressService.pop_cons hmessages
      refine ⟨?_, hpushed.trans h.pushed_eq, ?_⟩
      · simp only [hfirst, hrest, Option.toList_some, List.append_assoc, List.singleton_append]
        rw [h.accepted_eq, hmessages]
      · have hbounded := h.bounded
        rw [hmessages] at hbounded
        simp only
        rw [hrest]
        exact Nat.le_of_succ_le hbounded

theorem run_inv (ops : List (IngressOp P)) : (Machine.run step ({} : IngressRun P) ops).Inv :=
  (Machine.always_of_step (fun _ op h => h.step op) init_inv ops).last

end IngressRun

namespace TraceRing

variable {ring : TraceRing}

def retained (ring : TraceRing) : List TraceRecord :=
  RingWindow.window ring.records traceRingCapacity ring.head ring.count

structure Wf (ring : TraceRing) : Prop where
  head_lt : ring.head < traceRingCapacity
  count_le : ring.count ≤ traceRingCapacity

@[simp] theorem retained_length (ring : TraceRing) : ring.retained.length = ring.count :=
  RingWindow.window_length ..

theorem record_room (h : ring.Wf) (hroom : ring.count < traceRingCapacity) (record : TraceRecord) :
    (ring.record record).2.Wf ∧ (ring.record record).2.retained = ring.retained ++ [record] ∧
      (ring.record record).2.dropped = ring.dropped := by
  unfold TraceRing.record
  rw [if_neg (Nat.ne_of_lt hroom)]
  exact ⟨⟨h.head_lt, hroom⟩, RingWindow.window_push ring.records record hroom, rfl⟩

theorem record_full (h : ring.Wf) (hfull : ring.count = traceRingCapacity) (record : TraceRecord) :
    (ring.record record).2.Wf ∧ (ring.record record).2.retained = ring.retained.tail ++ [record] ∧
      (ring.record record).2.dropped = ring.dropped + 1 := by
  unfold TraceRing.record
  rw [if_pos hfull]
  refine ⟨⟨Nat.mod_lt _ (by decide), h.count_le⟩, ?_, rfl⟩
  simp only [retained, hfull]
  exact RingWindow.window_overwrite ring.records record h.head_lt

theorem drain_spec (maxRecords : Nat) : ∀ {ring : TraceRing}, ring.Wf →
    (ring.drain maxRecords).1 = ring.retained.take maxRecords ∧
      (ring.drain maxRecords).2.Wf ∧
      (ring.drain maxRecords).2.retained = ring.retained.drop maxRecords ∧
      (ring.drain maxRecords).2.dropped = ring.dropped := by
  induction maxRecords with
  | zero => exact fun h => ⟨rfl, h, rfl, rfl⟩
  | succ maxRecords ih =>
    intro ring h
    unfold TraceRing.drain
    split
    · rename_i hempty
      have hnil : ring.retained = [] := by
        rw [← List.length_eq_zero_iff, retained_length, hempty]
      exact ⟨by rw [hnil]; rfl, h, by rw [hnil]; rfl, rfl⟩
    · rename_i hcount
      obtain ⟨count, hcount⟩ := Nat.exists_eq_succ_of_ne_zero hcount
      have hle := h.count_le
      have hnext : Wf { ring with
          head := (ring.head + 1) % traceRingCapacity, count := ring.count - 1 } :=
        ⟨Nat.mod_lt _ (by decide), Nat.le_trans (Nat.sub_le _ _) hle⟩
      have hcons : ring.retained = ring.records ring.head :: retained { ring with
          head := (ring.head + 1) % traceRingCapacity, count := ring.count - 1 } := by
        simp only [retained, hcount, Nat.succ_eq_add_one, Nat.add_sub_cancel]
        exact RingWindow.window_cons ring.records h.head_lt count
      obtain ⟨htaken, hwf, hrest, hdropped⟩ := ih hnext
      rw [hcons, List.take_succ_cons, List.drop_succ_cons]
      exact ⟨congrArg _ htaken, hwf, hrest, hdropped⟩

end TraceRing

inductive TraceOp where
  | record (record : TraceRecord)
  | drain (maxRecords : Nat)
  | clear

/-- The ring with all records that it was given, and what became of those it does not hold. -/
structure TraceRun where
  ring : TraceRing := {}
  recorded : List TraceRecord := []
  drained : List TraceRecord := []
  cleared : List TraceRecord := []
  overwritten : List TraceRecord := []

namespace TraceRun

def step (s : TraceRun) : TraceOp → TraceRun
  | .record record =>
    { s with
      ring := (s.ring.record record).2
      recorded := s.recorded ++ [record]
      overwritten := s.overwritten ++
        if s.ring.count = traceRingCapacity then s.ring.retained.take 1 else [] }
  | .drain maxRecords =>
    let out := s.ring.drain maxRecords
    { s with ring := out.2, drained := s.drained ++ out.1 }
  | .clear => { s with ring := s.ring.clear, cleared := s.cleared ++ s.ring.retained }

structure Inv (s : TraceRun) : Prop where
  wf : s.ring.Wf
  recent : s.ring.retained <:+ s.recorded
  fates : s.recorded.Perm (s.drained ++ s.cleared ++ s.overwritten ++ s.ring.retained)
  dropped_eq : s.ring.dropped = UInt32.ofNat s.overwritten.length

theorem init_inv : ({} : TraceRun).Inv :=
  ⟨⟨by decide, by decide⟩, List.suffix_refl _, List.Perm.refl _, rfl⟩

theorem suffix_snoc {α : Type} {recent all : List α} (h : recent <:+ all) (x : α) :
    recent ++ [x] <:+ all ++ [x] := by
  obtain ⟨older, rfl⟩ := h
  exact ⟨older, (List.append_assoc ..).symm⟩

theorem count_split (records : List TraceRecord) (n : Nat) (record : TraceRecord) :
    records.count record = (records.take n).count record + (records.drop n).count record := by
  rw [← List.count_append, List.take_append_drop]

theorem Inv.step {s : TraceRun} (h : s.Inv) (op : TraceOp) : (s.step op).Inv := by
  have hfates := fun x => h.fates.count_eq x
  simp only [List.count_append] at hfates
  cases op with
  | record record =>
    simp only [TraceRun.step]
    by_cases hfull : s.ring.count = traceRingCapacity
    · obtain ⟨hwf, hretained, hdropped⟩ := TraceRing.record_full h.wf hfull record
      have hone : (s.ring.retained.take 1).length = 1 := by
        rw [List.length_take, TraceRing.retained_length, hfull]
        rfl
      rw [if_pos hfull]
      refine ⟨hwf, ?_, List.perm_iff_count.mpr fun x => ?_, ?_⟩
      · rw [hretained]
        exact suffix_snoc ((List.tail_suffix _).trans h.recent) record
      · have hsplit := count_split s.ring.retained 1 x
        have hall := hfates x
        rw [List.drop_one] at hsplit
        simp only [hretained, List.count_append]
        omega
      · simp only [List.length_append, hone, UInt32.ofNat_add]
        rw [hdropped, h.dropped_eq]
        rfl
    · obtain ⟨hwf, hretained, hdropped⟩ := TraceRing.record_room h.wf
        (Nat.lt_of_le_of_ne h.wf.count_le hfull) record
      rw [if_neg hfull, List.append_nil]
      refine ⟨hwf, ?_, List.perm_iff_count.mpr fun x => ?_, hdropped.trans h.dropped_eq⟩
      · rw [hretained]
        exact suffix_snoc h.recent record
      · have hall := hfates x
        simp only [hretained, List.count_append]
        omega
  | drain maxRecords =>
    obtain ⟨htaken, hwf, hrest, hdropped⟩ := TraceRing.drain_spec maxRecords h.wf
    simp only [TraceRun.step]
    refine ⟨hwf, ?_, List.perm_iff_count.mpr fun x => ?_, hdropped.trans h.dropped_eq⟩
    · rw [hrest]
      exact (List.drop_suffix _ _).trans h.recent
    · have hsplit := count_split s.ring.retained maxRecords x
      have hall := hfates x
      simp only [htaken, hrest, List.count_append]
      omega
  | clear =>
    have hnil : s.ring.clear.retained = [] := RingWindow.window_zero ..
    refine ⟨⟨Nat.zero_lt_succ _, Nat.zero_le _⟩, ?_, List.perm_iff_count.mpr fun x => ?_, h.dropped_eq⟩
    · simp only [TraceRun.step, hnil]
      exact List.nil_suffix
    · have hall := hfates x
      simp only [TraceRun.step, hnil, List.count_append, List.count_nil]
      omega

theorem Inv.run {s : TraceRun} (h : s.Inv) (ops : List TraceOp) :
    (Machine.run TraceRun.step s ops).Inv := by
  have halways : Machine.Always TraceRun.step Inv s ops :=
    Machine.always_of_step (fun _ op h => h.step op) h ops
  exact halways.last

/-- Records without a drain between them fill the ring up to its capacity. -/
theorem run_records {s : TraceRun} (h : s.Inv) (records : List TraceRecord) :
    (Machine.run step s (records.map .record)).ring.count =
      min traceRingCapacity (s.ring.count + records.length) := by
  induction records generalizing s with
  | nil => exact (Nat.min_eq_right h.wf.count_le).symm
  | cons record records ih =>
    have hcount : (s.step (.record record)).ring.count =
        min traceRingCapacity (s.ring.count + 1) := by
      have hle := h.wf.count_le
      simp only [TraceRun.step, TraceRing.record]
      split <;> simp only <;> omega
    rw [List.map_cons, Machine.run_cons, ih (h.step _), hcount, List.length_cons]
    omega

end TraceRun

/-- Both rings refine their queues: the ingress queue returns what it accepted in order and refuses
only when it is full; the trace ring holds the most recent records, of those left by a drain and
those recorded since, and every record that left it was drained, cleared or counted as dropped. -/
theorem rings_refine_queues (ingressOps : List (IngressOp P)) (traceOps : List TraceOp)
    (records : List TraceRecord) :
    let s := Machine.run IngressRun.step {} ingressOps
    let t := Machine.run TraceRun.step {} traceOps
    let u := Machine.run TraceRun.step t (records.map .record)
    (s.accepted = s.popped ++ s.service.messages ∧
      s.service.pushed = UInt32.ofNat s.popped.length + s.service.pending ∧
      s.popped.length + s.service.pending.toNat = s.accepted.length ∧
      ∀ msg, ((s.service.push msg).1 = .errFull ↔ s.service.pending.toNat = ingressCapacity) ∧
        ((s.service.push msg).1 = .ok ∨
          s.service.push msg = (.errFull, { s.service with dropped := s.service.dropped + 1 }))) ∧
    (∀ maxRecords, (t.ring.drain maxRecords).1 = t.ring.retained.take maxRecords ∧
      (t.ring.drain maxRecords).2.retained = t.ring.retained.drop maxRecords) ∧
    u.ring.retained = u.recorded.drop
      (u.recorded.length - min traceRingCapacity (t.ring.count + records.length)) ∧
    t.recorded.length =
      t.drained.length + t.cleared.length + t.overwritten.length + t.ring.count ∧
    t.ring.dropped = UInt32.ofNat t.overwritten.length := by
  intro s t u
  have hs : s.Inv := IngressRun.run_inv ingressOps
  have ht : t.Inv := TraceRun.init_inv.run traceOps
  have hu : u.Inv := ht.run (records.map .record)
  have hlength : s.popped.length + s.service.pending.toNat = s.accepted.length := by
    rw [hs.accepted_eq, List.length_append, IngressService.messages_length]
  refine ⟨⟨hs.accepted_eq, ?_, hlength, fun msg => ?_⟩, fun maxRecords => ?_, ?_, ?_, ht.dropped_eq⟩
  · rw [hs.pushed_eq, ← hlength, UInt32.ofNat_add, UInt32.ofNat_toNat]
  · have hbounded := hs.bounded
    by_cases hroom : s.service.messages.length < ingressCapacity
    · obtain ⟨hok, _⟩ := IngressService.push_room hroom msg
      rw [← IngressService.messages_length, hok]
      exact ⟨⟨Result.noConfusion, fun hfull => absurd hfull (Nat.ne_of_lt hroom)⟩, Or.inl rfl⟩
    · have hfull := Nat.le_of_not_lt hroom
      rw [← IngressService.messages_length, IngressService.push_full hfull msg]
      exact ⟨⟨fun _ => Nat.le_antisymm hbounded hfull, fun _ => rfl⟩, Or.inr rfl⟩
  · obtain ⟨htaken, _, hrest, _⟩ := TraceRing.drain_spec maxRecords ht.wf
    exact ⟨htaken, hrest⟩
  · rw [← TraceRun.run_records ht records, ← TraceRing.retained_length]
    exact List.suffix_iff_eq_drop.mp hu.recent
  · have hlength := ht.fates.length_eq
    simpa only [List.length_append, TraceRing.retained_length] using hlength

def TraceOp.isRecord : TraceOp → Bool
  | .record _ => true
  | .drain _ | .clear => false

def TraceOp.recordsSince (ops : List TraceOp) : Nat := (ops.reverse.takeWhile isRecord).length

/-- A drain of one of two records leaves the other. -/
theorem not_retained_recordsSince :
    ¬∀ ops : List TraceOp, (Machine.run TraceRun.step {} ops).ring.retained =
      (Machine.run TraceRun.step {} ops).recorded.drop
        ((Machine.run TraceRun.step {} ops).recorded.length -
          min traceRingCapacity (TraceOp.recordsSince ops)) := by
  intro h
  exact absurd (h [.record {}, .record {}, .drain 1]) (by decide)

end EventFramework
