import EventFramework.Runtime.SleepChecks

/-!
# The fault registry over its history

Emits of one key share a record until it is drained. The records keep the order in which their keys
were stored, and each counts the accepted emits of its key since then.
-/

namespace EventFramework
set_option autoImplicit false

namespace FaultRegistry

theorem sameKey_iff (a b : FaultPayload) : sameKey a b = true ↔
    a.faultId = b.faultId ∧ a.sourceActor = b.sourceActor ∧ a.triggeringEvent = b.triggeringEvent := by
  simp only [sameKey, Bool.and_eq_true, beq_iff_eq, and_assoc]

theorem sameKey_self (a : FaultPayload) : sameKey a a = true := (sameKey_iff a a).mpr ⟨rfl, rfl, rfl⟩

theorem sameKey_comm (a b : FaultPayload) : sameKey a b = sameKey b a := by
  rw [Bool.eq_iff_iff, sameKey_iff, sameKey_iff]
  exact ⟨fun h => ⟨h.1.symm, h.2.1.symm, h.2.2.symm⟩, fun h => ⟨h.1.symm, h.2.1.symm, h.2.2.symm⟩⟩

theorem sameKey_trans {a b c : FaultPayload} (h : sameKey a b = true) (h' : sameKey b c = true) :
    sameKey a c = true := by
  rw [sameKey_iff] at *
  exact ⟨h.1.trans h'.1, h.2.1.trans h'.2.1, h.2.2.trans h'.2.2⟩

def Absent (registry : FaultRegistry) (payload : FaultPayload) : Prop :=
  ∀ record ∈ registry.records, sameKey record payload = false

/-- An emit counts with the record of its key, is stored, or finds no room. -/
theorem emit_spec (registry : FaultRegistry) (payload : FaultPayload) :
    (registry.emit payload).2.emitted = registry.emitted + 1 ∧
      ((∃ index record, registry.records[index]? = some record ∧ sameKey record payload = true ∧
        (registry.emit payload).1 = .ok ∧
        (registry.emit payload).2.records = registry.records.modify index repeated ∧
        (registry.emit payload).2.coalesced = registry.coalesced + 1 ∧
        (registry.emit payload).2.dropped = registry.dropped) ∨
      registry.Absent payload ∧ registry.records.length < faultStoreCapacity ∧
        (registry.emit payload).1 = .ok ∧
        (registry.emit payload).2.records = registry.records ++ [{ payload with counter := 1 }] ∧
        (registry.emit payload).2.coalesced = registry.coalesced ∧
        (registry.emit payload).2.dropped = registry.dropped ∨
      registry.Absent payload ∧ registry.records.length = faultStoreCapacity ∧
        (registry.emit payload).1 = .errFull ∧
        (registry.emit payload).2.records = registry.records ∧
        (registry.emit payload).2.coalesced = registry.coalesced ∧
        (registry.emit payload).2.dropped = registry.dropped + 1) := by
  unfold emit
  split
  · rename_i index hfind
    obtain ⟨hlt, hkey, _⟩ := List.findIdx?_eq_some_iff_getElem.mp hfind
    exact ⟨rfl, Or.inl ⟨index, _, List.getElem?_eq_getElem hlt, hkey, rfl, rfl, rfl, rfl⟩⟩
  · rename_i hfind
    have habsent : registry.Absent payload := fun record hrecord =>
      List.findIdx?_eq_none_iff.mp hfind record hrecord
    split
    · rename_i hroom
      exact ⟨rfl, Or.inr (Or.inl ⟨habsent, hroom, rfl, rfl, rfl, rfl⟩)⟩
    · rename_i hfull
      have hlength := Nat.le_antisymm registry.bounded (Nat.le_of_not_lt hfull)
      exact ⟨rfl, Or.inr (Or.inr ⟨habsent, hlength, rfl, rfl, rfl, rfl⟩)⟩

def absorb (payload record : FaultPayload) : FaultPayload :=
  if sameKey record payload then repeated record else record

theorem sameKey_absorb (payload a b : FaultPayload) :
    sameKey (absorb payload a) (absorb payload b) = sameKey a b := by
  have hkey (c d : FaultPayload) : sameKey (absorb payload c) d = sameKey c d := by
    unfold absorb
    split <;> rfl
  rw [hkey, sameKey_comm, hkey, sameKey_comm]

/-- With different keys, the record of a key is the only one that absorbs it. -/
theorem modify_eq_map {records : List FaultPayload} {payload record : FaultPayload} {index : Nat}
    (hdistinct : records.Pairwise fun a b => sameKey a b = false)
    (hindex : records[index]? = some record) (hkey : sameKey record payload = true) :
    records.modify index repeated = records.map (absorb payload) := by
  have hclash {i j : Nat} {a b : FaultPayload} (ha : records[i]? = some a) (hb : records[j]? = some b)
      (hlt : i < j) : sameKey a b = false := by
    obtain ⟨hi, rfl⟩ := List.getElem?_eq_some_iff.mp ha
    obtain ⟨hj, rfl⟩ := List.getElem?_eq_some_iff.mp hb
    exact List.pairwise_iff_getElem.mp hdistinct i j hi hj hlt
  apply List.ext_getElem?
  intro j
  rw [List.getElem?_modify, List.getElem?_map]
  cases hj : records[j]? with
  | none => rfl
  | some other =>
    by_cases he : index = j
    · subst he
      obtain rfl := Option.some.inj (hindex.symm.trans hj)
      simp [absorb, hkey]
    · have hother : sameKey other payload = false := by
        by_contra hsame
        rw [Bool.not_eq_false] at hsame
        rcases Nat.lt_or_gt_of_ne he with hlt | hlt
        · have hpair := sameKey_trans hkey (sameKey_comm other payload ▸ hsame)
          rw [hclash hindex hj hlt] at hpair
          cases hpair
        · have hpair := sameKey_trans hsame (sameKey_comm record payload ▸ hkey)
          rw [hclash hj hindex hlt] at hpair
          cases hpair
      simp [absorb, he, hother]

end FaultRegistry

/-- A fault registry with the emits that it accepted, the place among them of the emit that stored
each record, and the number of records that were ever stored. -/
structure FaultRun where
  registry : FaultRegistry := .empty
  accepted : List FaultPayload := []
  storedAt : List Nat := []
  stored : Nat := 0

namespace FaultRun

def step (s : FaultRun) : FaultCall → FaultRun
  | .emit payload =>
    let out := s.registry.emit payload
    let isNew := decide (s.registry.records.length < out.2.records.length)
    { registry := out.2
      accepted := if out.1 = .ok then s.accepted ++ [payload] else s.accepted
      storedAt := if isNew then s.storedAt ++ [s.accepted.length] else s.storedAt
      stored := if isNew then s.stored + 1 else s.stored }
  | .drain maxRecords =>
    { s with registry := s.registry.drain maxRecords, storedAt := s.storedAt.drop maxRecords }
  | .ackAll => { s with registry := s.registry.ackAll, storedAt := [] }

def emitsSince (s : FaultRun) (place : Nat) (key : FaultPayload) : Nat :=
  (s.accepted.drop place).countP (FaultRegistry.sameKey key)

/-- The record is the payload that was accepted at the place, with the emits of its key counted. -/
def CountsFrom (s : FaultRun) (record : FaultPayload) (place : Nat) : Prop :=
  ∃ payload, s.accepted[place]? = some payload ∧
    record = { payload with counter := UInt32.ofNat (s.emitsSince place payload) }

structure Inv (s : FaultRun) : Prop where
  distinct : s.registry.records.Pairwise fun a b => FaultRegistry.sameKey a b = false
  ordered : s.storedAt.Pairwise (· < ·)
  bounded : ∀ place ∈ s.storedAt, place < s.accepted.length
  counted : List.Forall₂ s.CountsFrom s.registry.records s.storedAt
  emitted_eq : s.registry.emitted =
    s.registry.coalesced + s.registry.dropped + UInt32.ofNat s.stored

theorem init_inv : ({} : FaultRun).Inv := ⟨.nil, .nil, by simp, .nil, rfl⟩

variable {s : FaultRun} {payload record : FaultPayload} {place : Nat}

theorem CountsFrom.accept (h : s.CountsFrom record place) {t : FaultRun}
    (haccepted : t.accepted = s.accepted ++ [payload]) :
    t.CountsFrom (FaultRegistry.absorb payload record) place := by
  obtain ⟨first, hplace, rfl⟩ := h
  have hlt := (List.getElem?_eq_some_iff.mp hplace).1
  have hsince : t.emitsSince place first = s.emitsSince place first +
      if FaultRegistry.sameKey first payload then 1 else 0 := by
    simp only [emitsSince, haccepted, List.drop_append_of_le_length (Nat.le_of_lt hlt),
      List.countP_append, List.countP_singleton]
  refine ⟨first, ?_, ?_⟩
  · rw [haccepted, List.getElem?_append_left hlt]
    exact hplace
  · rw [hsince]
    have hkey : FaultRegistry.sameKey
        { first with counter := UInt32.ofNat (s.emitsSince place first) } payload =
        FaultRegistry.sameKey first payload := rfl
    rw [FaultRegistry.absorb, hkey]
    split
    · rw [UInt32.ofNat_add]
      rfl
    · rfl

theorem Inv.emit (h : s.Inv) (payload : FaultPayload) : (s.step (.emit payload)).Inv := by
  have hlater : ∀ place ∈ s.storedAt, place < (s.accepted ++ [payload]).length := by
    intro place hplace
    rw [List.length_append]
    exact Nat.lt_add_right _ (h.bounded place hplace)
  obtain ⟨hemitted, ⟨index, record, hindex, hkey, hok, hrecords, hcoalesced, hdropped⟩ |
    ⟨habsent, hroom, hok, hrecords, hcoalesced, hdropped⟩ |
    ⟨_, _, hfull, hrecords, hcoalesced, hdropped⟩⟩ := s.registry.emit_spec payload
  · have hmap := FaultRegistry.modify_eq_map h.distinct hindex hkey
    have hsame : s.step (.emit payload) =
        ⟨(s.registry.emit payload).2, s.accepted ++ [payload], s.storedAt, s.stored⟩ := by
      simp [step, hok, hrecords]
    rw [hsame]
    refine ⟨?_, h.ordered, hlater, ?_, ?_⟩
    · simp only [hrecords, hmap, List.pairwise_map, FaultRegistry.sameKey_absorb]
      exact h.distinct
    · simp only [hrecords, hmap, List.forall₂_map_left_iff]
      exact h.counted.imp fun _ _ hcounts => hcounts.accept rfl
    · simp only [hemitted, hcoalesced, hdropped, h.emitted_eq]
      grind
  · have hsame : s.step (.emit payload) = ⟨(s.registry.emit payload).2, s.accepted ++ [payload],
        s.storedAt ++ [s.accepted.length], s.stored + 1⟩ := by
      simp [step, hok, hrecords]
    have hself : s.registry.records.map (FaultRegistry.absorb payload) = s.registry.records := by
      refine (List.map_congr_left fun record hrecord => ?_).trans (List.map_id _)
      rw [FaultRegistry.absorb, habsent record hrecord]
      rfl
    rw [hsame]
    refine ⟨?_, ?_, ?_, ?_, ?_⟩
    · simp only [hrecords]
      refine List.pairwise_append.mpr ⟨h.distinct, List.pairwise_singleton .., ?_⟩
      intro record hrecord new hnew
      rw [List.mem_singleton.mp hnew]
      exact habsent record hrecord
    · refine List.pairwise_append.mpr ⟨h.ordered, List.pairwise_singleton .., ?_⟩
      intro place hplace new hnew
      rw [List.mem_singleton.mp hnew]
      exact h.bounded place hplace
    · intro place hplace
      rcases List.mem_append.mp hplace with hplace | hplace
      · exact hlater place hplace
      · rw [List.mem_singleton.mp hplace, List.length_append]
        exact Nat.lt_succ_self _
    · simp only [hrecords]
      rw [← hself]
      refine List.rel_append ?_ (.cons ⟨payload, ?_, ?_⟩ .nil)
      · exact List.forall₂_map_left_iff.mpr (h.counted.imp fun _ _ hcounts => hcounts.accept rfl)
      · exact List.getElem?_concat_length
      · simp [emitsSince, FaultRegistry.sameKey_self]
    · simp only [hemitted, hcoalesced, hdropped, h.emitted_eq, UInt32.ofNat_add]
      grind
  · have hsame : s.step (.emit payload) =
        ⟨(s.registry.emit payload).2, s.accepted, s.storedAt, s.stored⟩ := by
      simp [step, hfull, hrecords]
    rw [hsame]
    refine ⟨?_, h.ordered, h.bounded, ?_, ?_⟩
    · simp only [hrecords]
      exact h.distinct
    · simp only [hrecords]
      exact h.counted
    · simp only [hemitted, hcoalesced, hdropped, h.emitted_eq]
      grind

theorem Inv.step {s : FaultRun} (h : s.Inv) (call : FaultCall) : (s.step call).Inv := by
  cases call with
  | emit payload => exact h.emit payload
  | drain maxRecords =>
    refine ⟨h.distinct.drop, h.ordered.drop, ?_, List.forall₂_drop maxRecords h.counted, h.emitted_eq⟩
    exact fun place hplace => h.bounded place (List.mem_of_mem_drop hplace)
  | ackAll => exact ⟨.nil, .nil, by simp [FaultRun.step], .nil, h.emitted_eq⟩

/-- The fault registry keeps one record for a key, in the order in which the keys were stored. Each
counts the accepted emits of its key since then, an emit fails only when it finds no room, and a drain
takes the oldest records. -/
theorem faultRegistry_integrity (calls : List FaultCall) :
    let s := Machine.run step {} calls
    (s.registry.records.Pairwise fun a b => FaultRegistry.sameKey a b = false) ∧
    (s.storedAt.Pairwise (· < ·) ∧ List.Forall₂ s.CountsFrom s.registry.records s.storedAt) ∧
    (∀ payload,
      ((s.registry.emit payload).1 = .errFull ↔
        s.registry.Absent payload ∧ s.registry.records.length = faultStoreCapacity) ∧
      ((s.registry.emit payload).1 = .ok ∨
        (s.registry.emit payload).1 = .errFull ∧
          (s.registry.emit payload).2.records = s.registry.records)) ∧
    (∀ maxRecords, s.registry.drained maxRecords ++ (s.registry.drain maxRecords).records =
        s.registry.records ∧
      (s.registry.drained maxRecords).length = min s.registry.records.length maxRecords) ∧
    s.registry.emitted = s.registry.coalesced + s.registry.dropped + UInt32.ofNat s.stored := by
  intro s
  have halways : Machine.Always step Inv {} calls :=
    Machine.always_of_step (fun _ call h => h.step call) init_inv calls
  have h : s.Inv := halways.last
  refine ⟨h.distinct, ⟨h.ordered, h.counted⟩, fun payload => ?_, fun maxRecords => ⟨?_, ?_⟩,
    h.emitted_eq⟩
  · obtain ⟨_, ⟨index, record, hindex, hkey, hok, _⟩ | ⟨_, hroom, hok, _⟩ |
      ⟨habsent, hlength, hfull, hrecords, _⟩⟩ := s.registry.emit_spec payload
    · rw [hok]
      refine ⟨⟨Result.noConfusion, fun hrefused => ?_⟩, Or.inl rfl⟩
      have hother := hrefused.1 record (List.mem_of_getElem? hindex)
      rw [hkey] at hother
      cases hother
    · rw [hok]
      exact ⟨⟨Result.noConfusion, fun hrefused => absurd hrefused.2 (Nat.ne_of_lt hroom)⟩, Or.inl rfl⟩
    · rw [hfull, hrecords]
      exact ⟨⟨fun _ => ⟨habsent, hlength⟩, fun _ => rfl⟩, Or.inr ⟨rfl, rfl⟩⟩
  · exact List.take_append_drop maxRecords s.registry.records
  · rw [FaultRegistry.drained, List.length_take, Nat.min_comm]

end FaultRun

end EventFramework
