import EventFramework.Runtime.TimerService
import Mathlib.Data.Finset.Max

/-!
# The next deadline of a timer table

Timers accepted at one time, in any slots. Which of their deadlines the loop keeps depends on
their order when the delays lie further apart than half the range of the clock; deadlines that lie
closer are compared as the times they stand for.
-/

namespace EventFramework
set_option autoImplicit false

namespace TimerService

/-- A table whose timers were all accepted when the clock showed `nowMs`. -/
inductive FilledAt (nowMs : UInt32) : TimerService → Prop where
  | idle {svc : TimerService} : (∀ index, (svc.slots index).active = false) → FilledAt nowMs svc
  | schedule {svc svc' : TimerService} {delayMs arg0 : UInt32} {targetActor : ActorId}
    {eventId : EventId} {periodic : Bool} {token : TimerToken} : FilledAt nowMs svc →
    svc.schedule nowMs delayMs targetActor eventId arg0 periodic = .ok (token, svc') →
    FilledAt nowMs svc'
  | cancel {svc : TimerService} (token : TimerToken) : FilledAt nowMs svc →
    FilledAt nowMs (svc.cancel token).2

def delayAt (svc : TimerService) (index : TimerIndex) : Option UInt32 :=
  if (svc.slots index).active then some (svc.slots index).periodMs else none

def delays (svc : TimerService) : List UInt32 :=
  (List.finRange timerServiceCapacity).filterMap svc.delayAt

/-- The time, less than one turn of the clock after `start`, at which the clock shows `deadlineMs`. -/
def trueDeadline (start : Nat) (deadlineMs : UInt32) : Nat :=
  start + (deadlineMs - UInt32.ofNat start).toNat

/-- With an active timer there is a next deadline, and none of the timers accepted at `start`
comes before it. -/
def Earliest (start : Nat) (svc : TimerService) : Prop :=
  svc.delays ≠ [] → ∃ next, svc.nextDeadlineMs = some next ∧
    ∀ delayMs ∈ svc.delays, trueDeadline start next ≤ start + delayMs.toNat

def kept (best : Option UInt32) (deadlineMs : UInt32) : Option UInt32 :=
  match best with
  | none => some deadlineMs
  | some found => if (deadlineMs - found).toInt32 < 0 then some deadlineMs else some found

theorem mem_delays {svc : TimerService} {delayMs : UInt32} :
    delayMs ∈ svc.delays ↔
      ∃ index, (svc.slots index).active = true ∧ (svc.slots index).periodMs = delayMs := by
  unfold delays delayAt
  rw [List.mem_filterMap]
  constructor
  · rintro ⟨index, _, hdelay⟩
    split at hdelay
    · rename_i hactive
      exact ⟨index, hactive, Option.some.inj hdelay⟩
    · cases hdelay
  · rintro ⟨index, hactive, rfl⟩
    exact ⟨index, List.mem_finRange index, by rw [if_pos hactive]⟩

theorem FilledAt.deadline {nowMs : UInt32} {svc : TimerService} (h : FilledAt nowMs svc) :
    ∀ index, (svc.slots index).active = true →
      (svc.slots index).deadlineMs = nowMs + (svc.slots index).periodMs := by
  induction h with
  | idle hidle =>
    intro index hactive
    rw [hidle index] at hactive
    cases hactive
  | schedule _ hschedule ih =>
    intro index hactive
    obtain ⟨filled, slot, -, hslots, -, -, hdeadline, hperiod, -, -⟩ := schedule_ok hschedule
    rw [hslots] at hactive ⊢
    by_cases hsame : index = filled
    · rw [hsame, Function.update_self, hdeadline, hperiod]
    · rw [Function.update_of_ne hsame] at hactive ⊢
      exact ih index hactive
  | @cancel svc token _ ih =>
    intro index hactive
    rcases cancel_kept svc token index with hsame | hoff
    · rw [hsame] at hactive ⊢
      exact ih index hactive
    · rw [hoff] at hactive
      cases hactive

/-- The loop over the slots is one over the deadlines of the active timers. -/
theorem FilledAt.nextDeadlineMs {nowMs : UInt32} {svc : TimerService} (h : FilledAt nowMs svc) :
    svc.nextDeadlineMs = (svc.delays.map (nowMs + ·)).foldl kept none := by
  rw [List.foldl_map, delays, List.foldl_filterMap, TimerService.nextDeadlineMs]
  congr 1
  funext best index
  unfold nearer delayAt
  simp only
  split
  · rename_i hactive
    rw [h.deadline index hactive]
    cases best with
    | none => rfl
    | some found => rfl
  · rfl

/-- Delays within half the range of the clock of each other: the loop keeps the shortest. -/
theorem FilledAt.earliest {start : Nat} {svc : TimerService} (h : FilledAt (UInt32.ofNat start) svc)
    (hnear : ∀ a ∈ svc.delays, ∀ b ∈ svc.delays, a.toNat < b.toNat + 2 ^ 31) : Earliest start svc := by
  intro hsome
  obtain ⟨least, hleast, hmin⟩ :=
    Finset.exists_min_image svc.delays.toFinset UInt32.toNat (List.toFinset_nonempty_iff _ |>.mpr hsome)
  simp only [List.mem_toFinset] at hleast hmin
  obtain ⟨index, hactive, hperiod⟩ := mem_delays.mp hleast
  have hdeadline := h.deadline index hactive
  rw [hperiod] at hdeadline
  -- the clock one tick before the shortest delay is over
  have hfuture : ∀ other, (svc.slots other).active = true →
      isDue (UInt32.ofNat start + least - 1) (svc.slots other).deadlineMs = false := by
    intro other hother
    have hmem : (svc.slots other).periodMs ∈ svc.delays := mem_delays.mpr ⟨other, hother, rfl⟩
    have hfar := hnear _ hmem _ hleast
    have hlate := hmin _ hmem
    rw [h.deadline other hother, Bool.eq_false_iff, ne_eq, isDue_iff]
    simp only [UInt32.toNat_sub, UInt32.toNat_add, UInt32.toNat_ofNat', UInt32.toNat_one]
    omega
  obtain ⟨found, hnext, hahead, hle⟩ := nextDeadlineMs_le hfuture hactive
  have hfound : found = UInt32.ofNat start + least := by
    rw [Bool.eq_false_iff, ne_eq, isDue_iff] at hahead
    rw [hdeadline] at hle
    have hbound := found.toNat_lt
    apply UInt32.toNat_inj.mp
    simp only [UInt32.toNat_sub, UInt32.toNat_add, UInt32.toNat_ofNat', UInt32.toNat_one] at hahead hle ⊢
    omega
  refine ⟨found, hnext, fun delayMs hdelay => ?_⟩
  have htrue : trueDeadline start found = start + least.toNat := by
    rw [trueDeadline, hfound, UInt32.add_comm, UInt32.add_sub_cancel]
  rw [htrue]
  exact Nat.add_le_add_left (hmin _ hdelay) _

/-- How far the deadline is ahead of the clock by the signed test; negative when it has passed. -/
def aheadMs (nowMs deadlineMs : UInt32) : Int := (deadlineMs - nowMs).toInt32.toInt

/-- Any two active deadlines are less than half the range of the clock apart. -/
def Close (svc : TimerService) (nowMs : UInt32) : Prop :=
  ∀ a b, (svc.slots a).active = true → (svc.slots b).active = true →
    aheadMs nowMs (svc.slots a).deadlineMs < aheadMs nowMs (svc.slots b).deadlineMs + 2 ^ 31

theorem aheadMs_eq (nowMs deadlineMs : UInt32) :
    aheadMs nowMs deadlineMs = if (deadlineMs - nowMs).toNat < 2 ^ 31 then
      ((deadlineMs - nowMs).toNat : Int) else (deadlineMs - nowMs).toNat - 2 ^ 32 := by
  have hint : aheadMs nowMs deadlineMs = (deadlineMs - nowMs).toBitVec.toInt := rfl
  rw [hint, BitVec.toInt_eq_toNat_cond]
  simp only [UInt32.toNat_toBitVec]
  split <;> split <;> omega

theorem Close.nextDeadlineMs_le {svc : TimerService} {nowMs : UInt32} (h : svc.Close nowMs)
    {index : TimerIndex} (hactive : (svc.slots index).active = true) :
    ∃ first, (svc.slots first).active = true ∧
      svc.nextDeadlineMs = some (svc.slots first).deadlineMs ∧
      ∀ other, (svc.slots other).active = true →
        aheadMs nowMs (svc.slots first).deadlineMs ≤ aheadMs nowMs (svc.slots other).deadlineMs := by
  obtain ⟨first, hfirst, hmin⟩ := Finset.exists_min_image
    (Finset.univ.filter fun other => (svc.slots other).active = true)
    (fun other => aheadMs nowMs (svc.slots other).deadlineMs) ⟨index, by simpa using hactive⟩
  simp only [Finset.mem_filter, Finset.mem_univ, true_and] at hfirst hmin
  -- the clock one tick before the first deadline
  have hfuture : ∀ other, (svc.slots other).active = true →
      isDue ((svc.slots first).deadlineMs - 1) (svc.slots other).deadlineMs = false := by
    intro other hother
    have hclose := h other first hother hfirst
    have hlater := hmin other hother
    rw [aheadMs_eq, aheadMs_eq] at hclose hlater
    rw [Bool.eq_false_iff, ne_eq, isDue_iff]
    simp only [UInt32.toNat_sub, UInt32.toNat_one] at hclose hlater ⊢
    have hnow := nowMs.toNat_lt
    have hlast := (svc.slots first).deadlineMs.toNat_lt
    have hthis := (svc.slots other).deadlineMs.toNat_lt
    split at hclose <;> split at hclose <;> omega
  obtain ⟨found, hnext, hahead, hle⟩ := TimerService.nextDeadlineMs_le hfuture hfirst
  have hfound : found = (svc.slots first).deadlineMs := by
    rw [Bool.eq_false_iff, ne_eq, isDue_iff] at hahead
    apply UInt32.toNat_inj.mp
    simp only [UInt32.toNat_sub, UInt32.toNat_one] at hahead hle
    have hbound := found.toNat_lt
    have hlast := (svc.slots first).deadlineMs.toNat_lt
    omega
  exact ⟨first, hfirst, hfound ▸ hnext, hmin⟩

theorem filterMap_range {α : Type} (items : List α) (n : Nat) :
    (List.range n).filterMap (items[·]?) = items.take n := by
  induction n with
  | zero => rfl
  | succ n ih =>
    rw [List.range_succ, List.filterMap_append, ih, List.take_add_one]
    cases hlast : items[n]? with
    | none => simp [hlast]
    | some item => simp [hlast]

theorem delays_of_slots {svc : TimerService} {delays : List UInt32}
    (hlength : delays.length ≤ timerServiceCapacity)
    (h : ∀ index, svc.delayAt index = delays[index.val]?) : svc.delays = delays := by
  have hslots : svc.delayAt = (delays[·]?) ∘ Fin.val := funext h
  rw [TimerService.delays, hslots, ← List.filterMap_map, List.map_coe_finRange_eq_range,
    filterMap_range, List.take_of_length_le hlength]

theorem exists_filled (nowMs : UInt32) (delays : List UInt32) (hpos : ∀ delayMs ∈ delays, delayMs ≠ 0)
    (hlength : delays.length ≤ timerServiceCapacity) :
    ∃ svc, FilledAt nowMs svc ∧ ∀ index, svc.delayAt index = delays[index.val]? := by
  induction delays using List.reverseRecOn with
  | nil => exact ⟨init, .idle fun _ => rfl, fun _ => rfl⟩
  | append_singleton delays delayMs ih =>
    rw [List.length_append, List.length_singleton] at hlength
    obtain ⟨svc, hfilled, hslots⟩ :=
      ih (fun other hmem => hpos other (List.mem_append_left _ hmem)) (by omega)
    have hactive : ∀ index, (svc.slots index).active = decide (index.val < delays.length) := by
      intro index
      have hslot := hslots index
      unfold delayAt at hslot
      by_cases hon : (svc.slots index).active = true
      · rw [if_pos hon] at hslot
        obtain ⟨hlt, _⟩ := List.getElem?_eq_some_iff.mp hslot.symm
        rw [hon, decide_eq_true hlt]
      · rw [if_neg hon] at hslot
        have hge := List.getElem?_eq_none_iff.mp hslot.symm
        rw [Bool.eq_false_iff.mpr hon, decide_eq_false (by omega)]
    have hfree : svc.freeIndex = some ⟨delays.length, hlength⟩ := by
      rw [freeIndex, List.find?_eq_some_iff_getElem]
      refine ⟨by rw [hactive]; simp, delays.length, hlength.trans_eq List.length_finRange.symm, by simp, ?_⟩
      intro earlier hlt
      rw [hactive]
      simpa using hlt
    have hdelay : delayMs ≠ 0 := hpos delayMs (List.mem_append_right _ (List.mem_singleton_self _))
    obtain ⟨token, svc', hschedule⟩ : ∃ token svc',
        svc.schedule nowMs delayMs .fault .tick1s 0 false = .ok (token, svc') := by
      rw [schedule, dif_neg hdelay, hfree]
      exact ⟨_, _, rfl⟩
    refine ⟨svc', hfilled.schedule hschedule, fun index => ?_⟩
    rw [schedule, dif_neg hdelay, hfree] at hschedule
    obtain ⟨rfl, rfl⟩ := Prod.mk.inj (Except.ok.inj hschedule)
    by_cases hsame : index = ⟨delays.length, hlength⟩
    · rw [hsame, delayAt]
      simp [setSlot]
    · have hne : index.val ≠ delays.length := fun heq => hsame (Fin.ext heq)
      have hkept := hslots index
      rw [delayAt] at hkept ⊢
      simp only [setSlot, Function.update_of_ne hsame]
      rw [hkept, List.getElem?_append]
      split
      · rfl
      · rw [List.getElem?_eq_none (by omega), List.getElem?_eq_none (by simp; omega)]

/-- With the longest delay in the last slot, the loop takes it for a deadline before the shortest. -/
theorem not_earliest {start : Nat} {svc : TimerService} {earlier : List UInt32} {long short : UInt32}
    (h : FilledAt (UInt32.ofNat start) svc) (hdelays : svc.delays = earlier ++ [long])
    (hshort : short ∈ earlier) (hfar : short.toNat + 2 ^ 31 ≤ long.toNat) : ¬Earliest start svc := by
  intro hearliest
  have htrue : ∀ delayMs : UInt32,
      trueDeadline start (UInt32.ofNat start + delayMs) = start + delayMs.toNat := by
    intro delayMs
    rw [trueDeadline, UInt32.add_comm, UInt32.add_sub_cancel]
  obtain ⟨next, hnext, hfirst⟩ := hearliest (by rw [hdelays]; simp)
  have hbefore := hfirst short (by rw [hdelays]; exact List.mem_append_left _ hshort)
  rw [h.nextDeadlineMs, hdelays, List.map_append, List.foldl_append] at hnext
  simp only [List.map_cons, List.map_nil, List.foldl_cons, List.foldl_nil] at hnext
  cases hbest : (earlier.map (UInt32.ofNat start + ·)).foldl kept none with
  | none =>
    rw [hbest] at hnext
    obtain rfl := Option.some.inj hnext
    rw [htrue] at hbefore
    omega
  | some found =>
    rw [hbest, kept] at hnext
    split at hnext
    · obtain rfl := Option.some.inj hnext
      rw [htrue] at hbefore
      omega
    · rename_i hlater
      obtain rfl := Option.some.inj hnext
      have hnow := (UInt32.ofNat start).toNat_lt
      have hlong := long.toNat_lt
      apply hlater
      have hint : (UInt32.ofNat start + long - found).toInt32.toInt =
          (UInt32.ofNat start + long - found).toBitVec.toInt := rfl
      rw [Int32.lt_iff_toInt_lt, hint, BitVec.toInt_eq_toNat_cond]
      unfold trueDeadline at hbefore
      have hfound := found.toNat_lt
      simp only [UInt32.toNat_toBitVec, Int32.toInt_zero, UInt32.toNat_sub, UInt32.toNat_add] at hbefore hnow ⊢
      generalize (UInt32.ofNat start).toNat = now at *
      split
      · omega
      · omega

/-- The delays of a table, accepted at one time: in whatever slots the timers are, no deadline
comes before the next deadline, just when the delays differ by less than half the range of the
clock. -/
theorem earliest_iff (start : Nat) (svc : TimerService) :
    (∀ svc', FilledAt (UInt32.ofNat start) svc' → svc'.delays.Perm svc.delays →
      Earliest start svc') ↔
    ∀ a ∈ svc.delays, ∀ b ∈ svc.delays, a.toNat < b.toNat + 2 ^ 31 := by
  constructor
  · intro hearliest long hlong short hshort
    by_contra hfar
    rw [Nat.not_lt] at hfar
    have hother : short ∈ svc.delays.erase long := by
      refine (List.mem_erase_of_ne fun hsame => ?_).mpr hshort
      rw [hsame] at hfar
      omega
    have hperm : (svc.delays.erase long ++ [long]).Perm svc.delays :=
      List.perm_append_comm.trans (List.perm_cons_erase hlong).symm
    obtain ⟨svc', hfilled, hslots⟩ :=
      exists_filled (UInt32.ofNat start) (svc.delays.erase long ++ [long])
        (fun delayMs hmem => by
          obtain ⟨index, hactive, rfl⟩ := mem_delays.mp (hperm.mem_iff.mp hmem)
          exact (svc.slots index).period_pos hactive)
        (by
          rw [hperm.length_eq]
          exact (List.length_filterMap_le _ _).trans_eq List.length_finRange)
    have hdelays := delays_of_slots (by
      rw [hperm.length_eq]
      exact (List.length_filterMap_le _ _).trans_eq List.length_finRange) hslots
    exact not_earliest hfilled hdelays hother hfar (hearliest svc' hfilled (hdelays ▸ hperm))
  · intro hnear svc' hfilled hperm
    apply hfilled.earliest
    intro a ha b hb
    exact hnear a (hperm.mem_iff.mp ha) b (hperm.mem_iff.mp hb)

/-- A timer of 1 ms and, in the next slot, one of 24.9 days: the next deadline is 24.9 days away. -/
theorem not_earliest_month :
    ¬ ∀ (start : Nat) (svc : TimerService), FilledAt (UInt32.ofNat start) svc → Earliest start svc := by
  intro hearliest
  have hidle : FilledAt (UInt32.ofNat 0) init := .idle fun _ => rfl
  have hshort := hidle.schedule (rfl : init.schedule 0 1 .fault .tick1s 0 false = .ok (⟨0, 1⟩, _))
  have hboth := hshort.schedule
    (rfl : schedule _ 0 2147483649 .fault .tick1s 0 false = .ok (⟨1, 1⟩, _))
  obtain ⟨next, hnext, hfirst⟩ := hearliest 0 _ hboth (by decide)
  have hlate : some next = some 2147483649 := hnext.symm.trans (by decide)
  obtain rfl := Option.some.inj hlate
  exact absurd (hfirst 1 (by decide)) (by decide)

end TimerService

end EventFramework
