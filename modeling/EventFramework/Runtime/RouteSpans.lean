import EventFramework.Library.Contiguous
import EventFramework.Library.Machine
import EventFramework.Runtime.GraphRoutes

/-!
# The spans of the active route table

The scan closes an event where another one follows it. It reaches the end of the table
just when no closed event comes back.
-/

namespace EventFramework
set_option autoImplicit false

namespace SpanScan

structure Scanned (scan : SpanScan) (events : List EventId) : Prop where
  exact : SpansExact scan.spans events
  previous : scan.previous = events.getLast?
  closed : ∀ eventId, scan.closed eventId = true ↔
    eventId ∈ events ∧ events.getLast? ≠ some eventId

theorem Scanned.start : Scanned {} [] := by
  refine ⟨?_, rfl, ?_⟩
  · intro eventId i
    simp
  · intro eventId
    simp

/-- Closing the previous event: all events but the one at hand are closed. -/
theorem Scanned.close_iff {scan : SpanScan} {events : List EventId} (h : Scanned scan events)
    (eventId other : EventId) : scan.close eventId other = true ↔
      other ∈ events ∧ (other = eventId → events.getLast? ≠ some eventId) := by
  unfold close
  rw [h.previous]
  cases hlast : events.getLast? with
  | none =>
    have hnil := List.getLast?_eq_none_iff.mp hlast
    subst hnil
    simp only
    rw [h.closed]
    simp
  | some last =>
    have hmem := List.mem_of_getLast? hlast
    simp only
    by_cases hsame : eventId = last
    · subst hsame
      rw [if_neg (not_not.mpr rfl), h.closed, hlast]
      constructor
      · rintro ⟨hother, hne⟩
        exact ⟨hother, fun he => absurd (congrArg some he.symm) hne⟩
      · rintro ⟨hother, hne⟩
        exact ⟨hother, fun he => hne (Option.some.inj he).symm rfl⟩
    · rw [if_pos hsame]
      by_cases hother : other = last
      · subst hother
        rw [Function.update_self]
        exact iff_of_true rfl ⟨hmem, fun he => absurd he.symm hsame⟩
      · rw [Function.update_of_ne hother, h.closed, hlast]
        constructor
        · rintro ⟨hin, _⟩
          exact ⟨hin, fun _ he => hsame (Option.some.inj he).symm⟩
        · rintro ⟨hin, _⟩
          exact ⟨hin, fun he => hother (Option.some.inj he).symm⟩

/-- Only events that were passed have a span. -/
theorem Scanned.count_pos_iff {scan : SpanScan} {events : List EventId} (h : Scanned scan events)
    (eventId : EventId) : 0 < (scan.spans eventId).count ↔ eventId ∈ events := by
  constructor
  · intro hpos
    exact List.mem_of_getElem? ((h.exact eventId (scan.spans eventId).startIndex).mpr (by omega))
  · intro hmem
    obtain ⟨i, hget⟩ := List.mem_iff_getElem?.mp hmem
    have := (h.exact eventId i).mp hget
    omega

theorem Scanned.span_end {scan : SpanScan} {events : List EventId} (h : Scanned scan events)
    {eventId : EventId} (hlast : events.getLast? = some eventId) :
    (scan.spans eventId).startIndex + (scan.spans eventId).count = events.length := by
  have hpos := List.length_pos_of_mem (List.mem_of_getLast? hlast)
  rw [List.getLast?_eq_getElem?] at hlast
  have hin := (h.exact eventId (events.length - 1)).mp hlast
  have hout := mt (h.exact eventId events.length).mpr (by simp)
  omega

/-- Step lemma: an entry is accepted if its event is valid and new or the last one. -/
theorem visit_ok_iff {scan : SpanScan} {events : List EventId} (h : Scanned scan events)
    (eventId : EventId) :
    (scan.visit events.length eventId).1 = .ok ↔
      eventId.isValid = true ∧ (eventId ∈ events → events.getLast? = some eventId) := by
  have hclosed := h.close_iff eventId eventId
  have hspan := h.count_pos_iff eventId
  unfold visit
  by_cases hvalid : eventId.isValid = true
  · simp only [hvalid, Bool.not_true, Bool.false_eq_true, if_false, true_and]
    by_cases hmem : eventId ∈ events
    · have hcount : ¬ (scan.spans eventId).count = 0 := by
        have := hspan.mpr hmem
        omega
      rw [if_neg hcount]
      by_cases hlast : events.getLast? = some eventId
      · have hopen : ¬ scan.close eventId eventId = true := fun hc => (hclosed.mp hc).2 rfl hlast
        rw [if_neg (not_or.mpr ⟨hopen, not_not.mpr (h.span_end hlast)⟩)]
        exact iff_of_true rfl fun _ => hlast
      · rw [if_pos (Or.inl (hclosed.mpr ⟨hmem, fun _ => hlast⟩))]
        exact iff_of_false (by simp) fun hall => hlast (hall hmem)
    · have hcount : (scan.spans eventId).count = 0 := by
        have := mt hspan.mp hmem
        omega
      have hopen : ¬ scan.close eventId eventId = true := fun hc => hmem (hclosed.mp hc).1
      rw [if_pos hcount, if_neg hopen]
      exact iff_of_true rfl fun hin => absurd hin hmem
  · simp [hvalid]

theorem visit_locals {scan : SpanScan} {i : Nat} {eventId : EventId}
    (hok : (scan.visit i eventId).1 = .ok) :
    (scan.visit i eventId).2.previous = some eventId ∧
      (scan.visit i eventId).2.closed = scan.close eventId := by
  unfold visit at hok ⊢
  simp only at hok ⊢
  split at hok
  · cases hok
  · rename_i hvalid
    rw [if_neg hvalid]
    split at hok
    · rename_i hcount
      rw [if_pos hcount]
      split at hok
      · cases hok
      · rename_i hopen
        rw [if_neg hopen]
        exact ⟨rfl, rfl⟩
    · rename_i hcount
      rw [if_neg hcount]
      split at hok
      · cases hok
      · rename_i hopen
        rw [if_neg hopen]
        exact ⟨rfl, rfl⟩

theorem visit_scanned {scan : SpanScan} {events : List EventId} (h : Scanned scan events)
    {eventId : EventId} (hok : (scan.visit events.length eventId).1 = .ok) :
    Scanned (scan.visit events.length eventId).2 (events ++ [eventId]) := by
  obtain ⟨_, hlast⟩ := (visit_ok_iff h eventId).mp hok
  obtain ⟨hprevious, hclosed⟩ := visit_locals hok
  refine ⟨visit_exact h.exact (Prod.ext hok rfl), by simp [hprevious], ?_⟩
  intro other
  rw [hclosed, h.close_iff, List.getLast?_concat]
  by_cases he : other = eventId
  · subst he
    refine iff_of_false ?_ (fun hother => hother.2 rfl)
    rintro ⟨hmem, hne⟩
    exact hne rfl (hlast hmem)
  · have hne : some eventId ≠ some other := fun hsame => he (Option.some.inj hsame).symm
    simp [he, hne]

/-- Run lemma: the scan ends well on valid events that stand together. -/
theorem visitAll_ok_iff (rest : List EventId) : ∀ {events : List EventId} {scan : SpanScan},
    Scanned scan events → Contiguous events →
      ((visitAll events.length rest scan).1 = .ok ↔
        (∀ eventId ∈ rest, eventId.isValid = true) ∧ Contiguous (events ++ rest)) := by
  induction rest with
  | nil =>
    intro events scan _ hcontiguous
    simp [visitAll, hcontiguous]
  | cons eventId rest ih =>
    intro events scan h hcontiguous
    have happend : events ++ eventId :: rest = (events ++ [eventId]) ++ rest := by simp
    have hlength : events.length + 1 = (events ++ [eventId]).length := by simp
    have hstep := visit_ok_iff h eventId
    simp only [visitAll]
    by_cases hok : (scan.visit events.length eventId).1 = .ok
    · obtain ⟨hvalid, hlast⟩ := hstep.mp hok
      rw [if_pos hok, hlength, ih (visit_scanned h hok) (Contiguous.concat_iff.mpr ⟨hcontiguous, hlast⟩),
        List.forall_mem_cons, happend]
      simp [hvalid]
    · rw [if_neg hok]
      refine iff_of_false hok ?_
      rintro ⟨hvalid, hall⟩
      rw [happend] at hall
      exact hok (hstep.mpr ⟨hvalid eventId List.mem_cons_self,
        (Contiguous.concat_iff.mp hall.of_append).2⟩)

end SpanScan

/-- The calls on an active route table after `ev_active_route_table_init`. -/
inductive ActiveRouteCall where
  | add (entry : ActiveRoute)
  | finalizeSpans

namespace ActiveRouteTable

def call (table : ActiveRouteTable) : ActiveRouteCall → ActiveRouteTable
  | .add entry => (table.add entry).2
  | .finalizeSpans => table.finalizeSpans.2

def events (table : ActiveRouteTable) : List EventId :=
  table.entries.map fun entry => entry.route.eventId

/-- The three counters are those of the entries, one state each. -/
structure Partitioned (table : ActiveRouteTable) : Prop where
  active : table.activeCount = table.entries.countP fun entry => entry.state = .enabled
  optionalDisabled : table.optionalDisabledCount =
    table.entries.countP fun entry => entry.state = .optionalDisabled
  rejected : table.rejectedCount = table.entries.countP fun entry => entry.state.isRejected
  total : table.Counted

/-- What `ev_active_route_table_finalize_spans` and the lookups promise of a table. -/
structure SpanContract (table : ActiveRouteTable) : Prop where
  finalize_ok : table.finalizeSpans.1 = .ok ↔
    (∀ eventId ∈ table.events, eventId.isValid = true) ∧ Contiguous table.events
  exact : table.finalizeSpans.1 = .ok → SpansExact table.finalizeSpans.2.spanForEvent table.events
  failed : table.finalizeSpans.1 ≠ .ok → ∀ eventId, table.finalizeSpans.2.spanForEvent eventId = {}
  added : ∀ (entry : ActiveRoute) (more : List ActiveRoute), (table.add entry).1 = .ok →
    ∀ eventId, (Machine.run call (table.add entry).2
      (more.map ActiveRouteCall.add)).spanForEvent eventId = {}
  refused : ∀ entry, (table.add entry).1 ≠ .ok → (table.add entry).2 = table
  idempotent : table.finalizeSpans.2.finalizeSpans = table.finalizeSpans
  partitioned : table.Partitioned

theorem spanForEvent_unfinalized {table : ActiveRouteTable} (h : table.spansFinalized = false)
    (eventId : EventId) : table.spanForEvent eventId = {} := by
  simp [spanForEvent, h]

theorem run_add_unfinalized (more : List ActiveRoute) : ∀ {table : ActiveRouteTable},
    table.spansFinalized = false →
      (Machine.run call table (more.map ActiveRouteCall.add)).spansFinalized = false := by
  induction more with
  | nil => exact fun h => h
  | cons entry more ih =>
    intro table h
    apply ih
    change (table.add entry).2.spansFinalized = false
    unfold add
    split
    · rfl
    · exact h

theorem finalizeSpans_ok_iff (table : ActiveRouteTable) : table.finalizeSpans.1 = .ok ↔
    (∀ eventId ∈ table.events, eventId.isValid = true) ∧ Contiguous table.events := by
  have hscan := SpanScan.visitAll_ok_iff table.events SpanScan.Scanned.start Contiguous.nil
  rwa [List.nil_append] at hscan

/-- A lookup after a successful scan reads the span it wrote, unless that one is empty. -/
theorem spanForEvent_exact {table : ActiveRouteTable} (h : table.finalizeSpans.1 = .ok) :
    SpansExact table.finalizeSpans.2.spanForEvent table.events := by
  obtain ⟨hentries, hflag, hexact⟩ := finalizeSpans_ok h
  have hvalid := ((finalizeSpans_ok_iff table).mp h).1
  have hlength : table.finalizeSpans.2.entries.length = table.events.length := by
    rw [hentries, events, List.length_map]
  intro eventId i
  have hspan := hexact eventId
  have hinside : ∀ j, (table.finalizeSpans.2.spans eventId).startIndex ≤ j →
      j < (table.finalizeSpans.2.spans eventId).startIndex +
        (table.finalizeSpans.2.spans eventId).count → j < table.events.length :=
    fun j hlow hhigh => (List.getElem?_eq_some_iff.mp ((hspan j).mpr ⟨hlow, hhigh⟩)).1
  unfold spanForEvent
  rw [hlength]
  generalize table.finalizeSpans.2.spans eventId = span at hspan hinside
  by_cases hevent : eventId.isValid = true
  · by_cases hfits : span.isValid table.events.length = true
    · simp only [hflag, hevent, hfits, Bool.not_true, Bool.or_self, Bool.false_eq_true, if_false]
      exact hspan i
    · simp only [hflag, hevent, hfits, Bool.not_true, Bool.or_self, Bool.not_false,
        Bool.false_eq_true, if_false, if_true]
      have hempty : span.count = 0 := by
        by_contra hpos
        have hfirst := hinside span.startIndex (by omega) (by omega)
        have hlast := hinside (span.startIndex + span.count - 1) (by omega) (by omega)
        apply hfits
        simp only [RouteSpan.isValid, Bool.and_eq_true, decide_eq_true_eq]
        omega
      have hold := hspan i
      change table.events[i]? = some eventId ↔ 0 ≤ i ∧ i < 0 + 0
      exact hold.trans (by omega)
  · simp only [hflag, hevent, Bool.not_true, Bool.not_false, Bool.or_true, if_true]
    refine iff_of_false (fun hget => hevent (hvalid eventId (List.mem_of_getElem? hget))) ?_
    omega

theorem Partitioned.add {table : ActiveRouteTable} (h : table.Partitioned) (entry : ActiveRoute) :
    (table.add entry).2.Partitioned := by
  obtain ⟨hactive, hoptional, hrejected, htotal⟩ := h
  have htotal' := htotal.add entry
  unfold ActiveRouteTable.add at htotal' ⊢
  split
  · rename_i hroom
    simp only [hroom, dif_pos] at htotal'
    refine ⟨?_, ?_, ?_, htotal'⟩
    all_goals simp only [List.countP_append, List.countP_singleton, ← hactive, ← hoptional, ← hrejected]
    all_goals cases entry.state <;> simp [ActiveRouteState.isRejected]
  · exact ⟨hactive, hoptional, hrejected, htotal⟩

theorem run_partitioned (calls : List ActiveRouteCall) : ∀ {table : ActiveRouteTable},
    table.Partitioned → (Machine.run call table calls).Partitioned := by
  induction calls with
  | nil => exact fun h => h
  | cons input calls ih =>
    intro table h
    apply ih
    cases input with
    | add entry => exact h.add entry
    | finalizeSpans => exact ⟨h.active, h.optionalDisabled, h.rejected, h.total⟩

/-- Whatever was added and finalized before, the table keeps its contract. A lookup is empty
once an entry was added; an add that a full table refuses adds none. -/
theorem run_spanContract (calls : List ActiveRouteCall) :
    SpanContract (Machine.run call .empty calls) := by
  have hpartitioned : (Machine.run call .empty calls).Partitioned :=
    run_partitioned calls ⟨rfl, rfl, rfl, rfl⟩
  generalize Machine.run call .empty calls = table at hpartitioned
  refine ⟨finalizeSpans_ok_iff table, spanForEvent_exact, ?_, ?_, ?_, rfl, hpartitioned⟩
  · intro hfail
    apply spanForEvent_unfinalized
    exact beq_eq_false_iff_ne.mpr hfail
  · intro entry more hadd eventId
    apply spanForEvent_unfinalized
    apply run_add_unfinalized
    unfold add at hadd ⊢
    split at hadd
    · rename_i hroom
      rw [dif_pos hroom]
    · cases hadd
  · intro entry hadd
    unfold add at hadd ⊢
    split at hadd
    · exact absurd rfl hadd
    · rename_i hfull
      rw [dif_neg hfull]

/-- On a full table that is finalized an add is refused and the lookups stay. -/
theorem not_run_add_empty : ¬ ∀ (calls : List ActiveRouteCall) (entry : ActiveRoute) (eventId : EventId),
    ((Machine.run call .empty calls).add entry).2.spanForEvent eventId = {} := by
  intro h
  have hspan := h (List.replicate 96 (.add (.enabled { eventId := .tick1s, targetActor := .app })) ++
    [.finalizeSpans]) (.enabled { eventId := .tick1s, targetActor := .app }) .tick1s
  revert hspan
  decide +kernel

end ActiveRouteTable

end EventFramework
