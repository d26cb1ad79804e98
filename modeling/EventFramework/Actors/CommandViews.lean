import EventFramework.Actors.CommandParser

/-!
# The views into the payload of a command

The parser as its loops run, over positions in the payload: a recorded value is a view of the bytes
where its segment stands. It accepts what `parsePayload` accepts, and its views show what that
records.
-/

namespace EventFramework
set_option autoImplicit false

structure ByteView where
  start : Nat
  length : Nat
  deriving DecidableEq, Repr

namespace ByteView

def bytes (view : ByteView) (payload : List UInt8) : List UInt8 :=
  (payload.drop view.start).take view.length

def Inside (view : ByteView) (payload : List UInt8) : Prop :=
  view.start + view.length ≤ payload.length

end ByteView

/-- `ev_command_kv_view_t`. -/
structure KvViews where
  key : ByteView
  value : ByteView
  deriving DecidableEq, Repr

/-- `ev_command_parse_state_t`, `none` for a null pointer. -/
structure CommandParseViews where
  token : Option ByteView := none
  mask : Option ByteView := none
  valid : Option ByteView := none
  text : Option ByteView := none
  arm : Option ByteView := none
  confirm : Option ByteView := none
  ms : Option ByteView := none
  deriving DecidableEq, Repr

namespace CommandParser

/-- The scanning loop from an index: up to the first byte that fails `p`, or to the end. -/
def scan (p : UInt8 → Bool) (payload : List UInt8) (index : Nat) : Nat :=
  if h : index < payload.length then
    if p payload[index] then scan p payload (index + 1) else index
  else index
termination_by payload.length - index

/-- `ev_command_parse_next_kv`: the segment at the cursor and the next cursor. -/
def parseNextKvAt (payload : List UInt8) (cursor : Nat) : Option (KvViews × Nat) :=
  if payload.length ≤ cursor then none
  else
    let eq := scan inKey payload cursor
    if eq = cursor ∨ payload.length ≤ eq ∨ payload[eq]? ≠ some asciiEquals then none
    else
      let stop := scan inValue payload (eq + 1)
      some (⟨⟨cursor, eq - cursor⟩, ⟨eq + 1, stop - (eq + 1)⟩⟩,
        if stop < payload.length then stop + 1 else stop)

/-- `ev_command_record_kv`. -/
def recordKvViews (payload : List UInt8) (state : CommandParseViews) (kv : KvViews) :
    CommandParseViews :=
  let key := kv.key.bytes payload
  if key = CommandKey.token.bytes then { state with token := some kv.value }
  else if key = CommandKey.mask.bytes then { state with mask := some kv.value }
  else if key = CommandKey.valid.bytes then { state with valid := some kv.value }
  else if key = CommandKey.text.bytes then { state with text := some kv.value }
  else if key = CommandKey.arm.bytes then { state with arm := some kv.value }
  else if key = CommandKey.confirm.bytes then { state with confirm := some kv.value }
  else if key = CommandKey.ms.bytes then { state with ms := some kv.value }
  else state

theorem le_scan (p : UInt8 → Bool) (payload : List UInt8) (index : Nat) :
    index ≤ scan p payload index := by
  fun_induction scan p payload index with
  | case1 index _ _ ih => exact Nat.le_of_succ_le ih
  | case2 | case3 => exact Nat.le_refl _

theorem lt_parseNextKvAt {payload : List UInt8} {cursor next : Nat} {kv : KvViews}
    (h : parseNextKvAt payload cursor = some (kv, next)) : cursor < next := by
  unfold parseNextKvAt at h
  split at h
  · cases h
  · simp only at h
    split at h
    · cases h
    · have hnext := (Prod.mk.inj (Option.some.inj h)).2
      have hkey := le_scan inKey payload cursor
      have hvalue := le_scan inValue payload (scan inKey payload cursor + 1)
      split at hnext <;> omega

/-- The loop of `ev_command_parse_payload`. -/
def parseViewsFrom (payload : List UInt8) (cursor : Nat) (state : CommandParseViews) :
    Option CommandParseViews :=
  if cursor < payload.length then
    match hnext : parseNextKvAt payload cursor with
    | none => none
    | some (kv, next) =>
      have : cursor < next := lt_parseNextKvAt hnext
      parseViewsFrom payload next (recordKvViews payload state kv)
  else some state
termination_by payload.length - cursor

/-- `ev_command_parse_payload`. -/
def parsePayloadViews (payload : List UInt8) : Option CommandParseViews :=
  if payload.length = 0 ∨ commandPayloadMaxBytes < payload.length ∨ !asciiPrintable payload then none
  else parseViewsFrom payload 0 {}

def viewOf (state : CommandParseViews) : CommandKey → Option ByteView
  | .token => state.token
  | .mask => state.mask
  | .valid => state.valid
  | .text => state.text
  | .arm => state.arm
  | .confirm => state.confirm
  | .ms => state.ms

theorem scan_eq (p : UInt8 → Bool) (payload : List UInt8) (index : Nat) :
    scan p payload index = index + ((payload.drop index).takeWhile p).length ∧
      payload.drop (scan p payload index) = (payload.drop index).dropWhile p := by
  fun_induction scan p payload index with
  | case1 index h hp ih =>
    rw [List.drop_eq_getElem_cons h, List.takeWhile_cons_of_pos hp, List.dropWhile_cons_of_pos hp,
      List.length_cons]
    exact ⟨by omega, ih.2⟩
  | case2 index h hp =>
    rw [List.drop_eq_getElem_cons h, List.takeWhile_cons_of_neg hp, List.dropWhile_cons_of_neg hp]
    exact ⟨rfl, rfl⟩
  | case3 index h =>
    rw [List.drop_eq_nil_of_le (Nat.le_of_not_lt h)]
    exact ⟨rfl, rfl⟩

/-- The segment at the cursor is the first of the bytes from there on, at its place. -/
theorem parseNextKvAt_eq (payload : List UInt8) (cursor : Nat) :
    parseNextKvAt payload cursor = (parseNextKv (payload.drop cursor)).map fun out =>
      (⟨⟨cursor, out.1.key.length⟩, ⟨cursor + out.1.key.length + 1, out.1.value.length⟩⟩,
        payload.length - out.2.length) := by
  unfold parseNextKvAt parseNextKv
  obtain ⟨heq, hrest⟩ := scan_eq inKey payload cursor
  by_cases hend : payload.length ≤ cursor
  · rw [if_pos hend, List.drop_eq_nil_of_le hend]
    rfl
  rw [if_neg hend]
  simp only
  have hempty : scan inKey payload cursor = cursor ↔ (payload.drop cursor).takeWhile inKey = [] := by
    rw [heq, ← List.length_eq_zero_iff]
    omega
  cases hdrop : (payload.drop cursor).dropWhile inKey with
  | nil =>
    rw [hdrop, List.drop_eq_nil_iff] at hrest
    rw [if_pos (Or.inr (Or.inl hrest))]
    rfl
  | cons ch tail =>
    rw [hdrop] at hrest
    have hlt : scan inKey payload cursor < payload.length := by
      by_contra hge
      rw [List.drop_eq_nil_of_le (Nat.le_of_not_lt hge)] at hrest
      cases hrest
    have hhead := List.drop_eq_getElem_cons hlt
    rw [hrest] at hhead
    obtain ⟨hch, htail⟩ := List.cons.inj hhead
    have hget : payload[scan inKey payload cursor]? = some ch := by
      rw [List.getElem?_eq_getElem hlt, hch]
    simp only [hempty, hget, Nat.not_le.mpr hlt, false_or, ne_eq, Option.some.injEq]
    by_cases hbad : (payload.drop cursor).takeWhile inKey = [] ∨ ¬ch = asciiEquals
    · rw [if_pos hbad, if_pos hbad]
      rfl
    · rw [if_neg hbad, if_neg hbad]
      obtain ⟨hstop, hlater⟩ := scan_eq inValue payload (scan inKey payload cursor + 1)
      have hkeys : scan inKey payload cursor - cursor =
          ((payload.drop cursor).takeWhile inKey).length := by
        rw [heq, Nat.add_sub_cancel_left]
      have hvalues : scan inValue payload (scan inKey payload cursor + 1) -
          (scan inKey payload cursor + 1) = (tail.takeWhile inValue).length := by
        rw [hstop, ← htail, Nat.add_sub_cancel_left]
      have hnext : (if scan inValue payload (scan inKey payload cursor + 1) < payload.length then
          scan inValue payload (scan inKey payload cursor + 1) + 1
          else scan inValue payload (scan inKey payload cursor + 1)) =
          payload.length - ((tail.dropWhile inValue).drop 1).length := by
        have hle : scan inValue payload (scan inKey payload cursor + 1) ≤ payload.length := by
          have hprefix := (List.takeWhile_prefix (l := payload.drop (scan inKey payload cursor + 1))
            inValue).length_le
          rw [List.length_drop] at hprefix
          omega
        rw [List.length_drop, htail, ← hlater, List.length_drop]
        split <;> omega
      rw [hkeys, hvalues, hnext]
      simp only [Option.map_some, heq]

/-- The positions of segments that stand after one another from `start` on. -/
def placed : Nat → List CommandKvView → List KvViews
  | _, [] => []
  | start, kv :: later =>
    ⟨⟨start, kv.key.length⟩, ⟨start + kv.key.length + 1, kv.value.length⟩⟩ ::
      placed (start + kv.key.length + kv.value.length + 2) later

theorem drop_segment {payload rest : List UInt8} {kv : CommandKvView} {cursor : Nat}
    (h : payload.drop cursor = kv.key ++ asciiEquals :: (kv.value ++ asciiSemicolon :: rest)) :
    payload.drop (cursor + kv.key.length + kv.value.length + 2) = rest := by
  have hlength : cursor + kv.key.length + kv.value.length + 2 =
      cursor + (kv.key ++ asciiEquals :: (kv.value ++ [asciiSemicolon])).length := by
    simp only [List.length_append, List.length_cons, List.length_nil]
    omega
  have hsplit : payload.drop cursor =
      (kv.key ++ asciiEquals :: (kv.value ++ [asciiSemicolon])) ++ rest := by
    rw [h]
    simp
  rw [hlength, ← List.drop_drop, hsplit, List.drop_left]

/-- A segment at the cursor is recorded with its place, and the loop goes on behind it. -/
theorem parseViewsFrom_next {payload later : List UInt8} {kv : CommandKvView} {cursor : Nat}
    (state : CommandParseViews) (hne : payload.drop cursor ≠ [])
    (hnext : parseNextKv (payload.drop cursor) = some (kv, later)) :
    parseViewsFrom payload cursor state = parseViewsFrom payload (payload.length - later.length)
      (recordKvViews payload state
        ⟨⟨cursor, kv.key.length⟩, ⟨cursor + kv.key.length + 1, kv.value.length⟩⟩) := by
  have hlt : cursor < payload.length := by
    by_contra hge
    exact hne (List.drop_eq_nil_of_le (Nat.le_of_not_lt hge))
  have hat := parseNextKvAt_eq payload cursor
  rw [hnext] at hat
  rw [parseViewsFrom, if_pos hlt]
  split
  · rename_i hnone
    rw [hnone] at hat
    cases hat
  · rename_i found next hsome
    rw [hsome] at hat
    obtain ⟨rfl, rfl⟩ := Prod.mk.inj (Option.some.inj hat)
    rfl

theorem parseViewsFrom_done {payload : List UInt8} {cursor : Nat} (state : CommandParseViews)
    (h : payload.length ≤ cursor) : parseViewsFrom payload cursor state = some state := by
  rw [parseViewsFrom, if_neg (Nat.not_lt.mpr h)]

/-- The loop records the segments of the bytes from the cursor on. -/
theorem parseViewsFrom_segmented {payload rest : List UInt8} {segments : List CommandKvView}
    (h : Segmented rest segments) : ∀ (cursor : Nat) (state : CommandParseViews),
      payload.drop cursor = rest → parseViewsFrom payload cursor state =
        some ((placed cursor segments).foldl (recordKvViews payload) state) := by
  induction h with
  | nil =>
    intro cursor state hrest
    exact parseViewsFrom_done state (List.drop_eq_nil_iff.mp hrest)
  | last hkey hvalue =>
    intro cursor state hrest
    rw [parseViewsFrom_next state (by simp [hrest]) (hrest ▸ (parseNextKv_complete hkey hvalue).1)]
    exact parseViewsFrom_done _ (Nat.le_refl _)
  | @cons kv rest later hkey hvalue _ ih =>
    intro cursor state hrest
    rw [parseViewsFrom_next state (by simp [hrest])
      (hrest ▸ (parseNextKv_complete hkey hvalue).2 rest)]
    have hlength := congrArg List.length hrest
    simp only [List.length_drop, List.length_append, List.length_cons] at hlength
    have hnext : payload.length - rest.length = cursor + kv.key.length + kv.value.length + 2 := by
      omega
    rw [hnext]
    exact ih _ _ (drop_segment hrest)

/-- A payload that the loop gets through consists of segments. -/
theorem segmented_of_parseViewsFrom {payload : List UInt8} {cursor : Nat}
    {state views : CommandParseViews} (h : parseViewsFrom payload cursor state = some views) :
    ∃ segments, Segmented (payload.drop cursor) segments := by
  fun_induction parseViewsFrom payload cursor state with
  | case1 => cases h
  | case2 cursor state hlt kv next hnext _ ih =>
    obtain ⟨segments, hsegments⟩ := ih h
    rw [parseNextKvAt_eq] at hnext
    obtain ⟨⟨found, later⟩, hfound, hplace⟩ := Option.map_eq_some_iff.mp hnext
    have hnext' : payload.length - later.length = next := (Prod.mk.inj hplace).2
    obtain ⟨hkey, hvalue, ⟨hrest, -⟩ | hrest⟩ := parseNextKv_sound hfound
    · exact ⟨[found], hrest ▸ .last hkey hvalue⟩
    · have hlength := congrArg List.length hrest
      simp only [List.length_drop, List.length_append, List.length_cons] at hlength
      have hbehind : next = cursor + found.key.length + found.value.length + 2 := by
        rw [← hnext']
        omega
      rw [hbehind, drop_segment hrest] at hsegments
      exact ⟨found :: segments, hrest ▸ .cons hkey hvalue hsegments⟩
  | case3 cursor state hge =>
    rw [List.drop_eq_nil_of_le (Nat.le_of_not_lt hge)]
    exact ⟨[], .nil⟩

theorem view_bytes {payload front later shown : List UInt8} {cursor : Nat}
    (h : payload.drop cursor = front ++ (shown ++ later)) :
    (⟨cursor + front.length, shown.length⟩ : ByteView).bytes payload = shown := by
  rw [ByteView.bytes, ← List.drop_drop, h, List.drop_left, List.take_left]

theorem view_inside {payload front later shown : List UInt8} {cursor : Nat}
    (h : payload.drop cursor = front ++ (shown ++ later)) (hcursor : cursor ≤ payload.length) :
    (⟨cursor + front.length, shown.length⟩ : ByteView).Inside payload := by
  have hlength := congrArg List.length h
  simp only [List.length_drop, List.length_append] at hlength
  change cursor + front.length + shown.length ≤ payload.length
  omega

/-- The key and the value of a segment are shown by the views at its place. -/
structure Placed (payload : List UInt8) (kv : CommandKvView) (views : KvViews) : Prop where
  key : views.key.bytes payload = kv.key
  value : views.value.bytes payload = kv.value
  inside : views.value.Inside payload

theorem placed_at {payload later : List UInt8} {kv : CommandKvView} {cursor : Nat}
    (h : payload.drop cursor = kv.key ++ asciiEquals :: (kv.value ++ later)) :
    Placed payload kv ⟨⟨cursor, kv.key.length⟩, ⟨cursor + kv.key.length + 1, kv.value.length⟩⟩ := by
  have hcursor : cursor ≤ payload.length := by
    by_contra hge
    rw [List.drop_eq_nil_of_le (by omega)] at h
    exact List.append_ne_nil_of_right_ne_nil _ (List.cons_ne_nil _ _) h.symm
  have hvalue : payload.drop cursor = (kv.key ++ [asciiEquals]) ++ (kv.value ++ later) := by
    rw [h]
    simp
  have hlength : cursor + kv.key.length + 1 = cursor + (kv.key ++ [asciiEquals]).length := by
    rw [List.length_append]
    rfl
  constructor
  · have hkey : payload.drop cursor = [] ++ (kv.key ++ asciiEquals :: (kv.value ++ later)) := h
    exact view_bytes hkey
  · simp only [hlength]
    exact view_bytes hvalue
  · simp only [hlength]
    exact view_inside hvalue hcursor

theorem placed_shown {payload rest : List UInt8} {segments : List CommandKvView}
    (h : Segmented rest segments) : ∀ cursor : Nat, payload.drop cursor = rest →
      List.Forall₂ (Placed payload) segments (placed cursor segments) := by
  induction h with
  | nil => exact fun _ _ => .nil
  | @last kv hkey hvalue =>
    intro cursor hrest
    have hat : payload.drop cursor = kv.key ++ asciiEquals :: (kv.value ++ []) := by
      rw [hrest, List.append_nil]
    exact .cons (placed_at hat) .nil
  | cons hkey hvalue _ ih =>
    intro cursor hrest
    exact .cons (placed_at hrest) (ih _ (drop_segment hrest))

def segmentsLength (segments : List CommandKvView) : Nat :=
  (segments.map fun kv => kv.key.length + kv.value.length + 2).sum

/-- The place of the value of a segment: behind the segments before it, its key and the `=`. -/
def valueView (before : List CommandKvView) (kv : CommandKvView) : ByteView :=
  ⟨segmentsLength before + kv.key.length + 1, kv.value.length⟩

theorem placed_append (before later : List CommandKvView) : ∀ start : Nat,
    placed start (before ++ later) =
      placed start before ++ placed (start + segmentsLength before) later := by
  induction before with
  | nil => exact fun _ => rfl
  | cons kv before ih =>
    intro start
    rw [List.cons_append, placed, placed, ih, segmentsLength, segmentsLength, List.map_cons,
      List.sum_cons, List.cons_append]
    congr 3
    omega

theorem placed_length (segments : List CommandKvView) : ∀ start : Nat,
    (placed start segments).length = segments.length := by
  induction segments with
  | nil => exact fun _ => rfl
  | cons kv later ih => exact fun start => congrArg Nat.succ (ih _)

theorem viewOf_recordKvViews (payload : List UInt8) (state : CommandParseViews) (kv : KvViews)
    (key : CommandKey) : viewOf (recordKvViews payload state kv) key =
      if kv.key.bytes payload = key.bytes then some kv.value else viewOf state key := by
  unfold recordKvViews
  simp only
  by_cases hknown : ∃ key : CommandKey, kv.key.bytes payload = key.bytes
  · obtain ⟨known, hkey⟩ := hknown
    rw [hkey]
    cases known <;> cases key <;> rfl
  · have hunknown (key : CommandKey) : kv.key.bytes payload ≠ key.bytes := fun h => hknown ⟨key, h⟩
    simp only [hunknown, if_false]

theorem viewOf_foldl_unknown {payload : List UInt8} {segments : List CommandKvView}
    {views : List KvViews} (h : List.Forall₂ (Placed payload) segments views) {key : CommandKey}
    (hunknown : ∀ kv ∈ segments, kv.key ≠ key.bytes) : ∀ state : CommandParseViews,
      viewOf (views.foldl (recordKvViews payload) state) key = viewOf state key := by
  induction h with
  | nil => exact fun _ => rfl
  | cons hplaced _ ih =>
    intro state
    obtain ⟨hkv, hlater⟩ := List.forall_mem_cons.mp hunknown
    rw [List.foldl_cons, ih hlater, viewOf_recordKvViews, hplaced.key, if_neg hkv]

def segmentBytes (kv : CommandKvView) : List UInt8 := kv.key ++ asciiEquals :: kv.value

/-- Segments with `;` between them, and at most one more `;` at the end. -/
def Separated (payload : List UInt8) (segments : List CommandKvView) : Prop :=
  ∃ extra, (extra = [] ∨ extra = [asciiSemicolon]) ∧
    payload = List.intercalate [asciiSemicolon] (segments.map segmentBytes) ++ extra

/-- The segments that a payload is made of, and the bytes it may hold. -/
structure Grammar (payload : List UInt8) (segments : List CommandKvView) : Prop where
  length : 1 ≤ payload.length ∧ payload.length ≤ commandPayloadMaxBytes
  printable : ∀ ch ∈ payload, 0x20 ≤ ch ∧ ch ≤ 0x7E
  some_segment : segments ≠ []
  keys : ∀ kv ∈ segments, IsKey kv.key
  values : ∀ kv ∈ segments, asciiSemicolon ∉ kv.value
  separated : Separated payload segments

/-- What a known key is recorded with: nothing if no segment has it, or the view of the value of
the last segment that has it. -/
structure ShowsLast (payload : List UInt8) (segments : List CommandKvView) (key : CommandKey)
    (view : Option ByteView) : Prop where
  absent : view = none ↔ ∀ kv ∈ segments, kv.key ≠ key.bytes
  last : ∀ before kv later, segments = before ++ kv :: later → kv.key = key.bytes →
    (∀ other ∈ later, other.key ≠ key.bytes) → view = some (valueView before kv)
  value : ∀ before kv later, segments = before ++ kv :: later →
    (valueView before kv).bytes payload = kv.value ∧ (valueView before kv).Inside payload

theorem Separated.single {kv : CommandKvView} : Separated (segmentBytes kv) [kv] :=
  ⟨[], .inl rfl, by rw [List.map_singleton, List.intercalate_singleton, List.append_nil]⟩

theorem Separated.terminated {kv : CommandKvView} :
    Separated (segmentBytes kv ++ [asciiSemicolon]) [kv] :=
  ⟨[asciiSemicolon], .inr rfl, by rw [List.map_singleton, List.intercalate_singleton]⟩

theorem separated_cons {payload : List UInt8} {kv other : CommandKvView}
    {later : List CommandKvView} : Separated payload (kv :: other :: later) ↔
      ∃ rest, Separated rest (other :: later) ∧
        payload = segmentBytes kv ++ asciiSemicolon :: rest := by
  have hjoin (extra : List UInt8) : List.intercalate [asciiSemicolon]
      ((kv :: other :: later).map segmentBytes) ++ extra = segmentBytes kv ++ asciiSemicolon ::
        (List.intercalate [asciiSemicolon] ((other :: later).map segmentBytes) ++ extra) := by
    simp [List.intercalate_cons_cons]
  constructor
  · rintro ⟨extra, hextra, hpayload⟩
    exact ⟨_, ⟨extra, hextra, rfl⟩, hpayload.trans (hjoin extra)⟩
  · rintro ⟨rest, ⟨extra, hextra, rfl⟩, hpayload⟩
    exact ⟨extra, hextra, hpayload.trans (hjoin extra).symm⟩

/-- The form that the loop takes in is the grammar's. -/
theorem segmented_of_separated {segments : List CommandKvView} : ∀ {payload : List UInt8},
    segments ≠ [] → (∀ kv ∈ segments, IsKey kv.key) → (∀ kv ∈ segments, asciiSemicolon ∉ kv.value) →
      Separated payload segments → Segmented payload segments := by
  induction segments with
  | nil => exact fun hsome => absurd rfl hsome
  | cons kv later ih =>
    intro payload _ hkeys hvalues hseparated
    obtain ⟨hkey, hkeys⟩ := List.forall_mem_cons.mp hkeys
    obtain ⟨hvalue, hvalues⟩ := List.forall_mem_cons.mp hvalues
    cases later with
    | nil =>
      obtain ⟨extra, hextra, hpayload⟩ := hseparated
      rw [List.map_singleton, List.intercalate_singleton] at hpayload
      rcases hextra with rfl | rfl
      · rw [hpayload, List.append_nil]
        exact .last hkey hvalue
      · have hcons := Segmented.cons hkey hvalue .nil
        rw [hpayload, segmentBytes, List.append_assoc, List.cons_append]
        exact hcons
    | cons other later =>
      obtain ⟨rest, hrest, hpayload⟩ := separated_cons.mp hseparated
      have hcons := Segmented.cons hkey hvalue (ih (List.cons_ne_nil _ _) hkeys hvalues hrest)
      rw [hpayload, segmentBytes, List.append_assoc, List.cons_append]
      exact hcons

theorem separated_of_segmented {payload : List UInt8} {segments : List CommandKvView}
    (h : Segmented payload segments) : (∀ kv ∈ segments, IsKey kv.key) ∧
      (∀ kv ∈ segments, asciiSemicolon ∉ kv.value) ∧
        (segments ≠ [] → Separated payload segments) := by
  induction h with
  | nil => exact ⟨by simp, by simp, fun hsome => absurd rfl hsome⟩
  | last hkey hvalue =>
    refine ⟨?_, ?_, fun _ => Separated.single⟩
    · exact List.forall_mem_cons.mpr ⟨hkey, by simp⟩
    · exact List.forall_mem_cons.mpr ⟨hvalue, by simp⟩
  | @cons kv rest later hkey hvalue hlater ih =>
    obtain ⟨hkeys, hvalues, hrest⟩ := ih
    refine ⟨List.forall_mem_cons.mpr ⟨hkey, hkeys⟩, List.forall_mem_cons.mpr ⟨hvalue, hvalues⟩, ?_⟩
    intro _
    have hbytes : kv.key ++ asciiEquals :: (kv.value ++ asciiSemicolon :: rest) =
        segmentBytes kv ++ asciiSemicolon :: rest := by
      rw [segmentBytes, List.append_assoc, List.cons_append]
    rw [hbytes]
    cases hlater with
    | nil => exact Separated.terminated
    | last _ _ => exact separated_cons.mpr ⟨_, hrest (List.cons_ne_nil _ _), rfl⟩
    | cons _ _ _ => exact separated_cons.mpr ⟨_, hrest (List.cons_ne_nil _ _), rfl⟩

theorem grammar_iff {payload : List UInt8} {segments : List CommandKvView} :
    Grammar payload segments ↔ WellFormed payload segments := by
  constructor
  · intro h
    exact ⟨List.length_pos_iff.mp h.length.1, h.length.2, h.printable,
      segmented_of_separated h.some_segment h.keys h.values h.separated⟩
  · intro h
    obtain ⟨hkeys, hvalues, hseparated⟩ := separated_of_segmented h.segmented
    have hsome : segments ≠ [] := by
      rintro rfl
      cases h.segmented
      exact h.nonempty rfl
    exact ⟨⟨List.length_pos_iff.mpr h.nonempty, h.fits⟩, h.printable, hsome, hkeys, hvalues,
      hseparated hsome⟩

theorem Grammar.segmented {payload : List UInt8} {segments : List CommandKvView}
    (h : Grammar payload segments) : Segmented payload segments :=
  (grammar_iff.mp h).segmented

theorem asciiPrintable_iff {payload : List UInt8} :
    asciiPrintable payload = true ↔ ∀ ch ∈ payload, 0x20 ≤ ch ∧ ch ≤ 0x7E := by
  simp [asciiPrintable]

theorem Grammar.parsed {payload : List UInt8} {segments : List CommandKvView}
    (h : Grammar payload segments) : parsePayloadViews payload =
      some ((placed 0 segments).foldl (recordKvViews payload) {}) := by
  have hguard : ¬(payload.length = 0 ∨ commandPayloadMaxBytes < payload.length ∨
      !asciiPrintable payload) := by
    obtain ⟨hnonempty, hfits⟩ := h.length
    rintro (hzero | hlong | hprintable)
    · omega
    · omega
    · rw [asciiPrintable_iff.mpr h.printable] at hprintable
      cases hprintable
  rw [parsePayloadViews, if_neg hguard]
  exact parseViewsFrom_segmented h.segmented 0 {} List.drop_zero

theorem grammar_of_parsed {payload : List UInt8} {views : CommandParseViews}
    (h : parsePayloadViews payload = some views) : ∃ segments, Grammar payload segments := by
  unfold parsePayloadViews at h
  split at h
  · cases h
  · rename_i hguard
    simp only [not_or, Bool.not_eq_true, Bool.not_eq_false', Nat.not_lt] at hguard
    obtain ⟨hnonempty, hfits, hprintable⟩ := hguard
    obtain ⟨segments, hsegments⟩ := segmented_of_parseViewsFrom h
    rw [List.drop_zero] at hsegments
    have hbytes : payload ≠ [] := fun hnil => hnonempty (congrArg List.length hnil)
    exact ⟨segments, grammar_iff.mpr
      ⟨hbytes, hfits, asciiPrintable_iff.mp hprintable, hsegments⟩⟩

theorem exists_last {segments : List CommandKvView} {key : List UInt8}
    (h : ¬∀ kv ∈ segments, kv.key ≠ key) : ∃ before kv later, segments = before ++ kv :: later ∧
      kv.key = key ∧ ∀ other ∈ later, other.key ≠ key := by
  induction segments with
  | nil => exact absurd (by simp) h
  | cons kv segments ih =>
    by_cases hlater : ∀ other ∈ segments, other.key ≠ key
    · have hkey : kv.key = key := by
        by_contra hkey
        exact h (List.forall_mem_cons.mpr ⟨hkey, hlater⟩)
      exact ⟨[], kv, segments, rfl, hkey, hlater⟩
    · obtain ⟨before, last, later, rfl, hlast⟩ := ih hlater
      exact ⟨kv :: before, last, later, rfl, hlast⟩

theorem Grammar.showsLast {payload : List UInt8} {segments : List CommandKvView}
    (h : Grammar payload segments) (key : CommandKey) : ShowsLast payload segments key
      (viewOf ((placed 0 segments).foldl (recordKvViews payload) {}) key) := by
  have hshown := placed_shown h.segmented 0 List.drop_zero
  have hempty : viewOf {} key = none := by cases key <;> rfl
  have hlast (before : List CommandKvView) (kv : CommandKvView) (later : List CommandKvView)
      (hsegments : segments = before ++ kv :: later) : Placed payload kv
        ⟨⟨segmentsLength before, kv.key.length⟩, valueView before kv⟩ ∧
      (kv.key = key.bytes → (∀ other ∈ later, other.key ≠ key.bytes) →
        viewOf ((placed 0 segments).foldl (recordKvViews payload) {}) key =
          some (valueView before kv)) := by
    subst hsegments
    rw [placed_append, Nat.zero_add, placed] at hshown ⊢
    have hbehind := List.forall₂_drop_append _ _ _ hshown
    rw [placed_length, List.drop_left] at hbehind
    obtain ⟨hplaced, hlater⟩ := List.forall₂_cons.mp hbehind
    refine ⟨hplaced, fun hkey hnot => ?_⟩
    rw [List.foldl_append, List.foldl_cons, viewOf_foldl_unknown hlater hnot,
      viewOf_recordKvViews, hplaced.key, if_pos hkey]
    rfl
  refine ⟨⟨?_, ?_⟩, ?_, ?_⟩
  · intro hnone
    by_contra hsome
    obtain ⟨before, kv, later, hsegments, hkey, hlater⟩ := exists_last hsome
    rw [(hlast before kv later hsegments).2 hkey hlater] at hnone
    cases hnone
  · intro hunknown
    rw [viewOf_foldl_unknown hshown hunknown, hempty]
  · intro before kv later hsegments hkey hlater
    exact (hlast before kv later hsegments).2 hkey hlater
  · intro before kv later hsegments
    have hplaced := (hlast before kv later hsegments).1
    exact ⟨hplaced.value, hplaced.inside⟩

theorem shown_foldl {payload : List UInt8} {segments : List CommandKvView} {views : List KvViews}
    (h : List.Forall₂ (Placed payload) segments views) :
    ∀ {shown : CommandParseViews} {state : CommandParseState},
      (∀ key, (viewOf shown key).map (fun view => view.bytes payload) = valueOf state key) →
      ∀ key, (viewOf (views.foldl (recordKvViews payload) shown) key).map
        (fun view => view.bytes payload) = valueOf (segments.foldl recordKv state) key := by
  induction h with
  | nil => exact fun hshown => hshown
  | cons hplaced _ ih =>
    intro shown state hshown
    apply ih
    intro key
    rw [viewOf_recordKvViews, valueOf_recordKv, hplaced.key]
    split
    · exact congrArg some hplaced.value
    · exact hshown key

/-- The views show the values that `parsePayload` records, and both reject the same payloads. -/
theorem parsePayloadViews_shown (payload : List UInt8) :
    (parsePayloadViews payload).isSome = (parsePayload payload).isSome ∧
      ∀ views state, parsePayloadViews payload = some views → parsePayload payload = some state →
        ∀ key, (viewOf views key).map (fun view => view.bytes payload) = valueOf state key := by
  have hparsed {segments : List CommandKvView} (h : Grammar payload segments) :
      parsePayload payload = some (segments.foldl recordKv {}) :=
    parsePayload_iff.mpr ⟨segments, grammar_iff.mp h, rfl⟩
  constructor
  · rw [Bool.eq_iff_iff, Option.isSome_iff_exists, Option.isSome_iff_exists]
    constructor
    · rintro ⟨views, hviews⟩
      obtain ⟨segments, hgrammar⟩ := grammar_of_parsed hviews
      exact ⟨_, hparsed hgrammar⟩
    · rintro ⟨state, hstate⟩
      obtain ⟨segments, hwell, -⟩ := parsePayload_iff.mp hstate
      exact ⟨_, (grammar_iff.mpr hwell).parsed⟩
  · intro views state hviews hstate key
    obtain ⟨segments, hgrammar⟩ := grammar_of_parsed hviews
    rw [hgrammar.parsed] at hviews
    rw [hparsed hgrammar] at hstate
    rw [← Option.some.inj hviews, ← Option.some.inj hstate]
    refine shown_foldl (placed_shown hgrammar.segmented 0 List.drop_zero) ?_ key
    intro key
    cases key <;> rfl

/-- A payload is parsed if and only if it is of the grammar, and then each known key shows the value
of its last segment. -/
theorem parsePayloadViews_grammar (payload : List UInt8) :
    ((parsePayloadViews payload).isSome ↔ ∃ segments, Grammar payload segments) ∧
      ∀ views segments, parsePayloadViews payload = some views → Grammar payload segments →
        ∀ key, ShowsLast payload segments key (viewOf views key) := by
  constructor
  · rw [(parsePayloadViews_shown payload).1, Option.isSome_iff_exists]
    constructor
    · rintro ⟨state, hstate⟩
      obtain ⟨segments, hwell, -⟩ := parsePayload_iff.mp hstate
      exact ⟨segments, grammar_iff.mpr hwell⟩
    · rintro ⟨segments, hgrammar⟩
      exact ⟨_, parsePayload_iff.mpr ⟨segments, grammar_iff.mp hgrammar, rfl⟩⟩
  · intro views segments hviews hgrammar key
    rw [hgrammar.parsed] at hviews
    rw [← Option.some.inj hviews]
    exact hgrammar.showsLast key

end CommandParser

end EventFramework
