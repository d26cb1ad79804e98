import Mathlib.Data.UInt
import Mathlib.Data.List.TakeWhile

/-!
# The payload of a remote command

The parser of `ev_command_actor.c`: a payload is a sequence of `key=value` segments with `;`
between them. A value may be empty and may contain `=`; a key may come more than once, and the
last one counts. The parser accepts exactly the printable payloads of this form.
-/

namespace EventFramework
set_option autoImplicit false

def commandPayloadMaxBytes : Nat := 128

def commandU32MaxDecimalDigits : Nat := 10

def asciiBytes (text : List Char) : List UInt8 := text.map fun ch => UInt8.ofNat ch.toNat

def asciiEquals : UInt8 := 0x3D

def asciiSemicolon : UInt8 := 0x3B

structure CommandKvView where
  key : List UInt8
  value : List UInt8
  deriving DecidableEq, Repr

inductive CommandKey where
  | token
  | mask
  | valid
  | text
  | arm
  | confirm
  | ms
  deriving DecidableEq, Repr

def CommandKey.bytes : CommandKey → List UInt8
  | .token => asciiBytes ['t', 'o', 'k', 'e', 'n']
  | .mask => asciiBytes ['m', 'a', 's', 'k']
  | .valid => asciiBytes ['v', 'a', 'l', 'i', 'd']
  | .text => asciiBytes ['t', 'e', 'x', 't']
  | .arm => asciiBytes ['a', 'r', 'm']
  | .confirm => asciiBytes ['c', 'o', 'n', 'f', 'i', 'r', 'm']
  | .ms => asciiBytes ['m', 's']

/-- The values recorded so far, `none` for a null pointer. -/
structure CommandParseState where
  token : Option (List UInt8) := none
  mask : Option (List UInt8) := none
  valid : Option (List UInt8) := none
  text : Option (List UInt8) := none
  arm : Option (List UInt8) := none
  confirm : Option (List UInt8) := none
  ms : Option (List UInt8) := none
  deriving DecidableEq, Repr

namespace CommandParser

def asciiPrintable (data : List UInt8) : Bool := data.all fun ch => 0x20 ≤ ch && ch ≤ 0x7E

def decimalDigit (value : UInt32) (ch : UInt8) : Option UInt32 :=
  if ch < 0x30 ∨ 0x39 < ch then none
  else
    let digit := (ch - 0x30).toUInt32
    if (0xFFFFFFFF - digit) / 10 < value then none else some (value * 10 + digit)

def parseUint32Dec (data : List UInt8) : Option UInt32 :=
  if data.length = 0 ∨ commandU32MaxDecimalDigits < data.length then none
  else data.foldlM decimalDigit 0

def hexDigit (ch : UInt8) : Option UInt8 :=
  if 0x30 ≤ ch ∧ ch ≤ 0x39 then some (ch - 0x30)
  else if 0x61 ≤ ch ∧ ch ≤ 0x66 then some (10 + (ch - 0x61))
  else if 0x41 ≤ ch ∧ ch ≤ 0x46 then some (10 + (ch - 0x41))
  else none

def parseU8Hex (data : List UInt8) : Option UInt8 :=
  if data.length = 0 ∨ 2 < data.length then none
  else data.foldlM (fun value ch => (hexDigit ch).map fun nibble => (value <<< 4) ||| nibble) 0

def inKey (ch : UInt8) : Bool := ch != asciiEquals && ch != asciiSemicolon

def inValue (ch : UInt8) : Bool := ch != asciiSemicolon

/-- The segment at the cursor and the bytes from the next cursor on. -/
def parseNextKv (rest : List UInt8) : Option (CommandKvView × List UInt8) :=
  let key := rest.takeWhile inKey
  match rest.dropWhile inKey with
  | [] => none
  | ch :: tail =>
    if key = [] ∨ ch ≠ asciiEquals then none
    else
      let value := tail.takeWhile inValue
      some (⟨key, value⟩, (tail.dropWhile inValue).drop 1)

def recordKv (state : CommandParseState) (kv : CommandKvView) : CommandParseState :=
  if kv.key = CommandKey.token.bytes then { state with token := some kv.value }
  else if kv.key = CommandKey.mask.bytes then { state with mask := some kv.value }
  else if kv.key = CommandKey.valid.bytes then { state with valid := some kv.value }
  else if kv.key = CommandKey.text.bytes then { state with text := some kv.value }
  else if kv.key = CommandKey.arm.bytes then { state with arm := some kv.value }
  else if kv.key = CommandKey.confirm.bytes then { state with confirm := some kv.value }
  else if kv.key = CommandKey.ms.bytes then { state with ms := some kv.value }
  else state

/-- The loop over the segments. Every segment takes at least two bytes, so that the length of the
payload is enough fuel. -/
def parseSegments : Nat → CommandParseState → List UInt8 → Option CommandParseState
  | _, state, [] => some state
  | 0, _, _ :: _ => none
  | fuel + 1, state, ch :: rest =>
    match parseNextKv (ch :: rest) with
    | none => none
    | some (kv, later) => parseSegments fuel (recordKv state kv) later

def parsePayload (payload : List UInt8) : Option CommandParseState :=
  if payload.length = 0 ∨ commandPayloadMaxBytes < payload.length ∨ !asciiPrintable payload then none
  else parseSegments payload.length {} payload

/-- A key: not empty and without the two separators. -/
def IsKey (key : List UInt8) : Prop :=
  key ≠ [] ∧ asciiEquals ∉ key ∧ asciiSemicolon ∉ key

/-- The form of a payload. The last segment may go without its `;`. -/
inductive Segmented : List UInt8 → List CommandKvView → Prop where
  | nil : Segmented [] []
  | last {kv : CommandKvView} : IsKey kv.key → asciiSemicolon ∉ kv.value →
    Segmented (kv.key ++ asciiEquals :: kv.value) [kv]
  | cons {kv : CommandKvView} {rest : List UInt8} {later : List CommandKvView} : IsKey kv.key →
    asciiSemicolon ∉ kv.value → Segmented rest later →
    Segmented (kv.key ++ asciiEquals :: (kv.value ++ asciiSemicolon :: rest)) (kv :: later)

def lastValue (key : List UInt8) (segments : List CommandKvView) : Option (List UInt8) :=
  (segments.reverse.find? fun kv => kv.key = key).map CommandKvView.value

def valueOf (state : CommandParseState) : CommandKey → Option (List UInt8)
  | .token => state.token
  | .mask => state.mask
  | .valid => state.valid
  | .text => state.text
  | .arm => state.arm
  | .confirm => state.confirm
  | .ms => state.ms

theorem takeWhile_stop {p : UInt8 → Bool} {bytes before : List UInt8} {ch : UInt8}
    (later : List UInt8) (hbefore : ∀ b ∈ before, p b = true) (hch : p ch = false)
    (h : bytes = before ++ ch :: later) :
    bytes.takeWhile p = before ∧ bytes.dropWhile p = ch :: later := by
  subst h
  induction before with
  | nil =>
    rw [List.nil_append, List.takeWhile_cons_of_neg (Bool.eq_false_iff.mp hch),
      List.dropWhile_cons_of_neg (Bool.eq_false_iff.mp hch)]
    exact ⟨rfl, rfl⟩
  | cons b before ih =>
    have hb := hbefore b List.mem_cons_self
    obtain ⟨htake, hdrop⟩ := ih fun c hc => hbefore c (List.mem_cons_of_mem _ hc)
    rw [List.cons_append, List.takeWhile_cons_of_pos hb, List.dropWhile_cons_of_pos hb, htake, hdrop]
    exact ⟨rfl, rfl⟩

theorem takeWhile_all {p : UInt8 → Bool} {bytes : List UInt8} (h : ∀ b ∈ bytes, p b = true) :
    bytes.takeWhile p = bytes ∧ bytes.dropWhile p = [] :=
  ⟨List.takeWhile_eq_self_iff.mpr h, List.dropWhile_eq_nil_iff.mpr h⟩

theorem dropWhile_head {p : UInt8 → Bool} {bytes later : List UInt8} {ch : UInt8}
    (h : bytes.dropWhile p = ch :: later) : p ch = false := by
  induction bytes with
  | nil => cases h
  | cons b bytes ih =>
    by_cases hb : p b = true
    · rw [List.dropWhile_cons_of_pos hb] at h
      exact ih h
    · rw [List.dropWhile_cons_of_neg hb] at h
      rw [← (List.cons.inj h).1]
      exact Bool.eq_false_iff.mpr hb

theorem inKey_iff {ch : UInt8} : inKey ch = true ↔ ch ≠ asciiEquals ∧ ch ≠ asciiSemicolon := by
  rw [inKey, Bool.and_eq_true, bne_iff_ne, bne_iff_ne]

theorem inValue_iff {ch : UInt8} : inValue ch = true ↔ ch ≠ asciiSemicolon := bne_iff_ne

theorem parseNextKv_sound {rest later : List UInt8} {kv : CommandKvView}
    (h : parseNextKv rest = some (kv, later)) :
    IsKey kv.key ∧ asciiSemicolon ∉ kv.value ∧
      ((rest = kv.key ++ asciiEquals :: kv.value ∧ later = []) ∨
        rest = kv.key ++ asciiEquals :: (kv.value ++ asciiSemicolon :: later)) := by
  unfold parseNextKv at h
  simp only at h
  split at h
  · cases h
  · rename_i ch tail hdrop
    split at h
    · cases h
    · rename_i hkey
      obtain ⟨hnonempty, hequals⟩ := not_or.mp hkey
      rw [not_not.mp hequals] at hdrop
      obtain ⟨rfl, rfl⟩ := Prod.mk.inj (Option.some.inj h)
      have hrest : rest.takeWhile inKey ++ rest.dropWhile inKey = rest :=
        List.takeWhile_append_dropWhile
      have htail : tail.takeWhile inValue ++ tail.dropWhile inValue = tail :=
        List.takeWhile_append_dropWhile
      refine ⟨⟨hnonempty, ?_, ?_⟩, ?_, ?_⟩
      · intro hmem
        have hin : inKey asciiEquals = true := List.mem_takeWhile_imp hmem
        exact (inKey_iff.mp hin).1 rfl
      · intro hmem
        have hin : inKey asciiSemicolon = true := List.mem_takeWhile_imp hmem
        exact (inKey_iff.mp hin).2 rfl
      · intro hmem
        have hin : inValue asciiSemicolon = true := List.mem_takeWhile_imp hmem
        exact inValue_iff.mp hin rfl
      · rw [hdrop] at hrest
        cases hafter : tail.dropWhile inValue with
        | nil =>
          left
          rw [hafter, List.append_nil] at htail
          refine ⟨?_, rfl⟩
          rw [htail]
          exact hrest.symm
        | cons separator later =>
          right
          have hseparator : separator = asciiSemicolon := by
            have hstop := dropWhile_head hafter
            exact not_not.mp (mt inValue_iff.mpr (Bool.eq_false_iff.mp hstop))
          rw [hafter, hseparator] at htail
          rw [List.drop_one, List.tail_cons, htail]
          exact hrest.symm

theorem parseNextKv_complete {kv : CommandKvView} (hkey : IsKey kv.key)
    (hvalue : asciiSemicolon ∉ kv.value) :
    parseNextKv (kv.key ++ asciiEquals :: kv.value) = some (kv, []) ∧
      ∀ later, parseNextKv (kv.key ++ asciiEquals :: (kv.value ++ asciiSemicolon :: later)) =
        some (kv, later) := by
  obtain ⟨hnonempty, hequals, hsemicolon⟩ := hkey
  have hbefore : ∀ ch ∈ kv.key, inKey ch = true := by
    intro ch hmem
    apply inKey_iff.mpr
    exact ⟨fun h => hequals (h ▸ hmem), fun h => hsemicolon (h ▸ hmem)⟩
  have hinside : ∀ ch ∈ kv.value, inValue ch = true := by
    intro ch hmem
    exact inValue_iff.mpr fun h => hvalue (h ▸ hmem)
  have hstop : inKey asciiEquals = false := rfl
  have hopen : ¬(kv.key = [] ∨ asciiEquals ≠ asciiEquals) :=
    not_or.mpr ⟨hnonempty, not_not.mpr rfl⟩
  constructor
  · obtain ⟨htake, hdrop⟩ := takeWhile_stop kv.value hbefore hstop rfl
    obtain ⟨htake', hdrop'⟩ := takeWhile_all hinside
    unfold parseNextKv
    simp only [htake, hdrop]
    rw [if_neg hopen, htake', hdrop']
    rfl
  · intro later
    obtain ⟨htake, hdrop⟩ := takeWhile_stop (kv.value ++ asciiSemicolon :: later) hbefore hstop rfl
    obtain ⟨htake', hdrop'⟩ := takeWhile_stop later hinside (by rfl : inValue asciiSemicolon = false) rfl
    unfold parseNextKv
    simp only [htake, hdrop]
    rw [if_neg hopen, htake', hdrop']
    rfl

theorem Segmented.eq_nil {rest : List UInt8} {segments : List CommandKvView}
    (h : Segmented rest segments) (hrest : rest = []) : segments = [] := by
  cases h with
  | nil => rfl
  | last _ _ => exact absurd hrest (List.append_ne_nil_of_right_ne_nil _ (List.cons_ne_nil _ _))
  | cons _ _ _ => exact absurd hrest (List.append_ne_nil_of_right_ne_nil _ (List.cons_ne_nil _ _))

theorem parseSegments_next {rest later : List UInt8} {kv : CommandKvView}
    (hrest : rest ≠ []) (h : parseNextKv rest = some (kv, later)) (fuel : Nat)
    (state : CommandParseState) :
    parseSegments (fuel + 1) state rest = parseSegments fuel (recordKv state kv) later := by
  cases rest with
  | nil => exact absurd rfl hrest
  | cons ch rest =>
    rw [parseSegments, h]

theorem parseSegments_sound {fuel : Nat} :
    ∀ {state state' : CommandParseState} {rest : List UInt8},
      parseSegments fuel state rest = some state' →
      ∃ segments, Segmented rest segments ∧ state' = segments.foldl recordKv state := by
  induction fuel with
  | zero =>
    intro state state' rest h
    cases rest with
    | nil => exact ⟨[], .nil, (Option.some.inj h).symm⟩
    | cons ch rest => cases h
  | succ fuel ih =>
    intro state state' rest h
    cases rest with
    | nil => exact ⟨[], .nil, (Option.some.inj h).symm⟩
    | cons ch rest =>
      unfold parseSegments at h
      split at h
      · cases h
      · rename_i kv later hnext
        obtain ⟨segments, hsegmented, hstate⟩ := ih h
        obtain ⟨hkey, hvalue, ⟨hrest, hlater⟩ | hrest⟩ := parseNextKv_sound hnext
        · rw [hlater] at hsegmented
          rw [hrest]
          rw [hsegmented.eq_nil rfl] at hstate
          exact ⟨[kv], .last hkey hvalue, hstate⟩
        · rw [hrest]
          exact ⟨kv :: segments, .cons hkey hvalue hsegmented, hstate⟩

theorem parseSegments_complete {rest : List UInt8} {segments : List CommandKvView}
    (h : Segmented rest segments) :
    ∀ {fuel : Nat} (state : CommandParseState), rest.length ≤ fuel →
      parseSegments fuel state rest = some (segments.foldl recordKv state) := by
  induction h with
  | nil =>
    intro fuel state _
    cases fuel <;> rfl
  | last hkey hvalue =>
    intro fuel state hfuel
    cases fuel with
    | zero => simp at hfuel
    | succ fuel =>
      rw [parseSegments_next (List.append_ne_nil_of_right_ne_nil _ (List.cons_ne_nil _ _))
        (parseNextKv_complete hkey hvalue).1]
      cases fuel <;> rfl
  | @cons kv rest later hkey hvalue _ ih =>
    intro fuel state hfuel
    cases fuel with
    | zero => simp at hfuel
    | succ fuel =>
      rw [parseSegments_next (List.append_ne_nil_of_right_ne_nil _ (List.cons_ne_nil _ _))
        ((parseNextKv_complete hkey hvalue).2 rest)]
      apply ih
      simp only [List.length_append, List.length_cons] at hfuel
      omega

/-- The payloads that the parser accepts. -/
structure WellFormed (payload : List UInt8) (segments : List CommandKvView) : Prop where
  nonempty : payload ≠ []
  fits : payload.length ≤ commandPayloadMaxBytes
  printable : ∀ ch ∈ payload, 0x20 ≤ ch ∧ ch ≤ 0x7E
  segmented : Segmented payload segments

theorem parsePayload_iff {payload : List UInt8} {state : CommandParseState} :
    parsePayload payload = some state ↔
      ∃ segments, WellFormed payload segments ∧ state = segments.foldl recordKv {} := by
  have hprintable : asciiPrintable payload = true ↔ ∀ ch ∈ payload, 0x20 ≤ ch ∧ ch ≤ 0x7E := by
    simp [asciiPrintable]
  unfold parsePayload
  constructor
  · intro h
    split at h
    · cases h
    · rename_i hguard
      simp only [not_or, Bool.not_eq_true, Bool.not_eq_false', List.length_eq_zero_iff, Nat.not_lt]
        at hguard
      obtain ⟨segments, hsegmented, hstate⟩ := parseSegments_sound h
      exact ⟨segments, ⟨hguard.1, hguard.2.1, hprintable.mp hguard.2.2, hsegmented⟩, hstate⟩
  · rintro ⟨segments, ⟨hnonempty, hfits, hall, hsegmented⟩, hstate⟩
    rw [if_neg, hstate]
    · exact parseSegments_complete hsegmented _ (Nat.le_refl _)
    · simp only [not_or, Bool.not_eq_true, Bool.not_eq_false', List.length_eq_zero_iff, Nat.not_lt]
      exact ⟨hnonempty, hfits, hprintable.mpr hall⟩

theorem bytes_injective {key key' : CommandKey} (h : key.bytes = key'.bytes) : key = key' := by
  cases key <;> cases key' <;> first | rfl | exact absurd h (by decide)

theorem valueOf_recorded (state : CommandParseState) (kv : CommandKvView) {key : CommandKey}
    (h : kv.key = key.bytes) (key' : CommandKey) :
    valueOf (recordKv state kv) key' = if key' = key then some kv.value else valueOf state key' := by
  unfold recordKv
  rw [h]
  cases key <;> cases key' <;> rfl

theorem valueOf_recordKv (state : CommandParseState) (kv : CommandKvView) (key : CommandKey) :
    valueOf (recordKv state kv) key =
      if kv.key = key.bytes then some kv.value else valueOf state key := by
  by_cases hknown : ∃ key : CommandKey, kv.key = key.bytes
  · obtain ⟨known, hkey⟩ := hknown
    rw [valueOf_recorded state kv hkey, hkey]
    by_cases hsame : key = known
    · rw [if_pos hsame, if_pos (congrArg CommandKey.bytes hsame.symm)]
    · rw [if_neg hsame, if_neg fun h => hsame (bytes_injective h).symm]
  · have hunknown (key : CommandKey) : kv.key ≠ key.bytes := fun h => hknown ⟨key, h⟩
    rw [if_neg (hunknown key)]
    unfold recordKv
    simp only [hunknown, if_false]

theorem valueOf_foldl (segments : List CommandKvView) (key : CommandKey) :
    ∀ state : CommandParseState, valueOf (segments.foldl recordKv state) key =
      (lastValue key.bytes segments).or (valueOf state key) := by
  induction segments using List.reverseRecOn with
  | nil => exact fun _ => rfl
  | append_singleton segments kv ih =>
    intro state
    rw [List.foldl_append, List.foldl_cons, List.foldl_nil, valueOf_recordKv, lastValue,
      List.reverse_append]
    by_cases hkey : kv.key = key.bytes
    · simp [hkey]
    · simp [hkey, ih, lastValue]

theorem valueOf_eq_lastValue (segments : List CommandKvView) (key : CommandKey) :
    valueOf (segments.foldl recordKv {}) key = lastValue key.bytes segments := by
  rw [valueOf_foldl]
  cases key <;> exact Option.or_none

def IsDigit (ch : UInt8) : Prop := 0x30 ≤ ch ∧ ch ≤ 0x39

/-- The number that decimal digits write after a number. -/
def decimalFrom (value : Nat) (data : List UInt8) : Nat :=
  data.foldl (fun value ch => value * 10 + (ch.toNat - 0x30)) value

theorem le_decimalFrom (data : List UInt8) : ∀ value, value ≤ decimalFrom value data := by
  induction data with
  | nil => exact fun value => Nat.le_refl value
  | cons ch data ih =>
    intro value
    calc value ≤ value * 10 + (ch.toNat - 0x30) := by omega
      _ ≤ decimalFrom value (ch :: data) := ih _

theorem decimalDigit_iff {value next : UInt32} {ch : UInt8} :
    decimalDigit value ch = some next ↔
      IsDigit ch ∧ value.toNat * 10 + (ch.toNat - 0x30) = next.toNat := by
  have hnext := next.toNat_lt
  have hvalue := value.toNat_lt
  unfold decimalDigit IsDigit
  by_cases hdigit : ch < 0x30 ∨ 0x39 < ch
  · rw [if_pos hdigit]
    constructor
    · intro h
      cases h
    · rintro ⟨⟨hlow, hhigh⟩, _⟩
      rcases hdigit with hlt | hlt
      · exact absurd hlow (UInt8.not_le.mpr hlt)
      · exact absurd hhigh (UInt8.not_le.mpr hlt)
  · rw [if_neg hdigit]
    obtain ⟨hlow, hhigh⟩ := not_or.mp hdigit
    have hlow' : (0x30 : UInt8) ≤ ch := UInt8.not_lt.mp hlow
    have hhigh' : ch ≤ 0x39 := UInt8.not_lt.mp hhigh
    have hd : (ch - 0x30).toUInt32.toNat = ch.toNat - 0x30 := by
      rw [UInt8.toNat_toUInt32, UInt8.toNat_sub_of_le _ _ hlow']
      rfl
    have hsmall : (ch - 0x30).toUInt32.toNat ≤ 9 := by
      rw [hd]
      have := UInt8.le_iff_toNat_le.mp hhigh'
      change ch.toNat ≤ 57 at this
      omega
    simp only
    rw [← hd]
    generalize (ch - 0x30).toUInt32 = digit at hsmall
    have hlimit : ((0xFFFFFFFF - digit) / 10).toNat = (4294967295 - digit.toNat) / 10 := by
      rw [UInt32.toNat_div, UInt32.toNat_sub_of_le]
      · rfl
      · apply UInt32.le_iff_toNat_le.mpr
        change digit.toNat ≤ 4294967295
        omega
    by_cases hover : (0xFFFFFFFF - digit) / 10 < value
    · rw [if_pos hover]
      have hover' := UInt32.lt_iff_toNat_lt.mp hover
      rw [hlimit] at hover'
      constructor
      · intro h
        cases h
      · rintro ⟨_, hsum⟩
        omega
    · rw [if_neg hover]
      have hfits : ¬(4294967295 - digit.toNat) / 10 < value.toNat := by
        rw [← hlimit]
        exact fun h => hover (UInt32.lt_iff_toNat_lt.mpr h)
      have hsum : (value * 10 + digit).toNat = value.toNat * 10 + digit.toNat := by
        rw [UInt32.toNat_add, UInt32.toNat_mul]
        have hten : (10 : UInt32).toNat = 10 := rfl
        rw [hten]
        omega
      rw [← hsum, UInt32.toNat_inj, Option.some.injEq]
      exact ⟨fun h => ⟨⟨hlow', hhigh'⟩, h⟩, fun h => h.2⟩

theorem foldlM_decimalDigit_iff {data : List UInt8} :
    ∀ {value result : UInt32}, data.foldlM decimalDigit value = some result ↔
      (∀ ch ∈ data, IsDigit ch) ∧ decimalFrom value.toNat data = result.toNat := by
  induction data with
  | nil =>
    intro value result
    simp [decimalFrom, UInt32.toNat_inj]
  | cons ch data ih =>
    intro value result
    have hresult := result.toNat_lt
    rw [List.foldlM_cons, List.forall_mem_cons]
    cases hnext : decimalDigit value ch with
    | some next =>
      obtain ⟨hdigit, hsum⟩ := decimalDigit_iff.mp hnext
      have hfrom : decimalFrom value.toNat (ch :: data) = decimalFrom next.toNat data := by
        rw [← hsum]
        rfl
      rw [hfrom]
      exact ih.trans ⟨fun h => ⟨⟨hdigit, h.1⟩, h.2⟩, fun h => ⟨h.1.2, h.2⟩⟩
    | none =>
      constructor
      · intro h
        cases h
      · rintro ⟨⟨hdigit, _⟩, hsum⟩
        have hle := le_decimalFrom data (value.toNat * 10 + (ch.toNat - 0x30))
        have hfrom : decimalFrom value.toNat (ch :: data) =
            decimalFrom (value.toNat * 10 + (ch.toNat - 0x30)) data := rfl
        have hsmall : value.toNat * 10 + (ch.toNat - 0x30) < 2 ^ 32 := by omega
        have hsome : decimalDigit value ch =
            some (UInt32.ofNat (value.toNat * 10 + (ch.toNat - 0x30))) :=
          decimalDigit_iff.mpr ⟨hdigit, (UInt32.toNat_ofNat_of_lt hsmall).symm⟩
        rw [hsome] at hnext
        cases hnext

/-- One to ten decimal digits, and the number they write. -/
structure Decimal (data : List UInt8) (value : UInt32) : Prop where
  nonempty : data ≠ []
  short : data.length ≤ commandU32MaxDecimalDigits
  digits : ∀ ch ∈ data, IsDigit ch
  value : decimalFrom 0 data = value.toNat

theorem parseUint32Dec_iff {data : List UInt8} {value : UInt32} :
    parseUint32Dec data = some value ↔ Decimal data value := by
  unfold parseUint32Dec
  constructor
  · intro h
    split at h
    · cases h
    · rename_i hguard
      obtain ⟨hnonempty, hshort⟩ := not_or.mp hguard
      obtain ⟨hdigits, hvalue⟩ := foldlM_decimalDigit_iff.mp h
      exact ⟨fun h => hnonempty (congrArg List.length h), Nat.not_lt.mp hshort, hdigits, hvalue⟩
  · intro h
    rw [if_neg]
    · exact foldlM_decimalDigit_iff.mpr ⟨h.digits, h.value⟩
    · exact not_or.mpr ⟨fun hlength => h.nonempty (List.length_eq_zero_iff.mp hlength),
        Nat.not_lt.mpr h.short⟩

end CommandParser

end EventFramework
