import EventFramework.Actors.CommandParser
import Mathlib.Data.Nat.Digits.Defs

/-!
# The decimal parser and its output

`ev_command_parse_uint32_dec` with its output cell. It reports success for the decimals of one to ten
digits below `2^32` and writes their number; nothing of its arithmetic wraps.
-/

namespace EventFramework
set_option autoImplicit false

namespace CommandParser

/-- The loop, with the characters left, the value so far and the cell of the output. -/
def decimalLoop : List UInt8 → UInt32 → UInt32 → Bool × UInt32
  | [], value, _ => (true, value)
  | ch :: rest, value, out =>
    if ch < 0x30 ∨ 0x39 < ch then (false, out)
    else
      let digit := (ch - 0x30).toUInt32
      if (0xFFFFFFFF - digit) / 10 < value then (false, out)
      else decimalLoop rest (value * 10 + digit) out

/-- The function on its pointers, `none` for a null pointer. -/
def parseUint32DecInto (data : Option (List UInt8)) (out : Option UInt32) : Bool × Option UInt32 :=
  match data, out with
  | some data, some out =>
    if data.length = 0 ∨ commandU32MaxDecimalDigits < data.length then (false, some out)
    else
      let result := decimalLoop data 0 out
      (result.1, some result.2)
  | _, out => (false, out)

def decimalValue (data : List UInt8) : Nat :=
  Nat.ofDigits 10 (data.reverse.map fun ch => ch.toNat - 0x30)

inductive DecimalIteration (data : List UInt8) : List UInt8 → UInt32 → Prop where
  | start : data.length ≠ 0 → data.length ≤ commandU32MaxDecimalDigits →
    DecimalIteration data data 0
  | next {ch : UInt8} {rest : List UInt8} {value value' : UInt32} :
    DecimalIteration data (ch :: rest) value → decimalDigit value ch = some value' →
    DecimalIteration data rest value'

/-- The two subtractions of an iteration do not borrow, and the product and the sum that it goes on
with are the numbers they stand for. -/
def NoWrap (value : UInt32) (ch : UInt8) : Prop :=
  let digit := (ch - 0x30).toUInt32
  digit.toNat = ch.toNat - 0x30 ∧ (0xFFFFFFFF - digit).toNat = 0xFFFFFFFF - digit.toNat ∧
    (decimalDigit value ch ≠ none → (value * 10).toNat = value.toNat * 10 ∧
      (value * 10 + digit).toNat = value.toNat * 10 + digit.toNat)

theorem decimalValue_eq (data : List UInt8) : decimalValue data = decimalFrom 0 data := by
  induction data using List.reverseRecOn with
  | nil => rfl
  | append_singleton data ch ih =>
    have hlast : decimalFrom 0 (data ++ [ch]) = decimalFrom 0 data * 10 + (ch.toNat - 0x30) :=
      List.foldl_concat ..
    rw [hlast, ← ih]
    unfold decimalValue
    rw [List.reverse_append, List.reverse_singleton, List.singleton_append, List.map_cons,
      Nat.ofDigits_cons, Nat.add_comm, Nat.mul_comm]

theorem decimalLoop_cons (ch : UInt8) (rest : List UInt8) (value out : UInt32) :
    decimalLoop (ch :: rest) value out = match decimalDigit value ch with
      | some next => decimalLoop rest next out
      | none => (false, out) := by
  have hdecimal : decimalDigit value ch = if ch < 0x30 ∨ 0x39 < ch then none
      else if (0xFFFFFFFF - (ch - 0x30).toUInt32) / 10 < value then none
      else some (value * 10 + (ch - 0x30).toUInt32) := by
    rw [decimalDigit]
  rw [hdecimal, decimalLoop]
  by_cases hdigit : ch < 0x30 ∨ 0x39 < ch
  · rw [if_pos hdigit, if_pos hdigit]
  · rw [if_neg hdigit, if_neg hdigit]
    by_cases hover : (0xFFFFFFFF - (ch - 0x30).toUInt32) / 10 < value
    · rw [if_pos hover, if_pos hover]
    · rw [if_neg hover, if_neg hover]

theorem decimalLoop_eq (data : List UInt8) (out : UInt32) : ∀ value,
    decimalLoop data value out = match data.foldlM decimalDigit value with
      | some result => (true, result)
      | none => (false, out) := by
  induction data with
  | nil => exact fun _ => rfl
  | cons ch rest ih =>
    intro value
    rw [List.foldlM_cons, decimalLoop_cons]
    cases decimalDigit value ch with
    | none => rfl
    | some next => exact ih next

theorem parseUint32DecInto_eq (data : List UInt8) (out : UInt32) :
    parseUint32DecInto (some data) (some out) = match parseUint32Dec data with
      | some result => (true, some result)
      | none => (false, some out) := by
  unfold parseUint32DecInto parseUint32Dec
  simp only
  by_cases hguard : data.length = 0 ∨ commandU32MaxDecimalDigits < data.length
  · rw [if_pos hguard, if_pos hguard]
  · rw [if_neg hguard, if_neg hguard, decimalLoop_eq]
    cases data.foldlM decimalDigit 0 <;> rfl

theorem noWrap {value : UInt32} {ch : UInt8} (hdigit : IsDigit ch) : NoWrap value ch := by
  obtain ⟨hlow, hhigh⟩ := hdigit
  have hvalue : (ch - 0x30).toUInt32.toNat = ch.toNat - 0x30 := by
    rw [UInt8.toNat_toUInt32, UInt8.toNat_sub_of_le _ _ hlow]
    rfl
  have hsmall : ch.toNat ≤ 57 := UInt8.le_iff_toNat_le.mp hhigh
  refine ⟨hvalue, ?_, ?_⟩
  · rw [UInt32.toNat_sub_of_le]
    · rfl
    · apply UInt32.le_iff_toNat_le.mpr
      change (ch - 0x30).toUInt32.toNat ≤ 4294967295
      omega
  · intro hsome
    obtain ⟨next, hnext⟩ := Option.ne_none_iff_exists'.mp hsome
    have hsum := (decimalDigit_iff.mp hnext).2
    have hfits := next.toNat_lt
    have hten : (10 : UInt32).toNat = 10 := rfl
    have hproduct : (value * 10).toNat = value.toNat * 10 := by
      rw [UInt32.toNat_mul, hten]
      omega
    refine ⟨hproduct, ?_⟩
    rw [UInt32.toNat_add, hproduct, hvalue]
    omega

/-- The value of an iteration is the number of the characters read. -/
theorem DecimalIteration.exact {data rest : List UInt8} {value : UInt32}
    (h : DecimalIteration data rest value) :
    ∃ before, data = before ++ rest ∧ decimalValue before = value.toNat := by
  induction h with
  | start _ _ => exact ⟨[], rfl, rfl⟩
  | @next ch rest value value' _ hdigit ih =>
    obtain ⟨before, hdata, hvalue⟩ := ih
    refine ⟨before ++ [ch], ?_, ?_⟩
    · rw [hdata, List.append_assoc, List.singleton_append]
    · have hlast : decimalFrom 0 (before ++ [ch]) = decimalFrom 0 before * 10 + (ch.toNat - 0x30) :=
        List.foldl_concat ..
      rw [decimalValue_eq] at hvalue ⊢
      rw [hlast, hvalue]
      exact (decimalDigit_iff.mp hdigit).2

/-- The parser succeeds just for the decimals of one to ten digits whose number fits, which it then
writes. It leaves the output alone otherwise, and no iteration wraps. -/
theorem parseUint32DecInto_exact (data : List UInt8) (out : UInt32) :
    ((parseUint32DecInto (some data) (some out)).1 = true ↔
        1 ≤ data.length ∧ data.length ≤ commandU32MaxDecimalDigits ∧ (∀ ch ∈ data, IsDigit ch) ∧
          decimalValue data ≤ 2 ^ 32 - 1) ∧
      ((parseUint32DecInto (some data) (some out)).1 = true →
        ∃ value, (parseUint32DecInto (some data) (some out)).2 = some value ∧
          value.toNat = decimalValue data) ∧
      ((parseUint32DecInto (some data) (some out)).1 = false →
        (parseUint32DecInto (some data) (some out)).2 = some out) ∧
      ∀ ch rest value, DecimalIteration data (ch :: rest) value →
        (∃ before, data = before ++ ch :: rest ∧ decimalValue before = value.toNat) ∧
          (IsDigit ch → NoWrap value ch) := by
  have hparse : (∃ value, parseUint32Dec data = some value) ↔
      1 ≤ data.length ∧ data.length ≤ commandU32MaxDecimalDigits ∧ (∀ ch ∈ data, IsDigit ch) ∧
        decimalValue data ≤ 2 ^ 32 - 1 := by
    constructor
    · rintro ⟨value, hvalue⟩
      obtain ⟨hnonempty, hshort, hdigits, hnumber⟩ := parseUint32Dec_iff.mp hvalue
      have hfits := value.toNat_lt
      refine ⟨List.length_pos_iff.mpr hnonempty, hshort, hdigits, ?_⟩
      rw [decimalValue_eq, hnumber]
      omega
    · rintro ⟨hnonempty, hshort, hdigits, hfits⟩
      refine ⟨UInt32.ofNat (decimalValue data), parseUint32Dec_iff.mpr
        ⟨List.length_pos_iff.mp hnonempty, hshort, hdigits, ?_⟩⟩
      have hnumber : decimalValue data < UInt32.size := by
        change decimalValue data < 2 ^ 32
        omega
      rw [UInt32.toNat_ofNat_of_lt' hnumber, decimalValue_eq]
  rw [parseUint32DecInto_eq, ← hparse]
  refine ⟨?_, ?_, ?_, fun ch rest value h => ⟨h.exact, noWrap⟩⟩
  · cases parseUint32Dec data with
    | none => simp
    | some value => simp
  · intro htrue
    cases hresult : parseUint32Dec data with
    | none =>
      rw [hresult] at htrue
      cases htrue
    | some value =>
      refine ⟨value, rfl, ?_⟩
      rw [decimalValue_eq]
      exact (parseUint32Dec_iff.mp hresult).value.symm
  · intro hfalse
    cases hresult : parseUint32Dec data with
    | none => rfl
    | some value =>
      rw [hresult] at hfalse
      cases hfalse

end CommandParser

end EventFramework
