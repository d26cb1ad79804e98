import EventFramework.Drivers.Ds18b20Driver
import EventFramework.Library.CyclicCode
import Mathlib.Algebra.CharP.Two
import Mathlib.Algebra.Field.ZMod
import Mathlib.Tactic.ComputeDegree
import Mathlib.Tactic.LinearCombination

/-!
# The Dallas CRC

The bit loop of `ev_ds18b20_crc8` divides by `x^8 + x^5 + x^4 + 1`. A string followed by its CRC is a
multiple of that polynomial, and the errors that are none are detected.
-/

namespace EventFramework
set_option autoImplicit false

open Polynomial
open CyclicCode (poly)

namespace Ds18b20Driver

noncomputable def generator : (ZMod 2)[X] := X ^ 8 + X ^ 5 + X ^ 4 + 1

def bitOf (byte : UInt8) (i : Nat) : ZMod 2 := if byte.toNat.testBit i then 1 else 0

/-- The bits of a byte in the order of their transmission. -/
def byteBits (byte : UInt8) : List (ZMod 2) := (List.range 8).map (bitOf byte)

def wordBits (data : List UInt8) : List (ZMod 2) := data.flatMap byteBits

/-- The register after a bit that leaves `crc` in it. -/
def crc8Shift (crc : UInt8) : UInt8 := if crc &&& 0x01 ≠ 0 then (crc >>> 1) ^^^ 0x8C else crc >>> 1

def Checks (word : List UInt8) : Prop := crc8 (word.take (word.length - 1)) = word.getD (word.length - 1) 0

def corrupted (word error : List UInt8) : List UInt8 := List.zipWith (· ^^^ ·) word error

/-- The error inverts the bit `i` in the order of transmission. -/
def Inverts (error : List UInt8) (i : Nat) : Prop := (error.getD (i / 8) 0).toNat.testBit (i % 8) = true

instance (error : List UInt8) (i : Nat) : Decidable (Inverts error i) :=
  inferInstanceAs (Decidable (_ = true))

def Burst (error : List UInt8) : Prop :=
  (∃ i, Inverts error i) ∧ ∃ start, ∀ i, Inverts error i → start ≤ i ∧ i < start + 8

def OneOrTwo (error : List UInt8) : Prop :=
  ∃ i j, i < 8 * ds18b20ScratchpadBytes ∧ j < 8 * ds18b20ScratchpadBytes ∧
    ∀ k, Inverts error k ↔ k = i ∨ k = j

section Shift

theorem shiftRight_xor (a b : UInt8) : (a ^^^ b) >>> 1 = (a >>> 1) ^^^ (b >>> 1) := by
  apply UInt8.toBitVec_inj.mp
  simp only [UInt8.toBitVec_shiftRight, UInt8.toBitVec_xor]
  exact BitVec.ushiftRight_xor_distrib _ _ _

theorem and_one_cases (a : UInt8) : a &&& 0x01 = 0 ∨ a &&& 0x01 = 1 := by
  have hall : ∀ n, n < 256 → UInt8.ofNat n &&& 0x01 = 0 ∨ UInt8.ofNat n &&& 0x01 = 1 := by
    decide +kernel
  have hbyte := hall a.toNat a.toNat_lt
  rwa [UInt8.ofNat_toNat] at hbyte

theorem crc8Shift_xor (a b : UInt8) : crc8Shift (a ^^^ b) = crc8Shift a ^^^ crc8Shift b := by
  have hlow : (a ^^^ b) &&& 0x01 = (a &&& 0x01) ^^^ (b &&& 0x01) := by
    apply UInt8.toBitVec_inj.mp
    simp only [UInt8.toBitVec_and, UInt8.toBitVec_xor]
    apply BitVec.eq_of_getElem_eq
    intro i hi
    simp only [BitVec.getElem_and, BitVec.getElem_xor, Bool.and_xor_distrib_right]
  unfold crc8Shift
  rw [hlow, shiftRight_xor]
  rcases and_one_cases a with ha | ha <;> rcases and_one_cases b with hb | hb <;> rw [ha, hb]
  · rfl
  · exact UInt8.xor_assoc _ _ _
  · change (a >>> 1 ^^^ b >>> 1) ^^^ (0x8C : UInt8) = (a >>> 1 ^^^ (0x8C : UInt8)) ^^^ b >>> 1
    rw [UInt8.xor_assoc, UInt8.xor_assoc, UInt8.xor_comm (b >>> 1)]
  · change a >>> 1 ^^^ b >>> 1 = (a >>> 1 ^^^ (0x8C : UInt8)) ^^^ (b >>> 1 ^^^ (0x8C : UInt8))
    rw [UInt8.xor_comm (b >>> 1), UInt8.xor_assoc, ← UInt8.xor_assoc (0x8C : UInt8), UInt8.xor_self,
      UInt8.zero_xor]

theorem iterate_crc8Shift_xor (n : Nat) (a b : UInt8) :
    crc8Shift^[n] (a ^^^ b) = crc8Shift^[n] a ^^^ crc8Shift^[n] b := by
  induction n generalizing a b with
  | zero => rfl
  | succ n ih => rw [Function.iterate_succ_apply, crc8Shift_xor, ih]; rfl

/-- One bit of the loop, on the remainder and the byte together. -/
theorem crc8Bit_xor (state : UInt8 × UInt8) :
    (crc8Bit state).1 ^^^ (crc8Bit state).2 = crc8Shift (state.1 ^^^ state.2) := by
  unfold crc8Bit crc8Shift
  simp only
  rw [shiftRight_xor]
  split
  · rw [UInt8.xor_assoc, UInt8.xor_assoc, UInt8.xor_comm (0x8C : UInt8)]
  · rfl

theorem iterate_crc8Bit (n : Nat) (state : UInt8 × UInt8) :
    (crc8Bit^[n] state).1 ^^^ (crc8Bit^[n] state).2 = crc8Shift^[n] (state.1 ^^^ state.2) := by
  induction n generalizing state with
  | zero => rfl
  | succ n ih => rw [Function.iterate_succ_apply, ih, crc8Bit_xor]; rfl

theorem crc8Byte_eq (crc current : UInt8) :
    crc8Byte crc current = crc8Shift^[8] (crc ^^^ current) := by
  have hspent (n : Nat) (state : UInt8 × UInt8) :
      (crc8Bit^[n] state).2.toNat = state.2.toNat / 2 ^ n := by
    induction n generalizing state with
    | zero => simp
    | succ n ih =>
      rw [Function.iterate_succ_apply, ih]
      change (state.2 >>> 1).toNat / 2 ^ n = _
      rw [UInt8.toNat_shiftRight]
      change state.2.toNat >>> 1 / 2 ^ n = _
      rw [Nat.shiftRight_eq_div_pow, Nat.div_div_eq_div_mul, ← pow_add, Nat.add_comm]
  have hzero : (crc8Bit^[8] (crc, current)).2 = 0 := by
    apply UInt8.toNat_inj.mp
    rw [hspent]
    exact Nat.div_eq_of_lt current.toNat_lt
  have hboth := iterate_crc8Bit 8 (crc, current)
  rw [hzero, UInt8.xor_zero] at hboth
  exact hboth

theorem crc8_append (data : List UInt8) (byte : UInt8) :
    crc8 (data ++ [byte]) = crc8Shift^[8] (crc8 data ^^^ byte) := by
  rw [← crc8Byte_eq, crc8, List.foldl_append]
  rfl

theorem iterate_crc8Shift_zero (n : Nat) : crc8Shift^[n] 0 = 0 :=
  Function.iterate_fixed (by decide) n

end Shift

section Division

theorem generator_natDegree : generator.natDegree = 8 := by
  unfold generator
  compute_degree!

theorem generator_coeff_zero : generator.coeff 0 ≠ 0 := by
  simp [generator, coeff_one]

theorem generator_ne_zero : generator ≠ 0 := fun h => generator_coeff_zero (by rw [h, coeff_zero])

theorem bitOf_xor (a b : UInt8) (i : Nat) : bitOf (a ^^^ b) i = bitOf a i + bitOf b i := by
  unfold bitOf
  rw [UInt8.toNat_xor, Nat.testBit_xor]
  cases a.toNat.testBit i <;> cases b.toNat.testBit i <;> decide

theorem byteBits_xor (a b : UInt8) :
    byteBits (a ^^^ b) = List.zipWith (· + ·) (byteBits a) (byteBits b) := by
  unfold byteBits
  rw [List.zipWith_map, List.zipWith_self]
  exact List.map_congr_left fun i _ => bitOf_xor a b i

theorem poly_byteBits_xor (a b : UInt8) :
    poly (byteBits (a ^^^ b)) = poly (byteBits a) + poly (byteBits b) := by
  rw [byteBits_xor]
  exact CyclicCode.poly_add _ _ rfl

theorem poly_byteBits (byte : UInt8) :
    poly (byteBits byte) = C (bitOf byte 0) * X ^ 7 + C (bitOf byte 1) * X ^ 6 +
      C (bitOf byte 2) * X ^ 5 + C (bitOf byte 3) * X ^ 4 + C (bitOf byte 4) * X ^ 3 +
      C (bitOf byte 5) * X ^ 2 + C (bitOf byte 6) * X + C (bitOf byte 7) := by
  have hbits : byteBits byte = [bitOf byte 0, bitOf byte 1, bitOf byte 2, bitOf byte 3, bitOf byte 4,
      bitOf byte 5, bitOf byte 6, bitOf byte 7] := rfl
  rw [hbits, poly]
  simp only [List.foldl_cons, List.foldl_nil]
  ring

theorem poly_shiftRight (byte : UInt8) :
    poly (byteBits byte) * X = C (bitOf byte 0) * X ^ 8 + poly (byteBits (byte >>> 1)) := by
  have hbit (i : Nat) : bitOf (byte >>> 1) i = bitOf byte (i + 1) := by
    have hshift : (byte >>> 1).toNat = byte.toNat >>> 1 := UInt8.toNat_shiftRight byte 1
    unfold bitOf
    rw [hshift, Nat.testBit_shiftRight, Nat.add_comm]
  have hlast : bitOf byte 8 = 0 := by
    unfold bitOf
    rw [Nat.testBit_lt_two_pow byte.toNat_lt]
    rfl
  rw [poly_byteBits, poly_byteBits]
  simp only [hbit, hlast, C_0]
  ring

theorem dvd_crc8Shift (crc : UInt8) :
    generator ∣ poly (byteBits crc) * X - poly (byteBits (crc8Shift crc)) := by
  have hlow : crc &&& 0x01 ≠ 0 ↔ crc.toNat.testBit 0 = true := by
    have hall : ∀ n, n < 256 → (UInt8.ofNat n &&& 0x01 ≠ 0 ↔ n.testBit 0 = true) := by decide +kernel
    have hbyte := hall crc.toNat crc.toNat_lt
    rwa [UInt8.ofNat_toNat] at hbyte
  have hpolynomial : poly (byteBits 0x8C) = X ^ 5 + X ^ 4 + 1 := by
    have hzero (i : Nat) (hi : Nat.testBit 0x8C i = false) : bitOf 0x8C i = 0 :=
      if_neg (by rw [show (0x8C : UInt8).toNat = 0x8C from rfl, hi]; exact Bool.false_ne_true)
    have hone (i : Nat) (hi : Nat.testBit 0x8C i = true) : bitOf 0x8C i = 1 := if_pos hi
    rw [poly_byteBits, hzero 0 rfl, hzero 1 rfl, hone 2 rfl, hone 3 rfl, hzero 4 rfl, hzero 5 rfl,
      hzero 6 rfl, hone 7 rfl]
    simp
  rw [poly_shiftRight]
  unfold crc8Shift
  by_cases hset : crc &&& 0x01 ≠ 0
  · have hbit : bitOf crc 0 = 1 := if_pos (hlow.mp hset)
    rw [if_pos hset, poly_byteBits_xor, hpolynomial, hbit, C_1, one_mul]
    have hgenerator : X ^ 8 + poly (byteBits (crc >>> 1)) -
        (poly (byteBits (crc >>> 1)) + (X ^ 5 + X ^ 4 + 1)) = generator := by
      rw [CharTwo.sub_eq_add]
      have hdouble := CharTwo.add_self_eq_zero (poly (byteBits (crc >>> 1)))
      unfold generator
      linear_combination hdouble
    rw [hgenerator]
  · have hbit : bitOf crc 0 = 0 := if_neg (mt hlow.mpr hset)
    rw [if_neg hset, hbit, C_0, zero_mul, zero_add, sub_self]
    exact dvd_zero _

theorem dvd_iterate_crc8Shift (n : Nat) (crc : UInt8) :
    generator ∣ poly (byteBits crc) * X ^ n - poly (byteBits (crc8Shift^[n] crc)) := by
  induction n with
  | zero =>
    rw [pow_zero, mul_one, Function.iterate_zero, id, sub_self]
    exact dvd_zero _
  | succ n ih =>
    rw [Function.iterate_succ_apply']
    have hlast := dvd_crc8Shift (crc8Shift^[n] crc)
    have hsum := dvd_add (Dvd.dvd.mul_right ih X) hlast
    have heq : (poly (byteBits crc) * X ^ n - poly (byteBits (crc8Shift^[n] crc))) * X +
        (poly (byteBits (crc8Shift^[n] crc)) * X - poly (byteBits (crc8Shift (crc8Shift^[n] crc)))) =
        poly (byteBits crc) * X ^ (n + 1) - poly (byteBits (crc8Shift (crc8Shift^[n] crc))) := by
      ring
    rwa [heq] at hsum

theorem wordBits_append (data more : List UInt8) :
    wordBits (data ++ more) = wordBits data ++ wordBits more := List.flatMap_append

theorem poly_wordBits_append (data : List UInt8) (byte : UInt8) :
    poly (wordBits (data ++ [byte])) = poly (wordBits data) * X ^ 8 + poly (byteBits byte) := by
  have hlast : wordBits [byte] = byteBits byte := List.flatMap_singleton ..
  rw [wordBits_append, hlast, CyclicCode.poly_append]
  rfl

/-- The CRC is the remainder of the string, moved up by its eight bits. -/
theorem dvd_crc8 (data : List UInt8) :
    generator ∣ poly (wordBits data) * X ^ 8 - poly (byteBits (crc8 data)) := by
  induction data using List.reverseRecOn with
  | nil =>
    have hzero : poly (byteBits (crc8 [])) = 0 := by
      apply CyclicCode.poly_zeros
      decide
    have hempty : poly (wordBits []) = 0 := rfl
    rw [hzero, hempty, zero_mul, sub_self]
    exact dvd_zero _
  | append_singleton data byte ih =>
    have hshift := dvd_iterate_crc8Shift 8 (crc8 data ^^^ byte)
    have hsum := dvd_add (Dvd.dvd.mul_right ih (X ^ 8)) hshift
    rw [poly_wordBits_append, crc8_append]
    rw [poly_byteBits_xor] at hsum
    have heq : (poly (wordBits data) * X ^ 8 - poly (byteBits (crc8 data))) * X ^ 8 +
        ((poly (byteBits (crc8 data)) + poly (byteBits byte)) * X ^ 8 -
          poly (byteBits (crc8Shift^[8] (crc8 data ^^^ byte)))) =
        (poly (wordBits data) * X ^ 8 + poly (byteBits byte)) * X ^ 8 -
          poly (byteBits (crc8Shift^[8] (crc8 data ^^^ byte))) := by
      ring
    rwa [heq] at hsum

theorem byteBits_eq_zero {byte : UInt8} (h : ∀ a ∈ byteBits byte, a = 0) : byte = 0 := by
  apply UInt8.toNat_inj.mp
  apply Nat.eq_of_testBit_eq
  intro i
  rw [show (0 : UInt8).toNat = 0 from rfl, Nat.zero_testBit]
  by_cases hi : i < 8
  · have hbit := h (bitOf byte i) (List.mem_map.mpr ⟨i, List.mem_range.mpr hi, rfl⟩)
    unfold bitOf at hbit
    split at hbit
    · exact absurd hbit one_ne_zero
    · rename_i hclear
      exact Bool.eq_false_iff.mpr hclear
  · apply Nat.testBit_lt_two_pow
    exact Nat.lt_of_lt_of_le byte.toNat_lt (Nat.pow_le_pow_right (by decide) (Nat.le_of_not_lt hi))

/-- No byte but zero is a multiple of the generator. -/
theorem dvd_byteBits {byte : UInt8} (h : generator ∣ poly (byteBits byte)) : byte = 0 := by
  apply byteBits_eq_zero
  by_contra hnonzero
  have hexists : ∃ a ∈ byteBits byte, a ≠ 0 := by
    by_contra hnone
    exact hnonzero fun a ha => by_contra fun hne => hnone ⟨a, ha, hne⟩
  exact CyclicCode.not_dvd_of_short (by rw [generator_natDegree]; rfl) generator_ne_zero hexists h

/-- A string followed by a byte is a multiple of the generator just when the byte is its CRC. -/
theorem crc8_eq_iff (data : List UInt8) (crc : UInt8) :
    crc8 data = crc ↔ generator ∣ poly (wordBits (data ++ [crc])) := by
  have hremainder := dvd_crc8 data
  have hsplit : poly (wordBits (data ++ [crc])) =
      (poly (wordBits data) * X ^ 8 - poly (byteBits (crc8 data))) +
        poly (byteBits (crc8 data ^^^ crc)) := by
    rw [poly_wordBits_append, poly_byteBits_xor]
    ring
  rw [hsplit, dvd_add_right hremainder]
  constructor
  · rintro rfl
    rw [UInt8.xor_self, CyclicCode.poly_zeros (by decide)]
    exact dvd_zero _
  · exact fun h => UInt8.xor_eq_zero_iff.mp (dvd_byteBits h)

theorem crc8_append_crc8 (data : List UInt8) : crc8 (data ++ [crc8 data]) = 0 := by
  rw [crc8_append, UInt8.xor_self]
  exact iterate_crc8Shift_zero 8

theorem crc8_xor (a b : List UInt8) (h : a.length = b.length) :
    crc8 (List.zipWith (· ^^^ ·) a b) = crc8 a ^^^ crc8 b := by
  induction a using List.reverseRecOn generalizing b with
  | nil =>
    rw [List.eq_nil_of_length_eq_zero h.symm]
    rfl
  | append_singleton a last ih =>
    rcases List.eq_nil_or_concat b with rfl | ⟨rest, final, rfl⟩
    · simp at h
    · have hrest : a.length = rest.length := by simpa using h
      rw [List.concat_eq_append, List.zipWith_append hrest, List.zipWith_cons_cons,
        List.zipWith_nil_left, crc8_append, crc8_append, crc8_append, ih rest hrest,
        ← iterate_crc8Shift_xor]
      congr 1
      rw [UInt8.xor_assoc, UInt8.xor_assoc, ← UInt8.xor_assoc (crc8 rest), UInt8.xor_comm (crc8 rest),
        UInt8.xor_assoc]

end Division

section Errors

theorem wordBits_xor (a b : List UInt8) :
    wordBits (List.zipWith (· ^^^ ·) a b) = List.zipWith (· + ·) (wordBits a) (wordBits b) := by
  induction a generalizing b with
  | nil => rfl
  | cons x a ih =>
    cases b with
    | nil =>
      have hnone : wordBits [] = [] := rfl
      rw [List.zipWith_nil_right, hnone, List.zipWith_nil_right]
    | cons y b =>
      have hcons (c : UInt8) (word : List UInt8) :
          wordBits (c :: word) = byteBits c ++ wordBits word := List.flatMap_cons
      rw [List.zipWith_cons_cons, hcons, hcons, hcons, byteBits_xor, ih,
        List.zipWith_append (by rfl)]

theorem wordBits_length (word : List UInt8) : (wordBits word).length = 8 * word.length := by
  induction word with
  | nil => rfl
  | cons byte word ih =>
    have hcons : wordBits (byte :: word) = byteBits byte ++ wordBits word := List.flatMap_cons
    have hbyte : (byteBits byte).length = 8 := rfl
    rw [hcons, List.length_append, ih, hbyte, List.length_cons]
    omega

theorem bitOf_ne_zero {byte : UInt8} {i : Nat} : bitOf byte i ≠ 0 ↔ byte.toNat.testBit i = true := by
  unfold bitOf
  split
  · rename_i hset
    exact ⟨fun _ => hset, fun _ => one_ne_zero⟩
  · rename_i hclear
    exact ⟨fun h => absurd rfl h, fun h => absurd h hclear⟩

theorem wordBits_getD (word : List UInt8) (i : Nat) :
    (wordBits word).getD i 0 = bitOf (word.getD (i / 8) 0) (i % 8) := by
  induction word generalizing i with
  | nil =>
    have hnone : wordBits [] = [] := rfl
    rw [hnone, List.getD_nil, List.getD_nil]
    exact (if_neg (by simp)).symm
  | cons byte word ih =>
    have hcons : wordBits (byte :: word) = byteBits byte ++ wordBits word := List.flatMap_cons
    have hbyte : (byteBits byte).length = 8 := rfl
    rw [hcons]
    by_cases hi : i < 8
    · have hbit : (byteBits byte).getD i 0 = bitOf byte i := by
        unfold byteBits
        rw [List.getD_eq_getElem _ _ (by simpa using hi), List.getElem_map, List.getElem_range]
      rw [List.getD_append _ _ _ _ (by rwa [hbyte]), hbit, Nat.div_eq_of_lt hi, Nat.mod_eq_of_lt hi,
        List.getD_cons_zero]
    · have hdiv : i / 8 = (i - 8) / 8 + 1 := by omega
      have hmod : i % 8 = (i - 8) % 8 := by omega
      rw [List.getD_append_right _ _ _ _ (by omega), hbyte, ih, hdiv, hmod, List.getD_cons_succ]

theorem wordBits_ne_zero (error : List UInt8) (i : Nat) :
    (wordBits error).getD i 0 ≠ 0 ↔ Inverts error i := by
  rw [wordBits_getD]
  exact bitOf_ne_zero

theorem Inverts.lt {error : List UInt8} {i : Nat} (h : Inverts error i) : i < 8 * error.length := by
  by_contra hout
  have hzero : error.getD (i / 8) 0 = 0 := List.getD_eq_default _ _ (by omega)
  unfold Inverts at h
  rw [hzero] at h
  simp at h

/-- A corrupted string that passes the check leaves an error that is a multiple of the generator. -/
theorem dvd_of_checks {data error : List UInt8} (hlength : error.length = data.length + 1)
    (h : Checks (corrupted (data ++ [crc8 data]) error)) : generator ∣ poly (wordBits error) := by
  have hsplit : ∃ received last, corrupted (data ++ [crc8 data]) error = received ++ [last] := by
    have hnonempty : corrupted (data ++ [crc8 data]) error ≠ [] := by
      apply List.ne_nil_of_length_pos
      simp [corrupted, hlength]
    exact ⟨_, _, (List.dropLast_append_getLast hnonempty).symm⟩
  obtain ⟨received, last, hword⟩ := hsplit
  have hcheck : crc8 received = last := by
    rw [hword] at h
    simpa [Checks] using h
  have hreceived := (crc8_eq_iff received last).mp hcheck
  have hsent := (crc8_eq_iff data (crc8 data)).mp rfl
  rw [← hword, corrupted, wordBits_xor, CyclicCode.poly_add _ _ (by
    rw [wordBits_length, wordBits_length, List.length_append, List.length_singleton, hlength])]
    at hreceived
  exact (dvd_add_right hsent).mp hreceived

theorem exists_bit {error : List UInt8} {i : Nat} (h : Inverts error i) :
    ∃ a ∈ wordBits error, a ≠ 0 := by
  have hi : i < (wordBits error).length := by
    rw [wordBits_length]
    exact h.lt
  have hbit := (wordBits_ne_zero error i).mpr h
  rw [List.getD_eq_getElem _ _ hi] at hbit
  exact ⟨_, List.getElem_mem hi, hbit⟩

theorem not_dvd_burst {error : List UInt8} (h : Burst error) : ¬generator ∣ poly (wordBits error) := by
  obtain ⟨⟨i, hi⟩, start, hwindow⟩ := h
  have hbits : ∀ k, (wordBits error).getD k 0 ≠ 0 → start ≤ k ∧ k < start + generator.natDegree := by
    intro k hk
    rw [generator_natDegree]
    exact hwindow k ((wordBits_ne_zero error k).mp hk)
  exact CyclicCode.detects_burst generator_coeff_zero hbits (exists_bit hi)

/-- The distance of two bits of a scratchpad is below the order of the indeterminate. -/
theorem not_dvd_distance {k : Nat} (hpos : 0 < k) (hk : k < 72) : ¬generator ∣ X ^ k + 1 := by
  have hone : poly (byteBits 0x80) = 1 := by
    have hzero (i : Nat) (hi : Nat.testBit 0x80 i = false) : bitOf 0x80 i = 0 :=
      if_neg (by rw [show (0x80 : UInt8).toNat = 0x80 from rfl, hi]; exact Bool.false_ne_true)
    have hseven : bitOf 0x80 7 = 1 := if_pos rfl
    rw [poly_byteBits, hzero 0 rfl, hzero 1 rfl, hzero 2 rfl, hzero 3 rfl, hzero 4 rfl, hzero 5 rfl,
      hzero 6 rfl, hseven]
    simp
  have horder : ∀ k, k < 72 → 0 < k → crc8Shift^[k] 0x80 ≠ 0x80 := by decide +kernel
  intro h
  have hshift := dvd_iterate_crc8Shift k 0x80
  rw [hone, one_mul] at hshift
  have hsum := dvd_sub h hshift
  have hbyte : X ^ k + 1 - (X ^ k - poly (byteBits (crc8Shift^[k] 0x80))) =
      poly (byteBits (crc8Shift^[k] 0x80 ^^^ 0x80)) := by
    rw [poly_byteBits_xor, hone]
    ring
  rw [hbyte] at hsum
  exact horder k hk hpos (UInt8.xor_eq_zero_iff.mp (dvd_byteBits hsum))

theorem not_dvd_two {error : List UInt8} {i j : Nat} (hij : i < j) (hj : j < 72)
    (h : ∀ k, Inverts error k ↔ k = i ∨ k = j) : ¬generator ∣ poly (wordBits error) := by
  have hinside : j < (wordBits error).length := by
    rw [wordBits_length]
    exact ((h j).mpr (Or.inr rfl)).lt
  have hbits : ∀ k, (wordBits error).getD k 0 = if k = i ∨ k = j then 1 else 0 := by
    intro k
    rw [wordBits_getD]
    exact if_congr (h k) rfl rfl
  exact CyclicCode.detects_two generator_coeff_zero one_ne_zero hij hinside hbits
    (not_dvd_distance (Nat.sub_pos_of_lt hij) (by omega))

theorem not_dvd_oneOrTwo {error : List UInt8} (h : OneOrTwo error) :
    ¬generator ∣ poly (wordBits error) := by
  obtain ⟨i, j, hi, hj, hinverts⟩ := h
  rcases Nat.lt_trichotomy i j with hlt | rfl | hgt
  · exact not_dvd_two hlt hj hinverts
  · apply not_dvd_burst
    have hsame (k : Nat) (hk : Inverts error k) : k = i := or_self_iff.mp ((hinverts k).mp hk)
    refine ⟨⟨i, (hinverts i).mpr (Or.inl rfl)⟩, i, fun k hk => ?_⟩
    rw [hsame k hk]
    omega
  · exact not_dvd_two hgt hi fun k => (hinverts k).trans Or.comm

theorem validateScratchpad_iff {scratchpad : List UInt8}
    (hlength : scratchpad.length = ds18b20ScratchpadBytes) :
    validateScratchpad scratchpad = .ok ↔ Checks scratchpad := by
  unfold validateScratchpad Checks
  rw [hlength]
  by_cases h : crc8 (scratchpad.take (ds18b20ScratchpadBytes - 1)) =
      scratchpad.getD (ds18b20ScratchpadBytes - 1) 0
  · rw [if_neg (not_not.mpr h)]
    exact iff_of_true rfl h
  · rw [if_pos h]
    exact iff_of_false Result.noConfusion h

/-- The CRC of a string and its CRC is zero, the CRC is linear, and the check of a string and its CRC
finds every burst of eight bits and the check of a scratchpad every error of two. -/
theorem crc8_detects :
    (∀ data, crc8 (data ++ [crc8 data]) = 0) ∧
      (∀ a b, a.length = b.length → crc8 (List.zipWith (· ^^^ ·) a b) = crc8 a ^^^ crc8 b) ∧
      (∀ data error, error.length = data.length + 1 → Burst error →
        Checks (data ++ [crc8 data]) ∧ ¬Checks (corrupted (data ++ [crc8 data]) error)) ∧
      ∀ scratchpad error : List UInt8, scratchpad.length = ds18b20ScratchpadBytes →
        error.length = ds18b20ScratchpadBytes → validateScratchpad scratchpad = .ok →
        OneOrTwo error → validateScratchpad (corrupted scratchpad error) ≠ .ok := by
  have hchecks (data : List UInt8) : Checks (data ++ [crc8 data]) := by
    simp [Checks]
  refine ⟨crc8_append_crc8, crc8_xor, ?_, ?_⟩
  · intro data error hlength hburst
    exact ⟨hchecks data, fun h => not_dvd_burst hburst (dvd_of_checks hlength h)⟩
  · intro scratchpad error hlength herror hvalid htwo hpassed
    have hsplit : scratchpad = scratchpad.take (ds18b20ScratchpadBytes - 1) ++
        [crc8 (scratchpad.take (ds18b20ScratchpadBytes - 1))] := by
      have hcheck := (validateScratchpad_iff hlength).mp hvalid
      unfold Checks at hcheck
      have hinside : ds18b20ScratchpadBytes - 1 < scratchpad.length := by
        rw [hlength]
        decide
      rw [hlength, List.getD_eq_getElem _ _ hinside] at hcheck
      rw [hcheck, List.take_append_getElem, List.take_of_length_le]
      rw [hlength]
      decide
    rw [validateScratchpad_iff (by rw [corrupted, List.length_zipWith, hlength, herror, Nat.min_self]),
      hsplit] at hpassed
    refine not_dvd_oneOrTwo htwo (dvd_of_checks ?_ hpassed)
    rw [herror, List.length_take, hlength]
    rfl

/-- A burst over two bytes of a word, and two bits of a scratchpad far from each other. -/
theorem crc8_detects_errors :
    (Burst [0x00, 0xC0, 0x25] ∧ ¬Checks (corrupted ([0x28, 0xFF] ++ [crc8 [0x28, 0xFF]]) [0x00, 0xC0, 0x25])) ∧
      OneOrTwo [0x01, 0, 0, 0, 0, 0, 0, 0x80, 0] ∧
      validateScratchpad [0x50, 0x05, 0x4B, 0x46, 0x7F, 0xFF, 0x0C, 0x10, 0x1C] = .ok ∧
      validateScratchpad (corrupted [0x50, 0x05, 0x4B, 0x46, 0x7F, 0xFF, 0x0C, 0x10, 0x1C]
        [0x01, 0, 0, 0, 0, 0, 0, 0x80, 0]) ≠ .ok := by
  have hbeyond {error : List UInt8} {i : Nat} (hi : Inverts error i) : i < 8 * error.length := by
    by_contra hout
    rw [Inverts, List.getD_eq_default _ _ (by omega)] at hi
    exact absurd hi (by simp)
  have hburst : Burst [0x00, 0xC0, 0x25] := by
    have hinside : ∀ i < 24, Inverts [0x00, 0xC0, 0x25] i → 14 ≤ i ∧ i < 14 + 8 := by decide
    exact ⟨⟨14, by decide⟩, 14, fun i hi => hinside i (hbeyond hi) hi⟩
  have htwo : OneOrTwo [0x01, 0, 0, 0, 0, 0, 0, 0x80, 0] := by
    have hinside : ∀ k < 72, Inverts [0x01, 0, 0, 0, 0, 0, 0, 0x80, 0] k → k = 0 ∨ k = 63 := by decide
    refine ⟨0, 63, by decide, by decide, fun k => ⟨fun hk => hinside k (hbeyond hk) hk, ?_⟩⟩
    rintro (rfl | rfl)
    · decide
    · decide
  obtain ⟨-, -, hfound, hfoundTwo⟩ := crc8_detects
  have hvalid : validateScratchpad [0x50, 0x05, 0x4B, 0x46, 0x7F, 0xFF, 0x0C, 0x10, 0x1C] = .ok := by
    decide +kernel
  exact ⟨⟨hburst, (hfound [0x28, 0xFF] _ rfl hburst).2⟩, htwo, hvalid,
    hfoundTwo _ _ rfl rfl hvalid htwo⟩

end Errors

end Ds18b20Driver

end EventFramework
