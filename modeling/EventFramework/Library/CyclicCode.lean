import Mathlib.Algebra.Polynomial.FieldDivision
import Mathlib.Algebra.Polynomial.Degree.Lemmas
import Mathlib.RingTheory.PrincipalIdealDomain
import Mathlib.Data.List.GetD

/-!
# Cyclic redundancy codes

A word of symbols is a polynomial, the first symbol with the highest power. A code word is a multiple
of the generator. Of the errors of a word the ones that are no multiple of the generator are detected:
those within a window no longer than the generator, and those of two symbols whose distance is not a
multiple of the order of the indeterminate.
-/

namespace CyclicCode
set_option autoImplicit false

open Polynomial

variable {F : Type} [Field F]

noncomputable def poly (word : List F) : F[X] := word.foldl (fun p a => p * X + C a) 0

section Words

theorem poly_nil : poly ([] : List F) = 0 := rfl

theorem poly_concat (word : List F) (a : F) : poly (word ++ [a]) = poly word * X + C a := by
  rw [poly, List.foldl_append]
  rfl

theorem poly_append (u v : List F) : poly (u ++ v) = poly u * X ^ v.length + poly v := by
  induction v using List.reverseRecOn with
  | nil => rw [List.append_nil, List.length_nil, pow_zero, mul_one, poly_nil, add_zero]
  | append_singleton v a ih =>
    rw [← List.append_assoc, poly_concat, poly_concat, ih, List.length_append, List.length_singleton,
      pow_succ]
    ring

theorem poly_cons (a : F) (word : List F) : poly (a :: word) = C a * X ^ word.length + poly word := by
  have h := poly_append [a] word
  have hone : poly [a] = C a := by
    rw [← List.nil_append [a], poly_concat, poly_nil, zero_mul, zero_add]
  rwa [List.singleton_append, hone] at h

theorem poly_add (u v : List F) (h : u.length = v.length) :
    poly (List.zipWith (· + ·) u v) = poly u + poly v := by
  induction u generalizing v with
  | nil =>
    rw [List.eq_nil_of_length_eq_zero h.symm, List.zipWith_nil_left, poly_nil, add_zero]
  | cons a u ih =>
    cases v with
    | nil => cases h
    | cons b v =>
      have htail : u.length = v.length := Nat.succ.inj h
      rw [List.zipWith_cons_cons, poly_cons, poly_cons, poly_cons, ih v htail, List.length_zipWith,
        htail, Nat.min_self, C_add]
      ring

theorem poly_zeros {word : List F} (h : ∀ a ∈ word, a = 0) : poly word = 0 := by
  induction word with
  | nil => rfl
  | cons a word ih =>
    rw [poly_cons, h a List.mem_cons_self, ih fun b hb => h b (List.mem_cons_of_mem _ hb), C_0,
      zero_mul, add_zero]

theorem coeff_poly (word : List F) (i : Nat) : (poly word).coeff i = word.reverse.getD i 0 := by
  induction word using List.reverseRecOn generalizing i with
  | nil => simp [poly_nil]
  | append_singleton word a ih =>
    rw [poly_concat, List.reverse_append, List.reverse_singleton, List.singleton_append, coeff_add,
      coeff_C]
    cases i with
    | zero => simp
    | succ i => simp [ih]

theorem degree_poly_lt (word : List F) : (poly word).degree < word.length := by
  rw [degree_lt_iff_coeff_zero]
  intro i hi
  rw [coeff_poly, List.getD_eq_default]
  rwa [List.length_reverse]

theorem poly_eq_zero_iff (word : List F) : poly word = 0 ↔ ∀ a ∈ word, a = 0 := by
  refine ⟨fun h => ?_, poly_zeros⟩
  induction word with
  | nil => exact fun a ha => absurd ha List.not_mem_nil
  | cons a word ih =>
    have hlead := coeff_poly (a :: word) word.length
    rw [h, coeff_zero, List.reverse_cons, List.getD_append_right _ _ _ _ (by simp)] at hlead
    have hzero : a = 0 := by simpa using hlead.symm
    rw [poly_cons, hzero, C_0, zero_mul, zero_add] at h
    intro b hb
    rcases List.mem_cons.mp hb with rfl | hrest
    · exact hzero
    · exact ih h b hrest

end Words

section Detection

variable {generator : F[X]}

/-- The generator does not divide a power of the indeterminate away. -/
theorem dvd_of_dvd_mul_pow (hconstant : generator.coeff 0 ≠ 0) {p : F[X]} (n : Nat)
    (h : generator ∣ p * X ^ n) : generator ∣ p := by
  have hcoprime : IsCoprime generator (X ^ n) := by
    apply IsCoprime.pow_right
    apply IsCoprime.symm
    apply (Irreducible.coprime_iff_not_dvd (irreducible_X (R := F))).mpr
    rw [X_dvd_iff]
    exact hconstant
  exact hcoprime.dvd_of_dvd_mul_right h

theorem not_dvd_of_short {word : List F} (hshort : word.length ≤ generator.natDegree)
    (hgenerator : generator ≠ 0) (hnonzero : ∃ a ∈ word, a ≠ 0) : ¬generator ∣ poly word := by
  intro h
  have hdegree : (poly word).degree < generator.degree := by
    rw [degree_eq_natDegree hgenerator]
    exact lt_of_lt_of_le (degree_poly_lt word) (Nat.cast_le.mpr hshort)
  have hzero := (poly_eq_zero_iff word).mp (eq_zero_of_dvd_of_degree_lt h hdegree)
  obtain ⟨a, ha, hne⟩ := hnonzero
  exact hne (hzero a ha)

theorem mem_take_of_zeros {word : List F} {start : Nat}
    (h : ∀ i, i < start → word.getD i 0 = 0) : ∀ a ∈ word.take start, a = 0 := by
  intro a ha
  obtain ⟨i, hi, rfl⟩ := List.getElem_of_mem ha
  rw [List.length_take] at hi
  have hat := h i (by omega)
  rw [List.getD_eq_getElem _ _ (by omega)] at hat
  rw [List.getElem_take]
  exact hat

theorem mem_drop_of_zeros {word : List F} {stop : Nat}
    (h : ∀ i, stop ≤ i → word.getD i 0 = 0) : ∀ a ∈ word.drop stop, a = 0 := by
  intro a ha
  obtain ⟨i, hi, rfl⟩ := List.getElem_of_mem ha
  rw [List.length_drop] at hi
  have hat := h (stop + i) (Nat.le_add_right _ _)
  rw [List.getD_eq_getElem _ _ (by omega)] at hat
  rw [List.getElem_drop]
  exact hat

/-- An error within a window no longer than the degree of the generator is detected. -/
theorem detects_burst (hconstant : generator.coeff 0 ≠ 0) {word : List F} {start : Nat}
    (hwindow : ∀ i, word.getD i 0 ≠ 0 → start ≤ i ∧ i < start + generator.natDegree)
    (hnonzero : ∃ a ∈ word, a ≠ 0) : ¬generator ∣ poly word := by
  have hgenerator : generator ≠ 0 := by
    rintro rfl
    exact hconstant (coeff_zero 0)
  have hbefore : ∀ a ∈ word.take start, a = 0 := by
    apply mem_take_of_zeros
    intro i hi
    by_contra hne
    exact absurd (hwindow i hne).1 (Nat.not_le.mpr hi)
  have hafter : ∀ a ∈ word.drop (start + generator.natDegree), a = 0 := by
    apply mem_drop_of_zeros
    intro i hi
    by_contra hne
    exact absurd (hwindow i hne).2 (Nat.not_lt.mpr hi)
  have hsplit : word = word.take start ++ ((word.drop start).take generator.natDegree ++
      word.drop (start + generator.natDegree)) := by
    rw [← List.drop_drop, List.take_append_drop, List.take_append_drop]
  have hpoly : poly word = poly ((word.drop start).take generator.natDegree) *
      X ^ (word.drop (start + generator.natDegree)).length := by
    conv_lhs => rw [hsplit]
    rw [poly_append, poly_append, poly_zeros hbefore, poly_zeros hafter, zero_mul, zero_add, add_zero]
  rw [hpoly]
  intro h
  refine not_dvd_of_short ?_ hgenerator ?_ (dvd_of_dvd_mul_pow hconstant _ h)
  · exact List.length_take_le _ _
  · obtain ⟨a, ha, hne⟩ := hnonzero
    rw [hsplit] at ha
    rcases List.mem_append.mp ha with hleft | hright
    · exact absurd (hbefore a hleft) hne
    · rcases List.mem_append.mp hright with hmid | hend
      · exact ⟨a, hmid, hne⟩
      · exact absurd (hafter a hend) hne

/-- An error of two equal symbols is detected unless the generator divides the polynomial of their
distance. -/
theorem detects_two (hconstant : generator.coeff 0 ≠ 0) {word : List F} {a : F} (ha : a ≠ 0)
    {i j : Nat} (hij : i < j) (hj : j < word.length)
    (hword : ∀ k, word.getD k 0 = if k = i ∨ k = j then a else 0)
    (horder : ¬generator ∣ X ^ (j - i) + 1) : ¬generator ∣ poly word := by
  have hpoly : poly word = (C a * (X ^ (j - i) + 1)) * X ^ (word.length - 1 - j) := by
    have hpower : word.length - 1 - i = j - i + (word.length - 1 - j) := by omega
    have hsum : (C a * (X ^ (j - i) + 1)) * X ^ (word.length - 1 - j) =
        C a * X ^ (word.length - 1 - i) + C a * X ^ (word.length - 1 - j) := by
      rw [hpower, pow_add]
      ring
    rw [hsum]
    ext k
    rw [coeff_add, coeff_C_mul_X_pow, coeff_C_mul_X_pow, coeff_poly]
    by_cases hk : k < word.length
    · have hreverse : word.reverse.getD k 0 = word.getD (word.length - 1 - k) 0 := by
        rw [List.getD_eq_getElem _ _ (by rwa [List.length_reverse]), List.getElem_reverse,
          List.getD_eq_getElem _ _ (by omega)]
      rw [hreverse, hword]
      by_cases hki : k = word.length - 1 - i
      · rw [if_pos (Or.inl (by omega)), if_pos hki, if_neg (by omega), add_zero]
      · by_cases hkj : k = word.length - 1 - j
        · rw [if_pos (Or.inr (by omega)), if_neg hki, if_pos hkj, zero_add]
        · rw [if_neg (by omega), if_neg hki, if_neg hkj, add_zero]
    · rw [List.getD_eq_default _ _ (by rw [List.length_reverse]; omega), if_neg (by omega),
        if_neg (by omega), add_zero]
  rw [hpoly]
  intro h
  have hunit : IsUnit (C a : F[X]) := isUnit_C.mpr (IsUnit.mk0 a ha)
  exact horder (hunit.dvd_mul_left.mp (dvd_of_dvd_mul_pow hconstant _ h))

end Detection

end CyclicCode
