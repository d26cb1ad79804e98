import Mathlib.Data.List.Basic

/-!
# Lists whose equal elements stand together
-/

namespace EventFramework
set_option autoImplicit false

variable {α : Type}

/-- Between two equal elements stands the same element only. -/
def Contiguous (l : List α) : Prop :=
  ∀ i j k : Nat, i < j → j < k → ∀ a, l[i]? = some a → l[k]? = some a → l[j]? = some a

namespace Contiguous

theorem nil : Contiguous ([] : List α) := by
  intro i j k _ _ a ha
  simp at ha

theorem of_append {l l' : List α} (h : Contiguous (l ++ l')) : Contiguous l := by
  intro i j k hij hjk a hi hk
  have hlt := (List.getElem?_eq_some_iff.mp hk).1
  have hj := h i j k hij hjk a (by rwa [List.getElem?_append_left (by omega)])
    (by rwa [List.getElem?_append_left hlt])
  rwa [List.getElem?_append_left (by omega)] at hj

/-- An element may follow if it is new or the last one. -/
theorem concat_iff {l : List α} {a : α} :
    Contiguous (l ++ [a]) ↔ Contiguous l ∧ (a ∈ l → l.getLast? = some a) := by
  constructor
  · intro h
    refine ⟨h.of_append, fun hmem => ?_⟩
    obtain ⟨i, hi, hget⟩ := List.mem_iff_getElem.mp hmem
    have hfirst : (l ++ [a])[i]? = some a := by
      rw [List.getElem?_append_left hi, List.getElem?_eq_getElem hi, hget]
    have hend : (l ++ [a])[l.length]? = some a := by simp
    rw [List.getLast?_eq_getElem?]
    rcases Nat.lt_or_ge i (l.length - 1) with hlt | hge
    · have hmid := h i (l.length - 1) l.length hlt (by omega) a hfirst hend
      rwa [List.getElem?_append_left (by omega)] at hmid
    · have hsame : i = l.length - 1 := by omega
      rw [← hsame, List.getElem?_eq_getElem hi, hget]
  · rintro ⟨h, hlast⟩ i j k hij hjk b hi hk
    have hbound := (List.getElem?_eq_some_iff.mp hk).1
    rw [List.length_append, List.length_singleton] at hbound
    have hjl : j < l.length := by omega
    rw [List.getElem?_append_left (by omega)] at hi ⊢
    rcases Nat.lt_or_ge k l.length with hkl | hkl
    · rw [List.getElem?_append_left hkl] at hk
      exact h i j k hij hjk b hi hk
    · have hend : k = l.length := by omega
      rw [hend, List.getElem?_concat_length] at hk
      cases hk
      have hfinal := hlast (List.mem_of_getElem? hi)
      rw [List.getLast?_eq_getElem?] at hfinal
      rcases Nat.lt_or_ge j (l.length - 1) with hlt | hge
      · exact h i j (l.length - 1) hij hlt a hi hfinal
      · have hsame : j = l.length - 1 := by omega
        rw [hsame]
        exact hfinal

end Contiguous

end EventFramework
