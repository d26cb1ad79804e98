import Mathlib.Data.List.Basic
import Mathlib.Data.Nat.ModEq
import Mathlib.Logic.Function.Basic

/-!
# The live window of a ring buffer

A ring of `n` cells with a start index and a length is read as a list. The lemmas
say what the four usual updates of a ring (store behind the window, drop its first
cell, overwrite inside it, write outside it) do to that list. Cells outside the
window are unrestricted.
-/

namespace RingWindow
set_option autoImplicit false

universe u
variable {α : Type u}

/-- The cell at distance `i` from `head` in a ring of `n` cells. -/
def cell (n head i : Nat) : Nat := (head + i) % n

/-- The window of `count` cells that starts at `head`, as a list. -/
def window (buf : Nat → α) (n head count : Nat) : List α :=
  (List.range count).map fun i => buf (cell n head i)

theorem cell_lt {n : Nat} (hn : 0 < n) (head i : Nat) : cell n head i < n :=
  Nat.mod_lt _ hn

theorem cell_zero {n head : Nat} (h : head < n) : cell n head 0 = head :=
  Nat.mod_eq_of_lt h

theorem cell_succ (n head i : Nat) : cell n (cell n head 1) i = cell n head (i + 1) := by
  unfold cell
  rw [Nat.mod_add_mod, Nat.add_assoc, Nat.add_comm 1 i]

theorem cell_inj {n head i j : Nat} (hi : i < n) (hj : j < n)
    (h : cell n head i = cell n head j) : i = j := by
  unfold cell at h
  have hmod : Nat.ModEq n i j := Nat.ModEq.add_left_cancel' head h
  exact hmod.eq_of_lt_of_lt hi hj

@[simp] theorem window_length (buf : Nat → α) (n head count : Nat) :
    (window buf n head count).length = count := by simp [window]

@[simp] theorem window_zero (buf : Nat → α) (n head : Nat) : window buf n head 0 = [] := rfl

theorem window_getElem? (buf : Nat → α) (n head count i : Nat) :
    (window buf n head count)[i]? = if i < count then some (buf (cell n head i)) else none := by
  unfold window
  split <;> simp_all

theorem window_succ (buf : Nat → α) (n head count : Nat) :
    window buf n head (count + 1) = window buf n head count ++ [buf (cell n head count)] := by
  simp [window, List.range_succ]

theorem window_cons (buf : Nat → α) {n head : Nat} (hh : head < n) (count : Nat) :
    window buf n head (count + 1) = buf head :: window buf n (cell n head 1) count := by
  simp only [window, List.range_succ_eq_map, List.map_cons, List.map_map, cell_zero hh]
  congr 1
  apply List.map_congr_left
  intro i _
  simp only [Function.comp_apply, cell_succ]

theorem mem_window {buf : Nat → α} {n head count : Nat} {x : α} :
    x ∈ window buf n head count ↔ ∃ i, i < count ∧ buf (cell n head i) = x := by
  simp [window]

/-- Two buffers that agree on the window read as the same list. -/
theorem window_congr {buf buf' : Nat → α} {n head count : Nat}
    (h : ∀ i, i < count → buf (cell n head i) = buf' (cell n head i)) :
    window buf n head count = window buf' n head count := by
  apply List.map_congr_left
  intro i hi
  exact h i (List.mem_range.mp hi)

/-- A write at a cell that is not live leaves the list alone. -/
theorem window_update_outside (buf : Nat → α) {n head count j : Nat} (x : α)
    (hj : ∀ i, i < count → cell n head i ≠ j) :
    window (Function.update buf j x) n head count = window buf n head count :=
  window_congr fun i hi => Function.update_of_ne (hj i hi) x buf

theorem window_push (buf : Nat → α) {n head count : Nat} (x : α) (hc : count < n) :
    window (Function.update buf (cell n head count) x) n head (count + 1) =
      window buf n head count ++ [x] := by
  rw [window_succ, Function.update_self, window_update_outside]
  intro i hi he
  have := cell_inj (by omega) hc he
  omega

theorem window_overwrite (buf : Nat → α) {n head : Nat} (x : α) (hh : head < n) :
    window (Function.update buf head x) n (cell n head 1) n = (window buf n head n).tail ++ [x] := by
  obtain ⟨m, rfl⟩ : ∃ m, n = m + 1 := Nat.exists_eq_succ_of_ne_zero (Nat.ne_zero_of_lt hh)
  have hlast : cell (m + 1) (cell (m + 1) head 1) m = head := by
    rw [cell_succ, cell, Nat.add_mod_right, Nat.mod_eq_of_lt hh]
  have hpush : window (Function.update buf (cell (m + 1) (cell (m + 1) head 1) m) x) (m + 1)
      (cell (m + 1) head 1) (m + 1) = window buf (m + 1) (cell (m + 1) head 1) m ++ [x] :=
    window_push buf x (Nat.lt_succ_self m)
  rw [hlast] at hpush
  rw [hpush, window_cons buf hh m, List.tail_cons]

/-- Overwriting the live cell at distance `i` replaces the `i`-th element. -/
theorem window_set (buf : Nat → α) {n head count i : Nat} (x : α) (hc : count ≤ n)
    (hi : i < count) :
    window (Function.update buf (cell n head i) x) n head count =
      (window buf n head count).set i x := by
  apply List.ext_getElem?
  intro k
  rw [List.getElem?_set, window_getElem?, window_getElem?, window_length]
  by_cases hk : k < count
  · by_cases hik : i = k
    · subst hik
      simp [hk]
    · have hne : cell n head k ≠ cell n head i := fun he =>
        hik (cell_inj (by omega) (by omega) he).symm
      simp [hk, hik, Function.update_of_ne hne]
  · simp only [hk, if_false]
    split
    · omega
    · rfl

end RingWindow
