import EventFramework.Library.RingWindow

/-!
# Rings between two sequence counters

A ring of `n` cells between a write and a read counter that run freely and wrap at `2 ^ 32`, a
multiple of `n`. The cell of a count is its remainder. The live entries are a queue: a write below the
capacity appends, a read takes the first.
-/

namespace SeqRing
set_option autoImplicit false

universe u
variable {α : Type u}

def entries (buf : Nat → α) (n : Nat) (writeSeq readSeq : UInt32) : List α :=
  RingWindow.window buf n (readSeq.toNat % n) (writeSeq - readSeq).toNat

@[simp] theorem entries_length (buf : Nat → α) (n : Nat) (writeSeq readSeq : UInt32) :
    (entries buf n writeSeq readSeq).length = (writeSeq - readSeq).toNat :=
  RingWindow.window_length ..

theorem entries_self (buf : Nat → α) (n : Nat) (seq : UInt32) : entries buf n seq seq = [] := by
  rw [← List.length_eq_zero_iff, entries_length, UInt32.sub_self]
  rfl

theorem entries_eq_nil {buf : Nat → α} {n : Nat} {writeSeq readSeq : UInt32} :
    entries buf n writeSeq readSeq = [] ↔ writeSeq - readSeq = 0 := by
  rw [← List.length_eq_zero_iff, entries_length, ← UInt32.toNat_inj]
  exact Iff.rfl

theorem toNat_succ (seq : UInt32) : (seq + 1).toNat = (seq.toNat + 1) % 2 ^ 32 := by
  rw [UInt32.toNat_add, show (1 : UInt32).toNat = 1 from rfl]

/-- One more write than before, unless the counters are a full turn apart. -/
theorem sub_succ {writeSeq readSeq : UInt32} (h : (writeSeq - readSeq).toNat + 1 < 2 ^ 32) :
    (writeSeq + 1 - readSeq).toNat = (writeSeq - readSeq).toNat + 1 := by
  have hwrite := writeSeq.toNat_lt
  have hread := readSeq.toNat_lt
  rw [UInt32.toNat_sub] at h ⊢
  rw [UInt32.toNat_sub, toNat_succ]
  omega

/-- One more read than before, of a ring that holds something. -/
theorem sub_read {writeSeq readSeq : UInt32} (h : writeSeq - readSeq ≠ 0) :
    (writeSeq - readSeq).toNat = (writeSeq - (readSeq + 1)).toNat + 1 := by
  have hwrite := writeSeq.toNat_lt
  have hread := readSeq.toNat_lt
  have hpos : (writeSeq - readSeq).toNat ≠ 0 := fun hzero => h (UInt32.toNat_inj.mp hzero)
  rw [UInt32.toNat_sub] at hpos ⊢
  rw [UInt32.toNat_sub, toNat_succ]
  omega

theorem toNat_and_mask {mask : UInt32} {k : Nat} (hmask : mask.toNat = 2 ^ k - 1) (seq : UInt32) :
    (seq &&& mask).toNat = seq.toNat % 2 ^ k := by
  rw [UInt32.toNat_and, hmask, Nat.and_two_pow_sub_one_eq_mod]

variable {n : Nat}

theorem cell_write (hn : n ∣ 2 ^ 32) (writeSeq readSeq : UInt32) :
    writeSeq.toNat % n = RingWindow.cell n (readSeq.toNat % n) (writeSeq - readSeq).toNat := by
  have hread := readSeq.toNat_lt
  have hle : readSeq.toNat ≤ 2 ^ 32 := Nat.le_of_lt hread
  have hsum : readSeq.toNat + (2 ^ 32 - readSeq.toNat + writeSeq.toNat) =
      2 ^ 32 + writeSeq.toNat := by omega
  rw [RingWindow.cell, Nat.mod_add_mod, UInt32.toNat_sub, ← Nat.mod_mod_of_dvd _ hn, eq_comm,
    ← Nat.mod_mod_of_dvd _ hn, Nat.add_mod_mod, hsum, Nat.add_mod_left]

theorem cell_read (hn : n ∣ 2 ^ 32) (readSeq : UInt32) :
    (readSeq + 1).toNat % n = RingWindow.cell n (readSeq.toNat % n) 1 := by
  rw [RingWindow.cell, Nat.mod_add_mod, toNat_succ, Nat.mod_mod_of_dvd _ hn]

theorem entries_write (hn : n ∣ 2 ^ 32) (hlt : n < 2 ^ 32) (buf : Nat → α) {writeSeq readSeq : UInt32}
    (x : α) (hroom : (writeSeq - readSeq).toNat < n) :
    entries (Function.update buf (writeSeq.toNat % n) x) n (writeSeq + 1) readSeq =
      entries buf n writeSeq readSeq ++ [x] := by
  have hwrap : (writeSeq - readSeq).toNat + 1 < 2 ^ 32 := Nat.lt_of_le_of_lt hroom hlt
  unfold entries
  rw [sub_succ hwrap, cell_write hn writeSeq readSeq]
  exact RingWindow.window_push buf x hroom

theorem entries_read (hn : n ∣ 2 ^ 32) (buf : Nat → α) {writeSeq readSeq : UInt32}
    (hne : writeSeq - readSeq ≠ 0) :
    entries buf n writeSeq readSeq =
      buf (readSeq.toNat % n) :: entries buf n writeSeq (readSeq + 1) := by
  have hpos : 0 < n := Nat.pos_of_dvd_of_pos hn (by decide)
  unfold entries
  rw [sub_read hne, cell_read hn]
  exact RingWindow.window_cons buf (Nat.mod_lt _ hpos) _

end SeqRing
