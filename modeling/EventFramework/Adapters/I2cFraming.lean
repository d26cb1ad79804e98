import EventFramework.Adapters.I2cPulses

/-!
# The frame of a transaction

A transaction that succeeds has put one frame on the bus: its bytes with the most significant bit
first, each with its acknowledgement, between a START and a STOP.
-/

namespace EventFramework
set_option autoImplicit false

open I2cAdapter I2cBus

def byteBits (value : UInt8) : List Bool :=
  (List.range 8).map fun index => value.toNat.testBit (7 - index)

/-- Bits that the master sends while the slave keeps SDA released. -/
def masterBits (bits : List Bool) : List BusCell := bits.map fun bit => .bit (bit, true)

/-- Bits that the slave sends while the master keeps SDA released. -/
def slaveBits (bits : List Bool) : List BusCell := bits.map fun bit => .bit (true, bit)

def writtenByte (value : UInt8) : List BusCell := masterBits (byteBits value) ++ [.bit (true, false)]

def readCells (value : UInt8) (ack : Bool) : List BusCell :=
  slaveBits (byteBits value) ++ [.bit (!ack, true)]

def readAllCells : List UInt8 → List BusCell
  | [] => []
  | [value] => readCells value false
  | value :: next :: rest => readCells value true ++ readAllCells (next :: rest)

def addressByte (address7bit : UInt8) (read : Bool) : List BusCell :=
  masterBits ((List.range 7).map (fun index => address7bit.toNat.testBit (6 - index)) ++ [read]) ++
    [.bit (true, false)]

/-- The frame of a call that leaves `filled` in its buffer. -/
def I2cCall.frame (filled : List UInt8) : I2cCall → List BusCell
  | .writeStream address7bit data =>
    [.start] ++ addressByte address7bit false ++ data.flatMap writtenByte ++ [.stop]
  | .writeRegs address7bit firstReg data =>
    [.start] ++ addressByte address7bit false ++ writtenByte firstReg ++
      data.flatMap writtenByte ++ [.stop]
  | .readStream address7bit _ =>
    [.start] ++ addressByte address7bit true ++ readAllCells filled ++ [.stop]
  | .readRegs address7bit firstReg _ =>
    [.start] ++ addressByte address7bit false ++ writtenByte firstReg ++
      [.start] ++ addressByte address7bit true ++ readAllCells filled ++ [.stop]

section Bits

/-- The bits that `write_byte` takes from the top of a value. -/
def shiftBits : Nat → UInt8 → List Bool
  | 0, _ => []
  | left + 1, value => (value &&& 0x80 != 0) :: shiftBits left (value <<< 1)

/-- The value that `read_byte` shifts its bits into. -/
def packBits (value : UInt8) (bits : List Bool) : UInt8 :=
  bits.foldl (fun value bit => if bit then value <<< 1 ||| 0x01 else value <<< 1) value

theorem testBit_shiftIn (value : UInt8) (bit : Bool) :
    (value <<< 1 ||| if bit then 1 else 0).toNat.testBit 0 = bit ∧
      ∀ index, index < 7 → (value <<< 1 ||| if bit then 1 else 0).toNat.testBit (index + 1) =
        value.toNat.testBit index := by
  have hshift : (value <<< 1).toNat = value.toNat <<< 1 % 2 ^ 8 := UInt8.toNat_shiftLeft ..
  have hone : ∀ index, (if bit then (1 : UInt8) else 0).toNat.testBit (index + 1) = false := by
    intro index
    cases bit
    · exact Nat.zero_testBit _
    · exact Nat.testBit_lt_two_pow (Nat.one_lt_two_pow (Nat.succ_ne_zero index))
  constructor
  · rw [UInt8.toNat_or, Nat.testBit_or, hshift]
    cases bit <;> simp
  · intro index hlt
    rw [UInt8.toNat_or, Nat.testBit_or, hone, Bool.or_false, hshift, Nat.testBit_mod_two_pow,
      Nat.testBit_shiftLeft]
    simp
    omega

theorem topBit (value : UInt8) : (value &&& 0x80 != 0) = value.toNat.testBit 7 := by
  have hall : ∀ n : Fin 256, (UInt8.ofNat n.val &&& 0x80 != 0) = n.val.testBit 7 := by decide +kernel
  have hvalue := hall ⟨value.toNat, value.toNat_lt⟩
  rwa [UInt8.ofNat_toNat] at hvalue

theorem shiftBits_eq (count : Nat) : ∀ value : UInt8, count ≤ 8 →
    shiftBits count value = (List.range count).map fun index => value.toNat.testBit (7 - index) := by
  induction count with
  | zero => exact fun _ _ => rfl
  | succ count ih =>
    intro value hle
    rw [shiftBits, topBit, ih _ (by omega), List.range_succ_eq_map, List.map_cons, List.map_map]
    refine congrArg _ (List.map_congr_left fun index hmem => ?_)
    have hlt := List.mem_range.mp hmem
    have hup := (testBit_shiftIn value false).2 (6 - index) (by omega)
    rw [show 6 - index + 1 = 7 - index from by omega] at hup
    have hzero : value <<< 1 ||| (0 : UInt8) = value <<< 1 := UInt8.or_zero
    rw [if_neg Bool.false_ne_true, hzero] at hup
    rw [hup, Function.comp_apply, show 7 - (index + 1) = 6 - index from by omega]

theorem packBits_snoc (value : UInt8) (bits : List Bool) (bit : Bool) :
    packBits value (bits ++ [bit]) = packBits value bits <<< 1 ||| (if bit then (1 : UInt8) else 0) := by
  rw [packBits, List.foldl_append]
  cases bit
  · exact UInt8.or_zero.symm
  · rfl

theorem packBits_testBit (value : UInt8) (bits : List Bool) : bits.length ≤ 8 →
    ∀ index (h : index < bits.length),
      (packBits value bits).toNat.testBit (bits.length - 1 - index) = bits[index] := by
  induction bits using List.reverseRecOn with
  | nil => exact fun _ index h => absurd h (Nat.not_lt_zero _)
  | append_singleton bits bit ih =>
    intro hle index h
    rw [List.length_append, List.length_singleton] at hle h
    obtain ⟨hlow, hhigh⟩ := testBit_shiftIn (packBits value bits) bit
    rw [packBits_snoc, List.length_append, List.length_singleton, Nat.add_sub_cancel]
    by_cases hlast : index = bits.length
    · subst hlast
      rw [Nat.sub_self, hlow, List.getElem_concat_length]
      rfl
    · have hlt : index < bits.length := by omega
      rw [show bits.length - index = bits.length - 1 - index + 1 from by omega,
        hhigh _ (by omega), ih (by omega) index hlt, List.getElem_append_left hlt]

theorem byteBits_packBits {bits : List Bool} (h : bits.length = 8) :
    byteBits (packBits 0 bits) = bits := by
  apply List.ext_getElem
  · rw [byteBits, List.length_map, List.length_range, h]
  · intro index _ hlt
    have hbit := packBits_testBit 0 bits (Nat.le_of_eq h) index hlt
    rw [h] at hbit
    simpa [byteBits] using hbit

theorem writtenByte_address (read : Bool) (address7bit : UInt8) :
    writtenByte (address7bit <<< 1 ||| if read then 1 else 0) = addressByte address7bit read := by
  obtain ⟨hlow, hhigh⟩ := testBit_shiftIn address7bit read
  have hbits : byteBits (address7bit <<< 1 ||| if read then 1 else 0) =
      (List.range 7).map (fun index => address7bit.toNat.testBit (6 - index)) ++ [read] := by
    rw [byteBits, List.range_succ, List.map_append, List.map_singleton, Nat.sub_self, hlow]
    refine congrArg (· ++ [read]) (List.map_congr_left fun index hmem => ?_)
    have hlt := List.mem_range.mp hmem
    rw [show 7 - index = 6 - index + 1 from by omega, hhigh _ (by omega)]
  rw [writtenByte, hbits, addressByte]

end Bits

/-- The frame that the cells leave open. -/
def InFrame (cells : List BusCell) (st : FrameState) : Prop :=
  FrameState.ofSymbols (lineSymbols cells) = some st

namespace InFrame

variable {cells : List BusCell} {st : FrameState}

theorem start (cells : List BusCell) : InFrame (cells ++ [.start]) {} := by
  unfold InFrame lineSymbols
  rw [List.map_append]
  exact FrameState.ofSymbols_snoc _ _

theorem bit (h : InFrame cells st) (p : Bool × Bool) :
    InFrame (cells ++ [.bit p]) (st.bit (p.1 && p.2)) := by
  unfold InFrame lineSymbols at *
  rw [List.map_append, List.map_singleton, FrameState.ofSymbols_snoc, h]
  rfl

theorem bits (levels : List (Bool × Bool)) : ∀ cells st, InFrame cells st →
    InFrame (cells ++ levels.map .bit) ((levels.map fun p => p.1 && p.2).foldl FrameState.bit st) := by
  induction levels with
  | nil =>
    intro cells st h
    rwa [List.map_nil, List.append_nil]
  | cons p levels ih =>
    intro cells st h
    have hrest := ih _ _ (h.bit p)
    rwa [List.append_assoc] at hrest

theorem masterBits (h : InFrame cells st) (bits : List Bool) :
    InFrame (cells ++ masterBits bits) (bits.foldl FrameState.bit st) := by
  have hbits := InFrame.bits (bits.map fun bit => (bit, true)) cells st h
  rw [List.map_map, List.map_map] at hbits
  have hline : ((fun p : Bool × Bool => p.1 && p.2) ∘ fun bit => (bit, true)) = id :=
    funext fun bit => Bool.and_true bit
  rwa [hline, List.map_id] at hbits

theorem slaveBits (h : InFrame cells st) (bits : List Bool) :
    InFrame (cells ++ slaveBits bits) (bits.foldl FrameState.bit st) := by
  have hbits := InFrame.bits (bits.map fun bit => (true, bit)) cells st h
  rw [List.map_map, List.map_map] at hbits
  have hline : ((fun p : Bool × Bool => p.1 && p.2) ∘ fun bit => (true, bit)) = id :=
    funext fun bit => Bool.true_and bit
  rwa [hline, List.map_id] at hbits

end InFrame

namespace FrameState

theorem foldBits (bits : List Bool) : ∀ st : FrameState, st.position + bits.length ≤ 7 →
    bits.foldl bit st = { st with position := st.position + bits.length } := by
  induction bits with
  | nil => exact fun _ _ => rfl
  | cons b bits ih =>
    intro st hle
    rw [List.length_cons] at hle
    have hstep : st.bit b = { st with position := st.position + 1 } := by
      unfold bit
      rw [if_neg (by omega), if_neg (fun hlast => by omega)]
    rw [List.foldl_cons, hstep, ih _ (show st.position + 1 + bits.length ≤ 7 by omega),
      List.length_cons, Nat.add_assoc, Nat.add_comm 1]

/-- Eight bits leave the acknowledgement open, and the eighth of an address is the direction. -/
theorem foldByte (st : FrameState) (hposition : st.position = 0) (value : UInt8) :
    (byteBits value).foldl bit st = { st with
      reading := if st.first then value.toNat.testBit 0 else st.reading
      position := 8 } := by
  have hseven := foldBits ((List.range 7).map fun index => value.toNat.testBit (7 - index)) st
    (by simp [hposition])
  rw [byteBits, List.range_succ, List.map_append, List.foldl_append, hseven]
  obtain ⟨first, reading, acked, position⟩ := st
  cases hposition
  cases first <;> rfl

end FrameState

namespace InFrame

variable {cells : List BusCell} {st : FrameState}

theorem writtenByte (h : InFrame cells st) (hposition : st.position = 0) (value : UInt8) :
    InFrame (cells ++ writtenByte value) { st with
      first := false
      reading := if st.first then value.toNat.testBit 0 else st.reading
      acked := true } := by
  have hbits := (h.masterBits (byteBits value)).bit (true, false)
  rw [FrameState.foldByte st hposition, List.append_assoc] at hbits
  obtain ⟨first, reading, acked, position⟩ := st
  cases hposition
  exact hbits

theorem readCells (h : InFrame cells st) (hposition : st.position = 0) (hfirst : st.first = false)
    (value : UInt8) (ack : Bool) :
    InFrame (cells ++ readCells value ack) { st with acked := ack } := by
  have hbits := (h.slaveBits (byteBits value)).bit (!ack, true)
  rw [FrameState.foldByte st hposition, List.append_assoc] at hbits
  obtain ⟨first, reading, acked, position⟩ := st
  cases hposition
  cases hfirst
  cases ack <;> exact hbits

end InFrame

namespace I2cAdapter

variable {cells : List BusCell} {m v : Bool} {w : I2cWorld} {st : FrameState} {startedUs : Int}

/-- The bits of a byte, in an address or in the data of a write. -/
theorem writeBits_ok (left : Nat) : ∀ (value : UInt8) (s : I2cState I2cBus) (cells : List BusCell)
    (m : Bool) (st : FrameState), Low cells m s.env → InFrame cells st → st.position + left = 8 →
    (st.first || !st.reading) = true →
    slaveLegal (writeBits w.hal startedUs left value s).2.env.trace = true →
    (writeBits w.hal startedUs left value s).1 = .ok →
    ∃ m', Low (cells ++ masterBits (shiftBits left value)) m'
      (writeBits w.hal startedUs left value s).2.env := by
  induction left with
  | zero =>
    intro value s cells m st h _ _ _ _ _
    exact ⟨m, by rwa [shiftBits, masterBits, List.map_nil, List.append_nil]⟩
  | succ left ih =>
    intro value s cells m st h hst hposition hwriting hlegal hok
    unfold writeBits at hlegal hok ⊢
    simp only [outputSda_eq] at hlegal hok ⊢
    split at hok
    · rename_i hfailed
      exact absurd hok hfailed
    · rename_i hraised
      rw [if_neg hraised] at hlegal ⊢
      have hlowered := (writeBits_steps w.hal startedUs left _ _).legal hlegal
      have hpulse := (lowerScl_steps w.hal _).legal hlowered
      have hlevel := (raiseScl_steps w.hal startedUs _).legal hpulse
      have hturn : st.slaveTurn = false := by
        unfold FrameState.slaveTurn
        rw [if_pos hwriting]
        exact beq_eq_false_iff_ne.mpr (by omega)
      obtain ⟨v, hhigh⟩ := raiseScl_ok (h.setSda _ hlevel) hpulse (not_not.mp hraised)
      cases hhigh.turn hst hpulse hturn
      have hnext : (st.bit ((value &&& 0x80 != 0) && true)).position + left = 8 ∧ (left = 0 ∨
          ((st.bit ((value &&& 0x80 != 0) && true)).first ||
            !(st.bit ((value &&& 0x80 != 0) && true)).reading) = true) := by
        unfold FrameState.bit
        rw [if_neg (show st.position ≠ 8 by omega)]
        split
        · rename_i hlast
          exact ⟨show 8 + left = 8 by omega, Or.inl (by omega)⟩
        · exact ⟨show st.position + 1 + left = 8 by omega, Or.inr hwriting⟩
      rcases hnext.2 with rfl | hwriting'
      · exact ⟨_, lowerScl_high hhigh hlowered⟩
      · obtain ⟨m', hlow⟩ := ih _ _ _ _ _ (lowerScl_high hhigh hlowered)
          (hst.bit ((value &&& 0x80 != 0), true)) hnext.1 hwriting' hlegal hok
        refine ⟨m', ?_⟩
        rwa [List.append_assoc] at hlow

theorem writeByte_ok {value : UInt8} {s : I2cState I2cBus} (h : Low cells m s.env)
    (hst : InFrame cells st) (hposition : st.position = 0) (hwriting : (st.first || !st.reading) = true)
    (hlegal : slaveLegal (writeByte w.hal value startedUs s).2.env.trace = true)
    (hok : (writeByte w.hal value startedUs s).1 = .ok) :
    ∃ m', Low (cells ++ writtenByte value) m' (writeByte w.hal value startedUs s).2.env := by
  unfold writeByte at hlegal hok ⊢
  simp only at hlegal hok ⊢
  split at hok
  · rename_i hfailed
    exact absurd hok hfailed
  · rename_i hwritten
    rw [if_neg hwritten] at hlegal ⊢
    split at hok
    · rename_i hfailed
      exact absurd hok hfailed
    · rename_i hraised
      rw [if_neg hraised] at hlegal ⊢
      have hsampled := (lowerScl_steps w.hal _).legal hlegal
      have hpulse := (Steps.sampleSda _).legal hsampled
      have hlevel := (raiseScl_steps w.hal startedUs _).legal hpulse
      have hbits := (Steps.setSda true _).legal hlevel
      obtain ⟨m', hlow⟩ := writeBits_ok 8 value s cells m st h hst (by omega) hwriting hbits
        (not_not.mp hwritten)
      obtain ⟨v, hhigh⟩ := raiseScl_ok (hlow.setSda true hlevel) hpulse (not_not.mp hraised)
      have hsda : (sampleSda w.hal (raiseScl w.hal startedUs (releaseSda w.hal
          (writeBits w.hal startedUs 8 value s).2)).2).1 = v := by
        exact hhigh.sda_eq.trans (Bool.true_and v)
      rw [hsda] at hok
      cases v with
      | true => cases hok
      | false =>
        refine ⟨true, ?_⟩
        have hend := lowerScl_high (hhigh.stay hsampled) hlegal
        rw [shiftBits_eq 8 value (Nat.le_refl _), List.append_assoc] at hend
        exact hend

/-- The bits of a byte that the slave sends are those the master shifts in. -/
theorem readBits_ok (left : Nat) : ∀ (value : UInt8) (s : I2cState I2cBus) (cells : List BusCell),
    Low cells true s.env →
    slaveLegal (readBits w.hal startedUs left value s).2.env.trace = true →
    (readBits w.hal startedUs left value s).1.1 = .ok →
    ∃ bits, bits.length = left ∧
      (readBits w.hal startedUs left value s).1.2 = packBits value bits ∧
      Low (cells ++ slaveBits bits) true (readBits w.hal startedUs left value s).2.env := by
  induction left with
  | zero =>
    intro value s cells h _ _
    exact ⟨[], rfl, rfl, by rwa [slaveBits, List.map_nil, List.append_nil]⟩
  | succ left ih =>
    intro value s cells h hlegal hok
    unfold readBits at hlegal hok ⊢
    simp only at hlegal hok ⊢
    split at hok
    · rename_i hfailed
      exact absurd hok hfailed
    · rename_i hraised
      rw [if_neg hraised] at hlegal ⊢
      have hlowered := (readBits_steps w.hal startedUs left _ _).legal hlegal
      have hsampled := (lowerScl_steps w.hal _).legal hlowered
      have hpulse := (Steps.sampleSda _).legal hsampled
      obtain ⟨v, hhigh⟩ := raiseScl_ok h hpulse (not_not.mp hraised)
      have hsda : (sampleSda w.hal (raiseScl w.hal startedUs s).2).1 = v :=
        hhigh.sda_eq.trans (Bool.true_and v)
      rw [hsda] at hlegal hok ⊢
      obtain ⟨bits, hlength, hvalue, hlow⟩ :=
        ih _ _ _ (lowerScl_high (hhigh.stay hsampled) hlowered) hlegal hok
      refine ⟨v :: bits, congrArg (· + 1) hlength, hvalue, ?_⟩
      rwa [List.append_assoc] at hlow

theorem readByte_ok {ack : Bool} {s : I2cState I2cBus} (h : Low cells m s.env)
    (hst : InFrame cells st) (hposition : st.position = 0) (hfirst : st.first = false)
    (hreading : st.reading = true)
    (hlegal : slaveLegal (readByte w.hal ack startedUs s).2.env.trace = true)
    (hok : (readByte w.hal ack startedUs s).1.1 = .ok) :
    ∃ value, (readByte w.hal ack startedUs s).1.2 = some value ∧
      Low (cells ++ readCells value ack) true (readByte w.hal ack startedUs s).2.env := by
  unfold readByte at hlegal hok ⊢
  simp only [outputSda_eq] at hlegal hok ⊢
  split at hok
  · rename_i hfailed
    exact absurd hok hfailed
  · rename_i hread
    rw [if_neg hread] at hlegal ⊢
    split at hok
    · rename_i hfailed
      exact absurd hok hfailed
    · rename_i hraised
      rw [if_neg hraised] at hlegal ⊢
      have hlowered := (Steps.setSda true _).legal hlegal
      have hpulse := (lowerScl_steps w.hal _).legal hlowered
      have hlevel := (raiseScl_steps w.hal startedUs _).legal hpulse
      have hbits := (Steps.setSda (!ack) _).legal hlevel
      have hreleased := (readBits_steps w.hal startedUs 8 _ _).legal hbits
      obtain ⟨bits, hlength, hvalue, hlow⟩ := readBits_ok 8 0 _ cells (h.setSda true hreleased) hbits
        (not_not.mp hread)
      refine ⟨_, rfl, ?_⟩
      rw [hvalue]
      obtain ⟨v, hhigh⟩ := raiseScl_ok (hlow.setSda (!ack) hlevel) hpulse (not_not.mp hraised)
      have hcells : slaveBits bits = slaveBits (byteBits (packBits 0 bits)) := by
        rw [byteBits_packBits hlength]
      rw [hcells] at hhigh
      have hturn : ((byteBits (packBits 0 bits)).foldl FrameState.bit st).slaveTurn = false := by
        rw [FrameState.foldByte st hposition]
        simp [FrameState.slaveTurn, hfirst, hreading]
      cases hhigh.turn (hst.slaveBits _) hpulse hturn
      have hend := (lowerScl_high hhigh hlowered).setSda true hlegal
      rw [List.append_assoc] at hend
      exact hend

theorem noteAckPhase_env (phase : I2cPhase) (status : I2cStatus) (s : I2cState I2cBus) :
    (noteAckPhase phase status s).env = s.env := rfl

theorem writeByteObserved_ok {value : UInt8} {phase : I2cPhase} {s : I2cState I2cBus}
    (h : Low cells m s.env) (hst : InFrame cells st) (hposition : st.position = 0)
    (hwriting : (st.first || !st.reading) = true)
    (hlegal : slaveLegal (writeByteObserved w.hal value startedUs phase s).2.env.trace = true)
    (hok : (writeByteObserved w.hal value startedUs phase s).1 = .ok) :
    ∃ m', Low (cells ++ writtenByte value) m'
      (writeByteObserved w.hal value startedUs phase s).2.env := by
  have henv : (writeByteObserved w.hal value startedUs phase s).2.env =
      (writeByte w.hal value startedUs s).2.env :=
    noteAckPhase_env phase _ _
  rw [henv] at hlegal ⊢
  exact writeByte_ok h hst hposition hwriting hlegal hok

theorem writePayload_ok (data : List UInt8) : ∀ (s : I2cState I2cBus) (cells : List BusCell)
    (m : Bool), Low cells m s.env → InFrame cells { first := false } →
    slaveLegal (writePayload w.hal startedUs data s).2.env.trace = true →
    (writePayload w.hal startedUs data s).1 = .ok →
    ∃ m', Low (cells ++ data.flatMap writtenByte) m' (writePayload w.hal startedUs data s).2.env := by
  induction data with
  | nil =>
    intro s cells m h _ _ _
    exact ⟨m, by rwa [List.flatMap_nil, List.append_nil]⟩
  | cons value data ih =>
    intro s cells m h hst hlegal hok
    unfold writePayload at hlegal hok ⊢
    simp only at hlegal hok ⊢
    split at hok
    · rename_i hfailed
      exact absurd hok hfailed
    · rename_i hwritten
      rw [if_neg hwritten] at hlegal ⊢
      obtain ⟨m', hlow⟩ := writeByteObserved_ok h hst rfl rfl
        ((writePayload_steps w.hal startedUs data _).legal hlegal) (not_not.mp hwritten)
      obtain ⟨m'', hend⟩ := ih _ _ m' hlow (hst.writtenByte rfl value) hlegal hok
      rw [List.append_assoc, ← List.flatMap_cons] at hend
      exact ⟨m'', hend⟩

theorem readPayload_ok (left : Nat) : ∀ (s : I2cState I2cBus) (cells : List BusCell) (m : Bool),
    Low cells m s.env → InFrame cells { first := false, reading := true } →
    slaveLegal (readPayload w.hal startedUs left s).2.env.trace = true →
    (readPayload w.hal startedUs left s).1.1 = .ok →
    (readPayload w.hal startedUs left s).1.2.length = left ∧
      ∃ m', Low (cells ++ readAllCells (readPayload w.hal startedUs left s).1.2) m'
        (readPayload w.hal startedUs left s).2.env := by
  induction left with
  | zero =>
    intro s cells m h _ _ _
    refine ⟨rfl, m, ?_⟩
    change Low (cells ++ []) m s.env
    rwa [List.append_nil]
  | succ left ih =>
    intro s cells m h hst hlegal hok
    unfold readPayload at hlegal hok ⊢
    simp only at hlegal hok ⊢
    split at hok
    · rename_i hfailed
      exact absurd hok hfailed
    · rename_i hread
      rw [if_neg hread] at hlegal ⊢
      obtain ⟨value, hvalue, hlow⟩ := readByte_ok h hst rfl rfl rfl
        ((readPayload_steps w.hal startedUs left _).legal hlegal) (not_not.mp hread)
      rw [hvalue]
      cases left with
      | zero => exact ⟨rfl, true, hlow⟩
      | succ left =>
        obtain ⟨hlength, m', hend⟩ := ih _ _ true hlow (hst.readCells rfl rfl value true) hlegal hok
        generalize readPayload w.hal startedUs (left + 1)
          (readByte w.hal (decide (0 < left + 1)) startedUs s).2 = rest at *
        obtain ⟨⟨status, filled⟩, t⟩ := rest
        cases filled with
        | nil => cases hlength
        | cons next filled =>
          refine ⟨congrArg (· + 1) hlength, m', ?_⟩
          rw [List.append_assoc] at hend
          exact hend

end I2cAdapter

end EventFramework
