import EventFramework.Adapters.IrqAdapter
import EventFramework.Library.Machine
import EventFramework.Library.RingWindow

/-!
# The samples of the interrupt ring

The words that the interrupt routine stores are a queue, of which the first word may be decoded in
part. What is owed to the runtime is the lines of every stored word, each once and in order.
-/

namespace EventFramework
set_option autoImplicit false

namespace IrqLineConfig

def idsOf (lines : List IrqLineConfig) (word : UInt32) : List UInt8 :=
  (lines.filter fun line => line.isIn word).map lineId

def bitOf (mask : UInt32) (gpioNum : UInt8) : Bool := mask.toBitVec.getLsbD gpioNum.toNat

theorem gpioMask_toBitVec {line : IrqLineConfig} (h : line.gpioNum ≤ 15) :
    line.gpioMask.toBitVec = BitMask.bit 32 line.gpioNum.toNat := by
  have hall : ∀ n, n < 16 →
      ((1 : UInt32) <<< (UInt8.ofNat n).toUInt32).toBitVec = BitMask.bit 32 n := by decide
  have hline := hall line.gpioNum.toNat (Nat.lt_succ_of_le (UInt8.le_iff_toNat_le.mp h))
  rwa [UInt8.ofNat_toNat] at hline

theorem gpioNum_lt {line : IrqLineConfig} (h : line.gpioNum ≤ 15) : line.gpioNum.toNat < 32 :=
  Nat.lt_of_le_of_lt (UInt8.le_iff_toNat_le.mp h) (by decide)

theorem isIn_eq {line : IrqLineConfig} (h : line.gpioNum ≤ 15) (mask : UInt32) :
    line.isIn mask = bitOf mask line.gpioNum := by
  have hbit := BitMask.and_bit_ne_zero (gpioNum_lt h) mask.toBitVec
  rw [← gpioMask_toBitVec h, ← UInt32.toBitVec_and] at hbit
  rw [Bool.eq_iff_iff, isIn, decide_eq_true_iff, bitOf, ← hbit, not_iff_not]
  exact UInt32.toBitVec_inj.symm

theorem bitOf_and (mask other : UInt32) (gpioNum : UInt8) :
    bitOf (mask &&& other) gpioNum = (bitOf mask gpioNum && bitOf other gpioNum) := by
  rw [bitOf, UInt32.toBitVec_and, BitVec.getLsbD_and]
  rfl

theorem bitOf_or_gpioMask {line : IrqLineConfig} (h : line.gpioNum ≤ 15) (mask : UInt32)
    (gpioNum : UInt8) :
    bitOf (mask ||| line.gpioMask) gpioNum = (decide (line.gpioNum = gpioNum) || bitOf mask gpioNum) := by
  rw [bitOf, UInt32.toBitVec_or, gpioMask_toBitVec h, BitMask.getLsbD_or_bit (gpioNum_lt h)]
  simp only [UInt8.toNat_inj]
  rfl

theorem bitOf_clear_gpioMask {line : IrqLineConfig} (h : line.gpioNum ≤ 15) (mask : UInt32)
    (gpioNum : UInt8) :
    bitOf (mask &&& ~~~line.gpioMask) gpioNum =
      (!decide (line.gpioNum = gpioNum) && bitOf mask gpioNum) := by
  rw [bitOf, UInt32.toBitVec_and, UInt32.toBitVec_not, gpioMask_toBitVec h,
    BitMask.getLsbD_clear_bit (gpioNum_lt h)]
  simp only [UInt8.toNat_inj]
  rfl

theorem bitOf_zero (gpioNum : UInt8) : bitOf 0 gpioNum = false := BitVec.getLsbD_zero

theorem allValid_cons {line : IrqLineConfig} {rest : List IrqLineConfig}
    (h : allValid (line :: rest) = true) :
    line.gpioNum ≤ 15 ∧ (∀ other ∈ rest, line.gpioNum ≠ other.gpioNum ∧ line.lineId ≠ other.lineId) ∧
      allValid rest = true := by
  simp only [allValid, isValid, apart, Bool.and_eq_true, decide_eq_true_eq, List.all_eq_true,
    Bool.not_eq_true', Bool.or_eq_false_iff, beq_eq_false_iff_ne] at h
  exact ⟨h.1.1.1.1, fun other hmem => ⟨(h.1.2 other hmem).2, (h.1.2 other hmem).1⟩, h.2⟩

theorem allValid_mem {lines : List IrqLineConfig} (h : allValid lines = true) :
    ∀ line ∈ lines, line.gpioNum ≤ 15 := by
  induction lines with
  | nil => exact fun line hmem => absurd hmem List.not_mem_nil
  | cons first rest ih =>
    intro line hmem
    obtain ⟨hfirst, _, hrest⟩ := allValid_cons h
    rcases List.mem_cons.mp hmem with rfl | hmem
    · exact hfirst
    · exact ih hrest line hmem

theorem bitOf_linesMask {lines : List IrqLineConfig} (h : allValid lines = true) (gpioNum : UInt8) :
    ∀ mask : UInt32,
      bitOf (lines.foldl (fun mask line => mask ||| line.gpioMask) mask) gpioNum =
        (bitOf mask gpioNum || lines.any fun line => line.gpioNum == gpioNum) := by
  induction lines with
  | nil => exact fun mask => (Bool.or_false _).symm
  | cons line rest ih =>
    intro mask
    obtain ⟨hline, _, hrest⟩ := allValid_cons h
    rw [List.foldl_cons, ih hrest, bitOf_or_gpioMask hline, List.any_cons, Bool.or_comm (decide _),
      Bool.or_assoc]
    rfl

/-- A word of the bits of the lines has a line. -/
theorem exists_isIn {lines : List IrqLineConfig} (h : allValid lines = true) {word : UInt32}
    (hword : word &&& irqLinesMask lines = word) (hne : word ≠ 0) :
    ∃ line ∈ lines, line.isIn word = true := by
  by_contra hnone
  apply hne
  rw [← UInt32.toBitVec_inj]
  apply (BitMask.eq_zero_iff _).mpr
  intro i
  by_contra hbit
  rw [Bool.not_eq_false] at hbit
  have hlt : i < 32 := BitVec.lt_of_getLsbD hbit
  have hsame : (UInt8.ofNat i).toNat = i := by
    rw [UInt8.toNat_ofNat']
    omega
  have hset : bitOf word (UInt8.ofNat i) = true := by
    rw [bitOf, hsame]
    exact hbit
  have hlines := hset
  rw [← hword, bitOf_and, irqLinesMask, bitOf_linesMask h, bitOf_zero, Bool.false_or,
    Bool.and_eq_true] at hlines
  obtain ⟨line, hmem, hline⟩ := List.any_eq_true.mp hlines.2
  apply hnone
  refine ⟨line, hmem, ?_⟩
  rw [isIn_eq (allValid_mem h line hmem), eq_of_beq hline]
  exact hset

theorem filter_clear {lines : List IrqLineConfig} {line : IrqLineConfig} {word : UInt32}
    (h : allValid lines = true) (hfind : lines.find? (fun line => line.isIn word) = some line) :
    lines.filter (fun line => line.isIn word) =
      line :: lines.filter fun other => other.isIn (word &&& ~~~line.gpioMask) := by
  induction lines with
  | nil => cases hfind
  | cons first rest ih =>
    obtain ⟨hfirst, hapart, hrest⟩ := allValid_cons h
    by_cases hin : first.isIn word = true
    · simp only [List.find?_cons, hin] at hfind
      obtain rfl := Option.some.inj hfind
      have hgone : ¬first.isIn (word &&& ~~~first.gpioMask) = true := by
        rw [isIn_eq hfirst, bitOf_clear_gpioMask hfirst]
        simp
      rw [List.filter_cons, if_pos hin, List.filter_cons, if_neg hgone]
      congr 1
      apply List.filter_congr
      intro other hmem
      have hother := allValid_mem hrest other hmem
      rw [isIn_eq hother, isIn_eq hother, bitOf_clear_gpioMask hfirst,
        decide_eq_false (hapart other hmem).1]
      rfl
    · simp only [List.find?_cons, Bool.eq_false_iff.mpr hin] at hfind
      have hmem := List.mem_of_find?_eq_some hfind
      have hline := allValid_mem hrest line hmem
      have hout : ¬first.isIn (word &&& ~~~line.gpioMask) = true := by
        rw [isIn_eq hfirst, bitOf_clear_gpioMask hline, ← isIn_eq hfirst, Bool.eq_false_iff.mpr hin,
          Bool.and_false]
        exact Bool.false_ne_true
      rw [List.filter_cons, if_neg hin, List.filter_cons, if_neg hout]
      exact ih hrest hfind

end IrqLineConfig

namespace IrqAdapter

def queued (adapter : IrqAdapter) : List UInt32 :=
  RingWindow.window adapter.ring 64 (adapter.readSeq.toNat % 64)
    (adapter.writeSeq - adapter.readSeq).toNat

/-- The ring is not over-full, and nothing is decoded or stored but bits of the lines. -/
structure Ringed (adapter : IrqAdapter) : Prop where
  count_le : (adapter.writeSeq - adapter.readSeq).toNat ≤ 64
  words : ∀ word ∈ adapter.queued, word ≠ 0 ∧ word &&& adapter.activeGpioMask = word
  decoding : adapter.decodeStatus &&& adapter.activeGpioMask = adapter.decodeStatus

theorem index_eq (seq : UInt32) : (seq &&& irqRingMask).toNat = seq.toNat % 64 := by
  rw [UInt32.toNat_and]
  exact Nat.and_two_pow_sub_one_eq_mod seq.toNat 6

theorem allLinesValid (adapter : IrqAdapter) : IrqLineConfig.allValid adapter.lines = true := by
  have hvalid := adapter.valid
  rw [irqLineConfigsAreValid, Bool.and_eq_true] at hvalid
  exact hvalid.2

theorem active_lines {adapter : IrqAdapter} {word : UInt32}
    (h : word &&& adapter.activeGpioMask = word) : word &&& irqLinesMask adapter.lines = word := by
  rwa [adapter.active_eq] at h

theorem queued_length (adapter : IrqAdapter) :
    adapter.queued.length = (adapter.writeSeq - adapter.readSeq).toNat :=
  RingWindow.window_length ..

theorem pushIsr_room {adapter : IrqAdapter} (word : UInt32) (hne : word ≠ 0)
    (hroom : (adapter.writeSeq - adapter.readSeq).toNat < 64) :
    (adapter.pushIsr word).queued = adapter.queued ++ [word] ∧
      (adapter.pushIsr word).writeSeq = adapter.writeSeq + 1 ∧
      (adapter.pushIsr word).readSeq = adapter.readSeq ∧
      (adapter.pushIsr word).decodeStatus = adapter.decodeStatus ∧
      (adapter.pushIsr word).lines = adapter.lines ∧
      (adapter.pushIsr word).activeGpioMask = adapter.activeGpioMask ∧
      (adapter.pushIsr word).droppedSamples = adapter.droppedSamples := by
  have hlt : adapter.writeSeq - adapter.readSeq < irqRingCapacity := UInt32.lt_iff_toNat_lt.mpr hroom
  unfold pushIsr
  rw [if_neg hne, if_pos hlt]
  refine ⟨?_, rfl, rfl, rfl, rfl, rfl, rfl⟩
  unfold queued
  simp only
  have hindex : (adapter.writeSeq &&& irqRingMask).toNat =
      RingWindow.cell 64 (adapter.readSeq.toNat % 64) (adapter.writeSeq - adapter.readSeq).toNat := by
    have hwrite := adapter.writeSeq.toNat_lt
    have hread := adapter.readSeq.toNat_lt
    rw [index_eq, RingWindow.cell, UInt32.toNat_sub]
    omega
  have hcount : (adapter.writeSeq + 1 - adapter.readSeq).toNat =
      (adapter.writeSeq - adapter.readSeq).toNat + 1 := by
    have hwrite := adapter.writeSeq.toNat_lt
    have hread := adapter.readSeq.toNat_lt
    rw [UInt32.toNat_sub] at hroom ⊢
    rw [UInt32.toNat_sub, UInt32.toNat_add, show (1 : UInt32).toNat = 1 from rfl]
    omega
  rw [hindex, hcount]
  exact RingWindow.window_push adapter.ring word hroom

theorem pushIsr_full {adapter : IrqAdapter} (word : UInt32) (hne : word ≠ 0)
    (hfull : ¬(adapter.writeSeq - adapter.readSeq).toNat < 64) :
    adapter.pushIsr word = { adapter with droppedSamples := adapter.droppedSamples + 1 } := by
  have hge : ¬adapter.writeSeq - adapter.readSeq < irqRingCapacity := fun h =>
    hfull (UInt32.lt_iff_toNat_lt.mp h)
  rw [pushIsr, if_neg hne, if_neg hge]

theorem queued_nil {adapter : IrqAdapter} (h : adapter.readSeq = adapter.writeSeq) :
    adapter.queued = [] := by
  rw [← List.length_eq_zero_iff, queued_length, h, UInt32.sub_self]
  rfl

/-- What the runtime has to get yet. -/
def outstanding (adapter : IrqAdapter) : List UInt8 :=
  IrqLineConfig.idsOf adapter.lines adapter.decodeStatus ++
    adapter.queued.flatMap (IrqLineConfig.idsOf adapter.lines)

theorem idsOf_eq_nil {adapter : IrqAdapter} {word : UInt32}
    (h : word &&& adapter.activeGpioMask = word) :
    IrqLineConfig.idsOf adapter.lines word = [] ↔ word = 0 := by
  rw [IrqLineConfig.idsOf, List.map_eq_nil_iff, List.filter_eq_nil_iff]
  constructor
  · intro hnone
    by_contra hne
    obtain ⟨line, hmem, hin⟩ :=
      IrqLineConfig.exists_isIn adapter.allLinesValid (active_lines h) hne
    exact hnone line hmem hin
  · rintro rfl line hmem
    rw [IrqLineConfig.isIn_eq (IrqLineConfig.allValid_mem adapter.allLinesValid line hmem),
      IrqLineConfig.bitOf_zero]
    exact Bool.false_ne_true

/-- Decoding a word that is not over gives its first line. -/
theorem decodeLine_spec {adapter : IrqAdapter} (h : adapter.Ringed) (hne : adapter.decodeStatus ≠ 0)
    (level : UInt8 → Bool) (timestampUs : UInt32) :
    ∃ sample, (adapter.decodeLine level timestampUs).1 = .ok sample ∧
      IrqLineConfig.idsOf adapter.lines adapter.decodeStatus = sample.lineId ::
        IrqLineConfig.idsOf adapter.lines (adapter.decodeLine level timestampUs).2.decodeStatus ∧
      (adapter.decodeLine level timestampUs).2.queued = adapter.queued ∧
      (adapter.decodeLine level timestampUs).2.lines = adapter.lines ∧
      (adapter.decodeLine level timestampUs).2.Ringed := by
  obtain ⟨line, hmem, hin⟩ :=
    IrqLineConfig.exists_isIn adapter.allLinesValid (active_lines h.decoding) hne
  have hsome : adapter.selectLine.isSome = true := List.find?_isSome.mpr ⟨line, hmem, hin⟩
  obtain ⟨first, hfirst⟩ := Option.isSome_iff_exists.mp hsome
  unfold decodeLine
  rw [hfirst]
  refine ⟨_, rfl, ?_, rfl, rfl, h.count_le, h.words, ?_⟩
  · rw [IrqLineConfig.idsOf, IrqLineConfig.filter_clear adapter.allLinesValid hfirst, List.map_cons]
    rfl
  · simp only
    rw [UInt32.and_assoc, UInt32.and_comm (~~~first.gpioMask), ← UInt32.and_assoc, h.decoding]

def taken (adapter : IrqAdapter) : IrqAdapter :=
  { adapter with
    decodeStatus := adapter.ring (adapter.readSeq &&& irqRingMask).toNat &&& adapter.activeGpioMask
    readSeq := adapter.readSeq + 1 }

theorem taken_spec {adapter : IrqAdapter} (h : adapter.Ringed)
    (hne : adapter.readSeq ≠ adapter.writeSeq) :
    adapter.queued = adapter.taken.decodeStatus :: adapter.taken.queued ∧
      adapter.taken.decodeStatus ≠ 0 ∧ adapter.taken.Ringed := by
  have hwrite := adapter.writeSeq.toNat_lt
  have hread := adapter.readSeq.toNat_lt
  have hdiffer : adapter.readSeq.toNat ≠ adapter.writeSeq.toNat := fun heq =>
    hne (UInt32.toNat_inj.mp heq)
  have hcount : (adapter.writeSeq - adapter.readSeq).toNat =
      (adapter.writeSeq - (adapter.readSeq + 1)).toNat + 1 := by
    rw [UInt32.toNat_sub, UInt32.toNat_sub, UInt32.toNat_add, show (1 : UInt32).toNat = 1 from rfl]
    omega
  have hhead : (adapter.readSeq + 1).toNat % 64 =
      RingWindow.cell 64 (adapter.readSeq.toNat % 64) 1 := by
    rw [RingWindow.cell, UInt32.toNat_add, show (1 : UInt32).toNat = 1 from rfl]
    omega
  have hqueued : adapter.queued =
      adapter.ring (adapter.readSeq.toNat % 64) :: adapter.taken.queued := by
    unfold queued taken
    simp only
    rw [hcount, hhead]
    exact RingWindow.window_cons adapter.ring (Nat.mod_lt _ (by decide)) _
  have hword := h.words (adapter.ring (adapter.readSeq.toNat % 64)) (by
    rw [hqueued]
    exact List.mem_cons_self)
  have hdecode : adapter.taken.decodeStatus = adapter.ring (adapter.readSeq.toNat % 64) := by
    unfold taken
    simp only
    rw [index_eq, hword.2]
  refine ⟨by rw [hdecode, ← hqueued], by rw [hdecode]; exact hword.1, ?_, ?_, ?_⟩
  · have hle := h.count_le
    rw [hcount] at hle
    exact Nat.le_of_succ_le hle
  · intro word hmem
    apply h.words
    rw [hqueued]
    exact List.mem_cons_of_mem _ hmem
  · rw [hdecode]
    exact hword.2

/-- A pop finds nothing when nothing is owed, and gives what is owed next otherwise. -/
theorem pop_spec {adapter : IrqAdapter} (h : adapter.Ringed) (level : UInt8 → Bool)
    (timestampUs : UInt32) :
    (adapter.pop level timestampUs = (.error .errEmpty, adapter) ∧ adapter.decodeStatus = 0 ∧
        adapter.queued = []) ∨
      ∃ sample words, (adapter.pop level timestampUs).1 = .ok sample ∧
        adapter.queued = words ++ (adapter.pop level timestampUs).2.queued ∧
        IrqLineConfig.idsOf adapter.lines adapter.decodeStatus ++
            words.flatMap (IrqLineConfig.idsOf adapter.lines) =
          sample.lineId :: IrqLineConfig.idsOf adapter.lines
            (adapter.pop level timestampUs).2.decodeStatus ∧
        (adapter.pop level timestampUs).2.lines = adapter.lines ∧
        (adapter.pop level timestampUs).2.Ringed := by
  by_cases hidle : adapter.decodeStatus = 0
  · by_cases hempty : adapter.readSeq = adapter.writeSeq
    · exact Or.inl ⟨by rw [pop, if_pos hidle, if_pos hempty], hidle, queued_nil hempty⟩
    · have hpop : adapter.pop level timestampUs = adapter.taken.decodeLine level timestampUs := by
        rw [pop, if_pos hidle, if_neg hempty]
        rfl
      obtain ⟨hqueued, hne, htaken⟩ := taken_spec h hempty
      obtain ⟨sample, hok, hids, hsame, hlines, hringed⟩ :=
        decodeLine_spec htaken hne level timestampUs
      rw [hpop]
      refine Or.inr ⟨sample, [adapter.taken.decodeStatus], hok, ?_, ?_, hlines, hringed⟩
      · rw [hsame]
        exact hqueued
      · rw [(idsOf_eq_nil h.decoding).mpr hidle, List.flatMap_singleton, List.nil_append]
        exact hids
  · have hpop : adapter.pop level timestampUs = adapter.decodeLine level timestampUs := by
      rw [pop, if_neg hidle]
    obtain ⟨sample, hok, hids, hsame, hlines, hringed⟩ := decodeLine_spec h hidle level timestampUs
    rw [hpop]
    refine Or.inr ⟨sample, [], hok, hsame.symm, ?_, hlines, hringed⟩
    rw [List.flatMap_nil, List.append_nil]
    exact hids

theorem outstanding_eq_nil {adapter : IrqAdapter} (h : adapter.Ringed) :
    adapter.outstanding = [] ↔ adapter.decodeStatus = 0 ∧ adapter.queued = [] := by
  rw [outstanding, List.append_eq_nil_iff, idsOf_eq_nil h.decoding]
  refine and_congr_right fun _ => ?_
  rw [List.flatMap_eq_nil_iff]
  constructor
  · intro hnone
    rw [List.eq_nil_iff_forall_not_mem]
    intro word hmem
    obtain ⟨hne, hactive⟩ := h.words word hmem
    exact hne ((idsOf_eq_nil hactive).mp (hnone word hmem))
  · intro hnil word hmem
    rw [hnil] at hmem
    exact absurd hmem List.not_mem_nil

theorem pop_outstanding {adapter : IrqAdapter} (h : adapter.Ringed) (level : UInt8 → Bool)
    (timestampUs : UInt32) :
    (adapter.outstanding = [] → (adapter.pop level timestampUs).1 = .error .errEmpty) ∧
      (adapter.outstanding ≠ [] → ∃ sample rest,
        (adapter.pop level timestampUs).1 = .ok sample ∧
          adapter.outstanding = sample.lineId :: rest) := by
  rcases pop_spec h level timestampUs with ⟨hpop, hidle⟩ | ⟨sample, words, hok, hqueued, hids, _⟩
  · refine ⟨fun _ => by rw [hpop], fun hne => ?_⟩
    exact absurd ((outstanding_eq_nil h).mpr hidle) hne
  · have howed : adapter.outstanding = sample.lineId ::
        (IrqLineConfig.idsOf adapter.lines (adapter.pop level timestampUs).2.decodeStatus ++
          (adapter.pop level timestampUs).2.queued.flatMap (IrqLineConfig.idsOf adapter.lines)) := by
      rw [outstanding, hqueued, List.flatMap_append, ← List.append_assoc, hids]
      rfl
    refine ⟨fun hnil => ?_, fun _ => ⟨sample, _, hok, howed⟩⟩
    rw [howed] at hnil
    cases hnil

theorem pendingSamples_eq_zero {adapter : IrqAdapter} (h : adapter.Ringed) :
    adapter.pendingSamples = 0 ↔ adapter.decodeStatus = 0 ∧ adapter.queued = [] := by
  have hle := h.count_le
  have hlength := adapter.queued_length
  unfold pendingSamples
  generalize adapter.writeSeq - adapter.readSeq = count at hle hlength ⊢
  rw [← List.length_eq_zero_iff, hlength, ← UInt32.toNat_inj, UInt32.toNat_add]
  by_cases hidle : adapter.decodeStatus = 0
  · simp only [hidle, ne_eq, not_true_eq_false, ↓reduceIte, UInt32.toNat_zero, true_and]
    omega
  · simp only [ne_eq, hidle, not_false_eq_true, ↓reduceIte, false_and, iff_false, UInt32.toNat_one,
      UInt32.toNat_zero]
    omega

end IrqAdapter

/-- The interrupt routine runs on a status word, or the runtime pops. -/
inductive IrqStep where
  | isr (status : UInt32)
  | pop (level : UInt8 → Bool) (timestampUs : UInt32)

/-- An adapter with the words that went into its ring, those that did not, and the samples that came
out. -/
structure IrqTraffic where
  adapter : IrqAdapter
  accepted : List UInt32 := []
  dropped : List UInt32 := []
  samples : List IrqSample := []

namespace IrqTraffic

def step (traffic : IrqTraffic) : IrqStep → IrqTraffic
  | .isr status =>
    let adapter := traffic.adapter.isr status
    let word := status &&& traffic.adapter.activeGpioMask
    { traffic with
      adapter := adapter
      accepted :=
        if adapter.writeSeq ≠ traffic.adapter.writeSeq then traffic.accepted ++ [word]
        else traffic.accepted
      dropped :=
        if adapter.droppedSamples ≠ traffic.adapter.droppedSamples then traffic.dropped ++ [word]
        else traffic.dropped }
  | .pop level timestampUs =>
    let out := traffic.adapter.pop level timestampUs
    { traffic with
      adapter := out.2
      samples :=
        match out.1 with
        | .ok sample => traffic.samples ++ [sample]
        | .error _ => traffic.samples }

def owed (traffic : IrqTraffic) : List UInt8 :=
  traffic.accepted.flatMap (IrqLineConfig.idsOf traffic.adapter.lines)

def paid (traffic : IrqTraffic) : List UInt8 := traffic.samples.map IrqSample.lineId

/-- The accepted words are those decoded, of which the last one perhaps in part, and those queued. -/
structure Conserved (lines : List IrqLineConfig) (traffic : IrqTraffic) : Prop where
  ringed : traffic.adapter.Ringed
  configured : traffic.adapter.lines = lines
  split : ∃ decoded, traffic.accepted = decoded ++ traffic.adapter.queued ∧
    decoded.flatMap (IrqLineConfig.idsOf lines) =
      traffic.paid ++ IrqLineConfig.idsOf lines traffic.adapter.decodeStatus

theorem Conserved.owed_eq {lines : List IrqLineConfig} {traffic : IrqTraffic}
    (h : Conserved lines traffic) : traffic.owed = traffic.paid ++ traffic.adapter.outstanding := by
  obtain ⟨decoded, haccepted, hdecoded⟩ := h.split
  rw [owed, haccepted, h.configured, List.flatMap_append, hdecoded, IrqAdapter.outstanding,
    h.configured, List.append_assoc]

theorem fresh_conserved {lines : List IrqLineConfig} {adapter : IrqAdapter}
    (h : adapter.Fresh lines) : Conserved lines { adapter := adapter } := by
  have hnone := IrqAdapter.queued_nil h.seqs
  have hdecode : adapter.decodeStatus &&& adapter.activeGpioMask = adapter.decodeStatus := by
    rw [h.decode, UInt32.zero_and]
  refine ⟨⟨?_, ?_, hdecode⟩, h.lines, [], hnone.symm, ?_⟩
  · rw [← IrqAdapter.queued_length, hnone]
    exact Nat.zero_le _
  · intro word hmem
    rw [hnone] at hmem
    exact absurd hmem List.not_mem_nil
  · have hids := (IrqAdapter.idsOf_eq_nil hdecode).mpr h.decode
    rw [h.lines] at hids
    exact hids.symm

/-- The interrupt routine sees no line, queues the word, or drops it because 64 words are queued. -/
theorem step_isr (traffic : IrqTraffic) (status : UInt32) :
    let word := status &&& traffic.adapter.activeGpioMask
    (word = 0 ∧ traffic.step (.isr status) = traffic) ∨
      (word ≠ 0 ∧ (traffic.adapter.writeSeq - traffic.adapter.readSeq).toNat < 64 ∧
        traffic.step (.isr status) = { traffic with
          adapter := traffic.adapter.pushIsr word, accepted := traffic.accepted ++ [word] }) ∨
      (word ≠ 0 ∧ ¬(traffic.adapter.writeSeq - traffic.adapter.readSeq).toNat < 64 ∧
        traffic.step (.isr status) = { traffic with
          adapter := { traffic.adapter with droppedSamples := traffic.adapter.droppedSamples + 1 }
          dropped := traffic.dropped ++ [word] }) := by
  intro word
  have hone (seq : UInt32) : seq + 1 ≠ seq := by
    intro heq
    have hlt := seq.toNat_lt
    have hnat := congrArg UInt32.toNat heq
    rw [UInt32.toNat_add, show (1 : UInt32).toNat = 1 from rfl] at hnat
    omega
  by_cases hnone : word = 0
  · left
    have hisr : traffic.adapter.isr status = traffic.adapter := by
      rw [IrqAdapter.isr]
      exact if_pos hnone
    refine ⟨hnone, ?_⟩
    unfold step
    simp only [hisr, ne_eq, not_true_eq_false, ↓reduceIte]
  · have hisr : traffic.adapter.isr status = traffic.adapter.pushIsr word := by
      rw [IrqAdapter.isr]
      exact if_neg hnone
    right
    by_cases hroom : (traffic.adapter.writeSeq - traffic.adapter.readSeq).toNat < 64
    · left
      obtain ⟨_, hwrite, _, _, _, _, hdropped⟩ := IrqAdapter.pushIsr_room word hnone hroom
      refine ⟨hnone, hroom, ?_⟩
      unfold step
      simp only [hisr, hwrite, hdropped, ne_eq, hone, not_false_eq_true, not_true_eq_false, ↓reduceIte]
      rfl
    · right
      refine ⟨hnone, hroom, ?_⟩
      unfold step
      simp only [hisr, IrqAdapter.pushIsr_full word hnone hroom, ne_eq, hone, not_false_eq_true,
        not_true_eq_false, ↓reduceIte]
      rfl

theorem step_conserved (lines : List IrqLineConfig) (traffic : IrqTraffic) (input : IrqStep)
    (h : Conserved lines traffic) : Conserved lines (traffic.step input) := by
  obtain ⟨decoded, haccepted, hdecoded⟩ := h.split
  cases input with
  | isr status =>
    rcases step_isr traffic status with ⟨_, hstep⟩ | ⟨hne, hroom, hstep⟩ | ⟨_, _, hstep⟩
    · rw [hstep]
      exact h
    · rw [hstep]
      obtain ⟨hqueued, hwrite, hread, hdecode, hlines, hactive, _⟩ :=
        IrqAdapter.pushIsr_room _ hne hroom
      refine ⟨⟨?_, ?_, ?_⟩, hlines.trans h.configured, decoded, ?_, ?_⟩
      · rw [← IrqAdapter.queued_length, hqueued, List.length_append, IrqAdapter.queued_length]
        exact hroom
      · intro word hmem
        rw [hactive]
        rw [hqueued] at hmem
        rcases List.mem_append.mp hmem with hmem | hmem
        · exact h.ringed.words word hmem
        · rw [List.mem_singleton.mp hmem]
          exact ⟨hne, by rw [UInt32.and_assoc, UInt32.and_self]⟩
      · rw [hactive, hdecode]
        exact h.ringed.decoding
      · simp only
        rw [hqueued, haccepted, List.append_assoc]
      · simp only
        rw [hdecode]
        exact hdecoded
    · rw [hstep]
      exact ⟨⟨h.ringed.count_le, h.ringed.words, h.ringed.decoding⟩, h.configured, decoded, haccepted,
        hdecoded⟩
  | pop level timestampUs =>
    unfold step
    simp only
    rcases IrqAdapter.pop_spec h.ringed level timestampUs with
      ⟨hpop, _, _⟩ | ⟨sample, words, hok, hqueued, hids, hlines, hringed⟩
    · rw [hpop]
      exact h
    · rw [hok]
      refine ⟨hringed, hlines.trans h.configured, decoded ++ words, ?_, ?_⟩
      · simp only
        rw [haccepted, hqueued, List.append_assoc]
      · rw [h.configured] at hids
        rw [List.flatMap_append, hdecoded, List.append_assoc, hids]
        simp [paid]

end IrqTraffic

/-- Every accepted word yields one sample for each of its lines, in order, and a pop is empty just
when none is owed. A word is dropped only when 64 words are queued of which nothing is decoded. -/
theorem irq_samples_conserved (answers : IrqInitAnswers) (lines : List IrqLineConfig)
    (adapter : IrqAdapter) (h : IrqAdapter.portInit answers lines = .ok adapter)
    (steps : List IrqStep) :
    let traffic := Machine.run IrqTraffic.step { adapter := adapter } steps
    let owed := traffic.accepted.flatMap (IrqLineConfig.idsOf lines)
    let paid := traffic.samples.map IrqSample.lineId
    paid <+: owed ∧
      (∀ level timestampUs,
        (paid = owed → (traffic.adapter.pop level timestampUs).1 = .error .errEmpty) ∧
        (paid ≠ owed → ∃ sample, (traffic.adapter.pop level timestampUs).1 = .ok sample ∧
          paid ++ [sample.lineId] <+: owed)) ∧
      (traffic.adapter.pendingSamples = 0 ↔ paid = owed) ∧
      (∀ status, (traffic.step (.isr status)).dropped ≠ traffic.dropped →
        ∃ decoded queued, traffic.accepted = decoded ++ queued ∧ queued.length = 64 ∧
          paid <+: decoded.flatMap (IrqLineConfig.idsOf lines)) := by
  have hstart := IrqTraffic.fresh_conserved (IrqAdapter.portInit_fresh h)
  intro traffic owed paid
  have hconserved : IrqTraffic.Conserved lines traffic :=
    (Machine.always_of_step (IrqTraffic.step_conserved lines) hstart steps).last
  have howed : owed = paid ++ traffic.adapter.outstanding := by
    have hall := hconserved.owed_eq
    rw [IrqTraffic.owed, hconserved.configured] at hall
    exact hall
  have hpaid : paid = owed ↔ traffic.adapter.outstanding = [] := by
    rw [howed]
    exact List.self_eq_append_right
  refine ⟨⟨_, howed.symm⟩, ?_, ?_, ?_⟩
  · intro level timestampUs
    obtain ⟨hnone, hsome⟩ := IrqAdapter.pop_outstanding hconserved.ringed level timestampUs
    refine ⟨fun hall => hnone (hpaid.mp hall), fun hmore => ?_⟩
    obtain ⟨sample, rest, hok, hrest⟩ := hsome fun hnil => hmore (hpaid.mpr hnil)
    refine ⟨sample, hok, rest, ?_⟩
    rw [howed, hrest, List.append_assoc]
    rfl
  · rw [hpaid, IrqAdapter.outstanding_eq_nil hconserved.ringed]
    exact IrqAdapter.pendingSamples_eq_zero hconserved.ringed
  · intro status hdropped
    obtain ⟨decoded, haccepted, hdecoded⟩ := hconserved.split
    rcases IrqTraffic.step_isr traffic status with ⟨_, hstep⟩ | ⟨_, _, hstep⟩ | ⟨_, hfull, _⟩
    · rw [hstep] at hdropped
      exact absurd rfl hdropped
    · rw [hstep] at hdropped
      exact absurd rfl hdropped
    · have hle := hconserved.ringed.count_le
      refine ⟨decoded, traffic.adapter.queued, haccepted, ?_, _, hdecoded.symm⟩
      rw [IrqAdapter.queued_length]
      omega

/-- A clock and an expander on two lines. -/
def twoIrqLines : List IrqLineConfig := [⟨1, 12, 2, 1⟩, ⟨2, 13, 2, 0⟩]

def twoLineAdapter : IrqAdapter where
  lines := twoIrqLines
  valid := by decide
  lastLevel := fun _ => true

/-- Both lines come in one word, and one of them again before the second sample is taken. -/
theorem irq_samples_conserved_two :
    let traffic := Machine.run IrqTraffic.step { adapter := twoLineAdapter }
      [.isr 0xF000, .pop (fun _ => false) 10, .isr 0x1000, .pop (fun _ => false) 20]
    traffic.samples.map IrqSample.lineId = [1, 2] ∧
      (traffic.adapter.pendingSamples = 0 ↔ traffic.samples.map IrqSample.lineId =
        traffic.accepted.flatMap (IrqLineConfig.idsOf twoIrqLines)) :=
  ⟨by decide +kernel, (irq_samples_conserved ⟨true, fun _ => true, fun _ => true, true⟩ twoIrqLines
    twoLineAdapter rfl _).2.2.1⟩

end EventFramework
