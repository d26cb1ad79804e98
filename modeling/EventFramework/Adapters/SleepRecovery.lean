import EventFramework.Adapters.SleepLines

/-!
# Runs of enabling and sleep preparation

Calls of the interrupt adapter and of the system port in any order, and when the lines that were
enabled survive them.
-/

namespace EventFramework
set_option autoImplicit false

namespace SystemAdapter

open IrqLineConfig IrqAdapter

variable {wanted : UInt8 → Bool} {system : SystemAdapter}

/-- The system port rolls the lines back only while its own flag is up. -/
def AbortKeeps (answers : IrqAnswers) (system : SystemAdapter) : Prop :=
  system.sleepPrepared = true → system.irq.AbortKeeps answers

theorem abort_sound (hgpio : system.uses sleepResourceGpioIrq = true) (h : system.irq.Sound wanted)
    (answers : IrqAnswers) :
    (system.abortSleepPrepare answers).2.irq.Sound wanted ↔ AbortKeeps answers system := by
  unfold abortSleepPrepare AbortKeeps
  by_cases hprepared : system.sleepPrepared = true
  · rw [if_pos hprepared, if_pos hgpio]
    simp only
    rw [IrqAdapter.abort_sound h]
    exact ⟨fun hkeeps _ => hkeeps, fun hkeeps => hkeeps hprepared⟩
  · rw [if_neg hprepared]
    exact ⟨fun _ hup => absurd hup hprepared, fun _ => h⟩

def LaterFails (answers : SystemAnswers) (quiet : Bool) (system : SystemAdapter) : Prop :=
  (system.uses sleepResourceOnewire0 = true ∧ answers.onewire ≠ .ok) ∨
    (system.uses sleepResourceI2c0 = true ∧ answers.i2c ≠ .ok) ∨ quiet = false

theorem prepare_rest {after : IrqAdapter} {answers : SystemAnswers}
    (hgpio : system.uses sleepResourceGpioIrq = true) (hdown : system.sleepPrepared = false)
    (hirq : system.irq.prepareForSleep answers.irq = (.ok, after)) (h : after.Sound wanted) :
    (system.prepareForSleep answers).2.irq.Sound wanted ↔
      (LaterFails answers (after.quietAt answers.irq [2] 2) system →
        after.AbortKeeps answers.irq) := by
  have hup : ¬system.sleepPrepared = true := by
    rw [hdown]
    exact Bool.false_ne_true
  have huses (resource : UInt32) :
      ({ system with irq := after } : SystemAdapter).uses resource = system.uses resource := rfl
  unfold prepareForSleep LaterFails
  rw [if_neg hup, if_pos hgpio, hirq]
  simp only [huses, hgpio, if_true]
  rw [if_neg (fun hfailed : Result.ok ≠ .ok => hfailed rfl)]
  have hrefuse (rc : Result) (before : IrqAdapter) (hsame : SameLines after before) :
      (({ system with irq := before } : SystemAdapter).refuse answers.irq rc).2.irq.Sound wanted ↔
        after.AbortKeeps answers.irq := by
    have hcalls : (({ system with irq := before } : SystemAdapter).refuse answers.irq rc).2.irq =
        (before.abortSleepPrepare answers.irq).2 := by
      rw [refuse, show ({ system with irq := before } : SystemAdapter).uses sleepResourceGpioIrq = true
        from hgpio, if_pos rfl]
    rw [hcalls, IrqAdapter.abort_sound (h.same hsame)]
    unfold IrqAdapter.AbortKeeps
    rw [hsame.lines, hsame.prepared, hsame.enabled]
  by_cases honewire : system.uses sleepResourceOnewire0 = true ∧ answers.onewire ≠ .ok
  · rw [if_pos honewire, hrefuse _ after (.refl after)]
    exact ⟨fun hkeeps _ => hkeeps, fun hkeeps => hkeeps (Or.inl honewire)⟩
  · rw [if_neg honewire]
    by_cases hi2c : system.uses sleepResourceI2c0 = true ∧ answers.i2c ≠ .ok
    · rw [if_pos hi2c, hrefuse _ after (.refl after)]
      exact ⟨fun hkeeps _ => hkeeps, fun hkeeps => hkeeps (Or.inr (Or.inl hi2c))⟩
    · rw [if_neg hi2c]
      have hconfirmed := confirm_same after answers.irq 2
      have hready : after.quietAt answers.irq [2] 2 = true ↔
          (after.confirmSleepReady answers.irq 2).1 = .ok := by
        unfold confirmSleepReady quietAt
        simp only [List.foldl_cons, List.foldl_nil]
        split
        · rename_i hquiet
          exact ⟨fun _ => rfl, fun _ => hquiet⟩
        · rename_i hloud
          exact ⟨fun hquiet => absurd hquiet hloud, fun hok => by cases hok⟩
      generalize after.confirmSleepReady answers.irq 2 = ready at hconfirmed hready
      by_cases hok : ready.1 = .ok
      · rw [if_neg (fun hfailed => hfailed hok)]
        refine ⟨fun _ hfails => ?_, fun _ => h.same hconfirmed⟩
        rcases hfails with hfails | hfails | hloud
        · exact absurd hfails honewire
        · exact absurd hfails hi2c
        · rw [hready.mpr hok] at hloud
          cases hloud
      · rw [if_pos hok, hrefuse _ ready.2 hconfirmed]
        refine ⟨fun hkeeps _ => hkeeps, fun hkeeps => hkeeps (Or.inr (Or.inr ?_))⟩
        exact Bool.eq_false_iff.mpr fun hquiet => hok (hready.mp hquiet)

/-- The lines that a prepared interrupt adapter holds down can be enabled again. -/
def HeldTake (answers : IrqAnswers) (irq : IrqAdapter) : Prop :=
  ∀ line ∈ irq.lines,
    (if irq.sleepPrepared then line.isIn irq.sleepPreparedGpioMask && !line.isIn irq.enabledGpioMask
      else line.isIn irq.enabledGpioMask) = true → takes answers line = true

/-- The roll-backs of a preparation through the system port can enable the lines again. -/
def PrepareKeeps (answers : SystemAnswers) (system : SystemAdapter) : Prop :=
  system.sleepPrepared = false → system.irq.PrepareKeeps answers.irq ∧
    ((system.irq.sleepPrepared = true ∨
        system.irq.Starts answers.irq ∧ system.irq.Finishes answers.irq) →
      LaterFails answers (system.irq.quietAt answers.irq
        (if system.irq.sleepPrepared then [2] else [0, 1, 2]) 2) system →
      HeldTake answers.irq system.irq)

theorem prepare_failed {answers : SystemAnswers} (hgpio : system.uses sleepResourceGpioIrq = true)
    (hdown : system.sleepPrepared = false)
    (hirq : (system.irq.prepareForSleep answers.irq).1 = .errState) :
    (system.prepareForSleep answers).2.irq = (system.irq.prepareForSleep answers.irq).2 := by
  have hup : ¬system.sleepPrepared = true := by
    rw [hdown]
    exact Bool.false_ne_true
  have hfailed : (system.irq.prepareForSleep answers.irq).1 ≠ .ok := by
    rw [hirq]
    decide
  unfold prepareForSleep
  rw [if_neg hup, if_pos hgpio]
  simp only
  rw [if_pos hfailed]

theorem prepare_sound (hgpio : system.uses sleepResourceGpioIrq = true)
    (h : system.irq.Sound wanted) (answers : SystemAnswers) :
    (system.prepareForSleep answers).2.irq.Sound wanted ↔ PrepareKeeps answers system := by
  unfold PrepareKeeps
  by_cases hup : system.sleepPrepared = true
  · have hout : system.prepareForSleep answers = (.ok, system) := if_pos hup
    rw [hout]
    refine ⟨fun _ hdown => ?_, fun _ => h⟩
    rw [hup] at hdown
    cases hdown
  · have hdown : system.sleepPrepared = false := Bool.eq_false_iff.mpr hup
    have hsound := IrqAdapter.prepare_sound h answers.irq
    have hlines := prepareForSleep_lines system.irq answers.irq
    rcases prepareForSleep_cases system.irq answers.irq with
      ⟨hheld, hok, hsame, hring⟩ | ⟨hnot, hloud, hfailed, hsame⟩ | ⟨hstarts, hnot, hback⟩ |
        ⟨hstarts, hfinishes, hout⟩
    · have hirq : system.irq.prepareForSleep answers.irq =
          (.ok, (system.irq.prepareForSleep answers.irq).2) := by rw [← hok]
      rw [prepare_rest hgpio hdown hirq (h.same hsame)]
      have hquiet : (system.irq.prepareForSleep answers.irq).2.quietAt answers.irq [2] 2 =
          system.irq.quietAt answers.irq [2] 2 :=
        (hring.arrive (answers.irq.arrivals 2)).isQuiet (answers.irq.status 2)
      have hkeeps : (system.irq.prepareForSleep answers.irq).2.AbortKeeps answers.irq ↔
          HeldTake answers.irq system.irq := by
        unfold IrqAdapter.AbortKeeps HeldTake
        rw [hsame.lines, hsame.prepared, hsame.enabled, hheld]
        refine forall_congr' fun line => forall_congr' fun _ => ?_
        simp only [if_true, Bool.and_eq_true, Bool.not_eq_true']
        constructor
        · rintro hor ⟨hin, hoff⟩
          rcases hor hin with hon | htakes
          · rw [hoff] at hon
            cases hon
          · exact htakes
        · intro htakes hin
          by_cases hon : line.isIn system.irq.enabledGpioMask = true
          · exact Or.inl hon
          · exact Or.inr (htakes ⟨hin, Bool.eq_false_iff.mpr hon⟩)
      rw [hquiet, hkeeps, hheld, if_pos rfl]
      refine ⟨fun hall _ => ⟨fun hstarts => ?_, fun _ => hall⟩, fun hall => (hall hdown).2 (Or.inl rfl)⟩
      rw [hstarts.1] at hheld
      cases hheld
    · rw [prepare_failed hgpio hdown hfailed]
      refine ⟨fun _ _ => ⟨fun hstarts => absurd hstarts hloud, fun hgo => ?_⟩, fun _ => h.same hsame⟩
      rcases hgo with hheld | hgo
      · rw [hnot] at hheld
        cases hheld
      · exact absurd hgo.1 hloud
    · rw [prepare_failed hgpio hdown hback.failed, hsound]
      refine ⟨fun hkeeps _ => ⟨hkeeps, fun hgo => ?_⟩, fun hall => (hall hdown).1⟩
      rcases hgo with hheld | hgo
      · rw [hstarts.1] at hheld
        cases hheld
      · exact absurd hgo.2 hnot
    · have hafter := prepared_sound h hstarts.1 hout hlines
      have hirq : system.irq.prepareForSleep answers.irq =
          (.ok, (system.irq.prepareForSleep answers.irq).2) := by rw [← hout.ok]
      rw [prepare_rest hgpio hdown hirq hafter]
      have hquiet : (system.irq.prepareForSleep answers.irq).2.quietAt answers.irq [2] 2 =
          system.irq.quietAt answers.irq [0, 1, 2] 2 :=
        (hout.ring.arrive (answers.irq.arrivals 2)).isQuiet (answers.irq.status 2)
      have hkeeps : (system.irq.prepareForSleep answers.irq).2.AbortKeeps answers.irq ↔
          HeldTake answers.irq system.irq := by
        unfold IrqAdapter.AbortKeeps HeldTake
        rw [hlines]
        refine forall_congr' fun line => forall_congr' fun hline => ?_
        obtain ⟨hprepared, henabled, _⟩ := hout.lines line hline
        rw [hprepared, henabled, h.armed line hline, Bool.and_not_self, hstarts.1]
        simp
      rw [hquiet, hkeeps, hstarts.1, if_neg Bool.false_ne_true]
      refine ⟨fun hall _ => ⟨fun _ hnot => absurd hfinishes hnot, fun _ => hall⟩, fun hall => ?_⟩
      exact (hall hdown).2 (Or.inr ⟨hstarts, hfinishes⟩)

/-- A deep sleep is refused, or returns, with the commit refused. -/
def CommitFails (answers : IrqAnswers) (irq : IrqAdapter) : Prop :=
  irq.sleepPrepared = true ∧ irq.quietAt answers [0] 0 = false

/-- The roll-back of a refused deep sleep can enable the lines again. -/
def DeepSleepKeeps (answers : IrqAnswers) (system : SystemAdapter) : Prop :=
  CommitFails answers system.irq → AbortKeeps answers system

theorem commit_fails (answers : IrqAnswers) (irq : IrqAdapter) :
    (irq.commitSleepPrepare answers).1 ≠ .ok ↔ CommitFails answers irq := by
  unfold commitSleepPrepare CommitFails confirmSleepReady quietAt
  simp only [List.foldl_cons, List.foldl_nil]
  by_cases hup : irq.sleepPrepared = true
  · rw [if_pos hup]
    by_cases hquiet : (irq.arrive (answers.arrivals 0)).isQuiet (answers.status 0) = true
    · simp [hquiet]
    · simp [hquiet, hup]
  · rw [if_neg hup]
    simp [hup]

theorem deepSleep_sound (hgpio : system.uses sleepResourceGpioIrq = true)
    (h : system.irq.Sound wanted) (answers : IrqAnswers) :
    (system.deepSleep answers).2.irq.Sound wanted ↔ DeepSleepKeeps answers system := by
  unfold deepSleep DeepSleepKeeps
  rw [if_pos hgpio]
  simp only
  have hfails := commit_fails answers system.irq
  have hsame := commit_same system.irq answers
  generalize system.irq.commitSleepPrepare answers = commit at hfails hsame
  by_cases hok : commit.1 = .ok
  · rw [if_neg (fun hfailed => hfailed hok)]
    exact ⟨fun _ hfailed => absurd hok (hfails.mpr hfailed), fun _ => h.same hsame⟩
  · rw [if_pos hok]
    simp only
    rw [abort_sound (show ({ system with irq := commit.2 } : SystemAdapter).uses _ = true from hgpio)
      (h.same hsame)]
    unfold AbortKeeps IrqAdapter.AbortKeeps
    rw [hsame.lines, hsame.prepared, hsame.enabled]
    exact ⟨fun hkeeps _ => hkeeps, fun hkeeps => hkeeps (hfails.mp hok)⟩

theorem abort_resource (system : SystemAdapter) (answers : IrqAnswers) :
    (system.abortSleepPrepare answers).2.resourceMask = system.resourceMask := by
  unfold abortSleepPrepare
  split <;> rfl

theorem refuse_resource (system : SystemAdapter) (answers : IrqAnswers) (rc : Result) :
    (system.refuse answers rc).2.resourceMask = system.resourceMask := by
  unfold refuse
  split <;> rfl

theorem prepare_resource (system : SystemAdapter) (answers : SystemAnswers) :
    (system.prepareForSleep answers).2.resourceMask = system.resourceMask := by
  unfold prepareForSleep
  simp only
  generalize (if system.uses sleepResourceGpioIrq = true then system.irq.prepareForSleep answers.irq
    else (.ok, system.irq)) = irq
  split
  · rfl
  · split
    · rfl
    · split
      · exact refuse_resource _ answers.irq answers.onewire
      · split
        · exact refuse_resource _ answers.irq answers.i2c
        · generalize (if ({ system with irq := irq.2 } : SystemAdapter).uses sleepResourceGpioIrq = true
            then irq.2.confirmSleepReady answers.irq 2 else (.ok, irq.2)) = ready
          split
          · exact refuse_resource _ answers.irq ready.1
          · rfl

theorem deepSleep_resource (system : SystemAdapter) (answers : IrqAnswers) :
    (system.deepSleep answers).2.resourceMask = system.resourceMask := by
  unfold deepSleep
  simp only
  generalize (if system.uses sleepResourceGpioIrq = true then system.irq.commitSleepPrepare answers
    else (.ok, system.irq)) = irq
  split
  · exact abort_resource _ answers
  · rfl

end SystemAdapter

/-- A call of the interrupt adapter or of the system port, or the interrupt routine. -/
inductive SleepInput where
  | isr (status : UInt32)
  | pop (level : UInt8 → Bool) (timestampUs : UInt32)
  | enable (answers : IrqAnswers) (lineId : UInt8) (enabled : Bool)
  | irqPrepare (answers : IrqAnswers)
  | irqCommit (answers : IrqAnswers)
  | irqAbort (answers : IrqAnswers)
  | prepare (answers : SystemAnswers)
  | abort (answers : IrqAnswers)
  | deepSleep (answers : IrqAnswers)

/-- The adapters with what the caller knows: the lines it enabled last, whether only aborts without
success followed a preparation or a deep sleep that failed, and whether the last call was the abort
that succeeded. -/
structure SleepRun where
  system : SystemAdapter
  wanted : UInt8 → Bool := fun _ => false
  refused : Bool := false
  recovered : Bool := false

namespace SleepRun

open IrqLineConfig IrqAdapter

def withIrq (run : SleepRun) (irq : IrqAdapter) : SystemAdapter := { run.system with irq := irq }

def step (run : SleepRun) : SleepInput → SleepRun
  | .isr status => { run with system := run.withIrq (run.system.irq.isr status), recovered := false }
  | .pop level timestampUs =>
    { run with system := run.withIrq (run.system.irq.pop level timestampUs).2, recovered := false }
  | .enable answers lineId enabled =>
    let out := run.system.irq.enable answers lineId enabled
    { system := run.withIrq out.2, wanted := wants run.wanted lineId enabled out.1 }
  | .irqPrepare answers =>
    let out := run.system.irq.prepareForSleep answers
    { system := run.withIrq out.2, wanted := run.wanted, refused := decide (out.1 ≠ .ok) }
  | .irqCommit answers =>
    { system := run.withIrq (run.system.irq.commitSleepPrepare answers).2, wanted := run.wanted }
  | .irqAbort answers =>
    let out := run.system.irq.abortSleepPrepare answers
    { system := run.withIrq out.2, wanted := run.wanted
      refused := run.refused && decide (out.1 ≠ .ok)
      recovered := run.refused && decide (out.1 = .ok) }
  | .prepare answers =>
    let out := run.system.prepareForSleep answers
    { system := out.2, wanted := run.wanted, refused := decide (out.1 ≠ .ok) }
  | .abort answers =>
    let out := run.system.abortSleepPrepare answers
    { system := out.2, wanted := run.wanted
      refused := run.refused && decide (out.1 ≠ .ok)
      recovered := run.refused && decide (out.1 = .ok) }
  | .deepSleep answers =>
    let out := run.system.deepSleep answers
    { system := out.2, wanted := run.wanted, refused := decide (out.1 ≠ .ok) }

/-- No line is forgotten, and an abort that succeeds after a refused sleep has restored all. -/
structure KeepsLines (run : SleepRun) : Prop where
  sound : run.system.irq.Sound run.wanted
  restored : run.recovered = true → ∀ line ∈ run.system.irq.lines,
    line.isIn run.system.irq.enabledGpioMask = run.wanted line.lineId

/-- The call rolls no line back that the SDK does not take, disables no line that is recorded for
a roll-back, and is not an abort of the system port that overlooks lines it did not prepare. -/
def Safe (run : SleepRun) : SleepInput → Prop
  | .isr _ | .pop _ _ | .irqCommit _ => True
  | .enable answers lineId enabled => EnableKeeps answers lineId enabled run.system.irq
  | .irqPrepare answers => PrepareKeeps answers run.system.irq
  | .irqAbort answers => AbortKeeps answers run.system.irq
  | .prepare answers => SystemAdapter.PrepareKeeps answers run.system
  | .abort answers =>
    SystemAdapter.AbortKeeps answers run.system ∧
      (run.refused = true → run.system.sleepPrepared = false → ∀ line ∈ run.system.irq.lines,
        line.isIn run.system.irq.sleepPreparedGpioMask = true →
          line.isIn run.system.irq.enabledGpioMask = true)
  | .deepSleep answers => SystemAdapter.DeepSleepKeeps answers run.system

/-- After a roll-back of the adapter nothing is recorded, so what is enabled is all there is. -/
theorem abort_restores {wanted : UInt8 → Bool} {irq : IrqAdapter} (h : irq.Sound wanted)
    (answers : IrqAnswers) (hafter : (irq.abortSleepPrepare answers).2.Sound wanted) :
    ∀ line ∈ (irq.abortSleepPrepare answers).2.lines,
      line.isIn (irq.abortSleepPrepare answers).2.enabledGpioMask = wanted line.lineId := by
  intro line hline
  have hnone : line.isIn (irq.abortSleepPrepare answers).2.sleepPreparedGpioMask = false := by
    unfold abortSleepPrepare at hline ⊢
    by_cases hup : irq.sleepPrepared = true
    · rw [if_pos hup] at hline ⊢
      rw [restoreMask_lines] at hline
      rw [(restoreMask_spec irq answers _ hline).2.2, Bool.and_not_self]
    · rw [if_neg hup]
      exact h.prepared_none (Bool.eq_false_iff.mpr hup) line
  rw [← hafter.union hline, hnone, Bool.or_false]

theorem abort_keeps {run : SleepRun} (hgpio : run.system.uses sleepResourceGpioIrq = true)
    (h : KeepsLines run) (answers : IrqAnswers) :
    KeepsLines (run.step (.abort answers)) ↔ Safe run (.abort answers) := by
  have hsound := SystemAdapter.abort_sound hgpio h.sound answers
  constructor
  · intro hafter
    refine ⟨hsound.mp hafter.sound, fun hrefused hdown line hline hin => ?_⟩
    have hsame : run.system.abortSleepPrepare answers = (.ok, run.system) := by
      rw [SystemAdapter.abortSleepPrepare, hdown]
      rfl
    have hrestored := hafter.restored
    simp only [step, hsame, hrefused, decide_true, Bool.and_self, true_implies] at hrestored
    rw [hrestored line hline, ← h.sound.union hline, hin, Bool.or_true]
  · rintro ⟨hkeeps, hheld⟩
    have hafter := hsound.mpr hkeeps
    refine ⟨hafter, fun hrecovered => ?_⟩
    have hrefused : run.refused = true := (Bool.and_eq_true_iff.mp hrecovered).1
    by_cases hup : run.system.sleepPrepared = true
    · have hirq : (run.system.abortSleepPrepare answers).2.irq =
          (run.system.irq.abortSleepPrepare answers).2 := by
        rw [SystemAdapter.abortSleepPrepare, if_pos hup, if_pos hgpio]
      rw [hirq] at hafter
      have hall := abort_restores h.sound answers hafter
      rw [← hirq] at hall
      exact hall
    · have hsame : run.system.abortSleepPrepare answers = (.ok, run.system) := if_neg hup
      have hdown := Bool.eq_false_iff.mpr hup
      simp only [step, hsame]
      intro line hline
      rw [← h.sound.union hline]
      by_cases hin : line.isIn run.system.irq.sleepPreparedGpioMask = true
      · rw [hheld hrefused hdown line hline hin, Bool.true_or]
      · rw [Bool.eq_false_iff.mpr hin, Bool.or_false]

theorem step_keeps {run : SleepRun} (hgpio : run.system.uses sleepResourceGpioIrq = true)
    (h : KeepsLines run) (input : SleepInput) :
    KeepsLines (run.step input) ↔ Safe run input := by
  have hsound {other : SleepRun} (hquiet : other.recovered = false) :
      KeepsLines other ↔ other.system.irq.Sound other.wanted := by
    refine ⟨fun hother => hother.sound, fun hother => ⟨hother, fun hrecovered => ?_⟩⟩
    rw [hquiet] at hrecovered
    cases hrecovered
  cases input with
  | isr status =>
    rw [hsound rfl]
    exact ⟨fun _ => trivial, fun _ => h.sound.same (isr_same _ status)⟩
  | pop level timestampUs =>
    rw [hsound rfl]
    exact ⟨fun _ => trivial, fun _ => h.sound.same (pop_same _ level timestampUs)⟩
  | enable answers lineId enabled =>
    rw [hsound rfl]
    exact enable_sound h.sound answers lineId enabled
  | irqPrepare answers =>
    rw [hsound rfl]
    exact prepare_sound h.sound answers
  | irqCommit answers =>
    rw [hsound rfl]
    exact ⟨fun _ => trivial, fun _ => h.sound.same (commit_same _ answers)⟩
  | irqAbort answers =>
    have habort := abort_sound h.sound answers
    constructor
    · exact fun hafter => habort.mp hafter.sound
    · intro hkeeps
      have hafter := habort.mpr hkeeps
      exact ⟨hafter, fun _ => abort_restores h.sound answers hafter⟩
  | prepare answers =>
    rw [hsound rfl]
    exact SystemAdapter.prepare_sound hgpio h.sound answers
  | abort answers => exact abort_keeps hgpio h answers
  | deepSleep answers =>
    rw [hsound rfl]
    exact SystemAdapter.deepSleep_sound hgpio h.sound answers

theorem step_resource (run : SleepRun) (input : SleepInput) :
    (run.step input).system.resourceMask = run.system.resourceMask := by
  cases input with
  | prepare answers => exact SystemAdapter.prepare_resource run.system answers
  | abort answers => exact SystemAdapter.abort_resource run.system answers
  | deepSleep answers => exact SystemAdapter.deepSleep_resource run.system answers
  | _ => rfl

theorem fresh_keeps {lines : List IrqLineConfig} {irq : IrqAdapter} (h : irq.Fresh lines)
    (resources : UInt32) : KeepsLines { system := { irq := irq, resourceMask := resources } } := by
  refine ⟨⟨?_, ?_, ?_⟩, fun hrecovered => by cases hrecovered⟩
  · intro line _
    simp only
    rw [h.enabled, h.prepared.1, UInt32.or_self, isIn_zero]
  · intro line _
    simp only
    rw [h.armed, h.enabled, isIn_zero]
  · simp only
    rw [h.prepared.1, h.prepared.2]
    exact ⟨(fun hup => by cases hup), fun hne => absurd rfl hne⟩

theorem step_uses {run : SleepRun} (hgpio : run.system.uses sleepResourceGpioIrq = true)
    (input : SleepInput) : (run.step input).system.uses sleepResourceGpioIrq = true := by
  rw [SystemAdapter.uses, step_resource]
  exact hgpio

end SleepRun

def willing : IrqAnswers where
  setIntrType := fun _ _ => true
  level := fun _ => true
  status := fun _ => 0
  arrivals := fun _ => []

/-- The lines that were enabled survive a run, in every state of it, just when every call is safe. -/
theorem lines_kept_iff_safe (answers : IrqInitAnswers) (lines : List IrqLineConfig)
    (irq : IrqAdapter) (h : IrqAdapter.portInit answers lines = .ok irq) (resources : UInt32)
    (hgpio : resources &&& sleepResourceGpioIrq ≠ 0) (inputs : List SleepInput) :
    Machine.Always SleepRun.step SleepRun.KeepsLines
        { system := { irq := irq, resourceMask := resources } } inputs ↔
      Machine.Each SleepRun.step SleepRun.Safe
        { system := { irq := irq, resourceMask := resources } } inputs := by
  have huses : ({ irq := irq, resourceMask := resources } : SystemAdapter).uses
      sleepResourceGpioIrq = true := decide_eq_true hgpio
  have hfresh := SleepRun.fresh_keeps (IrqAdapter.portInit_fresh h) resources
  have hiff := Machine.always_iff_each
    (fun run => SleepRun.KeepsLines run ∧ run.system.uses sleepResourceGpioIrq = true)
    SleepRun.Safe
    (fun run input hrun => by
      rw [SleepRun.step_keeps hrun.2 hrun.1 input, and_iff_left (SleepRun.step_uses hrun.2 input)])
    { system := { irq := irq, resourceMask := resources } } inputs
  have hkeep (run : SleepRun) (input : SleepInput) (hrun : run.system.uses sleepResourceGpioIrq = true) :
      (run.step input).system.uses sleepResourceGpioIrq = true := SleepRun.step_uses hrun input
  have hresource : Machine.Always SleepRun.step
      (fun run => run.system.uses sleepResourceGpioIrq = true)
      { system := { irq := irq, resourceMask := resources } } inputs :=
    Machine.always_of_step hkeep huses inputs
  constructor
  · intro halways
    exact (hiff.mp fun earlier hpre => ⟨halways earlier hpre, hresource earlier hpre⟩).2
  · intro heach
    exact (hiff.mpr ⟨⟨hfresh, huses⟩, heach⟩).imp fun _ hrun => hrun.1

theorem lines_kept_iff_safe_two :
    Machine.Always SleepRun.step SleepRun.KeepsLines
        { system := { irq := twoLineAdapter, resourceMask := 4 } }
        [.enable willing 1 true, .irqPrepare willing, .irqAbort willing] ↔
      Machine.Each SleepRun.step SleepRun.Safe
        { system := { irq := twoLineAdapter, resourceMask := 4 } }
        [.enable willing 1 true, .irqPrepare willing, .irqAbort willing] :=
  lines_kept_iff_safe ⟨true, fun _ => true, fun _ => true, true⟩ twoIrqLines twoLineAdapter rfl 4
    (by decide) _

def Forgets (inputs : List SleepInput) : Prop :=
  ¬Machine.Always SleepRun.step SleepRun.KeepsLines
    { system := { irq := twoLineAdapter, resourceMask := 4 } } inputs

/-- A line is prepared, and the abort cannot enable it: it is forgotten. -/
theorem prepared_line_forgotten :
    Forgets [.enable willing 1 true, .irqPrepare willing,
      .irqAbort { willing with setIntrType := fun _ intrType => decide (intrType = .disable) }] := by
  intro halways
  have hmem : twoIrqLines.head (by decide) ∈ twoIrqLines := by decide
  have hunion := halways.last.sound.union hmem
  revert hunion
  decide +kernel

/-- A prepared line is disabled, and stays recorded for the roll-back. -/
theorem disabled_line_recorded :
    Forgets [.enable willing 1 true, .irqPrepare willing, .enable willing 1 false] := by
  intro halways
  have hmem : twoIrqLines.head (by decide) ∈ twoIrqLines := by decide
  have hunion := halways.last.sound.union hmem
  revert hunion
  decide +kernel

/-- The interrupt adapter is prepared alone, and a deep sleep fails. The abort of the system port
succeeds without the line restored. -/
theorem prepared_line_overlooked :
    Forgets [.enable willing 1 true, .irqPrepare willing, .deepSleep willing, .abort willing] := by
  intro halways
  have hmem : twoIrqLines.head (by decide) ∈ twoIrqLines := by decide
  have hrestored := halways.last.restored (by decide +kernel) _ hmem
  revert hrestored
  decide +kernel

/-- The three ways to lose a line. -/
theorem lines_forgotten :
    (Forgets [.enable willing 1 true, .irqPrepare willing,
        .irqAbort { willing with setIntrType := fun _ intrType => decide (intrType = .disable) }] ∧
      Forgets [.enable willing 1 true, .irqPrepare willing, .enable willing 1 false] ∧
      Forgets [.enable willing 1 true, .irqPrepare willing, .deepSleep willing, .abort willing]) ∧
    ¬∀ (answers : IrqInitAnswers) (lines : List IrqLineConfig) (irq : IrqAdapter),
      IrqAdapter.portInit answers lines = .ok irq → ∀ resources : UInt32,
        resources &&& sleepResourceGpioIrq ≠ 0 → ∀ inputs : List SleepInput,
          Machine.Always SleepRun.step SleepRun.KeepsLines
            { system := { irq := irq, resourceMask := resources } } inputs :=
  ⟨⟨prepared_line_forgotten, disabled_line_recorded, prepared_line_overlooked⟩, fun h =>
    prepared_line_forgotten (h ⟨true, fun _ => true, fun _ => true, true⟩ twoIrqLines twoLineAdapter rfl
      4 (by decide) _)⟩

end EventFramework
