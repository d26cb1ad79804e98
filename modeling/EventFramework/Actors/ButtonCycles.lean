import EventFramework.Actors.PanelActor

/-!
# The cycles of a button

One button by itself: it is up, or it has been down for a number of ticks. What it does is a list of
presses, each of them short or long.
-/

namespace EventFramework
set_option autoImplicit false

inductive ButtonInput where
  | level (pressed : Bool)
  | tick
  | other
  deriving DecidableEq

/-- The level that was last seen, if any, and the ticks since the press of a button that is
down. -/
structure Button where
  level : Option Bool := none
  held : Option Nat := none

namespace Button

def longPressTicks : Nat := 10

def reactTick (button : Button) : List ButtonAction :=
  match button.level, button.held with
  | some true, none => [.press]
  | some true, some ticks => if ticks + 1 = longPressTicks then [.long] else []
  | some false, some ticks => if ticks < longPressTicks then [.release, .short] else [.release]
  | _, _ => []

def react (button : Button) : ButtonInput → List ButtonAction
  | .tick => button.reactTick
  | _ => []

def next (button : Button) : ButtonInput → Button
  | .level pressed => { button with level := some pressed }
  | .tick =>
    match button.level with
    | some true => { button with held := some ((button.held.map (· + 1)).getD 0) }
    | some false => { button with held := none }
    | none => button
  | .other => button

/-- Presses that were short or long, one after the other. -/
inductive Cycles : List ButtonAction → Prop where
  | nil : Cycles []
  | short {actions : List ButtonAction} : Cycles actions → Cycles (actions ++ [.press, .release, .short])
  | long {actions : List ButtonAction} : Cycles actions → Cycles (actions ++ [.press, .long, .release])

section Runs

variable {I : Type} (view : I → ButtonInput)

def step (run : Button × List ButtonAction) (input : I) : Button × List ButtonAction :=
  (run.1.next (view input), run.2 ++ run.1.react (view input))

/-- What the state of a button says about what it has done. -/
def Consistent (run : Button × List ButtonAction) : Prop :=
  match run.1.held with
  | none => Cycles run.2
  | some ticks => ∃ actions, Cycles actions ∧
      run.2 = actions ++ if ticks < longPressTicks then [.press] else [.press, .long]

theorem tick_consistent {button : Button} {actions : List ButtonAction}
    (h : Consistent (button, actions)) :
    Consistent (button.next .tick, actions ++ button.reactTick) := by
  obtain ⟨level, held⟩ := button
  rcases level with _ | pressed
  · rw [show reactTick ⟨none, held⟩ = [] by simp [reactTick], List.append_nil]
    exact h
  · cases held with
    | none =>
      cases pressed with
      | true => exact ⟨actions, h, rfl⟩
      | false =>
        rw [show reactTick ⟨some false, none⟩ = [] from rfl, List.append_nil]
        exact h
    | some ticks =>
      obtain ⟨earlier, hcycles, hactions⟩ := h
      simp only at hactions
      cases pressed with
      | true =>
        refine ⟨earlier, hcycles, ?_⟩
        simp only [reactTick, hactions, Option.map_some, Option.getD_some]
        by_cases hlong : ticks + 1 = longPressTicks
        · rw [if_pos (by omega), if_pos hlong, if_neg (by omega), List.append_assoc]
          rfl
        · rw [if_neg hlong, List.append_nil]
          by_cases hshort : ticks < longPressTicks
          · rw [if_pos hshort, if_pos (by omega)]
          · rw [if_neg hshort, if_neg (by omega)]
      | false =>
        have hup : (Button.next ⟨some false, some ticks⟩ .tick).held = none := rfl
        unfold Consistent
        simp only [hup, reactTick, hactions]
        by_cases hshort : ticks < longPressTicks
        · rw [if_pos hshort, if_pos hshort, List.append_assoc]
          exact hcycles.short
        · rw [if_neg hshort, if_neg hshort, List.append_assoc]
          exact hcycles.long

theorem step_consistent (run : Button × List ButtonAction) (input : I) (h : Consistent run) :
    Consistent (step view run input) := by
  unfold step
  cases view input with
  | level pressed =>
    rw [show run.1.react (.level pressed) = [] from rfl, List.append_nil]
    exact h
  | tick => exact tick_consistent h
  | other =>
    rw [show run.1.react .other = [] from rfl, List.append_nil]
    exact h

/-- What a button does is the beginning of a list of cycles. -/
theorem Consistent.grammar {run : Button × List ButtonAction} (h : Consistent run) :
    ∃ full, Cycles full ∧ run.2 <+: full := by
  unfold Consistent at h
  cases hheld : run.1.held with
  | none =>
    rw [hheld] at h
    exact ⟨run.2, h, List.prefix_refl _⟩
  | some ticks =>
    rw [hheld] at h
    obtain ⟨earlier, hcycles, hactions⟩ := h
    rw [hactions]
    split
    · exact ⟨_, hcycles.short, ⟨[.release, .short], by rw [List.append_assoc]; rfl⟩⟩
    · exact ⟨_, hcycles.long, ⟨[.release], by rw [List.append_assoc]; rfl⟩⟩

def isTick (input : I) : Bool := view input = .tick

/-- The button does not let go in the step. -/
def Holds (run : Button × List ButtonAction) (input : I) : Prop :=
  ButtonAction.release ∉ run.1.react (view input)

variable {view}

theorem held_since {run : Button × List ButtonAction} {ticks : Nat} (hheld : run.1.held = some ticks)
    (hlevel : run.1.level ≠ none) {between : List I}
    (h : Machine.Each (step view) (Holds view) run between) :
    (Machine.run (step view) run between).1.held = some (ticks + between.countP (isTick view)) ∧
      (Machine.run (step view) run between).1.level ≠ none := by
  induction between generalizing run ticks with
  | nil => exact ⟨hheld, hlevel⟩
  | cons input between ih =>
    obtain ⟨hhead, htail⟩ := Machine.each_cons.mp h
    rw [Machine.run_cons, List.countP_cons]
    cases hview : view input with
    | level pressed =>
      have hidle : isTick view input = false := by rw [isTick, hview]; rfl
      have hnext : (step view run input).1 = { run.1 with level := some pressed } := by
        rw [step, hview]
        rfl
      rw [hidle, if_neg Bool.false_ne_true, Nat.add_zero]
      exact ih (by rw [hnext]; exact hheld) (by rw [hnext]; exact Option.some_ne_none _) htail
    | other =>
      have hidle : isTick view input = false := by rw [isTick, hview]; rfl
      have hnext : (step view run input).1 = run.1 := by
        rw [step, hview]
        rfl
      rw [hidle, if_neg Bool.false_ne_true, Nat.add_zero]
      exact ih (by rw [hnext]; exact hheld) (by rw [hnext]; exact hlevel) htail
    | tick =>
      have htick : isTick view input = true := by rw [isTick, hview]; rfl
      rw [htick, if_pos rfl, Nat.add_comm _ 1, ← Nat.add_assoc]
      have hpressed : run.1.level = some true := by
        cases hlevel' : run.1.level with
        | none => exact absurd hlevel' hlevel
        | some pressed =>
          cases pressed with
          | true => rfl
          | false =>
            have hreleased : ButtonAction.release ∈ run.1.react (view input) := by
              rw [hview, react, reactTick, hlevel', hheld]
              simp only
              split
              · exact List.mem_cons_self
              · exact List.mem_cons_self
            exact absurd hreleased hhead
      have hnext : (step view run input).1.held = some (ticks + 1) ∧
          (step view run input).1.level ≠ none := by
        obtain ⟨⟨level, held⟩, actions⟩ := run
        simp only at hpressed hheld
        rw [step, hview, hpressed, hheld]
        exact ⟨rfl, Option.some_ne_none _⟩
      exact ih hnext.1 hnext.2 htail

theorem held_level (inputs : List I) :
    (Machine.run (step view) ({}, []) inputs).1.held ≠ none →
      (Machine.run (step view) ({}, []) inputs).1.level ≠ none := by
  induction inputs using List.reverseRecOn with
  | nil => exact fun h => absurd rfl h
  | append_singleton inputs input ih =>
    rw [Machine.run_append, Machine.run_cons, Machine.run_nil]
    generalize Machine.run (step view) ({}, []) inputs = run at ih ⊢
    obtain ⟨⟨level, held⟩, actions⟩ := run
    rw [step]
    cases view input with
    | level pressed => exact fun _ => Option.some_ne_none _
    | other => exact ih
    | tick =>
      rcases level with _ | pressed
      · exact ih
      · cases pressed with
        | true => exact fun _ => Option.some_ne_none _
        | false => exact fun _ => Option.some_ne_none _

/-- A button that is down was pressed, has not been let go since, and counts the ticks. -/
theorem pressed_before (inputs : List I) :
    ∀ ticks, (Machine.run (step view) ({}, []) inputs).1.held = some ticks →
      ∃ before press between, inputs = before ++ press :: between ∧
        ButtonAction.press ∈
          (Machine.run (step view) ({}, []) before).1.react (view press) ∧
        Machine.Each (step view) (Holds view)
          (Machine.run (step view) ({}, []) (before ++ [press])) between ∧
        between.countP (isTick view) = ticks := by
  induction inputs using List.reverseRecOn with
  | nil => exact fun _ h => by cases h
  | append_singleton inputs input ih =>
    intro ticks hheld
    rw [Machine.run_append, Machine.run_cons, Machine.run_nil] at hheld
    have hlater {ticks' : Nat}
        (hdown : (Machine.run (step view) ({}, []) inputs).1.held = some ticks')
        (hholds : Holds view (Machine.run (step view) ({}, []) inputs) input)
        (hticks : ticks' + [input].countP (isTick view) = ticks) :
        ∃ before press between, inputs ++ [input] = before ++ press :: between ∧
          ButtonAction.press ∈
            (Machine.run (step view) ({}, []) before).1.react (view press) ∧
          Machine.Each (step view) (Holds view)
            (Machine.run (step view) ({}, []) (before ++ [press])) between ∧
          between.countP (isTick view) = ticks := by
      obtain ⟨before, press, between, hsplit, hpress, heach, hcount⟩ := ih ticks' hdown
      refine ⟨before, press, between ++ [input], ?_, hpress, ?_, ?_⟩
      · rw [hsplit, List.append_assoc, List.cons_append]
      · refine Machine.each_snoc.mpr ⟨heach, ?_⟩
        rw [← Machine.run_append, List.append_assoc, List.singleton_append, ← hsplit]
        exact hholds
      · rw [List.countP_append, hcount]
        exact hticks
    generalize hrun : Machine.run (step view) ({}, []) inputs = run at hheld hlater
    cases hview : view input with
    | level pressed =>
      have hidle : [input].countP (isTick view) = 0 := by
        rw [List.countP_singleton, isTick, hview]
        rfl
      rw [step, hview] at hheld
      refine hlater hheld ?_ (by rw [hidle, Nat.add_zero])
      rw [Holds, hview]
      exact List.not_mem_nil
    | other =>
      have hidle : [input].countP (isTick view) = 0 := by
        rw [List.countP_singleton, isTick, hview]
        rfl
      rw [step, hview] at hheld
      refine hlater hheld ?_ (by rw [hidle, Nat.add_zero])
      rw [Holds, hview]
      exact List.not_mem_nil
    | tick =>
      have hone : [input].countP (isTick view) = 1 := by
        rw [List.countP_singleton, isTick, hview]
        rfl
      obtain ⟨⟨level, held⟩, actions⟩ := run
      rw [step, hview] at hheld
      rcases level with _ | pressed
      · have hseen : (Machine.run (step view) ({}, []) inputs).1.held ≠ none → _ := held_level inputs
        rw [hrun] at hseen
        have hsome : held = some ticks := hheld
        exact absurd rfl (hseen (by rw [hsome]; exact Option.some_ne_none _))
      · cases pressed with
        | false => cases hheld
        | true =>
          cases held with
          | none =>
            refine ⟨inputs, input, [], rfl, ?_, Machine.each_nil, ?_⟩
            · rw [hrun, hview]
              exact List.mem_singleton.mpr rfl
            · exact Option.some.inj hheld
          | some ticks' =>
            refine hlater rfl ?_ ?_
            · rw [Holds, hview]
              unfold react reactTick
              simp only
              split
              · simp
              · exact List.not_mem_nil
            · rw [hone]
              exact Option.some.inj hheld

variable (view) in
/-- The button has been down for the ticks of a long press, counted with this input. -/
def LongDue (inputs : List I) (input : I) : Prop :=
  ∃ before press between, inputs = before ++ press :: between ∧
    ButtonAction.press ∈ (Machine.run (step view) ({}, []) before).1.react (view press) ∧
    Machine.Each (step view) (Holds view)
      (Machine.run (step view) ({}, []) (before ++ [press])) (between ++ [input]) ∧
    (between ++ [input]).countP (isTick view) = longPressTicks

theorem press_held {run : Button × List ButtonAction} {press : I}
    (h : ButtonAction.press ∈ run.1.react (view press)) :
    (step view run press).1.held = some 0 ∧ (step view run press).1.level ≠ none := by
  obtain ⟨⟨level, held⟩, actions⟩ := run
  rw [step]
  cases hview : view press with
  | level pressed =>
    rw [hview] at h
    exact absurd h List.not_mem_nil
  | other =>
    rw [hview] at h
    exact absurd h List.not_mem_nil
  | tick =>
    rw [hview, react] at h
    unfold reactTick at h
    split at h
    · rename_i hlevel hheld
      simp only at hlevel hheld
      rw [hlevel, hheld]
      exact ⟨rfl, Option.some_ne_none _⟩
    · split at h <;> simp at h
    · split at h <;> simp at h
    · exact absurd h List.not_mem_nil

/-- A long press is reported on the tick that completes it, and never else. -/
theorem long_iff (inputs : List I) (input : I) :
    ButtonAction.long ∈ (Machine.run (step view) ({}, []) inputs).1.react (view input) ↔
      view input = .tick ∧ LongDue view inputs input := by
  constructor
  · intro h
    have htick : view input = .tick := by
      cases hview : view input with
      | level pressed =>
        rw [hview] at h
        exact absurd h List.not_mem_nil
      | other =>
        rw [hview] at h
        exact absurd h List.not_mem_nil
      | tick => rfl
    refine ⟨htick, ?_⟩
    rw [htick, react] at h
    unfold reactTick at h
    split at h
    · simp at h
    · rename_i ticks hlevel hheld
      split at h
      · rename_i hlong
        obtain ⟨before, press, between, hsplit, hpress, heach, hcount⟩ := pressed_before inputs ticks hheld
        refine ⟨before, press, between, hsplit, hpress, Machine.each_snoc.mpr ⟨heach, ?_⟩, ?_⟩
        · rw [← Machine.run_append, List.append_assoc, List.singleton_append, ← hsplit, Holds, htick,
            react, reactTick, hlevel, hheld]
          simp only
          rw [if_pos hlong]
          simp
        · rw [List.countP_append, hcount, List.countP_singleton, isTick, htick]
          exact hlong
      · simp at h
    · split at h <;> simp at h
    · exact absurd h List.not_mem_nil
  · rintro ⟨htick, before, press, between, hsplit, hpress, heach, hcount⟩
    obtain ⟨hbetween, hholds⟩ := Machine.each_snoc.mp heach
    rw [Machine.run_append, Machine.run_cons, Machine.run_nil] at hbetween hholds
    obtain ⟨hdown, hseen⟩ := press_held hpress
    obtain ⟨hheld, hlevel⟩ := held_since hdown hseen hbetween
    have hrun : Machine.run (step view) ({}, []) inputs = Machine.run (step view)
        (step view (Machine.run (step view) ({}, []) before) press) between := by
      rw [hsplit, Machine.run_append, Machine.run_cons]
    rw [hrun]
    generalize Machine.run (step view)
      (step view (Machine.run (step view) ({}, []) before) press) between = run
      at hheld hlevel hholds ⊢
    rw [List.countP_append, List.countP_singleton, isTick, htick] at hcount
    rw [Holds, htick, react, reactTick, hheld] at hholds
    rw [htick, react, reactTick, hheld]
    cases hpressed : run.1.level with
    | none => exact absurd hpressed hlevel
    | some pressed =>
      rw [hpressed] at hholds
      cases pressed with
      | true =>
        simp only
        rw [if_pos (by rw [Nat.zero_add]; exact hcount)]
        exact List.mem_singleton.mpr rfl
      | false =>
        simp only at hholds
        split at hholds
        · exact absurd List.mem_cons_self hholds
        · exact absurd List.mem_cons_self hholds

end Runs

end Button

end EventFramework
