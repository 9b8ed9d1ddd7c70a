import Mathlib.Logic.Basic

/-!
# Runs

A run is a list of steps made one after the other, each from where the step before it led. What the
steps give is collected in their order, and a condition is met throughout a run if every step meets
it where it is made.
-/
namespace LogConsumer

variable {σ ε α : Type} {next : σ → ε → σ}

/-- What the steps of a run give, in order. -/
def collected (next : σ → ε → σ) (gives : σ → ε → List α) : σ → List ε → List α
  | _, [] => []
  | state, step :: steps => gives state step ++ collected next gives (next state step) steps

/-- What a run of two parts gives is what the parts give. -/
theorem collected_append (gives : σ → ε → List α) (state : σ) (first second : List ε) :
    collected next gives state (first ++ second) =
      collected next gives state first ++ collected next gives (first.foldl next state) second := by
  induction first generalizing state with
  | nil => rfl
  | cons step steps ih =>
    rw [List.cons_append, collected, collected, ih, List.append_assoc]
    rfl

/-- What a run gives that is longer by a step is what it gives, and what the step gives at its
end. -/
theorem collected_concat (gives : σ → ε → List α) (state : σ) (steps : List ε) (step : ε) :
    collected next gives state (steps ++ [step]) =
      collected next gives state steps ++ gives (steps.foldl next state) step := by
  rw [collected_append, collected, collected, List.append_nil]

/-- What a run gives, one of its steps gives. -/
theorem exists_of_mem_collected {gives : σ → ε → List α} {state : σ} {steps : List ε} {value : α}
    (given : value ∈ collected next gives state steps) :
    ∃ earlier step later, steps = earlier ++ step :: later ∧
      value ∈ gives (earlier.foldl next state) step := by
  induction steps generalizing state with
  | nil => cases given
  | cons step steps ih =>
    obtain here | there := List.mem_append.mp given
    · exact ⟨[], step, steps, rfl, here⟩
    · obtain ⟨earlier, other, later, rfl, inside⟩ := ih there
      exact ⟨step :: earlier, other, later, rfl, inside⟩

/-- What every step keeps is kept over a run, and the run relates its ends by what it gives as each
step does. -/
theorem related_collected (gives : σ → ε → List α) (holds : σ → Prop)
    (relation : σ → List α → σ → Prop) (refl : ∀ state, relation state [] state)
    (trans : ∀ {first second third : σ} {earlier later : List α}, relation first earlier second →
      relation second later third → relation first (earlier ++ later) third)
    (each : ∀ (state : σ) (step : ε), holds state →
      holds (next state step) ∧ relation state (gives state step) (next state step))
    {state : σ} (held : holds state) (steps : List ε) :
    holds (steps.foldl next state) ∧
      relation state (collected next gives state steps) (steps.foldl next state) := by
  induction steps generalizing state with
  | nil => exact ⟨held, refl state⟩
  | cons step steps ih =>
    obtain ⟨still, first⟩ := each state step held
    obtain ⟨last, rest⟩ := ih still
    exact ⟨last, trans first rest⟩

/-- Every step of a run meets a condition where it is made. -/
def Throughout (next : σ → ε → σ) (condition : σ → ε → Prop) : σ → List ε → Prop
  | _, [] => True
  | state, step :: steps => condition state step ∧ Throughout next condition (next state step) steps

namespace Throughout

/-- Whether a condition is met throughout a run can be decided step by step. -/
instance decidable {condition : σ → ε → Prop} [∀ state step, Decidable (condition state step)] :
    (state : σ) → (steps : List ε) → Decidable (Throughout next condition state steps)
  | _, [] => inferInstanceAs (Decidable True)
  | state, step :: steps =>
    have := @decidable condition _ (next state step) steps
    inferInstanceAs (Decidable (condition state step ∧ _))

variable {condition weak : σ → ε → Prop} {state : σ}

/-- A condition is met throughout a run of two parts where it is met throughout both. -/
theorem append {first second : List ε} (before : Throughout next condition state first)
    (after : Throughout next condition (first.foldl next state) second) :
    Throughout next condition state (first ++ second) := by
  induction first generalizing state with
  | nil => exact after
  | cons step steps ih => exact ⟨before.1, ih before.2 after⟩

/-- A condition that is met throughout a run of two parts is met throughout both. -/
theorem parts {first second : List ε} (met : Throughout next condition state (first ++ second)) :
    Throughout next condition state first ∧
      Throughout next condition (first.foldl next state) second := by
  induction first generalizing state with
  | nil => exact ⟨trivial, met⟩
  | cons step steps ih => exact ⟨⟨met.1, (ih met.2).1⟩, (ih met.2).2⟩

/-- A weaker condition is met wherever the condition is met. -/
theorem imp (implies : ∀ state step, condition state step → weak state step) {steps : List ε}
    (met : Throughout next condition state steps) : Throughout next weak state steps := by
  induction steps generalizing state with
  | nil => trivial
  | cons step steps ih => exact ⟨implies _ _ met.1, ih met.2⟩

end Throughout

end LogConsumer
