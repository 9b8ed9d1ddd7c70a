import LogConsumer.Proofs.Actions

/-!
# Actions on states that are alike

A likeness of states says what an action may go by: an action respects it if, from states that are
alike, it answers the same and leads to states that are alike again. What the parts of an action
respect, the whole respects, so a statement about two runs is taken apart along the lines of one
action. Where the action reads the state (`Respects.reading`), what it reads must come to the same
on both sides; the rest is then one action again.
-/
namespace LogConsumer

variable {σ α β ε : Type} {alike : σ → σ → Prop}

/-- From states that are alike the action answers the same, and it leads to states that are
alike. -/
def Respects (alike : σ → σ → Prop) (action : StateM σ α) : Prop :=
  ∀ left right, alike left right →
    (action left).1 = (action right).1 ∧ alike (action left).2 (action right).2

namespace Respects

/-- Answering without acting respects every likeness. -/
theorem pure (value : α) : Respects alike (Pure.pure value : StateM σ α) :=
  fun _ _ same => ⟨rfl, same⟩

/-- Two actions in order respect what both respect. -/
theorem bind {first : StateM σ α} {rest : α → StateM σ β} (before : Respects alike first)
    (after : ∀ value, Respects alike (rest value)) : Respects alike (first >>= rest) := by
  intro left right same
  obtain ⟨answer, between⟩ := before left right same
  have later := after (first left).1 _ _ between
  rw [run_then, run_then, ← answer]
  exact later

/-- A change that leads from states that are alike to states that are alike respects that. -/
theorem change {update : σ → σ}
    (kept : ∀ left right, alike left right → alike (update left) (update right)) :
    Respects alike (modify update : StateM σ PUnit) :=
  fun left right same => ⟨rfl, kept left right same⟩

/-- Failing respects every likeness. -/
theorem throw (error : ε) : Respects alike (throw error : ExceptT ε (StateM σ) α).run :=
  fun _ _ same => ⟨rfl, same⟩

/-- Two actions that may fail, in order, respect what both respect. -/
theorem andThen {first : ExceptT ε (StateM σ) α} {rest : α → ExceptT ε (StateM σ) β}
    (before : Respects alike first.run) (after : ∀ value, Respects alike (rest value).run) :
    Respects alike (first >>= rest).run := by
  rw [ExceptT.run_bind]
  apply bind before
  intro outcome
  cases outcome with
  | ok value => exact after value
  | error error => exact pure _

/-- An action that reads the state first respects what the rest does where it was read. -/
theorem reading {rest : σ → ExceptT ε (StateM σ) α}
    (after : ∀ left right, alike left right →
      ((rest left).run left).1 = ((rest right).run right).1 ∧
        alike ((rest left).run left).2 ((rest right).run right).2) :
    Respects alike (MonadState.get >>= rest).run :=
  after

/-- Either of two actions respects what both respect. -/
theorem either {condition : Prop} [Decidable condition] {left right : StateM σ α}
    (yes : Respects alike left) (no : Respects alike right) :
    Respects alike (if condition then left else right) := by
  split
  · exact yes
  · exact no

end Respects

end LogConsumer
