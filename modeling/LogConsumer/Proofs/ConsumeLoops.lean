import LogConsumer.ConsumeLoop
import LogConsumer.Proofs.Runs

/-!
# Polls and deliveries of a consume loop

What a consume loop makes of its polls, whatever signals it gets in whatever order. The polls that
it begins are those that end and the one that may still be in flight (`accounts`); of those that end
it delivers exactly the outcomes that are neither empty nor a refusal of the state, each once and in
their order (`run_delivers`). Once it is cancelled, or a poll was refused, it begins no poll any
more (`IsEnding`), but a poll that was in flight is still delivered.
-/
namespace LogConsumer

namespace Outcome

/-- The outcome of a poll is worth delivering: it is neither an empty poll nor a refusal of the
state. -/
def isDelivered : Outcome → Bool
  | .ok message => !message.isTimeout
  | .error error => !error.isState

/-- The poll was refused for the state of the consumer. -/
def isRefusal : Outcome → Bool
  | .ok _ => false
  | .error error => error.isState

end Outcome

namespace ConsumeLoop

variable {loop : ConsumeLoop} {outcome : Outcome}

/-- The loop after a signal. -/
def next (loop : ConsumeLoop) (signal : LoopSignal) : ConsumeLoop :=
  (loop.step signal).2

/-- The outcome of the poll that begins with a signal. -/
def begun (loop : ConsumeLoop) (signal : LoopSignal) : List Outcome :=
  match signal, loop.phase with
  | .pollBegan outcome _, .waiting => [outcome]
  | _, _ => []

/-- The outcome of the poll that ends with a signal. -/
def finished (loop : ConsumeLoop) (signal : LoopSignal) : List Outcome :=
  match signal, loop.phase with
  | .pollEnded, .polling outcome _ => [outcome]
  | _, _ => []

/-- The outcome of the poll in flight. -/
def inFlight (loop : ConsumeLoop) : List Outcome :=
  match loop.phase with
  | .polling outcome _ => [outcome]
  | _ => []

/-- The loop begins no further poll: it is over, or it will see that it is cancelled before it waits
for a worker again. -/
def IsEnding (loop : ConsumeLoop) : Prop :=
  match loop.phase with
  | .exited _ => True
  | .checking | .polling _ _ => loop.cancelled = true
  | .waiting | .backingOff => False

/-- A poll that ends is delivered if it is worth it, and the loop is polling no more; it begins no
further poll if it is cancelled or was refused. -/
theorem receive_spec (loop : ConsumeLoop) (outcome : Outcome) :
    (loop.receive outcome).1.toList = [outcome].filter Outcome.isDelivered ∧
      (loop.receive outcome).2.inFlight = [] ∧
      (loop.cancelled = true ∨ outcome.isRefusal = true → (loop.receive outcome).2.IsEnding) := by
  obtain ⟨settings, cancelled, phase⟩ := loop
  unfold receive
  cases outcome with
  | ok message =>
    dsimp only
    cases empty : message.isTimeout with
    | true =>
      refine ⟨by simp [Outcome.isDelivered, empty], ?_, ?_⟩
      · cases cancelled <;> rfl
      · rintro (shut | refused)
        · cases shut
          trivial
        · contradiction
    | false =>
      refine ⟨by simp [Outcome.isDelivered, empty], rfl, ?_⟩
      rintro (shut | refused)
      · exact shut
      · contradiction
  | error error =>
    dsimp only
    cases state : error.isState with
    | true => exact ⟨by simp [Outcome.isDelivered, state], rfl, fun _ => trivial⟩
    | false =>
      refine ⟨by simp [Outcome.isDelivered, state], ?_, ?_⟩
      · cases cancelled <;> rfl
      · rintro (shut | refused)
        · cases shut
          trivial
        · cases state.symm.trans refused

/-- A signal delivers the poll that ends with it, if it is worth it. -/
theorem step_delivers (loop : ConsumeLoop) (signal : LoopSignal) :
    (loop.step signal).1.toList = (loop.finished signal).filter Outcome.isDelivered := by
  obtain ⟨settings, cancelled, phase⟩ := loop
  cases signal <;> cases phase <;> try rfl
  exact (receive_spec _ _).1

/-- Nothing is in flight once the poll has ended. -/
theorem inFlight_pollEnded (loop : ConsumeLoop) : (loop.next .pollEnded).inFlight = [] := by
  obtain ⟨settings, cancelled, phase⟩ := loop
  cases phase with
  | polling outcome remaining => exact (receive_spec _ outcome).2.1
  | _ => rfl

/-- The poll that begins is in flight. -/
theorem inFlight_pollBegan (waiting : loop.phase = .waiting) (outcome : Outcome) (duration : Nat) :
    (loop.next (.pollBegan outcome duration)).inFlight = [outcome] := by
  obtain ⟨settings, cancelled, phase⟩ := loop
  cases waiting
  rfl

/-- What is in flight and what begins with a signal is what ends with it and what is in flight then,
unless the loop breaks off. -/
theorem step_accounts (loop : ConsumeLoop) (signal : LoopSignal) (sound : signal ≠ .panic) :
    loop.inFlight ++ loop.begun signal = loop.finished signal ++ (loop.next signal).inFlight := by
  obtain ⟨settings, cancelled, phase⟩ := loop
  cases signal with
  | panic => exact absurd rfl sound
  | pollEnded =>
    rw [inFlight_pollEnded]
    cases phase <;> rfl
  | look => cases phase <;> cases cancelled <;> rfl
  | _ => cases phase <;> rfl

/-- A loop that is cancelled begins no further poll. -/
theorem isEnding_cancel (loop : ConsumeLoop) : (loop.next .cancel).IsEnding := by
  obtain ⟨settings, cancelled, phase⟩ := loop
  cases phase <;> trivial

/-- A loop that begins no further poll stays so. -/
theorem IsEnding.next (ending : loop.IsEnding) (signal : LoopSignal) :
    (loop.next signal).IsEnding := by
  obtain ⟨settings, cancelled, phase⟩ := loop
  cases phase with
  | waiting | backingOff => exact ending.elim
  | exited panicked => cases signal <;> trivial
  | checking =>
    cases (ending : cancelled = true)
    cases signal <;> trivial
  | polling outcome remaining =>
    cases (ending : cancelled = true)
    cases signal with
    | pollEnded => exact (receive_spec _ outcome).2.2 (.inl rfl)
    | _ => trivial

/-- A loop that begins no further poll does not begin one. -/
theorem IsEnding.begun (ending : loop.IsEnding) (signal : LoopSignal) : loop.begun signal = [] := by
  obtain ⟨settings, cancelled, phase⟩ := loop
  cases phase with
  | waiting => exact ending.elim
  | _ => cases signal <;> rfl

/-- A loop whose poll was refused begins no further poll. -/
theorem isEnding_of_refusal {signal : LoopSignal} (ended : outcome ∈ loop.finished signal)
    (refusal : outcome.isRefusal = true) : (loop.next signal).IsEnding := by
  obtain ⟨settings, cancelled, phase⟩ := loop
  cases signal with
  | pollEnded =>
    cases phase with
    | polling other remaining =>
      cases List.mem_singleton.mp ended
      exact (receive_spec _ outcome).2.2 (.inr refusal)
    | _ => cases ended
  | _ => cases ended

/-- The loop after a run of signals is the one its steps lead to. -/
theorem run_snd (loop : ConsumeLoop) (signals : List LoopSignal) :
    (loop.run signals).2 = signals.foldl next loop := by
  induction signals generalizing loop with
  | nil => rfl
  | cons signal signals ih => exact ih (loop.next signal)

/-- A run delivers the polls that end in it and are worth it, each once and in their order. -/
theorem run_delivers (loop : ConsumeLoop) (signals : List LoopSignal) :
    (loop.run signals).1 = (collected next finished loop signals).filter Outcome.isDelivered := by
  induction signals generalizing loop with
  | nil => rfl
  | cons signal signals ih =>
    have run : (loop.run (signal :: signals)).1 =
        (loop.step signal).1.toList ++ ((loop.next signal).run signals).1 := rfl
    rw [run, step_delivers, ih, collected, List.filter_append]

/-- What is in flight and what begins in a run is what ends in it and what is in flight then, unless
the loop breaks off. -/
theorem accounts (loop : ConsumeLoop) {signals : List LoopSignal} (sound : .panic ∉ signals) :
    loop.inFlight ++ collected next begun loop signals =
      collected next finished loop signals ++ (loop.run signals).2.inFlight := by
  rw [run_snd]
  induction signals generalizing loop with
  | nil => simp [collected]
  | cons signal signals ih =>
    obtain ⟨first, later⟩ := List.ne_and_not_mem_of_not_mem_cons sound
    rw [collected, collected, ← List.append_assoc, step_accounts loop signal first.symm,
      List.append_assoc, List.append_assoc, ih (loop.next signal) later, List.foldl_cons]

namespace IsEnding

/-- A loop that begins no further poll stays so over a run. -/
theorem foldl (ending : loop.IsEnding) (signals : List LoopSignal) :
    (signals.foldl ConsumeLoop.next loop).IsEnding := by
  induction signals generalizing loop with
  | nil => exact ending
  | cons signal signals ih => exact ih (ending.next signal)

/-- A loop that begins no further poll begins none in a run. -/
theorem begins_nothing (ending : loop.IsEnding) (signals : List LoopSignal) :
    collected ConsumeLoop.next ConsumeLoop.begun loop signals = [] := by
  induction signals generalizing loop with
  | nil => rfl
  | cons signal signals ih => rw [collected, ending.begun, ih (ending.next signal)]; rfl

/-- What such a loop has in flight ends in a run where its end is signalled, and nothing else
does. -/
theorem finishes (ending : loop.IsEnding) (polling : loop.inFlight = [outcome])
    {signals : List LoopSignal} (sound : .panic ∉ signals) (lands : .pollEnded ∈ signals) :
    collected ConsumeLoop.next ConsumeLoop.finished loop signals = [outcome] := by
  induction signals generalizing loop with
  | nil => cases lands
  | cons signal signals ih =>
    obtain ⟨first, later⟩ := List.ne_and_not_mem_of_not_mem_cons sound
    have still := step_accounts loop signal first.symm
    rw [polling, ending.begun, List.append_nil] at still
    rw [collected]
    cases ended : loop.finished signal with
    | nil =>
      rw [ended] at still
      obtain rfl | rest := List.mem_cons.mp lands
      · -- A poll in flight ends when it is told to.
        obtain ⟨settings, cancelled, phase⟩ := loop
        cases phase with
        | polling => cases ended
        | _ => cases polling
      · exact ih (ending.next signal) still.symm later rest
    | cons landed others =>
      rw [ended] at still
      obtain ⟨rfl, nothing⟩ := List.cons.inj still
      obtain ⟨rfl, settled⟩ := List.append_eq_nil_iff.mp nothing.symm
      have after := accounts (loop.next signal) later
      rw [settled, (ending.next signal).begins_nothing] at after
      rw [(List.append_eq_nil_iff.mp after.symm).1]
      rfl

end IsEnding

/-- A loop begins no further poll after a signal that stops it from doing so. -/
theorem ends_polling {earlier later : List LoopSignal} {signal : LoopSignal}
    (ends : ((earlier.foldl next loop).next signal).IsEnding) (after : List LoopSignal) :
    collected next begun (loop.run (earlier ++ signal :: later)).2 after = [] := by
  rw [run_snd, List.foldl_append, List.foldl_cons]
  exact (ends.foldl later).begins_nothing after

/-- What a consume loop makes of its polls, whatever signals it gets. -/
structure Faithful (loop : ConsumeLoop) : Prop where
  /-- It delivers exactly the polls that end and are worth it, each once and in their order. -/
  delivers : ∀ signals, (loop.run signals).1 =
    (collected next finished loop signals).filter Outcome.isDelivered
  /-- Unless it breaks off, every poll that it begins ends or is still in flight, in their order. -/
  accounts : ∀ signals, .panic ∉ signals →
    loop.inFlight ++ collected next begun loop signals =
      collected next finished loop signals ++ (loop.run signals).2.inFlight
  /-- Once it is cancelled it begins no poll. -/
  cancelled : ∀ before after, .cancel ∈ before →
    collected next begun (loop.run before).2 after = []
  /-- Once a poll was refused for the state of the consumer it begins no poll. -/
  refused : ∀ before after outcome, outcome ∈ collected next finished loop before →
    outcome.isRefusal = true → collected next begun (loop.run before).2 after = []
  /-- A poll in flight when it is cancelled is still delivered when it ends, if it is worth it. -/
  rescued : ∀ outcome after, loop.inFlight = [outcome] → .panic ∉ after → .pollEnded ∈ after →
    (loop.run (.cancel :: after)).1 = [outcome].filter Outcome.isDelivered

/-- Every consume loop is faithful to its polls. -/
theorem faithful (loop : ConsumeLoop) : loop.Faithful where
  delivers := loop.run_delivers
  accounts _ := loop.accounts
  cancelled before after inside := by
    obtain ⟨earlier, later, rfl⟩ := List.append_of_mem inside
    exact ends_polling (isEnding_cancel _) after
  refused before after outcome ended refusal := by
    obtain ⟨earlier, signal, later, rfl, here⟩ := exists_of_mem_collected ended
    exact ends_polling (isEnding_of_refusal here refusal) after
  rescued outcome after polling sound lands := by
    have ending := loop.isEnding_cancel
    have still := loop.step_accounts .cancel (by simp)
    rw [run_delivers, collected]
    have idle : loop.finished .cancel = [] := rfl
    have quiet : loop.begun .cancel = [] := rfl
    rw [polling, idle, quiet] at still
    rw [idle, List.nil_append, ending.finishes still.symm sound lands]

end ConsumeLoop

end LogConsumer
