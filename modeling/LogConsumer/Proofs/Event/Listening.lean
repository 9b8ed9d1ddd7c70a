import LogConsumer.Event.Dispatcher
import LogConsumer.Proofs.Runs

/-!
# Listening

A listener that reads an active dispatcher and is never told that it fell behind reads exactly what
is published from its arrival on, in order (`Listening.hears`), however its reading falls between
the events. What a channel still holds is the end of what it carried (`Channel.Carried`), so a
reading is the next part of that, or it is told of a gap.
-/
namespace LogConsumer

namespace Channel

variable {α : Type} {channel : Channel α} {log : List α} {place : Nat}

/-- The channel carried these values since it was opened, oldest first. -/
structure Carried (channel : Channel α) (log : List α) : Prop where
  /-- All of them were sent. -/
  sent : channel.sent = log.length
  /-- The values still held are the last of them. -/
  held : channel.held <:+ log

namespace Carried

/-- A value that is sent is carried after the others. -/
theorem send (carried : channel.Carried log) (item : α) :
    (channel.send item).Carried (log ++ [item]) := by
  obtain ⟨lost, rfl⟩ := carried.held
  refine ⟨?_, (List.drop_suffix _ _).trans ⟨lost, (List.append_assoc _ _ _).symm⟩⟩
  rw [List.length_append, ← carried.sent]
  rfl

/-- A receiver has read everything, or is told of a gap, or reads the next value. -/
theorem receive?_cases (carried : channel.Carried log) (place : Nat) :
    (channel.receive? place = none ∧ log.drop place = []) ∨
    (∃ missed, channel.receive? place = some (.lagged missed, channel.oldest)) ∨
    (channel.oldest ≤ place ∧ ∃ item, channel.receive? place = some (.value item, place + 1) ∧
      log.drop place = item :: log.drop (place + 1)) := by
  obtain ⟨lost, whole⟩ := carried.held
  have oldest : channel.oldest = lost.length := by
    rw [Channel.oldest, carried.sent, ← whole, List.length_append, Nat.add_sub_cancel]
  unfold receive?
  rw [oldest]
  by_cases behind : place < lost.length
  · rw [if_pos behind]
    exact .inr (.inl ⟨_, rfl⟩)
  · have there : channel.held[place - lost.length]? = log[place]? := by
      rw [← whole, List.getElem?_append_right (Nat.not_lt.mp behind)]
    rw [if_neg behind, there]
    by_cases unread : place < log.length
    · rw [List.getElem?_eq_getElem unread]
      exact .inr (.inr ⟨Nat.not_lt.mp behind, _, rfl, List.drop_eq_getElem_cons unread⟩)
    · rw [List.getElem?_eq_none (Nat.not_lt.mp unread)]
      exact .inl ⟨rfl, List.drop_eq_nil_of_le (Nat.not_lt.mp unread)⟩

/-- A receiver that is told of no gap reads the next values, as many as it may. -/
theorem receiveUpTo_eq (carried : channel.Carried log) {limit : Nat}
    (unlagged : ∀ missed, Reception.lagged missed ∉ (channel.receiveUpTo limit place).1) :
    channel.receiveUpTo limit place =
      (((log.drop place).take limit).map .value,
        place + ((log.drop place).take limit).length) := by
  induction limit generalizing place with
  | zero => rfl
  | succ limit ih =>
    unfold receiveUpTo at unlagged ⊢
    obtain ⟨nothing, finished⟩ | ⟨missed, gap⟩ | ⟨_, item, received, next⟩ :=
      carried.receive?_cases place
    · rw [nothing, finished]
      rfl
    · rw [gap] at unlagged
      exact absurd List.mem_cons_self (unlagged missed)
    · rw [received] at unlagged ⊢
      have rest := ih fun missed later => unlagged missed (List.mem_cons_of_mem _ later)
      dsimp only
      rw [rest, next, List.take_succ_cons, List.map_cons, List.length_cons, Nat.add_right_comm,
        Nat.add_assoc]

/-- A receiver that reads everything and is told of no gap reads all that it has not read yet. -/
theorem receiveAll_eq (carried : channel.Carried log)
    (unlagged : ∀ missed, Reception.lagged missed ∉ (channel.receiveAll place).1) :
    (channel.receiveAll place).1 = (log.drop place).map .value := by
  unfold receiveAll at unlagged ⊢
  have read := carried.receiveUpTo_eq unlagged
  -- The first thing that it is told is no gap, so all that it has not read is still held.
  have few : (log.drop place).length ≤ channel.held.length + 1 := by
    obtain ⟨_, finished⟩ | ⟨missed, gap⟩ | ⟨near, _⟩ := carried.receive?_cases place
    · rw [finished]
      exact Nat.zero_le _
    · unfold receiveUpTo at unlagged
      rw [gap] at unlagged
      exact absurd List.mem_cons_self (unlagged missed)
    · unfold oldest at near
      rw [carried.sent] at near
      rw [List.length_drop]
      omega
  rw [read, List.take_of_length_le few]

end Carried

end Channel

namespace EventDispatcher

variable {events : EventDispatcher}

/-- What is published reaches a listener. -/
structure Passes (events : EventDispatcher) : Prop where
  /-- The dispatcher passes events on. -/
  active : events.active = true
  /-- Somebody listens. -/
  hasListener : events.hasListener = true

namespace Passes

/-- Where events pass, an event is sent. -/
theorem publish (passes : events.Passes) (event : Event) :
    events.publish event = { events with channel := events.channel.send event } := by
  unfold EventDispatcher.publish
  rw [passes.active, passes.hasListener]
  rfl

/-- Where events pass, all of them are sent. -/
theorem publishAll (passes : events.Passes) (news : List Event) :
    news.foldl EventDispatcher.publish events =
      { events with channel := news.foldl Channel.send events.channel } := by
  induction news generalizing events with
  | nil => rfl
  | cons event news ih =>
    have still : ({ events with channel := events.channel.send event } : EventDispatcher).Passes :=
      ⟨passes.active, passes.hasListener⟩
    rw [List.foldl_cons, passes.publish, ih still]
    rfl

/-- A listener that reads goes on listening, and changes nothing of what was sent. -/
theorem receive (passes : events.Passes) (listener : Nat) (limit : Option Nat) :
    (events.receive listener limit).2.Passes ∧
      (events.receive listener limit).2.channel = events.channel := by
  unfold EventDispatcher.receive
  split
  · rename_i place listening
    obtain ⟨inside, _⟩ := List.getElem?_eq_some_iff.mp listening
    have still (next : Nat) : ({ events with
        listeners := events.listeners.set listener (some next) } : EventDispatcher).Passes :=
      ⟨passes.active, List.any_eq_true.mpr
        ⟨some next, List.mem_of_getElem? (List.getElem?_set_self inside), rfl⟩⟩
    cases limit <;> exact ⟨still _, rfl⟩
  · exact ⟨passes, rfl⟩

end Passes

end EventDispatcher

/-- What happens between a dispatcher and one of its listeners. -/
inductive Listening where
  /-- An event is published. -/
  | published (event : Event)
  /-- The listener reads, at most so many items if there is a limit. -/
  | reads (limit : Option Nat)
  deriving DecidableEq, Repr

namespace Listening

/-- The dispatcher afterwards. -/
def next (listener : Nat) (events : EventDispatcher) : Listening → EventDispatcher
  | published event => events.publish event
  | reads limit => (events.receive listener limit).2

/-- What the listener reads. -/
def receptions (listener : Nat) (events : EventDispatcher) : Listening → List (Reception Event)
  | published _ => []
  | reads limit => (events.receive listener limit).1

/-- The event that is published. -/
def event? : Listening → Option Event
  | published event => some event
  | reads _ => none

/-- All that a listener reads while this happens, and what it has not read in the end. -/
def heard (listener : Nat) (events : EventDispatcher) (schedule : List Listening) :
    List (Reception Event) :=
  collected (next listener) (receptions listener) events (schedule ++ [reads none])

variable {events : EventDispatcher} {listener place : Nat} {log : List Event}

/-- However a listener reads, what is published is sent. -/
theorem channel_next (passes : events.Passes) (schedule : List Listening) :
    (schedule.foldl (next listener) events).channel =
      (schedule.filterMap event?).foldl Channel.send events.channel := by
  induction schedule generalizing events with
  | nil => rfl
  | cons step schedule ih =>
    cases step with
    | published event =>
      have still : (events.publish event).Passes := by
        rw [passes.publish]
        exact ⟨passes.active, passes.hasListener⟩
      change (schedule.foldl _ (events.publish event)).channel = _
      rw [ih still, passes.publish]
      rfl
    | reads limit =>
      obtain ⟨still, same⟩ := passes.receive listener limit
      change (schedule.foldl _ (events.receive listener limit).2).channel = _
      rw [ih still, same]
      rfl

/-- A listener of a dispatcher that passes events on has read what the channel carried up to its
place. -/
structure Follows (events : EventDispatcher) (listener : Nat) (log : List Event) (place : Nat) :
    Prop where
  /-- The dispatcher passes events on. -/
  passes : events.Passes
  /-- The listener is at its place. -/
  listening : events.listeners[listener]? = some (some place)
  /-- The channel carried these events. -/
  carried : events.channel.Carried log
  /-- The listener has read no more than was sent. -/
  within : place ≤ log.length

namespace Follows

/-- What is published is carried, and has still to be read. -/
theorem published (follows : Follows events listener log place) (event : Event) :
    Follows (events.publish event) listener (log ++ [event]) place := by
  rw [follows.passes.publish]
  refine ⟨⟨follows.passes.active, follows.passes.hasListener⟩, follows.listening,
    follows.carried.send event, ?_⟩
  rw [List.length_append]
  exact Nat.le_add_right_of_le follows.within

/-- A listener reads at its place, and goes on from where it stops. -/
theorem receive_eq (follows : Follows events listener log place) (limit : Option Nat) :
    let read := events.channel.receiveUpTo (limit.getD (events.channel.held.length + 1)) place
    events.receive listener limit =
      (read.1, { events with listeners := events.listeners.set listener (some read.2) }) := by
  unfold EventDispatcher.receive
  rw [follows.listening]
  cases limit <;> rfl

/-- A listener that is told of no gap reads the next events, and is at a later place then. -/
theorem reads (follows : Follows events listener log place) {limit : Option Nat}
    (unlagged : ∀ missed, Reception.lagged missed ∉ (events.receive listener limit).1) :
    ∃ read later, (events.receive listener limit).1 = read.map .value ∧
      log.drop place = read ++ log.drop later ∧
      Follows (events.receive listener limit).2 listener log later := by
  have still := (follows.passes.receive listener limit).1
  rw [follows.receive_eq] at unlagged still ⊢
  have next := follows.carried.receiveUpTo_eq unlagged
  generalize limit.getD (events.channel.held.length + 1) = count at next still ⊢
  have short : ((log.drop place).take count).length ≤ log.length - place := by
    rw [List.length_take, List.length_drop]
    exact Nat.min_le_right _ _
  have within := follows.within
  rw [next] at still ⊢
  refine ⟨_, place + ((log.drop place).take count).length, rfl, ?_, still, ?_, follows.carried, ?_⟩
  · rw [← List.drop_drop]
    exact (List.prefix_iff_eq_append.mp (List.take_prefix count (log.drop place))).symm
  · obtain ⟨inside, _⟩ := List.getElem?_eq_some_iff.mp follows.listening
    exact List.getElem?_set_self inside
  · omega

end Follows

/-- A listener that is told of no gap reads what it has not read yet and what is published. -/
theorem heard_of_follows (follows : Follows events listener log place) (schedule : List Listening)
    (unlagged : ∀ missed, Reception.lagged missed ∉ heard listener events schedule) :
    heard listener events schedule =
      ((log ++ schedule.filterMap event?).drop place).map .value := by
  unfold heard at unlagged ⊢
  induction schedule generalizing events log place with
  | nil =>
    change (events.receive listener none).1 ++ [] = _
    change ∀ missed, _ ∉ (events.receive listener none).1 ++ [] at unlagged
    rw [List.append_nil, follows.receive_eq] at unlagged ⊢
    rw [List.filterMap_nil, List.append_nil]
    exact follows.carried.receiveAll_eq unlagged
  | cons step schedule ih =>
    rw [List.cons_append, collected] at unlagged ⊢
    have later := fun missed inside => unlagged missed (List.mem_append_right _ inside)
    cases step with
    | published event =>
      have heard := ih (follows.published event) later
      rw [List.append_assoc] at heard
      exact heard
    | reads limit =>
      obtain ⟨read, reached, receptions, unread, further⟩ :=
        follows.reads fun missed inside => unlagged missed (List.mem_append_left _ inside)
      have heard := ih further later
      change (events.receive listener limit).1 ++
        collected _ _ (events.receive listener limit).2 _ = _
      rw [receptions, heard, ← List.map_append, List.drop_append_of_le_length further.within,
        ← List.append_assoc, ← unread]
      exact congrArg _ (List.drop_append_of_le_length follows.within).symm

/-- A listener that arrives at an active dispatcher and is never told that it fell behind reads what
is published from then on, all of it and in order. -/
theorem hears (follows : Follows events listener log log.length) (schedule : List Listening)
    (unlagged : ∀ missed, Reception.lagged missed ∉ heard listener events schedule) :
    heard listener events schedule = (schedule.filterMap event?).map .value := by
  rw [heard_of_follows follows schedule unlagged, List.drop_left]

end Listening

end LogConsumer
