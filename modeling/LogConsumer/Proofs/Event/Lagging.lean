import LogConsumer.Proofs.Event.Listening
import Mathlib.Data.List.Induction

/-!
# Falling behind

What listeners read, whatever happens at a dispatcher and in whatever order. A gap that a listener
is told of stands for as many events that it will never know (`filled`), and with its gaps filled in
this way it has read the first events that were published since its arrival, each at its place
(`Recalls`). That follows from what a ring of a fixed size hands out of the values that a receiver
has not read yet (`Channel.Ring.receiveUpTo_eq`): all of them, or a gap and as many as the ring
holds. The account of one listener is kept by every step (`Account.step`), and `gaps_accounted`
reads it off after a whole run, together with the fact that the readings of others do not matter.
-/
namespace LogConsumer

/-- The values that a reception stands for; those of a gap are unknown. -/
def Reception.values {α : Type} : Reception α → List (Option α)
  | value item => [some item]
  | lagged missed => List.replicate missed none

/-- What was received with its gaps filled in by unknown values. -/
def filled {α : Type} (items : List (Reception α)) : List (Option α) :=
  items.flatMap Reception.values

/-- These values, some of them unknown, are the first ones of a list, each at its place. -/
structure Recalls {α : Type} (seen : List (Option α)) (values : List α) : Prop where
  /-- Nothing is seen that is not there. -/
  length_le : seen.length ≤ values.length
  /-- What is known is what stands at its place. -/
  known : ∀ (place : Nat) (value : α), seen[place]? = some (some value) →
    values[place]? = some value

section Filled

variable {α : Type}

/-- What was received in two parts is filled part by part. -/
theorem filled_append (first second : List (Reception α)) :
    filled (first ++ second) = filled first ++ filled second :=
  List.flatMap_append

/-- Values that were received without a gap are all known. -/
theorem filled_map_value (values : List α) : filled (values.map .value) = values.map some := by
  induction values with
  | nil => rfl
  | cons value values ih =>
    change some value :: filled (values.map .value) = _
    rw [ih, List.map_cons]

/-- A gap before the rest stands for as many unknown values. -/
theorem filled_lagged (missed : Nat) (items : List (Reception α)) :
    filled (.lagged missed :: items) = List.replicate missed none ++ filled items :=
  rfl

end Filled

namespace Recalls

variable {α : Type} {seen more : List (Option α)} {values later : List α}

/-- Having seen nothing recalls every list. -/
theorem nil (values : List α) : Recalls [] values :=
  ⟨Nat.zero_le _, nofun⟩

/-- A list is recalled for good: values behind it change nothing. -/
theorem longer (recalls : Recalls seen values) (later : List α) :
    Recalls seen (values ++ later) where
  length_le := by
    have bound := recalls.length_le
    rw [List.length_append]
    omega
  known place value there := by
    have stands := recalls.known place value there
    have inside := (List.getElem?_eq_some_iff.mp stands).1
    rwa [List.getElem?_append_left inside]

/-- What is seen of the rest of a list goes on with what is seen of its beginning. -/
theorem append (first : Recalls seen values) (second : Recalls more (values.drop seen.length)) :
    Recalls (seen ++ more) values where
  length_le := by
    have bound := first.length_le
    have rest := second.length_le
    rw [List.length_drop] at rest
    rw [List.length_append]
    omega
  known place value there := by
    by_cases early : place < seen.length
    · rw [List.getElem?_append_left early] at there
      exact first.known place value there
    · rw [List.getElem?_append_right (Nat.not_lt.mp early)] at there
      have stands := second.known _ value there
      rw [List.getElem?_drop] at stands
      have place_eq : seen.length + (place - seen.length) = place := by omega
      rwa [place_eq] at stands

/-- The beginning of what is seen recalls what the whole recalls. -/
theorem of_append (whole : Recalls (seen ++ more) values) : Recalls seen values where
  length_le := by
    have bound := whole.length_le
    rw [List.length_append] at bound
    omega
  known place value there := by
    have inside := (List.getElem?_eq_some_iff.mp there).1
    apply whole.known
    rwa [List.getElem?_append_left inside]

/-- Values that are all known recall themselves. -/
theorem known_all (values : List α) : Recalls (values.map some) values where
  length_le := by simp
  known place value there := by
    rw [List.getElem?_map] at there
    simpa using there

/-- Unknown values recall whatever there is, as long as there is enough of it. -/
theorem unknown {count : Nat} (enough : count ≤ values.length) :
    Recalls (List.replicate count none) values where
  length_le := by simpa using enough
  known place value there := by
    have absent := List.mem_of_getElem? there
    simp at absent

end Recalls

/-- What a receiver is handed of the values that it has not read yet, by a ring of a size: all of
them, or, where they are more than the ring holds, a gap and the last of them. -/
def Reception.ofUnread {α : Type} (size : Nat) (unread : List α) : List (Reception α) :=
  if unread.length ≤ size then unread.map .value
  else
    .lagged (unread.length - size) :: (unread.drop (unread.length - size)).map .value

namespace Reception

variable {α : Type}

/-- With the gap filled, a receiver is handed everything that it has not read yet. -/
theorem length_filled_ofUnread (size : Nat) (unread : List α) :
    (filled (ofUnread size unread)).length = unread.length := by
  unfold ofUnread
  split
  · rw [filled_map_value, List.length_map]
  · rw [filled_lagged, filled_map_value]
    simp only [List.length_append, List.length_replicate, List.length_map, List.length_drop]
    omega

/-- What a receiver is handed recalls what it has not read yet. -/
theorem recalls_ofUnread (size : Nat) (unread : List α) :
    Recalls (filled (ofUnread size unread)) unread := by
  unfold ofUnread
  split
  · rw [filled_map_value]
    exact .known_all unread
  · rw [filled_lagged, filled_map_value]
    have gap : Recalls (List.replicate (unread.length - size) none) unread :=
      .unknown (Nat.sub_le _ _)
    apply gap.append
    rw [List.length_replicate]
    exact .known_all _

end Reception

namespace Channel

variable {α : Type} {channel : Channel α} {log : List α} {place : Nat}

/-- The channel carried these values, and holds as many of them as it has places. -/
structure Ring (channel : Channel α) (size : Nat) (log : List α) : Prop where
  /-- The channel carried the values. -/
  carried : channel.Carried log
  /-- The ring has this many places. -/
  capacity : channel.capacity = size
  /-- No place of the ring is left empty while there is a value for it. -/
  held : channel.held.length = min log.length size

/-- A receiver that has not fallen behind the ring is told of no gap. -/
theorem unlagged_of_near (near : channel.oldest ≤ place) (limit missed : Nat) :
    Reception.lagged missed ∉ (channel.receiveUpTo limit place).1 := by
  induction limit generalizing place with
  | zero => exact List.not_mem_nil
  | succ limit ih =>
    unfold receiveUpTo receive?
    rw [if_neg (Nat.not_lt.mpr near)]
    cases channel.held[place - channel.oldest]? with
    | none => exact List.not_mem_nil
    | some item =>
      have later := ih (Nat.le_succ_of_le near)
      simpa using later

namespace Ring

variable {size : Nat}

/-- A channel that was just opened holds nothing, in a ring of a power of two. -/
theorem opened (wanted : Nat) :
    (Channel.ofCapacity wanted : Channel α).Ring (max wanted 1).nextPowerOfTwo [] :=
  ⟨⟨rfl, List.suffix_refl _⟩, rfl, rfl⟩

/-- A value that is sent takes a place, if need be that of the oldest one. -/
theorem send (ring : channel.Ring size log) (item : α) :
    (channel.send item).Ring size (log ++ [item]) where
  carried := ring.carried.send item
  capacity := ring.capacity
  held := by
    have before := ring.held
    have places := ring.capacity
    simp only [Channel.send, List.length_drop, List.length_append, List.length_singleton]
    omega

/-- The oldest value still held is as far back as the ring reaches. -/
theorem oldest_eq (ring : channel.Ring size log) : channel.oldest = log.length - size := by
  have sent := ring.carried.sent
  have held := ring.held
  unfold oldest
  omega

/-- The ring holds the last values that were sent. -/
theorem held_eq (ring : channel.Ring size log) : channel.held = log.drop (log.length - size) := by
  have last := List.suffix_iff_eq_drop.mp ring.carried.held
  have count : log.length - channel.held.length = log.length - size := by
    have held := ring.held
    omega
  rwa [count] at last

/-- A receiver is handed what the ring has of the values that it has not read yet, as many items as
it may read, and goes on behind all that they stand for. -/
theorem receiveUpTo_eq (ring : channel.Ring size log) (limit place : Nat) :
    let items := (Reception.ofUnread size (log.drop place)).take limit
    channel.receiveUpTo limit place = (items, place + (filled items).length) := by
  intro items
  have oldest := ring.oldest_eq
  have near (start count : Nat) (here : channel.oldest ≤ start) :=
    ring.carried.receiveUpTo_eq (unlagged_of_near here count)
  by_cases behind : place < channel.oldest
  · have many : ¬ (log.drop place).length ≤ size := by
      rw [List.length_drop]
      omega
    cases limit with
    | zero => rfl
    | succ limit =>
      have gap : (log.drop place).length - size = channel.oldest - place := by
        rw [List.length_drop]
        omega
      have place_eq : place + (channel.oldest - place) = channel.oldest := by omega
      have items_eq : items = .lagged (channel.oldest - place) ::
          ((log.drop channel.oldest).take limit).map .value := by
        simp only [items, Reception.ofUnread, if_neg many, List.take_succ_cons, gap,
          List.drop_drop, place_eq, List.map_take]
      rw [items_eq, filled_lagged, filled_map_value]
      unfold receiveUpTo receive?
      rw [if_pos behind]
      simp only [near channel.oldest limit (Nat.le_refl _), List.length_append,
        List.length_replicate, List.length_map, Prod.mk.injEq, true_and]
      omega
  · have few : (log.drop place).length ≤ size := by
      rw [List.length_drop]
      omega
    have items_eq : items = ((log.drop place).take limit).map .value := by
      simp only [items, Reception.ofUnread, if_pos few, List.map_take]
    rw [items_eq, filled_map_value, List.length_map]
    exact near place limit (Nat.not_lt.mp behind)

/-- A receiver that reads everything is handed all that the ring has for it. -/
theorem receiveAll_eq (ring : channel.Ring size log) (place : Nat) :
    let items := Reception.ofUnread size (log.drop place)
    channel.receiveAll place = (items, place + (filled items).length) := by
  intro items
  have short : items.length ≤ channel.held.length + 1 := by
    have held := ring.held
    simp only [items, Reception.ofUnread]
    split <;> simp only [List.length_map, List.length_cons, List.length_drop] at * <;> omega
  have read := ring.receiveUpTo_eq (channel.held.length + 1) place
  unfold receiveAll
  rw [read, List.take_of_length_le short]

end Ring

end Channel

namespace EventDispatcher

/-- What can happen at a dispatcher. -/
inductive Step where
  /-- A listener arrives. -/
  | listen
  /-- A listener leaves. -/
  | leave (listener : Nat)
  /-- Events are passed on from now on. -/
  | activate
  /-- Events are dropped from now on. -/
  | deactivate
  /-- An event is published. -/
  | publish (event : Event)
  /-- A listener reads, at most so many items if there is a limit. -/
  | receive (listener : Nat) (limit : Option Nat)
  deriving DecidableEq, Repr

namespace Step

/-- The dispatcher after a step. -/
def next (events : EventDispatcher) : Step → EventDispatcher
  | listen => events.listen.2
  | leave listener => events.unlisten listener
  | activate => { events with active := true }
  | deactivate => { events with active := false }
  | publish event => events.publish event
  | receive listener limit => (events.receive listener limit).2

/-- What a listener reads in a step. -/
def receptions (listener : Nat) (events : EventDispatcher) : Step → List (Reception Event)
  | receive reader limit => if reader = listener then (events.receive reader limit).1 else []
  | _ => []

/-- The event that is published in a step for a listener: the dispatcher is active, and the listener
has arrived. -/
def published (listener : Nat) (events : EventDispatcher) : Step → List Event
  | publish event =>
    if events.active ∧ listener < events.listeners.length then [event] else []
  | _ => []

/-- Another listener reads. -/
def isForeign (listener : Nat) : Step → Bool
  | receive reader _ => reader ≠ listener
  | _ => false

end Step

/-- A listener that reads keeps what was sent, and moves no other listener. -/
theorem receive_rest (events : EventDispatcher) (reader : Nat) (limit : Option Nat) :
    (events.receive reader limit).2.channel = events.channel ∧
      (events.receive reader limit).2.listeners.length = events.listeners.length ∧
      ∀ {listener : Nat}, reader ≠ listener →
        (events.receive reader limit).2.listeners[listener]? = events.listeners[listener]? := by
  unfold EventDispatcher.receive
  split
  · exact ⟨rfl, List.length_set, fun other => List.getElem?_set_ne other⟩
  · exact ⟨rfl, rfl, fun _ => rfl⟩

/-- What a listener has read of what was published for it, where the channel carried these values:
while it listens, it is at its place among them. -/
structure Account (size : Nat) (listener : Nat) (events : EventDispatcher) (log : List Event)
    (read : List (Reception Event)) (published : List Event) : Prop where
  /-- The channel is a ring of the size. -/
  ring : events.channel.Ring size log
  /-- The listener has read the beginning of what was published for it. -/
  recalls : Recalls (filled read) published
  /-- Nothing is for a listener before it arrives. -/
  absent : events.listeners.length ≤ listener → read = [] ∧ published = []
  /-- The channel carried last what was published for a listener, and the listener is where its
  reading has come to in that. -/
  listening : ∀ place, events.listeners[listener]? = some (some place) →
    ∃ before, log = before ++ published ∧ place = before.length + (filled read).length

namespace Account

variable {size listener : Nat} {events : EventDispatcher} {log : List Event}
  {read : List (Reception Event)} {published : List Event}

/-- Nothing has happened at a dispatcher that was just made. -/
theorem opened (wanted listener : Nat) :
    Account (max wanted 1).nextPowerOfTwo listener (.ofCapacity wanted) [] [] [] where
  ring := .opened wanted
  recalls := .nil []
  absent _ := ⟨rfl, rfl⟩
  listening _ there := by cases there

/-- What a listener has not read of its events is what comes behind its place. -/
theorem unread_eq (account : Account size listener events log read published) {place : Nat}
    (there : events.listeners[listener]? = some (some place)) :
    log.drop place = published.drop (filled read).length := by
  obtain ⟨before, rfl, rfl⟩ := account.listening place there
  rw [← List.drop_drop, List.drop_left]

/-- A listener that arrives is where the last event was sent. -/
theorem listen (account : Account size listener events log read published) :
    Account size listener events.listen.2 log read published where
  ring := account.ring
  recalls := account.recalls
  absent later := by
    apply account.absent
    simp only [EventDispatcher.listen, List.length_append, List.length_singleton] at later
    omega
  listening place there := by
    simp only [EventDispatcher.listen] at there
    by_cases early : listener < events.listeners.length
    · rw [List.getElem?_append_left early] at there
      exact account.listening place there
    · obtain ⟨rfl, rfl⟩ := account.absent (Nat.not_lt.mp early)
      rw [List.getElem?_append_right (Nat.not_lt.mp early), List.getElem?_singleton] at there
      split at there
      · obtain rfl : events.channel.sent = place := by simpa using there
        exact ⟨log, (List.append_nil log).symm, account.ring.carried.sent⟩
      · cases there

/-- What the others are, and whether a listener is still there, does not matter to its account. -/
theorem congr (account : Account size listener events log read published)
    {others : EventDispatcher} (channel : others.channel = events.channel)
    (arrived : others.listeners.length = events.listeners.length)
    (place : ∀ place, others.listeners[listener]? = some (some place) →
      events.listeners[listener]? = some (some place)) :
    Account size listener others log read published where
  ring := channel ▸ account.ring
  recalls := account.recalls
  absent later := account.absent (arrived ▸ later)
  listening at_ there := account.listening at_ (place at_ there)

/-- An event that is sent comes behind the others, for every listener that has arrived. -/
theorem send (account : Account size listener events log read published) (event : Event) :
    Account size listener { events with channel := events.channel.send event } (log ++ [event]) read
      (published ++ if listener < events.listeners.length then [event] else []) where
  ring := account.ring.send event
  recalls := account.recalls.longer _
  absent later := by
    rw [if_neg (Nat.not_lt.mpr later), List.append_nil]
    exact account.absent later
  listening place there := by
    obtain ⟨inside, _⟩ := List.getElem?_eq_some_iff.mp there
    obtain ⟨before, rfl, place_eq⟩ := account.listening place there
    rw [if_pos inside]
    exact ⟨before, List.append_assoc _ _ _, place_eq⟩

/-- An event that is published while nobody listens is sent to nobody. -/
theorem unheard (account : Account size listener events log read published)
    (silent : events.hasListener = false) (event : Event) :
    Account size listener events log read
      (published ++ if listener < events.listeners.length then [event] else []) where
  ring := account.ring
  recalls := account.recalls.longer _
  absent later := by
    rw [if_neg (Nat.not_lt.mpr later), List.append_nil]
    exact account.absent later
  listening place there := by
    have listens : events.hasListener = true :=
      List.any_eq_true.mpr ⟨some place, List.mem_of_getElem? there, rfl⟩
    rw [silent] at listens
    contradiction

/-- Publishing keeps the account, whether or not the event is sent. -/
theorem publish (account : Account size listener events log read published) (event : Event) :
    ∃ log', Account size listener (events.publish event) log' read
      (published ++ Step.published listener events (.publish event)) := by
  simp only [Step.published, EventDispatcher.publish]
  cases active : events.active with
  | false =>
    simp only [Bool.false_and, Bool.false_eq_true, ↓reduceIte, false_and, List.append_nil]
    exact ⟨log, account⟩
  | true =>
    simp only [Bool.true_and, true_and]
    cases heard : events.hasListener with
    | false =>
      simp only [Bool.false_eq_true, ↓reduceIte]
      exact ⟨log, account.unheard heard event⟩
    | true =>
      have sent := account.send event
      rw [active] at sent
      exact ⟨log ++ [event], sent⟩

/-- What a listener that is still there is handed, and where it goes on. -/
theorem receive_eq (account : Account size listener events log read published) {place : Nat}
    (there : events.listeners[listener]? = some (some place)) (limit : Option Nat) :
    let all := Reception.ofUnread size (published.drop (filled read).length)
    let items := (limit.map all.take).getD all
    events.receive listener limit =
      (items, { events with
        listeners := events.listeners.set listener (some (place + (filled items).length)) }) := by
  intro all items
  have unread := account.unread_eq there
  unfold EventDispatcher.receive
  rw [there]
  cases limit with
  | none =>
    have whole := account.ring.receiveAll_eq place
    rw [unread] at whole
    dsimp only
    rw [whole]
    rfl
  | some limit =>
    have part := account.ring.receiveUpTo_eq limit place
    rw [unread] at part
    dsimp only
    rw [part]
    rfl

/-- Reading goes on in what was published. -/
theorem reads (account : Account size listener events log read published) (limit : Option Nat) :
    Account size listener (events.receive listener limit).2 log
      (read ++ (events.receive listener limit).1) published := by
  by_cases listens : ∃ place, events.listeners[listener]? = some (some place)
  · obtain ⟨place, there⟩ := listens
    obtain ⟨inside, _⟩ := List.getElem?_eq_some_iff.mp there
    obtain ⟨before, carried, place_eq⟩ := account.listening place there
    rw [account.receive_eq there limit]
    generalize all_eq :
      Reception.ofUnread size (published.drop (filled read).length) = all
    -- However many items are read, they are the first of those that there are.
    have first : ∃ rest, all = (limit.map all.take).getD all ++ rest := by
      cases limit with
      | none => exact ⟨[], (List.append_nil all).symm⟩
      | some limit => exact ⟨all.drop limit, (List.take_append_drop limit all).symm⟩
    generalize (limit.map all.take).getD all = items at first ⊢
    obtain ⟨rest, whole⟩ := first
    have recalls : Recalls (filled items) (published.drop (filled read).length) := by
      have handed := Reception.recalls_ofUnread size (published.drop (filled read).length)
      rw [all_eq, whole, filled_append] at handed
      exact handed.of_append
    refine ⟨account.ring, ?_, fun later => ?_, fun place' there' => ?_⟩
    · rw [filled_append]
      exact account.recalls.append recalls
    · rw [List.length_set] at later
      omega
    · rw [List.getElem?_set_self inside] at there'
      obtain rfl : place + (filled items).length = place' := by simpa using there'
      refine ⟨before, carried, ?_⟩
      rw [filled_append, List.length_append, place_eq, Nat.add_assoc]
  · have nothing : events.receive listener limit = ([], events) := by
      unfold EventDispatcher.receive
      split
      · rename_i place there
        exact absurd ⟨place, there⟩ listens
      · rfl
    rw [nothing, List.append_nil]
    exact account

/-- A step goes on with the account of every listener. -/
theorem step (account : Account size listener events log read published) (step : Step) :
    ∃ log', Account size listener (step.next events) log' (read ++ step.receptions listener events)
      (published ++ step.published listener events) := by
  -- But for events that are published and readings of its own, nothing is added to the account.
  have still (others : EventDispatcher) (kept : Account size listener others log read published) :
      ∃ log', Account size listener others log' (read ++ []) (published ++ []) :=
    ⟨log, by rwa [List.append_nil, List.append_nil]⟩
  cases step with
  | listen => exact still _ account.listen
  | leave other =>
    refine still _ (account.congr rfl List.length_set fun place there => ?_)
    simp only [Step.next, EventDispatcher.unlisten, List.getElem?_set] at there
    split at there
    · split at there <;> cases there
    · exact there
  | activate => exact still _ (account.congr rfl rfl fun _ there => there)
  | deactivate => exact still _ (account.congr rfl rfl fun _ there => there)
  | publish event =>
    obtain ⟨log', kept⟩ := account.publish event
    exact ⟨log', (List.append_nil read).symm ▸ kept⟩
  | receive reader limit =>
    simp only [Step.receptions, Step.published, Step.next]
    by_cases own : reader = listener
    · subst own
      rw [if_pos rfl, List.append_nil]
      exact ⟨log, account.reads limit⟩
    · rw [if_neg own]
      obtain ⟨channel, arrived, places⟩ := receive_rest events reader limit
      exact still _ (account.congr channel arrived fun place there => (places own) ▸ there)

/-- A run keeps the account of every listener. -/
theorem run (wanted listener : Nat) (steps : List Step) :
    let start := EventDispatcher.ofCapacity wanted
    ∃ log, Account (max wanted 1).nextPowerOfTwo listener (steps.foldl Step.next start) log
      (collected Step.next (Step.receptions listener) start steps)
      (collected Step.next (Step.published listener) start steps) := by
  intro start
  induction steps using List.reverseRecOn with
  | nil => exact ⟨[], .opened wanted listener⟩
  | append_singleton steps step ih =>
    obtain ⟨log, account⟩ := ih
    rw [collected_concat, collected_concat, List.foldl_append]
    exact account.step step

end Account

/-- Two dispatchers that differ at most in where the other listeners are. -/
structure AlikeFor (listener : Nat) (left right : EventDispatcher) : Prop where
  /-- The same was sent. -/
  channel : left.channel = right.channel
  /-- Both pass events on, or neither does. -/
  active : left.active = right.active
  /-- The same listeners are there. -/
  present : left.listeners.map Option.isSome = right.listeners.map Option.isSome
  /-- The listener is at the same place. -/
  own : left.listeners[listener]? = right.listeners[listener]?

namespace AlikeFor

variable {listener : Nat} {left right : EventDispatcher}

/-- As many listeners have arrived at dispatchers that are alike. -/
theorem arrived (alike : AlikeFor listener left right) :
    left.listeners.length = right.listeners.length := by
  simpa using congrArg List.length alike.present

/-- Somebody listens to both of two dispatchers that are alike, or to neither. -/
theorem hasListener (alike : AlikeFor listener left right) :
    left.hasListener = right.hasListener := by
  have same := congrArg (List.any · id) alike.present
  simpa [EventDispatcher.hasListener, List.any_map] using same

/-- A reading of another listener leaves a dispatcher alike. -/
theorem foreign (alike : AlikeFor listener left right) {reader : Nat} (other : reader ≠ listener)
    (limit : Option Nat) : AlikeFor listener (left.receive reader limit).2 right := by
  unfold EventDispatcher.receive
  split
  · rename_i place there
    refine ⟨alike.channel, alike.active, ?_, ?_⟩
    · rw [← alike.present, List.map_set]
      have here : (left.listeners.map Option.isSome)[reader]? = some true := by
        rw [List.getElem?_map, there]
        rfl
      obtain ⟨inside, value⟩ := List.getElem?_eq_some_iff.mp here
      rw [Option.isSome_some, ← value, List.set_getElem_self]
    · rw [List.getElem?_set_ne other]
      exact alike.own
  · exact alike

/-- A step that is no reading of another listener is answered the same at dispatchers that are
alike, and leaves them alike. -/
theorem step (alike : AlikeFor listener left right) {step : Step}
    (own : step.isForeign listener = false) :
    step.receptions listener left = step.receptions listener right ∧
      AlikeFor listener (step.next left) (step.next right) := by
  have arrived := alike.arrived
  cases step with
  | listen =>
    refine ⟨rfl, alike.channel, alike.active, ?_, ?_⟩
    · simp only [Step.next, EventDispatcher.listen, List.map_append, alike.present]
      rfl
    · simp only [Step.next, EventDispatcher.listen, List.getElem?_append, alike.own, arrived,
        alike.channel]
  | leave other =>
    refine ⟨rfl, alike.channel, alike.active, ?_, ?_⟩
    · simp only [Step.next, EventDispatcher.unlisten, List.map_set, alike.present]
    · simp only [Step.next, EventDispatcher.unlisten, List.getElem?_set, alike.own, arrived]
  | activate => exact ⟨rfl, alike.channel, rfl, alike.present, alike.own⟩
  | deactivate => exact ⟨rfl, alike.channel, rfl, alike.present, alike.own⟩
  | publish event =>
    refine ⟨rfl, ?_⟩
    simp only [Step.next, EventDispatcher.publish, alike.active, alike.hasListener]
    split
    · exact ⟨congrArg (Channel.send · event) alike.channel, rfl, alike.present, alike.own⟩
    · exact alike
  | receive reader limit =>
    obtain rfl : reader = listener := by simpa [Step.isForeign] using own
    simp only [Step.next, Step.receptions, ↓reduceIte, EventDispatcher.receive, alike.own]
    split
    · rw [alike.channel]
      refine ⟨rfl, rfl, alike.active, ?_, ?_⟩
      · simp only [List.map_set, alike.present]
      · simp only [List.getElem?_set_self', alike.own]
    · exact ⟨rfl, alike⟩

/-- What a listener reads over a run is the same at dispatchers that are alike, and if the readings
of the others are left out. -/
theorem receptions_eq (alike : AlikeFor listener left right) (steps : List Step) :
    collected Step.next (Step.receptions listener) left steps =
      collected Step.next (Step.receptions listener) right
        (steps.filter fun step => !step.isForeign listener) := by
  induction steps generalizing left right with
  | nil => rfl
  | cons step steps ih =>
    cases foreign : step.isForeign listener with
    | false =>
      obtain ⟨same, still⟩ := alike.step foreign
      rw [List.filter_cons_of_pos (by simp [foreign]), collected, collected, same, ih still]
    | true =>
      rw [List.filter_cons_of_neg (by simp [foreign]), collected]
      cases step with
      | receive reader limit =>
        have other : reader ≠ listener := by simpa [Step.isForeign] using foreign
        rw [Step.receptions, if_neg other, List.nil_append]
        exact ih (alike.foreign other limit)
      | _ => cases foreign

end AlikeFor

/-- A listener is there to read. -/
def Listens (events : EventDispatcher) (listener : Nat) : Prop :=
  ∃ place, events.listeners[listener]? = some (some place)

/-- Every listener reads what is published for it, with an account of what it missed. Whatever
happens at a dispatcher of whatever size, in whatever order: with its gaps filled in by unknown
events, what a listener has read is the beginning of what was published since its arrival while the
dispatcher was active. As long as it listens, it is handed all the rest: the events that it has not
read yet, if the ring holds that many; else a gap of just those that the ring has dropped, and then
the events still held, from the oldest on. It may take that in parts. And it reads the same if the
readings of all the others are left out. -/
theorem gaps_accounted (wanted listener : Nat) (steps : List Step) :
    let start := EventDispatcher.ofCapacity wanted
    let size := (max wanted 1).nextPowerOfTwo
    let events := steps.foldl Step.next start
    let read := collected Step.next (Step.receptions listener) start steps
    let published := collected Step.next (Step.published listener) start steps
    let unread := published.drop (filled read).length
    Recalls (filled read) published ∧
      (events.Listens listener →
        let rest := (events.receive listener none).1
        Recalls (filled (read ++ rest)) published ∧
          (filled (read ++ rest)).length = published.length ∧
          (unread.length ≤ size → rest = unread.map .value) ∧
          (size < unread.length →
            rest = .lagged (unread.length - size) :: events.channel.held.map .value ∧
              events.channel.held = unread.drop (unread.length - size)) ∧
          ∀ limit, (events.receive listener (some limit)).1 = rest.take limit) ∧
      collected Step.next (Step.receptions listener) start
        (steps.filter fun step => !step.isForeign listener) = read := by
  intro start size events read published unread
  obtain ⟨log, account⟩ := Account.run wanted listener steps
  refine ⟨account.recalls, ?_, ?_⟩
  · rintro ⟨place, there⟩ rest
    have rest_eq : rest = Reception.ofUnread size unread :=
      congrArg Prod.fst (account.receive_eq there none)
    have behind : log.drop place = unread := account.unread_eq there
    refine ⟨?_, ?_, fun few => ?_, fun many => ?_, fun limit => ?_⟩
    · rw [rest_eq, filled_append]
      exact account.recalls.append (Reception.recalls_ofUnread size unread)
    · have within : (filled read).length ≤ published.length := account.recalls.length_le
      rw [rest_eq, filled_append, List.length_append, Reception.length_filled_ofUnread,
        List.length_drop]
      omega
    · rw [rest_eq, Reception.ofUnread, if_pos few]
    · have held : events.channel.held = unread.drop (unread.length - size) := by
        have length := congrArg List.length behind
        rw [List.length_drop] at length
        -- The last of all that was sent are the last of what is unread, for that is more.
        have place_eq : place + (unread.length - size) = log.length - size := by omega
        rw [account.ring.held_eq, ← behind, List.drop_drop, behind, place_eq]
      rw [rest_eq, Reception.ofUnread, if_neg (Nat.not_le.mpr many), held]
      exact ⟨rfl, rfl⟩
    · rw [rest_eq]
      exact congrArg Prod.fst (account.receive_eq there (some limit))
  · have alike : AlikeFor listener start start := ⟨rfl, rfl, rfl, rfl⟩
    exact (alike.receptions_eq steps).symm

/-- Of two listeners, behind a ring of four places, one is overtaken by six events, reads on, and is
overtaken by three turns of the ring and more; an event that is published meanwhile to an inactive
dispatcher is nobody's. It has lost ten events then and is told so. -/
theorem gaps_accounted_overtaken :
    let news (first count : Nat) : List Step :=
      (List.range count).map fun number => .publish (.assigned (first + number))
    let steps : List Step :=
      [.publish .unsubscribed, .listen, .listen, .activate] ++ news 0 6 ++
        [.receive 0 (some 2), .receive 1 none, .deactivate, .publish .unassigned, .activate] ++
        news 6 11 ++ [.leave 1]
    let events := steps.foldl Step.next (.ofCapacity 3)
    let read := collected Step.next (Step.receptions 0) (.ofCapacity 3) steps
    let published := collected Step.next (Step.published 0) (.ofCapacity 3) steps
    let rest := (events.receive 0 none).1
    events.Listens 0 ∧ read = [.lagged 2, .value (.assigned 2)] ∧ published.length = 17 ∧
      rest = .lagged 10 :: events.channel.held.map .value ∧
      events.channel.held.head? = some (.assigned 13) ∧
      Recalls (filled (read ++ rest)) published ∧
      (filled (read ++ rest)).length = published.length := by
  intro news steps events read published rest
  have listens : events.Listens 0 := ⟨3, by decide +kernel⟩
  obtain ⟨_, handed, _⟩ := gaps_accounted 3 0 steps
  obtain ⟨recalls, whole, _, gap, _⟩ := handed listens
  have size : (max 3 1).nextPowerOfTwo = 4 := by decide +kernel
  have unread : (published.drop (filled read).length).length = 14 := by decide +kernel
  rw [size, unread] at gap
  obtain ⟨told, _⟩ := gap (by decide)
  exact ⟨listens, by decide +kernel, by decide +kernel, told, by decide +kernel, recalls, whole⟩

end EventDispatcher

end LogConsumer
