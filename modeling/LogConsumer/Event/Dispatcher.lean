import LogConsumer.Event
import LogConsumer.Event.Channel

/-!
# Event dispatchers

The events of one consumer, handed to any number of listeners. Events are dropped while the
dispatcher is inactive or nobody listens.
-/
namespace LogConsumer

/-- The listeners of one consumer and the events on their way to them. -/
structure EventDispatcher where
  /-- The events sent last. -/
  channel : Channel Event := .ofCapacity 256
  /-- The place of each listener, in the order of their arrival; a listener that has left has
  none. -/
  listeners : List (Option Nat) := []
  /-- Events are passed on. -/
  active : Bool := false
  /-- The name that the last handle registered under. -/
  clientName : Option String := none
  deriving DecidableEq, Repr, Inhabited

namespace EventDispatcher

/-- A dispatcher whose channel holds at least this many events. -/
def ofCapacity (wanted : Nat) : EventDispatcher :=
  { channel := .ofCapacity wanted }

/-- Add a listener that sees what is published from now on; its number is the number of
listeners before it. -/
def listen (events : EventDispatcher) : Nat × EventDispatcher :=
  (events.listeners.length,
    { events with listeners := events.listeners ++ [some events.channel.sent] })

/-- Remove a listener. -/
def unlisten (events : EventDispatcher) (listener : Nat) : EventDispatcher :=
  { events with listeners := events.listeners.set listener none }

/-- Somebody listens. -/
def hasListener (events : EventDispatcher) : Bool :=
  events.listeners.any Option.isSome

/-- Pass an event on to the listeners. -/
def publish (events : EventDispatcher) (event : Event) : EventDispatcher :=
  if events.active && events.hasListener then
    { events with channel := events.channel.send event }
  else events

/-- What a listener reads, at most `limit` items if there is a limit. -/
def receive (events : EventDispatcher) (listener : Nat) (limit : Option Nat) :
    List (Reception Event) × EventDispatcher :=
  match events.listeners[listener]? with
  | some (some place) =>
    let (items, next) :=
      match limit with
      | some limit => events.channel.receiveUpTo limit place
      | none => events.channel.receiveAll place
    (items, { events with listeners := events.listeners.set listener (some next) })
  | _ => ([], events)

end EventDispatcher

end LogConsumer
