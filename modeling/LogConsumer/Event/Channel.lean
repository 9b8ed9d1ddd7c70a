/-!
# Broadcast channels

A ring of the values sent last. Every receiver reads at its own place; one that has fallen
behind the ring learns how many values it missed and goes on at the oldest value still held.
-/
namespace LogConsumer

/-- The values sent last, and how many were sent in all. -/
structure Channel (α : Type) where
  /-- How many values the ring holds. -/
  capacity : Nat
  /-- How many values were sent. -/
  sent : Nat := 0
  /-- The values still held, oldest first. -/
  held : List α := []
  deriving DecidableEq, Repr, Inhabited

/-- What a receiver reads. -/
inductive Reception (α : Type) where
  /-- The next value. -/
  | value (item : α)
  /-- This many values were overwritten before they were read. -/
  | lagged (missed : Nat)
  deriving DecidableEq, Repr

namespace Channel

variable {α : Type}

/-- A channel for at least this many values: the ring has a power of two of places, and at
least one. -/
def ofCapacity (wanted : Nat) : Channel α :=
  { capacity := (max wanted 1).nextPowerOfTwo }

/-- The number of the oldest value still held. -/
def oldest (channel : Channel α) : Nat :=
  channel.sent - channel.held.length

/-- Send a value; a full ring drops its oldest one. -/
def send (channel : Channel α) (item : α) : Channel α :=
  let held := channel.held ++ [item]
  { channel with sent := channel.sent + 1, held := held.drop (held.length - channel.capacity) }

/-- Read at a place: what is there, and the place to read at next; nothing where no value has
been sent yet. -/
def receive? (channel : Channel α) (place : Nat) : Option (Reception α × Nat) :=
  if place < channel.oldest then
    some (.lagged (channel.oldest - place), channel.oldest)
  else
    channel.held[place - channel.oldest]?.map fun item => (.value item, place + 1)

/-- Read at most `limit` times from a place on. -/
def receiveUpTo (channel : Channel α) : (limit : Nat) → (place : Nat) → List (Reception α) × Nat
  | 0, place => ([], place)
  | limit + 1, place =>
    match channel.receive? place with
    | none => ([], place)
    | some (reception, next) =>
      let (rest, final) := channel.receiveUpTo limit next
      (reception :: rest, final)

/-- Read everything from a place on: at most one gap and the values held. -/
def receiveAll (channel : Channel α) (place : Nat) : List (Reception α) × Nat :=
  channel.receiveUpTo (channel.held.length + 1) place

end Channel

end LogConsumer
