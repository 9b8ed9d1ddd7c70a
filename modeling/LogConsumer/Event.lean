/-!
# Events

What a consumer tells its listeners about its life.
-/
namespace LogConsumer

/-- A change in the life of a consumer. -/
inductive Event where
  /-- A handle was installed, under this name. -/
  | connected (clientName : String)
  /-- The handle was closed, with the error of the close if it failed. -/
  | disconnected (error : Option String)
  /-- The consumer subscribed to these topics. -/
  | subscribed (topics : List String)
  /-- The subscription was dropped. -/
  | unsubscribed
  /-- The assignment was replaced by this many partitions. -/
  | assigned (partitions : Nat)
  /-- The assignment was dropped. -/
  | unassigned
  /-- Partitions were added to the assignment. -/
  | incrementalAssigned (added total : Nat)
  /-- Partitions were taken from the assignment. -/
  | incrementalUnassigned (removed total : Nat)
  /-- A consume loop began. -/
  | consumeLoopStarted
  /-- A consume loop ended. -/
  | consumeLoopStopped
  deriving DecidableEq, Repr, Inhabited

end LogConsumer
