import LogConsumer.TopicPartition

/-!
# Partition sets

The partitions assigned to a consumer, in the order of their assignment, with a count that is
kept beside the entries. Removal takes, for each partition named, the first entry with its key.
-/
namespace LogConsumer

/-- Assigned partitions and their number. -/
structure PartitionSet where
  /-- The partitions, in the order of their assignment. -/
  entries : List TopicPartition := []
  /-- The number of partitions, counted as they come and go. -/
  count : Nat := 0
  deriving DecidableEq, Repr, Inhabited

namespace PartitionSet

/-- The partition is in the set. -/
def contains (set : PartitionSet) (key : PartitionKey) : Bool :=
  set.entries.any fun tp => tp.key = key

/-- The set of exactly these partitions. -/
def replace (_ : PartitionSet) (partitions : List TopicPartition) : PartitionSet :=
  { entries := partitions, count := partitions.length }

/-- The set with more partitions at its end; a partition may occur twice. -/
def extend (set : PartitionSet) (partitions : List TopicPartition) : PartitionSet :=
  { entries := set.entries ++ partitions, count := set.count + partitions.length }

/-- The set without the first entry of a partition, if there is one. -/
def removeFirst? (set : PartitionSet) (key : PartitionKey) : Option PartitionSet :=
  if set.contains key then
    some { entries := set.entries.eraseP fun tp => tp.key = key, count := set.count - 1 }
  else none

/-- The set without the first entry of each partition named, and the partitions named that
matched no entry left, in their order. -/
def removeMatching (set : PartitionSet) :
    List TopicPartition → PartitionSet × List TopicPartition
  | [] => (set, [])
  | target :: targets =>
    match set.removeFirst? target.key with
    | some smaller => smaller.removeMatching targets
    | none =>
      let (final, unmatched) := set.removeMatching targets
      (final, target :: unmatched)

/-- The set without partitions. -/
def clear (_ : PartitionSet) : PartitionSet :=
  {}

end PartitionSet

end LogConsumer
