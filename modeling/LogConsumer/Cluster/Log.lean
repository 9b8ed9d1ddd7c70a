import LogConsumer.Message
import LogConsumer.Watermarks

/-!
# Partition logs

The log of one partition: records are added at its end and dropped from its front. A record
keeps its offset for as long as it is retained, so `PartitionLog.record?_produce` and
`PartitionLog.record?_deleteBefore` describe both operations offset by offset.
-/
namespace LogConsumer

/-- A record as it was produced. -/
structure Record where
  /-- The key, if there is one. -/
  key : Option Bytes
  /-- The content. -/
  payload : Bytes
  /-- When the record was written, in milliseconds. -/
  timestamp : Int
  deriving DecidableEq, Repr, Inhabited

/-- The retained records of a partition. -/
structure PartitionLog where
  /-- The offset of the oldest retained record. -/
  low : Nat := 0
  /-- The retained records, oldest first. -/
  records : List Record := []
  deriving DecidableEq, Repr, Inhabited

namespace PartitionLog

/-- The offset of the next record. -/
def high (log : PartitionLog) : Nat :=
  log.low + log.records.length

/-- The bounds of the retained part. -/
def watermarks (log : PartitionLog) : Watermarks :=
  { low := log.low, high := log.high }

/-- The retained record at an offset. -/
def record? (log : PartitionLog) (offset : Int) : Option Record :=
  if (log.low : Int) ≤ offset then log.records[(offset - log.low).toNat]? else none

/-- Add a record at the end; its offset is the old upper bound. -/
def produce (log : PartitionLog) (record : Record) : Nat × PartitionLog :=
  (log.high, { log with records := log.records ++ [record] })

/-- Drop the records below an offset; one outside the retained part means its nearer bound. -/
def deleteBefore (log : PartitionLog) (before : Int) : PartitionLog :=
  let cut := min (before - log.low).toNat log.records.length
  { low := log.low + cut, records := log.records.drop cut }

/-- The offset of the first retained record written at a time or later. -/
def offsetForTime? (log : PartitionLog) (timestamp : Int) : Option Nat :=
  (log.records.findIdx? fun record => timestamp ≤ record.timestamp).map (log.low + ·)

/-- Adding a record makes it readable at the old upper bound and changes no other offset. -/
theorem record?_produce (log : PartitionLog) (record : Record) (offset : Int) :
    (log.produce record).2.record? offset =
      if offset = log.high then some record else log.record? offset := by
  simp only [record?, produce, high]
  by_cases retained : (log.low : Int) ≤ offset
  · simp only [retained, ↓reduceIte]
    by_cases last : offset = ((log.low + log.records.length : Nat) : Int)
    · have index : (offset - log.low).toNat = log.records.length := by omega
      rw [if_pos last, index, List.getElem?_append_right (Nat.le_refl _)]
      simp
    · simp only [last, ↓reduceIte]
      by_cases inside : (offset - log.low).toNat < log.records.length
      · rw [List.getElem?_append_left inside]
      · rw [List.getElem?_append_right (by omega), List.getElem?_eq_none (by simp; omega),
          List.getElem?_eq_none (by omega)]
  · simp only [retained, ↓reduceIte]
    rw [if_neg (by omega)]

/-- Dropping records hides the offsets below the new lower bound and changes no other one. -/
theorem record?_deleteBefore (log : PartitionLog) (before offset : Int) :
    (log.deleteBefore before).record? offset =
      if ((log.deleteBefore before).low : Int) ≤ offset then log.record? offset else none := by
  have lower : (log.deleteBefore before).low =
      log.low + min (before - log.low).toNat log.records.length := rfl
  have kept : (log.deleteBefore before).records =
      log.records.drop (min (before - log.low).toNat log.records.length) := rfl
  by_cases retained : ((log.deleteBefore before).low : Int) ≤ offset
  · rw [if_pos retained, record?, if_pos retained, record?, if_pos (by omega), kept,
      List.getElem?_drop]
    congr 1
    omega
  · rw [if_neg retained, record?, if_neg retained]

end PartitionLog

end LogConsumer
