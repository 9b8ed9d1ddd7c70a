import LogConsumer.Proofs.Cluster.Logs
import LogConsumer.Proofs.Machines
import LogConsumer.Session.Step

/-!
# Logs in 64 bits

What a machine computes for a log: each sum and difference of offsets is stored in 64 bits with
sign, each count and index changes its width before it is used, a clamp has bounds in order, and a
drain takes no more records than there are. Where the offset after the last record of a log fits
(`PartitionLog.Fits`), producing and dropping are computed right whatever offset is given, and
reading is at any offset from the low watermark on. Below the low watermark the distance to it may
not fit, so nobody may read there.
-/
namespace LogConsumer

/-- A number brought between two bounds; there is none if the bounds are crossed. -/
def clamp? (number low high : Int) : Option Int :=
  if low ≤ high then some (max low (min number high)) else none

namespace PartitionLog

/-- The offset after the last record fits into 64 bits with sign. -/
def Fits (log : PartitionLog) : Prop :=
  Width.int64.holds log.high = true

instance (log : PartitionLog) : Decidable log.Fits :=
  inferInstanceAs (Decidable (_ = true))

/-- The offset of the retained record of an index, as a machine computes it. -/
def checkedOffset (log : PartitionLog) (index : Nat) : Option Int := do
  let distance ← Width.int64.checked index
  Width.int64.checked (log.low + distance)

/-- The offset of the next record, as a machine computes it. -/
def checkedHigh (log : PartitionLog) : Option Int :=
  log.checkedOffset log.records.length

/-- The bounds of the retained part, as a machine computes them. -/
def checkedWatermarks (log : PartitionLog) : Option Watermarks := do
  let high ← log.checkedHigh
  pure { low := log.low, high }

/-- The retained record at an offset, as a machine finds it: a distance below zero is no index. -/
def checkedRecord? (log : PartitionLog) (offset : Int) : Option (Option Record) := do
  let distance ← Width.int64.checked (offset - log.low)
  pure (if 0 ≤ distance then log.records[distance.toNat]? else none)

/-- Add a record at the end, as a machine does. -/
def checkedProduce (log : PartitionLog) (record : Record) : Option (Int × PartitionLog) := do
  let offset ← log.checkedHigh
  pure (offset, { log with records := log.records ++ [record] })

/-- How many records lie below an offset, as a machine counts them. -/
def checkedCut (log : PartitionLog) (before : Int) : Option Nat := do
  let high ← log.checkedHigh
  let place ← clamp? before log.low high
  let distance ← Width.int64.checked (place - log.low)
  let count ← Width.word64.checked distance
  pure count.toNat

/-- Drop the records below an offset, as a machine does. It stops if there are fewer than it is to
drop, and it would stop if the low watermark fell below zero. -/
def checkedDeleteBefore (log : PartitionLog) (before : Int) : Option PartitionLog := do
  let cut ← log.checkedCut before
  let low ← log.checkedOffset cut
  if log.records.length < cut ∨ low < 0 then none
  else some { low := low.toNat, records := log.records.drop cut }

/-- The offset of the first retained record written at a time or later, as a machine computes it. -/
def checkedOffsetForTime? (log : PartitionLog) (timestamp : Int) : Option (Option Int) :=
  match log.records.findIdx? fun record => timestamp ≤ record.timestamp with
  | none => some none
  | some index => (log.checkedOffset index).map some

variable {log : PartitionLog}

/-- A log fits if the offset after its last record is below the bound. -/
theorem fits_iff : log.Fits ↔ log.low + log.records.length < 9223372036854775808 := by
  rw [Fits, Width.int64_holds_iff, high]
  omega

/-- What lies from zero to the end of a log that fits, fits. -/
theorem Fits.checked (fits : log.Fits) {number : Nat} (within : number ≤ log.high) :
    Width.int64.checked number = some (number : Int) := by
  refine Width.checked_of_holds ((Width.int64_holds_iff _).mpr ?_)
  rw [fits_iff] at fits
  rw [high] at within
  omega

/-- The offset of a retained record, and the one after the last of them, are computed right. -/
theorem checkedOffset_eq (fits : log.Fits) {index : Nat} (within : index ≤ log.records.length) :
    log.checkedOffset index = some ((log.low + index : Nat) : Int) := by
  have distance : Width.int64.checked index = some (index : Int) :=
    fits.checked (by rw [high]; omega)
  have offset : Width.int64.checked (log.low + index : Nat) =
      some ((log.low + index : Nat) : Int) :=
    fits.checked (by rw [high]; omega)
  rw [Int.natCast_add] at offset
  rw [checkedOffset, bind_of_eq_some distance, offset, Int.natCast_add]

/-- The offset of the next record is computed right. -/
theorem checkedHigh_eq (fits : log.Fits) : log.checkedHigh = some (log.high : Int) :=
  checkedOffset_eq fits (Nat.le_refl _)

/-- The bounds are computed right. -/
theorem checkedWatermarks_eq (fits : log.Fits) : log.checkedWatermarks = some log.watermarks := by
  rw [checkedWatermarks, bind_of_eq_some (checkedHigh_eq fits)]
  rfl

/-- The record at an offset from the low watermark on is found right. -/
theorem checkedRecord?_eq {offset : Int} (retained : (log.low : Int) ≤ offset)
    (held : Width.int64.holds offset = true) :
    log.checkedRecord? offset = some (log.record? offset) := by
  have distance : Width.int64.checked (offset - log.low) = some (offset - log.low) := by
    refine Width.checked_of_holds ?_
    rw [Width.int64_holds_iff] at held ⊢
    omega
  have index : 0 ≤ offset - log.low := by omega
  rw [checkedRecord?, bind_of_eq_some distance, if_pos index, record?, if_pos retained]
  rfl

example : ({ low := 1 } : PartitionLog).checkedRecord? (-9223372036854775808) = none := by decide

/-- Adding a record is computed right. -/
theorem checkedProduce_eq (fits : log.Fits) (record : Record) :
    log.checkedProduce record = some ((log.high : Int), (log.produce record).2) := by
  rw [checkedProduce, bind_of_eq_some (checkedHigh_eq fits)]
  rfl

/-- The records below an offset are counted right: the bounds of the clamp are in order, and the
place that it gives is at most the length of the log away from the low watermark. -/
theorem checkedCut_eq (fits : log.Fits) (before : Int) :
    log.checkedCut before = some (min (before - log.low).toNat log.records.length) := by
  have bound := fits_iff.mp fits
  generalize counted : min (before - log.low).toNat log.records.length = count
  have few : count ≤ log.records.length := by omega
  have place : clamp? before log.low log.high = some ((log.low : Int) + count) := by
    have inOrder : (log.low : Int) ≤ log.high := by rw [high]; omega
    rw [clamp?, if_pos inOrder, high, Option.some.injEq]
    omega
  have apart : (log.low : Int) + count - log.low = count := by omega
  have distance : Width.int64.checked ((log.low : Int) + count - log.low) = some (count : Int) := by
    rw [apart, fits.checked (by rw [high]; omega)]
  have unsigned : Width.word64.checked (count : Int) = some (count : Int) := by
    refine Width.checked_of_holds ((Width.word64_holds_iff _).mpr ?_)
    omega
  rw [checkedCut, bind_of_eq_some (checkedHigh_eq fits), bind_of_eq_some place,
    bind_of_eq_some distance, bind_of_eq_some unsigned]
  rfl

/-- Dropping records is computed right, whatever the offset. -/
theorem checkedDeleteBefore_eq (fits : log.Fits) (before : Int) :
    log.checkedDeleteBefore before = some (log.deleteBefore before) := by
  let count := min (before - log.low).toNat log.records.length
  have few : count ≤ log.records.length := Nat.min_le_right _ _
  have sound : ¬(log.records.length < count ∨ ((log.low + count : Nat) : Int) < 0) := by omega
  rw [checkedDeleteBefore, bind_of_eq_some (checkedCut_eq fits before),
    bind_of_eq_some (checkedOffset_eq fits few), if_neg sound, Int.toNat_natCast]
  rfl

/-- The offset of a time is computed right. -/
theorem checkedOffsetForTime?_eq (fits : log.Fits) (timestamp : Int) :
    log.checkedOffsetForTime? timestamp =
      some ((log.offsetForTime? timestamp).map fun (offset : Nat) => (offset : Int)) := by
  unfold checkedOffsetForTime? offsetForTime?
  cases found : log.records.findIdx? fun record => timestamp ≤ record.timestamp with
  | none => rfl
  | some index =>
    have inside : index < log.records.length := (List.findIdx?_eq_some_iff_getElem.mp found).1
    dsimp only
    rw [checkedOffset_eq fits (Nat.le_of_lt inside)]
    rfl

end PartitionLog

namespace Cluster

/-- The logs fit into 64 bits with sign, and the partitions of each topic are counted in 32. -/
def Fits (cluster : Cluster) : Prop :=
  ∀ topic ∈ cluster.topics.entries,
    Width.int32.holds topic.2.length = true ∧ ∀ log ∈ topic.2, log.Fits

instance (cluster : Cluster) : Decidable cluster.Fits :=
  inferInstanceAs (Decidable (∀ topic ∈ cluster.topics.entries,
    Width.int32.holds topic.2.length = true ∧ ∀ log ∈ topic.2, log.Fits))

/-- The bounds of the retained part of a partition, as a machine computes them. -/
def checkedWatermarks (cluster : Cluster) (key : PartitionKey) :
    Option (Except ClientError Watermarks) :=
  match cluster.log key with
  | .error error => some (.error error)
  | .ok log => do
    let marks ← log.checkedWatermarks
    pure (.ok marks)

/-- The message of the record at an offset of a partition, as a machine finds it. -/
def checkedRead? (cluster : Cluster) (key : PartitionKey) (offset : Int) :
    Option (Option Message) :=
  match cluster.log? key with
  | none => some none
  | some log => do
    let found ← log.checkedRecord? offset
    pure (found.map fun record =>
      { topic := key.1
        partition := key.2
        offset
        key := record.key
        payload := some record.payload
        timestamp := some record.timestamp
        leaderEpoch := some 0 })

/-- Add a record to a partition, as a machine does. -/
def checkedProduce (cluster : Cluster) (key : PartitionKey) (record : Record) :
    Option (Except ClientError Int × Cluster) :=
  match cluster.log key with
  | .error error => some (.error error, cluster)
  | .ok log => do
    let (offset, log) ← log.checkedProduce record
    pure (.ok offset, cluster.putLog key log)

/-- Drop the records of a partition below an offset, as a machine does. -/
def checkedDeleteRecords (cluster : Cluster) (key : PartitionKey) (before : Int) :
    Option (Except ClientError Unit × Cluster) :=
  match cluster.log? key with
  | none => some (.error (.ofCode .unknownPartition), cluster)
  | some log => do
    let log ← log.checkedDeleteBefore before
    pure (.ok (), cluster.putLog key log)

/-- The number of partitions of a topic in 32 bits, as a machine counts them. -/
def checkedPartitionCount (cluster : Cluster) (topic : String) : Option Int :=
  Width.int32.checked (cluster.partitionCount topic)

variable {cluster : Cluster} {key : PartitionKey}

/-- Whether a cluster fits depends on its topics alone. -/
theorem Fits.congr {other : Cluster} (same : other.topics = cluster.topics)
    (fits : cluster.Fits) : other.Fits := by
  unfold Fits
  rwa [same]

/-- The topics that are found are among those that fit. -/
theorem Fits.topic (fits : cluster.Fits) {topic : String} {partitions : List PartitionLog}
    (found : cluster.topics.find? topic = some partitions) :
    Width.int32.holds partitions.length = true ∧ ∀ log ∈ partitions, log.Fits := by
  obtain ⟨entry, there, rfl⟩ := Option.map_eq_some_iff.mp found
  exact fits entry (List.mem_of_find?_eq_some there)

/-- Every log of a cluster that fits does. -/
theorem Fits.log (fits : cluster.Fits) {log : PartitionLog} (found : cluster.log? key = some log) :
    log.Fits := by
  rw [log?_eq] at found
  obtain ⟨partitions, there, here⟩ := Option.bind_eq_some_iff.mp found
  have inside : log ∈ partitions := by
    unfold partitionLog? at here
    split at here
    · exact List.mem_of_getElem? here
    · contradiction
  exact (fits.topic there).2 log inside

/-- A log of a cluster that fits does, where it is asked for by a call that fails without it. -/
theorem Fits.log_of_ok (fits : cluster.Fits) {log : PartitionLog}
    (found : cluster.log key = .ok log) : log.Fits := by
  have known : cluster.log? key = some log := by
    rw [log?, found]
    rfl
  exact fits.log known

/-- The partitions of a topic are counted right. -/
theorem checkedPartitionCount_eq (fits : cluster.Fits) (topic : String) :
    cluster.checkedPartitionCount topic = some (cluster.partitionCount topic : Int) := by
  refine Width.checked_of_holds ?_
  unfold partitionCount
  cases found : cluster.topics.find? topic with
  | none => rfl
  | some partitions => exact (fits.topic found).1

/-- The bounds of a partition are computed right. -/
theorem checkedWatermarks_eq (fits : cluster.Fits) (key : PartitionKey) :
    cluster.checkedWatermarks key = some (cluster.watermarks key) := by
  unfold checkedWatermarks watermarks
  cases found : cluster.log key with
  | error error => rfl
  | ok log =>
    dsimp only
    rw [PartitionLog.checkedWatermarks_eq (fits.log_of_ok found)]
    rfl

/-- A message is read right from the low watermark on. -/
theorem checkedRead?_eq {offset : Int}
    (retained : ∀ log, cluster.log? key = some log → (log.low : Int) ≤ offset)
    (held : Width.int64.holds offset = true) :
    cluster.checkedRead? key offset = some (cluster.read? key offset) := by
  unfold checkedRead? read?
  cases found : cluster.log? key with
  | none => rfl
  | some log =>
    dsimp only
    rw [PartitionLog.checkedRecord?_eq (retained log found) held]
    simp only [Option.bind_eq_bind, Option.bind_some, Option.pure_def]
    cases log.record? offset <;> rfl

/-- Producing is computed right. -/
theorem checkedProduce_eq (fits : cluster.Fits) (key : PartitionKey) (record : Record) :
    cluster.checkedProduce key record =
      some ((cluster.produce key record).1.map fun (offset : Nat) => (offset : Int),
        (cluster.produce key record).2) := by
  unfold checkedProduce produce
  cases found : cluster.log key with
  | error error => rfl
  | ok log =>
    dsimp only
    rw [PartitionLog.checkedProduce_eq (fits.log_of_ok found)]
    rfl

/-- Deleting is computed right, whatever the offset. -/
theorem checkedDeleteRecords_eq (fits : cluster.Fits) (key : PartitionKey) (before : Int) :
    cluster.checkedDeleteRecords key before = some (cluster.deleteRecords key before) := by
  unfold checkedDeleteRecords deleteRecords
  cases found : cluster.log? key with
  | none => rfl
  | some log =>
    dsimp only
    rw [PartitionLog.checkedDeleteBefore_eq (fits.log found)]
    rfl

end Cluster

end LogConsumer
