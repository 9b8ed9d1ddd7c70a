import LogConsumer.Cluster

/-!
# Logs of a cluster

What the operations on a cluster do to the log of one partition. A log that is replaced leaves
every other log as it was, so producing and deleting are described by `log?_putLog` and the laws
of `PartitionLog` alone. The position that reading comes to from an offset, once the records below
the lower bound are gone, is `Cluster.floor`; it only rises while the log is kept.
-/
namespace LogConsumer

namespace PartitionLog

/-- A retained record lies between the bounds of the log. -/
theorem bounds_of_record? {log : PartitionLog} {offset : Int} {record : Record}
    (retained : log.record? offset = some record) :
    (log.low : Int) ≤ offset ∧ offset < log.high := by
  unfold record? at retained
  split at retained
  · rename_i low
    obtain ⟨inside, _⟩ := List.getElem?_eq_some_iff.mp retained
    simp only [high]
    omega
  · contradiction

/-- Adding a record raises the upper bound by one and leaves the lower bound. -/
theorem produce_bounds (log : PartitionLog) (record : Record) :
    (log.produce record).2.low = log.low ∧ (log.produce record).2.high = log.high + 1 := by
  simp only [produce, high, List.length_append, List.length_singleton]
  exact ⟨trivial, by omega⟩

/-- Dropping records raises the lower bound at most up to the upper one, which stays. -/
theorem deleteBefore_bounds (log : PartitionLog) (before : Int) :
    log.low ≤ (log.deleteBefore before).low ∧ (log.deleteBefore before).high = log.high := by
  simp only [deleteBefore, high, List.length_drop]
  omega

/-- Dropping records moves the lower bound to where it is asked for, as far as that lies between the
bounds. -/
theorem deleteBefore_low (log : PartitionLog) (before : Int) :
    ((log.deleteBefore before).low : Int) = max (log.low : Int) (min before (log.high : Int)) := by
  simp only [deleteBefore, high]
  omega

/-- Dropping records twice drops what is below the higher of the two offsets. -/
theorem deleteBefore_deleteBefore (log : PartitionLog) (first second : Int) :
    (log.deleteBefore first).deleteBefore second = log.deleteBefore (max first second) := by
  simp only [deleteBefore, List.length_drop, List.drop_drop, PartitionLog.mk.injEq]
  constructor
  · omega
  · congr 1
    omega

end PartitionLog

namespace Cluster

/-- A partition has a log where its topic has one at its number. -/
theorem log?_eq (cluster : Cluster) (key : PartitionKey) :
    cluster.log? key =
      (cluster.topics.find? key.1).bind fun partitions => partitionLog? partitions key.2 := by
  unfold log? log
  cases cluster.topics.find? key.1 with
  | none => rfl
  | some partitions =>
    rw [Option.bind_some]
    dsimp only
    cases partitionLog? partitions key.2 <;> rfl

/-- Clusters with the same topics have the same logs. -/
theorem log?_congr {left right : Cluster} (same : left.topics = right.topics)
    (key : PartitionKey) : left.log? key = right.log? key := by
  rw [log?_eq, log?_eq, same]

/-- Replacing an element of a list of logs changes the log at its own number only. -/
private theorem partitionLog?_set {partitions : List PartitionLog} {number other : Int}
    {old new : PartitionLog} (present : partitionLog? partitions number = some old) :
    partitionLog? (partitions.set number.toNat new) other =
      if other = number then some new else partitionLog? partitions other := by
  unfold partitionLog? at present ⊢
  split at present
  · rename_i nonneg
    obtain ⟨inside, _⟩ := List.getElem?_eq_some_iff.mp present
    by_cases same : other = number
    · subst same
      rw [if_pos nonneg, if_pos rfl, List.getElem?_set_self inside]
    · by_cases concrete : 0 ≤ other
      · rw [if_pos concrete, if_neg same, if_pos concrete, List.getElem?_set_ne (by omega)]
      · rw [if_neg concrete, if_neg same, if_neg concrete]
  · contradiction

/-- Replacing a log that exists changes no other log. -/
theorem log?_putLog {cluster : Cluster} {key : PartitionKey} {old : PartitionLog}
    (present : cluster.log? key = some old) (new : PartitionLog) (other : PartitionKey) :
    (cluster.putLog key new).log? other = if other = key then some new else cluster.log? other := by
  rw [log?_eq] at present
  cases topic : cluster.topics.find? key.1 with
  | none => simp [topic] at present
  | some partitions =>
    have here : partitionLog? partitions key.2 = some old := by simpa [topic] using present
    have replaced : (cluster.putLog key new).topics =
        cluster.topics.insert key.1 (partitions.set key.2.toNat new) := by
      simp [putLog, topic]
    rw [log?_eq, replaced, Table.find?_insert, log?_eq]
    by_cases sameTopic : key.1 = other.1
    · rw [if_pos sameTopic, Option.bind_some, partitionLog?_set here, ← sameTopic, topic,
        Option.bind_some]
      by_cases samePartition : other.2 = key.2
      · rw [if_pos samePartition, if_pos (Prod.ext sameTopic.symm samePartition)]
      · rw [if_neg samePartition, if_neg (fun same => samePartition (congrArg Prod.snd same))]
    · rw [if_neg sameTopic, if_neg (fun same => sameTopic (congrArg Prod.fst same).symm)]

/-- Replacing a log keeps everything of the cluster but its topics. -/
theorem putLog_rest (cluster : Cluster) (key : PartitionKey) (new : PartitionLog) :
    cluster.putLog key new = { cluster with topics := (cluster.putLog key new).topics } := by
  unfold putLog
  split <;> rfl

/-- Of two logs that take the place of one the later one counts. -/
theorem putLog_putLog (cluster : Cluster) (key : PartitionKey) (first second : PartitionLog) :
    (cluster.putLog key first).putLog key second = cluster.putLog key second := by
  cases topic : cluster.topics.find? key.1 with
  | none => simp [putLog, topic]
  | some partitions => simp [putLog, topic, Table.insert_insert]

/-- The bounds of a partition are those of its log. -/
theorem watermarks_of_log? {cluster : Cluster} {key : PartitionKey} {log : PartitionLog}
    (found : cluster.log? key = some log) : cluster.watermarks key = .ok log.watermarks := by
  unfold log? at found
  unfold watermarks
  cases present : cluster.log key with
  | error error => simp [present, Except.toOption] at found
  | ok other =>
    obtain rfl : other = log := by simpa [present, Except.toOption] using found
    rfl

/-- An offset of a partition can be read exactly if its log holds a record there. -/
theorem isSome_read? {cluster : Cluster} {key : PartitionKey} {log : PartitionLog}
    (found : cluster.log? key = some log) (offset : Int) :
    (cluster.read? key offset).isSome = (log.record? offset).isSome := by
  simp only [read?, found, bind, Option.bind]
  cases log.record? offset <;> rfl

/-- Producing fails without a log and changes nothing then; else it answers with the upper bound
of the log and replaces the log by the longer one. -/
theorem produce_cases (cluster : Cluster) (key : PartitionKey) (record : Record) :
    (cluster.log? key = none ∧ ∃ error, cluster.produce key record = (.error error, cluster)) ∨
    ∃ log, cluster.log? key = some log ∧
      cluster.produce key record =
        (.ok log.high, cluster.putLog key (log.produce record).2) := by
  unfold produce log?
  cases cluster.log key with
  | error error => exact .inl ⟨rfl, error, rfl⟩
  | ok log => exact .inr ⟨log, rfl, rfl⟩

/-- A produce that fails changes nothing. -/
theorem produce_of_error {cluster : Cluster} {key : PartitionKey} {record : Record}
    {error : ClientError} (failed : (cluster.produce key record).1 = .error error) :
    (cluster.produce key record).2 = cluster := by
  obtain ⟨_, _, result⟩ | ⟨_, _, result⟩ := cluster.produce_cases key record <;> rw [result]
  rw [result] at failed
  contradiction

/-- Producing keeps everything of the cluster but its topics. -/
theorem produce_rest (cluster : Cluster) (key : PartitionKey) (record : Record) :
    (cluster.produce key record).2 =
      { cluster with topics := (cluster.produce key record).2.topics } := by
  obtain ⟨_, error, result⟩ | ⟨log, _, result⟩ := cluster.produce_cases key record <;> rw [result]
  exact cluster.putLog_rest key _

/-- Deleting fails without a log and changes nothing then; else it replaces the log by what is
left of it. -/
theorem deleteRecords_cases (cluster : Cluster) (key : PartitionKey) (before : Int) :
    (cluster.log? key = none ∧
      ∃ error, cluster.deleteRecords key before = (.error error, cluster)) ∨
    ∃ log, cluster.log? key = some log ∧
      cluster.deleteRecords key before =
        (.ok (), cluster.putLog key (log.deleteBefore before)) := by
  unfold deleteRecords
  cases cluster.log? key with
  | none => exact .inl ⟨rfl, _, rfl⟩
  | some log => exact .inr ⟨log, rfl, rfl⟩

/-- A deletion that fails changes nothing. -/
theorem deleteRecords_of_error {cluster : Cluster} {key : PartitionKey} {before : Int}
    {error : ClientError} (failed : (cluster.deleteRecords key before).1 = .error error) :
    (cluster.deleteRecords key before).2 = cluster := by
  obtain ⟨_, _, result⟩ | ⟨_, _, result⟩ := cluster.deleteRecords_cases key before <;> rw [result]
  rw [result] at failed
  contradiction

/-- Deleting from one partition twice is deleting up to the higher of the two offsets. -/
theorem deleteRecords_deleteRecords (cluster : Cluster) (key : PartitionKey) (first second : Int) :
    (cluster.deleteRecords key first).2.deleteRecords key second =
      cluster.deleteRecords key (max first second) := by
  cases present : cluster.log? key with
  | none => simp [deleteRecords, present]
  | some log =>
    have shorter : (cluster.putLog key (log.deleteBefore first)).log? key =
        some (log.deleteBefore first) := by
      rw [log?_putLog present, if_pos rfl]
    simp only [deleteRecords, present, shorter, putLog_putLog,
      PartitionLog.deleteBefore_deleteBefore]

/-- A new topic brings empty logs and leaves the logs of other topics. -/
theorem log?_createTopic (cluster : Cluster) (topic : String) (partitions : Nat)
    (key : PartitionKey) :
    (cluster.createTopic topic partitions).log? key =
      if topic = key.1 then partitionLog? (List.replicate partitions {}) key.2
      else cluster.log? key := by
  rw [log?_eq, createTopic, Table.find?_insert, log?_eq]
  split <;> rfl

/-- Every log of a new topic is empty. -/
theorem partitionLog?_replicate {partitions : Nat} {number : Int} {log : PartitionLog}
    (found : partitionLog? (List.replicate partitions {}) number = some log) : log = {} := by
  unfold partitionLog? at found
  split at found
  · exact (List.mem_replicate.mp (List.mem_of_getElem? found)).2
  · contradiction

/-- How a call comes out depends on the scripts alone. -/
theorem takeFault_congr {left right : Cluster} (same : left.faults = right.faults)
    (primitive : Primitive) : (left.takeFault primitive).1 = (right.takeFault primitive).1 := by
  unfold takeFault script
  rw [same]
  split <;> rfl

/-- A call comes out as the first entry of the script says, if there is one. -/
theorem takeFault_eq (cluster : Cluster) (primitive : Primitive) :
    (cluster.takeFault primitive).1 = (cluster.script primitive).head?.join := by
  unfold takeFault
  split <;> simp_all

/-- A call that is made leaves the rest of its script. -/
theorem script_takeFault (cluster : Cluster) (primitive : Primitive) :
    (cluster.takeFault primitive).2.script primitive = (cluster.script primitive).tail := by
  unfold takeFault
  cases scripted : cluster.script primitive with
  | nil => exact scripted
  | cons outcome rest => simp [script]

/-- A call that is made leaves the scripts of other primitives. -/
theorem script_takeFault_other {primitive other : Primitive} (differs : other ≠ primitive)
    (cluster : Cluster) :
    (cluster.takeFault other).2.script primitive = cluster.script primitive := by
  unfold takeFault
  split
  · rfl
  · simp only [script, Table.find?_insert, if_neg differs]

/-- How a call comes out does not depend on the scripts of other primitives. -/
theorem takeFault_other {primitive other : Primitive} (differs : other ≠ primitive)
    (cluster : Cluster) :
    ((cluster.takeFault other).2.takeFault primitive).1 = (cluster.takeFault primitive).1 := by
  rw [takeFault_eq, takeFault_eq, script_takeFault_other differs]

/-- Using up a script changes nothing but the scripts. -/
theorem takeFault_rest (cluster : Cluster) (primitive : Primitive) :
    (cluster.takeFault primitive).2 =
      { cluster with faults := (cluster.takeFault primitive).2.faults } := by
  unfold takeFault
  split <;> rfl

/-- The lowest retained offset of a partition, zero where there is no log. -/
def low (cluster : Cluster) (key : PartitionKey) : Int :=
  ((cluster.log? key).map fun log => (log.low : Int)).getD 0

/-- Where reading goes on from an offset: at the offset itself, or at the lowest retained record
once the records below it are gone. -/
def floor (cluster : Cluster) (key : PartitionKey) (offset : Int) : Int :=
  match cluster.log? key with
  | some log => max offset log.low
  | none => offset

/-- The lowest retained offset depends on the topics alone. -/
theorem low_congr {left right : Cluster} (same : left.topics = right.topics)
    (key : PartitionKey) : left.low key = right.low key := by
  unfold low
  rw [log?_congr same]

/-- The lowest retained offset is where reading goes on from zero. -/
theorem low_eq_floor (cluster : Cluster) (key : PartitionKey) :
    cluster.low key = cluster.floor key 0 := by
  unfold low floor
  cases cluster.log? key with
  | none => rfl
  | some log => exact (Int.max_eq_right (Int.natCast_nonneg log.low)).symm

/-- Reading never goes back. -/
theorem le_floor (cluster : Cluster) (key : PartitionKey) (offset : Int) :
    offset ≤ cluster.floor key offset := by
  unfold floor
  split
  · exact Int.le_max_left _ _
  · exact Int.le_refl _

/-- What reading passes over without a record is no longer retained. -/
theorem lt_low_of_lt_floor {cluster : Cluster} {key : PartitionKey} {position offset : Int}
    (ahead : position ≤ offset) (behind : offset < cluster.floor key position) :
    offset < cluster.low key := by
  unfold floor at behind
  unfold low
  split at behind
  · rename_i found
    rw [found, Option.map_some, Option.getD_some]
    omega
  · omega

/-- Any place between an offset and the place where reading goes on from it leads to the same
place. -/
theorem floor_eq_of_between {cluster : Cluster} {key : PartitionKey} {offset place : Int}
    (above : offset ≤ place) (below : place ≤ cluster.floor key offset) :
    cluster.floor key place = cluster.floor key offset := by
  unfold floor at below ⊢
  split <;> simp_all <;> omega

/-- Where there is a log, reading goes on at the offset or at the lower bound of the log. -/
theorem floor_of_log? {cluster : Cluster} {key : PartitionKey} {log : PartitionLog}
    (found : cluster.log? key = some log) (offset : Int) :
    cluster.floor key offset = max offset (cluster.low key) := by
  simp [floor, low, found]

end Cluster

end LogConsumer
