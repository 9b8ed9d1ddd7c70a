import LogConsumer.Proofs.Client.Committing

/-!
# Looking up positions and times

What reading positions and looking times up answer, entry by entry. The look-up of a time finds the
first retained record that was written then or later, whatever the order of the times in the log
(`PartitionLog.offsetForTime?_eq_some_iff`), so a later time is found at the same offset or further
on. An entry that is answered is conclusive if it has an offset that was computed and no error, or
an error and no offset: every position is, and a time is exactly if the place that was asked for is
a time or none at all (`offsetForTime_conclusive_iff`).
-/
namespace LogConsumer

namespace PartitionLog

/-- The record at an offset is retained, and was written at a time or later. -/
def HasSince (log : PartitionLog) (timestamp offset : Int) : Prop :=
  ∃ record, log.record? offset = some record ∧ timestamp ≤ record.timestamp

/-- A record that was written at a time or later is retained at an offset exactly if one stands as
far behind the first one retained. -/
theorem hasSince_iff {log : PartitionLog} {timestamp offset : Int} :
    log.HasSince timestamp offset ↔
      ∃ index record, offset = ((log.low + index : Nat) : Int) ∧
        log.records[index]? = some record ∧ timestamp ≤ record.timestamp := by
  constructor
  · rintro ⟨record, retained, written⟩
    have low := (bounds_of_record? retained).1
    rw [record?, if_pos low] at retained
    exact ⟨(offset - log.low).toNat, record, by omega, retained, written⟩
  · rintro ⟨index, record, rfl, listed, written⟩
    have behind : (((log.low + index : Nat) : Int) - log.low).toNat = index := by omega
    exact ⟨record, by rw [record?, if_pos (by omega), behind, listed], written⟩

/-- The look-up of a time finds the least offset of a retained record that was written then or
later. -/
theorem offsetForTime?_eq_some_iff {log : PartitionLog} {timestamp : Int} {offset : Nat} :
    log.offsetForTime? timestamp = some offset ↔
      log.HasSince timestamp offset ∧
        ∀ other, log.HasSince timestamp other → (offset : Int) ≤ other := by
  unfold offsetForTime?
  rw [Option.map_eq_some_iff]
  simp only [List.findIdx?_eq_some_iff_getElem, decide_eq_true_eq]
  constructor
  · rintro ⟨index, ⟨inside, written, sooner⟩, rfl⟩
    refine ⟨hasSince_iff.mpr ⟨index, _, rfl, List.getElem?_eq_getElem inside, written⟩, ?_⟩
    intro other since
    obtain ⟨place, record, rfl, listed, late⟩ := hasSince_iff.mp since
    obtain ⟨within, rfl⟩ := List.getElem?_eq_some_iff.mp listed
    have behind : ¬place < index := fun before => sooner place before late
    omega
  · rintro ⟨since, least⟩
    obtain ⟨index, record, place, listed, written⟩ := hasSince_iff.mp since
    obtain ⟨inside, rfl⟩ := List.getElem?_eq_some_iff.mp listed
    refine ⟨index, ⟨inside, written, fun before sooner late => ?_⟩, by omega⟩
    have bound := least ((log.low + before : Nat) : Int)
      (hasSince_iff.mpr ⟨before, _, rfl, List.getElem?_eq_getElem (by omega), late⟩)
    omega

/-- The look-up of a time finds nothing exactly if no record is retained that was written then or
later. -/
theorem offsetForTime?_eq_none_iff {log : PartitionLog} {timestamp : Int} :
    log.offsetForTime? timestamp = none ↔ ∀ offset, ¬log.HasSince timestamp offset := by
  unfold offsetForTime?
  rw [Option.map_eq_none_iff, List.findIdx?_eq_none_iff]
  constructor
  · intro early offset since
    obtain ⟨index, record, _, listed, late⟩ := hasSince_iff.mp since
    exact of_decide_eq_false (early record (List.mem_of_getElem? listed)) late
  · intro never record inside
    obtain ⟨index, listed⟩ := List.mem_iff_getElem?.mp inside
    exact decide_eq_false fun late => never _ (hasSince_iff.mpr ⟨index, record, rfl, listed, late⟩)

/-- What was written at a time or later is found no further on by an earlier time. -/
theorem offsetForTime?_mono {log : PartitionLog} {sooner later : Int} (ordered : sooner ≤ later)
    {offset : Nat} (found : log.offsetForTime? later = some offset) :
    ∃ first, log.offsetForTime? sooner = some first ∧ first ≤ offset := by
  obtain ⟨⟨record, retained, written⟩, _⟩ := offsetForTime?_eq_some_iff.mp found
  have since : log.HasSince sooner offset := ⟨record, retained, Int.le_trans ordered written⟩
  cases here : log.offsetForTime? sooner with
  | none => exact absurd since (offsetForTime?_eq_none_iff.mp here offset)
  | some first =>
    have least := (offsetForTime?_eq_some_iff.mp here).2 offset since
    exact ⟨first, rfl, Int.ofNat_le.mp least⟩

end PartitionLog

/-- The entry of an answer has no error and an offset that is computed, or an error and no offset.
-/
def TopicPartition.Conclusive (computed : Offset → Prop) (tp : TopicPartition) : Prop :=
  tp.error = .noError ∧ computed tp.offset ∨ tp.error ≠ .noError ∧ tp.offset = .invalid

/-- The place is an absolute offset. -/
def Offset.IsAbsolute (offset : Offset) : Prop :=
  offset.absolute?.isSome = true

namespace Client

/-- Every position that is read is conclusive. -/
theorem positionOf_conclusive (entries : List Assigned) (tp : TopicPartition) :
    (positionOf entries tp).Conclusive Offset.IsAbsolute := by
  unfold positionOf
  split
  · exact .inl ⟨rfl, rfl⟩
  · exact .inr ⟨nofun, rfl⟩

/-- What is answered for a time in a log: the offset of the first record that was written then or
later, or the end of the log where there is none. -/
theorem offsetForTime_eq {cluster : Cluster} {tp : TopicPartition} {timestamp : Int}
    {log : PartitionLog} (asked : tp.offset = .absolute timestamp)
    (found : cluster.log? tp.key = some log) :
    offsetForTime cluster tp = { tp with
      offset := ((log.offsetForTime? timestamp).map fun (first : Nat) =>
        Offset.absolute first).getD .ending
      error := .noError } := by
  have present : cluster.log tp.key = .ok log := by
    unfold Cluster.log? at found
    cases result : cluster.log tp.key with
    | error error => rw [result] at found; cases found
    | ok other => rw [result] at found; cases found; rfl
  rw [offsetForTime, asked, present]
  dsimp only [Offset.absolute?]
  cases log.offsetForTime? timestamp <;> rfl

/-- The offset that is answered for a time in a log is the least of a record that was written then
or later. -/
theorem offsetForTime_absolute_iff {cluster : Cluster} {tp : TopicPartition} {timestamp : Int}
    {log : PartitionLog} (asked : tp.offset = .absolute timestamp)
    (found : cluster.log? tp.key = some log) (offset : Int) :
    (offsetForTime cluster tp).offset = .absolute offset ↔
      log.HasSince timestamp offset ∧
        ∀ other, log.HasSince timestamp other → offset ≤ other := by
  rw [offsetForTime_eq asked found]
  dsimp only
  constructor
  · intro answered
    cases first : log.offsetForTime? timestamp with
    | none =>
      rw [first] at answered
      cases answered
    | some place =>
      rw [first] at answered
      cases answered
      exact PartitionLog.offsetForTime?_eq_some_iff.mp first
  · rintro ⟨since, least⟩
    obtain ⟨index, _, rfl, _⟩ := PartitionLog.hasSince_iff.mp since
    rw [PartitionLog.offsetForTime?_eq_some_iff.mpr ⟨since, least⟩]
    rfl

/-- The end is answered for a time in a log exactly if every record was written before it. -/
theorem offsetForTime_ending_iff {cluster : Cluster} {tp : TopicPartition} {timestamp : Int}
    {log : PartitionLog} (asked : tp.offset = .absolute timestamp)
    (found : cluster.log? tp.key = some log) :
    (offsetForTime cluster tp).offset = .ending ↔ ∀ offset, ¬log.HasSince timestamp offset := by
  rw [offsetForTime_eq asked found, ← PartitionLog.offsetForTime?_eq_none_iff]
  cases log.offsetForTime? timestamp with
  | none => exact iff_of_true rfl rfl
  | some first => exact iff_of_false nofun nofun

/-- A later time is answered in the same log with a place that is no sooner, and the end is the
last. -/
theorem offsetForTime_mono {cluster : Cluster} {sooner later : TopicPartition} {first last : Int}
    {log : PartitionLog} (asked : sooner.offset = .absolute first)
    (asked' : later.offset = .absolute last) (found : cluster.log? sooner.key = some log)
    (found' : cluster.log? later.key = some log) (ordered : first ≤ last) {offset : Int}
    (answered : (offsetForTime cluster later).offset = .absolute offset) :
    ∃ place, (offsetForTime cluster sooner).offset = .absolute place ∧ place ≤ offset := by
  obtain ⟨since, least⟩ := (offsetForTime_absolute_iff asked' found' offset).mp answered
  obtain ⟨index, _, rfl, _⟩ := PartitionLog.hasSince_iff.mp since
  obtain ⟨place, here, before⟩ := PartitionLog.offsetForTime?_mono ordered
    (PartitionLog.offsetForTime?_eq_some_iff.mpr ⟨since, least⟩)
  refine ⟨place, ?_, Int.ofNat_le.mpr before⟩
  rw [offsetForTime_eq asked found, here]
  rfl

/-- A partition that has no log fails with an error. -/
theorem log_error_code {cluster : Cluster} {key : PartitionKey} {error : ClientError}
    (missing : cluster.log key = .error error) : error.code ≠ .noError := by
  unfold Cluster.log at missing
  split at missing
  · cases missing
    nofun
  · split at missing
    · cases missing
      nofun
    · cases missing

/-- The answer for a time is conclusive exactly if the place that was asked for is a time or none at
all: another place stays in the answer beside the error. -/
theorem offsetForTime_conclusive_iff (cluster : Cluster) (tp : TopicPartition) :
    (offsetForTime cluster tp).Conclusive (fun offset => offset.IsAbsolute ∨ offset = .ending) ↔
      tp.offset.IsAbsolute ∨ tp.offset = .invalid := by
  unfold offsetForTime
  cases place : tp.offset.absolute? with
  | some timestamp =>
    have absolute : tp.offset.IsAbsolute := by rw [Offset.IsAbsolute, place]; rfl
    refine iff_of_true ?_ (.inl absolute)
    dsimp only
    cases located : cluster.log tp.key with
    | error error => exact .inr ⟨log_error_code located, rfl⟩
    | ok log =>
      dsimp only
      cases log.offsetForTime? timestamp with
      | none => exact .inl ⟨rfl, .inr rfl⟩
      | some first => exact .inl ⟨rfl, .inl rfl⟩
  | none =>
    have logical : ¬tp.offset.IsAbsolute := by rw [Offset.IsAbsolute, place]; nofun
    have failed : ({ tp with error := .invalidArg } : TopicPartition).error ≠ .noError := nofun
    constructor
    · rintro (⟨fine, _⟩ | ⟨_, invalid⟩)
      · exact absurd fine failed
      · exact .inr invalid
    · exact fun asked => .inr ⟨failed, asked.resolve_left logical⟩

/-- A look-up by time that is scripted to fail leaves its list as it came; any other succeeds and
answers every entry by itself. -/
theorem offsetsForTimes_run (asked : List TopicPartition) (link : Link) :
    offsetsForTimes asked link =
      (match (link.cluster.takeFault .offsetsForTimes).1 with
        | some error => (.error error, asked)
        | none => (.ok (), asked.map (offsetForTime link.cluster)),
        scripted .offsetsForTimes link) := by
  have script : (takeFault .offsetsForTimes).run link = _ := takeFault_run .offsetsForTimes link
  have logs : (link.cluster.takeFault .offsetsForTimes).2.topics = link.cluster.topics := by
    rw [Cluster.takeFault_rest]
  have same : offsetForTime (link.cluster.takeFault .offsetsForTimes).2 =
      offsetForTime link.cluster := funext (offsetForTime_congr logs)
  unfold offsetsForTimes
  rw [run_then, script]
  cases (link.cluster.takeFault .offsetsForTimes).1 with
  | some error => rfl
  | none =>
    dsimp only
    rw [run_read, same]
    rfl

end Client

namespace ClientCall

/-- Reading positions succeeds, answers every entry by itself and changes nothing. -/
theorem position_perform (asked : List TopicPartition) (link : Link) :
    (ClientCall.position asked).perform link =
      ({ outcome := .ok .done
         written := some (asked.map (Client.positionOf link.client.assignment)) }, link) :=
  rfl

/-- Looking times up answers with its outcome and the list written back. -/
theorem offsetsForTimes_perform (asked : List TopicPartition) (timeout : Nat) (link : Link) :
    (ClientCall.offsetsForTimes asked timeout).perform link =
      ({ outcome := (Client.offsetsForTimes asked link).1.1.map fun _ => .done
         written := some (Client.offsetsForTimes asked link).1.2 },
        (Client.offsetsForTimes asked link).2) :=
  rfl

end ClientCall

end LogConsumer
