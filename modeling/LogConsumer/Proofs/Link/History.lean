import LogConsumer.Proofs.Link.Delivery

/-!
# The history of a partition

All that was produced to a partition since its topic was created, and what the log still holds of
it. `PartitionLog.Represents` says that a log holds a history from its lower bound on, at the
offsets at which the history was written. Producing makes the history longer and deleting moves the
lower bound, so the log represents its history after any run that does not create the topic anew
(`Chronicle.run`), and `log_of_creation` reads the laws of an append-only log off from that.
-/
namespace LogConsumer

namespace PartitionLog

/-- The log holds what is left of a history: the records from its lower bound on. -/
structure Represents (log : PartitionLog) (history : List Record) : Prop where
  /-- Nothing is dropped that was not there. -/
  low_le : log.low ≤ history.length
  /-- The rest of the history is there. -/
  records_eq : log.records = history.drop log.low

namespace Represents

variable {log : PartitionLog} {history : List Record}

/-- An empty log has no history. -/
theorem nil : ({} : PartitionLog).Represents [] :=
  ⟨Nat.le_refl 0, rfl⟩

/-- The upper bound of a log is how much was ever written. -/
theorem high_eq (represents : log.Represents history) : log.high = history.length := by
  have inside := represents.low_le
  rw [high, represents.records_eq, List.length_drop]
  omega

/-- A record that is added is the last of the history. -/
theorem produce (represents : log.Represents history) (record : Record) :
    (log.produce record).2.Represents (history ++ [record]) where
  low_le := by
    have inside := represents.low_le
    rw [(log.produce_bounds record).1, List.length_append]
    omega
  records_eq := by
    rw [(log.produce_bounds record).1, List.drop_append_of_le_length represents.low_le,
      ← represents.records_eq]
    rfl

/-- Dropping records leaves the history as it was. -/
theorem deleteBefore (represents : log.Represents history) (before : Int) :
    (log.deleteBefore before).Represents history where
  low_le := by
    have bounds := log.deleteBefore_bounds before
    rw [← represents.high_eq, ← bounds.2]
    exact Nat.le_add_right _ _
  records_eq := by
    simp only [PartitionLog.deleteBefore, represents.records_eq, List.drop_drop]

/-- The record at an offset is the one that was written there, unless it is dropped. -/
theorem record?_eq (represents : log.Represents history) (offset : Int) :
    log.record? offset = if (log.low : Int) ≤ offset then history[offset.toNat]? else none := by
  unfold record?
  by_cases retained : (log.low : Int) ≤ offset
  · rw [if_pos retained, if_pos retained, represents.records_eq, List.getElem?_drop]
    -- What was dropped and the place in the rest add up to the offset.
    congr 1
    omega
  · rw [if_neg retained, if_neg retained]

/-- A record can be read exactly between the bounds. -/
theorem isSome_record? (represents : log.Represents history) (offset : Int) :
    (log.record? offset).isSome = true ↔ (log.low : Int) ≤ offset ∧ offset < log.high := by
  rw [represents.record?_eq, represents.high_eq]
  by_cases retained : (log.low : Int) ≤ offset
  · rw [if_pos retained, isSome_getElem?]
    omega
  · simp [retained]

end Represents

end PartitionLog

namespace Link

variable {key : PartitionKey}

/-- The step does not create a topic of the name. -/
def Step.SparesTopic (name : String) : Step → Prop
  | .cluster (.createTopic topic _) _ => topic ≠ name
  | _ => True

/-- A step that does not create the topic of a partition spares its log. -/
theorem Step.SparesTopic.sparesLog {link : Link} {step : Step} (spares : step.SparesTopic key.1) :
    step.SparesLog key link := by
  unfold SparesLog
  split
  · exact fun same => absurd same spares
  · trivial

/-- What was produced to a partition is numbered from zero on, and its log represents it. -/
structure Chronicle (key : PartitionKey) (produced : List (Int × Record)) (link : Link) :
    Prop where
  /-- The offsets are 0, 1, 2 and so on. -/
  numbered : produced.map Prod.fst = (List.range produced.length).map Nat.cast
  /-- The log holds what is left of the records. -/
  represented : ∃ log, link.cluster.log? key = some log ∧ log.Represents (produced.map Prod.snd)

namespace Chronicle

variable {produced : List (Int × Record)} {link : Link}

/-- The partitions of a topic that was just created have nothing to tell. -/
theorem created {partitions : Nat} (concrete : 0 ≤ key.2) (within : key.2 < partitions)
    (link : Link) (clock : Int) :
    Chronicle key [] (Step.next link (.cluster (.createTopic key.1 partitions) clock)) where
  numbered := rfl
  represented := by
    refine ⟨{}, ?_, .nil⟩
    have brought : (Step.next link (.cluster (.createTopic key.1 partitions) clock)).cluster.log?
        key = _ := Cluster.log?_createTopic link.cluster key.1 partitions key
    rw [brought, if_pos rfl, Cluster.partitionLog?, if_pos concrete,
      List.getElem?_replicate_of_lt (by omega)]

/-- A step that does not create the topic goes on with the numbers if it produces a record. -/
theorem step {step : Step} (chronicle : Chronicle key produced link)
    (spares : step.SparesTopic key.1) :
    Chronicle key (produced ++ (step.production? key link).toList) (step.next link) := by
  obtain ⟨log, found, represents⟩ := chronicle.represented
  cases @Step.logChange key link step spares.sparesLog with
  | kept same silent =>
    rw [silent, Option.toList_none, List.append_nil]
    exact ⟨chronicle.numbered, log, same.trans found, represents⟩
  | brought missing => exact nomatch missing.symm.trans found
  | @produced _ record found' longer produces =>
    obtain rfl := Option.some.inj (found.symm.trans found')
    have next : log.high = produced.length := by
      rw [represents.high_eq, List.length_map]
    rw [produces, Option.toList_some]
    refine ⟨?_, _, longer, ?_⟩
    · rw [List.map_append, List.length_append, List.length_singleton, List.range_succ,
        List.map_append, chronicle.numbered, next]
      rfl
    · rw [List.map_append]
      exact represents.produce record
  | @truncated _ before found' shorter silent =>
    obtain rfl := Option.some.inj (found.symm.trans found')
    rw [silent, Option.toList_none, List.append_nil]
    exact ⟨chronicle.numbered, _, shorter, represents.deleteBefore before⟩

/-- A run that does not create the topic goes on with the numbers as it produces records. -/
theorem run {steps : List Step} (chronicle : Chronicle key produced link)
    (spared : ∀ step ∈ steps, step.SparesTopic key.1) :
    Chronicle key (produced ++ productions key link steps) (Link.run link steps) := by
  induction steps generalizing produced link with
  | nil => exact (List.append_nil produced).symm ▸ chronicle
  | cons step steps ih =>
    obtain ⟨spares, spared⟩ := List.forall_mem_cons.mp spared
    rw [productions_cons, ← List.append_assoc]
    exact ih (chronicle.step spares) spared

/-- What was produced at a place of the history has that place for its offset. -/
theorem mem_of_getElem? (chronicle : Chronicle key produced link) {place : Nat} {record : Record}
    (written : (produced.map Prod.snd)[place]? = some record) :
    ((place : Int), record) ∈ produced := by
  rw [List.getElem?_map, Option.map_eq_some_iff] at written
  obtain ⟨⟨offset, _⟩, there, rfl⟩ := written
  have inside : place < produced.length := (List.getElem?_eq_some_iff.mp there).1
  have numbered : (produced.map Prod.fst)[place]? = some (place : Int) := by
    rw [chronicle.numbered, List.getElem?_map, List.getElem?_range inside]
    rfl
  rw [List.getElem?_map, there] at numbered
  obtain rfl : offset = (place : Int) := Option.some.inj numbered
  exact List.mem_of_getElem? there

/-- What is read is what was produced at the offset, and it is read exactly between the bounds. -/
theorem read?_eq (chronicle : Chronicle key produced link) {log : PartitionLog}
    (found : link.cluster.log? key = some log) (offset : Int) :
    ((link.cluster.read? key offset).isSome = true ↔
      (log.low : Int) ≤ offset ∧ offset < log.high) ∧
    ∀ message, link.cluster.read? key offset = some message →
      message.IsRecordOf key ∧ message.offset = offset ∧
      ∃ record, (offset, record) ∈ produced ∧ message.Carries record := by
  obtain ⟨own, found', represents⟩ := chronicle.represented
  obtain rfl := Option.some.inj (found.symm.trans found')
  constructor
  · rw [← represents.isSome_record?, Cluster.isSome_read? found]
  · intro message readable
    obtain ⟨isRecord, same, _, own, record, found', retained, carries⟩ :=
      Cluster.read?_eq_some readable
    obtain rfl := Option.some.inj (found.symm.trans found')
    have bounds := PartitionLog.bounds_of_record? retained
    rw [represents.record?_eq, if_pos bounds.1] at retained
    have entered := chronicle.mem_of_getElem? retained
    rw [Int.toNat_of_nonneg (by omega)] at entered
    exact ⟨isRecord, same, record, entered, carries⟩

end Chronicle

/-- Where reading goes on only rises over a run that does not create the topic. -/
theorem floor_le_run {link : Link} {steps : List Step}
    (spared : ∀ step ∈ steps, step.SparesTopic key.1) (offset : Int) :
    link.cluster.floor key offset ≤ (run link steps).cluster.floor key offset := by
  induction steps generalizing link with
  | nil => exact Int.le_refl _
  | cons step steps ih =>
    obtain ⟨spares, spared⟩ := List.forall_mem_cons.mp spared
    exact Int.le_trans (Step.floor_le_next spares.sparesLog offset) (ih spared)

/-- Neither watermark decreases over a run that does not create the topic. -/
theorem Chronicle.watermarks_le {produced : List (Int × Record)} {link : Link}
    (chronicle : Chronicle key produced link) {log : PartitionLog}
    (found : link.cluster.log? key = some log) {steps : List Step}
    (spared : ∀ step ∈ steps, step.SparesTopic key.1) :
    ∃ later, (Link.run link steps).cluster.watermarks key = .ok later ∧
      (log.low : Int) ≤ later.low ∧ (log.high : Int) ≤ later.high := by
  obtain ⟨own, found', represents⟩ := chronicle.represented
  obtain rfl := Option.some.inj (found.symm.trans found')
  obtain ⟨later, found', represents'⟩ := (chronicle.run spared).represented
  have count := represents.high_eq
  have count' := represents'.high_eq
  rw [List.length_map] at count
  rw [List.length_map, List.length_append] at count'
  have before : link.cluster.low key = log.low := by simp [Cluster.low, found]
  have after : (Link.run link steps).cluster.low key = later.low := by simp [Cluster.low, found']
  have raised : link.cluster.floor key 0 ≤ (Link.run link steps).cluster.floor key 0 :=
    floor_le_run spared 0
  rw [← Cluster.low_eq_floor, ← Cluster.low_eq_floor, before, after] at raised
  refine ⟨later.watermarks, Cluster.watermarks_of_log? found', raised, ?_⟩
  change (log.high : Int) ≤ (later.high : Int)
  omega

end Link

namespace Cluster

/-- Deleting from a partition that has a log moves its lower bound to where it is asked for, as far
as that lies between the bounds, and what is from there on is read as before. -/
theorem deleteRecords_of_log? {cluster : Cluster} {key : PartitionKey} {log : PartitionLog}
    (found : cluster.log? key = some log) (before : Int) :
    let deleted := cluster.deleteRecords key before
    let low := max (log.low : Int) (min before (log.high : Int))
    deleted.1 = .ok () ∧ deleted.2.watermarks key = .ok { low, high := log.high } ∧
      ∀ offset, low ≤ offset → deleted.2.read? key offset = cluster.read? key offset := by
  intro deleted low
  have result : deleted = (.ok (), cluster.putLog key (log.deleteBefore before)) := by
    simp only [deleted, deleteRecords, found]
  have shorter : deleted.2.log? key = some (log.deleteBefore before) := by
    rw [result, log?_putLog found, if_pos rfl]
  have lower : ((log.deleteBefore before).low : Int) = low := log.deleteBefore_low before
  refine ⟨by rw [result], ?_, fun offset above => ?_⟩
  · rw [watermarks_of_log? shorter, PartitionLog.watermarks, lower,
      (log.deleteBefore_bounds before).2]
  · have same : (log.deleteBefore before).record? offset = log.record? offset := by
      rw [log.record?_deleteBefore, if_pos (lower.symm ▸ above)]
    rw [read?, read?, shorter, found]
    simp only [bind, Option.bind, same]

end Cluster

namespace Link

variable {key : PartitionKey}

/-- The log of a partition is append-only from the moment its topic is created until it is created
again, whatever else happens. Its records are produced at the offsets 0, 1, 2 and so on. It has
watermarks `0 ≤ low ≤ high`, of which `high` counts what was produced and neither ever decreases. An
offset can be read exactly if it lies from `low` up to below `high`, and what is read there is the
record that was produced at it. Deleting moves `low` to where it is asked for, as far as that lies
between the watermarks, and keeps what is from there on; two deletions, in either order, are the one
up to the higher offset. A produce or a deletion that fails, of this partition or another, changes
nothing. -/
theorem log_of_creation {origin : Link} {partitions : Nat} {clock : Int} {steps : List Step}
    (concrete : 0 ≤ key.2) (within : key.2 < partitions)
    (spared : ∀ step ∈ steps, step.SparesTopic key.1) :
    let created := Step.next origin (.cluster (.createTopic key.1 partitions) clock)
    let reached := run created steps
    let cluster := reached.cluster
    let produced := productions key created steps
    produced.map Prod.fst = (List.range produced.length).map Nat.cast ∧
    (∃ marks, cluster.watermarks key = .ok marks ∧
      0 ≤ marks.low ∧ marks.low ≤ marks.high ∧ marks.high = produced.length ∧
      (∀ more : List Step, (∀ step ∈ more, step.SparesTopic key.1) →
        ∃ later, (run reached more).cluster.watermarks key = .ok later ∧
          marks.low ≤ later.low ∧ marks.high ≤ later.high) ∧
      (∀ offset, ((cluster.read? key offset).isSome = true ↔
          marks.low ≤ offset ∧ offset < marks.high) ∧
        ∀ message, cluster.read? key offset = some message →
          message.IsRecordOf key ∧ message.offset = offset ∧
          ∃ record, (offset, record) ∈ produced ∧ message.Carries record) ∧
      ∀ before,
        let deleted := cluster.deleteRecords key before
        let low := max marks.low (min before marks.high)
        deleted.1 = .ok () ∧ deleted.2.watermarks key = .ok { low, high := marks.high } ∧
          ∀ offset, low ≤ offset → deleted.2.read? key offset = cluster.read? key offset) ∧
    (∀ first second,
      (cluster.deleteRecords key first).2.deleteRecords key second =
        cluster.deleteRecords key (max first second) ∧
      (cluster.deleteRecords key second).2.deleteRecords key first =
        cluster.deleteRecords key (max first second)) ∧
    (∀ target record error, (cluster.produce target record).1 = .error error →
      (cluster.produce target record).2 = cluster) ∧
    ∀ target before error, (cluster.deleteRecords target before).1 = .error error →
      (cluster.deleteRecords target before).2 = cluster := by
  intro created reached cluster produced
  have chronicle : Chronicle key produced reached :=
    (Chronicle.created concrete within origin clock).run spared
  obtain ⟨log, found, represents⟩ := chronicle.represented
  have count : (log.high : Int) = produced.length := by
    rw [represents.high_eq, List.length_map]
  refine ⟨chronicle.numbered, ⟨log.watermarks, Cluster.watermarks_of_log? found, ?_, ?_, count,
    ?_, chronicle.read?_eq found, Cluster.deleteRecords_of_log? found⟩, ?_, ?_, ?_⟩
  · exact Int.natCast_nonneg log.low
  · exact Int.ofNat_le.mpr (Nat.le_add_right log.low _)
  · exact fun more spared => chronicle.watermarks_le found spared
  · intro first second
    refine ⟨cluster.deleteRecords_deleteRecords key first second, ?_⟩
    rw [cluster.deleteRecords_deleteRecords, Int.max_comm]
  · exact fun _ _ _ => Cluster.produce_of_error
  · exact fun _ _ _ => Cluster.deleteRecords_of_error

/-- A topic that held a record is created anew. Two records are produced to one of its partitions,
the first is dropped, and a third is produced after it; asking for more than there is drops the
rest, and a last record goes on with the numbers. -/
theorem log_of_creation_renewed :
    let key : PartitionKey := ("orders", 1)
    let produce (payload : Bytes) : Step := .cluster (.produce key none payload none) 7
    let delete (before : Int) : Step := .cluster (.deleteRecords key before) 7
    let settings : Client.Settings := ⟨none, false, true, false⟩
    let blank : Link := ⟨{ name := "reader", serial := 1, settings }, {}⟩
    let origin := run blank [.cluster (.createTopic "orders" 2) 7, produce [9]]
    let steps := [produce [1], produce [2], delete 1, produce [3], delete 9223372036854775807,
      produce [4], delete (-5)]
    let created := Step.next origin (.cluster (.createTopic "orders" 2) 8)
    let reached := run created steps
    (∀ step ∈ steps, step.SparesTopic "orders") ∧
    (productions key created steps).map Prod.fst = [0, 1, 2, 3] ∧
    reached.cluster.watermarks key = .ok { low := 3, high := 4 } ∧
    (reached.cluster.read? key 2).isSome = false ∧ (reached.cluster.read? key 3).isSome = true := by
  intro key produce delete settings blank origin steps created reached
  have spared : ∀ step ∈ steps, step.SparesTopic "orders" := by
    simp [steps, produce, delete, Step.SparesTopic]
  obtain ⟨numbered, ⟨marks, found, _, _, _, _, readable, _⟩, _⟩ :=
    @log_of_creation key origin 2 8 steps (by decide) (by decide) spared
  have here : reached.cluster.watermarks key = .ok { low := 3, high := 4 } := by decide +kernel
  obtain rfl : marks = { low := 3, high := 4 } := Except.ok.inj (found.symm.trans here)
  refine ⟨spared, numbered.trans (by decide +kernel), here, ?_, (readable 3).1.mpr (by decide)⟩
  rw [Bool.eq_false_iff]
  exact fun read => absurd ((readable 2).1.mp read) (by decide)

end Link

end LogConsumer
