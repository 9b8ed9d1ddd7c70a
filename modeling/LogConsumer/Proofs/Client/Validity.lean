import LogConsumer.Consumer
import LogConsumer.Proofs.Client.Exclusion

/-!
# Validity of a client

What the numbers and names inside a client and its cluster must be for nobody to be misled by them:
the places of an assignment and the offsets committed are absolute, so none of them is taken for one
of the reserved numbers that stand for a logical place. A call whose partitions are well formed
(`ClientCall.WellFormed`) leaves a valid client and a valid cluster valid
(`ClientCall.valid_perform`), and a poll of a valid client that does not fail as scripted tells
records and ends of partitions at absolute offsets (`Client.located_poll`).
-/
namespace LogConsumer

/-- A partition with a name and a number, and no negative offset. -/
structure TopicPartition.WellFormed (tp : TopicPartition) : Prop where
  /-- The topic has a name. -/
  named : tp.topic ≠ ""
  /-- The number is one of a partition, or that of a topic as a whole. -/
  numbered : unassignedPartition ≤ tp.partition
  /-- An absolute offset is not negative. -/
  placed : ∀ offset, tp.offset = .absolute offset → 0 ≤ offset

/-- A partition is well formed exactly if a consumer finds no fault with it. -/
theorem Consumer.inputFault?_eq_none {tp : TopicPartition} :
    inputFault? tp = none ↔ tp.WellFormed := by
  have named : tp.topic.isEmpty = true ↔ tp.topic = "" := String.isEmpty_iff
  constructor
  · intro faultless
    unfold inputFault? at faultless
    split at faultless
    · contradiction
    · rename_i topical
      split at faultless
      · contradiction
      · rename_i inRange
        refine ⟨fun empty => topical (named.mpr empty), Int.not_lt.mp inRange,
          fun offset here => ?_⟩
        rw [here] at faultless
        simpa using faultless
  · rintro ⟨topical, inRange, placed⟩
    unfold inputFault?
    rw [if_neg fun empty => topical (named.mp empty), if_neg (Int.not_lt.mpr inRange)]
    split
    · rename_i offset here
      rw [if_neg (Int.not_lt.mpr (placed offset here))]
    · rfl

/-- An entry of an assignment that misleads nobody. -/
structure Assigned.Valid (entry : Assigned) : Prop where
  /-- The topic has a name. -/
  named : entry.topic ≠ ""
  /-- The number is that of a partition. -/
  concrete : 0 ≤ entry.partition
  /-- The position is an absolute offset. -/
  reading : 0 ≤ entry.position
  /-- What is stored is an absolute offset. -/
  storing : ∀ offset, entry.stored = some offset → 0 ≤ offset

/-- A client that misleads nobody. -/
structure Client.Valid (client : Client) : Prop where
  /-- Every topic subscribed to has a name. -/
  topics : ∀ topic ∈ client.subscription, topic ≠ ""
  /-- Every entry of the assignment is valid. -/
  entries : ∀ entry ∈ client.assignment, entry.Valid

/-- Every offset committed is absolute. -/
def Cluster.Valid (cluster : Cluster) : Prop :=
  ∀ group key offset, cluster.committed? group key = some offset → 0 ≤ offset

/-- A client and a cluster that mislead nobody. -/
structure Link.Valid (link : Link) : Prop where
  /-- The client is valid. -/
  client : link.client.Valid
  /-- The cluster is valid. -/
  cluster : link.cluster.Valid

/-- A message with an absolute offset, which its place tells as such. -/
structure Message.Located (message : Message) : Prop where
  /-- The offset is absolute. -/
  reached : 0 ≤ message.offset
  /-- The place of the message is that offset. -/
  told : message.topicPartition.offset = .absolute message.offset

/-- A message at an offset that is not negative is located. -/
theorem Message.located_of_nonneg {message : Message} (reached : 0 ≤ message.offset) :
    message.Located :=
  ⟨reached, Offset.ofRaw_of_nonneg reached⟩

namespace ClientCall

/-- The partitions that a call carries. -/
def descriptors : ClientCall → List TopicPartition
  | .assign partitions | .incrementalAssign partitions | .incrementalUnassign partitions
  | .committed partitions _ | .position partitions | .pause partitions | .resume partitions
  | .storeOffsets partitions | .offsetsForTimes partitions _ => partitions
  | .commit partitions _ => partitions.getD []
  | .seek tp _ => [tp]
  | _ => []

/-- A call whose partitions are well formed and whose topics have names. -/
structure WellFormed (call : ClientCall) : Prop where
  /-- Every partition that the call carries is well formed. -/
  descriptors : ∀ tp ∈ call.descriptors, tp.WellFormed
  /-- Every topic that the call subscribes to has a name. -/
  topics : ∀ topics, call = .subscribe topics → ∀ topic ∈ topics, topic ≠ ""

end ClientCall

namespace Cluster.Valid

variable {cluster : Cluster}

/-- Where nothing new is committed a cluster stays valid. -/
theorem congr {cluster' : Cluster} (same : cluster'.commits = cluster.commits)
    (valid : cluster.Valid) : cluster'.Valid := by
  unfold Cluster.Valid committed? at *
  rwa [same]

/-- Committing absolute offsets leaves a cluster valid. -/
theorem commitAll {pending : List (PartitionKey × Int)} (valid : cluster.Valid)
    (absolute : ∀ entry ∈ pending, 0 ≤ entry.2) (group : String) :
    (cluster.commitAll group pending).Valid := by
  induction pending generalizing cluster with
  | nil => exact valid
  | cons entry pending ih =>
    have first : (cluster.commit group entry.1 entry.2).Valid := by
      intro own key offset found
      unfold committed? commit at found
      rw [Table.find?_insert] at found
      split at found
      · cases found
        exact absolute entry List.mem_cons_self
      · exact valid own key offset found
    exact ih first fun other later => absolute other (List.mem_cons_of_mem _ later)

/-- Where reading starts is an absolute offset. -/
theorem resolve (valid : cluster.Valid) {offset : Offset}
    (placed : ∀ number, offset = .absolute number → 0 ≤ number) (settings : Client.Settings)
    (key : PartitionKey) : 0 ≤ Client.resolve settings cluster key offset := by
  let marks := ((cluster.log? key).map PartitionLog.watermarks).getD { low := 0, high := 0 }
  have absolute : 0 ≤ marks.low ∧ 0 ≤ marks.high := by
    unfold marks
    cases cluster.log? key with
    | none => exact ⟨Int.le_refl _, Int.le_refl _⟩
    | some log => exact ⟨Int.natCast_nonneg _, Int.natCast_nonneg _⟩
  have resumed : 0 ≤ (settings.group.bind fun group => cluster.committed? group key).getD
      (if settings.resetToLatest then marks.high else marks.low) := by
    cases found : settings.group.bind fun group => cluster.committed? group key with
    | none =>
      rw [Option.getD_none]
      split
      · exact absolute.2
      · exact absolute.1
    | some offset =>
      obtain ⟨group, _, committed⟩ := Option.bind_eq_some_iff.mp found
      exact valid group key offset committed
  cases offset with
  | absolute number => exact placed number rfl
  | beginning => exact absolute.1
  | ending => exact absolute.2
  | stored | invalid => exact resumed

end Cluster.Valid

namespace Assigned

variable {entries changed : List Assigned}

/-- A change that leaves every entry valid leaves an assignment valid. -/
theorem valid_updateFirst? {key : PartitionKey} {change : Assigned → Assigned}
    (still : ∀ entry, entry.Valid → (change entry).Valid)
    (found : updateFirst? key change entries = some changed)
    (valid : ∀ entry ∈ entries, entry.Valid) : ∀ entry ∈ changed, entry.Valid := by
  induction entries generalizing changed with
  | nil => contradiction
  | cons head entries ih =>
    obtain ⟨here, later⟩ := List.forall_mem_cons.mp valid
    unfold updateFirst? at found
    split at found
    · cases found
      exact List.forall_mem_cons.mpr ⟨still head here, later⟩
    · obtain ⟨rest, there, rfl⟩ := Option.map_eq_some_iff.mp found
      exact List.forall_mem_cons.mpr ⟨here, ih there later⟩

end Assigned

namespace Client

open Assigned

variable {cluster : Cluster} {entries : List Assigned} {reportsEnd : Bool}

/-- A fresh entry of a partition that is concrete and well formed is valid. -/
theorem valid_assignedOf (valid : cluster.Valid) {tp : TopicPartition} (formed : tp.WellFormed)
    (concrete : 0 ≤ tp.partition) (settings : Settings) :
    (assignedOf settings cluster tp).Valid where
  named := formed.named
  concrete := concrete
  reading := valid.resolve formed.placed settings tp.key
  storing := nofun

/-- Fresh entries of partitions that are concrete and well formed are valid. -/
theorem valid_assignedOfList {link : Link} (valid : link.cluster.Valid)
    {partitions : List TopicPartition} (formed : ∀ tp ∈ partitions, tp.WellFormed)
    (concrete : ∀ tp ∈ partitions, 0 ≤ tp.partition) :
    ∀ entry ∈ assignedOfList link partitions, entry.Valid := by
  intro entry inside
  obtain ⟨tp, listed, rfl⟩ := List.mem_map.mp inside
  exact valid_assignedOf valid (formed tp listed) (concrete tp listed) _

/-- Running through a list leaves an assignment valid, if every visit does. -/
theorem valid_sweep {visit : TopicPartition → List Assigned → TopicPartition × List Assigned}
    {partitions : List TopicPartition}
    (still : ∀ tp ∈ partitions, ∀ entries, (∀ entry ∈ entries, Assigned.Valid entry) →
      ∀ entry ∈ (visit tp entries).2, entry.Valid)
    (valid : ∀ entry ∈ entries, entry.Valid) :
    ∀ entry ∈ (sweep visit partitions entries).2, entry.Valid := by
  induction partitions generalizing entries with
  | nil => exact valid
  | cons tp partitions ih =>
    obtain ⟨here, later⟩ := List.forall_mem_cons.mp still
    exact ih later (here entries valid)

/-- Pausing and resuming leave an assignment valid. -/
theorem valid_setPaused (paused : Bool) (tp : TopicPartition)
    (valid : ∀ entry ∈ entries, entry.Valid) :
    ∀ entry ∈ (setPaused paused tp entries).2, entry.Valid := by
  unfold setPaused
  split
  · rename_i changed found
    refine valid_updateFirst? (fun entry valid => ?_) found valid
    exact ⟨valid.named, valid.concrete, valid.reading, valid.storing⟩
  · exact valid

/-- Storing an absolute offset leaves an assignment valid. -/
theorem valid_storeOffset {tp : TopicPartition} (formed : tp.WellFormed)
    (valid : ∀ entry ∈ entries, entry.Valid) :
    ∀ entry ∈ (storeOffset tp entries).2, entry.Valid := by
  unfold storeOffset
  split
  · exact valid
  · exact valid
  · rename_i offset _ absolute
    have placed : tp.offset = .absolute offset := by
      cases here : tp.offset <;> rw [here] at absolute <;> cases absolute
      rfl
    dsimp only
    cases found : updateFirst? tp.key
        (fun entry => { entry with
          stored := some offset, leaderEpoch := tp.leaderEpoch <|> entry.leaderEpoch })
        entries with
    | none => exact valid
    | some changed =>
      refine valid_updateFirst? (fun entry valid => ?_) found valid
      refine ⟨valid.named, valid.concrete, valid.reading, fun other stored => ?_⟩
      cases stored
      exact formed.placed offset placed

/-- What is pending of a well-formed list, or of what a valid assignment stores, is absolute. -/
theorem pendingOffsets_absolute {partitions : Option (List TopicPartition)}
    (formed : ∀ tp ∈ partitions.getD [], tp.WellFormed) (valid : ∀ entry ∈ entries, entry.Valid) :
    ∀ pending ∈ pendingOffsets partitions entries, 0 ≤ pending.2 := by
  intro pending inside
  cases partitions with
  | none =>
    obtain ⟨entry, assigned, taken⟩ := List.mem_filterMap.mp inside
    obtain ⟨offset, stored, rfl⟩ := Option.map_eq_some_iff.mp taken
    exact (valid entry assigned).storing offset stored
  | some list =>
    obtain ⟨tp, listed, taken⟩ := List.mem_filterMap.mp inside
    obtain ⟨offset, absolute, rfl⟩ := Option.map_eq_some_iff.mp taken
    refine (formed tp listed).placed offset ?_
    cases here : tp.offset <;> rw [here] at absolute <;> cases absolute
    rfl

/-- Inspecting a valid entry leaves it valid, and what it has is located. -/
theorem valid_inspect {entry : Assigned} (valid : entry.Valid) :
    (inspect cluster reportsEnd entry).2.Valid ∧
      ∀ message, (inspect cluster reportsEnd entry).1 = some message → message.Located := by
  have place : 0 ≤ cluster.floor entry.key entry.position :=
    Int.le_trans valid.reading (Cluster.le_floor _ _ _)
  obtain same | ⟨read, readable, same⟩ | ⟨_, same⟩ | ⟨_, same⟩ :=
    inspect_cases cluster reportsEnd entry <;> rw [same]
  · exact ⟨valid, fun _ found => nomatch found⟩
  · refine ⟨⟨valid.named, valid.concrete, Int.le_add_one place, ?_⟩, ?_⟩
    · rintro offset stored
      cases stored
      exact Int.le_add_one place
    · rintro message found
      cases found
      refine Message.located_of_nonneg ?_
      rw [(Cluster.read?_eq_some readable).2.1]
      exact place
  · refine ⟨⟨valid.named, valid.concrete, place, valid.storing⟩, ?_⟩
    rintro message found
    cases found
    exact Message.located_of_nonneg place
  · exact ⟨⟨valid.named, valid.concrete, place, valid.storing⟩, fun _ found => nomatch found⟩

/-- Passing over valid entries leaves them valid. -/
theorem valid_passed {before after : List Assigned}
    (passed : List.Forall₂ (Passed cluster reportsEnd) before after)
    (valid : ∀ entry ∈ before, entry.Valid) : ∀ entry ∈ after, entry.Valid := by
  induction passed with
  | nil => exact valid
  | @cons entry entry' _ _ one _ ih =>
    obtain ⟨here, later⟩ := List.forall_mem_cons.mp valid
    refine List.forall_mem_cons.mpr ⟨?_, ih later⟩
    rcases one with rfl | quiet
    · exact here
    · have still := (@valid_inspect cluster reportsEnd entry here).1
      rwa [quiet] at still

/-- Serving a valid assignment leaves it valid, and what is served is located. -/
theorem valid_serve {client : Client} (valid : client.Valid) :
    (serve cluster client).2.Valid ∧
      ∀ message, (serve cluster client).1 = some message → message.Located := by
  have topics : (serve cluster client).2.subscription = client.subscription := by
    rw [serve_rest]
  obtain ⟨nothing, passed⟩ | ⟨message, before, entry, after, before', entry', after', served,
    whole, whole', here, earlier, later⟩ := serve_cases cluster client
  · refine ⟨⟨topics ▸ valid.topics, valid_passed passed valid.entries⟩, fun message found => ?_⟩
    rw [nothing] at found
    contradiction
  · have entries := valid.entries
    rw [whole] at entries
    obtain ⟨sooner, now, next⟩ := List.forall_mem_append.mp entries |>.imp_right
      List.forall_mem_cons.mp
    obtain ⟨still, located⟩ := @valid_inspect cluster client.settings.reportsEnd entry now
    rw [here] at still located
    refine ⟨⟨topics ▸ valid.topics, ?_⟩, fun found same => ?_⟩
    · rw [whole']
      exact List.forall_mem_append.mpr ⟨valid_passed earlier sooner,
        List.forall_mem_cons.mpr ⟨still, valid_passed later next⟩⟩
    · rw [served] at same
      exact located found same

/-- A valid client is valid when it has joined its group: the partitions that it takes are those of
topics with names, from the first one on. -/
theorem valid_joined {link : Link} (valid : link.Valid) : (joined link).Valid := by
  unfold joined
  dsimp only
  split
  · refine ⟨valid.client.topics, valid_assignedOfList valid.cluster ?_ ?_⟩
    · intro tp inside
      have topical := valid.client.topics tp.topic (mem_subscribedPartitions inside)
      simp only [subscribedPartitions, List.mem_flatMap, List.mem_map] at inside
      obtain ⟨topic, _, number, _, rfl⟩ := inside
      refine ⟨topical, Int.le_trans (by decide) (Int.natCast_nonneg number), fun _ here => ?_⟩
      cases here
    · intro tp inside
      simp only [subscribedPartitions, List.mem_flatMap, List.mem_map] at inside
      obtain ⟨topic, _, number, _, rfl⟩ := inside
      exact Int.natCast_nonneg number
  · exact valid.client

/-- Counting a poll leaves a client and its cluster valid. -/
theorem valid_counted {link : Link} (timeout : Nat) (valid : link.Valid) :
    Link.Valid { link with cluster := counted link.cluster timeout } := by
  refine ⟨valid.client, valid.cluster.congr ?_⟩
  rw [counted_rest]

/-- A poll leaves a client and its cluster valid. -/
theorem valid_poll {link : Link} (timeout : Nat) (valid : link.Valid) :
    (poll timeout link).2.Valid := by
  have counts := valid_counted timeout valid
  obtain ⟨_, _, result⟩ | ⟨_, _, result⟩ | ⟨_, _, result⟩ := poll_cases timeout link <;> rw [result]
  · exact counts
  · exact counts
  · exact ⟨(valid_serve (valid_joined counts)).1, counts.cluster⟩

/-- A record or the end of a partition that a poll of a valid client tells, and that is not
scripted, is located. -/
theorem located_poll {link : Link} (timeout : Nat) (valid : link.Valid)
    (unscripted : (link.cluster.takeFault .poll).1 = none)
    (tells : (poll timeout link).1.message.hasData = true ∨
      (poll timeout link).1.message.isEndOfPartition = true) :
    (poll timeout link).1.message.Located := by
  obtain ⟨error, scripted, _⟩ | ⟨_, _, result⟩ | ⟨_, _, result⟩ := poll_cases timeout link
  · rw [unscripted] at scripted
    contradiction
  · rw [result] at tells
    obtain record | ending := tells <;> contradiction
  · have served := (@valid_serve (counted link.cluster timeout) _
      (valid_joined (valid_counted timeout valid))).2
    rw [result] at tells ⊢
    cases found : (serve (counted link.cluster timeout)
        (joined { link with cluster := counted link.cluster timeout })).1 with
    | none =>
      rw [found] at tells
      obtain record | ending := tells <;> contradiction
    | some message => exact served message found

/-- A poll leaves the coming calls of a primitive let through, if they are. -/
theorem letsThrough_poll {link : Link} {primitive : Primitive}
    (lets : link.cluster.LetsThrough primitive) (timeout : Nat) :
    (poll timeout link).2.cluster.LetsThrough primitive := by
  have before : ({ link.cluster with
      polls := link.cluster.polls + 1
      lastPollTimeout := some timeout } : Cluster).LetsThrough primitive := lets
  have after : (counted link.cluster timeout).LetsThrough primitive := before.takeFault .poll
  obtain ⟨_, _, result⟩ | ⟨_, _, result⟩ | ⟨_, _, result⟩ := poll_cases timeout link <;>
    rw [result] <;> exact after

/-- Using up a scripted outcome leaves a client and its cluster valid. -/
theorem valid_scripted {link : Link} (primitive : Primitive) (valid : link.Valid) :
    (scripted primitive link).Valid := by
  refine ⟨valid.client, valid.cluster.congr ?_⟩
  rw [scripted, Cluster.takeFault_rest]

/-- Shutting down leaves a client and its cluster valid. -/
theorem valid_close {link : Link} (valid : link.Valid) : (close.run link).2.Valid := by
  have shut : (close.run link).2 = { ((takeFault .close).run link).2 with
      client := { ((takeFault .close).run link).2.client with
        closed := true, subscription := [], assignment := [] } } := rfl
  rw [shut, takeFault_run]
  exact ⟨⟨List.forall_mem_nil _, List.forall_mem_nil _⟩, (valid_scripted .close valid).cluster⟩

/-- Subscribing to topics with names leaves a client and its cluster valid. -/
theorem valid_subscribe {link : Link} {topics : List String}
    (named : ∀ topic ∈ topics, topic ≠ "") (valid : link.Valid) :
    ((subscribe topics).run link).2.Valid := by
  have later := valid_scripted .subscribe valid
  obtain ⟨_, refused⟩ | ⟨_, done⟩ := subscribe_cases topics link
  · rw [refused]
    exact later
  · rw [done]
    exact ⟨⟨named, List.forall_mem_nil _⟩, later.cluster⟩

/-- Placing a well-formed list leaves a client and its cluster valid. -/
theorem valid_assign {link : Link} {partitions : List TopicPartition}
    (formed : ∀ tp ∈ partitions, tp.WellFormed) (valid : link.Valid) :
    ((assign partitions).run link).2.Valid := by
  have later := valid_scripted .assign valid
  obtain ⟨_, _, refused⟩ | ⟨placeable, done⟩ := assign_cases partitions link
  · rw [refused]
    exact later
  · rw [done]
    have fresh := valid_assignedOfList valid.cluster formed placeable.concrete
    exact ⟨⟨valid.client.topics, fresh⟩, later.cluster⟩

/-- Dropping the assignment leaves a client and its cluster valid. -/
theorem valid_unassign {link : Link} (valid : link.Valid) : (unassign.run link).2.Valid := by
  have later := valid_scripted .unassign valid
  obtain ⟨_, refused⟩ | done := unassign_cases link
  · rw [refused]
    exact later
  · rw [done]
    exact ⟨⟨valid.client.topics, List.forall_mem_nil _⟩, later.cluster⟩

/-- Adding a well-formed list leaves a client and its cluster valid. -/
theorem valid_incrementalAssign {link : Link} {partitions : List TopicPartition}
    (formed : ∀ tp ∈ partitions, tp.WellFormed) (valid : link.Valid) :
    ((incrementalAssign partitions).run link).2.Valid := by
  have later := valid_scripted .incrementalAssign valid
  obtain ⟨_, refused⟩ | ⟨placeable, _, done⟩ := incrementalAssign_cases partitions link
  · rw [refused]
    exact later
  · rw [done]
    have fresh := valid_assignedOfList valid.cluster formed placeable.concrete
    have all := List.forall_mem_append.mpr ⟨valid.client.entries, fresh⟩
    exact ⟨⟨valid.client.topics, all⟩, later.cluster⟩

/-- Taking from the assignment leaves a client and its cluster valid. -/
theorem valid_incrementalUnassign {link : Link} (partitions : List TopicPartition)
    (valid : link.Valid) : ((incrementalUnassign partitions).run link).2.Valid := by
  have later := valid_scripted .incrementalUnassign valid
  obtain ⟨_, refused⟩ | done := incrementalUnassign_cases partitions link
  · rw [refused]
    exact later
  · rw [done]
    exact ⟨⟨valid.client.topics, fun entry left =>
      valid.client.entries entry (List.mem_of_mem_filter left)⟩, later.cluster⟩

/-- Committing a well-formed list, or what is stored, leaves a client and its cluster valid. -/
theorem valid_commit {link : Link} {partitions : Option (List TopicPartition)}
    (formed : ∀ tp ∈ partitions.getD [], tp.WellFormed) (valid : link.Valid) :
    ((commit partitions).run link).2.Valid := by
  have later := valid_scripted .commit valid
  obtain ⟨_, refused⟩ | ⟨group, _, done⟩ := commit_cases partitions link
  · rw [refused]
    exact later
  · rw [done]
    exact ⟨valid.client,
      later.cluster.commitAll (pendingOffsets_absolute formed valid.client.entries) group⟩

/-- Moving a position to a well-formed place leaves a client and its cluster valid. -/
theorem valid_seek {link : Link} {tp : TopicPartition} (formed : tp.WellFormed)
    (valid : link.Valid) : ((seek tp).run link).2.Valid := by
  have later := valid_scripted .seek valid
  unfold seek
  obtain ⟨_, refused⟩ | goes := scripted_cases .seek _ link
  · rw [refused]
    exact later
  · rw [goes, run_get]
    dsimp only
    split
    · rename_i moved
      refine ⟨⟨valid.client.topics, ?_⟩, later.cluster⟩
      refine valid_updateFirst? (fun entry sound => ?_) moved valid.client.entries
      exact ⟨sound.named, sound.concrete, later.cluster.resolve formed.placed _ _, sound.storing⟩
    · exact later

/-- Running through a list leaves a client and its cluster valid, if every visit does. -/
theorem valid_sweepAssignment {link : Link}
    {visit : TopicPartition → List Assigned → TopicPartition × List Assigned}
    {partitions : List TopicPartition}
    (still : ∀ tp ∈ partitions, ∀ entries, (∀ entry ∈ entries, Assigned.Valid entry) →
      ∀ entry ∈ (visit tp entries).2, entry.Valid)
    (valid : link.Valid) : (sweepAssignment visit partitions link).2.Valid :=
  ⟨⟨valid.client.topics, valid_sweep still valid.client.entries⟩, valid.cluster⟩

/-- Storing well-formed offsets leaves a client and its cluster valid. -/
theorem valid_storeOffsets {link : Link} {partitions : List TopicPartition}
    (formed : ∀ tp ∈ partitions, tp.WellFormed) (valid : link.Valid) :
    (storeOffsets partitions link).2.Valid := by
  have later := valid_scripted .offsetsStore valid
  unfold storeOffsets
  rw [run_then, takeFault_run]
  cases (link.cluster.takeFault .offsetsStore).1 with
  | some error => exact later
  | none =>
    dsimp only
    rw [run_then]
    have swept : (sweepAssignment storeOffset partitions (scripted .offsetsStore link)).2.Valid :=
      valid_sweepAssignment
        (fun tp listed entries sound => valid_storeOffset (formed tp listed) sound) later
    generalize (List.find? _ _ : Option TopicPartition) = bad
    cases bad <;> exact swept

/-- The partitions that a valid client reads are well formed. -/
theorem Valid.readPartitions {client : Client} (valid : client.Valid) :
    ∀ tp ∈ client.readPartitions, tp.WellFormed := by
  intro tp inside
  obtain ⟨entry, assigned, rfl⟩ := List.mem_map.mp inside
  have sound := valid.entries entry assigned
  exact ⟨sound.named, Int.le_trans (by decide) sound.concrete, nofun⟩

end Client

namespace ClientCall

open Client

/-- A call that subscribes to nothing is well formed if the partitions that it carries are. -/
theorem WellFormed.of_descriptors {call : ClientCall}
    (formed : ∀ tp ∈ call.descriptors, tp.WellFormed)
    (other : ∀ topics, call ≠ .subscribe topics) : call.WellFormed :=
  ⟨formed, fun topics same => absurd same (other topics)⟩

/-- A call that neither carries partitions nor subscribes is well formed. -/
theorem WellFormed.of_bare {call : ClientCall} (bare : call.descriptors = [])
    (other : ∀ topics, call ≠ .subscribe topics) : call.WellFormed :=
  .of_descriptors (by simp [bare]) other

/-- Subscribing to topics with names is well formed. -/
theorem WellFormed.of_named {topics : List String} (named : ∀ topic ∈ topics, topic ≠ "") :
    (ClientCall.subscribe topics).WellFormed where
  descriptors := List.forall_mem_nil _
  topics other same := by
    cases same
    exact named

/-- The call changes nothing of the client and commits nothing. -/
def IsReading : ClientCall → Prop
  | .name | .subscription | .assignment | .committed _ _ | .position _ | .offsetsForTimes _ _
  | .cachedWatermarks _ | .queryWatermarks _ _ | .rebalanceProtocol => True
  | _ => False

/-- A call that only reads leaves the client and what is committed as they are. -/
theorem keeps_of_isReading {call : ClientCall} (reads : call.IsReading) :
    Keeps (fun link => (link.client, link.cluster.commits)) call.perform := by
  have scripts : IgnoresScripts fun link => (link.client, link.cluster.commits) := fun _ _ => rfl
  cases call with
  | name | rebalanceProtocol => exact .bind .get fun _ => .pure _
  | subscription => exact keeps_ofAction _ (.afterReading fun _ => .pure _)
  | assignment => exact keeps_ofAction _ (keeps_assignedPartitions scripts)
  | committed => exact keeps_ofWriteBack _ (keeps_committed scripts _)
  | position => exact keeps_ofWriteBack _ (keeps_position _)
  | offsetsForTimes => exact keeps_ofWriteBack _ (keeps_offsetsForTimes scripts _)
  | cachedWatermarks | queryWatermarks => exact keeps_ofAction _ (keeps_watermarks scripts _)
  | _ => exact reads.elim

/-- A well-formed call leaves a valid client and a valid cluster valid. -/
theorem valid_perform {call : ClientCall} {link : Link} (formed : call.WellFormed)
    (valid : link.Valid) : (call.perform link).2.Valid := by
  have reading (reads : call.IsReading) : (call.perform link).2.Valid := by
    obtain ⟨client, commits⟩ := Prod.mk.inj (keeps_of_isReading reads link)
    exact ⟨client ▸ valid.client, valid.cluster.congr commits⟩
  have listed := formed.descriptors
  cases call with
  | close => exact valid_close valid
  | subscribe topics => exact valid_subscribe (formed.topics topics rfl) valid
  | unsubscribe => exact ⟨⟨List.forall_mem_nil _, List.forall_mem_nil _⟩, valid.cluster⟩
  | assign partitions => exact valid_assign listed valid
  | unassign => exact valid_unassign valid
  | incrementalAssign partitions => exact valid_incrementalAssign listed valid
  | incrementalUnassign partitions => exact valid_incrementalUnassign partitions valid
  | commit partitions mode => exact valid_commit listed valid
  | seek tp timeout => exact valid_seek (listed tp List.mem_cons_self) valid
  | pause partitions =>
    exact valid_sweepAssignment (fun tp _ _ sound => valid_setPaused true tp sound) valid
  | resume partitions =>
    exact valid_sweepAssignment (fun tp _ _ sound => valid_setPaused false tp sound) valid
  | storeOffsets partitions => exact valid_storeOffsets listed valid
  | poll timeout => exact valid_poll timeout valid
  | _ => exact reading trivial

end ClientCall

end LogConsumer
