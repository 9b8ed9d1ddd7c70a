import Mathlib.Data.Fintype.EquivFin
import LogConsumer.Proofs.Client.Placement
import LogConsumer.Proofs.Consumer.Moments
import LogConsumer.Proofs.Consumer.Revocation
import LogConsumer.Proofs.PartitionSets

/-!
# Adding partitions and taking them away again

The handle refuses to add what it has assigned already, and the set of partitions is extended at its
end only after the handle has accepted. Taking partitions away removes the first entry of each from
the set. So adding a list and taking it away again leaves the set as it was as long as the handle
has assigned whatever the set holds, and only then: the set may hold entries of an earlier session,
or of the time before a subscribe, and those are removed in place of what was added
(`pairsUp_iff`).
-/
namespace LogConsumer

open Consumer

variable {site : Site} {partitions : List TopicPartition} {client : Client}

/-- Nothing stands against adding partitions and taking them away again: the handle is open, and no
failure is scripted for the two calls. -/
structure Site.Accepts (site : Site) (client : Client) : Prop where
  /-- The connection has the handle. -/
  connected : site.consumer.connection = .connected client
  /-- The handle is not shut down. -/
  opened : client.closed = false
  /-- No failure is scripted for adding. -/
  adds : (site.cluster.takeFault .incrementalAssign).1 = none
  /-- No failure is scripted for taking away. -/
  removes : (site.cluster.takeFault .incrementalUnassign).1 = none

/-- Every partition of the set that a caller can name is assigned. -/
def Client.Covers (client : Client) (set : PartitionSet) : Prop :=
  ∀ tp ∈ set.entries, tp.topic ≠ "" → 0 ≤ tp.partition →
    tp.key ∈ client.assignment.map Assigned.key

/-- Adding a list of partitions and taking it away again, if both succeed, leaves the set of
partitions as it was. -/
def Site.PairsUp (site : Site) : Prop :=
  ∀ (partitions : List TopicPartition) (added removed : Site),
    (incrementalAssign partitions).run site = (.ok (), added) →
    (incrementalUnassign partitions).run added = (.ok (), removed) →
    removed.consumer.partitions = site.consumer.partitions

namespace Consumer

/-- A partition that a caller may give has a topic. -/
theorem topic_of_wellFormed {tp : TopicPartition} (formed : inputFault? tp = none) :
    tp.topic ≠ "" := by
  rintro same
  simp [inputFault?, same] at formed

/-- Where the addition succeeds, its list is well-formed, the handle had nothing of it assigned, and
the set is extended by it. -/
theorem incrementalAssign_ok {added : Site}
    (done : (incrementalAssign partitions).run site = (.ok (), added)) :
    ∃ client, site.consumer.connection = .connected client ∧
      (∀ tp ∈ partitions, inputFault? tp = none) ∧
      Client.Placeable .incrementalAssign partitions ⟨client, site.cluster⟩ ∧
      (∀ tp ∈ partitions, tp.key ∉ client.assignment.map Assigned.key) ∧
      added.consumer.partitions = site.consumer.partitions.extend partitions ∧
      added.cluster = (site.cluster.takeFault .incrementalAssign).2 := by
  obtain ⟨client, between, passed, checks⟩ := run_bind_eq_ok done
  obtain ⟨_, opened, gate⟩ | ⟨_, refused⟩ := openHandle_cases site
  swap
  · cases refused.symm.trans passed
  cases gate.symm.trans passed
  obtain ⟨_, formed, checked, calls⟩ := run_bind_eq_ok checks
  obtain ⟨wellFormed, gate⟩ | ⟨_, _, refused⟩ := requireWellFormed_cases partitions site
  swap
  · cases refused.symm.trans checked
  cases gate.symm.trans checked
  obtain ⟨_, called, accepted, taken⟩ := run_bind_eq_ok calls
  cases taken
  rw [call_run] at accepted
  obtain ⟨_, refused⟩ | ⟨placeable, apart, placed⟩ :=
    Client.incrementalAssign_cases partitions ⟨client, site.cluster⟩
  · rw [refused] at accepted
    cases accepted
  · rw [placed] at accepted
    cases accepted
    exact ⟨client, opened, wellFormed, placeable, apart, rfl, rfl⟩

/-- Where the removal succeeds, no failure was scripted for it, and the first entry of each
partition of its list is removed from the set. -/
theorem incrementalUnassign_ok {removed : Site}
    (done : (incrementalUnassign partitions).run site = (.ok (), removed)) :
    (site.cluster.takeFault .incrementalUnassign).1 = none ∧
      removed.consumer.partitions =
        (site.consumer.partitions.removeMatching partitions).1 := by
  obtain ⟨client, between, passed, checks⟩ := run_bind_eq_ok done
  obtain rfl := site_of_anyHandle passed
  obtain ⟨_, formed, wellFormed, calls⟩ := run_bind_eq_ok checks
  obtain rfl := site_of_requireWellFormed wellFormed
  obtain ⟨_, called, accepted, taken⟩ := run_bind_eq_ok calls
  cases taken
  rw [call_run] at accepted
  have still : called.consumer.partitions = formed.consumer.partitions := by
    rw [← (Prod.mk.inj accepted).2]
    rfl
  refine ⟨?_, congrArg (fun set => (PartitionSet.removeMatching set partitions).1) still⟩
  cases fault : (formed.cluster.takeFault .incrementalUnassign).1 with
  | none => rfl
  | some error =>
    have refused : (Client.incrementalUnassign partitions).run ⟨client, formed.cluster⟩ =
      (.error error, _) := run_bind_error (Client.takeFault_error fault)
    rw [refused] at accepted
    cases accepted

/-- The handle adds whatever is well-formed and not yet assigned. -/
theorem incrementalAssign_run (accepts : site.Accepts client)
    (wellFormed : ∀ tp ∈ partitions, inputFault? tp = none)
    (concrete : ∀ tp ∈ partitions, 0 ≤ tp.partition)
    (apart : ∀ tp ∈ partitions, tp.key ∉ client.assignment.map Assigned.key) :
    ∃ added, (incrementalAssign partitions).run site = (.ok (), added) ∧
      ∃ client, added.consumer.connection = .connected client := by
  have called := call_run client (.incrementalAssign partitions)
    (Client.incrementalAssign partitions) site
  rw [Client.incrementalAssign_run ⟨accepts.adds, concrete, accepts.opened⟩ apart] at called
  obtain ⟨_, passed⟩ | ⟨_, faulty, _⟩ := requireWellFormed_cases partitions site
  · unfold incrementalAssign
    rw [run_bind_ok (openHandle_run accepts.connected), run_bind_ok passed, run_bind_ok called]
    refine ⟨_, rfl, Client.extended ⟨client, site.cluster⟩ partitions, ?_⟩
    change site.consumer.connection.update _ = _
    rw [accepts.connected]
    rfl
  · obtain ⟨tp, listed, fault⟩ := List.exists_of_findSome?_eq_some faulty
    rw [wellFormed tp listed] at fault
    contradiction

/-- The handle takes away whatever is well-formed. -/
theorem incrementalUnassign_run (opened : site.consumer.connection = .connected client)
    (removes : (site.cluster.takeFault .incrementalUnassign).1 = none)
    (wellFormed : ∀ tp ∈ partitions, inputFault? tp = none) :
    ∃ removed, (incrementalUnassign partitions).run site = (.ok (), removed) := by
  have called := call_run client (.incrementalUnassign partitions)
    (Client.incrementalUnassign partitions) site
  have accepted :
      ((Client.incrementalUnassign partitions).run ⟨client, site.cluster⟩).1 = .ok () := by
    unfold Client.incrementalUnassign
    rw [Client.scripted_run removes]
    rfl
  rw [accepted] at called
  obtain ⟨_, passed⟩ | ⟨_, faulty, _⟩ := requireWellFormed_cases partitions site
  · unfold incrementalUnassign
    rw [run_bind_ok (anyHandle_run opened), run_bind_ok passed, run_bind_ok called]
    exact ⟨_, rfl⟩
  · obtain ⟨tp, listed, fault⟩ := List.exists_of_findSome?_eq_some faulty
    rw [wellFormed tp listed] at fault
    contradiction

end Consumer

/-- Adding a list of partitions and taking it away again leaves the set with the keys and the count
it had. -/
theorem keys_of_pair {added removed : Site}
    (adding : (incrementalAssign partitions).run site = (.ok (), added))
    (removing : (incrementalUnassign partitions).run added = (.ok (), removed)) :
    removed.consumer.partitions.keys.Perm site.consumer.partitions.keys ∧
      removed.consumer.partitions.count = site.consumer.partitions.count := by
  obtain ⟨_, _, _, _, _, extended, _⟩ := incrementalAssign_ok adding
  obtain ⟨_, remaining⟩ := incrementalUnassign_ok removing
  rw [remaining, extended]
  apply PartitionSet.removeMatching_perm
  · rw [PartitionSet.keys, PartitionSet.extend, List.map_append]
    exact List.perm_append_comm
  · exact Nat.add_comm _ _

/-- Where the handle has assigned whatever the set holds, adding and taking away pair up. -/
theorem pairsUp_of_covers (covers : ∀ client, site.Accepts client →
    client.Covers site.consumer.partitions) : site.PairsUp := by
  intro partitions added removed adding removing
  obtain ⟨client, connected, wellFormed, placeable, apart, extended, cluster⟩ :=
    incrementalAssign_ok adding
  obtain ⟨removes, remaining⟩ := incrementalUnassign_ok removing
  rw [cluster, Cluster.takeFault_other (by decide)] at removes
  have covered := covers client ⟨connected, placeable.opened, placeable.unscripted, removes⟩
  -- What the set holds is assigned and would have been refused, so nothing listed is in the set.
  have fresh : ∀ tp ∈ partitions, tp.key ∉ site.consumer.partitions.keys := by
    intro tp listed inside
    obtain ⟨entry, among, same⟩ := List.mem_map.mp inside
    obtain ⟨topic, partition⟩ := Prod.mk.inj same
    apply apart tp listed
    rw [← same]
    apply covered entry among
    · rw [topic]
      exact topic_of_wellFormed (wellFormed tp listed)
    · rw [partition]
      exact placeable.concrete tp listed
  rw [remaining, extended, PartitionSet.removeMatching_extend fresh]

/-- A partition at an offset that no entry of the set has. -/
theorem exists_fresh (set : PartitionSet) (key : PartitionKey) :
    ∃ offset : Nat,
      ({ topic := key.1, partition := key.2, offset := .absolute offset } : TopicPartition) ∉
        set.entries := by
  let taken (tp : TopicPartition) : Nat := (tp.offset.absolute?.getD 0).toNat
  obtain ⟨offset, unused⟩ := Infinite.exists_notMem_finset (set.entries.map taken).toFinset
  refine ⟨offset, fun inside => unused ?_⟩
  rw [List.mem_toFinset, List.mem_map]
  exact ⟨_, inside, by simp [taken, Offset.absolute?]⟩

/-- Where adding and taking away pair up, the handle has assigned whatever the set holds. -/
theorem Site.PairsUp.covers (pairs : site.PairsUp) (accepts : site.Accepts client) :
    client.Covers site.consumer.partitions := by
  intro tp among topic concrete
  by_contra unassigned
  obtain ⟨offset, outside⟩ := exists_fresh site.consumer.partitions tp.key
  generalize named : ({ topic := tp.key.1, partition := tp.key.2, offset := .absolute offset } :
    TopicPartition) = other at outside
  have own : other.key = tp.key := by rw [← named]; rfl
  have wellFormed : ∀ tp ∈ [other], inputFault? tp = none := by
    rintro _ (_ | ⟨_, ⟨⟩⟩)
    have low : ¬tp.partition < unassignedPartition := by
      unfold unassignedPartition
      omega
    rw [← named]
    simp [inputFault?, TopicPartition.key, topic, low]
  obtain ⟨added, adding, present, connected⟩ := incrementalAssign_run accepts wellFormed
    (by simpa [← named, TopicPartition.key] using concrete) (by simpa [own] using unassigned)
  obtain ⟨_, _, _, _, _, extended, cluster⟩ := incrementalAssign_ok adding
  obtain ⟨removed, removing⟩ := incrementalUnassign_run connected
    (by rw [cluster, Cluster.takeFault_other (by decide)]; exact accepts.removes) wellFormed
  -- The entry that the set held before is the one that is removed, so the other one stays.
  have remaining := (incrementalUnassign_ok removing).2
  rw [pairs [other] added removed adding removing, extended] at remaining
  apply outside
  rw [remaining]
  apply PartitionSet.mem_removeMatching_extend
  rw [own]
  exact List.mem_map_of_mem among

/-- At every site, adding a list of partitions and taking it away again, if both succeed, leaves the
set with the count and the keys it had; and the set is exactly what it was, whatever the list, just
where the handle has assigned every partition of the set that a caller can name. -/
theorem pairsUp_iff (site : Site) :
    (∀ (partitions : List TopicPartition) (added removed : Site),
      (incrementalAssign partitions).run site = (.ok (), added) →
      (incrementalUnassign partitions).run added = (.ok (), removed) →
      removed.consumer.partitions.keys.Perm site.consumer.partitions.keys ∧
        removed.consumer.partitions.count = site.consumer.partitions.count) ∧
    (site.PairsUp ↔ ∀ client, site.Accepts client →
      client.Covers site.consumer.partitions) :=
  ⟨fun _ _ _ => keys_of_pair, fun pairs _ => pairs.covers, pairsUp_of_covers⟩

/-- After a subscribe the handle has nothing assigned, while the set holds what was assigned before.
A partition that is added and taken away then leaves its own offset in the set, in place of the one
the set held. -/
theorem pair_after_subscribe :
    let place (offset : Int) : TopicPartition :=
      { topic := "log", partition := 0, offset := .absolute offset }
    let site := course { consumer := { config := {} }, cluster := {} }
      [(.operate .connect, .script), (.operate (.assign [place 5]), .script),
        (.operate (.subscribe ["log"]), .script)]
    let added := (incrementalAssign [place 7]).run site
    let removed := (incrementalUnassign [place 7]).run added.2
    added.1 = .ok () ∧ removed.1 = .ok () ∧
      site.consumer.partitions.entries = [place 5] ∧
      removed.2.consumer.partitions.entries = [place 7] ∧ ¬site.PairsUp := by
  intro place site added removed
  have adding : added.1 = .ok () := by decide +kernel
  have removing : removed.1 = .ok () := by decide +kernel
  have before : site.consumer.partitions.entries = [place 5] := by decide +kernel
  have after : removed.2.consumer.partitions.entries = [place 7] := by decide +kernel
  refine ⟨adding, removing, before, after, fun pairs => ?_⟩
  have same := pairs [place 7] added.2 removed.2 (Prod.ext adding rfl) (Prod.ext removing rfl)
  rw [same, before] at after
  exact absurd after (by decide)

end LogConsumer
