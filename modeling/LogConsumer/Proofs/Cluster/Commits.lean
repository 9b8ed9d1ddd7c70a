import LogConsumer.Proofs.Client.Entries
import LogConsumer.Proofs.Cluster.Logs

/-!
# Scripts and committed offsets of a cluster

A primitive is let through while no failure is scripted for it; using up scripts never stops that.
A commit of stored offsets leaves, for each partition, what the last entry of it has stored, or what
was committed before where nothing is stored (`committed?_storedOffsets`).
-/
namespace LogConsumer.Cluster

open Assigned

/-- No failure is scripted for a primitive. -/
def LetsThrough (cluster : Cluster) (primitive : Primitive) : Prop :=
  ∀ outcome ∈ cluster.script primitive, outcome = none

/-- What nothing is scripted for is let through. -/
theorem LetsThrough.of_silent {cluster : Cluster} {primitive : Primitive}
    (silent : cluster.script primitive = []) : cluster.LetsThrough primitive := by
  rw [LetsThrough, silent]
  exact List.forall_mem_nil _

/-- A call that is let through does not fail as scripted. -/
theorem LetsThrough.unscripted {cluster : Cluster} {primitive : Primitive}
    (lets : cluster.LetsThrough primitive) : (cluster.takeFault primitive).1 = none := by
  unfold takeFault
  split
  · rfl
  · rename_i outcome rest scripted
    exact lets outcome (by rw [scripted]; exact List.mem_cons_self)

/-- Using up a script lets through what was let through. -/
theorem LetsThrough.takeFault {cluster : Cluster} {primitive : Primitive}
    (lets : cluster.LetsThrough primitive) (other : Primitive) :
    (cluster.takeFault other).2.LetsThrough primitive := by
  unfold Cluster.takeFault
  split
  · exact lets
  · rename_i outcome rest scripted
    intro coming inside
    unfold script at inside
    rw [Table.find?_insert] at inside
    split at inside
    · rename_i same
      subst same
      exact lets coming (by rw [scripted]; exact List.mem_cons_of_mem _ inside)
    · exact lets coming inside

/-- Nothing happened to a cluster that a group reading it could see: the logs and the committed
offsets are the same, and what was let through still is. -/
structure Unmoved (before after : Cluster) : Prop where
  /-- The logs are the same. -/
  topics : after.topics = before.topics
  /-- The committed offsets are the same. -/
  commits : after.commits = before.commits
  /-- What was let through still is. -/
  lets : ∀ primitive, before.LetsThrough primitive → after.LetsThrough primitive

namespace Unmoved

/-- Nothing happened. -/
theorem refl (cluster : Cluster) : Unmoved cluster cluster :=
  ⟨rfl, rfl, fun _ => id⟩

/-- Nothing happened, twice. -/
theorem trans {first second third : Cluster} (before : Unmoved first second)
    (after : Unmoved second third) : Unmoved first third :=
  ⟨after.topics.trans before.topics, after.commits.trans before.commits,
    fun primitive lets => after.lets primitive (before.lets primitive lets)⟩

/-- A script is used up. -/
theorem takeFault (cluster : Cluster) (primitive : Primitive) :
    Unmoved cluster (cluster.takeFault primitive).2 := by
  refine ⟨?_, ?_, fun _ lets => lets.takeFault primitive⟩ <;> rw [takeFault_rest]

end Unmoved

/-- Commit offsets for a group, in their order. -/
def commitAll (cluster : Cluster) (group : String) (pending : List (PartitionKey × Int)) :
    Cluster :=
  pending.foldl (fun cluster entry => cluster.commit group entry.1 entry.2) cluster

/-- Committing changes the committed offsets only. -/
theorem commitAll_rest (cluster : Cluster) (group : String) (pending : List (PartitionKey × Int)) :
    cluster.commitAll group pending =
      { cluster with commits := (cluster.commitAll group pending).commits } := by
  unfold commitAll
  induction pending generalizing cluster with
  | nil => rfl
  | cons entry pending ih =>
    rw [List.foldl_cons, ih]
    rfl

/-- A commit is found for its own group and partition. -/
theorem committed?_commit (cluster : Cluster) (group : String) (key other : PartitionKey)
    (offset : Int) : (cluster.commit group key offset).committed? group other =
      if key = other then some offset else cluster.committed? group other := by
  unfold committed? commit
  rw [Table.find?_insert]
  by_cases same : key = other
  · rw [if_pos same, if_pos (by rw [same])]
  · rw [if_neg same, if_neg fun equal => same (congrArg CommitKey.partition equal)]

/-- Committing for one group leaves what another has committed. -/
theorem committed?_commitAll {own group : String} (apart : own ≠ group) (cluster : Cluster)
    (pending : List (PartitionKey × Int)) (key : PartitionKey) :
    (cluster.commitAll own pending).committed? group key = cluster.committed? group key := by
  induction pending generalizing cluster with
  | nil => rfl
  | cons entry pending ih =>
    refine (ih (cluster.commit own entry.1 entry.2)).trans ?_
    unfold commit committed?
    rw [Table.find?_insert, if_neg fun same => apart (congrArg CommitKey.group same)]

/-- Committing offsets leaves, for a partition, the last one listed for it, or else what was
committed. -/
theorem committed?_commitAll_own (cluster : Cluster) (group : String) (key : PartitionKey)
    (pending : List (PartitionKey × Int)) :
    (cluster.commitAll group pending).committed? group key =
      (pending.reverse.lookup key).or (cluster.committed? group key) := by
  induction pending generalizing cluster with
  | nil => rfl
  | cons entry pending ih =>
    have begun : (cluster.commitAll group (entry :: pending)) =
        (cluster.commit group entry.1 entry.2).commitAll group pending := rfl
    rw [begun, ih, committed?_commit, List.reverse_cons, List.lookup_append, Option.or_assoc]
    congr 1
    obtain ⟨place, offset⟩ := entry
    by_cases here : place = key
    · simp [here]
    · simp [List.lookup_cons, here, beq_false_of_ne (Ne.symm here)]

/-- Committing what entries have stored leaves, for a partition, what its entries have stored, the
last one counting, or else what was committed. -/
theorem committed?_storedOffsets (cluster : Cluster) (group : String) (key : PartitionKey)
    (entries : List Assigned) :
    (cluster.commitAll group (Client.storedOffsets entries)).committed? group key =
      (ofPartition key entries).foldl (fun committed entry => entry.stored <|> committed)
        (cluster.committed? group key) := by
  induction entries generalizing cluster with
  | nil => rfl
  | cons entry entries ih =>
    have first : (cluster.commitAll group (Client.storedOffsets (entry :: entries))) =
        ((entry.stored.map (cluster.commit group entry.key)).getD cluster).commitAll group
          (Client.storedOffsets entries) := by
      unfold Client.storedOffsets
      rw [List.filterMap_cons]
      cases entry.stored <;> rfl
    have begun : ((entry.stored.map (cluster.commit group entry.key)).getD cluster).committed?
        group key = if entry.key = key then entry.stored <|> cluster.committed? group key
          else cluster.committed? group key := by
      cases entry.stored with
      | none => simp
      | some offset => simp [committed?_commit]
    rw [first, ih, begun]
    unfold ofPartition
    by_cases here : entry.key = key
    · rw [if_pos here, List.filter_cons_of_pos (by simpa using here), List.foldl_cons]
    · rw [if_neg here, List.filter_cons_of_neg (by simpa using here)]

end LogConsumer.Cluster
