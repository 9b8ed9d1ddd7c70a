import LogConsumer.Proofs.Client.Unpolled

/-!
# What a client can tell of its cluster

Two clusters are alike for a group if they have the same logs and the same offsets committed for the
group, and script no failure (`Cluster.Alike`). Nothing else of a cluster reaches a client of the
group: whatever it is called to do, it answers the same on both and leaves them alike
(`ClientCall.respects`).
-/
namespace LogConsumer

/-- Two clusters differ in nothing that a client of the group can tell, or of no group. -/
structure Cluster.Alike (group : Option String) (left right : Cluster) : Prop where
  /-- The logs are the same. -/
  topics : left.topics = right.topics
  /-- The offsets committed for the group are the same. -/
  commits : ∀ name, group = some name → ∀ key, left.committed? name key = right.committed? name key
  /-- The first cluster scripts no failure. -/
  quiet : ∀ primitive, left.LetsThrough primitive
  /-- The second cluster scripts no failure. -/
  quiet' : ∀ primitive, right.LetsThrough primitive

namespace Cluster.Alike

variable {group : Option String} {left between right : Cluster}

/-- A cluster that scripts no failure is like itself. -/
theorem refl (quiet : ∀ primitive, left.LetsThrough primitive) : Alike group left left :=
  ⟨rfl, fun _ _ _ => rfl, quiet, quiet⟩

/-- What is alike to the same is alike. -/
theorem trans (before : Alike group left between) (after : Alike group between right) :
    Alike group left right where
  topics := before.topics.trans after.topics
  commits name own key := (before.commits name own key).trans (after.commits name own key)
  quiet := before.quiet
  quiet' := after.quiet'

/-- The other way round clusters are alike too. -/
theorem symm (alike : Alike group left right) : Alike group right left where
  topics := alike.topics.symm
  commits name own key := (alike.commits name own key).symm
  quiet := alike.quiet'
  quiet' := alike.quiet

/-- A cluster to which nothing happened is like it was. -/
theorem of_unmoved (quiet : ∀ primitive, left.LetsThrough primitive)
    (unmoved : left.Unmoved right) : Alike group left right where
  topics := unmoved.topics.symm
  commits name own key := by rw [committed?, committed?, unmoved.commits]
  quiet := quiet
  quiet' primitive := unmoved.lets primitive (quiet primitive)

/-- Using up a script leaves clusters alike. -/
theorem takeFault (alike : Alike group left right) (primitive : Primitive) :
    Alike group (left.takeFault primitive).2 (right.takeFault primitive).2 :=
  have first : Alike group left (left.takeFault primitive).2 :=
    of_unmoved alike.quiet (.takeFault left primitive)
  have second : Alike group right (right.takeFault primitive).2 :=
    of_unmoved alike.quiet' (.takeFault right primitive)
  first.symm.trans (alike.trans second)

/-- Committing leaves clusters alike. -/
theorem commit (alike : Alike group left right) (name : String) (key : PartitionKey)
    (offset : Int) :
    Alike group (left.commit name key offset) (right.commit name key offset) where
  topics := alike.topics
  commits own same other := by
    unfold Cluster.commit committed?
    rw [Table.find?_insert, Table.find?_insert]
    split
    · rfl
    · exact alike.commits own same other
  quiet := alike.quiet
  quiet' := alike.quiet'

/-- Committing many offsets leaves clusters alike. -/
theorem commitAll (alike : Alike group left right) (name : String)
    (pending : List (PartitionKey × Int)) :
    Alike group (left.commitAll name pending) (right.commitAll name pending) := by
  induction pending generalizing left right with
  | nil => exact alike
  | cons entry pending ih => exact ih (alike.commit name entry.1 entry.2)

end Cluster.Alike

/-- The client is the same, and it can tell no difference of the clusters. -/
structure Link.Alike (left right : Link) : Prop where
  /-- The client is the same. -/
  client : left.client = right.client
  /-- The clusters are alike for its group. -/
  cluster : left.cluster.Alike left.client.settings.group right.cluster

namespace Client

variable {left right : Link}

/-- Where no failure is scripted, using up a script respects what the client can tell. -/
theorem respects_takeFault (primitive : Primitive) :
    Respects Link.Alike (takeFault primitive).run := by
  intro left right alike
  rw [takeFault_run, takeFault_run, (alike.cluster.quiet primitive).unscripted,
    (alike.cluster.quiet' primitive).unscripted]
  exact ⟨rfl, alike.client, alike.cluster.takeFault primitive⟩

/-- A call that does not poll can tell no more of a link than its client can. -/
theorem likeness_alike : Link.Likeness Link.Alike where
  client alike := ⟨_, alike.client⟩
  topics alike := alike.cluster.topics
  commits {_ right} alike group own key :=
    alike.cluster.commits group (alike.client ▸ own) key
  takeFault := respects_takeFault
  commitAll alike group pending := ⟨alike.client, alike.cluster.commitAll group pending⟩
  update {left right} alike change ignores := by
    refine ⟨congrArg change alike.client, ?_⟩
    change left.cluster.Alike (change left.client).settings.group right.cluster
    rw [ignores.settings]
    exact alike.cluster

/-- Joining the group goes by what the client can tell. -/
theorem joined_alike (alike : left.Alike right) : joined left = joined right := by
  have counts (topic : String) : left.cluster.partitionCount topic =
      right.cluster.partitionCount topic := by
    rw [Cluster.partitionCount, Cluster.partitionCount, alike.cluster.topics]
  unfold joined
  simp only [likeness_alike.assignedOfList alike, alike.client, subscribedPartitions, counts]

/-- What stays of the settings when the assignment was served. -/
theorem serve_joined_settings (cluster : Cluster) (link : Link) :
    (serve cluster (joined link)).2.settings = link.client.settings := by
  rw [serve_rest]
  exact joined_settings link

/-- Counting a poll leaves clusters alike. -/
theorem counted_alike (alike : left.Alike right) (timeout : Nat) :
    Link.Alike { left with cluster := counted left.cluster timeout }
      { right with cluster := counted right.cluster timeout } := by
  refine ⟨alike.client, Cluster.Alike.takeFault ?_ .poll⟩
  exact ⟨alike.cluster.topics, alike.cluster.commits, alike.cluster.quiet, alike.cluster.quiet'⟩

/-- A poll that is let through serves the assignment, unless the handle is shut down. -/
theorem poll_run {link : Link} (lets : link.cluster.LetsThrough .poll) (timeout : Nat) :
    let cluster := counted link.cluster timeout
    let served := serve cluster (joined { link with cluster })
    poll timeout link =
      if link.client.closed then ({ message := .empty .destroy }, { link with cluster })
      else ((match served.1 with
        | some message => { message }
        | none => { message := .empty .timedOut, waited := timeout }), ⟨served.2, cluster⟩) := by
  intro cluster served
  obtain ⟨error, failed, _⟩ | ⟨_, shut, result⟩ | ⟨_, opened, result⟩ := poll_cases timeout link
  · rw [lets.unscripted] at failed
    contradiction
  · rw [if_pos shut]
    exact result
  · rw [if_neg (Bool.eq_false_iff.mp opened)]
    exact result

/-- Polling respects what the client can tell. -/
theorem respects_poll (timeout : Nat) : Respects Link.Alike (poll timeout) := by
  intro left right alike
  have counts := counted_alike alike timeout
  have same : serve (counted left.cluster timeout)
        (joined { left with cluster := counted left.cluster timeout }) =
      serve (counted right.cluster timeout)
        (joined { right with cluster := counted right.cluster timeout }) := by
    rw [serve_congr counts.cluster.topics, joined_alike counts]
  rw [poll_run (alike.cluster.quiet .poll), poll_run (alike.cluster.quiet' .poll)]
  rw [same, alike.client]
  by_cases shut : right.client.closed = true
  · rw [if_pos shut, if_pos shut]
    exact ⟨rfl, alike.client ▸ counts⟩
  · rw [if_neg shut, if_neg shut]
    refine ⟨rfl, rfl, ?_⟩
    dsimp only
    rw [serve_joined_settings]
    exact alike.client ▸ counts.cluster

end Client

/-- Every call respects what the client can tell: on clusters that are alike it answers the same,
and it leaves the client the same and the clusters alike. -/
theorem ClientCall.respects (call : ClientCall) : Respects Link.Alike call.perform := by
  cases call with
  | poll timeout => exact .bind (Client.respects_poll timeout) fun _ => .pure _
  | _ => exact Client.likeness_alike.respects nofun

end LogConsumer
