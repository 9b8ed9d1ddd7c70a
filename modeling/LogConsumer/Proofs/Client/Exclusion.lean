import LogConsumer.Proofs.Client.Keys
import LogConsumer.Proofs.Client.Placement

/-!
# Partitions that a client does not read

What becomes of a partition that is not in the assignment of a client. A call puts it there only by
naming it (`ClientCall.excludes_perform`), except a poll: a client that reads nothing joins its
group and takes every partition of its topics. As long as the client would not take the partition
that way (`Client.Spares`), no poll takes it or answers with a message of it (`Client.spares_poll`).
-/
namespace LogConsumer

namespace Client

variable {key : PartitionKey}

/-- The partition is not in the assignment of the client. -/
def Excludes (client : Client) (key : PartitionKey) : Prop :=
  key ∉ client.assignment.map Assigned.key

/-- A poll of the client would have it join its group and take the partitions of the topic. -/
def WouldJoin (client : Client) (topic : String) : Prop :=
  client.assignment = [] ∧ topic ∈ client.subscription

/-- The client neither reads the partition nor would take it by joining its group. -/
structure Spares (client : Client) (key : PartitionKey) : Prop where
  /-- The partition is not in the assignment. -/
  excludes : client.Excludes key
  /-- The partition would not be taken with its topic. -/
  abstains : ¬client.WouldJoin key.1

/-- Who reads nothing reads no partition. -/
theorem excludes_of_nil {client : Client} (nothing : client.assignment = []) :
    client.Excludes key := by
  simp [Excludes, nothing]

/-- Which partitions are read is told by the keys alone. -/
theorem excludes_congr {left right : Client}
    (same : right.assignment.map Assigned.key = left.assignment.map Assigned.key)
    (excludes : left.Excludes key) : right.Excludes key := by
  rwa [Excludes, same]

/-- The partitions that are joined are partitions of the topics subscribed to. -/
theorem mem_subscribedPartitions {cluster : Cluster} {topics : List String} {tp : TopicPartition}
    (among : tp ∈ subscribedPartitions cluster topics) : tp.topic ∈ topics := by
  simp only [subscribedPartitions, List.mem_flatMap, List.mem_map] at among
  obtain ⟨topic, subscribed, number, _, rfl⟩ := among
  exact subscribed

/-- A client that spares a partition spares it when it has joined its group. -/
theorem spares_joined {link : Link} (spares : link.client.Spares key) :
    (joined link).Spares key := by
  by_cases joins : link.client.subscription ≠ [] ∧ link.client.assignment = []
  · have topical : key.1 ∉ link.client.subscription := by
      intro subscribed
      exact spares.abstains ⟨joins.2, subscribed⟩
    have taken : joined link = { link.client with
        assignment :=
          assignedOfList link (subscribedPartitions link.cluster link.client.subscription)
        cursor := 0 } := by
      simp [joined, joins]
    rw [taken]
    constructor
    · unfold Excludes
      rw [assignedOfList_key]
      intro inside
      obtain ⟨tp, among, same⟩ := List.mem_map.mp inside
      have subscribed : tp.topic ∈ link.client.subscription := mem_subscribedPartitions among
      have topic : tp.topic = key.1 := congrArg Prod.fst same
      rw [topic] at subscribed
      exact topical subscribed
    · rintro ⟨_, subscribed⟩
      exact topical subscribed
  · have alone : joined link = link.client := by
      have stays :
          ¬(!link.client.subscription.isEmpty && link.client.assignment.isEmpty) = true := by
        simpa using joins
      unfold joined
      dsimp only
      rw [if_neg stays]
    rw [alone]
    exact spares

/-- A message that is served comes from a partition that is read. -/
theorem serve_message_key {cluster : Cluster} {client : Client} {message : Message}
    (found : (serve cluster client).1 = some message) :
    message.topicPartition.key ∈ client.assignment.map Assigned.key := by
  obtain ⟨nothing, _⟩ | ⟨served, before, entry, after, _, _, _, answered, whole, _, here, _⟩ :=
    serve_cases cluster client
  · rw [nothing] at found
    contradiction
  · rw [answered] at found
    cases found
    have own : message.topicPartition.key = entry.key := by
      apply inspect_message_key
      rw [here]
    rw [own, whole]
    simp

/-- Serving keeps sparing the partition. -/
theorem spares_serve {cluster : Cluster} {client : Client} (spares : client.Spares key) :
    (serve cluster client).2.Spares key := by
  have keys := serve_keys cluster client
  have subscription : (serve cluster client).2.subscription = client.subscription := by
    rw [serve_rest]
  constructor
  · exact excludes_congr keys spares.excludes
  · rintro ⟨nothing, subscribed⟩
    rw [nothing] at keys
    rw [subscription] at subscribed
    have empty : client.assignment = [] := List.map_eq_nil_iff.mp keys.symm
    exact spares.abstains ⟨empty, subscribed⟩

/-- A message that carries nothing but its code names no concrete partition. -/
theorem key_empty_ne (concrete : 0 ≤ key.2) (code : ErrorCode) :
    (Message.empty code).topicPartition.key ≠ key := by
  rintro rfl
  change (0 : Int) ≤ -1 at concrete
  omega

/-- A poll of a client that spares a partition answers with no message of it and goes on sparing
it. -/
theorem spares_poll (concrete : 0 ≤ key.2) {link : Link} (timeout : Nat)
    (spares : link.client.Spares key) :
    (poll timeout link).1.message.topicPartition.key ≠ key ∧
      (poll timeout link).2.client.Spares key := by
  obtain ⟨error, _, result⟩ | ⟨_, _, result⟩ | ⟨_, _, result⟩ := poll_cases timeout link
  · rw [result]
    exact ⟨key_empty_ne concrete _, spares⟩
  · rw [result]
    exact ⟨key_empty_ne concrete _, spares⟩
  · have joins : (joined ⟨link.client, counted link.cluster timeout⟩).Spares key :=
      spares_joined spares
    rw [result]
    refine ⟨?_, spares_serve joins⟩
    cases found : (serve (counted link.cluster timeout)
        (joined ⟨link.client, counted link.cluster timeout⟩)).1 with
    | none => exact key_empty_ne concrete _
    | some message =>
      intro own
      have inside := serve_message_key found
      rw [own] at inside
      exact joins.excludes inside

/-- Subscribing is refused without a change of the client, or leaves it reading nothing. -/
theorem excludes_subscribe {link : Link} (topics : List String)
    (excludes : link.client.Excludes key) :
    ((subscribe topics).run link).2.client.Excludes key := by
  obtain ⟨error, refused⟩ | ⟨_, accepted⟩ := subscribe_cases topics link
  · rw [refused]
    exact excludes
  · rw [accepted]
    exact excludes_of_nil rfl

end Client

namespace ClientCall

open Client

/-- The call names the partition to be read. -/
def Places (key : PartitionKey) : ClientCall → Prop
  | .assign partitions | .incrementalAssign partitions => key ∈ partitions.map TopicPartition.key
  | _ => False

/-- A call that does not poll puts no partition into the assignment but those that it names. -/
theorem excludes_perform {key : PartitionKey} {call : ClientCall} {link : Link}
    (places : ¬call.Places key) (polls : ∀ timeout, call ≠ .poll timeout)
    (excludes : link.client.Excludes key) : (call.perform link).2.client.Excludes key := by
  have scripts : IgnoresScripts fun link => link.client.assignment.map Assigned.key :=
    fun _ _ => rfl
  have whenSteady (steady : call.IsSteady) : (call.perform link).2.client.Excludes key := by
    have kept : Keeps (fun link => link.client.assignment.map Assigned.key) call.perform := by
      refine keeps_of_isSteady scripts (fun _ _ => rfl) (fun link entries same => ?_) steady
      have keys := congrArg (List.map Prod.fst) same
      simpa [List.map_map, Function.comp_def] using keys
    exact excludes_congr (kept link) excludes
  cases call with
  | poll timeout => exact absurd rfl (polls timeout)
  | close => exact excludes_of_nil rfl
  | subscribe topics => exact excludes_subscribe topics excludes
  | unsubscribe => exact excludes_of_nil rfl
  | assign partitions =>
    change ((Client.assign partitions).run link).2.client.Excludes key
    obtain ⟨_, error, refused⟩ | ⟨_, accepted⟩ := assign_cases partitions link
    · rw [refused]
      exact excludes
    · rw [accepted]
      unfold Excludes
      rw [replaced, assignedOfList_key]
      exact places
  | unassign =>
    change (Client.unassign.run link).2.client.Excludes key
    obtain ⟨error, refused⟩ | accepted := unassign_cases link
    · rw [refused]
      exact excludes
    · rw [accepted]
      exact excludes_of_nil rfl
  | incrementalAssign partitions =>
    change ((Client.incrementalAssign partitions).run link).2.client.Excludes key
    obtain ⟨error, refused⟩ | ⟨_, _, accepted⟩ := incrementalAssign_cases partitions link
    · rw [refused]
      exact excludes
    · rw [accepted]
      unfold Excludes
      rw [extended, List.map_append, assignedOfList_key, List.mem_append]
      exact not_or.mpr ⟨excludes, places⟩
  | incrementalUnassign partitions =>
    change ((Client.incrementalUnassign partitions).run link).2.client.Excludes key
    obtain ⟨error, refused⟩ | accepted := incrementalUnassign_cases partitions link
    · rw [refused]
      exact excludes
    · rw [accepted]
      have fewer : ∀ entry ∈ link.client.assignment.filter (fun entry =>
          !partitions.any fun tp => entry.key = tp.key), entry ∈ link.client.assignment :=
        fun entry inside => List.mem_of_mem_filter inside
      intro inside
      obtain ⟨entry, remains, own⟩ := List.mem_map.mp inside
      exact excludes (List.mem_map.mpr ⟨entry, fewer entry remains, own⟩)
  | seek tp timeout =>
    have kept : Keeps (fun link => link.client.assignment.map Assigned.key)
        (ClientCall.seek tp timeout).perform :=
      keeps_ofAction _ (keeps_seek scripts tp fun link place entries moved =>
        Assigned.updateFirst?_map (fun _ => by rfl) moved)
    exact excludes_congr (kept link) excludes
  | _ => exact whenSteady trivial

end ClientCall

end LogConsumer
