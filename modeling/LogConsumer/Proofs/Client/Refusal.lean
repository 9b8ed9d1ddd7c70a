import LogConsumer.Outcome
import LogConsumer.Proofs.Atomicity
import LogConsumer.Proofs.Client.Serving

/-!
# Calls that fail

A primitive of a client checks everything before it changes anything. So what stands of a link, the
client as a whole with the logs and the committed offsets, is after a failure what it was before; a
failure uses up the scripted outcome it comes from, and nothing else. Storing offsets is the one
exception, since it stores the good entries of its list beside the bad ones.
-/
namespace LogConsumer

/-- What of a link no failure moves. -/
structure Link.Standing where
  /-- The client. -/
  client : Client
  /-- The partition logs of each topic. -/
  topics : Table String (List PartitionLog)
  /-- The committed offsets. -/
  commits : Table CommitKey Int

/-- What of the link no failure moves. -/
def Link.standing (link : Link) : Link.Standing :=
  { client := link.client
    topics := link.cluster.topics
    commits := link.cluster.commits }

namespace Client

/-- What stands does not hang on the scripts. -/
theorem standing_ignoresScripts : IgnoresScripts Link.standing :=
  fun _ _ => rfl

variable {link : Link}

/-- A primitive that uses up its scripted outcome first is atomic if the rest of it is. -/
theorem atomic_scripted {α : Type} {primitive : Primitive} {rest : Action α}
    (after : ∀ link, Atomic Link.standing rest link) :
    Atomic Link.standing (do takeFault primitive; rest : Action α) link :=
  .bind (keeps_takeFault standing_ignoresScripts _) fun _ _ _ => after _

/-- A subscribe that fails changes nothing. -/
theorem atomic_subscribe (topics : List String) :
    Atomic Link.standing (subscribe topics) link := by
  refine atomic_scripted fun link => ?_
  have rest (link : Link) : Atomic Link.standing (do
      ensureOpen
      update fun client => { client with subscription := topics, assignment := [] } :
        Action Unit) link :=
    .bind keeps_ensureOpen fun _ _ _ => .of_succeeds nofun
  exact .either (.bind (.throw _) fun _ _ _ => rest _) (rest link)

/-- A replacement of the assignment that fails changes nothing. -/
theorem atomic_assign (partitions : List TopicPartition) :
    Atomic Link.standing (assign partitions) link :=
  atomic_scripted fun _ => .bind (keeps_requireConcrete _) fun _ _ _ =>
    .bind keeps_ensureOpen fun _ _ _ => .get (.of_succeeds nofun)

/-- A drop of the assignment that fails changes nothing. -/
theorem atomic_unassign : Atomic Link.standing unassign link :=
  atomic_scripted fun _ => .of_succeeds nofun

/-- An addition to the assignment that fails changes nothing, be it at the last partition of its
list. -/
theorem atomic_incrementalAssign (partitions : List TopicPartition) :
    Atomic Link.standing (incrementalAssign partitions) link := by
  refine atomic_scripted fun _ => .bind (keeps_requireConcrete _) fun _ _ _ =>
    .bind keeps_ensureOpen fun _ present _ => .get ?_
  cases partitions.find? fun tp => (Assigned.find? present.client.assignment tp.key).isSome with
  | some tp => exact .throw _
  | none => exact .of_succeeds nofun

/-- A removal from the assignment that fails changes nothing. -/
theorem atomic_incrementalUnassign (partitions : List TopicPartition) :
    Atomic Link.standing (incrementalUnassign partitions) link :=
  atomic_scripted fun _ => .of_succeeds nofun

/-- A commit that fails commits none of its offsets. -/
theorem atomic_commit (partitions : Option (List TopicPartition)) :
    Atomic Link.standing (commit partitions) link := by
  refine atomic_scripted fun _ => .bind keeps_requireGroup fun group present _ => .get ?_
  have taken (pending : List (PartitionKey × Int)) : Atomic Link.standing (do
      if pending.isEmpty then throw (.ofCode .noOffset)
      updateCluster fun cluster =>
        pending.foldl (fun cluster entry => cluster.commit group entry.1 entry.2) cluster :
        Action Unit) present :=
    .either (.bind (.throw _) fun _ _ _ => .of_succeeds nofun) (.of_succeeds nofun)
  exact taken _

/-- A move of a position that fails changes nothing. -/
theorem atomic_seek (tp : TopicPartition) : Atomic Link.standing (seek tp) link := by
  refine atomic_scripted fun present => .get ?_
  dsimp only
  split
  · exact .of_succeeds nofun
  · exact .throw _

/-- A message that is served is a record or the end of a partition. -/
theorem served_ok {cluster : Cluster} {client : Client} {message : Message}
    (found : (serve cluster client).1 = some message) :
    message.error = .noError ∨ message.error = .partitionEof := by
  obtain ⟨nothing, _⟩ | ⟨_, _, entry, _, _, _, _, same, _, _, inspected, _⟩ :=
    serve_cases cluster client
  · rw [nothing] at found
    contradiction
  · cases found.symm.trans same
    obtain same | ⟨_, readable, same⟩ | ⟨_, same⟩ | ⟨_, same⟩ :=
      inspect_cases cluster client.settings.reportsEnd entry <;>
      rw [inspected] at same <;> cases same
    · exact .inl (by simpa [Message.hasData] using (Cluster.read?_eq_some readable).1.1)
    · exact .inr rfl

/-- A poll that the consumer takes for a failure changes nothing: it fails before the client joins
its group and before any entry is inspected. -/
theorem standing_poll {timeout : Nat} {error : ConsumerError}
    (failed : Outcome.ofMessage (poll timeout link).1.message = .error error) :
    (poll timeout link).2.standing = link.standing := by
  have uncounted : ({ link with cluster := counted link.cluster timeout } : Link).standing =
      link.standing := by
    rw [counted_rest]
    rfl
  obtain ⟨_, _, result⟩ | ⟨_, _, result⟩ | ⟨_, _, result⟩ := poll_cases timeout link
  · rw [result]
    exact uncounted
  · rw [result]
    exact uncounted
  · rw [result] at failed
    cases served : (serve (counted link.cluster timeout)
        (joined { link with cluster := counted link.cluster timeout })).1 with
    | none =>
      rw [served] at failed
      contradiction
    | some message =>
      rw [served] at failed
      obtain code | code := served_ok served <;>
        (rw [Outcome.ofMessage, code] at failed; contradiction)

end Client

end LogConsumer
