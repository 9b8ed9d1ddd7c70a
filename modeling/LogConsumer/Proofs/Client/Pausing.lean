import LogConsumer.Proofs.Client.Reading
import LogConsumer.Proofs.Client.Refusal

/-!
# Paused partitions

What becomes of the only entry of a partition while it is paused. No call changes it unless the call
takes the partition from what the client reads, moves its position, resumes it or stores an offset
for it (`ClientCall.paused_perform`). A poll passes over it and, unless the answer is scripted,
answers with nothing of the partition (`Client.poll_paused`).
-/
namespace LogConsumer

open Assigned

variable {key : PartitionKey} {entry : Assigned}

/-- The message is a record of the partition or tells its end. -/
def Message.IsOf (message : Message) (key : PartitionKey) : Prop :=
  message.topicPartition.key = key ∧
    (message.hasData = true ∨ message.isEndOfPartition = true)

namespace Client

/-- Pausing or resuming a partition marks its only entry. -/
theorem setPaused_own (paused : Bool) {tp : TopicPartition} {entries : List Assigned}
    (sole : ofPartition tp.key entries = [entry]) :
    ofPartition tp.key (setPaused paused tp entries).2 = [{ entry with paused }] := by
  obtain ⟨_, changed, found, result⟩ | ⟨absent, _⟩ := setPaused_cases paused tp entries
  · rw [result]
    exact ofPartition_updateFirst?_own (fun _ => by rfl) sole found
  · exact absurd (assigned_of_sole sole) absent

/-- Pausing or resuming a list marks the only entry of a partition if the list names it, and leaves
it alone otherwise. -/
theorem sweep_setPaused_sole (paused : Bool) (partitions : List TopicPartition)
    {entries : List Assigned} (sole : ofPartition key entries = [entry]) :
    ofPartition key (sweep (setPaused paused) partitions entries).2 =
      [if key ∈ partitions.map TopicPartition.key then { entry with paused } else entry] := by
  induction partitions generalizing entries entry with
  | nil => exact sole
  | cons tp partitions ih =>
    rw [sweep]
    by_cases named : tp.key = key
    · subst named
      rw [ih (setPaused_own paused sole)]
      simp
    · have kept := setPaused_other named paused entries
      rw [ih (kept.trans sole)]
      simp [Ne.symm named]

/-- Pausing or resuming a list reports no error only for a partition that the list names and that is
assigned. -/
theorem of_mem_sweep_setPaused {paused : Bool} {partitions : List TopicPartition}
    {entries : List Assigned} {tp : TopicPartition}
    (written : tp ∈ (sweep (setPaused paused) partitions entries).1) (fine : tp.error = .noError) :
    tp.key ∈ partitions.map TopicPartition.key ∧ tp.key ∈ entries.map Assigned.key := by
  induction partitions generalizing entries with
  | nil => contradiction
  | cons first partitions ih =>
    rw [sweep] at written
    obtain rfl | later := List.mem_cons.mp written
    · obtain ⟨assigned, _, _, result⟩ | ⟨_, result⟩ := setPaused_cases paused first entries
      · rw [result]
        exact ⟨List.mem_cons_self, assigned⟩
      · rw [result] at fine
        contradiction
    · obtain ⟨named, assigned⟩ := ih later
      rw [setPaused_map fun _ => rfl] at assigned
      exact ⟨List.mem_cons_of_mem _ named, assigned⟩

/-- A paused entry is not moved by being passed. -/
theorem Passed.of_paused {cluster : Cluster} {reportsEnd : Bool} {after : Assigned}
    (passed : Passed cluster reportsEnd entry after) (paused : entry.paused = true) :
    after = entry := by
  obtain same | quiet := passed
  · exact same
  · rw [Quiet, inspect, if_pos paused] at quiet
    cases quiet
    rfl

/-- Serving passes over the only entry of a partition while it is paused, and answers with nothing
of the partition. -/
theorem serve_paused (cluster : Cluster) {client : Client}
    (sole : ofPartition key client.assignment = [entry]) (paused : entry.paused = true) :
    ofPartition key (serve cluster client).2.assignment = [entry] ∧
      ∀ message, (serve cluster client).1 = some message → message.topicPartition.key ≠ key := by
  obtain ⟨after, sole', ⟨passed, others⟩ | ⟨message, _, looked⟩⟩ := serve_sole cluster sole
  · exact ⟨passed.of_paused paused ▸ sole', others⟩
  · rw [inspect, if_pos paused] at looked
    cases looked

/-- A poll leaves the only entry of a partition as it is while it is paused, and answers with
neither a record nor the end of the partition unless its answer is scripted. -/
theorem poll_paused {link : Link} (sole : ofPartition key link.client.assignment = [entry])
    (paused : entry.paused = true) (timeout : Nat) :
    ofPartition key (poll timeout link).2.client.assignment = [entry] ∧
      ((link.cluster.takeFault .poll).1 = none → ¬(poll timeout link).1.message.IsOf key) := by
  have reads : link.client.assignment ≠ [] := List.ne_nil_of_mem (mem_of_sole sole).1
  obtain ⟨_, scripted, result⟩ | ⟨_, _, result⟩ | ⟨_, _, result⟩ := poll_cases timeout link
  · rw [result]
    refine ⟨sole, fun unscripted => ?_⟩
    rw [scripted] at unscripted
    contradiction
  · rw [result]
    refine ⟨sole, fun _ => ?_⟩
    rintro ⟨_, record | ended⟩ <;> contradiction
  · have alone := @joined_of_assigned { link with cluster := counted link.cluster timeout } reads
    obtain ⟨kept, others⟩ := serve_paused (counted link.cluster timeout) sole paused
    rw [result, alone]
    refine ⟨kept, fun _ => ?_⟩
    cases served : (serve (counted link.cluster timeout) link.client).1 with
    | none => rintro ⟨_, record | ended⟩ <;> contradiction
    | some message => exact fun isOf => others message served isOf.1

end Client

namespace ClientCall

open Client

/-- The call fails where it is made. -/
def Refused (call : ClientCall) (link : Link) : Prop :=
  ∃ error, (call.perform link).1.outcome = .error error

/-- The call neither moves the position of a partition nor takes it from what the client reads, if
only because it is refused; shutting down does so even where it fails. -/
def SparesPlace (key : PartitionKey) (link : Link) (call : ClientCall) : Prop :=
  call.SparesReading key ∨ (call.Refused link ∧ call ≠ .close)

/-- The call leaves a paused partition paused and as it is: it spares its place, and neither resumes
it nor stores an offset for it. -/
def SparesPause (key : PartitionKey) (link : Link) (call : ClientCall) : Prop :=
  call.SparesPlace key link ∧
    match call with
    | .resume partitions | .storeOffsets partitions => ∀ tp ∈ partitions, tp.key ≠ key
    | _ => True

/-- An atomic primitive that is refused leaves the client as it is. -/
theorem client_of_refused {action : Action Unit} {link : Link}
    (atomic : Atomic Link.standing action link) {error : ClientError}
    (refused : (ClientAnswer.ofUnit action link).1.outcome = .error error) :
    (ClientAnswer.ofUnit action link).2.client = link.client := by
  change ((action.run link).1.map fun _ => ClientReply.done) = .error error at refused
  change (action.run link).2.client = link.client
  cases failed : (action.run link).1 with
  | ok value =>
    rw [failed] at refused
    contradiction
  | error reason => exact congrArg Link.Standing.client (atomic reason failed)

/-- A call that spares the place of a partition leaves the client as it is, if it is refused, or
leaves the reading of the partition alone. -/
theorem SparesPlace.cases {call : ClientCall} {link : Link} (spares : call.SparesPlace key link) :
    (call.perform link).2.client = link.client ∨ call.SparesReading key := by
  obtain reading | ⟨⟨error, refused⟩, stays⟩ := spares
  · exact .inr reading
  · cases call with
    | close => contradiction
    | unsubscribe => contradiction
    | subscribe topics => exact .inl (client_of_refused (atomic_subscribe topics) refused)
    | assign partitions => exact .inl (client_of_refused (atomic_assign partitions) refused)
    | unassign => exact .inl (client_of_refused atomic_unassign refused)
    | incrementalUnassign partitions =>
      exact .inl (client_of_refused (atomic_incrementalUnassign partitions) refused)
    | seek tp timeout => exact .inl (client_of_refused (atomic_seek tp) refused)
    | _ => exact .inr trivial

/-- A call that does not poll leaves the only entry of a partition as it is while it is paused, if
it spares the pause. -/
theorem paused_perform {call : ClientCall} {link : Link} (spares : call.SparesPause key link)
    (silent : ∀ timeout, call ≠ .poll timeout)
    (sole : ofPartition key link.client.assignment = [entry]) (paused : entry.paused = true) :
    ofPartition key (call.perform link).2.client.assignment = [entry] := by
  obtain ⟨place, unmarked⟩ := spares
  obtain same | reading := place.cases
  · rw [same]
    exact sole
  · have whenUnmarked (unmarked : call.SparesMarks key) :
        ofPartition key (call.perform link).2.client.assignment = [entry] :=
      (ofPartition_kept reading unmarked silent (assigned_of_sole sole)).trans sole
    cases call with
    | pause partitions =>
      have marked : ({ entry with paused := true } : Assigned) = entry := by rw [← paused]
      have swept := sweep_setPaused_sole true partitions sole
      rw [marked, ite_self] at swept
      exact swept
    | resume partitions => exact whenUnmarked unmarked
    | storeOffsets partitions => exact whenUnmarked unmarked
    | _ => exact whenUnmarked trivial

end ClientCall

end LogConsumer
