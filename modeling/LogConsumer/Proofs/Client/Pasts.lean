import Mathlib.Data.List.Chain
import LogConsumer.Proofs.Client.Answering
import LogConsumer.Proofs.Client.Frame
import LogConsumer.Proofs.Client.Refusal

/-!
# What the entries have been through

Beside the assignment of a client goes a list of the same length that says, entry by entry, what the
entry has been through since it was assigned: the records that polls answered with, the ends that
they told, and the moves of its position on demand. `ClientCall.pasts` says what a call adds to it.
An entry has its end marked as reported exactly if its past ends with an end that was told, and two
such ends never follow each other. `Client.Recounts` says both, and every call keeps it
(`ClientCall.recounts`).
-/
namespace LogConsumer

namespace Assigned

/-- What happens to an entry of an assignment. -/
inductive Incident where
  /-- A poll answers with its record at an offset. -/
  | read (offset : Int)
  /-- A poll answers with its end at an offset. -/
  | ended (offset : Int)
  /-- Its position is moved on demand. -/
  | sought
  deriving DecidableEq, Repr, Inhabited

namespace Incident

/-- The end of the partition is told. -/
def isEnd : Incident → Bool
  | ended _ => true
  | _ => false

/-- What the answer of a poll is to the entry that it comes from. -/
def ofMessage (message : Message) : Incident :=
  if message.isEndOfPartition then .ended message.offset else .read message.offset

/-- An answer tells the end of a partition if it is such a message. -/
@[simp] theorem isEnd_ofMessage (message : Message) :
    (ofMessage message).isEnd = message.isEndOfPartition := by
  unfold ofMessage
  split <;> simp_all [isEnd]

end Incident

/-- What happened last is that the end was told. -/
def toldEnd (past : List Incident) : Bool :=
  past.getLast?.any Incident.isEnd

/-- The end is not told twice in a row. -/
def EndsApart (past : List Incident) : Prop :=
  past.IsChain fun earlier later => earlier.isEnd = true → later.isEnd = false

/-- What is added to a past is what happened last. -/
@[simp] theorem toldEnd_append (past : List Incident) (incident : Incident) :
    toldEnd (past ++ [incident]) = incident.isEnd := by
  simp [toldEnd]

/-- An entry that has been through nothing was not told to end. -/
@[simp] theorem toldEnd_nil : toldEnd [] = false :=
  rfl

namespace EndsApart

variable {past : List Incident}

/-- An end may be told unless that is what happened last. -/
theorem append (apart : EndsApart past) {incident : Incident}
    (new : toldEnd past = true → incident.isEnd = false) : EndsApart (past ++ [incident]) := by
  refine List.isChain_append.mpr ⟨apart, List.isChain_singleton _, ?_⟩
  intro last latest next only
  obtain rfl : incident = next := by simpa using only
  intro ended
  refine new ?_
  rw [toldEnd, Option.mem_def.mp latest]
  exact ended

/-- Between two ends that were told something else happened. -/
theorem between (apart : EndsApart past) {before between after : List Incident}
    {first last : Incident} (split : past = before ++ first :: (between ++ last :: after))
    (ended : first.isEnd = true) (ended' : last.isEnd = true) :
    ∃ incident ∈ between, incident.isEnd = false := by
  have later : (first :: (between ++ last :: after)).IsChain fun earlier later =>
      earlier.isEnd = true → later.isEnd = false := (List.isChain_append.mp (split ▸ apart)).2.1
  cases between with
  | nil => exact absurd (ended'.symm.trans ((List.isChain_cons_cons.mp later).1 ended)) nofun
  | cons next between => exact ⟨next, .head _, (List.isChain_cons_cons.mp later).1 ended⟩

end EndsApart

/-- An entry that settles keeps the mark of its end. -/
theorem settled_endReported (entry : Assigned) (cluster : Cluster) :
    (entry.settled cluster).endReported = entry.endReported :=
  AtMostSettled.endReported (.inr rfl)

/-- An entry that answers is marked exactly if it answers with its end. -/
theorem answered_endReported (entry : Assigned) (cluster : Cluster) :
    (entry.answered cluster).endReported = (entry.due cluster).isEndOfPartition := by
  unfold answered due
  dsimp only
  cases readable : cluster.read? entry.key (cluster.floor entry.key entry.position) with
  | none => rfl
  | some message =>
    have fine : message.error = .noError := (Cluster.read?_eq_some readable).2.2.1
    simp [Message.isEndOfPartition, fine]

/-- An entry that is ready answers with its end only if it was not marked; the end is where its
reading goes on, and there is no record to read. -/
theorem IsReady.ending {entry : Assigned} {cluster : Cluster} {reportsEnd : Bool}
    (ready : entry.IsReady cluster reportsEnd)
    (ends : (entry.due cluster).isEndOfPartition = true) :
    let place := cluster.floor entry.key entry.position
    reportsEnd = true ∧ entry.endReported = false ∧ cluster.read? entry.key place = none ∧
      entry.due cluster = .endOfPartition entry.topic entry.partition place ∧
      entry.answered cluster = { entry with position := place, endReported := true } := by
  intro place
  have unread : cluster.read? entry.key place = none := by
    cases readable : cluster.read? entry.key place with
    | none => rfl
    | some message =>
      have fine : message.error = .noError := (Cluster.read?_eq_some readable).2.2.1
      rw [due, readable, Option.getD_some, Message.isEndOfPartition, fine] at ends
      contradiction
  obtain ⟨_, found | reports⟩ := ready
  · rw [unread] at found
    contradiction
  · refine ⟨reports.1, reports.2, unread, ?_, ?_⟩
    · rw [due, unread]
      rfl
    · rw [answered, unread]
      rfl

/-- A change to the first entry of a partition changes that place of any list of its aspects. -/
theorem updateFirst?_set {α : Type} {aspect : Assigned → α} {key : PartitionKey}
    {change : Assigned → Assigned} {value : α} (becomes : ∀ entry, aspect (change entry) = value)
    {entries changed : List Assigned} (found : updateFirst? key change entries = some changed) :
    changed.map aspect =
      (entries.map aspect).set (entries.findIdx fun entry => entry.key = key) value := by
  induction entries generalizing changed with
  | nil => contradiction
  | cons entry entries ih =>
    unfold updateFirst? at found
    rw [List.findIdx_cons]
    split at found
    · rename_i here
      cases found
      simp [here, becomes]
    · rename_i other
      obtain ⟨rest, there, rfl⟩ := Option.map_eq_some_iff.mp found
      simp [other, ih there]

end Assigned

open Assigned

/-- Of two lists that agree in an aspect, the places that are kept agree in it. -/
private theorem map_filter_zip {α β γ : Type} {left : List α} {right : List β} {aspect : α → γ}
    {aspect' : β → γ} (same : right.map aspect' = left.map aspect) (keeps : α → Bool) :
    (((left.zip right).filter fun pair => keeps pair.1).map Prod.snd).map aspect' =
      (left.filter keeps).map aspect := by
  induction left generalizing right with
  | nil => rfl
  | cons first left ih =>
    cases right with
    | nil => contradiction
    | cons second right =>
      simp only [List.map_cons, List.cons.injEq] at same
      have later := ih same.2
      by_cases kept : keeps first = true <;> simp_all

namespace Client

/-- Each of the pasts is the past of an entry: the entry is marked exactly if its end was told last,
and it was not told twice in a row. -/
structure Recounts (client : Client) (pasts : List (List Incident)) : Prop where
  /-- An entry is marked if its end was told last. -/
  told : pasts.map toldEnd = client.assignment.map Assigned.endReported
  /-- No end was told twice in a row. -/
  apart : ∀ past ∈ pasts, EndsApart past

namespace Recounts

variable {client client' : Client} {pasts : List (List Incident)}

/-- There are as many pasts as entries. -/
theorem size (recounts : client.Recounts pasts) : pasts.length = client.assignment.length := by
  simpa using congrArg List.length recounts.told

/-- A client that reads nothing has no pasts. -/
theorem nil (nothing : client.assignment = []) : client.Recounts [] :=
  ⟨by rw [nothing]; rfl, List.forall_mem_nil _⟩

/-- The pasts go on while no mark changes. -/
theorem congr (recounts : client.Recounts pasts)
    (same : client'.assignment.map Assigned.endReported =
      client.assignment.map Assigned.endReported) : client'.Recounts pasts :=
  ⟨recounts.told.trans same.symm, recounts.apart⟩

/-- Entries that are added unmarked have been through nothing. -/
theorem added (recounts : client.Recounts pasts) {fresh : List Assigned}
    (unmarked : ∀ entry ∈ fresh, entry.endReported = false)
    (longer : client'.assignment = client.assignment ++ fresh) :
    client'.Recounts (pasts ++ List.replicate fresh.length []) where
  told := by
    have marks : fresh.map Assigned.endReported = List.replicate fresh.length false := by
      rw [List.eq_replicate_iff, List.length_map]
      refine ⟨rfl, fun mark inside => ?_⟩
      obtain ⟨entry, listed, rfl⟩ := List.mem_map.mp inside
      exact unmarked entry listed
    rw [longer, List.map_append, List.map_append, recounts.told, List.map_replicate, marks,
      toldEnd_nil]
  apart := by
    refine List.forall_mem_append.mpr ⟨recounts.apart, fun past inside => ?_⟩
    rw [(List.mem_replicate.mp inside).2]
    exact .nil

/-- Entries that take the place of all others unmarked have been through nothing. -/
theorem fresh {entries : List Assigned} (unmarked : ∀ entry ∈ entries, entry.endReported = false)
    (assigned : client.assignment = entries) :
    client.Recounts (List.replicate entries.length []) := by
  have blank : ({ client with assignment := [] } : Client).Recounts [] := .nil rfl
  exact blank.added unmarked assigned

/-- Entries that are dropped are dropped with their pasts. -/
theorem filter (recounts : client.Recounts pasts) (keeps : Assigned → Bool)
    (shorter : client'.assignment = client.assignment.filter keeps) :
    client'.Recounts
      (((client.assignment.zip pasts).filter fun entry => keeps entry.1).map Prod.snd) where
  told := by
    rw [shorter]
    exact map_filter_zip recounts.told keeps
  apart := by
    intro past inside
    obtain ⟨⟨entry, _⟩, kept, rfl⟩ := List.mem_map.mp inside
    exact recounts.apart _ (List.of_mem_zip (List.mem_filter.mp kept).1).2

/-- What happens to the entry at a place is added to its past. -/
theorem happened (recounts : client.Recounts pasts) {place : Nat} {incident : Incident}
    (new : ∀ entry, client.assignment[place]? = some entry → entry.endReported = true →
      incident.isEnd = false)
    (marked : client'.assignment.map Assigned.endReported =
      (client.assignment.map Assigned.endReported).set place incident.isEnd) :
    client'.Recounts (pasts.modify place (· ++ [incident])) where
  told := by
    rw [marked, ← recounts.told]
    refine List.ext_getElem? fun index => ?_
    rw [List.getElem?_map, List.getElem?_modify, List.getElem?_set, List.getElem?_map,
      List.length_map]
    by_cases here : place = index
    · subst here
      by_cases inside : place < pasts.length
      · simp [inside]
      · simp [inside]
    · cases pasts[index]? <;> simp [here]
  apart := by
    intro past inside
    obtain ⟨index, there⟩ := List.mem_iff_getElem?.mp inside
    rw [List.getElem?_modify] at there
    obtain ⟨before, found, rfl⟩ := Option.map_eq_some_iff.mp there
    have apart : EndsApart before := recounts.apart before (List.mem_of_getElem? found)
    split
    · rename_i here
      subst here
      -- A past that ends with an end belongs to an entry that is marked.
      refine apart.append fun ended => ?_
      have mark := congrArg (·[place]?) recounts.told
      simp only [List.getElem?_map, found, Option.map_some, ended] at mark
      obtain ⟨entry, stands, reported⟩ := Option.map_eq_some_iff.mp mark.symm
      exact new entry stands reported
    · exact apart

end Recounts

variable {link : Link} {pasts : List (List Incident)}

/-- A fresh entry is not marked. -/
theorem assignedOfList_unmarked (link : Link) (partitions : List TopicPartition) :
    ∀ entry ∈ assignedOfList link partitions, entry.endReported = false := by
  intro entry inside
  obtain ⟨_, _, rfl⟩ := List.mem_map.mp inside
  rfl

/-- What a client joins its group with has been through nothing. -/
theorem recounts_joined (recounts : link.client.Recounts pasts) :
    (joined link).Recounts (pasts ++ List.replicate
      ((joined link).assignment.length - link.client.assignment.length) []) := by
  unfold joined
  dsimp only
  split
  · rename_i joins
    have nothing : link.client.assignment = [] := by
      simpa using (Bool.and_eq_true_iff.mp joins).2
    rw [nothing, List.length_nil, Nat.sub_zero]
    refine recounts.added (assignedOfList_unmarked link _) ?_
    rw [nothing, List.nil_append]
  · rw [Nat.sub_self, List.replicate_zero, List.append_nil]
    exact recounts

/-- Moving a position is refused, or moves the first entry of the partition and takes the mark of
its end back. -/
theorem seek_cases (tp : TopicPartition) (link : Link) :
    (∃ error, (seek tp).run link = (.error error, scripted .seek link)) ∨
    ∃ position entries,
      updateFirst? tp.key (fun entry => { entry with position, endReported := false })
        link.client.assignment = some entries ∧
      (seek tp).run link = (.ok (), { scripted .seek link with
        client := { link.client with assignment := entries } }) := by
  unfold seek
  obtain refused | goes := scripted_cases .seek _ link
  · exact .inl refused
  · rw [goes, run_get]
    dsimp only
    split
    · rename_i entries moved
      exact .inr ⟨_, entries, moved, rfl⟩
    · exact .inl ⟨_, rfl⟩

end Client

namespace ClientCall

open Client

/-- What the entries have been through after a call, if they have been through `before` before it.
An entry that is assigned by the call has been through nothing, and one that is dropped is dropped
with its past. -/
def pasts (link : Link) (before : List (List Incident)) (call : ClientCall) :
    List (List Incident) :=
  let accepted := (call.perform link).1.outcome.isOk
  match call with
  | .close | .unsubscribe => []
  | .subscribe _ | .unassign => if accepted then [] else before
  | .assign partitions => if accepted then List.replicate partitions.length [] else before
  | .incrementalAssign partitions =>
    if accepted then before ++ List.replicate partitions.length [] else before
  | .incrementalUnassign partitions =>
    if accepted then
      ((link.client.assignment.zip before).filter fun entry =>
        !partitions.any fun tp => entry.1.key = tp.key).map Prod.snd
    else before
  | .seek tp _ =>
    if accepted then
      before.modify (link.client.assignment.findIdx fun entry => entry.key = tp.key)
        (· ++ [.sought])
    else before
  | .poll timeout =>
    let polled := Client.poll timeout link
    -- A client that joins its group is assigned its entries by the poll.
    let present := before ++ List.replicate
      (polled.2.client.assignment.length - link.client.assignment.length) []
    match turn? link with
    | some place => present.modify place (· ++ [.ofMessage polled.1.message])
    | none => present
  | _ => before

variable {link : Link} {before : List (List Incident)}

/-- A poll adds what it answers with to the past of the entry that it answers for. -/
theorem recounts_poll (recounts : link.client.Recounts before) (timeout : Nat) :
    (ClientCall.perform (.poll timeout) link).2.client.Recounts
      ((ClientCall.poll timeout).pasts link before) := by
  change (Client.poll timeout link).2.client.Recounts _
  by_cases through : (link.cluster.takeFault .poll).1 = none ∧ link.client.closed = false
  · have present := recounts_joined recounts
    obtain ⟨nobody, _, _, settled⟩ | ⟨place, entry, turn, serves⟩ :=
      poll_turn?_cases through.2 through.1 timeout
    · have marks : (Client.poll timeout link).2.client.assignment.map Assigned.endReported =
          (joined link).assignment.map Assigned.endReported := by
        rw [settled, List.map_map]
        exact List.map_congr_left fun entry _ => settled_endReported entry link.cluster
      have size := congrArg List.length settled
      rw [List.length_map] at size
      simp only [ClientCall.pasts, nobody, size]
      exact present.congr marks
    · simp only [ClientCall.pasts, turn, serves.size]
      refine present.happened (fun found stands reported => ?_) ?_
      · obtain rfl := Option.some.inj (serves.here.symm.trans stands)
        rw [Incident.isEnd_ofMessage, serves.answer, Bool.eq_false_iff]
        intro ends
        exact absurd (reported.symm.trans (serves.ready.ending ends).2.1) nofun
      · rw [Incident.isEnd_ofMessage, serves.answer, ← answered_endReported]
        exact serves.map_eq_set AtMostSettled.endReported
  · -- A poll that is not let through touches no entry, and it is nobody's turn.
    have same : (Client.poll timeout link).2.client = link.client := by
      obtain ⟨_, _, result⟩ | ⟨_, _, result⟩ | ⟨unscripted, opened, _⟩ := poll_cases timeout link
      · rw [result]
      · rw [result]
      · exact absurd ⟨unscripted, opened⟩ through
    simp only [ClientCall.pasts, turn?_of_stuck through, same, Nat.sub_self, List.replicate_zero,
      List.append_nil]
    exact recounts

/-- A primitive that changes nothing where it is refused leaves the pasts there, and has what it
makes of them where it is accepted. -/
theorem recounts_ofUnit {action : Action Unit} {after : List (List Incident)}
    (recounts : link.client.Recounts before) (atomic : Atomic Link.standing action link)
    (accepted : ∀ link', action.run link = (.ok (), link') → link'.client.Recounts after) :
    (ClientAnswer.ofUnit action link).2.client.Recounts
      (if (ClientAnswer.ofUnit action link).1.outcome.isOk then after else before) := by
  have answered : (ClientAnswer.ofUnit action link).1.outcome =
      (action.run link).1.map fun _ => .done := rfl
  cases outcome : (action.run link).1 with
  | ok value =>
    rw [answered, outcome]
    exact accepted _ (Prod.ext outcome rfl)
  | error error =>
    rw [answered, outcome]
    have same : (ClientAnswer.ofUnit action link).2.client = link.client :=
      congrArg Link.Standing.client (atomic error outcome)
    rw [same]
    exact recounts

/-- A call that neither says what is read, nor moves a position, nor polls, changes no mark. -/
theorem keeps_marks {call : ClientCall} (steady : call.IsSteady) :
    Keeps (fun link => link.client.assignment.map Assigned.endReported) call.perform := by
  have scripts : IgnoresScripts fun link => link.client.assignment.map Assigned.endReported :=
    fun _ _ => rfl
  have swept {visit : TopicPartition → List Assigned → TopicPartition × List Assigned}
      (same : ∀ tp entries, (visit tp entries).2.map Assigned.endReported =
        entries.map Assigned.endReported) (partitions : List TopicPartition) :
      Keeps (fun link => link.client.assignment.map Assigned.endReported)
        (sweepAssignment visit partitions) :=
    keeps_sweepAssignment visit partitions fun _ => sweep_map same partitions _
  cases call with
  | pause partitions =>
    exact keeps_ofWriteBack _ (.bind (swept (setPaused_map fun _ => rfl) partitions)
      fun _ => .pure _)
  | resume partitions =>
    exact keeps_ofWriteBack _ (.bind (swept (setPaused_map fun _ => rfl) partitions)
      fun _ => .pure _)
  | storeOffsets partitions =>
    exact keeps_ofWriteBack _ (keeps_storeOffsets scripts partitions fun _ =>
      sweep_map (storeOffset_map fun _ _ _ => rfl) partitions _)
  | _ => exact keeps_of_sparesClient scripts (fun _ _ => rfl) steady

/-- Every call goes on with the pasts of the entries. -/
theorem recounts_perform (recounts : link.client.Recounts before) (call : ClientCall) :
    (call.perform link).2.client.Recounts (call.pasts link before) := by
  have whenSteady (steady : call.IsSteady) : (call.perform link).2.client.Recounts before :=
    recounts.congr (keeps_marks steady link)
  cases call with
  | close => exact .nil rfl
  | unsubscribe => exact .nil rfl
  | subscribe topics =>
    refine recounts_ofUnit recounts (atomic_subscribe topics) fun after result => ?_
    obtain ⟨_, refused⟩ | ⟨_, subscribed⟩ := subscribe_cases topics link
    · cases refused.symm.trans result
    · cases subscribed.symm.trans result
      exact .nil rfl
  | unassign =>
    refine recounts_ofUnit recounts atomic_unassign fun after result => ?_
    obtain ⟨_, refused⟩ | dropped := unassign_cases link
    · cases refused.symm.trans result
    · cases dropped.symm.trans result
      exact .nil rfl
  | assign partitions =>
    refine recounts_ofUnit recounts (atomic_assign partitions) fun after result => ?_
    obtain ⟨_, _, refused⟩ | ⟨_, placed⟩ := assign_cases partitions link
    · cases refused.symm.trans result
    · cases placed.symm.trans result
      have fresh : (replaced link partitions).Recounts _ :=
        .fresh (assignedOfList_unmarked link partitions) rfl
      rwa [assignedOfList, List.length_map] at fresh
  | incrementalAssign partitions =>
    refine recounts_ofUnit recounts (atomic_incrementalAssign partitions) fun after result => ?_
    obtain ⟨_, refused⟩ | ⟨_, _, placed⟩ := incrementalAssign_cases partitions link
    · cases refused.symm.trans result
    · cases placed.symm.trans result
      have longer : (extended link partitions).Recounts _ :=
        recounts.added (assignedOfList_unmarked link partitions) rfl
      rwa [assignedOfList, List.length_map] at longer
  | incrementalUnassign partitions =>
    refine recounts_ofUnit recounts (atomic_incrementalUnassign partitions) fun after result => ?_
    obtain ⟨_, refused⟩ | dropped := incrementalUnassign_cases partitions link
    · cases refused.symm.trans result
    · cases dropped.symm.trans result
      exact recounts.filter (fun entry => !partitions.any fun tp => entry.key = tp.key) rfl
  | seek tp timeout =>
    refine recounts_ofUnit recounts (atomic_seek tp) fun after result => ?_
    obtain ⟨_, refused⟩ | ⟨position, entries, found, moved⟩ := seek_cases tp link
    · cases refused.symm.trans result
    · cases moved.symm.trans result
      have unmarked : entries.map Assigned.endReported =
          (link.client.assignment.map Assigned.endReported).set
            (link.client.assignment.findIdx fun entry => entry.key = tp.key) false :=
        @updateFirst?_set Bool Assigned.endReported _ _ false (fun _ => rfl) _ _ found
      exact recounts.happened (fun _ _ _ => rfl) unmarked
  | poll timeout => exact recounts_poll recounts timeout
  | _ => exact whenSteady trivial

end ClientCall

end LogConsumer
