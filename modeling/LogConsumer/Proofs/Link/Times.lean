import LogConsumer.Proofs.Client.Lookups
import LogConsumer.Proofs.Link.Ends
import LogConsumer.Proofs.Link.Pausing

/-!
# Reading from a time on

A client looks up where the records of a time begin, and moves its position there. What it polls of
the partition next is then the record that was found, however the times stand in the log and
whatever was dropped from its front, as long as the log stays as it is and nothing else moves the
position; and a partition that is not paused is polled within as many polls as there are entries.
The main result is `reads_from_time`.
-/
namespace LogConsumer

open Assigned

namespace Client

/-- Seeking a partition that is assigned to an absolute offset moves its first entry there, unless
the call is scripted to fail. -/
theorem seek_absolute {link : Link} {tp : TopicPartition} {offset : Int}
    (unscripted : (link.cluster.takeFault .seek).1 = none) (place : tp.offset = .absolute offset)
    (assigned : tp.key ∈ link.client.assignment.map Assigned.key) :
    ∃ entries,
      updateFirst? tp.key (fun entry => { entry with position := offset, endReported := false })
        link.client.assignment = some entries ∧
      (seek tp).run link = (.ok (), { scripted .seek link with
        client := { link.client with assignment := entries } }) := by
  obtain ⟨entries, moved⟩ := exists_updateFirst?
    (fun entry => { entry with position := offset, endReported := false }) assigned
  refine ⟨entries, moved, ?_⟩
  have resolved : resolve link.client.settings (scripted .seek link).cluster tp.key tp.offset =
      offset := by
    rw [place]
    rfl
  have same : (scripted .seek link).client = link.client := rfl
  unfold seek
  rw [scripted_run unscripted, run_get, same]
  dsimp only
  rw [resolved, moved]
  rfl

end Client

namespace Link

variable {key : PartitionKey} {link : Link} {log : PartitionLog}

/-- The step comes before the next record that is polled of a partition, and leaves its place and
its log alone. -/
structure Step.LeavesDue (key : PartitionKey) (link : Link) (step : Step) : Prop where
  /-- A call spares the place of the partition. -/
  place : ∀ call, step = .call call → call.SparesPlace key link
  /-- A poll answers with no record of the partition. -/
  silent : ∀ timeout, step = .call (.poll timeout) →
    ¬(Client.poll timeout link).1.message.IsRecordOf key
  /-- The log stays as it is. -/
  log : (step.next link).cluster.log? key = link.cluster.log? key

/-- A step that leaves a log with records as it is creates no topic over it. -/
theorem Step.sparesLog_of_kept {step : Step} (found : link.cluster.log? key = some log)
    (records : log.records ≠ [])
    (kept : (step.next link).cluster.log? key = link.cluster.log? key) :
    step.SparesLog key link := by
  cases step with
  | call request => trivial
  | elsewhere others => trivial
  | cluster step clock =>
    cases step with
    | createTopic topic partitions =>
      intro renewed
      have made : (Step.next link (.cluster (.createTopic topic partitions) clock)).cluster.log?
          key = _ := Cluster.log?_createTopic link.cluster topic partitions key
      rw [kept, found, if_pos renewed] at made
      rw [Cluster.partitionLog?_replicate made.symm] at records
      exact absurd rfl records
    | _ => trivial

/-- Steps that leave the place and the log of a partition alone keep a record of it due. -/
theorem keepsDue_of_leavesDue {waiting : List Step} (start : Int)
    (found : link.cluster.log? key = some log) (records : log.records ≠ [])
    (leaves : Throughout (Step.LeavesDue key) link waiting) :
    Throughout (Step.KeepsDue key start) link waiting ∧
      (run link waiting).cluster.log? key = some log := by
  induction waiting generalizing link with
  | nil => exact ⟨trivial, found⟩
  | cons step waiting ih =>
    obtain ⟨here, later⟩ := leaves
    have spares := Step.sparesLog_of_kept found records here.log
    obtain ⟨kept, still⟩ := ih (here.log.trans found) later
    exact ⟨⟨⟨here.place, fun timeout made _ => here.silent timeout made, .inl spares⟩, kept⟩, still⟩

/-- A partition that has a log is concrete. -/
theorem concrete_of_log? {cluster : Cluster} (found : cluster.log? key = some log) : 0 ≤ key.2 := by
  rw [Cluster.log?_eq, Option.bind_eq_some_iff] at found
  obtain ⟨partitions, _, here⟩ := found
  unfold Cluster.partitionLog? at here
  split at here
  · assumption
  · contradiction

/-- Where a partition stands at a retained record, the next record that is polled of it is that one,
as long as its place and its log are left alone. -/
theorem next_polled {offset : Int} {record : Record}
    (stands : (ofPartition key link.client.assignment).map position = [offset])
    (found : link.cluster.log? key = some log) (retained : log.record? offset = some record)
    {waiting : List Step} (leaves : Throughout (Step.LeavesDue key) link waiting) (timeout : Nat)
    (polled : (Client.poll timeout (run link waiting)).1.message.IsRecordOf key) :
    let message := (Client.poll timeout (run link waiting)).1.message
    message.offset = offset ∧ message.Carries record := by
  have bounds := PartitionLog.bounds_of_record? retained
  have records : log.records ≠ [] := by
    rintro nothing
    simp only [PartitionLog.high, nothing, List.length_nil] at bounds
    omega
  obtain ⟨kept, still⟩ := keepsDue_of_leavesDue offset found records leaves
  have tracks : Tracks key offset (run link waiting) := (Tracks.of_start stands).keepsDue_run kept
  obtain ⟨silent, _⟩ | ⟨_, _, due, ⟨log', record', found', retained', carries⟩, _⟩ :=
    tracks.polled timeout
  · exact absurd polled (silent (Client.unscripted_of_record (concrete_of_log? found) polled))
  · cases still.symm.trans found'
    have low : (run link waiting).cluster.low key = log.low := by rw [Cluster.low, still]; rfl
    have place : (Client.poll timeout (run link waiting)).1.message.offset = offset := by
      rw [due, low]
      omega
    rw [place, retained] at retained'
    cases retained'
    exact ⟨place, carries⟩

/-- What polls tell of an entry, one of them answers. -/
theorem TellsEnd.exists_poll {place : Nat} {message : Message} {timeouts : List Nat}
    (tells : TellsEnd place message link timeouts) :
    ∃ before timeout after, timeouts = before ++ timeout :: after ∧
      (Client.poll timeout (run link (before.map fun timeout => .call (.poll timeout)))).1.message =
        message := by
  induction timeouts generalizing link with
  | nil => exact tells.elim
  | cons timeout timeouts ih =>
    obtain ⟨_, answered⟩ | ⟨_, later⟩ := tells
    · exact ⟨[], timeout, timeouts, rfl, answered⟩
    · obtain ⟨before, other, after, rfl, answered⟩ := ih later
      exact ⟨timeout :: before, other, after, rfl, answered⟩

/-- Where the only entry of a partition is not paused and stands at a retained record, a record of
the partition is polled by one of as many polls as there are entries. -/
theorem exists_poll_of_stands {entry : Assigned} {record : Record}
    (sole : ofPartition key link.client.assignment = [entry]) (unpaused : entry.paused = false)
    (found : link.cluster.log? key = some log) (retained : log.record? entry.position = some record)
    (opened : link.client.closed = false) (lets : link.cluster.LetsThrough .poll)
    {timeouts : List Nat} (enough : link.client.assignment.length ≤ timeouts.length) :
    ∃ before timeout after, timeouts = before ++ timeout :: after ∧
      (Client.poll timeout
        (run link (before.map fun timeout => .call (.poll timeout)))).1.message.IsRecordOf key := by
  obtain ⟨inside, own⟩ := mem_of_sole sole
  obtain ⟨place, here⟩ := List.mem_iff_getElem?.mp inside
  obtain ⟨within, _⟩ := List.getElem?_eq_some_iff.mp here
  have bounds := PartitionLog.bounds_of_record? retained
  have stays : link.cluster.floor key entry.position = entry.position := by
    simp only [Cluster.floor, found]
    omega
  obtain ⟨message, readable⟩ : ∃ message, link.cluster.read? key entry.position = some message := by
    rw [← Option.isSome_iff_exists, Cluster.isSome_read? found, retained]
    rfl
  have due : entry.due link.cluster = message := by
    rw [due, own, stays, readable]
    rfl
  have ready : entry.IsReady link.cluster link.client.settings.reportsEnd := by
    refine ⟨unpaused, .inl ?_⟩
    rw [own, stays, readable]
    rfl
  have told := tellsEnd_of_ready opened lets here ready
    (Nat.lt_of_lt_of_le (Client.ahead_lt within) enough)
  rw [due] at told
  obtain ⟨before, timeout, after, split, answered⟩ := told.exists_poll
  exact ⟨before, timeout, after, split, answered ▸ (Cluster.read?_eq_some readable).1⟩

/-- A client that is assigned a partition once and seeks an absolute offset of it stands there, with
nothing else changed, unless the call is scripted to fail. -/
theorem sought_absolute {tp : TopicPartition} {entry : Assigned} {offset : Int}
    (unscripted : (link.cluster.takeFault .seek).1 = none) (place : tp.offset = .absolute offset)
    (sole : ofPartition tp.key link.client.assignment = [entry]) (timeout : Nat) :
    let called := (ClientCall.seek tp timeout).perform link
    called.1.outcome = .ok .done ∧
    ofPartition tp.key called.2.client.assignment =
      [{ entry with position := offset, endReported := false }] ∧
    called.2.client.assignment.length = link.client.assignment.length ∧
    called.2.client.closed = link.client.closed ∧
    called.2.cluster = (Client.scripted .seek link).cluster := by
  intro called
  obtain ⟨entries, moved, ran⟩ :=
    Client.seek_absolute unscripted place (assigned_of_sole sole)
  have performed : called = ({ outcome := ((Client.seek tp).run link).1.map fun _ => .done },
      ((Client.seek tp).run link).2) := rfl
  rw [ran] at performed
  have size : entries.length = link.client.assignment.length := by
    have keys : entries.map Assigned.key = link.client.assignment.map Assigned.key :=
      updateFirst?_map (fun _ => by rfl) moved
    simpa using congrArg List.length keys
  rw [performed]
  exact ⟨rfl, ofPartition_updateFirst?_own (fun _ => by rfl) sole moved, size, rfl, rfl⟩

/-- Looking times up and reading on from there, in a client for which the look-up is not scripted to
fail. It succeeds whatever is asked, answers every entry by itself and changes nothing but that it
uses up its scripted outcome. For a time in a log the answer is the least offset of a retained
record that was written then or later, or the end exactly where there is none, and no error; and a
later time is answered no sooner. At any time at which the log is the same, a client that is
assigned the partition once can seek the offset that was answered. The next record of the partition
that it polls is then the one at that offset, as it was produced, as long as nothing else happens to
its place and to its log; and if the partition is not paused and polls of the open handle are let
through, one of as many polls as there are entries answers with a record of it. -/
theorem reads_from_time (unscripted : (link.cluster.takeFault .offsetsForTimes).1 = none) :
    let answer := Client.offsetForTime link.cluster
    (∀ asked timeout,
      let looked := (ClientCall.offsetsForTimes asked timeout).perform link
      looked.1.outcome = .ok .done ∧ looked.1.written = some (asked.map answer) ∧
      looked.2 = Client.scripted .offsetsForTimes link ∧
      (link.cluster.script .offsetsForTimes = [] → looked.2 = link)) ∧
    ∀ tp timestamp log, tp.offset = .absolute timestamp → link.cluster.log? tp.key = some log →
      answer tp = { tp with offset := (answer tp).offset, error := .noError } ∧
      (∀ offset, (answer tp).offset = .absolute offset ↔
        log.HasSince timestamp offset ∧
          ∀ other, log.HasSince timestamp other → offset ≤ other) ∧
      ((answer tp).offset = .ending ↔ ∀ offset, ¬log.HasSince timestamp offset) ∧
      ((answer tp).offset = .ending ∨ ∃ offset, (answer tp).offset = .absolute offset) ∧
      (∀ later time offset, later.key = tp.key → later.offset = .absolute time →
        timestamp ≤ time → (answer later).offset = .absolute offset →
        ∃ first, (answer tp).offset = .absolute first ∧ first ≤ offset) ∧
      ∀ now : Link, ∀ entry offset seekTimeout, now.cluster.log? tp.key = some log →
        ofPartition tp.key now.client.assignment = [entry] →
        (now.cluster.takeFault .seek).1 = none → (answer tp).offset = .absolute offset →
        let seek : ClientCall := .seek (answer tp) seekTimeout
        let sought := Step.next now (.call seek)
        (seek.perform now).1.outcome = .ok .done ∧
        (∀ waiting timeout message, Throughout (Step.LeavesDue tp.key) sought waiting →
          (Client.poll timeout (run sought waiting)).1.message = message →
          message.IsRecordOf tp.key → message.offset = offset ∧
            ∃ record, log.record? offset = some record ∧ timestamp ≤ record.timestamp ∧
              message.Carries record) ∧
        (entry.paused = false → now.client.closed = false → now.cluster.LetsThrough .poll →
          ∀ timeouts : List Nat, now.client.assignment.length ≤ timeouts.length →
            ∃ before timeout after, timeouts = before ++ timeout :: after ∧
              (Client.poll timeout (run sought
                (before.map fun timeout => .call (.poll timeout)))).1.message.IsRecordOf
                  tp.key) := by
  intro answer
  refine ⟨fun asked timeout => ?_, fun tp timestamp log asked found => ?_⟩
  · have performed := ClientCall.offsetsForTimes_perform asked timeout link
    rw [Client.offsetsForTimes_run, unscripted] at performed
    rw [performed]
    exact ⟨rfl, rfl, rfl, Client.scripted_of_unscripted⟩
  have eq := Client.offsetForTime_eq asked found
  have least := Client.offsetForTime_absolute_iff asked found
  refine ⟨?_, least, Client.offsetForTime_ending_iff asked found, ?_, ?_, ?_⟩
  · exact eq.trans (by rw [show answer tp = _ from eq])
  · rw [show answer tp = _ from eq]
    cases log.offsetForTime? timestamp with
    | none => exact .inl rfl
    | some first => exact .inr ⟨first, rfl⟩
  · intro later time offset same asked' ordered answered
    exact Client.offsetForTime_mono asked asked' found (same ▸ found) ordered answered
  · intro now entry offset seekTimeout here sole unscripted' answered seek sought
    have own : (answer tp).key = tp.key := by rw [show answer tp = _ from eq]; rfl
    obtain ⟨⟨record, retained, written⟩, _⟩ := (least offset).mp answered
    obtain ⟨done, moved, size, shut, cluster⟩ :=
      sought_absolute unscripted' answered (own ▸ sole) seekTimeout
    rw [own] at moved
    have cluster' : sought.cluster = (Client.scripted .seek now).cluster := cluster
    have still : sought.cluster.log? tp.key = some log := by
      rw [cluster', Client.scripted, Cluster.takeFault_rest]
      exact here
    refine ⟨done, ?_, ?_⟩
    · rintro waiting timeout message leaves rfl polled
      have stands : (ofPartition tp.key sought.client.assignment).map position = [offset] :=
        congrArg (List.map position) moved
      obtain ⟨place, carries⟩ := next_polled stands still retained leaves timeout polled
      exact ⟨place, record, retained, written, carries⟩
    · intro unpaused opened lets timeouts enough
      have lets' : sought.cluster.LetsThrough .poll := by
        rw [cluster']
        exact lets.takeFault .seek
      exact exists_poll_of_stands moved unpaused still retained (shut.trans opened) lets'
        (Nat.le_trans (Nat.le_of_eq size) enough)

/-- The times of a partition are not in order, and its first record was dropped. The records since
15 begin at 2, where the client seeks. The poll that comes first answers for another partition, and
the one after it with the record at 2. -/
theorem reads_from_time_unordered :
    let tp (partition : Int) (offset : Offset) : TopicPartition :=
      { topic := "orders", partition, offset }
    let produce (partition : Int) (payload : UInt8) (timestamp : Int) : Step :=
      .cluster (.produce ("orders", partition) none [payload] (some timestamp)) 7
    let poll : Step := .call (.poll 10)
    let origin : Link := ⟨{ name := "reader", serial := 1, settings := .ofConfig {} }, {}⟩
    let link := run origin [.cluster (.createTopic "orders" 2) 7, produce 0 1 30, produce 0 2 10,
      produce 0 3 20, produce 0 4 12, .cluster (.deleteRecords ("orders", 0) 1) 7, produce 1 5 40,
      .call (.assign [tp 0 .beginning, tp 1 .beginning]), poll]
    let answer := Client.offsetForTime link.cluster (tp 0 (.absolute 15))
    let entry : Assigned := { topic := "orders", partition := 0, position := 2, stored := some 2 }
    let sought := Step.next link (.call (.seek answer 10))
    let message := (Client.poll 10 (run sought [poll])).1.message
    (link.cluster.takeFault .offsetsForTimes).1 = none ∧ answer = tp 0 (.absolute 2) ∧
    ofPartition ("orders", 0) link.client.assignment = [entry] ∧
    (link.cluster.takeFault .seek).1 = none ∧
    Throughout (Step.LeavesDue ("orders", 0)) sought [poll] ∧
    message.IsRecordOf ("orders", 0) ∧ message.offset = 2 ∧
    ∃ before timeout after, [10, 20] = before ++ timeout :: after ∧
      (Client.poll timeout (run sought
        (before.map fun timeout => .call (.poll timeout)))).1.message.IsRecordOf ("orders", 0) := by
  intro tp produce poll origin link answer entry sought message
  have unscripted : (link.cluster.takeFault .offsetsForTimes).1 = none := by decide +kernel
  have answered : answer = tp 0 (.absolute 2) := by decide +kernel
  have sole : ofPartition ("orders", 0) link.client.assignment = [entry] := by decide +kernel
  have unscripted' : (link.cluster.takeFault .seek).1 = none := by decide +kernel
  have found : ∃ log, link.cluster.log? ("orders", 0) = some log := by
    rw [← Option.isSome_iff_exists]
    decide +kernel
  have leaves : Throughout (Step.LeavesDue ("orders", 0)) sought [poll] := by
    refine ⟨⟨?_, ?_, by decide +kernel⟩, trivial⟩
    · intro call made
      obtain rfl := Step.call.inj made
      exact .inl trivial
    · intro timeout made
      obtain rfl := ClientCall.poll.inj (Step.call.inj made)
      decide +kernel
  have polled : message.IsRecordOf ("orders", 0) := by decide +kernel
  have lets : link.cluster.LetsThrough .poll := .of_silent (by decide +kernel)
  obtain ⟨log, found⟩ := found
  obtain ⟨_, _, _, _, _, reads⟩ :=
    (@reads_from_time link unscripted).2 (tp 0 (.absolute 15)) 15 log rfl found
  obtain ⟨_, next, prompt⟩ :=
    reads link entry 2 10 found sole unscripted' (congrArg TopicPartition.offset answered)
  have same : Step.next link (.call (.seek (Client.offsetForTime link.cluster
      (tp 0 (.absolute 15))) 10)) = sought := rfl
  rw [same] at next prompt
  have two : link.client.assignment.length ≤ [10, 20].length := by decide +kernel
  exact ⟨unscripted, answered, sole, unscripted', leaves, polled,
    (next [poll] 10 message leaves rfl polled).1, prompt rfl (by decide +kernel) lets [10, 20] two⟩

/-- A client is assigned a partition twice, and reads the first record of it through the first of
the two entries. The records since 300 begin at 2, where it seeks; but this moves the first entry
only, and the next poll answers with the first record again, through the second. -/
theorem reads_elsewhere_when_assigned_twice :
    let key : PartitionKey := ("t", 0)
    let tp (offset : Int) : TopicPartition :=
      { topic := "t", partition := 0, offset := .absolute offset }
    let produce (payload : UInt8) (timestamp : Int) : Step :=
      .cluster (.produce key none [payload] (some timestamp)) 7
    ∃ client cluster, Client.create { groupId := some "g" } "" (({} : Cluster).createTopic "t" 1) =
        (.ok client, cluster) ∧
      let link := run ⟨client, cluster⟩ [produce 97 100, produce 98 200, produce 99 300,
        .call (.assign [tp 0, tp 0]), .call (.poll 1)]
      let sought := Step.next link (.call (.seek (tp 2) 1))
      let message := (Client.poll 1 sought).1.message
      Client.offsetForTime link.cluster (tp 300) = tp 2 ∧
      ((ClientCall.seek (tp 2) 1).perform link).1.outcome.isOk = true ∧
      (∀ entry ∈ link.client.assignment, entry.key = key ∧ entry.paused = false) ∧
      sought.cluster.log? key = link.cluster.log? key ∧
      message.IsRecordOf key ∧ message.offset = 0 := by
  intro key tp produce
  refine ⟨_, _, rfl, ?_⟩
  intro link sought message
  decide +kernel

end Link

end LogConsumer
