import LogConsumer.Proofs.Client.Pausing
import LogConsumer.Proofs.Link.Delivery
import LogConsumer.Proofs.Link.Ownership

/-!
# Pausing a partition

A client that owns a partition once pauses it. From then on its entry stays exactly as it was at the
pause, whatever happens to the logs and to other partitions, and no poll answers with anything of
it, until the partition is resumed or taken away, its position is moved, or an offset is stored for
it. When it is resumed, reading goes on at the offset of the pause, or at the oldest retained record
if that is higher. The main result is `paused_until_resumed`.
-/
namespace LogConsumer.Link

open Assigned

variable {key : PartitionKey}

/-- The step leaves a paused partition paused and as it is; the cluster may do anything. -/
def Step.SparesPause (key : PartitionKey) (link : Link) : Step → Prop
  | .call request => request.SparesPause key link
  | _ => True

/-- The step leaves the only entry of a partition as it is while it is paused. -/
theorem paused_next {link : Link} {step : Step} {entry : Assigned}
    (spares : step.SparesPause key link)
    (sole : ofPartition key link.client.assignment = [entry]) (paused : entry.paused = true) :
    ofPartition key (step.next link).client.assignment = [entry] := by
  cases step with
  | cluster step clock => exact sole
  | elsewhere others => exact sole
  | call call =>
    obtain ⟨timeout, rfl⟩ | silent := call.polls_or_silent
    · exact (Client.poll_paused sole paused timeout).1
    · exact ClientCall.paused_perform spares silent sole paused

/-- A run leaves the only entry of a partition as it is while it is paused. -/
theorem paused_run {link : Link} {steps : List Step} {entry : Assigned}
    (spared : Throughout (Step.SparesPause key) link steps)
    (sole : ofPartition key link.client.assignment = [entry]) (paused : entry.paused = true) :
    ofPartition key (run link steps).client.assignment = [entry] := by
  induction steps generalizing link with
  | nil => exact sole
  | cons step steps ih => exact ih spared.2 (paused_next spared.1 sole paused)

/-- The step comes before the first record that is polled of a partition, and leaves its place
alone. It creates no topic over the log of the partition, unless the partition still stands where it
did. -/
structure Step.KeepsDue (key : PartitionKey) (start : Int) (link : Link) (step : Step) : Prop where
  /-- A call spares the place of the partition. -/
  place : ∀ call, step = .call call → call.SparesPlace key link
  /-- An unscripted poll answers with no record of the partition. -/
  silent : ∀ timeout, step = .call (.poll timeout) → (link.cluster.takeFault .poll).1 = none →
    ¬(Client.poll timeout link).1.message.IsRecordOf key
  /-- The log is not created anew once the position was raised. -/
  log : step.SparesLog key link ∨
    (ofPartition key link.client.assignment).map position = [start]

/-- A partition that stands at an offset is tracked from there. -/
theorem Tracks.of_start {link : Link} {start : Int}
    (stands : (ofPartition key link.client.assignment).map position = [start]) :
    Tracks key start link := by
  obtain ⟨entry, sole, position⟩ := List.map_eq_singleton_iff.mp stands
  refine ⟨entry, sole, Int.le_of_eq position.symm, ?_⟩
  rw [position]
  exact Cluster.le_floor _ _ _

/-- Until a record of a partition is polled, it stays due where it was. -/
theorem Tracks.keepsDue {link : Link} {step : Step} {start : Int} (tracks : Tracks key start link)
    (kept : step.KeepsDue key start link) : Tracks key start (step.next link) := by
  -- What moves nothing keeps what is due, be it that the position was not raised so far.
  have unmoved (same : (ofPartition key (step.next link).client.assignment).map position =
      (ofPartition key link.client.assignment).map position) :
      Tracks key start (step.next link) := by
    obtain spares | stands := kept.log
    · exact tracks.of_positions spares same
    · exact .of_start (same.trans stands)
  cases step with
  | cluster step clock => exact unmoved rfl
  | elsewhere others => exact unmoved rfl
  | call call =>
    obtain ⟨timeout, rfl⟩ | silent := call.polls_or_silent
    · obtain ⟨_, tracks⟩ | ⟨unscripted, isRecord, _⟩ := tracks.polled timeout
      · exact tracks
      · exact absurd isRecord (kept.silent timeout rfl unscripted)
    · obtain ⟨entry, sole, _⟩ := tracks
      apply unmoved
      obtain same | reading := (kept.place call rfl).cases
      · exact congrArg (fun client => (ofPartition key client.assignment).map position) same
      · exact ClientCall.positions_kept reading silent (assigned_of_sole sole)

/-- Over a run up to the first record that is polled of a partition, it stays due where it was. -/
theorem Tracks.keepsDue_run {link : Link} {steps : List Step} {start : Int}
    (tracks : Tracks key start link) (kept : Throughout (Step.KeepsDue key start) link steps) :
    Tracks key start (Link.run link steps) := by
  induction steps generalizing link with
  | nil => exact tracks
  | cons step steps ih => exact ih (tracks.keepsDue kept.1) kept.2

/-- A partition that pausing reports no error for has one entry, if the client owns nothing twice,
and that entry is paused and nothing else of it changes. -/
theorem sole_pause {link : Link} (once : link.client.OwnsOnce)
    {partitions written : List TopicPartition} {tp : TopicPartition}
    (told : ((ClientCall.pause partitions).perform link).1.written = some written)
    (among : tp ∈ written) (fine : tp.error = .noError) :
    ∃ entry, ofPartition tp.key link.client.assignment = [entry] ∧
      ofPartition tp.key (Step.next link (.call (.pause partitions))).client.assignment =
        [{ entry with paused := true }] := by
  cases told
  obtain ⟨named, assigned⟩ := Client.of_mem_sweep_setPaused among fine
  obtain ⟨entry, inside, own⟩ := List.mem_map.mp assigned
  have sole : ofPartition tp.key link.client.assignment = [entry] := by
    rw [← own]
    exact ofPartition_of_mem once inside
  have swept := Client.sweep_setPaused_sole true partitions sole
  rw [if_pos named] at swept
  exact ⟨entry, sole, swept⟩

/-- Resuming a partition by name resumes its only entry and changes nothing else of it. -/
theorem sole_resume {link : Link} {entry : Assigned} {partitions : List TopicPartition}
    (named : key ∈ partitions.map TopicPartition.key)
    (sole : ofPartition key link.client.assignment = [entry]) :
    ofPartition key (Step.next link (.call (.resume partitions))).client.assignment =
      [{ entry with paused := false }] := by
  have swept := Client.sweep_setPaused_sole false partitions sole
  rw [if_pos named] at swept
  exact swept

/-- A partition that a client owns once and pauses stays as it is at the pause, as long as it is not
resumed, no offset is stored for it, its position is not moved and what the client reads does not
change for it; and until then no poll answers with a record or the end of it, unless the answer is
scripted. Once it is resumed, the first record polled of it is that at the position of the pause, or
at the low watermark if that is higher, provided its log is not created anew once a poll has raised
the position. -/
theorem paused_until_resumed {link : Link} (once : link.client.OwnsOnce)
    {partitions written : List TopicPartition} {tp : TopicPartition}
    (told : ((ClientCall.pause partitions).perform link).1.written = some written)
    (among : tp ∈ written) (fine : tp.error = .noError) {during : List Step}
    (spared : Throughout (Step.SparesPause tp.key) (Step.next link (.call (.pause partitions)))
      during) :
    ∃ entry, ofPartition tp.key link.client.assignment = [entry] ∧
      let later := run link (.call (.pause partitions) :: during)
      ofPartition tp.key later.client.assignment = [{ entry with paused := true }] ∧
      (∀ timeout, (later.cluster.takeFault .poll).1 = none →
        ¬(Client.poll timeout later).1.message.IsOf tp.key) ∧
      ∀ resumed : List TopicPartition, tp.key ∈ resumed.map TopicPartition.key →
        ∀ waiting : List Step,
          Throughout (Step.KeepsDue tp.key entry.position)
            (Step.next later (.call (.resume resumed))) waiting →
          let last := run later (.call (.resume resumed) :: waiting)
          ∀ timeout, (last.cluster.takeFault .poll).1 = none →
            (Client.poll timeout last).1.message.IsRecordOf tp.key →
            (Client.poll timeout last).1.message.offset =
              max entry.position (last.cluster.low tp.key) := by
  obtain ⟨entry, sole, paused⟩ := sole_pause once told among fine
  refine ⟨entry, sole, ?_⟩
  intro later
  have still : ofPartition tp.key later.client.assignment = [{ entry with paused := true }] := by
    have kept := paused_run spared paused rfl
    exact kept
  refine ⟨still, fun timeout => (Client.poll_paused still rfl timeout).2, ?_⟩
  intro resumed named waiting kept last timeout unscripted isRecord
  have stands : (ofPartition tp.key
      (Step.next later (.call (.resume resumed))).client.assignment).map position =
        [entry.position] := by
    rw [sole_resume named still]
    rfl
  have tracks : Tracks tp.key entry.position last := (Tracks.of_start stands).keepsDue_run kept
  obtain ⟨noRecord, _⟩ | ⟨_, _, offset, _⟩ := tracks.polled timeout
  · exact absurd isRecord (noRecord unscripted)
  · exact offset

/-- A partition is paused after its first record was read. Meanwhile the other two are dropped, and
another partition is polled and committed. When it is resumed, its end is told, and the first record
polled of it is the one that is produced then, at the low watermark. -/
theorem paused_until_resumed_truncated :
    let tp (partition : Int) : TopicPartition :=
      { topic := "orders", partition, offset := .beginning }
    let produce (partition : Int) (payload : UInt8) : Step :=
      .cluster (.produce ("orders", partition) none [payload] none) 7
    let poll : Step := .call (.poll 10)
    let settings : Client.Settings := ⟨some "g", false, true, false⟩
    let origin : Link :=
      ⟨{ name := "reader", serial := 1, settings }, ({} : Cluster).createTopic "orders" 2⟩
    let link := run origin [produce 0 1, produce 0 2, produce 0 3, produce 1 4,
      .call (.assign [tp 0, tp 1]), poll]
    let drop : Step := .cluster (.deleteRecords ("orders", 0) 3) 7
    let during := [poll, drop, .call (.commit none .sync), poll]
    let later := run link (.call (.pause [tp 0]) :: during)
    let waiting := [poll, produce 0 5]
    let last := run later (.call (.resume [tp 0]) :: waiting)
    link.client.OwnsOnce ∧
    ((ClientCall.pause [tp 0]).perform link).1.written = some [tp 0] ∧ (tp 0).error = .noError ∧
    Throughout (Step.SparesPause (tp 0).key) (Step.next link (.call (.pause [tp 0]))) during ∧
    (ofPartition (tp 0).key link.client.assignment).map position = [1] ∧
    Throughout (Step.KeepsDue (tp 0).key 1) (Step.next later (.call (.resume [tp 0]))) waiting ∧
    (Client.poll 10 last).1.message.offset = max 1 (last.cluster.low (tp 0).key) ∧
    last.cluster.low (tp 0).key = 3 := by
  intro tp produce poll settings origin link drop during later waiting last
  have once : link.client.OwnsOnce := by decide +kernel
  have told : ((ClientCall.pause [tp 0]).perform link).1.written = some [tp 0] := by decide +kernel
  have spared : Throughout (Step.SparesPause (tp 0).key) (Step.next link (.call (.pause [tp 0])))
      during :=
    ⟨⟨.inl trivial, trivial⟩, trivial, ⟨.inl trivial, trivial⟩, ⟨.inl trivial, trivial⟩, trivial⟩
  have stood : (ofPartition (tp 0).key link.client.assignment).map position = [1] := by
    decide +kernel
  have kept : Throughout (Step.KeepsDue (tp 0).key 1) (Step.next later (.call (.resume [tp 0])))
      waiting := by
    refine ⟨⟨?_, ?_, .inl trivial⟩, ⟨nofun, nofun, .inl trivial⟩, trivial⟩
    · intro call made
      obtain rfl := Step.call.inj made
      exact .inl trivial
    · intro timeout made _
      obtain rfl := ClientCall.poll.inj (Step.call.inj made)
      decide +kernel
  obtain ⟨entry, sole, _, _, resumes⟩ :=
    paused_until_resumed once told List.mem_cons_self rfl spared
  have position : entry.position = 1 := by
    rw [sole] at stood
    exact (List.cons.inj stood).1
  rw [position] at resumes
  have offset := resumes [tp 0] (by decide) waiting kept 10 (by decide +kernel)
    (by decide +kernel)
  have reached : run (run link (.call (.pause [tp 0]) :: during))
      (.call (.resume [tp 0]) :: waiting) = last := rfl
  rw [reached] at offset
  have dropped : last.cluster.low (tp 0).key = 3 := by decide +kernel
  exact ⟨once, told, rfl, spared, stood, kept, offset, dropped⟩

/-- A handle is assigned a partition at offset 0, and the three records of it are dropped unread.
The partition is paused and resumed, and a poll that finds nothing raises its position to the low
watermark. Then its topic is created anew, and four records are produced: the first that is polled
is the one at offset 3, although the position at the pause and the low watermark are 0. -/
theorem resumed_past_renewed :
    let key : PartitionKey := ("t", 0)
    let tp : TopicPartition := { topic := "t", partition := 0, offset := .absolute 0 }
    let produce (payload : UInt8) : Step := .cluster (.produce key none [payload] (some 1)) 7
    ∃ client cluster, Client.create { groupId := some "g" } "" (({} : Cluster).createTopic "t" 1) =
        (.ok client, cluster) ∧
      let link := run ⟨client, cluster⟩ [.call (.assign [tp]), produce 97, produce 98, produce 99,
        .cluster (.deleteRecords key 3) 7]
      let resumed := run link [.call (.pause [tp]), .call (.resume [tp])]
      let last := run resumed [.call (.poll 1), .cluster (.createTopic "t" 1) 7, produce 100,
        produce 101, produce 102, produce 103]
      link.client.OwnsOnce ∧
      ((ClientCall.pause [tp]).perform link).1.written = some [tp] ∧ tp.error = .noError ∧
      (ofPartition key link.client.assignment).map position = [0] ∧
      ¬(Client.poll 1 resumed).1.message.IsRecordOf key ∧
      (Client.poll 1 last).1.message.IsRecordOf key ∧
      (Client.poll 1 last).1.message.offset = 3 ∧
      max 0 (last.cluster.low key) = 0 := by
  intro key tp produce
  refine ⟨_, _, rfl, ?_⟩
  intro link resumed last
  decide +kernel

end LogConsumer.Link
