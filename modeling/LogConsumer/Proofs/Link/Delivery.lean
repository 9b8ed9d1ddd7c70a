import LogConsumer.Proofs.Client.Reading
import LogConsumer.Proofs.Link.Run

/-!
# Delivery of a partition

What a client delivers of one partition while it reads it. `InOrder` is the law: each record is
the one after the record before it, or the lowest one that is left when that is gone. The
invariant that carries it, `Tracks`, says that the partition has one entry, and that the entry
stands between the offset that is due and the place where reading goes on from there; every step
that leaves the reading of the partition alone keeps it. A second invariant, `Ledger`, says that
the log holds nothing but what was produced to it, so what is delivered is what was produced.
-/
namespace LogConsumer.Link

open Assigned

variable {key : PartitionKey}

/-- Deliveries go on from an offset: each is the record that is due, or the lowest one retained
when the one that is due is gone, and makes the one after it due. -/
inductive InOrder : Int → List Delivery → Prop where
  /-- Nothing is delivered. -/
  | nil {next : Int} : InOrder next []
  /-- What is due is delivered, and the rest goes on after it. -/
  | cons {next : Int} {delivery : Delivery} {rest : List Delivery}
    (due : delivery.message.offset = max next delivery.low)
    (later : InOrder (delivery.message.offset + 1) rest) : InOrder next (delivery :: rest)

/-- The offset that is due after deliveries. -/
def following : Int → List Delivery → Int
  | next, [] => next
  | _, delivery :: rest => following (delivery.message.offset + 1) rest

/-- Deliveries in two parts are in order if the second part goes on where the first ends. -/
theorem inOrder_append {next : Int} {first second : List Delivery} :
    InOrder next (first ++ second) ↔
      InOrder next first ∧ InOrder (following next first) second := by
  induction first generalizing next with
  | nil => exact ⟨fun ordered => ⟨.nil, ordered⟩, fun ordered => ordered.2⟩
  | cons delivery first ih =>
    constructor
    · rintro (_ | ⟨due, later⟩)
      obtain ⟨within, after⟩ := ih.mp later
      exact ⟨.cons due within, after⟩
    · rintro ⟨_ | ⟨due, within⟩, after⟩
      exact .cons due (ih.mpr ⟨within, after⟩)

namespace InOrder

/-- Nothing below the offset that is due is delivered. -/
theorem le_offset {next : Int} {delivered : List Delivery} (ordered : InOrder next delivered) :
    ∀ delivery ∈ delivered, next ≤ delivery.message.offset := by
  induction ordered with
  | nil => simp
  | cons due _ ih =>
    intro delivery inside
    rcases List.mem_cons.mp inside with rfl | inside
    · omega
    · have above := ih delivery inside
      omega

/-- No record is delivered twice: the offsets increase. -/
theorem increasing {next : Int} {delivered : List Delivery} (ordered : InOrder next delivered) :
    delivered.Pairwise fun earlier later => earlier.message.offset < later.message.offset := by
  induction ordered with
  | nil => exact .nil
  | cons _ later ih =>
    refine .cons (fun delivery inside => ?_) ih
    have above := le_offset later delivery inside
    omega

/-- No retained record is skipped: an offset below that of a delivery was delivered before it, or
its record was gone at one of the polls up to then. -/
theorem complete {next : Int} {before after : List Delivery} {delivery : Delivery}
    (ordered : InOrder next (before ++ delivery :: after)) (offset : Int) (due : next ≤ offset)
    (below : offset < delivery.message.offset) :
    (∃ earlier ∈ before, earlier.message.offset = offset) ∨
      ∃ poll ∈ before ++ [delivery], offset < poll.low := by
  induction before generalizing next with
  | nil =>
    obtain _ | ⟨first, _⟩ := ordered
    exact .inr ⟨delivery, by simp, by omega⟩
  | cons head before ih =>
    obtain _ | ⟨first, later⟩ := ordered
    by_cases gone : offset < head.low
    · exact .inr ⟨head, by simp, gone⟩
    · by_cases here : head.message.offset = offset
      · exact .inl ⟨head, by simp, here⟩
      · rcases ih later (by omega) with ⟨earlier, inside, same⟩ | ⟨poll, inside, gone⟩
        · exact .inl ⟨earlier, List.mem_cons_of_mem _ inside, same⟩
        · exact .inr ⟨poll, List.mem_cons_of_mem _ inside, gone⟩

end InOrder

/-- The step leaves the reading of a partition and its log alone. -/
def Step.SparesReading (key : PartitionKey) (link : Link) : Step → Prop
  | .call request => request.SparesReading key
  | step => step.SparesLog key link

/-- A step that leaves the reading of a partition alone leaves its log alone. -/
theorem Step.SparesReading.sparesLog {link : Link} {step : Step}
    (spares : step.SparesReading key link) : step.SparesLog key link := by
  cases step with
  | call request => trivial
  | cluster step clock => exact spares
  | elsewhere others => trivial

/-- The partition has one entry, which stands between the offset that is due and the place where
reading goes on from there. -/
def Tracks (key : PartitionKey) (next : Int) (link : Link) : Prop :=
  ∃ entry, ofPartition key link.client.assignment = [entry] ∧ next ≤ entry.position ∧
    entry.position ≤ link.cluster.floor key next

/-- Where reading goes on only rises while the log is spared. -/
theorem Step.floor_le_next {link : Link} {step : Step} (spares : step.SparesLog key link)
    (offset : Int) :
    link.cluster.floor key offset ≤ (step.next link).cluster.floor key offset := by
  cases Step.logChange spares with
  | kept same =>
    have kept : link.cluster.floor key offset = (step.next link).cluster.floor key offset := by
      rw [Cluster.floor, Cluster.floor, same]
    exact Int.le_of_eq kept
  | brought missing empty =>
    have raised : (step.next link).cluster.floor key offset = max offset 0 := by
      rw [Cluster.floor, empty]
      rfl
    rw [raised, Cluster.floor, missing]
    exact Int.le_max_left _ _
  | @produced log record found longer =>
    have bounds := PartitionLog.produce_bounds log record
    simp only [Cluster.floor, found, longer]
    omega
  | @truncated log before found shorter =>
    have bounds := PartitionLog.deleteBefore_bounds log before
    simp only [Cluster.floor, found, shorter]
    omega

/-- A step that moves nothing keeps what is due. -/
theorem Tracks.of_positions {next : Int} {link : Link} {step : Step}
    (tracks : Tracks key next link) (spares : step.SparesLog key link)
    (same : (ofPartition key (step.next link).client.assignment).map position =
      (ofPartition key link.client.assignment).map position) :
    Tracks key next (step.next link) := by
  obtain ⟨entry, sole, due, below⟩ := tracks
  rw [sole] at same
  obtain ⟨after, only, position⟩ := List.map_eq_singleton_iff.mp same
  refine ⟨after, only, by omega, ?_⟩
  have raised := Step.floor_le_next spares next
  omega

/-- An unscripted poll that answers with a record of the partition answers with the record that is
due, as the log retains it, and makes the one after it due; any other poll changes nothing about
what is due. -/
theorem Tracks.polled {next : Int} {link : Link} (tracks : Tracks key next link) (timeout : Nat) :
    let message := (Client.poll timeout link).1.message
    let after := Step.next link (.call (.poll timeout))
    (((link.cluster.takeFault .poll).1 = none → ¬message.IsRecordOf key) ∧
      Tracks key next after) ∨
    ((link.cluster.takeFault .poll).1 = none ∧ message.IsRecordOf key ∧
      message.offset = max next (link.cluster.low key) ∧
      (∃ log record, link.cluster.log? key = some log ∧
        log.record? message.offset = some record ∧ message.Carries record) ∧
      Tracks key (message.offset + 1) after) := by
  intro message step
  obtain ⟨entry, sole, due, below⟩ := tracks
  have floors (offset : Int) : step.cluster.floor key offset = link.cluster.floor key offset :=
    Cluster.floor_congr (call_topics (.poll timeout) link) key offset
  have place := Cluster.floor_eq_of_between due below
  obtain ⟨after, only, outcome⟩ := Client.poll_sole sole timeout
  rw [place] at outcome
  obtain ⟨noRecord, _, position⟩ | ⟨unscripted, readable, position, _⟩ := outcome
  · refine .inl ⟨noRecord, after, only, ?_⟩
    rw [floors]
    have above := Cluster.le_floor link.cluster key next
    omega
  · obtain ⟨isRecord, offset, _, log, record, found, retained, carries⟩ :=
      Cluster.read?_eq_some readable
    have offset : message.offset = link.cluster.floor key next := offset
    refine .inr ⟨unscripted, isRecord, ?_, ⟨log, record, found, ?_, carries⟩, after, only, ?_, ?_⟩
    · rw [offset, Cluster.floor_of_log? found]
    · rw [offset]
      exact retained
    · omega
    · rw [position, ← offset]
      exact Cluster.le_floor _ _ _

/-- What a poll delivers is the record that is due, as the log retains it, and makes the one after
it due; a poll that delivers nothing changes nothing about what is due. -/
theorem Tracks.poll {next : Int} {link : Link} (concrete : 0 ≤ key.2)
    (tracks : Tracks key next link) (timeout : Nat) :
    let step := Step.call (.poll timeout)
    (step.delivery? key link = none ∧ Tracks key next (step.next link)) ∨
    ∃ delivery, step.delivery? key link = some delivery ∧
      delivery.message.offset = max next delivery.low ∧
      (∃ log record, link.cluster.log? key = some log ∧
        log.record? delivery.message.offset = some record ∧ delivery.message.Carries record) ∧
      Tracks key (delivery.message.offset + 1) (step.next link) := by
  intro step
  obtain ⟨noRecord, tracks⟩ | ⟨_, isRecord, delivered⟩ := tracks.polled timeout
  · refine .inl ⟨if_neg fun record => ?_, tracks⟩
    exact noRecord (Client.unscripted_of_record concrete record) record
  · exact .inr ⟨_, if_pos isRecord, delivered⟩

/-- What a step delivers is the record that is due, as the log retains it, and makes the one
after it due; a step that delivers nothing changes nothing about what is due. -/
theorem Tracks.step {next : Int} {link : Link} {step : Step} (concrete : 0 ≤ key.2)
    (tracks : Tracks key next link) (spares : step.SparesReading key link) :
    (step.delivery? key link = none ∧ Tracks key next (step.next link)) ∨
    ∃ delivery, step.delivery? key link = some delivery ∧
      delivery.message.offset = max next delivery.low ∧
      (∃ log record, link.cluster.log? key = some log ∧
        log.record? delivery.message.offset = some record ∧ delivery.message.Carries record) ∧
      Tracks key (delivery.message.offset + 1) (step.next link) := by
  have sparesLog := spares.sparesLog
  cases step with
  | cluster step clock => exact .inl ⟨rfl, tracks.of_positions sparesLog rfl⟩
  | elsewhere others => exact .inl ⟨rfl, tracks.of_positions sparesLog rfl⟩
  | call call =>
    have assigned : key ∈ link.client.assignment.map Assigned.key := by
      obtain ⟨entry, sole, _⟩ := tracks
      exact assigned_of_sole sole
    obtain ⟨timeout, rfl⟩ | silent := call.polls_or_silent
    · exact tracks.poll concrete timeout
    · have spares : call.SparesReading key := spares
      have kept := ClientCall.positions_kept spares silent assigned
      refine .inl ⟨?_, tracks.of_positions sparesLog kept⟩
      cases call with
      | poll timeout => exact absurd rfl (silent timeout)
      | _ => rfl

/-- A run that leaves the reading of a partition and its log alone delivers the partition in order
from the offset that is due, and the partition is tracked on from there. -/
theorem Tracks.run {next : Int} {link : Link} {steps : List Step} (concrete : 0 ≤ key.2)
    (tracks : Tracks key next link) (spared : Throughout (Step.SparesReading key) link steps) :
    InOrder next (deliveries key link steps) ∧
      Tracks key (following next (deliveries key link steps)) (Link.run link steps) := by
  induction steps generalizing next link with
  | nil => exact ⟨.nil, tracks⟩
  | cons step steps ih =>
    obtain ⟨spares, spared⟩ := spared
    rw [deliveries_cons]
    obtain ⟨silent, tracks⟩ | ⟨delivery, delivers, due, _, tracks⟩ := tracks.step concrete spares
    · rw [silent]
      exact ih tracks spared
    · rw [delivers]
      obtain ⟨ordered, tracks⟩ := ih tracks spared
      exact ⟨.cons due ordered, tracks⟩

/-- The log of a partition holds nothing but what was produced to it, at ever higher offsets. -/
structure Ledger (key : PartitionKey) (produced : List (Int × Record)) (link : Link) : Prop where
  /-- A retained record was produced at its offset. -/
  retained : ∀ {log : PartitionLog} {offset : Int} {record : Record},
    link.cluster.log? key = some log → log.record? offset = some record →
      (offset, record) ∈ produced
  /-- Offsets increase. -/
  increasing : produced.Pairwise fun earlier later => earlier.1 < later.1
  /-- The upper bound of the log is above every offset. -/
  below : ∀ {log : PartitionLog}, link.cluster.log? key = some log →
    ∀ entry ∈ produced, entry.1 < log.high
  /-- Nothing was produced where there is no log. -/
  missing : link.cluster.log? key = none → produced = []

/-- A log without records has an empty ledger. -/
theorem Ledger.nil {link : Link}
    (bare : ∀ log, link.cluster.log? key = some log → log.records = []) : Ledger key [] link where
  retained := by
    intro log offset record found retained
    have bounds := PartitionLog.bounds_of_record? retained
    simp only [PartitionLog.high, bare log found, List.length_nil] at bounds
    omega
  increasing := .nil
  below := by simp
  missing _ := rfl

/-- A ledger goes on while nothing happens to the log. -/
theorem Ledger.congr {produced : List (Int × Record)} {link link' : Link}
    (ledger : Ledger key produced link)
    (same : link'.cluster.log? key = link.cluster.log? key) : Ledger key produced link' :=
  ⟨fun found => ledger.retained (same ▸ found), ledger.increasing,
    fun found => ledger.below (same ▸ found), fun missing => ledger.missing (same ▸ missing)⟩

/-- A record that is added to the log is entered in the ledger. -/
theorem Ledger.produce {produced : List (Int × Record)} {link link' : Link} {log : PartitionLog}
    {record : Record} (ledger : Ledger key produced link)
    (found : link.cluster.log? key = some log)
    (longer : link'.cluster.log? key = some (log.produce record).2) :
    Ledger key (produced ++ [((log.high : Int), record)]) link' := by
  refine ⟨?_, ?_, ?_, ?_⟩
  · intro log' offset retained found' present
    rw [longer, Option.some.injEq] at found'
    rw [← found', PartitionLog.record?_produce] at present
    rw [List.mem_append]
    split at present
    · rename_i last
      cases present
      exact .inr (List.mem_singleton.mpr (by rw [last]))
    · exact .inl (ledger.retained found present)
  · rw [List.pairwise_append]
    refine ⟨ledger.increasing, List.pairwise_singleton _ _, ?_⟩
    intro earlier inside later last
    rw [List.mem_singleton.mp last]
    exact ledger.below found earlier inside
  · intro log' found' entry inside
    rw [longer, Option.some.injEq] at found'
    have bounds := PartitionLog.produce_bounds log record
    rw [← found', bounds.2]
    rcases List.mem_append.mp inside with inside | last
    · have under := ledger.below found entry inside
      omega
    · rw [List.mem_singleton.mp last]
      omega
  · intro missing
    rw [longer] at missing
    contradiction

/-- Dropping records from the log leaves the ledger as it is. -/
theorem Ledger.truncate {produced : List (Int × Record)} {link link' : Link} {log : PartitionLog}
    {before : Int} (ledger : Ledger key produced link) (found : link.cluster.log? key = some log)
    (shorter : link'.cluster.log? key = some (log.deleteBefore before)) :
    Ledger key produced link' := by
  refine ⟨?_, ledger.increasing, ?_, ?_⟩
  · intro log' offset record found' present
    rw [shorter, Option.some.injEq] at found'
    rw [← found', PartitionLog.record?_deleteBefore] at present
    split at present
    · exact ledger.retained found present
    · contradiction
  · intro log' found' entry inside
    rw [shorter, Option.some.injEq] at found'
    rw [← found', (PartitionLog.deleteBefore_bounds log before).2]
    exact ledger.below found entry inside
  · intro missing
    rw [shorter] at missing
    contradiction

/-- A step that spares the log enters what it produces in the ledger. -/
theorem Ledger.step {produced : List (Int × Record)} {link : Link} {step : Step}
    (ledger : Ledger key produced link) (spares : step.SparesLog key link) :
    Ledger key (produced ++ (step.production? key link).toList) (step.next link) := by
  cases Step.logChange spares with
  | kept same silent =>
    rw [silent, Option.toList_none, List.append_nil]
    exact ledger.congr same
  | brought missing empty silent =>
    rw [silent, ledger.missing missing]
    apply Ledger.nil
    intro log found
    rw [empty, Option.some.injEq] at found
    rw [← found]
  | produced found longer produces =>
    rw [produces, Option.toList_some]
    exact ledger.produce found longer
  | truncated found shorter silent =>
    rw [silent, Option.toList_none, List.append_nil]
    exact ledger.truncate found shorter

/-- A run that spares the log enters what it produces in the ledger. -/
theorem Ledger.run {produced : List (Int × Record)} {link : Link} {steps : List Step}
    (ledger : Ledger key produced link) (spared : Throughout (Step.SparesLog key) link steps) :
    Ledger key (produced ++ productions key link steps) (Link.run link steps) := by
  induction steps generalizing produced link with
  | nil => exact (List.append_nil produced).symm ▸ ledger
  | cons step steps ih =>
    rw [productions_cons, ← List.append_assoc]
    exact ih (ledger.step spared.1) spared.2

/-- What a run delivers was produced: each record delivered is in the ledger at its offset. -/
theorem Tracks.produced {next : Int} {link : Link} {steps : List Step} (concrete : 0 ≤ key.2)
    {produced : List (Int × Record)} (tracks : Tracks key next link)
    (ledger : Ledger key produced link)
    (spared : Throughout (Step.SparesReading key) link steps) :
    ∀ delivery ∈ deliveries key link steps, ∃ record, delivery.message.Carries record ∧
      (delivery.message.offset, record) ∈ produced ++ productions key link steps := by
  induction steps generalizing next link produced with
  | nil => simp [deliveries, collected]
  | cons step steps ih =>
    obtain ⟨spares, spared⟩ := spared
    intro delivery inside
    rw [deliveries_cons, List.mem_append] at inside
    rw [productions_cons, ← List.append_assoc]
    have entered := ledger.step spares.sparesLog
    obtain ⟨silent, tracks⟩ | ⟨first, delivers, _, ⟨log, record, found, retained, carries⟩,
      tracks⟩ := tracks.step concrete spares
    · rw [silent] at inside
      rcases inside with inside | inside
      · contradiction
      · exact ih tracks entered spared delivery inside
    · rw [delivers, Option.toList_some, List.mem_singleton] at inside
      rcases inside with rfl | inside
      · refine ⟨record, carries, ?_⟩
        rw [List.mem_append, List.mem_append]
        exact .inl (.inl (ledger.retained found retained))
      · exact ih tracks entered spared delivery inside

/-- A partition that was placed is tracked from where its offset resolves to. -/
theorem placed_position {link : Link} {placement : ClientCall} {partitions : List TopicPartition}
    {tp : TopicPartition}
    (places : placement = .assign partitions ∨ placement = .incrementalAssign partitions)
    (named : tp ∈ partitions) (accepted : (placement.perform link).1.outcome = .ok .done)
    (distinct : ((placement.perform link).2.client.assignment.map Assigned.key).Nodup) :
    0 ≤ tp.partition ∧
      ∃ entry, ofPartition tp.key (placement.perform link).2.client.assignment = [entry] ∧
        entry.position =
          Client.resolve link.client.settings link.cluster tp.key tp.offset := by
  let entry := Client.assignedOf link.client.settings link.cluster tp
  have listed : entry ∈ Client.assignedOfList link partitions := List.mem_map_of_mem named
  rcases places with rfl | rfl
  · obtain ⟨_, error, refused⟩ | ⟨placeable, placed⟩ := Client.assign_cases partitions link
    · have failed : (ClientCall.perform (.assign partitions) link).1.outcome = .error error := by
        change ((Client.assign partitions).run link).1.map _ = _
        rw [refused]
        rfl
      rw [failed] at accepted
      contradiction
    · have result : (ClientCall.perform (.assign partitions) link).2 =
          ((Client.assign partitions).run link).2 := rfl
      rw [result, placed] at distinct ⊢
      exact ⟨placeable.concrete tp named, entry, ofPartition_of_mem distinct listed, rfl⟩
  · obtain ⟨error, refused⟩ | ⟨placeable, _, placed⟩ :=
      Client.incrementalAssign_cases partitions link
    · have failed : (ClientCall.perform (.incrementalAssign partitions) link).1.outcome =
          .error error := by
        change ((Client.incrementalAssign partitions).run link).1.map _ = _
        rw [refused]
        rfl
      rw [failed] at accepted
      contradiction
    · have result : (ClientCall.perform (.incrementalAssign partitions) link).2 =
          ((Client.incrementalAssign partitions).run link).2 := rfl
      rw [result, placed] at distinct ⊢
      refine ⟨placeable.concrete tp named, entry, ?_, rfl⟩
      exact ofPartition_of_mem distinct (List.mem_append_right _ listed)

/-- A partition that was placed is delivered in order, without loss and without duplicates, while
its reading and its log are left alone. Its records are counted from a moment when its log had
none: from then on each offset is answered for one record, and what is delivered at an offset is
that record. -/
theorem deliveries_of_placed {origin : Link} {past future : List Step} {placement : ClientCall}
    {partitions : List TopicPartition} {tp : TopicPartition}
    (bare : ∀ log, origin.cluster.log? tp.key = some log → log.records = [])
    (kept : Throughout (Step.SparesLog tp.key) origin past)
    (places : placement = .assign partitions ∨ placement = .incrementalAssign partitions)
    (named : tp ∈ partitions)
    (accepted : (placement.perform (run origin past)).1.outcome = .ok .done)
    (distinct :
      ((run origin (past ++ [.call placement])).client.assignment.map Assigned.key).Nodup)
    (spared : Throughout (Step.SparesReading tp.key) (run origin (past ++ [.call placement]))
      future) :
    let before := run origin past
    let after := run origin (past ++ [.call placement])
    let start := Client.resolve before.client.settings before.cluster tp.key tp.offset
    let delivered := deliveries tp.key after future
    let produced := productions tp.key origin (past ++ .call placement :: future)
    (ofPartition tp.key after.client.assignment).map Assigned.position = [start] ∧
    InOrder start delivered ∧
    (delivered.Pairwise fun earlier later => earlier.message.offset < later.message.offset) ∧
    (∀ sooner delivery later, delivered = sooner ++ delivery :: later →
      ∀ offset, start ≤ offset → offset < delivery.message.offset →
        (∃ earlier ∈ sooner, earlier.message.offset = offset) ∨
          ∃ poll ∈ sooner ++ [delivery], offset < poll.low) ∧
    (produced.Pairwise fun earlier later => earlier.1 < later.1) ∧
    (∀ delivery ∈ delivered, ∃ record, delivery.message.Carries record ∧
      (delivery.message.offset, record) ∈ produced) := by
  intro before after start delivered produced
  have reached : after = (placement.perform before).2 := run_append origin past [.call placement]
  have distinct : ((placement.perform before).2.client.assignment.map Assigned.key).Nodup :=
    reached ▸ distinct
  obtain ⟨concrete, entry, sole, position⟩ := placed_position places named accepted distinct
  rw [← reached] at sole
  have tracks : Tracks tp.key start after := by
    rw [show Client.resolve before.client.settings before.cluster tp.key tp.offset = start
      from rfl] at position
    refine ⟨entry, sole, Int.le_of_eq position.symm, ?_⟩
    rw [position]
    exact Cluster.le_floor _ _ _
  have ordered : InOrder start delivered := (tracks.run concrete spared).1
  have ledger : Ledger tp.key (productions tp.key origin past) after := by
    have spares : (Step.call placement).SparesLog tp.key before := trivial
    have first := ((Ledger.nil bare).run kept).step spares
    rw [reached]
    rwa [List.nil_append, show (Step.call placement).production? tp.key before = none from rfl,
      Option.toList_none, List.append_nil] at first
  have entered : produced = productions tp.key origin past ++ productions tp.key after future := by
    rw [show produced = productions tp.key origin (past ++ .call placement :: future) from rfl,
      productions, collected_append, collected, ← run, reached]
    rfl
  have whole := ledger.run (spared.imp fun _ _ => Step.SparesReading.sparesLog)
  refine ⟨?_, ordered, ordered.increasing, ?_, ?_, ?_⟩
  · rw [sole, List.map_singleton, position]
  · intro sooner delivery later split
    exact InOrder.complete (split ▸ ordered)
  · rw [entered]
    exact whole.increasing
  · rw [entered]
    exact tracks.produced concrete ledger spared

/-- Three records are produced, the first is read, the second is dropped unread, and a fourth is
added: the first, the third and the fourth are delivered. -/
theorem deliveries_of_placed_truncated :
    let beside : TopicPartition := { topic := "orders", partition := 1, offset := .ending }
    let tp : TopicPartition := { topic := "orders", partition := 0, offset := .beginning }
    let produce (payload : Bytes) : Step := .cluster (.produce tp.key none payload none) 7
    let poll : Step := .call (.poll 10)
    let settings : Client.Settings := ⟨none, false, true, false⟩
    let origin : Link := ⟨{ name := "reader", serial := 1, settings }, {}⟩
    let past := [.cluster (.createTopic "orders" 2) 7, produce [1], produce [2], produce [3]]
    let placement : ClientCall := .assign [beside, tp]
    let after := run origin (past ++ [.call placement])
    let future := [poll, poll, .cluster (.deleteRecords tp.key 2) 7, poll, .call (.seek beside 10),
      produce [4], poll, poll]
    let delivered := deliveries tp.key after future
    Throughout (Step.SparesReading tp.key) after future ∧ InOrder 0 delivered ∧
      delivered.map (fun delivery => delivery.message.offset) = [0, 2, 3] := by
  intro beside tp produce poll settings origin past placement after future delivered
  have other : beside.key ≠ tp.key := by decide
  have spared : Throughout (Step.SparesReading tp.key) after future :=
    ⟨trivial, trivial, trivial, trivial, other, trivial, trivial, trivial, trivial⟩
  have kept : Throughout (Step.SparesLog tp.key) origin past :=
    ⟨fun _ => rfl, trivial, trivial, trivial, trivial⟩
  have bare : ∀ log, origin.cluster.log? tp.key = some log → log.records = [] :=
    fun _ missing => nomatch missing
  have named : tp ∈ [beside, tp] := by simp
  have accepted : (placement.perform (run origin past)).1.outcome = .ok .done := by rfl
  have distinct : ((run origin (past ++ [.call placement])).client.assignment.map
      Assigned.key).Nodup := by decide
  have placed := @deliveries_of_placed origin past future placement [beside, tp] tp bare kept
    (.inl rfl) named accepted distinct spared
  have start : Client.resolve (run origin past).client.settings (run origin past).cluster tp.key
      tp.offset = 0 := by decide
  exact ⟨spared, start ▸ placed.2.1, by decide⟩

end LogConsumer.Link
