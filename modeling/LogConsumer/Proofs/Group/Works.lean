import LogConsumer.Proofs.Client.Keys
import LogConsumer.Proofs.Cluster.Commits
import LogConsumer.Proofs.Group.Stints
import LogConsumer.Proofs.Link.Delivery

/-!
# What a consumer reads for its group

Between the assignment and the commit of a stint, the handle of the consumer and its cluster make a
run of polls and of what others do (`works_run`). Such a run keeps the handle reading the same
partitions for the same group, and takes nothing from the group (`ReadsFor`); and what the handle
has stored of a partition is the offset after its last delivery (`Stores.run`).
-/
namespace LogConsumer

open Assigned Link

variable {group : String} {keys : List PartitionKey} {key : PartitionKey} {link : Link}

/-- What happened to a cluster took nothing from a group that reads some partitions: nothing was
committed for the group, no low watermark sank, and what was let through still is. -/
structure Cluster.Respected (group : String) (keys : List PartitionKey) (before after : Cluster) :
    Prop where
  /-- Nothing was committed for the group. -/
  commits : ∀ key ∈ keys, after.committed? group key = before.committed? group key
  /-- No low watermark sank. -/
  lows : ∀ key ∈ keys, before.low key ≤ after.low key
  /-- Assignments are let through still. -/
  assigns : before.LetsThrough .assign → after.LetsThrough .assign
  /-- Commits are let through still. -/
  lets : before.LetsThrough .commit → after.LetsThrough .commit

namespace Cluster.Respected

/-- Nothing happened. -/
theorem refl (cluster : Cluster) : Respected group keys cluster cluster :=
  ⟨fun _ _ => rfl, fun _ _ => Int.le_refl _, id, id⟩

/-- Nothing was taken, twice. -/
theorem trans {first second third : Cluster} (before : Respected group keys first second)
    (after : Respected group keys second third) : Respected group keys first third where
  commits key named := (after.commits key named).trans (before.commits key named)
  lows key named := Int.le_trans (before.lows key named) (after.lows key named)
  assigns lets := after.assigns (before.assigns lets)
  lets lets := after.lets (before.lets lets)

/-- A cluster to which nothing happened is respected. -/
theorem of_unmoved {before after : Cluster} (unmoved : before.Unmoved after) :
    Respected group keys before after where
  commits key _ := by rw [committed?, committed?, unmoved.commits]
  lows key _ := Int.le_of_eq (low_congr unmoved.topics key).symm
  assigns := unmoved.lets .assign
  lets := unmoved.lets .commit

end Cluster.Respected

namespace Outside

/-- What others do, as a step of a run. -/
def step : Outside → Link.Step
  | .cluster step clock => .cluster step clock
  | .elsewhere others => .elsewhere others

/-- What others do changes the cluster alone. -/
theorem next_step (outside : Outside) (link : Link) :
    outside.step.next link = ⟨link.client, outside.next link.cluster⟩ := by
  cases outside <;> rfl

/-- What others do delivers nothing. -/
theorem delivery?_step (outside : Outside) (key : PartitionKey) (link : Link) :
    outside.step.delivery? key link = none := by
  cases outside <;> rfl

/-- What others do spares the reading of a partition if it spares its log. -/
theorem sparesReading_step {outside : Outside} (spares : outside.SparesLog key link.cluster) :
    outside.step.SparesReading key link := by
  cases outside with
  | elsewhere others => trivial
  | cluster step clock => cases step <;> exact spares

/-- What changes nothing but logs is fair, if it creates none over a log that is read. -/
theorem fair_of_rest {outside : Outside} {cluster : Cluster}
    (logs : ∀ key ∈ keys, outside.SparesLog key cluster)
    (rest : outside.next cluster = { cluster with topics := (outside.next cluster).topics }) :
    outside.Fair group keys cluster := by
  have lets (primitive : Primitive) (lets : cluster.LetsThrough primitive) :
      (outside.next cluster).LetsThrough primitive := by
    rw [rest]
    exact lets
  refine ⟨logs, fun key _ => ?_, lets .assign, lets .commit⟩
  rw [rest]
  rfl

/-- Producing is fair. -/
theorem fair_produce (target : PartitionKey) (recordKey : Option Bytes) (payload : Bytes)
    (timestamp : Option Int) (clock : Int) (cluster : Cluster) :
    (Outside.cluster (.produce target recordKey payload timestamp) clock).Fair group keys
      cluster := by
  refine fair_of_rest (fun _ _ => by trivial) ?_
  rw [next, perform_produce _ _ _ _ _ _ rfl]
  exact cluster.produce_rest target _

/-- Deleting records is fair. -/
theorem fair_deleteRecords (target : PartitionKey) (before clock : Int) (cluster : Cluster) :
    (Outside.cluster (.deleteRecords target before) clock).Fair group keys cluster := by
  refine fair_of_rest (fun _ _ => by trivial) ?_
  change (cluster.deleteRecords target before).2 =
    { cluster with topics := (cluster.deleteRecords target before).2.topics }
  obtain ⟨_, error, result⟩ | ⟨log, _, result⟩ := cluster.deleteRecords_cases target before <;>
    rw [result]
  exact cluster.putLog_rest target _

/-- Creating a topic is fair if none of its partitions that are read has a log. -/
theorem fair_createTopic {topic : String} {cluster : Cluster}
    (fresh : ∀ key ∈ keys, topic = key.1 → cluster.log? key = none) (partitions : Nat)
    (clock : Int) :
    (Outside.cluster (.createTopic topic partitions) clock).Fair group keys cluster :=
  fair_of_rest fresh rfl

/-- What others do, if it is fair, respects the cluster. -/
theorem Fair.respected {outside : Outside} {cluster : Cluster}
    (fair : outside.Fair group keys cluster) :
    cluster.Respected group keys (outside.next cluster) := by
  refine ⟨fair.commits, fun key named => ?_, fair.assigns, fair.lets⟩
  let link : Link := ⟨default, cluster⟩
  have spares : outside.step.SparesReading key link := sparesReading_step (fair.logs key named)
  have raised := Step.floor_le_next spares.sparesLog 0
  rw [outside.next_step] at raised
  rw [Cluster.low_eq_floor, Cluster.low_eq_floor]
  exact raised

/-- What others do one after the other, if it is fair, respects the cluster. -/
theorem respected_of_throughout {cluster : Cluster} {events : List Outside}
    (fair : Throughout Outside.next (Outside.Fair group keys) cluster events) :
    cluster.Respected group keys (events.foldl Outside.next cluster) := by
  induction events generalizing cluster with
  | nil => exact .refl cluster
  | cons event events ih => exact fair.1.respected.trans (ih fair.2)

end Outside

/-- A poll, or something fair that others do. -/
def Link.Step.IsWork (group : String) (keys : List PartitionKey) (link : Link)
    (step : Link.Step) : Prop :=
  (∃ timeout, step = .call (.poll timeout)) ∨
    ∃ outside : Outside, outside.Fair group keys link.cluster ∧ step = outside.step

/-- Work spares the reading of the partitions. -/
theorem Link.Step.IsWork.sparesReading {step : Link.Step} (work : step.IsWork group keys link)
    (named : key ∈ keys) : step.SparesReading key link := by
  obtain ⟨timeout, rfl⟩ | ⟨outside, fair, rfl⟩ := work
  · trivial
  · exact Outside.sparesReading_step (fair.logs key named)

/-- Polls are work. -/
theorem polls_isWork (timeouts : List Nat) (link : Link) :
    Link.Throughout (Step.IsWork group keys) link (Consumer.polls timeouts) := by
  induction timeouts generalizing link with
  | nil => trivial
  | cons timeout timeouts ih => exact ⟨.inl ⟨timeout, rfl⟩, ih _⟩

/-- The works of a stint are a run of work, and deliver what it delivers. -/
theorem works_run {site : Site} (holds : site.Holds link) {works : List Work}
    (fair : Throughout Work.next (Work.Fair group keys) site works) :
    ∃ steps, (works.foldl Work.next site).Holds (Link.run link steps) ∧
      Link.Throughout (Step.IsWork group keys) link steps ∧
      ∀ key, collected Work.next (Work.deliveries key) site works =
        Link.deliveries key link steps := by
  induction works generalizing site link with
  | nil => exact ⟨[], holds, trivial, fun _ => rfl⟩
  | cons work works ih =>
    obtain ⟨first, fair⟩ := fair
    cases work with
    | operate operation consumes =>
      obtain ⟨timeouts, reached, delivered⟩ := operation.consumes_run consumes holds
      obtain ⟨steps, final, worked, rest⟩ := ih reached fair
      refine ⟨Consumer.polls timeouts ++ steps, ?_,
        (polls_isWork timeouts link).append worked, fun key => ?_⟩
      · rw [run_append]
        exact final
      · change operation.deliveries key site ++
          collected Work.next (Work.deliveries key) (operation.run.run site).2 works = _
        rw [rest, delivered]
        exact (collected_append _ link (Consumer.polls timeouts) steps).symm
    | outside event =>
      have next : (Work.next site (.outside event)).Holds (event.step.next link) := by
        rw [event.next_step, ← holds.cluster]
        exact ⟨holds.opened, rfl⟩
      obtain ⟨steps, final, worked, rest⟩ := ih next fair
      refine ⟨event.step :: steps, final, ⟨.inr ⟨event, ?_, rfl⟩, worked⟩, fun key => ?_⟩
      · rw [← holds.cluster]
        exact first
      · rw [deliveries_cons, event.delivery?_step]
        exact rest key

/-- A poll uses up a script and counts itself, and that is all it does to the cluster. -/
theorem unmoved_poll (timeout : Nat) (link : Link) :
    link.cluster.Unmoved (Client.poll timeout link).2.cluster := by
  have counts : (Client.poll timeout link).2.cluster = Client.counted link.cluster timeout := by
    obtain ⟨_, _, result⟩ | ⟨_, _, result⟩ | ⟨_, _, result⟩ := Client.poll_cases timeout link <;>
      rw [result]
  let ready : Cluster :=
    { link.cluster with polls := link.cluster.polls + 1, lastPollTimeout := some timeout }
  have begun : link.cluster.Unmoved ready := ⟨rfl, rfl, fun _ => id⟩
  rw [counts]
  exact begun.trans (.takeFault ready .poll)

/-- The handle reads some partitions for a group, from which nothing was taken since an origin. -/
structure ReadsFor (group : String) (keys : List PartitionKey) (origin : Cluster) (link : Link) :
    Prop where
  /-- The handle belongs to the group. -/
  grouped : link.client.settings.group = some group
  /-- It reads these partitions. -/
  reads : link.client.ownKeys? = some keys
  /-- Nothing was taken from the group. -/
  respected : origin.Respected group keys link.cluster

/-- The handle reads for its group on while work is done. -/
theorem ReadsFor.run {origin : Cluster} (readsFor : ReadsFor group keys origin link)
    {steps : List Link.Step} (works : Link.Throughout (Step.IsWork group keys) link steps) :
    ReadsFor group keys origin (Link.run link steps) := by
  induction steps generalizing link with
  | nil => exact readsFor
  | cons step steps ih =>
    obtain ⟨⟨timeout, rfl⟩ | ⟨outside, fair, rfl⟩, works⟩ := works
    · refine ih ⟨?_, ?_, ?_⟩ works
      · have same := congrArg Fixture.settings
          (ClientCall.perform_keeps_fixture (.poll timeout) link)
        exact (congrArg Client.Settings.group same).trans readsFor.grouped
      · exact (@ClientCall.keeps_ownKeys? (.poll timeout) trivial link).trans readsFor.reads
      · exact readsFor.respected.trans (.of_unmoved (unmoved_poll timeout link))
    · refine ih ?_ works
      rw [outside.next_step]
      exact ⟨readsFor.grouped, readsFor.reads, readsFor.respected.trans fair.respected⟩

/-- The only entry of a partition has stored an offset, or none. -/
def Stores (key : PartitionKey) (stored : Option Int) (link : Link) : Prop :=
  ∃ entry, ofPartition key link.client.assignment = [entry] ∧ entry.stored = stored

/-- Work stores the offset after what it delivers, and nothing else. -/
theorem Stores.step {stored : Option Int} {step : Link.Step} (concrete : 0 ≤ key.2)
    (stores : Stores key stored link) (work : step.IsWork group keys link) :
    Stores key (((step.delivery? key link).map fun delivery => delivery.message.offset + 1) <|>
      stored) (step.next link) := by
  obtain ⟨timeout, rfl⟩ | ⟨outside, _, rfl⟩ := work
  · obtain ⟨entry, sole, holds⟩ := stores
    obtain ⟨after, only, outcome⟩ := Client.poll_partition concrete sole timeout
    refine ⟨after, only, ?_⟩
    obtain ⟨noRecord, kept, _⟩ | ⟨readable, _, advanced⟩ := outcome
    · rw [kept, holds, Step.delivery?, if_neg noRecord]
      rfl
    · obtain ⟨isRecord, offset, _⟩ := Cluster.read?_eq_some readable
      rw [advanced, Step.delivery?, if_pos isRecord, ← offset]
      rfl
  · rw [outside.next_step, outside.delivery?_step]
    exact stores

/-- After work, what is stored is the offset after the last delivery, if there was one. -/
theorem Stores.run {stored : Option Int} {steps : List Link.Step} (concrete : 0 ≤ key.2)
    (stores : Stores key stored link)
    (works : Link.Throughout (Step.IsWork group keys) link steps) (next : Int) :
    Stores key (if Link.deliveries key link steps = [] then stored
      else some (following next (Link.deliveries key link steps))) (Link.run link steps) := by
  induction steps generalizing stored link next with
  | nil => exact stores
  | cons step steps ih =>
    have first := stores.step concrete works.1
    rw [deliveries_cons]
    cases delivers : step.delivery? key link with
    | none =>
      rw [delivers] at first
      exact ih first works.2 next
    | some delivery =>
      rw [delivers] at first
      have rest := ih first works.2 (delivery.message.offset + 1)
      rw [Option.toList_some, List.singleton_append, if_neg (List.cons_ne_nil _ _), following]
      cases later : Link.deliveries key (step.next link) steps with
      | nil =>
        rw [later, if_pos rfl] at rest
        exact rest
      | cons second deliveries =>
        rw [later, if_neg (List.cons_ne_nil _ _)] at rest
        exact rest

end LogConsumer
