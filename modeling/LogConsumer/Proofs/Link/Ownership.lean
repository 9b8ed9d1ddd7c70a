import LogConsumer.Proofs.Client.Exclusion
import LogConsumer.Proofs.Client.Keys
import LogConsumer.Proofs.Client.Refusal
import LogConsumer.Proofs.Link.Run
import Mathlib.Data.List.Nodup

/-!
# Owning a partition once

Whether a client ever has a partition in its assignment twice. Adding to the assignment compares the
list with what is assigned, and refuses the whole list where a partition of it is
(`Client.incrementalAssign_conflict`); it does not compare the list with itself. So a run in which
the lists that replace the assignment and the topics subscribed to repeat nothing keeps every
partition single exactly if no list that was added repeats one: the main result is `ownsOnce_iff`.
-/
namespace LogConsumer

namespace Client

/-- No partition is in the assignment twice. -/
def OwnsOnce (client : Client) : Prop :=
  (client.assignment.map Assigned.key).Nodup

instance (client : Client) : Decidable client.OwnsOnce :=
  inferInstanceAs (Decidable (List.Nodup _))

/-- Who reads nothing owns nothing twice. -/
theorem ownsOnce_of_nil {client : Client} (nothing : client.assignment = []) : client.OwnsOnce := by
  rw [OwnsOnce, nothing]
  exact List.nodup_nil

/-- What is owned is told by the keys alone. -/
theorem ownsOnce_congr {left right : Client}
    (same : right.assignment.map Assigned.key = left.assignment.map Assigned.key)
    (once : left.OwnsOnce) : right.OwnsOnce := by
  rwa [OwnsOnce, same]

/-- What a client must keep for its polls to own nothing twice either: its topics do not repeat. -/
structure OwnsApart (client : Client) : Prop where
  /-- No topic is subscribed to twice. -/
  topical : client.subscription.Nodup
  /-- No partition is assigned twice. -/
  once : client.OwnsOnce

/-- The partitions of topics that do not repeat do not repeat. -/
theorem subscribedPartitions_nodup (cluster : Cluster) {topics : List String}
    (distinct : topics.Nodup) :
    ((subscribedPartitions cluster topics).map TopicPartition.key).Nodup := by
  rw [subscribedPartitions, List.map_flatMap, List.nodup_flatMap]
  constructor
  · intro topic _
    rw [List.map_map]
    refine List.nodup_range.map fun first second same => ?_
    exact Int.ofNat_inj.mp (congrArg Prod.snd same)
  · refine distinct.imp fun {first second} apart => ?_
    rintro key here there
    simp only [List.map_map, List.mem_map] at here there
    obtain ⟨_, _, rfl⟩ := here
    obtain ⟨_, _, same⟩ := there
    exact apart (congrArg Prod.fst same).symm

/-- A client whose topics do not repeat owns no partition twice when it has joined its group. -/
theorem ownsOnce_joined {link : Link} (apart : link.client.OwnsApart) :
    (joined link).OwnsOnce := by
  unfold joined
  dsimp only
  split
  · rw [OwnsOnce, assignedOfList_key]
    exact subscribedPartitions_nodup link.cluster apart.topical
  · exact apart.once

/-- A poll of a client whose topics do not repeat leaves no partition owned twice. -/
theorem ownsOnce_poll {link : Link} (timeout : Nat) (apart : link.client.OwnsApart) :
    (poll timeout link).2.client.OwnsOnce := by
  obtain ⟨_, _, result⟩ | ⟨_, _, result⟩ | ⟨_, _, result⟩ := poll_cases timeout link <;> rw [result]
  · exact apart.once
  · exact apart.once
  · refine ownsOnce_congr (serve_keys _ _) (ownsOnce_joined ?_)
    exact ⟨apart.topical, apart.once⟩

/-- Partitions that are placed beside the assignment leave none owned twice exactly if they do not
repeat and none of them was assigned. -/
theorem ownsOnce_extended {link : Link} {partitions : List TopicPartition} :
    OwnsOnce (extended link partitions) ↔
      link.client.OwnsOnce ∧ (partitions.map TopicPartition.key).Nodup ∧
        ∀ tp ∈ partitions, tp.key ∉ link.client.assignment.map Assigned.key := by
  rw [OwnsOnce, extended, List.map_append, assignedOfList_key, List.nodup_append']
  refine and_congr_right fun _ => and_congr_right fun _ => ?_
  constructor
  · exact fun apart tp inside assigned => apart assigned (List.mem_map_of_mem inside)
  · rintro apart key assigned named
    obtain ⟨tp, inside, rfl⟩ := List.mem_map.mp named
    exact apart tp inside assigned

/-- Adding a partition that is assigned already is refused as a conflict, which names a partition of
the list that is. -/
theorem incrementalAssign_conflict {partitions : List TopicPartition} {link : Link}
    (placeable : Placeable .incrementalAssign partitions link)
    (conflicts : ∃ tp ∈ partitions, tp.key ∈ link.client.assignment.map Assigned.key) :
    ∃ tp ∈ partitions, tp.key ∈ link.client.assignment.map Assigned.key ∧
      (incrementalAssign partitions).run link =
        (.error (.because .conflict (tp.text ++ " is already assigned")),
          scripted .incrementalAssign link) := by
  obtain ⟨stuck, _⟩ | ⟨_, goes⟩ :=
    placing_cases .incrementalAssign partitions (placeApart partitions) link
  · exact absurd placeable stuck
  · obtain ⟨tp, inside, assigned, refused⟩ | ⟨apart, _⟩ :=
      placeApart_cases partitions (scripted .incrementalAssign link)
    · exact ⟨tp, inside, assigned, goes.trans refused⟩
    · obtain ⟨tp, inside, assigned⟩ := conflicts
      exact absurd assigned (apart tp inside)

end Client

namespace ClientCall

open Client

/-- The lists that the call replaces the assignment or the subscription by repeat nothing. -/
def ListsOnce : ClientCall → Prop
  | .assign partitions => (partitions.map TopicPartition.key).Nodup
  | .subscribe topics => topics.Nodup
  | _ => True

/-- If the call adds to the assignment and is accepted, its list repeats no partition. -/
def AddsOnce (link : Link) : ClientCall → Prop
  | .incrementalAssign partitions =>
    ((Client.incrementalAssign partitions).run link).1 = .ok () →
      (partitions.map TopicPartition.key).Nodup
  | _ => True

/-- If nothing stands against adding the list of the call to the assignment but a partition that is
assigned already, the call is refused as a conflict and changes nothing. -/
def RefusesConflict (link : Link) (call : ClientCall) : Prop :=
  ∀ partitions, call = .incrementalAssign partitions →
    Placeable .incrementalAssign partitions link →
    (∃ tp ∈ partitions, tp.key ∈ link.client.assignment.map Assigned.key) →
    (∃ tp ∈ partitions, tp.key ∈ link.client.assignment.map Assigned.key ∧
      (call.perform link).1.outcome =
        .error (.because .conflict (tp.text ++ " is already assigned"))) ∧
    (call.perform link).2.standing = link.standing

/-- A call whose lists do not repeat leaves no topic subscribed to twice. -/
theorem topical_perform {call : ClientCall} {link : Link} (lists : call.ListsOnce)
    (topical : link.client.subscription.Nodup) :
    (call.perform link).2.client.subscription.Nodup := by
  have whenSpared (spares : call.SparesSubscription) :
      (call.perform link).2.client.subscription.Nodup := by
    have kept : (call.perform link).2.client.subscription = link.client.subscription :=
      keeps_subscription spares link
    rwa [kept]
  cases call with
  | close | unsubscribe => exact List.nodup_nil
  | subscribe topics =>
    change ((Client.subscribe topics).run link).2.client.subscription.Nodup
    obtain ⟨_, refused⟩ | ⟨_, accepted⟩ := Client.subscribe_cases topics link
    · rw [refused]
      exact topical
    · rw [accepted]
      exact lists
  | _ => exact whenSpared trivial

/-- A call whose lists do not repeat leaves no partition owned twice exactly if it adds none twice:
every other way to a second entry is closed. -/
theorem ownsOnce_perform {call : ClientCall} {link : Link} (lists : call.ListsOnce)
    (apart : link.client.OwnsApart) :
    (call.perform link).2.client.OwnsOnce ↔ call.AddsOnce link := by
  have scripts : IgnoresScripts fun link => link.client.assignment.map Assigned.key :=
    fun _ _ => rfl
  have whenSteady (steady : call.IsSteady) : (call.perform link).2.client.OwnsOnce := by
    have kept : Keeps (fun link => link.client.assignment.map Assigned.key) call.perform := by
      refine keeps_of_isSteady scripts (fun _ _ => rfl) (fun link entries same => ?_) steady
      have keys := congrArg (List.map Prod.fst) same
      simpa [List.map_map, Function.comp_def] using keys
    exact ownsOnce_congr (kept link) apart.once
  cases call with
  | close => exact iff_of_true (ownsOnce_of_nil rfl) trivial
  | subscribe topics =>
    refine iff_of_true ?_ trivial
    change ((Client.subscribe topics).run link).2.client.OwnsOnce
    obtain ⟨_, refused⟩ | ⟨_, accepted⟩ := Client.subscribe_cases topics link
    · rw [refused]
      exact apart.once
    · rw [accepted]
      exact ownsOnce_of_nil rfl
  | unsubscribe => exact iff_of_true (ownsOnce_of_nil rfl) trivial
  | assign partitions =>
    refine iff_of_true ?_ trivial
    change ((Client.assign partitions).run link).2.client.OwnsOnce
    obtain ⟨_, _, refused⟩ | ⟨_, accepted⟩ := assign_cases partitions link
    · rw [refused]
      exact apart.once
    · rw [accepted, OwnsOnce, replaced, assignedOfList_key]
      exact lists
  | unassign =>
    refine iff_of_true ?_ trivial
    change (Client.unassign.run link).2.client.OwnsOnce
    obtain ⟨_, refused⟩ | accepted := unassign_cases link
    · rw [refused]
      exact apart.once
    · rw [accepted]
      exact ownsOnce_of_nil rfl
  | incrementalAssign partitions =>
    change ((Client.incrementalAssign partitions).run link).2.client.OwnsOnce ↔
      (((Client.incrementalAssign partitions).run link).1 = .ok () → _)
    obtain ⟨_, refused⟩ | ⟨_, unowned, accepted⟩ := incrementalAssign_cases partitions link
    · rw [refused]
      refine iff_of_true apart.once fun done => ?_
      cases done
    · rw [accepted]
      refine ownsOnce_extended.trans ?_
      exact ⟨fun once _ => once.2.1, fun adds => ⟨apart.once, adds rfl, unowned⟩⟩
  | incrementalUnassign partitions =>
    refine iff_of_true ?_ trivial
    change ((Client.incrementalUnassign partitions).run link).2.client.OwnsOnce
    obtain ⟨_, refused⟩ | accepted := incrementalUnassign_cases partitions link
    · rw [refused]
      exact apart.once
    · rw [accepted]
      exact apart.once.sublist (List.filter_sublist.map Assigned.key)
  | seek tp timeout =>
    have kept : Keeps (fun link => link.client.assignment.map Assigned.key)
        (ClientCall.seek tp timeout).perform :=
      keeps_ofAction _ (keeps_seek scripts tp fun link place entries moved =>
        Assigned.updateFirst?_map (fun _ => by rfl) moved)
    exact iff_of_true (ownsOnce_congr (kept link) apart.once) trivial
  | poll timeout => exact iff_of_true (ownsOnce_poll timeout apart) trivial
  | _ => exact iff_of_true (whenSteady trivial) trivial

/-- Every call refuses a conflict. -/
theorem refusesConflict (link : Link) (call : ClientCall) : call.RefusesConflict link := by
  rintro partitions rfl placeable conflicts
  obtain ⟨tp, inside, assigned, refused⟩ := incrementalAssign_conflict placeable conflicts
  have failed : ((Client.incrementalAssign partitions).run link).1 = _ :=
    congrArg Prod.fst refused
  refine ⟨⟨tp, inside, assigned, congrArg (Except.map fun _ => ClientReply.done) failed⟩, ?_⟩
  exact atomic_incrementalAssign partitions _ failed

end ClientCall

namespace Link

open Client

/-- A condition on calls, asked of the steps that are calls on the client. -/
def Step.Calls (condition : Link → ClientCall → Prop) (link : Link) : Step → Prop
  | .call request => condition link request
  | _ => True

/-- A step whose lists do not repeat leaves no partition owned twice exactly if it adds none
twice. -/
theorem Step.ownsApart_next {link : Link} {step : Step}
    (lists : step.Calls (fun _ => ClientCall.ListsOnce) link) (apart : link.client.OwnsApart) :
    (step.next link).client.OwnsOnce ↔
      step.Calls (fun link call => call.AddsOnce link) link := by
  cases step with
  | call request => exact ClientCall.ownsOnce_perform lists apart
  | cluster step clock => exact iff_of_true apart.once trivial
  | elsewhere others => exact iff_of_true apart.once trivial

/-- A step whose lists do not repeat leaves no topic subscribed to twice. -/
theorem Step.topical_next {link : Link} {step : Step}
    (lists : step.Calls (fun _ => ClientCall.ListsOnce) link)
    (topical : link.client.subscription.Nodup) :
    (step.next link).client.subscription.Nodup := by
  cases step with
  | call request => exact ClientCall.topical_perform lists topical
  | cluster step clock => exact topical
  | elsewhere others => exact topical

/-- In a run whose lists do not repeat, no partition is ever owned twice exactly if no addition that
is accepted repeats one. -/
theorem ownsOnce_run {link : Link} {steps : List Step} (apart : link.client.OwnsApart)
    (lists : Throughout (fun link step => step.Calls (fun _ => ClientCall.ListsOnce) link)
      link steps) :
    Throughout (fun link step => (step.next link).client.OwnsOnce) link steps ↔
      Throughout (fun link step => step.Calls (fun link call => call.AddsOnce link) link)
        link steps := by
  induction steps generalizing link with
  | nil => exact Iff.rfl
  | cons step steps ih =>
    have here := Step.ownsApart_next lists.1 apart
    constructor
    · rintro ⟨once, later⟩
      exact ⟨here.mp once, (ih ⟨Step.topical_next lists.1 apart.topical, once⟩ lists.2).mp later⟩
    · rintro ⟨adds, later⟩
      have once := here.mpr adds
      exact ⟨once, (ih ⟨Step.topical_next lists.1 apart.topical, once⟩ lists.2).mpr later⟩

/-- A condition that every call meets is met throughout every run. -/
theorem throughout_calls {condition : Link → ClientCall → Prop}
    (met : ∀ link call, condition link call) (link : Link) (steps : List Step) :
    Throughout (fun link step => step.Calls condition link) link steps := by
  induction steps generalizing link with
  | nil => trivial
  | cons step steps ih =>
    refine ⟨?_, ih _⟩
    cases step with
    | call request => exact met link request
    | cluster step clock => trivial
    | elsewhere others => trivial

/-- A fresh handle is called with lists that repeat neither a partition to be assigned nor a topic
to be subscribed to; the lists that are added to the assignment are arbitrary, the cluster is used
by others, and failures are scripted. Adding a partition that is assigned already is refused as a
conflict at every point of the run, and changes nothing. But no partition is owned twice at any
point exactly if no list that was added, and accepted, names a partition twice: nothing but such a
list brings a second entry, and every such list does. -/
theorem ownsOnce_iff {config : Config} {fresh : String} {before : Cluster} {client : Client}
    (created : (Client.create config fresh before).1 = .ok client) (cluster : Cluster)
    (steps : List Step)
    (lists : Throughout (fun link step => step.Calls (fun _ => ClientCall.ListsOnce) link)
      ⟨client, cluster⟩ steps) :
    Throughout (fun link step => step.Calls (fun link call => call.RefusesConflict link) link)
      ⟨client, cluster⟩ steps ∧
    (Throughout (fun link step => (step.next link).client.OwnsOnce) ⟨client, cluster⟩ steps ↔
      Throughout (fun link step => step.Calls (fun link call => call.AddsOnce link) link)
        ⟨client, cluster⟩ steps) := by
  have apart : client.OwnsApart := by
    rw [Client.create_eq created]
    exact ⟨List.nodup_nil, ownsOnce_of_nil rfl⟩
  refine ⟨throughout_calls (fun link call => call.refusesConflict link) _ steps, ?_⟩
  exact ownsOnce_run apart lists

/-- A list with a partition that is assigned is refused as a whole, and the next one is added; then
the client subscribes and joins its group by a poll. No list that was accepted repeats a partition,
so none is owned twice. -/
theorem ownsOnce_throughout_joining :
    let partition (number : Int) : TopicPartition := { topic := "orders", partition := number }
    let cluster := ({} : Cluster).createTopic "orders" 3
    let steps : List Step :=
      [.call (.assign [partition 0]), .call (.incrementalAssign [partition 1, partition 0]),
        .call (.incrementalAssign [partition 1, partition 2]), .call (.subscribe ["orders"]),
        .call (.poll 10)]
    ∃ client, (Client.create {} "" cluster).1 = .ok client ∧
      (run ⟨client, cluster⟩ steps).client.assignment.length = 3 ∧
      Throughout (fun link step => (step.next link).client.OwnsOnce) ⟨client, cluster⟩ steps := by
  intro partition cluster steps
  obtain ⟨client, created⟩ : ∃ client, (Client.create {} "" cluster).1 = .ok client := ⟨_, rfl⟩
  have lists : Throughout (fun link step => step.Calls (fun _ => ClientCall.ListsOnce) link)
      ⟨client, cluster⟩ steps :=
    ⟨List.nodup_singleton _, trivial, trivial, List.nodup_singleton _, trivial, trivial⟩
  refine ⟨client, created, ?_, (ownsOnce_iff created cluster steps lists).2.mpr ?_⟩
  · cases created
    decide +kernel
  · cases created
    exact ⟨trivial, fun _ => by decide +kernel, fun _ => by decide +kernel, trivial, trivial,
      trivial⟩

/-- One list that names a partition twice is added to the empty assignment of a fresh handle: it is
accepted, and the partition is owned twice. -/
theorem owned_twice_by_one_list :
    let tp : TopicPartition := { topic := "t", partition := 0 }
    let cluster := ({} : Cluster).createTopic "t" 1
    let call : ClientCall := .incrementalAssign [tp, tp]
    ∃ client, (Client.create { groupId := some "g" } "" cluster).1 = .ok client ∧
      Throughout (fun link step => step.Calls (fun _ => ClientCall.ListsOnce) link)
        ⟨client, cluster⟩ [.call call] ∧
      (call.perform ⟨client, cluster⟩).1.outcome = .ok .done ∧
      ¬(call.perform ⟨client, cluster⟩).2.client.OwnsOnce :=
  ⟨_, rfl, ⟨trivial, trivial⟩, rfl, by decide +kernel⟩

end Link

end LogConsumer
