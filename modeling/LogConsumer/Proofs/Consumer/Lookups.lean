import LogConsumer.Consumer.Offsets
import LogConsumer.Proofs.Client.Lookups
import LogConsumer.Proofs.Consumer.Gates

/-!
# Looking up positions and times through a consumer

A consumer that reads positions or looks times up hands on what its handle answers. So what holds of
the entries of an answer holds whichever way the answer came: every position is conclusive, and a
look-up of times is exactly if it asks for nothing but times, and places that are not set. The main
result is `conclusive_iff`.
-/
namespace LogConsumer

namespace Consumer

/-- What a handle does with a list, where it succeeds, is answered as the handle wrote it. -/
theorem answered_ok {client : Client} {primitive : Client.WriteBack}
    {partitions answers : List TopicPartition} {site after : Site}
    (done : (do
      match ← onHandle client (primitive partitions) with
      | (.ok (), answers) => pure answers
      | (.error error, _) => throw (.protocol error) : Action (List TopicPartition)).run site =
        (.ok answers, after)) :
    (primitive partitions ⟨client, site.cluster⟩).1 = (.ok (), answers) := by
  rw [run_bind_ok (onHandle_run client (primitive partitions) site)] at done
  rcases result : (primitive partitions ⟨client, site.cluster⟩).1 with ⟨_ | _, written⟩
  · rw [result] at done
    cases done
  · rw [result] at done
    cases done
    rfl

/-- A call that succeeds is answered as the handle wrote its list. -/
theorem callOnList_ok {client : Client} {traced : List TopicPartition → ClientCall}
    {primitive : Client.WriteBack} {partitions answers : List TopicPartition} {site after : Site}
    (done : (callOnList client traced primitive partitions).run site = (.ok answers, after)) :
    (primitive partitions ⟨client, site.cluster⟩).1 = (.ok (), answers) := by
  obtain ⟨_, _, told, done⟩ := run_bind_eq_ok done
  cases told
  have wrote := answered_ok done
  exact wrote

/-- A call that the boundary may fail, where it succeeds, is answered as the handle wrote it. -/
theorem callHookedOnList_ok {hook : Hook} {client : Client}
    {traced : List TopicPartition → ClientCall} {primitive : Client.WriteBack}
    {partitions answers : List TopicPartition} {site after : Site}
    (done : (callHookedOnList hook client traced primitive partitions).run site =
      (.ok answers, after)) :
    (primitive partitions ⟨client, site.cluster⟩).1 = (.ok (), answers) := by
  obtain ⟨_, traced, told, done⟩ := run_bind_eq_ok done
  cases told
  obtain ⟨_, hooked, passed, done⟩ := run_bind_eq_ok done
  have still : hooked.cluster = site.cluster := by
    have ran := congrArg (fun result => result.2.cluster) passed
    rw [takeHookFault_run] at ran
    exact ran.symm
  exact still ▸ answered_ok done

/-- An operation on a list that succeeds has passed the gates, and goes on from the same site. -/
theorem gated_ok {α : Type} {partitions : List TopicPartition} {rest : Client → Action α}
    {site after : Site} {answer : α}
    (done : (do
      let client ← openHandle
      requireWellFormed partitions
      rest client : Action α).run site = (.ok answer, after)) :
    ∃ client, site.consumer.connection = .connected client ∧
      (rest client).run site = (.ok answer, after) := by
  obtain ⟨client, _, passed, checks⟩ := run_bind_eq_ok done
  obtain ⟨_, _, formed, goes⟩ := run_bind_eq_ok checks
  obtain ⟨opened, connected, admitted⟩ | ⟨_, refused⟩ := openHandle_cases site
  · cases admitted.symm.trans passed
    obtain ⟨_, admitted⟩ | ⟨_, _, refused⟩ := requireWellFormed_cases partitions site
    · cases admitted.symm.trans formed
      exact ⟨client, connected, goes⟩
    · cases refused.symm.trans formed
  · cases refused.symm.trans passed

/-- Positions that a consumer reads are those that its handle answers. -/
theorem position_ok {partitions answers : List TopicPartition} {site after : Site}
    (done : (position partitions).run site = (.ok answers, after)) :
    ∃ client, site.consumer.connection = .connected client ∧
      answers = partitions.map (Client.positionOf client.assignment) := by
  obtain ⟨client, connected, called⟩ := gated_ok done
  cases callHookedOnList_ok called
  exact ⟨client, connected, rfl⟩

/-- What a consumer is answered for times is what its handle answers. -/
theorem offsetsForTimes_ok {partitions answers : List TopicPartition} {timeout : Nat}
    {site after : Site}
    (done : (offsetsForTimes partitions timeout).run site = (.ok answers, after)) :
    answers = partitions.map (Client.offsetForTime site.cluster) := by
  obtain ⟨client, _, called⟩ := gated_ok done
  obtain ⟨_, _, clamps, called⟩ := run_bind_eq_ok called
  cases clamps
  have answered := callOnList_ok called
  rw [Client.offsetsForTimes_run] at answered
  cases fault : (site.cluster.takeFault .offsetsForTimes).1 with
  | some error =>
    rw [fault] at answered
    cases answered
  | none =>
    rw [fault] at answered
    cases answered
    rfl

end Consumer

open Offset

/-- What the answers of look-ups tell, through a client or through a consumer. Positions that are
read are always conclusive: each entry of the answer has the position of its partition and no error,
or an error and no offset. A look-up of times that succeeds answers conclusively exactly if every
entry of its list asks for a time, which is an absolute offset, or has no place set: an entry with
another logical place keeps that place beside its error. -/
theorem conclusive_iff (partitions : List TopicPartition) :
    let timely := ∀ tp ∈ partitions, tp.offset.IsAbsolute ∨ tp.offset = .invalid
    (∀ link, ∃ answers,
      (ClientCall.position partitions).perform link =
        ({ outcome := .ok .done, written := some answers }, link) ∧
      answers = partitions.map (Client.positionOf link.client.assignment) ∧
      ∀ tp ∈ answers, tp.Conclusive IsAbsolute) ∧
    (∀ site after answers, (Consumer.position partitions).run site = (.ok answers, after) →
      (∃ client, site.consumer.connection = .connected client ∧
        answers = partitions.map (Client.positionOf client.assignment)) ∧
      ∀ tp ∈ answers, tp.Conclusive IsAbsolute) ∧
    (∀ link timeout, let looked := (ClientCall.offsetsForTimes partitions timeout).perform link
      ((link.cluster.takeFault .offsetsForTimes).1 = none → looked.1.outcome = .ok .done) ∧
      (looked.1.outcome = .ok .done → ∃ answers, looked.1.written = some answers ∧
        answers = partitions.map (Client.offsetForTime link.cluster) ∧
        ((∀ tp ∈ answers, tp.Conclusive fun offset => offset.IsAbsolute ∨ offset = .ending) ↔
          timely))) ∧
    (∀ site timeout after answers,
      (Consumer.offsetsForTimes partitions timeout).run site = (.ok answers, after) →
      answers = partitions.map (Client.offsetForTime site.cluster) ∧
      ((∀ tp ∈ answers, tp.Conclusive fun offset => offset.IsAbsolute ∨ offset = .ending) ↔
        timely)) := by
  intro timely
  have read (entries : List Assigned) : ∀ tp ∈ partitions.map (Client.positionOf entries),
      tp.Conclusive IsAbsolute :=
    List.forall_mem_map.mpr fun tp _ => Client.positionOf_conclusive entries tp
  have found (cluster : Cluster) : (∀ tp ∈ partitions.map (Client.offsetForTime cluster),
      tp.Conclusive fun offset => offset.IsAbsolute ∨ offset = .ending) ↔ timely := by
    rw [List.forall_mem_map]
    exact forall₂_congr fun tp _ => Client.offsetForTime_conclusive_iff cluster tp
  refine ⟨?_, ?_, ?_, ?_⟩
  · exact fun link => ⟨_, ClientCall.position_perform partitions link, rfl, read _⟩
  · intro site after answers done
    obtain ⟨client, connected, rfl⟩ := Consumer.position_ok done
    exact ⟨⟨client, connected, rfl⟩, read _⟩
  · intro link timeout looked
    have performed : looked = _ := ClientCall.offsetsForTimes_perform partitions timeout link
    rw [Client.offsetsForTimes_run] at performed
    cases fault : (link.cluster.takeFault .offsetsForTimes).1 with
    | none =>
      rw [fault] at performed
      rw [performed]
      exact ⟨fun _ => rfl, fun _ => ⟨_, rfl, rfl, found link.cluster⟩⟩
    | some error =>
      rw [fault] at performed
      rw [performed]
      exact ⟨nofun, nofun⟩
  · intro site timeout after answers done
    obtain rfl := Consumer.offsetsForTimes_ok done
    exact ⟨rfl, found site.cluster⟩

/-- A look-up of times succeeds, and the entry that asks for the beginning of a partition is
answered with an error and with the beginning. -/
theorem inconclusive_at_beginning :
    let tp : TopicPartition := { topic := "t", partition := 0, offset := .beginning }
    ∃ client cluster, Client.create { groupId := some "g" } "" (({} : Cluster).createTopic "t" 1) =
        (.ok client, cluster) ∧
      let looked := (ClientCall.offsetsForTimes [tp] 1).perform ⟨client, cluster⟩
      looked.1.outcome = .ok .done ∧ looked.1.written = some [{ tp with error := .invalidArg }] ∧
      ¬({ tp with error := .invalidArg } : TopicPartition).Conclusive
        fun offset => offset.IsAbsolute ∨ offset = .ending := by
  intro tp
  refine ⟨_, _, rfl, rfl, rfl, ?_⟩
  rintro (⟨fine, _⟩ | ⟨_, invalid⟩)
  · cases fine
  · cases invalid

end LogConsumer
