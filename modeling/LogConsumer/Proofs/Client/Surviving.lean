import LogConsumer.Proofs.Client.Pasts
import LogConsumer.Proofs.Client.Validity

/-!
# What survives a call entry by entry

A property of the entries of an assignment survives a call if it does at the five places where calls
make or change an entry (`ClientCall.Spares`): an entry is made for a partition that is named, or
for one of a topic subscribed to; its position is moved on demand; it is paused or resumed; an
offset is stored for it; or a poll inspects it. No other call touches an entry, so with these five a
property of all entries holds after a call as it did before (`ClientCall.survives_perform`). Nothing
is asked of the assignment as a whole, which may list a partition twice.
-/
namespace LogConsumer

/-- Where a call makes or changes an entry, it keeps up a property of entries. -/
structure ClientCall.Spares (sound : Assigned → Prop) (link : Link) (call : ClientCall) : Prop where
  /-- An entry that is made for a partition has the property. -/
  made : ∀ tp, tp ∈ call.descriptors ∨ tp.offset = .invalid →
    sound (Client.assignedOf link.client.settings link.cluster tp)
  /-- Moving the position to the place of a partition that is named keeps the property. -/
  moved : ∀ tp ∈ call.descriptors, ∀ entry, sound entry →
    sound { entry with
      position := Client.resolve link.client.settings link.cluster tp.key tp.offset
      endReported := false }
  /-- Pausing and resuming keep the property. -/
  paused : ∀ entry paused, sound entry → sound { entry with paused }
  /-- Storing an offset that is named keeps the property. -/
  stored : ∀ tp ∈ call.descriptors, ∀ offset, tp.offset = .absolute offset →
    ∀ entry leaderEpoch, sound entry → sound { entry with stored := some offset, leaderEpoch }
  /-- An inspection by a poll keeps the property. -/
  inspected : ∀ entry, sound entry →
    sound (Client.inspect link.cluster link.client.settings.reportsEnd entry).2

variable {sound : Assigned → Prop} {entries changed : List Assigned}

/-- What a change keeps up holds after the first entry of a partition has changed. -/
theorem Assigned.survives_updateFirst? {key : PartitionKey} {change : Assigned → Assigned}
    (still : ∀ entry, sound entry → sound (change entry))
    (found : updateFirst? key change entries = some changed)
    (held : ∀ entry ∈ entries, sound entry) : ∀ entry ∈ changed, sound entry := by
  induction entries generalizing changed with
  | nil => contradiction
  | cons head entries ih =>
    obtain ⟨here, later⟩ := List.forall_mem_cons.mp held
    unfold updateFirst? at found
    split at found
    · cases found
      exact List.forall_mem_cons.mpr ⟨still head here, later⟩
    · obtain ⟨rest, there, rfl⟩ := Option.map_eq_some_iff.mp found
      exact List.forall_mem_cons.mpr ⟨here, ih there later⟩

namespace Client

open Assigned

/-- What every visit keeps up holds after running through a list. -/
theorem survives_sweep {visit : TopicPartition → List Assigned → TopicPartition × List Assigned}
    {partitions : List TopicPartition}
    (still : ∀ tp ∈ partitions, ∀ entries, (∀ entry ∈ entries, sound entry) →
      ∀ entry ∈ (visit tp entries).2, sound entry)
    (held : ∀ entry ∈ entries, sound entry) :
    ∀ entry ∈ (sweep visit partitions entries).2, sound entry := by
  induction partitions generalizing entries with
  | nil => exact held
  | cons tp partitions ih =>
    obtain ⟨here, later⟩ := List.forall_mem_cons.mp still
    exact ih later (here entries held)

/-- What inspecting keeps up holds of entries that were passed. -/
theorem survives_passed {cluster : Cluster} {reportsEnd : Bool} {before after : List Assigned}
    (still : ∀ entry, sound entry → sound (inspect cluster reportsEnd entry).2)
    (passed : List.Forall₂ (Passed cluster reportsEnd) before after)
    (held : ∀ entry ∈ before, sound entry) : ∀ entry ∈ after, sound entry := by
  induction passed with
  | nil => exact held
  | @cons entry entry' _ _ one _ ih =>
    obtain ⟨here, later⟩ := List.forall_mem_cons.mp held
    refine List.forall_mem_cons.mpr ⟨?_, ih later⟩
    rcases one with rfl | quiet
    · exact here
    · have looked := still entry here
      rwa [quiet] at looked

/-- What inspecting keeps up holds after the assignment was served. -/
theorem survives_serve {cluster : Cluster} {client : Client}
    (still : ∀ entry, sound entry →
      sound (inspect cluster client.settings.reportsEnd entry).2)
    (held : ∀ entry ∈ client.assignment, sound entry) :
    ∀ entry ∈ (serve cluster client).2.assignment, sound entry := by
  obtain ⟨_, passed⟩ | ⟨message, before, entry, after, before', entry', after', _, whole, whole',
    looked, earlier, later⟩ := serve_cases cluster client
  · exact survives_passed still passed held
  · rw [whole] at held
    rw [whole']
    obtain ⟨sooner, now⟩ := List.forall_mem_append.mp held
    obtain ⟨here, next⟩ := List.forall_mem_cons.mp now
    have inspected := still entry here
    rw [looked] at inspected
    exact List.forall_mem_append.mpr ⟨survives_passed still earlier sooner,
      List.forall_mem_cons.mpr ⟨inspected, survives_passed still later next⟩⟩

/-- What holds of the entries made for the topics subscribed to holds after the client has joined
its group. -/
theorem survives_joined {link : Link}
    (made : ∀ tp, tp.offset = .invalid → sound (assignedOf link.client.settings link.cluster tp))
    (held : ∀ entry ∈ link.client.assignment, sound entry) :
    ∀ entry ∈ (joined link).assignment, sound entry := by
  unfold joined
  dsimp only
  split
  · intro entry inside
    obtain ⟨tp, listed, rfl⟩ := List.mem_map.mp inside
    simp only [subscribedPartitions, List.mem_flatMap, List.mem_map] at listed
    obtain ⟨_, _, _, _, rfl⟩ := listed
    exact made _ rfl
  · exact held

/-- What storing a named offset keeps up holds after an offset was stored. -/
theorem survives_storeOffset {tp : TopicPartition}
    (still : ∀ offset, tp.offset = .absolute offset → ∀ entry leaderEpoch, sound entry →
      sound { entry with stored := some offset, leaderEpoch })
    (held : ∀ entry ∈ entries, sound entry) :
    ∀ entry ∈ (storeOffset tp entries).2, sound entry := by
  unfold storeOffset
  split
  · exact held
  · exact held
  · rename_i offset _ absolute
    have placed : tp.offset = .absolute offset := by
      cases here : tp.offset <;> rw [here] at absolute <;> cases absolute
      rfl
    dsimp only
    cases found : updateFirst? tp.key
        (fun entry => { entry with
          stored := some offset, leaderEpoch := tp.leaderEpoch <|> entry.leaderEpoch })
        entries with
    | none => exact held
    | some changed =>
      exact survives_updateFirst? (fun entry => still offset placed entry _) found held

end Client

namespace ClientCall

open Client Assigned

variable {link : Link}

/-- What holds before a call and of the client that the call makes holds after it, also where the
call is refused. -/
theorem survives_ofUnit {call : ClientCall} {action : Action Unit} {primitive : Primitive}
    {client : Client} (performs : call.perform = ClientAnswer.ofUnit action)
    (outcomes : (∃ error, action.run link = (.error error, scripted primitive link)) ∨
      action.run link = (.ok (), { scripted primitive link with client }))
    (held : ∀ entry ∈ link.client.assignment, sound entry)
    (holds : ∀ entry ∈ client.assignment, sound entry) :
    ∀ entry ∈ (call.perform link).2.client.assignment, sound entry := by
  have ran : (call.perform link).2 = (action.run link).2 := by rw [performs]; rfl
  rw [ran]
  obtain ⟨_, refused⟩ | done := outcomes
  · rw [refused]
    exact held
  · rw [done]
    exact holds

/-- What moving the position keeps up holds after a seek. -/
theorem survives_seek {tp : TopicPartition} {timeout : Nat}
    (spares : (ClientCall.seek tp timeout).Spares sound link)
    (held : ∀ entry ∈ link.client.assignment, sound entry) :
    ∀ entry ∈ ((Client.seek tp).run link).2.client.assignment, sound entry := by
  unfold Client.seek
  obtain ⟨_, refused⟩ | goes := scripted_cases .seek _ link
  · rw [refused]
    exact held
  · rw [goes, run_get]
    dsimp only
    split
    · rename_i moved
      refine survives_updateFirst? (fun entry here => ?_) moved held
      have topics : (scripted .seek link).cluster.topics = link.cluster.topics := by
        rw [scripted, Cluster.takeFault_rest]
      have commits : (scripted .seek link).cluster.commits = link.cluster.commits := by
        rw [scripted, Cluster.takeFault_rest]
      rw [resolve_congr topics commits]
      exact spares.moved tp List.mem_cons_self entry here
    · exact held

/-- What storing a named offset keeps up holds after a list was stored. -/
theorem survives_storeOffsets {partitions : List TopicPartition}
    (spares : (ClientCall.storeOffsets partitions).Spares sound link)
    (held : ∀ entry ∈ link.client.assignment, sound entry) :
    ∀ entry ∈ (Client.storeOffsets partitions link).2.client.assignment, sound entry := by
  have swept : ∀ entry ∈ (sweep storeOffset partitions link.client.assignment).2, sound entry :=
    survives_sweep (fun tp listed _ => survives_storeOffset (spares.stored tp listed)) held
  unfold Client.storeOffsets
  rw [run_then, takeFault_run]
  cases (link.cluster.takeFault .offsetsStore).1 with
  | some error => exact held
  | none =>
    dsimp only
    rw [run_then]
    generalize (List.find? _ _ : Option TopicPartition) = bad
    cases bad <;> exact swept

/-- What inspecting keeps up, and what holds of the entries made, holds after a poll. -/
theorem survives_poll {timeout : Nat} (spares : (ClientCall.poll timeout).Spares sound link)
    (held : ∀ entry ∈ link.client.assignment, sound entry) :
    ∀ entry ∈ (Client.poll timeout link).2.client.assignment, sound entry := by
  obtain ⟨_, _, result⟩ | ⟨_, _, result⟩ | ⟨_, _, result⟩ := poll_cases timeout link <;> rw [result]
  · exact held
  · exact held
  · have topics : (counted link.cluster timeout).topics = link.cluster.topics := by
      rw [counted_rest]
    have commits : (counted link.cluster timeout).commits = link.cluster.commits := by
      rw [counted_rest]
    refine survives_serve (fun entry here => ?_) (survives_joined (fun tp nowhere => ?_) held)
    · rw [joined_settings, inspect_congr topics]
      exact spares.inspected entry here
    · rw [assignedOf, resolve_congr topics commits]
      exact spares.made tp (.inr nowhere)

/-- A property that a call spares holds of every entry after the call, if it did before it. -/
theorem survives_perform {call : ClientCall} (spares : call.Spares sound link)
    (held : ∀ entry ∈ link.client.assignment, sound entry) :
    ∀ entry ∈ (call.perform link).2.client.assignment, sound entry := by
  have whenSpared (spared : call.SparesClient) :
      ∀ entry ∈ (call.perform link).2.client.assignment, sound entry := by
    have kept : Keeps Link.client call.perform :=
      keeps_of_sparesClient (fun _ _ => rfl) (fun _ _ => rfl) spared
    rw [kept link]
    exact held
  have made {partitions : List TopicPartition} (listed : partitions = call.descriptors) :
      ∀ entry ∈ assignedOfList link partitions, sound entry := by
    intro entry inside
    obtain ⟨tp, named, rfl⟩ := List.mem_map.mp inside
    exact spares.made tp (.inl (listed ▸ named))
  have pausing (paused : Bool) (partitions : List TopicPartition) :
      ∀ entry ∈ (sweep (setPaused paused) partitions link.client.assignment).2, sound entry := by
    refine survives_sweep (fun tp _ entries held => ?_) held
    obtain ⟨_, changed, found, result⟩ | ⟨_, result⟩ := setPaused_cases paused tp entries <;>
      rw [result]
    · exact survives_updateFirst? (fun entry => spares.paused entry paused) found held
    · exact held
  cases call with
  | close => exact List.forall_mem_nil _
  | unsubscribe => exact List.forall_mem_nil _
  | subscribe topics =>
    exact survives_ofUnit rfl ((subscribe_cases topics link).imp_right And.right) held
      (List.forall_mem_nil _)
  | assign partitions =>
    exact survives_ofUnit rfl ((assign_cases partitions link).imp And.right And.right) held
      (made rfl)
  | unassign => exact survives_ofUnit rfl (unassign_cases link) held (List.forall_mem_nil _)
  | incrementalAssign partitions =>
    exact survives_ofUnit rfl
      ((incrementalAssign_cases partitions link).imp_right fun placed => placed.2.2) held
      (List.forall_mem_append.mpr ⟨held, made rfl⟩)
  | incrementalUnassign partitions =>
    exact survives_ofUnit rfl (incrementalUnassign_cases partitions link) held
      fun entry left => held entry (List.mem_of_mem_filter left)
  | seek tp timeout => exact survives_seek spares held
  | pause partitions => exact pausing true partitions
  | resume partitions => exact pausing false partitions
  | storeOffsets partitions => exact survives_storeOffsets spares held
  | poll timeout => exact survives_poll spares held
  | _ => exact whenSpared trivial

end ClientCall

end LogConsumer
