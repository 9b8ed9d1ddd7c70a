import LogConsumer.Proofs.Client.Committing

/-!
# Storing a list of offsets

A call that stores a list of offsets goes through the list entry by entry. An entry is good if its
partition is assigned and its offset is absolute; every good entry is stored, also where the call
fails because of another. So what a list leaves in the assignment is told partition by partition
(`Assigned.withStored`): the last absolute offset that it gives, and the last leader epoch that
comes with one. The main result is `storeOffsets_entrywise`.
-/
namespace LogConsumer

/-- The last leader epoch that a list gives for a partition together with an absolute offset. -/
def TopicPartition.lastEpoch? (key : PartitionKey) (partitions : List TopicPartition) :
    Option Int :=
  ((partitions.filter fun tp => tp.key = key ∧ tp.offset.absolute?.isSome = true).filterMap
    fun tp => tp.leaderEpoch).getLast?

open TopicPartition

namespace TopicPartition

/-- The last of what a longer list gives is what the rest of it gives last, or what its head
gives. -/
private theorem getLast?_filterMap_cons {α β : Type} (gives : α → Option β) (head : α)
    (rest : List α) :
    ((head :: rest).filterMap gives).getLast? =
      (rest.filterMap gives).getLast?.or (gives head) := by
  rw [List.filterMap_cons]
  cases gives head with
  | none => rw [Option.or_none]
  | some value =>
    rw [List.getLast?_cons]
    cases (rest.filterMap gives).getLast? <;> rfl

/-- The last absolute offset of a longer list is that of the rest of it, or that of its head. -/
theorem lastAbsolute?_cons (key : PartitionKey) (tp : TopicPartition)
    (partitions : List TopicPartition) :
    lastAbsolute? key (tp :: partitions) =
      (lastAbsolute? key partitions).or (if tp.key = key then tp.offset.absolute? else none) := by
  unfold lastAbsolute?
  by_cases here : tp.key = key
  · rw [List.filter_cons_of_pos (by simpa using here), getLast?_filterMap_cons, if_pos here]
  · rw [List.filter_cons_of_neg (by simpa using here), if_neg here, Option.or_none]

/-- The last leader epoch of a longer list is that of the rest of it, or that of its head. -/
theorem lastEpoch?_cons (key : PartitionKey) (tp : TopicPartition)
    (partitions : List TopicPartition) :
    lastEpoch? key (tp :: partitions) =
      (lastEpoch? key partitions).or
        (if tp.key = key ∧ tp.offset.absolute?.isSome = true then tp.leaderEpoch else none) := by
  unfold lastEpoch?
  by_cases good : tp.key = key ∧ tp.offset.absolute?.isSome = true
  · rw [List.filter_cons_of_pos (by simpa using good), getLast?_filterMap_cons, if_pos good]
  · rw [List.filter_cons_of_neg (by simpa using good), if_neg good, Option.or_none]

end TopicPartition

namespace Assigned

/-- The entry with what a list stores for it: the last absolute offset that the list gives for its
partition, and the last leader epoch that comes with one. -/
def withStored (partitions : List TopicPartition) (entry : Assigned) : Assigned :=
  { entry with
    stored := (lastAbsolute? entry.key partitions).or entry.stored
    leaderEpoch := (lastEpoch? entry.key partitions).or entry.leaderEpoch }

/-- A list stores what its head stores, and then what the rest of it stores. -/
theorem withStored_cons (tp : TopicPartition) (partitions : List TopicPartition)
    (entry : Assigned) :
    entry.withStored (tp :: partitions) = (entry.withStored [tp]).withStored partitions := by
  have key : (entry.withStored [tp]).key = entry.key := rfl
  unfold withStored at key ⊢
  rw [key]
  simp only [lastAbsolute?_cons, lastEpoch?_cons, Option.or_assoc]
  rfl

/-- What is stored for one partition changes the entry of that partition only. -/
theorem withStored_singleton (tp : TopicPartition) (entry : Assigned) :
    entry.withStored [tp] =
      match tp.offset.absolute? with
      | some offset =>
        if entry.key = tp.key then
          { entry with stored := some offset, leaderEpoch := tp.leaderEpoch.or entry.leaderEpoch }
        else entry
      | none => entry := by
  unfold withStored
  rw [lastAbsolute?_cons, lastEpoch?_cons]
  by_cases own : entry.key = tp.key
  · cases tp.offset.absolute? <;> simp [own, lastAbsolute?, lastEpoch?]
  · cases tp.offset.absolute? <;> simp [own, Ne.symm own, lastAbsolute?, lastEpoch?]

/-- A list that gives no absolute offset for a partition stores nothing for it. -/
theorem withStored_of_placeless {partitions : List TopicPartition} {entry : Assigned}
    (placeless : ∀ tp ∈ partitions, tp.key = entry.key → tp.offset.absolute? = none) :
    entry.withStored partitions = entry := by
  have noOffset : lastAbsolute? entry.key partitions = none := by
    rw [lastAbsolute?, List.getLast?_eq_none_iff, List.filterMap_eq_nil_iff]
    intro tp inside
    obtain ⟨listed, own⟩ := List.mem_filter.mp inside
    exact placeless tp listed (of_decide_eq_true own)
  have noEpoch : lastEpoch? entry.key partitions = none := by
    have nothing : partitions.filter (fun tp =>
        tp.key = entry.key ∧ tp.offset.absolute?.isSome = true) = [] := by
      rw [List.filter_eq_nil_iff]
      intro tp listed good
      obtain ⟨own, absolute⟩ := of_decide_eq_true good
      rw [placeless tp listed own] at absolute
      contradiction
    rw [lastEpoch?, nothing]
    rfl
  rw [withStored, noOffset, noEpoch]
  rfl

/-- Where no partition repeats, a change to the first entry of a partition that is assigned is a
change to every entry of it. -/
theorem updateFirst?_eq_map {key : PartitionKey} (change : Assigned → Assigned)
    {entries : List Assigned} (distinct : (entries.map Assigned.key).Nodup)
    (assigned : key ∈ entries.map Assigned.key) :
    updateFirst? key change entries =
      some (entries.map fun entry => if entry.key = key then change entry else entry) := by
  induction entries with
  | nil => contradiction
  | cons entry entries ih =>
    rw [List.map_cons, List.nodup_cons] at distinct
    rw [updateFirst?, List.map_cons]
    by_cases here : entry.key = key
    · have others : entries.map (fun entry => if entry.key = key then change entry else entry) =
          entries := by
        refine (List.map_congr_left fun other inside => if_neg fun same => ?_).trans
          (List.map_id entries)
        exact distinct.1 (here ▸ same ▸ List.mem_map_of_mem inside)
      rw [if_pos here, if_pos here, others]
    · have later : key ∈ entries.map Assigned.key :=
        (List.mem_cons.mp assigned).resolve_left (Ne.symm here)
      rw [if_neg here, if_neg here, ih distinct.2 later]
      rfl

end Assigned

namespace Client

open Assigned

/-- What storing a list answers for an entry of the list: its partition must be assigned, and its
offset absolute. -/
def storeVerdict (entries : List Assigned) (tp : TopicPartition) : ErrorCode :=
  if tp.key ∉ entries.map Assigned.key then .unknownPartition
  else if tp.offset.absolute? = none then .invalidArg
  else .noError

/-- An entry of a list is stored exactly if its partition is assigned and its offset absolute. -/
theorem storeVerdict_eq_noError {entries : List Assigned} {tp : TopicPartition} :
    storeVerdict entries tp = .noError ↔
      tp.key ∈ entries.map Assigned.key ∧ tp.offset.absolute?.isSome = true := by
  unfold storeVerdict
  by_cases assigned : tp.key ∈ entries.map Assigned.key <;>
    cases tp.offset.absolute? <;> simp [assigned]

/-- An entry that is not stored tells a partition that is not assigned from a place that is not
absolute. -/
theorem storeVerdict_of_bad {entries : List Assigned} {tp : TopicPartition}
    (bad : ¬(tp.key ∈ entries.map Assigned.key ∧ tp.offset.absolute?.isSome = true)) :
    storeVerdict entries tp =
      if tp.key ∈ entries.map Assigned.key then .invalidArg else .unknownPartition := by
  unfold storeVerdict
  by_cases assigned : tp.key ∈ entries.map Assigned.key
  · have placeless : tp.offset.absolute? = none :=
      Option.not_isSome_iff_eq_none.mp fun absolute => bad ⟨assigned, absolute⟩
    rw [if_neg (not_not_intro assigned), if_pos placeless, if_pos assigned]
  · rw [if_pos assigned, if_neg assigned]

/-- Storing changes no key. -/
theorem map_withStored_key (partitions : List TopicPartition) (entries : List Assigned) :
    (entries.map (withStored partitions)).map Assigned.key = entries.map Assigned.key := by
  rw [List.map_map]
  rfl

/-- Storing the offset of one entry answers with its verdict and stores what the entry gives. -/
theorem storeOffset_eq {entries : List Assigned} (distinct : (entries.map Assigned.key).Nodup)
    (tp : TopicPartition) :
    storeOffset tp entries =
      ({ tp with error := storeVerdict entries tp }, entries.map (withStored [tp])) := by
  -- Where nothing is stored, every entry stays as it is.
  have unstored (same : ∀ entry ∈ entries, withStored [tp] entry = entry) :
      entries.map (withStored [tp]) = entries :=
    (List.map_congr_left same).trans (List.map_id entries)
  unfold storeOffset storeVerdict
  by_cases assigned : tp.key ∈ entries.map Assigned.key
  · obtain ⟨entry, found⟩ : ∃ entry, find? entries tp.key = some entry :=
      Option.ne_none_iff_exists'.mp fun missing => find?_eq_none_iff.mp missing assigned
    rw [found, if_neg (not_not_intro assigned)]
    cases place : tp.offset.absolute? with
    | none =>
      rw [unstored fun entry _ => by rw [withStored_singleton, place]]
      simp
    | some offset =>
      dsimp only
      rw [updateFirst?_eq_map _ distinct assigned, Option.getD_some, if_neg nofun]
      refine Prod.ext rfl (List.map_congr_left fun entry _ => ?_)
      rw [withStored_singleton, place]
      cases tp.leaderEpoch <;> rfl
  · rw [find?_eq_none_iff.mpr assigned, if_pos assigned]
    rw [unstored fun entry inside => withStored_of_placeless fun named listed same => ?_]
    obtain rfl := List.mem_singleton.mp listed
    exact absurd (same ▸ List.mem_map_of_mem inside) assigned

/-- Running through a list answers each entry with its own verdict, and stores for each partition
what the whole list gives for it. -/
theorem sweep_storeOffset {entries : List Assigned}
    (distinct : (entries.map Assigned.key).Nodup) (partitions : List TopicPartition) :
    sweep storeOffset partitions entries =
      (partitions.map fun tp => { tp with error := storeVerdict entries tp },
        entries.map (withStored partitions)) := by
  induction partitions generalizing entries with
  | nil => exact Prod.ext rfl (List.map_id entries).symm
  | cons tp partitions ih =>
    have keys := map_withStored_key [tp] entries
    have verdicts (other : TopicPartition) :
        storeVerdict (entries.map (withStored [tp])) other = storeVerdict entries other := by
      rw [storeVerdict, keys]
      rfl
    have twice : entries.map (withStored (tp :: partitions)) =
        (entries.map (withStored [tp])).map (withStored partitions) := by
      rw [List.map_map]
      exact List.map_congr_left fun entry _ => withStored_cons tp partitions entry
    rw [sweep, storeOffset_eq distinct]
    dsimp only
    rw [ih (keys ▸ distinct), twice]
    simp only [verdicts, List.map_cons]

/-- Storing a list that is scripted to fail leaves the list as it came and stores nothing. -/
theorem storeOffsets_refused {link : Link} {error : ClientError}
    (fault : (link.cluster.takeFault .offsetsStore).1 = some error)
    (partitions : List TopicPartition) :
    storeOffsets partitions link = ((.error error, partitions), scripted .offsetsStore link) := by
  unfold storeOffsets
  rw [run_then, takeFault_error fault]
  rfl

/-- Storing a list, where that is let through, answers with the first verdict that is an error, with
every verdict in its entry, and with what the list gives stored. -/
theorem storeOffsets_run {link : Link} (once : (link.client.assignment.map Assigned.key).Nodup)
    (unscripted : (link.cluster.takeFault .offsetsStore).1 = none)
    (partitions : List TopicPartition) :
    storeOffsets partitions link =
      (((match partitions.find? fun tp =>
            storeVerdict link.client.assignment tp ≠ .noError with
          | some tp => .error (.ofCode (storeVerdict link.client.assignment tp))
          | none => .ok ()),
        partitions.map fun tp =>
          { tp with error := storeVerdict link.client.assignment tp }),
        { scripted .offsetsStore link with client := { link.client with
          assignment := link.client.assignment.map (withStored partitions) } }) := by
  have swept : sweepAssignment storeOffset partitions (scripted .offsetsStore link) =
      ((sweep storeOffset partitions link.client.assignment).1,
        { scripted .offsetsStore link with client := { link.client with
          assignment := (sweep storeOffset partitions link.client.assignment).2 } }) := rfl
  unfold storeOffsets
  rw [run_then, takeFault_ok unscripted]
  dsimp only
  rw [run_then, swept, sweep_storeOffset once]
  dsimp only
  rw [List.find?_map]
  have verdicts : ((fun tp : TopicPartition => tp.error.isError) ∘ fun tp : TopicPartition =>
      { tp with error := storeVerdict link.client.assignment tp }) =
      fun tp => decide (storeVerdict link.client.assignment tp ≠ .noError) := rfl
  rw [verdicts]
  cases partitions.find? fun tp => storeVerdict link.client.assignment tp ≠ .noError <;> rfl

end Client

namespace ClientCall

open Client Assigned

/-- Storing a list answers with its outcome and the list written back. -/
theorem storeOffsets_perform (partitions : List TopicPartition) (link : Link) :
    (ClientCall.storeOffsets partitions).perform link =
      ({ outcome := (Client.storeOffsets partitions link).1.1.map fun _ => .done
         written := some (Client.storeOffsets partitions link).1.2 },
        (Client.storeOffsets partitions link).2) :=
  rfl

/-- No partition is assigned twice, and the call is not scripted to fail. Then storing a list
succeeds exactly if every entry of it is good: its partition is assigned and its offset absolute.
Otherwise the call fails with the code of the first entry that is not good, which tells a partition
that is not assigned from a place that is not absolute. In both cases every entry of the list is
written back with its own verdict, and every good one is applied: the stored offset of a partition
is the last that is given for it, and its leader epoch the last that comes with one. Nothing else
of an entry changes, an entry for which no good one is listed does not change at all, nothing is
committed, and the call uses up its scripted outcome and no more. -/
theorem storeOffsets_entrywise {link : Link}
    (once : (link.client.assignment.map Assigned.key).Nodup)
    (unscripted : (link.cluster.takeFault .offsetsStore).1 = none)
    (partitions : List TopicPartition) :
    let entries := link.client.assignment
    let called := (ClientCall.storeOffsets partitions).perform link
    let good := fun tp : TopicPartition =>
      tp.key ∈ entries.map Assigned.key ∧ tp.offset.absolute?.isSome = true
    (called.1.outcome = .ok .done ↔ ∀ tp ∈ partitions, good tp) ∧
    (∀ sooner bad later, partitions = sooner ++ bad :: later → (∀ tp ∈ sooner, good tp) →
      ¬good bad → called.1.outcome = .error (.ofCode
        (if bad.key ∈ entries.map Assigned.key then .invalidArg else .unknownPartition))) ∧
    called.1.written =
      some (partitions.map fun tp => { tp with error := storeVerdict entries tp }) ∧
    called.2 = { scripted .offsetsStore link with client := { link.client with
      assignment := entries.map (withStored partitions) } } ∧
    (∀ entry ∈ entries, (∀ tp ∈ partitions, tp.key = entry.key → ¬good tp) →
      entry.withStored partitions = entry) ∧
    (∀ group key, called.2.cluster.committed? group key = link.cluster.committed? group key) ∧
    (link.cluster.script .offsetsStore = [] → called.2.cluster = link.cluster) := by
  intro entries called good
  have performed : called = _ := storeOffsets_perform partitions link
  rw [storeOffsets_run once unscripted partitions] at performed
  have after : called.2 = { scripted .offsetsStore link with client := { link.client with
      assignment := entries.map (withStored partitions) } } := congrArg Prod.snd performed
  have cluster : called.2.cluster = (scripted .offsetsStore link).cluster := by rw [after]
  have outcome : called.1.outcome =
      match partitions.find? fun tp => storeVerdict entries tp ≠ .noError with
      | some tp => .error (.ofCode (storeVerdict entries tp))
      | none => .ok .done := by
    rw [performed]
    cases partitions.find? fun tp => storeVerdict entries tp ≠ .noError <;> rfl
  refine ⟨?_, ?_, ?_, after, ?_, ?_, ?_⟩
  · rw [outcome]
    cases first : partitions.find? fun tp => storeVerdict entries tp ≠ .noError with
    | none =>
      refine iff_of_true rfl fun tp inside => storeVerdict_eq_noError.mp ?_
      simpa using List.find?_eq_none.mp first tp inside
    | some bad =>
      have listed : bad ∈ partitions := List.mem_of_find?_eq_some first
      have wrong : storeVerdict entries bad ≠ .noError := by simpa using List.find?_some first
      exact iff_of_false nofun fun all => wrong (storeVerdict_eq_noError.mpr (all bad listed))
  · intro sooner bad later split fine wrong
    have first : partitions.find? (fun tp => storeVerdict entries tp ≠ .noError) = some bad := by
      rw [List.find?_eq_some_iff_append]
      refine ⟨?_, sooner, later, split, fun tp inside => ?_⟩
      · simpa using mt storeVerdict_eq_noError.mp wrong
      · simpa using storeVerdict_eq_noError.mpr (fine tp inside)
    rw [outcome, first, ← storeVerdict_of_bad wrong]
  · rw [performed]
  · intro entry inside ungood
    refine withStored_of_placeless fun tp listed own => ?_
    have assigned : tp.key ∈ entries.map Assigned.key := own ▸ List.mem_map_of_mem inside
    refine Option.not_isSome_iff_eq_none.mp fun absolute => ?_
    exact ungood tp listed own ⟨assigned, absolute⟩
  · intro group key
    rw [cluster]
    exact committed?_scripted .offsetsStore link group key
  · intro silent
    rw [cluster, scripted_of_unscripted silent]

/-- The first bad entry of a list names a partition that is not assigned, and so the call fails; but
of the entries after it those are stored that are good. The partition that is listed twice ends
with its last offset and with the epoch that came with its first, and the other one, for which no
absolute offset is given, as it was. -/
theorem storeOffsets_entrywise_failed :
    let tp (partition : Int) (offset : Offset) (leaderEpoch : Option Int) : TopicPartition :=
      { topic := "orders", partition, offset, leaderEpoch }
    let entry (partition : Int) (stored leaderEpoch : Option Int) : Assigned :=
      { topic := "orders", partition, position := 4, stored, leaderEpoch, paused := true }
    let client : Client :=
      { name := "reader", serial := 1, settings := .ofConfig {}
        assignment := [entry 0 none none, entry 1 (some 2) (some 6)] }
    let list := [tp 0 (.absolute 5) (some 3), tp 2 (.absolute 1) none, tp 0 .ending (some 8),
      tp 0 (.absolute 7) none, tp 1 .stored (some 9)]
    let called := (ClientCall.storeOffsets list).perform ⟨client, {}⟩
    (client.assignment.map Assigned.key).Nodup ∧
    (({} : Cluster).takeFault .offsetsStore).1 = none ∧
    called.1.outcome = .error (.ofCode .unknownPartition) ∧
    called.2.client.assignment = [entry 0 (some 7) (some 3), entry 1 (some 2) (some 6)] ∧
    called.2.cluster = {} := by
  intro tp entry client list called
  have once : (client.assignment.map Assigned.key).Nodup := by decide
  have unscripted : (({} : Cluster).takeFault .offsetsStore).1 = none := rfl
  obtain ⟨_, failed, _, after, _, _, silent⟩ :=
    @storeOffsets_entrywise ⟨client, {}⟩ once unscripted list
  refine ⟨once, unscripted, ?_, ?_, silent rfl⟩
  · refine failed [tp 0 (.absolute 5) (some 3)] (tp 2 (.absolute 1) none) _ rfl ?_ ?_ <;> decide
  · have stored : called.2.client.assignment = client.assignment.map (Assigned.withStored list) :=
      congrArg (fun link => link.client.assignment) after
    exact stored.trans (by decide)

end ClientCall

end LogConsumer
