import LogConsumer.Proofs.Client.Placement

/-!
# Committing a list and looking it up

A commit of a list takes the entries that have an absolute offset, in order, so for each partition
the last of them counts (`TopicPartition.lastAbsolute?`), and the entries without one are passed
over. A look-up answers, entry by entry, with what the group of the asking client has committed.
The main result, `committed_of_commit`, puts the two together: what a look-up answers after a commit
is what the list said last, or what was committed before.
-/
namespace LogConsumer

/-- The last absolute offset that a list gives for a partition. -/
def TopicPartition.lastAbsolute? (key : PartitionKey) (partitions : List TopicPartition) :
    Option Int :=
  ((partitions.filter fun tp => tp.key = key).filterMap fun tp => tp.offset.absolute?).getLast?

open TopicPartition

namespace Client

/-- There is nothing to commit of a list exactly if no entry of it has an absolute offset. -/
theorem absoluteOffsets_eq_nil {partitions : List TopicPartition} :
    absoluteOffsets partitions = [] ↔ ∀ tp ∈ partitions, tp.offset.absolute? = none := by
  simp [absoluteOffsets, List.filterMap_eq_nil_iff]

/-- The first absolute offset that a list gives for a partition is found as the first of the
partition among those that a commit takes. -/
theorem lookup_absoluteOffsets (key : PartitionKey) (partitions : List TopicPartition) :
    (absoluteOffsets partitions).lookup key =
      ((partitions.filter fun tp => tp.key = key).filterMap
        fun tp => tp.offset.absolute?).head? := by
  induction partitions with
  | nil => rfl
  | cons tp partitions ih =>
    unfold absoluteOffsets at ih ⊢
    rw [List.filterMap_cons]
    by_cases here : tp.key = key
    · rw [List.filter_cons_of_pos (by simpa using here), List.filterMap_cons]
      cases tp.offset.absolute? with
      | none => exact ih
      | some offset => simp [here]
    · rw [List.filter_cons_of_neg (by simpa using here)]
      cases tp.offset.absolute? with
      | none => exact ih
      | some offset => simpa [List.lookup_cons, beq_false_of_ne (Ne.symm here)] using ih

/-- The last of a partition among the offsets that a commit takes is the last absolute one that the
list gives for it. -/
theorem lookup_reverse_absoluteOffsets (key : PartitionKey) (partitions : List TopicPartition) :
    (absoluteOffsets partitions).reverse.lookup key = lastAbsolute? key partitions := by
  have reversed : (absoluteOffsets partitions).reverse = absoluteOffsets partitions.reverse :=
    List.filterMap_reverse.symm
  rw [reversed, lookup_absoluteOffsets, List.filter_reverse, List.filterMap_reverse,
    List.head?_reverse]
  rfl

/-- A call for which nothing is scripted uses nothing up. -/
theorem scripted_of_unscripted {primitive : Primitive} {link : Link}
    (unscripted : link.cluster.script primitive = []) : scripted primitive link = link := by
  unfold scripted Cluster.takeFault
  rw [unscripted]

/-- A look-up of a client with a group, where it is let through, answers every entry with what the
group has committed for its partition. -/
theorem committed_run {link : Link} {group : String}
    (grouped : link.client.settings.group = some group)
    (unscripted : (link.cluster.takeFault .committed).1 = none) (asked : List TopicPartition) :
    committed asked link =
      ((.ok (), asked.map fun tp => { tp with
        offset := ((link.cluster.committed? group tp.key).map Offset.absolute).getD .invalid }),
        scripted .committed link) := by
  have grouped' : requireGroup.run (scripted .committed link) =
      (.ok group, scripted .committed link) := requireGroup_run grouped
  have goes : (do takeFault .committed; requireGroup : Action String).run link =
      (.ok group, scripted .committed link) := (scripted_run unscripted).trans grouped'
  have same (tp : TopicPartition) :
      committedOffset (scripted .committed link).cluster group tp.key =
        ((link.cluster.committed? group tp.key).map Offset.absolute).getD .invalid := by
    rw [committedOffset, committed?_scripted]
  unfold committed
  rw [run_then, goes]
  dsimp only
  rw [run_read]
  simp only [same]
  rfl

/-- Committing a list leaves for each partition, for the group it commits for, the last absolute
offset of the list, and for any other group what was committed. -/
theorem committed?_absoluteOffsets (cluster : Cluster) (group other : String)
    (partitions : List TopicPartition) (key : PartitionKey) :
    (cluster.commitAll group (absoluteOffsets partitions)).committed? other key =
      if other = group then (lastAbsolute? key partitions).or (cluster.committed? group key)
      else cluster.committed? other key := by
  by_cases own : other = group
  · rw [if_pos own, own, Cluster.committed?_commitAll_own, lookup_reverse_absoluteOffsets]
  · rw [if_neg own, Cluster.committed?_commitAll (Ne.symm own)]

/-- Committing what the entries of an assignment without repeats have stored leaves for each
partition, for the group it commits for, what its entry has stored, or else what was committed, and
for any other group what was committed. -/
theorem committed?_assigned {entries : List Assigned} (once : (entries.map Assigned.key).Nodup)
    (cluster : Cluster) (group other : String) (key : PartitionKey) :
    (cluster.commitAll group (storedOffsets entries)).committed? other key =
      if other = group then
        ((Assigned.find? entries key).bind Assigned.stored).or (cluster.committed? group key)
      else cluster.committed? other key := by
  by_cases own : other = group
  · rw [if_pos own, own, Cluster.committed?_storedOffsets, Assigned.ofPartition_eq_toList once]
    cases Assigned.find? entries key with
    | none => rfl
    | some entry => cases stored : entry.stored <;> simp [stored]
  · rw [if_neg own, Cluster.committed?_commitAll (Ne.symm own)]

end Client

namespace ClientCall

open Client

/-- A commit answers with its outcome alone. -/
theorem commit_perform (partitions : Option (List TopicPartition)) (mode : CommitMode)
    (link : Link) :
    (ClientCall.commit partitions mode).perform link =
      ({ outcome := ((Client.commit partitions).run link).1.map fun _ => .done },
        ((Client.commit partitions).run link).2) :=
  rfl

/-- A look-up answers with its outcome and the list written back. -/
theorem committed_perform (asked : List TopicPartition) (timeout : Nat) (link : Link) :
    (ClientCall.committed asked timeout).perform link =
      ({ outcome := (Client.committed asked link).1.1.map fun _ => .done
         written := some (Client.committed asked link).1.2 },
        (Client.committed asked link).2) :=
  rfl

/-- A commit of a list that is let through succeeds exactly if some entry of the list has an
absolute offset. -/
theorem commit_outcome {link : Link} {group : String}
    (grouped : link.client.settings.group = some group)
    (unscripted : (link.cluster.takeFault .commit).1 = none) (partitions : List TopicPartition)
    (mode : CommitMode) :
    ((ClientCall.commit (some partitions) mode).perform link).1.outcome =
      if ∃ tp ∈ partitions, tp.offset.absolute?.isSome = true then .ok .done
      else .error (.ofCode .noOffset) := by
  have nothing : absoluteOffsets partitions = [] ↔
      ¬∃ tp ∈ partitions, tp.offset.absolute?.isSome = true := by
    simp [absoluteOffsets_eq_nil]
  have pending : pendingOffsets (some partitions) link.client.assignment =
      absoluteOffsets partitions := rfl
  rw [commit_perform, commit_run (some partitions) grouped unscripted, pending]
  by_cases some : ∃ tp ∈ partitions, tp.offset.absolute?.isSome = true
  · rw [if_neg (mt nothing.mp (not_not_intro some)), if_pos some]
    rfl
  · rw [if_pos (nothing.mpr some), if_neg some]
    rfl

/-- A commit that fails uses up its scripted outcome, and one that succeeds commits what there is to
commit for the group of the client besides. -/
theorem commit_after {link : Link} {group : String}
    (grouped : link.client.settings.group = some group)
    (partitions : Option (List TopicPartition)) (mode : CommitMode) :
    let called := (ClientCall.commit partitions mode).perform link
    (∀ error, called.1.outcome = .error error → called.2 = scripted .commit link) ∧
    (called.1.outcome = .ok .done → called.2 = { scripted .commit link with
      cluster := (scripted .commit link).cluster.commitAll group
        (pendingOffsets partitions link.client.assignment) }) := by
  intro called
  have performed : called = _ := commit_perform partitions mode link
  obtain ⟨_, refused⟩ | ⟨own, grouped', done⟩ := commit_cases partitions link
  · rw [performed, refused]
    exact ⟨fun _ _ => rfl, nofun⟩
  · obtain rfl : own = group := Option.some.inj (grouped'.symm.trans grouped)
    rw [performed, done]
    exact ⟨nofun, fun _ => rfl⟩

/-- A commit without a list by a client that owns nothing twice, unless it is scripted to fail,
succeeds exactly if some entry has a stored offset, and fails for want of one otherwise. It leaves
for each partition, for the group of the client, what its entry has stored, or what was committed
before where that is nothing; and it changes neither the client nor what others have committed. -/
theorem commit_assigned {link : Link} {group : String}
    (grouped : link.client.settings.group = some group)
    (unscripted : (link.cluster.takeFault .commit).1 = none)
    (once : (link.client.assignment.map Assigned.key).Nodup) (mode : CommitMode) :
    let called := (ClientCall.commit none mode).perform link
    (called.1.outcome =
      if ∃ entry ∈ link.client.assignment, entry.stored ≠ none then .ok .done
      else .error (.ofCode .noOffset)) ∧
    called.2.client = link.client ∧
    ∀ other key, called.2.cluster.committed? other key =
      if other = group then
        ((Assigned.find? link.client.assignment key).bind Assigned.stored).or
          (link.cluster.committed? group key)
      else link.cluster.committed? other key := by
  intro called
  have performed : called = _ := commit_perform none mode link
  have pending : pendingOffsets none link.client.assignment =
      storedOffsets link.client.assignment := rfl
  rw [commit_run none grouped unscripted, pending] at performed
  refine ⟨?_, by rw [performed], fun other key => ?_⟩
  · rw [performed]
    by_cases some : ∃ entry ∈ link.client.assignment, entry.stored ≠ none
    · rw [if_pos some, if_neg (by simpa [storedOffsets_eq_nil] using some)]
      rfl
    · rw [if_neg some, if_pos (by simpa [storedOffsets_eq_nil] using some)]
      rfl
  · rw [performed]
    dsimp only
    rw [committed?_assigned once, committed?_scripted, committed?_scripted]

/-- A commit of a list by a client with a group, unless it is scripted to fail, succeeds exactly if
some entry of the list has an absolute offset, and fails for want of one otherwise; a commit that
fails changes nothing. After one that succeeds the group has committed for every partition the last
absolute offset that the list gives for it, or what it had committed before where there is none, and
no other group has committed anything else; and any client of the group is answered just that for
every entry it looks up, which is otherwise written back as it came, while nothing changes. A call
uses up its scripted outcome, and no more than that. -/
theorem committed_of_commit {link : Link} {group : String}
    (grouped : link.client.settings.group = some group) (partitions : List TopicPartition)
    (mode : CommitMode) :
    let called := (ClientCall.commit (some partitions) mode).perform link
    let left := fun key => (lastAbsolute? key partitions).or (link.cluster.committed? group key)
    ((link.cluster.takeFault .commit).1 = none →
      called.1.outcome =
        if ∃ tp ∈ partitions, tp.offset.absolute?.isSome = true then .ok .done
        else .error (.ofCode .noOffset)) ∧
    (∀ error, called.1.outcome = .error error →
      called.2 = scripted .commit link ∧ (link.cluster.script .commit = [] → called.2 = link)) ∧
    (called.1.outcome = .ok .done →
      called.2 = { scripted .commit link with
        cluster := { (scripted .commit link).cluster with commits := called.2.cluster.commits } } ∧
      (∀ other key, called.2.cluster.committed? other key =
        if other = group then left key else link.cluster.committed? other key) ∧
      ∀ reader : Client, reader.settings.group = some group →
        (called.2.cluster.takeFault .committed).1 = none → ∀ asked timeout,
          let reading : Link := ⟨reader, called.2.cluster⟩
          let looked := (ClientCall.committed asked timeout).perform reading
          looked.1.outcome = .ok .done ∧
          looked.1.written = some (asked.map fun tp =>
            { tp with offset := ((left tp.key).map Offset.absolute).getD .invalid }) ∧
          looked.2 = scripted .committed reading ∧
          (called.2.cluster.script .committed = [] → looked.2 = reading)) := by
  intro called left
  obtain ⟨whenFailed, whenDone⟩ := commit_after grouped (some partitions) mode
  refine ⟨fun unscripted => commit_outcome grouped unscripted partitions mode, ?_, ?_⟩
  · intro error failed
    have same : called.2 = scripted .commit link := whenFailed error failed
    exact ⟨same, fun silent => same.trans (scripted_of_unscripted silent)⟩
  · intro succeeded
    have after : called.2 = { scripted .commit link with
        cluster := (scripted .commit link).cluster.commitAll group (absoluteOffsets partitions) } :=
      whenDone succeeded
    have commits (other : String) (key : PartitionKey) :
        called.2.cluster.committed? other key =
          if other = group then left key else link.cluster.committed? other key := by
      rw [after, committed?_absoluteOffsets, committed?_scripted, committed?_scripted]
    refine ⟨?_, commits, ?_⟩
    · rw [after, Cluster.commitAll_rest]
    · intro reader member unscripted asked timeout reading looked
      have found (tp : TopicPartition) : reading.cluster.committed? group tp.key = left tp.key :=
        (commits group tp.key).trans (if_pos rfl)
      have answered : looked = _ := committed_perform asked timeout reading
      rw [@committed_run reading group member unscripted asked] at answered
      simp only [found] at answered
      rw [answered]
      exact ⟨rfl, rfl, rfl, @scripted_of_unscripted .committed reading⟩

/-- A list gives a partition two absolute offsets, with a logical place between and after them, and
another partition a logical place only. The last absolute offset is committed, and a client that has
its group in the properties is answered with it; the other partition keeps what was committed, and a
third has nothing. -/
theorem committed_of_commit_repeated :
    let tp (partition : Int) (offset : Offset) : TopicPartition :=
      { topic := "orders", partition, offset }
    let cluster := (({} : Cluster).commit "g" ("orders", 1) 4).commit "h" ("orders", 0) 9
    let writer : Client :=
      { name := "writer", serial := 1, settings := .ofConfig { groupId := some "g" } }
    let reader : Client :=
      { name := "reader", serial := 2
        settings := .ofConfig { properties := .ofList [("group.id", "g")] } }
    let list := [tp 0 (.absolute 5), tp 1 .stored, tp 0 .ending, tp 0 (.absolute 3), tp 0 .invalid]
    let called := (ClientCall.commit (some list) .sync).perform ⟨writer, cluster⟩
    let looked := (ClientCall.committed [tp 1 .ending, tp 0 .stored, tp 2 (.absolute 8)] 10).perform
      ⟨reader, called.2.cluster⟩
    writer.settings.group = some "g" ∧ (cluster.takeFault .commit).1 = none ∧
    called.1.outcome = .ok .done ∧ reader.settings.group = some "g" ∧
    (called.2.cluster.takeFault .committed).1 = none ∧
    called.2.cluster.committed? "h" ("orders", 0) = some 9 ∧
    looked.1.written = some [tp 1 (.absolute 4), tp 0 (.absolute 3), tp 2 .invalid] ∧
    looked.2.cluster = called.2.cluster := by
  intro tp cluster writer reader list called looked
  have grouped : writer.settings.group = some "g" := by decide
  have member : reader.settings.group = some "g" := by decide
  have unscripted : (cluster.takeFault .commit).1 = none := by decide
  have unscripted' : (called.2.cluster.takeFault .committed).1 = none := by decide +kernel
  obtain ⟨outcome, _, after⟩ := @committed_of_commit ⟨writer, cluster⟩ "g" grouped list .sync
  have absolute : ∃ entry ∈ list, entry.offset.absolute?.isSome = true :=
    ⟨tp 0 (.absolute 5), .head _, rfl⟩
  have succeeded : called.1.outcome = .ok .done := (outcome unscripted).trans (if_pos absolute)
  obtain ⟨_, commits, lookups⟩ := after succeeded
  obtain ⟨_, written, _, silent⟩ := lookups reader member unscripted'
    [tp 1 .ending, tp 0 .stored, tp 2 (.absolute 8)] 10
  refine ⟨grouped, unscripted, succeeded, member, unscripted', ?_, ?_, ?_⟩
  · exact (commits "h" ("orders", 0)).trans (by decide)
  · exact written.trans (by decide +kernel)
  · have last : looked.2 = ⟨reader, called.2.cluster⟩ := silent (by decide +kernel)
    rw [last]

end ClientCall

end LogConsumer
