import LogConsumer.Client.Assignment
import LogConsumer.Proofs.Client.Calls
import LogConsumer.Proofs.Client.Entries

/-!
# Placing partitions

How the calls that say what a client reads come out. A list that is placed (`Placeable`) is
accepted unless, when it is to be added, one of its partitions is assigned already; every
partition of it then starts where its offset resolves to. A refused call changes the scripts only.
-/
namespace LogConsumer.Client

open Assigned

/-- Where reading starts depends on the logs and on the committed offsets alone. -/
theorem resolve_congr {left right : Cluster} (logs : left.topics = right.topics)
    (commits : left.commits = right.commits) (settings : Settings) (key : PartitionKey)
    (offset : Offset) :
    resolve settings left key offset = resolve settings right key offset := by
  unfold resolve Cluster.committed?
  rw [Cluster.log?_congr logs, commits]

/-- What is answered for a time depends on the logs alone. -/
theorem offsetForTime_congr {left right : Cluster} (logs : left.topics = right.topics)
    (tp : TopicPartition) : offsetForTime left tp = offsetForTime right tp := by
  unfold offsetForTime Cluster.log
  rw [logs]

/-- Fresh entries depend on the logs and on the committed offsets alone. -/
theorem assignedOfList_congr {left right : Link}
    (settings : left.client.settings = right.client.settings)
    (logs : left.cluster.topics = right.cluster.topics)
    (commits : left.cluster.commits = right.cluster.commits) (partitions : List TopicPartition) :
    assignedOfList left partitions = assignedOfList right partitions := by
  unfold assignedOfList assignedOf
  rw [settings]
  apply List.map_congr_left
  intro tp _
  rw [resolve_congr logs commits]

/-- What a client reads when it has joined depends on the logs and on the committed offsets alone.
-/
theorem joined_congr {left right : Link} (client : left.client = right.client)
    (logs : left.cluster.topics = right.cluster.topics)
    (commits : left.cluster.commits = right.cluster.commits) : joined left = joined right := by
  have settings : left.client.settings = right.client.settings := congrArg Client.settings client
  unfold joined subscribedPartitions Cluster.partitionCount
  rw [client, logs]
  simp only [assignedOfList_congr settings logs commits]

/-- Fresh entries are entries of the partitions listed. -/
theorem assignedOfList_key (link : Link) (partitions : List TopicPartition) :
    (assignedOfList link partitions).map Assigned.key = partitions.map TopicPartition.key := by
  rw [assignedOfList, List.map_map]
  rfl

/-- The link after a call of a primitive has used up its scripted outcome. -/
def scripted (primitive : Primitive) (link : Link) : Link :=
  { link with cluster := (link.cluster.takeFault primitive).2 }

/-- Nothing stands against a call for which no failure is scripted. -/
theorem takeFault_ok {primitive : Primitive} {link : Link}
    (unscripted : (link.cluster.takeFault primitive).1 = none) :
    (takeFault primitive).run link = (.ok (), scripted primitive link) := by
  rw [takeFault_run, unscripted]
  rfl

/-- A call fails as it is scripted. -/
theorem takeFault_error {primitive : Primitive} {link : Link} {error : ClientError}
    (fault : (link.cluster.takeFault primitive).1 = some error) :
    (takeFault primitive).run link = (.error error, scripted primitive link) := by
  rw [takeFault_run, fault]
  rfl

/-- Using up a scripted outcome moves no start of reading. -/
theorem assignedOfList_scripted (primitive : Primitive) (link : Link)
    (partitions : List TopicPartition) :
    assignedOfList (scripted primitive link) partitions = assignedOfList link partitions := by
  refine assignedOfList_congr (by rfl) ?_ ?_ partitions <;> rw [scripted, Cluster.takeFault_rest]

/-- Using up a scripted outcome commits nothing. -/
theorem committed?_scripted (primitive : Primitive) (link : Link) (group : String)
    (key : PartitionKey) : (scripted primitive link).cluster.committed? group key =
      link.cluster.committed? group key := by
  rw [scripted, Cluster.takeFault_rest]
  rfl

/-- Nothing stands against placing the list: no failure is scripted, every partition is concrete
and the handle is open. -/
structure Placeable (primitive : Primitive) (partitions : List TopicPartition) (link : Link) :
    Prop where
  /-- No failure is scripted for the call. -/
  unscripted : (link.cluster.takeFault primitive).1 = none
  /-- Every partition has a concrete number. -/
  concrete : ∀ tp ∈ partitions, 0 ≤ tp.partition
  /-- The handle is open. -/
  opened : link.client.closed = false

/-- Asking for concrete partitions succeeds without a change, or fails at one that is not. -/
theorem requireConcrete_cases (partitions : List TopicPartition) (link : Link) :
    ((∀ tp ∈ partitions, 0 ≤ tp.partition) ∧
      (requireConcrete partitions).run link = (.ok (), link)) ∨
    ((∃ tp ∈ partitions, tp.partition < 0) ∧
      ∃ error, (requireConcrete partitions).run link = (.error error, link)) := by
  unfold requireConcrete
  cases found : partitions.find? fun tp => tp.partition < 0 with
  | none =>
    refine .inl ⟨?_, rfl⟩
    simpa using found
  | some tp =>
    have negative : tp.partition < 0 := by simpa using List.find?_some found
    exact .inr ⟨⟨tp, List.mem_of_find?_eq_some found, negative⟩, _, rfl⟩

/-- Asking for an open handle fails once the handle is shut down, and changes nothing. -/
theorem ensureOpen_run (link : Link) :
    ensureOpen.run link =
      ((if link.client.closed then .error (.ofCode .destroy) else .ok ()), link) := by
  have unfolded : ensureOpen.run link =
      (if link.client.closed then (throw (.ofCode .destroy) : Action Unit) else pure ()).run link :=
    rfl
  rw [unfolded]
  split <;> rfl

/-- What comes first when a list is placed: a refusal that changes the scripts only, or the way
is free for the rest of the call. -/
theorem placing_cases (primitive : Primitive) (partitions : List TopicPartition)
    (rest : Action Unit) (link : Link) :
    let placing : Action Unit := do
      takeFault primitive
      requireConcrete partitions
      ensureOpen
      rest
    (¬Placeable primitive partitions link ∧
      ∃ error, placing.run link = (.error error, scripted primitive link)) ∨
    (Placeable primitive partitions link ∧
      placing.run link = rest.run (scripted primitive link)) := by
  intro placing
  cases fault : (link.cluster.takeFault primitive).1 with
  | some error =>
    refine .inl ⟨fun placeable => ?_, error, run_bind_error (takeFault_error fault)⟩
    rw [placeable.unscripted] at fault
    contradiction
  | none =>
    have first : placing.run link = _ := run_bind_ok (takeFault_ok fault)
    obtain ⟨concrete, second⟩ | ⟨⟨tp, inside, negative⟩, error, second⟩ :=
      requireConcrete_cases partitions (scripted primitive link)
    · have third := ensureOpen_run (scripted primitive link)
      cases shut : link.client.closed with
      | true =>
        rw [show (scripted primitive link).client.closed = true from shut] at third
        refine .inl ⟨fun placeable => ?_, .ofCode .destroy, ?_⟩
        · rw [placeable.opened] at shut
          contradiction
        · exact first.trans ((run_bind_ok second).trans (run_bind_error third))
      | false =>
        rw [show (scripted primitive link).client.closed = false from shut] at third
        exact .inr ⟨⟨fault, concrete, shut⟩,
          first.trans ((run_bind_ok second).trans (run_bind_ok third))⟩
    · refine .inl ⟨fun placeable => ?_, error, first.trans (run_bind_error second)⟩
      have concrete := placeable.concrete tp inside
      omega

/-- A call that is let through goes on with the rest of it. -/
theorem scripted_run {α : Type} {primitive : Primitive} {rest : Action α} {link : Link}
    (unscripted : (link.cluster.takeFault primitive).1 = none) :
    (do takeFault primitive; rest : Action α).run link = rest.run (scripted primitive link) :=
  run_bind_ok (takeFault_ok unscripted)

/-- What comes first in most calls: a scripted failure refuses the call, or the way is free for the
rest of it. -/
theorem scripted_cases {α : Type} (primitive : Primitive) (rest : Action α) (link : Link) :
    (∃ error, (do takeFault primitive; rest : Action α).run link =
      (.error error, scripted primitive link)) ∨
    (do takeFault primitive; rest : Action α).run link = rest.run (scripted primitive link) := by
  cases fault : (link.cluster.takeFault primitive).1 with
  | some error => exact .inl ⟨error, run_bind_error (takeFault_error fault)⟩
  | none => exact .inr (scripted_run fault)

/-- Subscribing is refused without a change of the client, or there are topics, the handle is open,
and the client subscribes to them and reads nothing. -/
theorem subscribe_cases (topics : List String) (link : Link) :
    (∃ error, (subscribe topics).run link = (.error error, scripted .subscribe link)) ∨
    ((topics ≠ [] ∧ link.client.closed = false) ∧
      (subscribe topics).run link = (.ok (), { scripted .subscribe link with
        client := { link.client with subscription := topics, assignment := [] } })) := by
  unfold subscribe
  obtain refused | goes := scripted_cases .subscribe (do
    if topics.isEmpty then throw (.because .invalidArg "empty topic list")
    ensureOpen
    update fun client => { client with subscription := topics, assignment := [] }) link
  · exact .inl refused
  · rw [goes]
    by_cases untopical : topics.isEmpty = true
    · rw [if_pos untopical]
      exact .inl ⟨_, rfl⟩
    · have opens := ensureOpen_run (scripted .subscribe link)
      rw [if_neg untopical]
      by_cases shut : (scripted .subscribe link).client.closed = true
      · rw [if_pos shut] at opens
        exact .inl ⟨_, run_bind_error opens⟩
      · rw [if_neg shut] at opens
        have opened : link.client.closed = false := Bool.eq_false_iff.mpr shut
        exact .inr ⟨⟨by simpa using untopical, opened⟩, run_bind_ok opens⟩

/-- The client that reads what is placed, and nothing else. -/
def replaced (link : Link) (partitions : List TopicPartition) : Client :=
  { link.client with assignment := assignedOfList link partitions, cursor := 0 }

/-- The client that reads what is placed besides what it reads already. -/
def extended (link : Link) (partitions : List TopicPartition) : Client :=
  { link.client with assignment := link.client.assignment ++ assignedOfList link partitions }

/-- Replacing the assignment is refused, or every partition listed is placed. -/
theorem assign_cases (partitions : List TopicPartition) (link : Link) :
    (¬Placeable .assign partitions link ∧
      ∃ error, (assign partitions).run link = (.error error, scripted .assign link)) ∨
    (Placeable .assign partitions link ∧
      (assign partitions).run link =
        (.ok (), { scripted .assign link with client := replaced link partitions })) := by
  have placing := placing_cases .assign partitions (do
    let link ← get
    let entries := assignedOfList link partitions
    update fun client => { client with assignment := entries, cursor := 0 }) link
  refine placing.imp_right fun ⟨placeable, result⟩ => ⟨placeable, result.trans ?_⟩
  rw [replaced, ← assignedOfList_scripted .assign link]
  rfl

/-- The end of adding to the assignment: what is placed must not be assigned. -/
def placeApart (partitions : List TopicPartition) : Action Unit := do
  let link ← get
  match partitions.find? fun tp => (Assigned.find? link.client.assignment tp.key).isSome with
  | some tp => throw (.because .conflict (tp.text ++ " is already assigned"))
  | none =>
    let entries := assignedOfList link partitions
    update fun client => { client with assignment := client.assignment ++ entries }

/-- What is to be placed conflicts with what is assigned, at a partition that the refusal names, or
is placed besides it. -/
theorem placeApart_cases (partitions : List TopicPartition) (link : Link) :
    (∃ tp ∈ partitions, tp.key ∈ link.client.assignment.map Assigned.key ∧
      (placeApart partitions).run link =
        (.error (.because .conflict (tp.text ++ " is already assigned")), link)) ∨
    ((∀ tp ∈ partitions, tp.key ∉ link.client.assignment.map Assigned.key) ∧
      (placeApart partitions).run link =
        (.ok (), { link with client := extended link partitions })) := by
  have keyed (tp : TopicPartition) : (Assigned.find? link.client.assignment tp.key).isSome = true ↔
      tp.key ∈ link.client.assignment.map Assigned.key := by
    rw [Option.isSome_iff_ne_none, ne_eq, find?_eq_none_iff, Decidable.not_not]
  unfold placeApart
  rw [run_get]
  cases found : partitions.find? fun tp =>
      (Assigned.find? link.client.assignment tp.key).isSome with
  | some tp =>
    have assigned : (Assigned.find? link.client.assignment tp.key).isSome = true := by
      simpa using List.find?_some found
    exact .inl ⟨tp, List.mem_of_find?_eq_some found, (keyed tp).mp assigned, rfl⟩
  | none =>
    refine .inr ⟨fun tp inside assigned => ?_, rfl⟩
    exact List.find?_eq_none.mp found tp inside ((keyed tp).mpr assigned)

/-- Adding to the assignment is refused, or conflicts with a partition that is assigned, or every
partition listed is placed and none was assigned. -/
theorem incrementalAssign_cases (partitions : List TopicPartition) (link : Link) :
    (∃ error, (incrementalAssign partitions).run link =
      (.error error, scripted .incrementalAssign link)) ∨
    (Placeable .incrementalAssign partitions link ∧
      (∀ tp ∈ partitions, tp.key ∉ link.client.assignment.map Assigned.key) ∧
      (incrementalAssign partitions).run link =
        (.ok (), { scripted .incrementalAssign link with
          client := extended link partitions })) := by
  obtain ⟨_, refused⟩ | ⟨placeable, goes⟩ :=
    placing_cases .incrementalAssign partitions (placeApart partitions) link
  · exact .inl refused
  · obtain ⟨_, _, _, conflicts⟩ | ⟨apart, placed⟩ :=
      placeApart_cases partitions (scripted .incrementalAssign link)
    · exact .inl ⟨_, goes.trans conflicts⟩
    · refine .inr ⟨placeable, apart, (goes.trans placed).trans ?_⟩
      rw [extended, assignedOfList_scripted]
      rfl

/-- Where nothing stands against it and no partition listed is assigned, every partition listed is
placed. -/
theorem incrementalAssign_run {partitions : List TopicPartition} {link : Link}
    (placeable : Placeable .incrementalAssign partitions link)
    (apart : ∀ tp ∈ partitions, tp.key ∉ link.client.assignment.map Assigned.key) :
    (incrementalAssign partitions).run link =
      (.ok (), { scripted .incrementalAssign link with client := extended link partitions }) := by
  obtain ⟨stuck, _⟩ | ⟨_, goes⟩ :=
    placing_cases .incrementalAssign partitions (placeApart partitions) link
  · exact absurd placeable stuck
  · obtain ⟨tp, inside, assigned, _⟩ | ⟨_, placed⟩ :=
      placeApart_cases partitions (scripted .incrementalAssign link)
    · exact absurd assigned (apart tp inside)
    · refine (goes.trans placed).trans ?_
      rw [extended, assignedOfList_scripted]
      rfl

/-- Dropping the assignment is refused, or leaves nothing assigned. -/
theorem unassign_cases (link : Link) :
    (∃ error, unassign.run link = (.error error, scripted .unassign link)) ∨
    unassign.run link = (.ok (), { scripted .unassign link with
      client := { link.client with assignment := [], cursor := 0 } }) :=
  scripted_cases .unassign _ link

/-- Taking from the assignment is refused, or leaves the entries of the partitions not named. -/
theorem incrementalUnassign_cases (partitions : List TopicPartition) (link : Link) :
    (∃ error, (incrementalUnassign partitions).run link =
      (.error error, scripted .incrementalUnassign link)) ∨
    (incrementalUnassign partitions).run link = (.ok (), { scripted .incrementalUnassign link with
      client := { link.client with
        assignment := link.client.assignment.filter fun entry =>
          !partitions.any fun tp => entry.key = tp.key
        cursor := 0 } }) :=
  scripted_cases .incrementalUnassign _ link

/-- The partitions that a client reads, in order and without a place. -/
def readPartitions (client : Client) : List TopicPartition :=
  client.assignment.map fun entry => { topic := entry.topic, partition := entry.partition }

/-- Reading the assignment is refused, or answers with the partitions assigned. -/
theorem assignedPartitions_cases (link : Link) :
    (∃ error, assignedPartitions.run link = (.error error, scripted .assignment link)) ∨
    assignedPartitions.run link = (.ok link.client.readPartitions, scripted .assignment link) :=
  scripted_cases .assignment _ link

/-- What a commit takes: the absolute offsets of its list, or without a list what is stored. -/
def pendingOffsets (partitions : Option (List TopicPartition)) (entries : List Assigned) :
    List (PartitionKey × Int) :=
  match partitions with
  | some list => absoluteOffsets list
  | none => storedOffsets entries

/-- The end of a commit: what there is to commit is committed for a group. -/
def commitFor (partitions : Option (List TopicPartition)) (group : String) : Action Unit := do
  let link ← get
  let pending := pendingOffsets partitions link.client.assignment
  if pending.isEmpty then throw (.ofCode .noOffset)
  updateCluster fun cluster =>
    pending.foldl (fun cluster entry => cluster.commit group entry.1 entry.2) cluster

/-- There is nothing to commit, or all of it is committed. -/
theorem commitFor_cases (partitions : Option (List TopicPartition)) (group : String)
    (link : Link) :
    let pending := pendingOffsets partitions link.client.assignment
    (pending = [] ∧
      (commitFor partitions group).run link = (.error (.ofCode .noOffset), link)) ∨
    (pending ≠ [] ∧ (commitFor partitions group).run link =
      (.ok (), { link with cluster := link.cluster.commitAll group pending })) := by
  intro pending
  unfold commitFor
  rw [run_get]
  change _ ∧ ExceptT.run (if pending.isEmpty then _ else _ : Action Unit) link = _ ∨
    _ ∧ ExceptT.run (if pending.isEmpty then _ else _ : Action Unit) link = _
  by_cases nothing : pending.isEmpty = true
  · rw [if_pos nothing]
    exact .inl ⟨List.isEmpty_iff.mp nothing, rfl⟩
  · rw [if_neg nothing]
    exact .inr ⟨fun empty => nothing (List.isEmpty_iff.mpr empty), rfl⟩

/-- Committing is refused, or commits what there is to commit for the group of the client. -/
theorem commit_cases (partitions : Option (List TopicPartition)) (link : Link) :
    (∃ error, (commit partitions).run link = (.error error, scripted .commit link)) ∨
    ∃ group, link.client.settings.group = some group ∧ (commit partitions).run link =
      (.ok (), { scripted .commit link with
        cluster := (scripted .commit link).cluster.commitAll group
          (pendingOffsets partitions link.client.assignment) }) := by
  obtain refused | goes : _ ∨ (commit partitions).run link = ExceptT.run
      (requireGroup >>= commitFor partitions) (scripted .commit link) :=
    scripted_cases .commit (requireGroup >>= commitFor partitions) link
  · exact .inl refused
  · cases own : link.client.settings.group with
    | none =>
      have ungrouped : requireGroup.run (scripted .commit link) = _ := requireGroup_refused own
      exact .inl ⟨_, goes.trans (run_bind_error ungrouped)⟩
    | some group =>
      have grouped : requireGroup.run (scripted .commit link) = _ := requireGroup_run own
      have later := goes.trans (run_bind_ok grouped)
      obtain ⟨_, nothing⟩ | ⟨_, committed⟩ :=
        commitFor_cases partitions group (scripted .commit link)
      · exact .inl ⟨_, later.trans nothing⟩
      · exact .inr ⟨group, rfl, later.trans committed⟩

/-- A commit of a client with a group, where it is let through, commits all that there is to commit,
and fails where there is nothing. -/
theorem commit_run {link : Link} {group : String} (partitions : Option (List TopicPartition))
    (grouped : link.client.settings.group = some group)
    (unscripted : (link.cluster.takeFault .commit).1 = none) :
    let pending := pendingOffsets partitions link.client.assignment
    (commit partitions).run link =
      (if pending = [] then .error (.ofCode .noOffset) else .ok (),
        { link with cluster := (scripted .commit link).cluster.commitAll group pending }) := by
  intro pending
  have grouped' : requireGroup.run (scripted .commit link) = (.ok group, scripted .commit link) :=
    requireGroup_run grouped
  have goes : (commit partitions).run link =
      (commitFor partitions group).run (scripted .commit link) :=
    (scripted_run unscripted).trans (run_bind_ok grouped')
  obtain ⟨nothing, failed⟩ | ⟨something, committed⟩ :=
    commitFor_cases partitions group (scripted .commit link)
  · have nothing : pending = [] := nothing
    rw [goes, failed, if_pos nothing, nothing]
    rfl
  · have something : pending ≠ [] := something
    rw [goes, committed, if_neg something]
    rfl

/-- Committing what is stored, where that is let through, commits all of it, and fails where there
is nothing to commit. -/
theorem commit_stored_run {link : Link} {group : String}
    (grouped : link.client.settings.group = some group)
    (lets : link.cluster.LetsThrough .commit) :
    let pending := storedOffsets link.client.assignment
    (commit none).run link =
      (if pending = [] then .error (.ofCode .noOffset) else .ok (),
        { link with cluster := (scripted .commit link).cluster.commitAll group pending }) :=
  commit_run none grouped lets.unscripted

/-- There is nothing to commit where nothing is stored. -/
theorem storedOffsets_eq_nil {entries : List Assigned} :
    storedOffsets entries = [] ↔ ∀ entry ∈ entries, entry.stored = none := by
  simp [storedOffsets, List.filterMap_eq_nil_iff]

/-- A place that is left to the group is the committed offset, or the low watermark without one. -/
theorem resolve_resuming {settings : Settings} {group : String}
    (grouped : settings.group = some group) (earliest : settings.resetToLatest = false)
    (cluster : Cluster) (key : PartitionKey) {offset : Offset}
    (resumes : offset = .stored ∨ offset = .invalid) :
    resolve settings cluster key offset =
      (cluster.committed? group key).getD (cluster.low key) := by
  have low : (((cluster.log? key).map PartitionLog.watermarks).getD { low := 0, high := 0 }).low =
      cluster.low key := by
    unfold Cluster.low
    cases cluster.log? key <;> rfl
  rcases resumes with rfl | rfl <;> simp [resolve, grouped, earliest, low]

end LogConsumer.Client
