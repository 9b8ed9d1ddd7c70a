import LogConsumer.Proofs.Consumer.Closing
import LogConsumer.Proofs.Consumer.Opening
import LogConsumer.Proofs.Group.Works

/-!
# Resumption of a group

Stints of a group lose no record and repeat none: over all of them together each partition is
delivered in order (`deliveries_of_stints`). What is due for the group when a stint ends is due when
the next one begins (`Due`): a stint that delivers something commits it, and one that delivers
nothing commits nothing and leaves what is due as it was.
-/
namespace LogConsumer

open Assigned Link

variable {group : String} {keys : List PartitionKey} {key : PartitionKey} {link : Link}
  {cluster : Cluster} {stint : Stint}

/-- The offset that is due for a group: the one committed, or, where none is committed, one from
which nothing is retained below the low watermark. -/
def Due (group : String) (key : PartitionKey) (next : Int) (cluster : Cluster) : Prop :=
  cluster.committed? group key = some next ∨
    cluster.committed? group key = none ∧ 0 ≤ next ∧ next ≤ cluster.low key

namespace Due

/-- What is due where a group begins. -/
theorem start (group : String) (key : PartitionKey) (cluster : Cluster) :
    Due group key ((cluster.committed? group key).getD (cluster.low key)) cluster := by
  cases committed : cluster.committed? group key with
  | some offset => exact .inl committed
  | none =>
    refine .inr ⟨committed, ?_, Int.le_refl (cluster.low key)⟩
    rw [Cluster.low_eq_floor]
    exact Cluster.le_floor cluster key 0

/-- What is due stays due while nothing is taken from the group. -/
theorem respected {next : Int} {before after : Cluster} (due : Due group key next before)
    (named : key ∈ keys) (respected : before.Respected group keys after) :
    Due group key next after := by
  unfold Due
  rw [respected.commits key named]
  have risen := respected.lows key named
  exact due.imp_right fun ⟨nothing, nonneg, below⟩ => ⟨nothing, nonneg, by omega⟩

/-- What is due is no later than where a group reads on, and reading goes on there from it. -/
theorem bounds {next : Int} (due : Due group key next cluster) :
    next ≤ (cluster.committed? group key).getD (cluster.low key) ∧
      (cluster.committed? group key).getD (cluster.low key) ≤ cluster.floor key next := by
  obtain committed | ⟨nothing, nonneg, below⟩ := due
  · rw [committed]
    exact ⟨Int.le_refl next, Cluster.le_floor cluster key next⟩
  · rw [nothing]
    refine ⟨below, ?_⟩
    change cluster.low key ≤ _
    cases found : cluster.log? key with
    | some log =>
      rw [Cluster.floor_of_log? found]
      exact Int.le_max_right _ _
    | none =>
      simp only [Cluster.low, Cluster.floor, found, Option.map_none, Option.getD_none]
      exact nonneg

end Due

/-- A fresh handle accepts the partitions of its group: it reads them for the group, has stored
nothing of them, and what is due of each is tracked. -/
theorem assign_fresh {partitions : List TopicPartition}
    (grouped : link.client.settings.group = some group)
    (earliest : link.client.settings.resetToLatest = false)
    (opened : link.client.closed = false) (fresh : link.client.ownKeys? = some [])
    (lets : link.cluster.LetsThrough .assign) (concrete : ∀ tp ∈ partitions, 0 ≤ tp.partition)
    (resumes : ∀ tp ∈ partitions, tp.offset = .stored ∨ tp.offset = .invalid)
    (distinct : (partitions.map TopicPartition.key).Nodup) :
    ∃ link', (Client.assign partitions).run link = (.ok (), link') ∧
      ReadsFor group (partitions.map TopicPartition.key) link.cluster link' ∧
      ∀ tp ∈ partitions, Stores tp.key none link' ∧
        ∀ next, Due group tp.key next link.cluster → Tracks tp.key next link' := by
  obtain ⟨refused, _⟩ | ⟨_, placed⟩ := Client.assign_cases partitions link
  · exact absurd ⟨lets.unscripted, concrete, opened⟩ refused
  · refine ⟨_, placed, ⟨grouped, ?_, .of_unmoved (.takeFault _ .assign)⟩, fun tp named => ?_⟩
    · obtain ⟨unsubscribed, _⟩ := Client.ownKeys?_eq_some.mp fresh
      exact Client.ownKeys?_eq_some.mpr
        ⟨unsubscribed, Client.assignedOfList_key link partitions⟩
    · let entry := Client.assignedOf link.client.settings link.cluster tp
      have listed : entry ∈ Client.assignedOfList link partitions := List.mem_map_of_mem named
      rw [← Client.assignedOfList_key link partitions] at distinct
      have sole : ofPartition tp.key (Client.assignedOfList link partitions) = [entry] :=
        ofPartition_of_mem distinct listed
      refine ⟨⟨entry, sole, rfl⟩, fun next due => ⟨entry, sole, ?_⟩⟩
      have position : entry.position =
          (link.cluster.committed? group tp.key).getD (link.cluster.low tp.key) :=
        Client.resolve_resuming grouped earliest link.cluster tp.key (resumes tp named)
      have topics := (Cluster.Unmoved.takeFault link.cluster .assign).topics
      rw [position]
      change _ ∧ _ ≤ (link.cluster.takeFault .assign).2.floor tp.key next
      rw [Cluster.floor_congr topics]
      exact due.bounds

/-- There is nothing to commit where nothing is stored of the partitions read. -/
theorem storedOffsets_of_stores {stored : PartitionKey → Option Int}
    (reads : link.client.assignment.map Assigned.key = keys)
    (stores : ∀ key ∈ keys, Stores key (stored key) link) :
    Client.storedOffsets link.client.assignment = [] ↔ ∀ key ∈ keys, stored key = none := by
  rw [Client.storedOffsets_eq_nil]
  constructor
  · intro nothing key named
    obtain ⟨entry, sole, holds⟩ := stores key named
    have inside : entry ∈ ofPartition key link.client.assignment := by
      rw [sole]
      exact List.mem_singleton_self entry
    exact holds.symm.trans (nothing entry (List.mem_filter.mp inside).1)
  · intro nothing entry inside
    have named : entry.key ∈ keys := by
      rw [← reads]
      exact List.mem_map_of_mem inside
    obtain ⟨other, sole, holds⟩ := stores entry.key named
    have own : entry ∈ ofPartition entry.key link.client.assignment :=
      List.mem_filter.mpr ⟨inside, decide_eq_true rfl⟩
    rw [sole, List.mem_singleton] at own
    rw [own, holds]
    exact nothing entry.key named

namespace Stint

/-- A consumer of the group has connected: its handle is fresh. -/
theorem Fair.connected (fair : stint.Fair group keys cluster) :
    ∃ client : Client, client.settings = .ofConfig stint.consumer.config ∧
      client.closed = false ∧ client.ownKeys? = some [] ∧
      (stint.connected cluster).Holds ⟨client,
        { stint.opening cluster with created := (stint.opening cluster).created + 1 }⟩ := by
  let site : Site := { consumer := stint.consumer, cluster := stint.opening cluster }
  have ran : Operation.connect.run.run site = _ :=
    run_map Consumer.connect (fun _ => Reply.done) site
  have connects := fair.connects
  cases result : Consumer.connect.run site with
  | mk answer site' =>
    rw [result] at ran
    cases answer with
    | error error =>
      change (Operation.connect.run.run site).1 = _ at connects
      rw [ran] at connects
      contradiction
    | ok _ =>
      have reached : stint.connected cluster = site' := congrArg Prod.snd ran
      rw [reached]
      exact connect_holds fair.vacant result

/-- The partitions have been assigned: the handle reads them for the group, has stored nothing of
them, and what is due of each is tracked. -/
theorem Fair.assigned (fair : stint.Fair group keys cluster) (distinct : keys.Nodup)
    (lets : (stint.opening cluster).LetsThrough .assign) :
    ∃ link, (stint.assigned cluster).Holds link ∧
      ReadsFor group keys (stint.opening cluster) link ∧ ∀ key ∈ keys, 0 ≤ key.2 ∧
        Stores key none link ∧
        ∀ next, Due group key next (stint.opening cluster) → Tracks key next link := by
  obtain ⟨client, settings, opened, fresh, holds⟩ := fair.connected
  have reads := fair.reads
  subst reads
  let link : Link := ⟨client,
    { stint.opening cluster with created := (stint.opening cluster).created + 1 }⟩
  have counted : (stint.opening cluster).Unmoved link.cluster := ⟨rfl, rfl, fun _ => id⟩
  obtain ⟨link', accepted, readsFor, placed⟩ := @assign_fresh group link stint.partitions
    (settings ▸ fair.grouped) (settings ▸ fair.earliest) opened fresh (counted.lets .assign lets)
    fair.concrete fair.resumes distinct
  obtain ⟨site', assigned, holds'⟩ := holds.assign_run fair.wellFormed accepted
  have ran : (Operation.assign stint.partitions).run.run (stint.connected cluster) = _ :=
    run_map (Consumer.assign stint.partitions) (fun _ => Reply.done) (stint.connected cluster)
  rw [assigned] at ran
  have reached : stint.assigned cluster = site' := congrArg Prod.snd ran
  refine ⟨link', reached ▸ holds', ⟨readsFor.grouped, readsFor.reads,
    .trans (.of_unmoved counted) readsFor.respected⟩, fun key named => ?_⟩
  obtain ⟨tp, inside, rfl⟩ := List.mem_map.mp named
  obtain ⟨stores, tracks⟩ := placed tp inside
  exact ⟨fair.concrete tp inside, stores, fun next due =>
    tracks next (due.respected named (.of_unmoved counted))⟩

/-- The stored offsets have been committed: the commit fails where there are none, and the cluster
is left with them. -/
theorem committed_run (worked : (stint.worked cluster).Holds link)
    (grouped : link.client.settings.group = some group)
    (lets : link.cluster.LetsThrough .commit) :
    stint.verdict cluster =
        (if Client.storedOffsets link.client.assignment = [] then
          .error (.protocol (.ofCode .noOffset)) else .ok .done) ∧
      (stint.committed cluster).cluster = (link.cluster.takeFault .commit).2.commitAll group
        (Client.storedOffsets link.client.assignment) := by
  obtain ⟨site', committed, holds⟩ := worked.commit_run .sync
  rw [Client.commit_stored_run grouped lets] at committed holds
  have ran : (Operation.commit none .sync).run.run (stint.worked cluster) = _ :=
    run_map (Consumer.commit none .sync) (fun _ => Reply.done) (stint.worked cluster)
  rw [committed] at ran
  have reached : stint.committed cluster = site' := congrArg Prod.snd ran
  refine ⟨(congrArg Prod.fst ran).trans ?_, reached ▸ holds.cluster⟩
  dsimp only
  split <;> rfl

/-- The cluster a stint leaves: the logs are as they were when the consumer had consumed, what was
let through still is, and what the entries of a partition have stored is committed. -/
theorem next_run (worked : (stint.worked cluster).Holds link)
    (grouped : link.client.settings.group = some group)
    (lets : link.cluster.LetsThrough .commit) :
    (stint.next cluster).topics = link.cluster.topics ∧
      (∀ primitive, link.cluster.LetsThrough primitive →
        (stint.next cluster).LetsThrough primitive) ∧
      ∀ key, (stint.next cluster).committed? group key =
        (ofPartition key link.client.assignment).foldl
          (fun committed entry => entry.stored <|> committed)
          (link.cluster.committed? group key) := by
  obtain ⟨_, committed⟩ := committed_run worked grouped lets
  have unmoved : (stint.committed cluster).cluster.Unmoved (stint.next cluster) :=
    disconnect_unmoved (stint.committed cluster)
  have scripted := Cluster.Unmoved.takeFault link.cluster .commit
  refine ⟨?_, fun primitive lets => unmoved.lets primitive ?_, fun key => ?_⟩
  · rw [unmoved.topics, committed, Cluster.commitAll_rest]
    exact scripted.topics
  · rw [committed, Cluster.commitAll_rest]
    exact scripted.lets primitive lets
  · have earlier : (link.cluster.takeFault .commit).2.committed? group key =
        link.cluster.committed? group key := by
      rw [Cluster.committed?, Cluster.committed?, scripted.commits]
    rw [Cluster.committed?, unmoved.commits, ← Cluster.committed?, committed,
      Cluster.committed?_storedOffsets, earlier]

/-- What a stint does for its group: what is due for it when the consumer connects is delivered in
order, what is due after that is due when the consumer has disconnected, and the commit fails if
nothing was delivered at all. -/
structure Serves (group : String) (keys : List PartitionKey) (cluster : Cluster) (stint : Stint) :
    Prop where
  /-- Nothing is taken from the group before. -/
  before : cluster.Respected group keys (stint.opening cluster)
  /-- Deliveries go on from what is due. -/
  inOrder : ∀ key ∈ keys, ∀ next, Due group key next (stint.opening cluster) →
    InOrder next (stint.deliveries key cluster)
  /-- What is due after them is due afterwards. -/
  due : ∀ key ∈ keys, ∀ next, Due group key next (stint.opening cluster) →
    Due group key (following next (stint.deliveries key cluster)) (stint.next cluster)
  /-- The commit fails if nothing was delivered. -/
  verdict : stint.verdict cluster =
    if ∀ key ∈ keys, stint.deliveries key cluster = [] then
      .error (.protocol (.ofCode .noOffset)) else .ok .done
  /-- Assignments are let through still. -/
  assigns : (stint.next cluster).LetsThrough .assign
  /-- Commits are let through still. -/
  lets : (stint.next cluster).LetsThrough .commit

/-- A fair stint serves its group. -/
theorem Fair.serves (fair : stint.Fair group keys cluster) (distinct : keys.Nodup)
    (assigns : cluster.LetsThrough .assign) (lets : cluster.LetsThrough .commit) :
    stint.Serves group keys cluster := by
  have before : cluster.Respected group keys (stint.opening cluster) :=
    Outside.respected_of_throughout fair.before
  obtain ⟨link, holds, readsFor, placed⟩ := fair.assigned distinct (before.assigns assigns)
  obtain ⟨steps, worked, works, delivered⟩ := works_run holds fair.works
  have readsFor := readsFor.run works
  have assigns := readsFor.respected.assigns (before.assigns assigns)
  have lets := readsFor.respected.lets (before.lets lets)
  obtain ⟨verdict, _⟩ := committed_run worked readsFor.grouped lets
  obtain ⟨topics, keeps, commits⟩ := next_run worked readsFor.grouped lets
  -- What the handle stores is what is due next, so the commit hands it on to the next stint.
  have stored (key : PartitionKey) (named : key ∈ keys) (next : Int) :
      Stores key (if stint.deliveries key cluster = [] then none
        else some (following next (stint.deliveries key cluster))) (Link.run link steps) := by
    obtain ⟨concrete, stores, _⟩ := placed key named
    have after := stores.run concrete works next
    rw [← delivered key] at after
    exact after
  refine ⟨before, fun key named next due => ?_, fun key named next due => ?_, ?_,
    keeps .assign assigns, keeps .commit lets⟩
  · obtain ⟨concrete, _, tracks⟩ := placed key named
    have spared : Link.Throughout (Step.SparesReading key) link steps :=
      works.imp fun _ _ work => work.sparesReading named
    have ordered := ((tracks next due).run concrete spared).1
    rw [← delivered key] at ordered
    exact ordered
  · obtain ⟨entry, sole, holds⟩ := stored key named next
    have now := commits key
    rw [sole, List.foldl_cons, List.foldl_nil, holds] at now
    by_cases nothing : stint.deliveries key cluster = []
    · rw [if_pos nothing] at now
      rw [nothing]
      have same := Cluster.low_congr topics key
      obtain here | ⟨none, nonneg, below⟩ := due.respected named readsFor.respected
      · exact .inl (now.trans here)
      · exact .inr ⟨now.trans none, nonneg, same.symm ▸ below⟩
    · rw [if_neg nothing] at now
      exact .inl now
  · obtain ⟨_, reads⟩ := Client.ownKeys?_eq_some.mp readsFor.reads
    have empty := storedOffsets_of_stores reads fun key named => stored key named 0
    rw [verdict]
    refine if_congr (empty.trans (forall₂_congr fun key _ => ?_)) rfl rfl
    split <;> simp [*]

/-- Fair stints serve their group, each after the ones before it. -/
theorem serves_of_fair {stints : List Stint} (distinct : keys.Nodup)
    (assigns : cluster.LetsThrough .assign) (lets : cluster.LetsThrough .commit)
    (fair : Throughout Stint.next (Stint.Fair group keys) cluster stints) :
    Throughout Stint.next (Stint.Serves group keys) cluster stints := by
  induction stints generalizing cluster with
  | nil => trivial
  | cons stint stints ih =>
    have serves := fair.1.serves distinct assigns lets
    exact ⟨serves, ih serves.assigns serves.lets fair.2⟩

/-- Stints that serve their group deliver a partition in order from what is due. -/
theorem inOrder_of_serves {stints : List Stint} (named : key ∈ keys) {next : Int}
    (due : Due group key next cluster)
    (serves : Throughout Stint.next (Stint.Serves group keys) cluster stints) :
    InOrder next (collected Stint.next (Stint.deliveries key) cluster stints) := by
  induction stints generalizing cluster next with
  | nil => exact .nil
  | cons stint stints ih =>
    obtain ⟨first, rest⟩ := serves
    have opening := due.respected named first.before
    rw [collected, inOrder_append]
    exact ⟨first.inOrder key named next opening, ih (first.due key named next opening) rest⟩

end Stint

/-- Stints of a group, one after the other, deliver each of its partitions in order, without loss
and without duplicates, as one run would: from the offset that was committed before the first one,
or, without one, from the low watermark at its assignment. A commit fails, for want of an offset,
exactly if its stint delivered nothing at all. -/
theorem deliveries_of_stints {first : Stint} {rest : List Stint} (distinct : keys.Nodup)
    (assigns : cluster.LetsThrough .assign) (lets : cluster.LetsThrough .commit)
    (fair : Throughout Stint.next (Stint.Fair group keys) cluster (first :: rest)) :
    (∀ key ∈ keys,
      InOrder ((cluster.committed? group key).getD ((first.connected cluster).cluster.low key))
        (collected Stint.next (Stint.deliveries key) cluster (first :: rest))) ∧
      Throughout Stint.next (fun cluster stint => stint.verdict cluster =
        if ∀ key ∈ keys, stint.deliveries key cluster = [] then
          .error (.protocol (.ofCode .noOffset)) else .ok .done) cluster (first :: rest) := by
  have serves := Stint.serves_of_fair distinct assigns lets fair
  refine ⟨fun key named => ?_, serves.imp fun _ _ serves => serves.verdict⟩
  obtain ⟨client, _, _, _, holds⟩ := fair.1.connected
  have same : (first.connected cluster).cluster.low key = (first.opening cluster).low key := by
    rw [holds.cluster]
    rfl
  have due := Due.start group key (first.opening cluster)
  rw [serves.1.before.commits key named, ← same] at due
  rw [collected, inOrder_append]
  exact ⟨serves.1.inOrder key named _ due,
    Stint.inOrder_of_serves named (serves.1.due key named _ due) serves.2⟩

/-- Of four records the first stint reads two, the second reads none, and the third, when the next
one was deleted, reads the last. -/
theorem deliveries_of_stints_truncated :
    let tp : TopicPartition := { topic := "orders", partition := 0, offset := .stored }
    let consumer : Consumer := { config := { groupId := some "billing" } }
    let produce (payload : Bytes) : Outside := .cluster (.produce tp.key none payload none) 7
    let consume : Work := .operate (.consumeMany 2 10 true) trivial
    let first : Stint := ⟨[.cluster (.createTopic "orders" 1) 7, produce [1]], consumer, [tp],
      [.outside (produce [2]), consume, .outside (produce [3])]⟩
    let second : Stint := ⟨[produce [4]], consumer, [tp], []⟩
    let third : Stint := ⟨[.cluster (.deleteRecords tp.key 3) 7], consumer, [tp], [consume]⟩
    let stints := [first, second, third]
    let delivered := collected Stint.next (Stint.deliveries tp.key) {} stints
    Throughout Stint.next (Stint.Fair "billing" [tp.key]) {} stints ∧ InOrder 0 delivered ∧
      delivered.map (fun delivery => delivery.message.offset) = [0, 1, 3] ∧
      second.verdict (first.next {}) = .error (.protocol (.ofCode .noOffset)) := by
  intro tp consumer produce consume first second third stints delivered
  have grouped : (Client.Settings.ofConfig consumer.config).group = some "billing" := by decide
  have earliest : (Client.Settings.ofConfig consumer.config).resetToLatest = false := by decide
  have wellFormed : ∀ other ∈ [tp], Consumer.inputFault? other = none := by decide
  have concrete : ∀ other ∈ [tp], 0 ≤ other.partition := by decide
  have resumes : ∀ other ∈ [tp], other.offset = .stored ∨ other.offset = .invalid := by decide
  have begins : first.Fair "billing" [tp.key] {} :=
    ⟨rfl, grouped, earliest, by decide +kernel, rfl, wellFormed, concrete, resumes,
      ⟨Outside.fair_createTopic (fun _ _ _ => rfl) 1 7, Outside.fair_produce _ _ _ _ _ _, trivial⟩,
      ⟨Outside.fair_produce _ _ _ _ _ _, trivial, Outside.fair_produce _ _ _ _ _ _, trivial⟩⟩
  have continues : second.Fair "billing" [tp.key] (first.next {}) :=
    ⟨rfl, grouped, earliest, by decide +kernel, rfl, wellFormed, concrete, resumes,
      ⟨Outside.fair_produce _ _ _ _ _ _, trivial⟩, trivial⟩
  have ends : third.Fair "billing" [tp.key] (second.next (first.next {})) :=
    ⟨rfl, grouped, earliest, by decide +kernel, rfl, wellFormed, concrete, resumes,
      ⟨Outside.fair_deleteRecords _ _ _ _, trivial⟩, ⟨trivial, trivial⟩⟩
  have fair : Throughout Stint.next (Stint.Fair "billing" [tp.key]) {} stints :=
    ⟨begins, continues, ends, trivial⟩
  have start : (Cluster.committed? {} "billing" tp.key).getD
      ((first.connected {}).cluster.low tp.key) = 0 := by decide +kernel
  have lets (primitive : Primitive) : Cluster.LetsThrough {} primitive := List.forall_mem_nil _
  obtain ⟨ordered, _, verdict, _⟩ := deliveries_of_stints (by simp)
    (lets .assign) (lets .commit) fair
  have ordered := ordered tp.key (List.mem_singleton_self tp.key)
  rw [start] at ordered
  refine ⟨fair, ordered, by decide +kernel, verdict.trans (if_pos ?_)⟩
  decide +kernel

end LogConsumer
