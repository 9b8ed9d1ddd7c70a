import LogConsumer.Proofs.Client.Rounds
import LogConsumer.Proofs.Consumer.Gathering

/-!
# How often a bounded consume polls

A bounded consume returns, and polls no more often than what it finds can pay for. A poll that does
not end it either uses up a scripted failure, or reads a record, or reports the end of a partition,
which stays reported until a record is read there. So the failures that are left and the ends that
are yet to be reported pay for the polls, and each record pays for two, for itself and for the end
that may be reported again after it. `Client.poll_pays` says so of one poll and
`Consumer.mapM_pollHandle_pays` of any number of them. The main result is `bounded_consume_returns`.
-/
namespace LogConsumer

/-- How many of the scripted outcomes of the polls to come are failures. -/
def Cluster.pollFailures (cluster : Cluster) : Nat :=
  (cluster.script .poll).countP Option.isSome

/-- A poll that is made uses up the failure that is scripted for it, if there is one. -/
theorem Cluster.pollFailures_takeFault (cluster : Cluster) :
    (cluster.takeFault .poll).2.pollFailures +
        (if (cluster.takeFault .poll).1.isSome then 1 else 0) = cluster.pollFailures := by
  unfold pollFailures
  rw [script_takeFault, takeFault_eq]
  cases cluster.script .poll with
  | nil => rfl
  | cons outcome rest => rw [List.countP_cons]; rfl

namespace Assigned

/-- The number of entries whose end is reported. -/
def reported (entries : List Assigned) : Nat :=
  entries.countP endReported

/-- One more entry is one more whose end is reported, or not. -/
theorem reported_cons (entry : Assigned) (entries : List Assigned) :
    reported (entry :: entries) = entry.endReported.toNat + reported entries := by
  unfold reported
  rw [List.countP_cons, Nat.add_comm]
  cases entry.endReported <;> rfl

/-- The ends reported in two lists are those of both. -/
theorem reported_append (first second : List Assigned) :
    reported (first ++ second) = reported first + reported second :=
  List.countP_append

/-- How many ends are reported does not depend on where one begins to count them. -/
theorem reported_rotate (entries : List Assigned) (start : Nat) :
    reported (entries.rotate start) = reported entries :=
  (entries.rotate_perm start).countP_eq _

/-- Entries that settle keep their ends reported. -/
theorem reported_settled (cluster : Cluster) (entries : List Assigned) :
    reported (entries.map (·.settled cluster)) = reported entries := by
  have kept : endReported ∘ (·.settled cluster) = endReported := by
    funext entry
    rw [Function.comp_apply, settled]
    split <;> rfl
  unfold reported
  rw [List.countP_map, kept]

/-- What a ready entry answers with is a record, or its end is reported by it and was not before.
-/
theorem answered_pays {cluster : Cluster} {reportsEnd : Bool} {entry : Assigned}
    (ready : entry.IsReady cluster reportsEnd) :
    entry.endReported.toNat + 1 ≤
      (entry.answered cluster).endReported.toNat +
        2 * (Outcome.ofMessage (entry.due cluster)).record?.toList.length := by
  cases readable : cluster.read? entry.key (cluster.floor entry.key entry.position) with
  | some message =>
    have found : entry.due cluster = message := by
      rw [due, readable]
      rfl
    have code : message.error = .noError := (Cluster.read?_eq_some readable).2.2.1
    have record : (Outcome.ofMessage message).record? = some message := by
      simp [Outcome.ofMessage, Outcome.record?, Message.hasData, code]
    have once := entry.endReported.toNat_le
    rw [found, record]
    exact Nat.le_add_left_of_le (Nat.succ_le_succ once)
  | none =>
    have unreported : entry.endReported = false := by
      obtain ⟨_, found | ⟨_, unreported⟩⟩ := ready
      · rw [readable] at found
        contradiction
      · exact unreported
    have reports : (entry.answered cluster).endReported = true := by
      simp [answered, readable]
    rw [unreported, reports]
    exact Nat.le_add_right 1 _

end Assigned

/-- What is gathered of an outcome and others is what is gathered of both. -/
theorem Batch.messages_of_cons (outcome : Outcome) (outcomes : List Outcome) :
    (Batch.of (outcome :: outcomes)).messages =
      outcome.record?.toList ++ (Batch.of outcomes).messages := by
  unfold Batch.of
  cases record : outcome.record? <;> simp [record]

namespace Client

open Assigned

/-- A client that joins its group has no end reported. -/
theorem reported_joined (link : Link) :
    reported (joined link).assignment = reported link.client.assignment := by
  unfold joined
  dsimp only
  split
  · rename_i joins
    have nothing : link.client.assignment = [] := by
      rw [Bool.and_eq_true] at joins
      exact List.isEmpty_iff.mp joins.2
    rw [nothing]
    apply List.countP_eq_zero.mpr
    intro entry inside
    obtain ⟨tp, _, rfl⟩ := List.mem_map.mp inside
    exact Bool.false_ne_true
  · rfl

/-- Serving pays with what it answers: it finds nothing, or reports one more end, or reads a record
where an end may be reported. -/
theorem serve_pays (cluster : Cluster) (client : Client) :
    let served := serve cluster client
    (served.1 = none ∧ reported served.2.assignment = reported client.assignment) ∨
      ∃ message, served.1 = some message ∧ reported client.assignment + 1 ≤
        reported served.2.assignment + 2 * (Outcome.ofMessage message).record?.toList.length := by
  obtain ⟨_, served⟩ | ⟨before, entry, after, assignment, first, rotated, served⟩ :=
    serve_round cluster client <;> rw [served]
  · exact .inl ⟨rfl, reported_settled cluster _⟩
  · have pays := answered_pays first.ready
    refine .inr ⟨_, rfl, ?_⟩
    rw [← reported_rotate client.assignment client.cursor, first.order,
      ← reported_rotate assignment client.cursor, rotated, reported_append, reported_append,
      reported_cons, reported_cons, reported_settled]
    omega

/-- A poll that does not end a bounded consume is paid for by a failure that is used up, by an end
that is reported, or by a record. -/
theorem poll_pays (timeout : Nat) (link : Link) :
    let polled := poll timeout link
    let outcome := Outcome.ofMessage polled.1.message
    polled.2.cluster.pollFailures + reported link.client.assignment + 1 ≤
      link.cluster.pollFailures + reported polled.2.client.assignment +
        2 * outcome.record?.toList.length + outcome.ends.toNat := by
  have failures := link.cluster.pollFailures_takeFault
  have counts : (counted link.cluster timeout).pollFailures =
      (link.cluster.takeFault .poll).2.pollFailures := by
    rw [counted_eq]
    rfl
  have joins : _ = reported link.client.assignment :=
    reported_joined { link with cluster := counted link.cluster timeout }
  obtain ⟨error, scripted, result⟩ | ⟨scripted, _, result⟩ | ⟨scripted, _, result⟩ :=
    poll_cases timeout link <;> rw [scripted] at failures <;> rw [result] <;> dsimp only
  · rw [Option.isSome_some, if_pos rfl] at failures
    omega
  · have ends : (Outcome.ofMessage (.empty .destroy)).ends.toNat = 1 := rfl
    rw [Option.isSome_none, if_neg Bool.false_ne_true] at failures
    omega
  · rw [Option.isSome_none, if_neg Bool.false_ne_true] at failures
    obtain ⟨nothing, still⟩ | ⟨message, found, pays⟩ :=
      serve_pays (counted link.cluster timeout)
        (joined { link with cluster := counted link.cluster timeout })
    · have ends : (Outcome.ofMessage (.empty .timedOut)).ends.toNat = 1 := rfl
      rw [nothing]
      dsimp only
      omega
    · rw [found]
      dsimp only
      omega

/-- A client that has joined its group reads what it read, or if that was nothing, every partition
of the topics that it subscribes to. -/
theorem joined_keys (link : Link) :
    (joined link).assignment.map Assigned.key =
      if link.client.assignment = [] then
        (subscribedPartitions link.cluster link.client.subscription).map TopicPartition.key
      else link.client.assignment.map Assigned.key := by
  split
  · rename_i nothing
    by_cases unsubscribed : link.client.subscription = []
    · rw [joined_of_unsubscribed unsubscribed, nothing, unsubscribed]
      rfl
    · have joins : joined link = { link.client with
          assignment := assignedOfList link
            (subscribedPartitions link.cluster link.client.subscription)
          cursor := 0 } := by
        simp [joined, nothing, unsubscribed]
      rw [joins, assignedOfList_key]
  · rename_i reads
    rw [joined_of_assigned reads]

/-- A poll reads what the client reads, or has it join its group; and it changes nothing of what
that comes to. -/
theorem poll_reads (timeout : Nat) (link : Link) :
    let after := (poll timeout link).2
    (after.client.assignment.map Assigned.key = link.client.assignment.map Assigned.key ∨
      link.client.assignment = [] ∧
        after.client.assignment.map Assigned.key = (joined link).assignment.map Assigned.key) ∧
    (joined after).assignment.map Assigned.key = (joined link).assignment.map Assigned.key := by
  intro after
  have subscription : after.client.subscription = link.client.subscription :=
    @ClientCall.keeps_subscription (.poll timeout) trivial link
  have logs : (counted link.cluster timeout).topics = link.cluster.topics := by
    rw [counted_rest]
  have commits : (counted link.cluster timeout).commits = link.cluster.commits := by
    rw [counted_rest]
  have cluster : after.cluster = counted link.cluster timeout := by
    obtain ⟨_, _, result⟩ | ⟨_, _, result⟩ | ⟨_, _, result⟩ := poll_cases timeout link <;>
      exact congrArg (fun polled => polled.2.cluster) result
  have subscribed : subscribedPartitions after.cluster after.client.subscription =
      subscribedPartitions link.cluster link.client.subscription := by
    unfold subscribedPartitions Cluster.partitionCount
    rw [subscription, cluster, logs]
  have reads : after.client.assignment.map Assigned.key =
        link.client.assignment.map Assigned.key ∨ link.client.assignment = [] ∧
      after.client.assignment.map Assigned.key = (joined link).assignment.map Assigned.key := by
    have same (client : after.client = link.client) : after.client.assignment.map Assigned.key =
        link.client.assignment.map Assigned.key := by rw [client]
    obtain ⟨_, _, result⟩ | ⟨_, _, result⟩ | ⟨_, _, result⟩ := poll_cases timeout link
    · exact .inl (same (congrArg (fun polled => polled.2.client) result))
    · exact .inl (same (congrArg (fun polled => polled.2.client) result))
    · have served := congrArg (fun polled => polled.2.client.assignment.map Assigned.key) result
      rw [serve_keys, @joined_congr { link with cluster := counted link.cluster timeout } link rfl
        logs commits] at served
      by_cases nothing : link.client.assignment = []
      · exact .inr ⟨nothing, served⟩
      · rw [joined_of_assigned nothing] at served
        exact .inl served
  refine ⟨reads, ?_⟩
  have empty (client : Client) : client.assignment.map Assigned.key = [] ↔
      client.assignment = [] := List.map_eq_nil_iff
  rw [joined_keys, subscribed]
  obtain same | ⟨nothing, joins⟩ := reads
  · simp only [← empty after.client, same, empty]
    exact (joined_keys link).symm
  · rw [joins, joined_keys link, if_pos nothing, ite_self]

end Client

namespace Site

/-- The entries that the open handle of the site reads; none without one. -/
def reads (site : Site) : List Assigned :=
  match site.consumer.connection.connected? with
  | none => []
  | some client => client.assignment

/-- Where a handle is open, the site reads its entries. -/
theorem Holds.reads {site : Site} {link : Link} (holds : site.Holds link) :
    site.reads = link.client.assignment := by
  unfold Site.reads
  rw [holds.opened]
  rfl

/-- What the open handle of the site reads at its next poll, once it has joined its group if it is
to. -/
def readsJoined (site : Site) : List Assigned :=
  match site.consumer.connection.connected? with
  | none => []
  | some client => (Client.joined ⟨client, site.cluster⟩).assignment

/-- Where a handle is open, the site reads what its client reads once it has joined. -/
theorem Holds.readsJoined {site : Site} {link : Link} (holds : site.Holds link) :
    site.readsJoined = (Client.joined link).assignment := by
  unfold Site.readsJoined
  rw [holds.opened, holds.cluster]
  rfl

/-- The open handle of the later site reads the same partitions as that of the earlier one, or what
that one comes to read by joining its group, which is the same for both. -/
structure ReadsOn (site site' : Site) : Prop where
  /-- It reads the same, or what it has joined. -/
  reads : site'.reads.map Assigned.key = site.reads.map Assigned.key ∨ site.reads = [] ∧
    site'.reads.map Assigned.key = site.readsJoined.map Assigned.key
  /-- It comes to read the same. -/
  readsJoined : site'.readsJoined.map Assigned.key = site.readsJoined.map Assigned.key

/-- A site reads on where nothing happens. -/
theorem ReadsOn.refl (site : Site) : site.ReadsOn site :=
  ⟨.inl rfl, rfl⟩

/-- A site reads on where it does so twice. -/
theorem ReadsOn.trans {first second third : Site} (before : first.ReadsOn second)
    (after : second.ReadsOn third) : first.ReadsOn third where
  readsJoined := after.readsJoined.trans before.readsJoined
  reads := by
    obtain same | ⟨nothing, joins⟩ := after.reads <;> rw [‹third.reads.map Assigned.key = _›]
    · exact before.reads
    · obtain same | ⟨nothing', _⟩ := before.reads
      · rw [nothing, List.map_nil, eq_comm, List.map_eq_nil_iff] at same
        exact .inr ⟨same, before.readsJoined⟩
      · exact .inr ⟨nothing', before.readsJoined⟩

end Site

namespace Consumer

open Assigned

/-- A poll of the open handle adds one to the polls of the cluster and is paid for, unless its
outcome ends a bounded consume. -/
theorem pollHandle_pays (timeout : Nat) (site : Site) :
    let polled := pollHandle timeout site
    let outcome := Outcome.ofAnswer polled.1
    polled.2.cluster.polls + polled.2.cluster.pollFailures + reported site.reads ≤
      site.cluster.polls + site.cluster.pollFailures + reported polled.2.reads +
        2 * outcome.record?.toList.length + outcome.ends.toNat := by
  cases state : site.consumer.connection with
  | connected client =>
    have before : site.Holds ⟨client, site.cluster⟩ := ⟨state, rfl⟩
    have after := before.linked (.poll timeout) (Client.poll timeout ⟨client, site.cluster⟩).2
    have pays := Client.poll_pays timeout ⟨client, site.cluster⟩
    have polls := ClientCall.polls_poll timeout ⟨client, site.cluster⟩
    -- Counting the outcome touches neither the handle nor the cluster.
    have counts (outcome : Outcome) : (countOutcome outcome (site.polled client timeout)).2.reads =
        (site.polled client timeout).reads := rfl
    have cluster (outcome : Outcome) :
        (countOutcome outcome (site.polled client timeout)).2.cluster =
          (Client.poll timeout ⟨client, site.cluster⟩).2.cluster := rfl
    have reads : (site.polled client timeout).reads = _ := after.reads
    have answers (message : Message) : Outcome.ofAnswer (.ok message) = .ofMessage message := rfl
    rw [pollHandle_connected state]
    dsimp only at pays ⊢
    rw [answers, counts, cluster, polls, before.reads, reads]
    dsimp only
    omega
  | disconnected | closing client =>
    rw [pollHandle_absent (by rw [state]; nofun)]
    exact Nat.le_add_right _ _

/-- A poll of the open handle reads on. -/
theorem pollHandle_readsOn (timeout : Nat) (site : Site) :
    site.ReadsOn (pollHandle timeout site).2 := by
  cases state : site.consumer.connection with
  | connected client =>
    have before : site.Holds ⟨client, site.cluster⟩ := ⟨state, rfl⟩
    have linked := before.linked (.poll timeout) (Client.poll timeout ⟨client, site.cluster⟩).2
    have after (outcome : Outcome) : (countOutcome outcome (site.polled client timeout)).2.Holds
        (Client.poll timeout ⟨client, site.cluster⟩).2 := linked.congr rfl rfl
    obtain ⟨reads, readsJoined⟩ := Client.poll_reads timeout ⟨client, site.cluster⟩
    rw [pollHandle_connected state]
    refine ⟨?_, ?_⟩
    · rw [(after _).reads, before.reads, before.readsJoined]
      exact reads
    · rw [(after _).readsJoined, before.readsJoined]
      exact readsJoined
  | disconnected | closing client =>
    rw [pollHandle_absent (by rw [state]; nofun)]
    exact .refl site

/-- Polls of the open handle read on. -/
theorem mapM_pollHandle_readsOn (timeouts : List Nat) (site : Site) :
    site.ReadsOn (timeouts.mapM pollHandle site).2 := by
  induction timeouts generalizing site with
  | nil => exact .refl site
  | cons timeout timeouts ih =>
    rw [run_mapM_cons]
    exact (pollHandle_readsOn timeout site).trans (ih _)

/-- Polls of the open handle are paid for by failures that are used up, by ends that are reported
and by records, up to those whose outcomes end a bounded consume. -/
theorem mapM_pollHandle_pays (timeouts : List Nat) (site : Site) :
    let ran := timeouts.mapM pollHandle site
    let outcomes := ran.1.map Outcome.ofAnswer
    ran.2.cluster.polls + ran.2.cluster.pollFailures + reported site.reads ≤
      site.cluster.polls + site.cluster.pollFailures + reported ran.2.reads +
        2 * (Batch.of outcomes).messages.length + outcomes.countP Outcome.ends := by
  induction timeouts generalizing site with
  | nil => exact Nat.le_add_right _ _
  | cons timeout timeouts ih =>
    have first := pollHandle_pays timeout site
    have rest := ih (pollHandle timeout site).2
    rw [run_mapM_cons]
    dsimp only at first rest ⊢
    rw [List.map_cons, Batch.messages_of_cons, List.length_append, List.countP_cons]
    cases ends : (Outcome.ofAnswer (pollHandle timeout site).1).ends with
    | true =>
      rw [ends, Bool.toNat_true] at first
      rw [if_pos rfl]
      omega
    | false =>
      rw [ends, Bool.toNat_false] at first
      rw [if_neg Bool.false_ne_true]
      omega

end Consumer

/-- Only the last outcome of a bounded consume ends it. -/
theorem PollsOn.countP_ends {config : Config} {count timeout : Nat} {firstOnly : Bool}
    {timeouts : List Nat} {outcomes : List Outcome}
    (polls : PollsOn config count timeout firstOnly timeouts outcomes) :
    outcomes.countP Outcome.ends ≤ 1 := by
  obtain rfl | ⟨before, last, rfl⟩ := outcomes.eq_nil_or_concat
  · exact Nat.zero_le _
  · obtain ⟨_, going⟩ := polls.goesOn before last [] (by rw [List.concat_eq_append])
    have none : before.countP Outcome.ends = 0 := by
      apply List.countP_eq_zero.mpr
      intro earlier inside
      rw [going earlier inside]
      exact Bool.false_ne_true
    rw [List.concat_eq_append, List.countP_append, none, Nat.zero_add]
    exact List.countP_le_length

/-- A bounded consume answers with the records that it polled. -/
theorem BoundedConsume.recordsOf {config : Config} {count timeout : Nat} {firstOnly : Bool}
    {timeouts : List Nat} {outcomes : List Outcome} {result : Except ConsumerError Batch}
    (bounded : BoundedConsume config count timeout firstOnly timeouts outcomes result) :
    Batch.recordsOf result = (Batch.of outcomes).messages := by
  cases done : result with
  | ok batch => rw [bounded.answers batch done, Batch.recordsOf]
  | error error => rw [((bounded.fails error).mp done).2, Batch.recordsOf]

/-- Where two ways to consume come to the same as long as a condition holds, the loop over one comes
to what the loop over the other does. -/
theorem Gathers.congr {σ : Type} {first second : Nat → StateM σ Outcome} (holds : σ → Prop)
    (same : ∀ timeout state, holds state → first timeout state = second timeout state)
    (kept : ∀ timeout state, holds state → holds (first timeout state).2) {count : Nat}
    {next : Option Nat} {state final : σ} {gathering : Gathering}
    {result : Except ConsumerError Batch} (held : holds state)
    (gathers : Gathers first count next state gathering result final) :
    Gathers second count next state gathering result final := by
  induction gathers with
  | enough reached => exact .enough reached
  | @going state final gathering longer result short goes rest ih =>
    have still := kept gathering.timeout state held
    rw [same gathering.timeout state held] at goes ih still
    exact .going short goes (ih still)
  | @ended state gathering result short stops =>
    rw [same gathering.timeout state held] at stops ⊢
    exact .ended short stops

/-- A bounded consume returns, for every count and timeout and whatever the cluster holds, the
handle reads and the script says: its loop, which has no bound on the polls, comes to what it
answers with and to the site that it leaves. It polls the cluster at most twice for each record that
it answers with, and once for each entry that it reads, for each failure that was scripted for
its polls, and once more. It reads the partitions that it read before, or if those were none, the
ones of the group that it has joined. -/
theorem bounded_consume_returns (site : Site) (count timeout : Nat) (firstOnly : Bool) :
    let ran := (Consumer.consumeMany count timeout firstOnly).run site
    Gathers (fun timeout => (Consumer.consume timeout).run) count
        (site.consumer.config.nextTimeout? firstOnly) site { timeout } ran.1 ran.2 ∧
      ran.2.cluster.polls ≤ site.cluster.polls +
        (2 * (Batch.recordsOf ran.1).length + ran.2.reads.length + site.cluster.pollFailures + 1) ∧
      (ran.2.reads.map Assigned.key = site.reads.map Assigned.key ∨
        site.reads = [] ∧
          ran.2.reads.map Assigned.key = site.readsJoined.map Assigned.key) := by
  intro ran
  have own : site.consumer.config = site.consumer.config := rfl
  have gathers : Gathers (consuming site.consumer.config Consumer.pollHandle) count
      (site.consumer.config.nextTimeout? firstOnly) site { timeout } ran.1 ran.2 :=
    Consumer.gather_gathers own count (site.consumer.config.nextTimeout? firstOnly)
      (Consumer.backlog_lt_pollBound site) { timeout }
  obtain ⟨timeouts, answers, polled, bounded⟩ := gathers_iff.mp gathers
  have pays := Consumer.mapM_pollHandle_pays timeouts site
  have reads := (Consumer.mapM_pollHandle_readsOn timeouts site).reads
  have once := bounded.countP_ends
  have ends : Assigned.reported ran.2.reads ≤ ran.2.reads.length := List.countP_le_length
  rw [polled] at pays reads
  dsimp only at pays
  rw [← bounded.recordsOf] at pays
  refine ⟨?_, by omega, reads⟩
  refine gathers.congr (fun state => state.consumer.config = site.consumer.config) ?_ ?_ own
  · intro timeout state same
    rw [Consumer.consume_eq, same]
  · intro timeout state same
    exact (Consumer.config_pollHandle _ state).trans same

end LogConsumer
