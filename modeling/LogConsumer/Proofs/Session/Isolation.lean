import LogConsumer.Proofs.Client.Likeness
import LogConsumer.Proofs.Link.Run
import LogConsumer.Proofs.Session.Steps

/-!
# Isolation of groups

Clients of different groups do not notice each other. A call of one touches neither the logs nor
what another group has committed (`ClientCall.alike_perform`), so to the other client the cluster
before and after it are alike, and its own calls answer and act the same on clusters that are alike
(`ClientCall.respects`). Over a whole run, all that one client is answered and becomes is what it
would be answered and become if the calls of the others were left out: the main result is
`Session.isolated`.
-/
namespace LogConsumer

open Client

namespace Cluster

namespace Alike

variable {group : Option String} {left right : Cluster}

/-- A partition has the same log on clusters that are alike. -/
theorem log (alike : Alike group left right) (key : PartitionKey) :
    left.log key = right.log key := by
  unfold Cluster.log
  rw [alike.topics]

/-- Replacing a log leaves clusters alike. -/
theorem putLog (alike : Alike group left right) (key : PartitionKey) (log : PartitionLog) :
    Alike group (left.putLog key log) (right.putLog key log) := by
  unfold Cluster.putLog
  rw [alike.topics]
  split
  · exact alike
  · exact ⟨rfl, alike.commits, alike.quiet, alike.quiet'⟩

/-- Creating a topic leaves clusters alike. -/
theorem createTopic (alike : Alike group left right) (topic : String) (partitions : Nat) :
    Alike group (left.createTopic topic partitions) (right.createTopic topic partitions) := by
  unfold Cluster.createTopic
  rw [alike.topics]
  exact ⟨rfl, alike.commits, alike.quiet, alike.quiet'⟩

/-- Producing answers the same on clusters that are alike, and leaves them alike. -/
theorem produce (alike : Alike group left right) (key : PartitionKey) (record : Record) :
    (left.produce key record).1 = (right.produce key record).1 ∧
      Alike group (left.produce key record).2 (right.produce key record).2 := by
  unfold Cluster.produce
  rw [alike.log]
  split
  · exact ⟨rfl, alike⟩
  · exact ⟨rfl, alike.putLog key _⟩

/-- Deleting records answers the same on clusters that are alike, and leaves them alike. -/
theorem deleteRecords (alike : Alike group left right) (key : PartitionKey) (before : Int) :
    (left.deleteRecords key before).1 = (right.deleteRecords key before).1 ∧
      Alike group (left.deleteRecords key before).2 (right.deleteRecords key before).2 := by
  unfold Cluster.deleteRecords
  rw [log?_congr alike.topics]
  split
  · exact ⟨rfl, alike⟩
  · exact ⟨rfl, alike.putLog key _⟩

end Alike

end Cluster

namespace ClientCall

/-- A call that does not commit keeps all committed offsets. -/
theorem keeps_commits {call : ClientCall}
    (spares : ∀ partitions mode, call ≠ .commit partitions mode) :
    Keeps (fun link => link.cluster.commits) call.perform := by
  have scripts : IgnoresScripts fun link => link.cluster.commits := fun _ _ => rfl
  cases call with
  | commit partitions mode => exact absurd rfl (spares partitions mode)
  | name | subscription | rebalanceProtocol => exact fun _ => rfl
  | close => exact keeps_ofAction _ (keeps_close scripts fun _ => rfl)
  | subscribe topics => exact keeps_ofAction _ (keeps_subscribe scripts topics fun _ => rfl)
  | unsubscribe => exact keeps_ofAction _ (keeps_update fun _ => rfl)
  | assign partitions => exact keeps_ofAction _ (keeps_assign scripts partitions fun _ _ => rfl)
  | unassign => exact keeps_ofAction _ (keeps_unassign scripts fun _ => rfl)
  | incrementalAssign partitions =>
    exact keeps_ofAction _ (keeps_incrementalAssign scripts partitions fun _ _ => rfl)
  | incrementalUnassign partitions =>
    exact keeps_ofAction _ (keeps_incrementalUnassign scripts partitions fun _ => rfl)
  | assignment => exact keeps_ofAction _ (keeps_assignedPartitions scripts)
  | committed partitions timeout => exact keeps_ofWriteBack _ (keeps_committed scripts partitions)
  | position partitions => exact keeps_ofWriteBack _ (keeps_position partitions)
  | seek tp timeout => exact keeps_ofAction _ (keeps_seek scripts tp fun _ _ _ _ => rfl)
  | pause partitions | resume partitions =>
    exact keeps_ofWriteBack _
      (.bind (keeps_sweepAssignment _ partitions fun _ => rfl) fun _ => .pure _)
  | storeOffsets partitions =>
    exact keeps_ofWriteBack _ (keeps_storeOffsets scripts partitions fun _ => rfl)
  | poll timeout =>
    exact .bind (keeps_poll timeout (fun _ _ _ _ => rfl) fun _ _ => rfl) fun _ => .pure _
  | offsetsForTimes partitions timeout =>
    exact keeps_ofWriteBack _ (keeps_offsetsForTimes scripts partitions)
  | cachedWatermarks key => exact keeps_ofAction _ (keeps_watermarks scripts key)
  | queryWatermarks key timeout => exact keeps_ofAction _ (keeps_watermarks scripts key)

/-- A client commits for no group but its own. -/
theorem committed?_perform {group : String} {link : Link}
    (stranger : link.client.settings.group ≠ some group) (call : ClientCall) (key : PartitionKey) :
    (call.perform link).2.cluster.committed? group key = link.cluster.committed? group key := by
  by_cases commits : ∃ partitions mode, call = .commit partitions mode
  · obtain ⟨partitions, mode, rfl⟩ := commits
    have unscripted := committed?_scripted .commit link group key
    change ((Client.commit partitions).run link).2.cluster.committed? group key = _
    obtain ⟨_, refused⟩ | ⟨own, grouped, committed⟩ := Client.commit_cases partitions link
    · rw [refused]
      exact unscripted
    · rw [committed]
      have apart : own ≠ group := by
        rintro rfl
        exact stranger grouped
      exact (Cluster.committed?_commitAll apart _ _ key).trans unscripted
  · have kept : (call.perform link).2.cluster.commits = link.cluster.commits :=
      keeps_commits (fun partitions mode same => commits ⟨partitions, mode, same⟩) link
    rw [Cluster.committed?, Cluster.committed?, kept]

/-- What a client of another group does leaves a cluster that is alike to a client of the group. -/
theorem alike_perform {group : Option String} {link : Link}
    (quiet : ∀ primitive, link.cluster.LetsThrough primitive)
    (stranger : ∀ name, group = some name → link.client.settings.group ≠ some name)
    (call : ClientCall) : link.cluster.Alike group (call.perform link).2.cluster where
  topics := (congrArg Link.Fixture.topics (perform_keeps_fixture call link)).symm
  commits name own key := (committed?_perform (stranger name own) call key).symm
  quiet := quiet
  quiet' := (call.respects link link ⟨rfl, .refl quiet⟩).2.cluster.quiet

/-- A call keeps the settings of the client. -/
theorem perform_settings (call : ClientCall) (link : Link) :
    (call.perform link).2.client.settings = link.client.settings :=
  congrArg Link.Fixture.settings (call.perform_keeps_fixture link)

end ClientCall

namespace Session

/-- The step is a call on a client that is used without a consumer, or changes the logs. -/
def Step.IsPlain : Step → Prop
  | .client _ _ | .cluster (.createTopic _ _) | .cluster (.produce _ _ _ _)
  | .cluster (.deleteRecords _ _) => True
  | _ => False

/-- The step is a call on another client than the one of this number. -/
def Step.isForeign (number : Nat) : Step → Bool
  | .client other _ => other != number
  | _ => false

/-- The answers to those steps of a run that are kept. -/
def answersTo (keeps : Step → Bool) (steps : List Step) (answers : List Answer) : List Answer :=
  ((steps.zip answers).filter fun told => keeps told.1).map Prod.snd

/-- No other client is of the group. -/
def Apart (number : Nat) (group : Option String) (session : Session) : Prop :=
  ∀ other stranger, other ≠ number → session.clients[other]? = some stranger →
    ∀ name, group = some name → stranger.settings.group ≠ some name

/-- To the client of this number, which is of the group, both sessions are alike. -/
structure AlikeTo (number : Nat) (group : Option String) (left right : Session) : Prop where
  /-- Records that are given no time get the same. -/
  clock : left.clock = right.clock
  /-- The client is the same, and of the group. -/
  client : ∃ client : Client, client.settings.group = group ∧
    left.clients[number]? = some client ∧ right.clients[number]? = some client
  /-- The clusters are alike for the group. -/
  cluster : left.cluster.Alike group right.cluster
  /-- In the first session no other client is of the group. -/
  apart : left.Apart number group

/-- A change of the logs is answered the same on clusters that are alike, and leaves them alike. -/
theorem ClusterStep.respects_alike {step : ClusterStep} (plain : (Step.cluster step).IsPlain)
    {group : Option String} (clock : Int) :
    Respects (Cluster.Alike group) (step.perform clock) := by
  intro left right alike
  cases step with
  | createTopic topic partitions => exact ⟨rfl, alike.createTopic topic partitions⟩
  | produce key recordKey payload timestamp =>
    obtain ⟨answer, after⟩ :=
      alike.produce key { key := recordKey, payload, timestamp := timestamp.getD clock }
    rw [Link.perform_produce _ _ _ _ _ _ rfl, Link.perform_produce _ _ _ _ _ _ rfl, answer]
    exact ⟨rfl, after⟩
  | deleteRecords key before =>
    obtain ⟨answer, after⟩ := alike.deleteRecords key before
    exact ⟨congrArg (Except.map fun _ => none) answer, after⟩
  | _ => exact plain.elim

namespace AlikeTo

variable {number : Nat} {group : Option String} {left right : Session}

/-- No other client comes into the group by a call on one that stays in its own. -/
theorem apart_set {session : Session} {cluster : Cluster} {place : Nat} {before after : Client}
    (apart : session.Apart number group) (present : session.clients[place]? = some before)
    (settings : after.settings = before.settings) :
    Apart number group { session with cluster, clients := session.clients.set place after } := by
  intro other stranger differs there name own
  by_cases here : other = place
  · subst here
    obtain ⟨inside, _⟩ := List.getElem?_eq_some_iff.mp present
    cases (List.getElem?_set_self inside).symm.trans there
    rw [settings]
    exact apart other before differs present name own
  · exact apart other stranger differs ((List.getElem?_set_ne (Ne.symm here)).symm.trans there)
      name own

/-- A step that is not foreign answers the same in both sessions and leaves them alike. -/
theorem step {step : Step} (alike : AlikeTo number group left right) (plain : step.IsPlain)
    (own : step.isForeign number = false) :
    (step.perform left).1 = (step.perform right).1 ∧
      AlikeTo number group (step.perform left).2 (step.perform right).2 := by
  obtain ⟨client, grouped, present, present'⟩ := alike.client
  cases step with
  | consumer | listen | receive => exact plain.elim
  | cluster step =>
    obtain ⟨answer, after⟩ := ClusterStep.respects_alike plain left.clock _ _ alike.cluster
    have clock : (Step.cluster step).perform right =
        (.cluster (step.perform left.clock right.cluster).1,
          { right with cluster := (step.perform left.clock right.cluster).2 }) := by
      rw [alike.clock]
      rfl
    rw [clock]
    exact ⟨congrArg Answer.cluster answer, alike.clock, alike.client, after, alike.apart⟩
  | client other call =>
    obtain rfl : other = number := by simpa [Step.isForeign] using own
    obtain ⟨answer, same, after⟩ :=
      call.respects ⟨client, left.cluster⟩ ⟨client, right.cluster⟩ ⟨rfl, grouped ▸ alike.cluster⟩
    have settings := call.perform_settings ⟨client, left.cluster⟩
    have ran (session : Session) (there : session.clients[other]? = some client) :
        (Step.client other call).perform session = _ :=
      congrArg (fun ran : Option ClientAnswer × Session =>
          ((ran.1.map Answer.client).getD .nobody, ran.2))
        (throughClient_run there call.perform)
    rw [ran left present, ran right present']
    obtain ⟨inside, _⟩ := List.getElem?_eq_some_iff.mp present
    obtain ⟨inside', _⟩ := List.getElem?_eq_some_iff.mp present'
    have group' : (call.perform ⟨client, left.cluster⟩).2.client.settings.group = group := by
      rw [settings]
      exact grouped
    refine ⟨congrArg Answer.client answer, alike.clock, ?_, ?_,
      apart_set alike.apart present settings⟩
    · refine ⟨_, group', List.getElem?_set_self inside, ?_⟩
      rw [same]
      exact List.getElem?_set_self inside'
    · rw [← group']
      exact after

/-- A foreign step leaves the sessions alike if it is left out of the second one. -/
theorem foreign {step : Step} (alike : AlikeTo number group left right)
    (foreign : step.isForeign number = true) :
    AlikeTo number group (step.perform left).2 right := by
  obtain ⟨client, grouped, present, present'⟩ := alike.client
  cases step with
  | consumer | listen | receive | cluster => contradiction
  | client other call =>
    have differs : other ≠ number := by simpa [Step.isForeign] using foreign
    change AlikeTo number group (throughClient other call.perform left).2 right
    cases there : left.clients[other]? with
    | none =>
      rw [throughClient_absent there]
      exact alike
    | some stranger =>
      rw [throughClient_run there]
      have stays := alike.apart other stranger differs there
      have moved : left.cluster.Alike group (call.perform ⟨stranger, left.cluster⟩).2.cluster :=
        @ClientCall.alike_perform group ⟨stranger, left.cluster⟩ alike.cluster.quiet stays call
      refine ⟨alike.clock, ⟨client, grouped, ?_, present'⟩, moved.symm.trans alike.cluster, ?_⟩
      · exact (List.getElem?_set_ne differs).trans present
      · exact apart_set alike.apart there (call.perform_settings ⟨stranger, left.cluster⟩)

/-- A run of plain steps answers what is not foreign as the run without the foreign steps does, and
leaves the sessions alike. -/
theorem run {steps : List Step} (alike : AlikeTo number group left right)
    (plain : ∀ step ∈ steps, step.IsPlain) :
    let keeps (step : Step) : Bool := !step.isForeign number
    answersTo keeps steps (Session.run steps left).1 =
        (Session.run (steps.filter keeps) right).1 ∧
      AlikeTo number group (Session.run steps left).2
        (Session.run (steps.filter keeps) right).2 := by
  intro keeps
  induction steps generalizing left right with
  | nil => exact ⟨rfl, alike⟩
  | cons step steps ih =>
    have later := fun other inside => plain other (List.mem_cons_of_mem step inside)
    have first : answersTo keeps (step :: steps) (Session.run (step :: steps) left).1 = _ :=
      congrArg (fun answers => answersTo keeps (step :: steps) answers.1) (run_cons step steps left)
    rw [first, run_cons]
    cases foreign : step.isForeign number with
    | true =>
      have out : keeps step = false := by simp [keeps, foreign]
      rw [List.filter_cons_of_neg (by simp [out])]
      obtain ⟨answers, after⟩ := ih (alike.foreign foreign) later
      refine ⟨?_, after⟩
      rw [← answers]
      simp [answersTo, out]
    | false =>
      have kept : keeps step = true := by simp [keeps, foreign]
      rw [List.filter_cons_of_pos kept, run_cons]
      obtain ⟨answer, here⟩ := alike.step (plain step List.mem_cons_self) foreign
      obtain ⟨answers, after⟩ := ih here later
      refine ⟨?_, after⟩
      rw [← answers, ← answer]
      simp [answersTo, kept]

end AlikeTo

/-- Clients of different groups are isolated. In a session whose cluster scripts no failure, calls
on a client are interleaved in any way with calls on the others, none of which is of its group, and
with changes of the logs. If the calls on the others are left out, the client and the cluster answer
the same, step by step; the client ends the same, and the same is committed for its group. -/
theorem isolated {session : Session} {number : Nat} {client : Client} {steps : List Step}
    (present : session.clients[number]? = some client)
    (quiet : ∀ primitive, session.cluster.LetsThrough primitive)
    (apart : session.Apart number client.settings.group) (plain : ∀ step ∈ steps, step.IsPlain) :
    let keeps (step : Step) : Bool := !step.isForeign number
    let whole := run steps session
    let alone := run (steps.filter keeps) session
    answersTo keeps steps whole.1 = alone.1 ∧
      whole.2.clients[number]? = alone.2.clients[number]? ∧
      ∀ group, client.settings.group = some group → ∀ key,
        whole.2.cluster.committed? group key = alone.2.cluster.committed? group key := by
  intro keeps whole alone
  have alike : AlikeTo number client.settings.group session session :=
    ⟨rfl, ⟨client, rfl, present, present⟩, .refl quiet, apart⟩
  obtain ⟨answers, after⟩ := alike.run plain
  obtain ⟨final, _, here, there⟩ := after.client
  exact ⟨answers, here.trans there.symm, after.cluster.commits⟩

/-- A client of one group reads and commits beside a client of another group, which reads, commits
and closes too, and a client of no group. It is answered as if it were alone, and its commit is the
same. -/
theorem isolated_beside_strangers :
    let client (group : Option String) : Client :=
      { name := "reader", serial := 1, settings := ⟨group, false, true, false⟩ }
    let session : Session := { clients := [client (some "g"), client (some "h"), client none] }
    let tp : TopicPartition := { topic := "orders", partition := 0 }
    let steps : List Step :=
      [.cluster (.createTopic "orders" 1), .client 0 (.subscribe ["orders"]),
        .cluster (.produce tp.key none [1] (some 5)), .client 1 (.assign [tp]),
        .client 1 (.poll 10), .client 0 (.poll 10), .client 1 (.commit none .sync),
        .client 2 (.assign [tp]), .client 0 (.commit none .sync), .client 2 (.poll 10),
        .cluster (.deleteRecords tp.key 1), .client 1 .close, .client 0 (.committed [tp] 10)]
    let alone := run (steps.filter fun step => !step.isForeign 0) session
    alone.1.length = 7 ∧
      answersTo (fun step => !step.isForeign 0) steps (run steps session).1 = alone.1 ∧
      (run steps session).2.cluster.committed? "g" tp.key =
        alone.2.cluster.committed? "g" tp.key ∧
      alone.2.cluster.committed? "g" tp.key = some 1 := by
  intro client session tp steps
  have quiet (primitive : Primitive) : session.cluster.LetsThrough primitive :=
    List.forall_mem_nil _
  have apart : session.Apart 0 (some "g") := by
    intro other stranger differs there name own
    cases own
    obtain _ | _ | _ | _ := other
    · exact absurd rfl differs
    · cases there
      decide
    · cases there
      decide
    · contradiction
  have plain : ∀ step ∈ steps, step.IsPlain := by
    simp [steps, Step.IsPlain]
  have present : session.clients[0]? = some (client (some "g")) := rfl
  have alike := isolated present quiet apart plain
  exact ⟨by decide +kernel, alike.1, alike.2.2 "g" rfl tp.key, by decide +kernel⟩

end Session

end LogConsumer
