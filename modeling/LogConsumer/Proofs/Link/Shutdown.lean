import LogConsumer.Proofs.Cluster.Commits
import LogConsumer.Proofs.Link.Ownership
import LogConsumer.Proofs.Link.Turns
import LogConsumer.Proofs.Session.Isolation

/-!
# A handle that is shut down

What is left of a handle once it is shut down. Shutting down empties the subscription and the
assignment, and every call that could fill them again asks for an open handle
(`ClientCall.shut_perform`), so such a handle polls nothing and reaches no log.

It can still commit. A commit asks for a group but not for an open handle, so a list of offsets goes
through: `Client.Publishes` says when that makes a difference. The main result, `inert_iff`, is that
nothing else a shut handle is called for shows on the cluster.
-/
namespace LogConsumer

open Client

namespace Client

/-- The handle is shut down, and nothing is left of what it read. -/
structure Shut (client : Client) : Prop where
  /-- The handle has been shut down. -/
  closed : client.closed = true
  /-- It subscribes to nothing. -/
  subscription : client.subscription = []
  /-- It reads nothing. -/
  assignment : client.assignment = []

/-- Shutting down leaves a handle shut, whether it fails as scripted or not. -/
theorem close_shuts (link : Link) : (close.run link).2.client.Shut :=
  ⟨rfl, rfl, rfl⟩

/-- Committing makes a difference: it is let through, the handle has a group, and the last offset
that is to be committed for some partition is not what the group has committed already. -/
def Publishes (link : Link) (partitions : Option (List TopicPartition)) : Prop :=
  (link.cluster.takeFault .commit).1 = none ∧
    ∃ group key offset, link.client.settings.group = some group ∧
      (pendingOffsets partitions link.client.assignment).reverse.lookup key = some offset ∧
      link.cluster.committed? group key ≠ some offset

/-- A shut handle has stored nothing that it could commit. -/
theorem not_publishes_stored {link : Link} (shut : link.client.Shut) : ¬Publishes link none := by
  rintro ⟨_, _, _, _, _, listed, _⟩
  rw [shut.assignment] at listed
  contradiction

/-- A commit that went through was let through. -/
theorem unscripted_of_commit {link after : Link} {partitions : Option (List TopicPartition)}
    (done : (commit partitions).run link = (.ok (), after)) :
    (link.cluster.takeFault .commit).1 = none := by
  cases fault : (link.cluster.takeFault .commit).1 with
  | none => rfl
  | some error =>
    have refused : (commit partitions).run link = _ := run_bind_error (takeFault_error fault)
    rw [refused] at done
    cases done

/-- A commit leaves everything that is committed as it is exactly if it makes no difference. -/
theorem commit_leaves_iff (partitions : Option (List TopicPartition)) (link : Link) :
    (∀ group key, ((commit partitions).run link).2.cluster.committed? group key =
      link.cluster.committed? group key) ↔ ¬Publishes link partitions := by
  constructor
  · rintro leaves ⟨unscripted, group, key, offset, grouped, listed, other⟩
    have same := leaves group key
    rw [commit_run partitions grouped unscripted, Cluster.committed?_commitAll_own, listed] at same
    exact other same.symm
  · intro silent group key
    have before := committed?_scripted .commit link group key
    obtain ⟨_, refused⟩ | ⟨own, grouped, done⟩ := commit_cases partitions link
    · rw [refused]
      exact before
    · have unscripted := unscripted_of_commit done
      rw [done]
      by_cases mine : own = group
      · subst mine
        rw [Cluster.committed?_commitAll_own, before]
        cases listed : (pendingOffsets partitions link.client.assignment).reverse.lookup key with
        | none => rfl
        | some offset =>
          have same : link.cluster.committed? own key = some offset := by
            by_contra other
            exact silent ⟨unscripted, own, key, offset, grouped, listed, other⟩
          rw [same]
          rfl
      · exact (Cluster.committed?_commitAll mine _ _ key).trans before

end Client

namespace ClientCall

/-- Whatever a shut handle is called for, it stays shut. -/
theorem shut_perform {link : Link} (shut : link.client.Shut) (call : ClientCall) :
    (call.perform link).2.client.Shut := by
  have retires : (call.perform link).2.client.Retires :=
    retires_perform fun _ => shut.assignment
  have kept (spares : call.SparesSubscription) : (call.perform link).2.client.Shut := by
    have standing := keeps_standing spares link
    simp only [Prod.mk.injEq] at standing
    have closed := standing.1.trans shut.closed
    exact ⟨closed, standing.2.trans shut.subscription, retires closed⟩
  cases call with
  | close => exact close_shuts link
  | unsubscribe => exact ⟨shut.closed, rfl, rfl⟩
  | subscribe topics =>
    change ((Client.subscribe topics).run link).2.client.Shut
    obtain ⟨_, refused⟩ | ⟨⟨_, opened⟩, _⟩ := Client.subscribe_cases topics link
    · rw [refused]
      exact shut
    · exact absurd (opened.symm.trans shut.closed) Bool.false_ne_true
  | _ => exact kept trivial

/-- No call but a poll answers with a message. -/
theorem exists_of_message {call : ClientCall} {link : Link} {message : Message}
    (answered : (call.perform link).1.outcome = .ok (.message message)) :
    ∃ timeout, call = .poll timeout := by
  have unanswered {α : Type} (reply : α → ClientReply)
      (other : ∀ value, reply value ≠ .message message)
      (outcome : Except ClientError α) : outcome.map reply ≠ .ok (.message message) := by
    cases outcome with
    | error error => nofun
    | ok value => exact fun mapped => other value (Except.ok.inj mapped)
  cases call with
  | poll timeout => exact ⟨timeout, rfl⟩
  | name | unsubscribe | subscription | position | pause | resume | rebalanceProtocol =>
    cases answered
  | assignment => exact absurd answered (unanswered .partitions nofun _)
  | cachedWatermarks | queryWatermarks => exact absurd answered (unanswered .watermarks nofun _)
  | _ => exact absurd answered (unanswered (fun _ => .done) nofun _)

/-- Where a shut handle is called for this, it stays shut, no log changes, and a message that is
answered is an empty one. -/
structure Idle (link : Link) (call : ClientCall) : Prop where
  /-- The handle stays shut. -/
  shut : (call.perform link).2.client.Shut
  /-- No log changes. -/
  topics : (call.perform link).2.cluster.topics = link.cluster.topics
  /-- A message that is answered carries nothing but its code. -/
  silent : ∀ message, (call.perform link).1.outcome = .ok (.message message) →
    message = .empty (emptyCode link)

/-- Every call of a shut handle is idle. -/
theorem idle_of_shut {link : Link} (shut : link.client.Shut) (call : ClientCall) :
    call.Idle link where
  shut := shut_perform shut call
  topics := congrArg Link.Fixture.topics (perform_keeps_fixture call link)
  silent := by
    intro message answered
    obtain ⟨timeout, rfl⟩ := exists_of_message answered
    have polled : (Client.poll timeout link).1.message = message :=
      ClientReply.message.inj (Except.ok.inj answered)
    exact polled.symm.trans (poll_unread shut.subscription shut.assignment timeout)

/-- The call leaves everything that any group has committed as it is. -/
def LeavesCommits (link : Link) (call : ClientCall) : Prop :=
  ∀ group key, (call.perform link).2.cluster.committed? group key =
    link.cluster.committed? group key

/-- The call commits a list, and that makes a difference. -/
def Publishes (link : Link) : ClientCall → Prop
  | .commit (some partitions) _ => Client.Publishes link (some partitions)
  | _ => False

/-- A call of a shut handle leaves what is committed as it is exactly if it does not commit a list
that makes a difference. -/
theorem leavesCommits_iff {link : Link} (shut : link.client.Shut) (call : ClientCall) :
    call.LeavesCommits link ↔ ¬call.Publishes link := by
  have unchanged (spares : ∀ partitions mode, call ≠ .commit partitions mode) :
      call.LeavesCommits link := by
    intro group key
    have kept : (call.perform link).2.cluster.commits = link.cluster.commits :=
      keeps_commits spares link
    rw [Cluster.committed?, Cluster.committed?, kept]
  cases call with
  | commit partitions mode =>
    have leaves :
        LeavesCommits link (.commit partitions mode) ↔ ¬Client.Publishes link partitions :=
      commit_leaves_iff partitions link
    cases partitions with
    | some list => exact leaves
    | none => exact iff_of_true (leaves.mpr (not_publishes_stored shut)) id
  | _ =>
    refine iff_of_true (unchanged fun _ _ same => ?_) id
    cases same

end ClientCall

namespace Link

/-- A handle that is shut stays so over every step. -/
theorem Step.shut_next {link : Link} (shut : link.client.Shut) (step : Step) :
    (step.next link).client.Shut := by
  cases step with
  | call request => exact ClientCall.shut_perform shut request
  | cluster step clock => exact shut
  | elsewhere others => exact shut

/-- Over every run of a shut handle a condition on its calls is met if every call of a shut handle
meets it. -/
theorem throughout_of_shut {condition : Link → ClientCall → Prop}
    (met : ∀ {link : Link}, link.client.Shut → ∀ call, condition link call)
    {link : Link} (shut : link.client.Shut) (steps : List Step) :
    Throughout (fun link step => step.Calls condition link) link steps := by
  induction steps generalizing link with
  | nil => trivial
  | cons step steps ih =>
    refine ⟨?_, ih (step.shut_next shut)⟩
    cases step with
    | call request => exact met shut request
    | cluster step clock => trivial
    | elsewhere others => trivial

/-- Over a run of a shut handle what any group has committed stays as it is, call by call, exactly
if no call of it commits a list that makes a difference. -/
theorem leavesCommits_run {link : Link} (shut : link.client.Shut) (steps : List Step) :
    Throughout (fun link step => step.Calls ClientCall.LeavesCommits link) link steps ↔
      Throughout (fun link step => step.Calls (fun link call => ¬call.Publishes link) link)
        link steps := by
  induction steps generalizing link with
  | nil => exact Iff.rfl
  | cons step steps ih =>
    refine and_congr ?_ (ih (step.shut_next shut))
    cases step with
    | call request => exact ClientCall.leavesCommits_iff shut request
    | cluster step clock => exact Iff.rfl
    | elsewhere others => exact Iff.rfl

/-- A handle is shut down, be it that this fails as scripted, and then anything is called on it,
while others use the cluster and failures are scripted. Every call leaves it subscribing to nothing
and reading nothing, changes no log, and answers with no message but an empty one. But what the
groups have committed stays as it is exactly if no call commits a list that makes a difference:
nothing but such a commit is let through, and every such commit is. -/
theorem inert_iff (link : Link) (steps : List Step) :
    let shut := (Step.call .close).next link
    Throughout (fun link step => step.Calls ClientCall.Idle link) shut steps ∧
    (Throughout (fun link step => step.Calls ClientCall.LeavesCommits link) shut steps ↔
      Throughout (fun link step => step.Calls (fun link call => ¬call.Publishes link) link)
        shut steps) := by
  intro shut
  have emptied : shut.client.Shut := close_shuts link
  exact ⟨throughout_of_shut ClientCall.idle_of_shut emptied steps,
    leavesCommits_run emptied steps⟩

/-- A fresh handle with a group is shut down and then commits a list: the commit succeeds, and the
group has committed the offset of the list. -/
theorem committed_after_close :
    let cluster := ({} : Cluster).createTopic "t" 1
    let tp : TopicPartition := { topic := "t", partition := 0, offset := .absolute 5 }
    let commit : ClientCall := .commit (some [tp]) .sync
    ∃ client cluster', Client.create { groupId := some "g" } "" cluster = (.ok client, cluster') ∧
      let closed := ClientCall.close.perform ⟨client, cluster'⟩
      closed.1.outcome = .ok .done ∧ closed.2.client.Shut ∧
      closed.2.cluster.committed? "g" tp.key = none ∧
      (commit.perform closed.2).1.outcome = .ok .done ∧
      (commit.perform closed.2).2.cluster.committed? "g" tp.key = some 5 :=
  ⟨_, _, rfl, rfl, ⟨rfl, rfl, rfl⟩, by decide +kernel, rfl, by decide +kernel⟩

end Link

end LogConsumer
