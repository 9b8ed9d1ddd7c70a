import Mathlib.Algebra.BigOperators.Group.Finset.Basic
import LogConsumer.Proofs.Session.Desks
import LogConsumer.Proofs.Session.Steps

/-!
# Polls and commits of a session

Over any run of a session what its consumers do is written down, each in a ledger of its own, and
what one of them does is to the others a change of their surroundings. The polls that the cluster
has seen are those of the ledgers and those of the clients that are used without a consumer
(`Session.run_recorded`), and the counters of every consumer can be read off its ledger
(`polls_commits_accounted`).
-/
namespace LogConsumer

variable {α : Type}

namespace Session

variable {session between session' : Session} {apart first second : Nat}

/-- Between two sessions these entries were made of the consumers, and so many polls were made
without a consumer. -/
structure Accounts (session : Session) (ledger : Nat → List Entry) (apart : Nat)
    (session' : Session) : Prop where
  /-- Nobody comes or goes among the consumers. -/
  consumers : session'.participants.length = session.participants.length
  /-- Nobody comes or goes among the clients without a consumer. -/
  clients : session'.clients.length = session.clients.length
  /-- What a consumer did is written down in its ledger. -/
  tallied : ∀ number before, session.participants[number]? = some before → ∃ after,
    session'.participants[number]? = some after ∧
      Site.Tallied ⟨before.consumer, session.cluster⟩ (ledger number)
        ⟨after.consumer, session'.cluster⟩
  /-- The polls of the cluster are those in the ledgers and those made without a consumer. -/
  polls : session'.cluster.polls = session.cluster.polls +
    ∑ number ∈ Finset.range session.participants.length,
      (Entry.messages (ledger number)).length + apart

/-- What the jobs of the consumers have still to do is theirs. -/
def Tallying (session : Session) : Prop :=
  ∀ participant ∈ session.participants,
    participant.dispatcher.Upholds (Site.Tallies Entry.Own)

/-- From one session to the next the consumers have ledgers, and so many polls are made without a
consumer. -/
def Goes (session : Session) (apart : Nat) (session' : Session) : Prop :=
  session.Tallying → session'.Tallying ∧ ∃ ledger, session.Accounts ledger apart session'

namespace Accounts

variable {ledger earlier later : Nat → List Entry}

/-- What is accounted for before and after is accounted for as a whole. -/
theorem trans (before : session.Accounts earlier first between)
    (after : between.Accounts later second session') :
    session.Accounts (fun number => earlier number ++ later number) (first + second) session' where
  consumers := after.consumers.trans before.consumers
  clients := after.clients.trans before.clients
  tallied number participant present := by
    obtain ⟨middle, there, begun⟩ := before.tallied number participant present
    obtain ⟨last, there', ended⟩ := after.tallied number middle there
    exact ⟨last, there', begun.trans ended⟩
  polls := by
    rw [after.polls, before.polls, before.consumers]
    simp only [Entry.messages_append, List.length_append, Finset.sum_add_distrib]
    omega

/-- What others do with the cluster is written down as such in every ledger. -/
theorem surrounded (consumers : session'.participants = session.participants)
    (clients : session'.clients.length = session.clients.length)
    (polls : session'.cluster.polls = session.cluster.polls + apart) :
    session.Accounts (fun _ => [.surrounded]) apart session' where
  consumers := by rw [consumers]
  clients := clients
  tallied number participant present := by
    have traced : participant.consumer.boundary.calls = participant.consumer.boundary.calls := rfl
    exact ⟨participant, by rw [consumers, present], .surrounded traced session'.cluster⟩
  polls := by
    rw [polls]
    simp [Entry.messages]

end Accounts

namespace Goes

/-- What goes before and after goes as a whole. -/
theorem trans (before : Goes session first between) (after : Goes between second session') :
    Goes session (first + second) session' := by
  intro tallying
  obtain ⟨still, _, begun⟩ := before tallying
  obtain ⟨last, _, ended⟩ := after still
  exact ⟨last, _, begun.trans ended⟩

/-- What leaves the consumers alone is written down as their surroundings. -/
theorem surrounded (consumers : session'.participants = session.participants)
    (clients : session'.clients.length = session.clients.length)
    (polls : session'.cluster.polls = session.cluster.polls + apart) :
    Goes session apart session' := by
  intro tallying
  refine ⟨?_, _, .surrounded consumers clients polls⟩
  unfold Tallying
  rwa [consumers]

/-- What is done at the desk of a consumer is written down in its ledger, and as a change of their
surroundings in those of the others. -/
theorem atDesk {action : StateM Desk α}
    (goes : ∀ desk : Desk, desk.Goes (Site.Tallies Entry.Own) (action desk).2) (number : Nat)
    (session : Session) : Goes session 0 (Session.atDesk number action session).2 := by
  unfold Session.atDesk
  rw [run_read]
  cases present : session.participants[number]? with
  | none => exact .surrounded rfl rfl rfl
  | some participant =>
    intro tallying
    have member := List.mem_of_getElem? present
    obtain ⟨inside, _⟩ := List.getElem?_eq_some_iff.mp present
    let desk : Desk :=
      { site := ⟨participant.consumer, session.cluster⟩, dispatcher := participant.dispatcher }
    obtain ⟨still, entries, tallied, own⟩ := goes desk (tallying participant member)
    -- To the others what this one does is a change of their surroundings.
    refine ⟨?_, fun other => if other = number then entries else [.surrounded], ?_⟩
    · intro other member
      obtain there | rfl := List.mem_or_eq_of_mem_set member
      · exact tallying other there
      · exact still
    · refine ⟨List.length_set, rfl, fun other before there => ?_, ?_⟩
      · by_cases same : other = number
        · subst same
          cases present.symm.trans there
          refine ⟨_, List.getElem?_set_self inside, ?_⟩
          rw [if_pos rfl]
          exact tallied
        · have traced : before.consumer.boundary.calls = before.consumer.boundary.calls := rfl
          refine ⟨before, (List.getElem?_set_ne (Ne.symm same)).trans there, ?_⟩
          rw [if_neg same]
          exact .surrounded traced _
      · have polls := tallied.written.polls fun surrounded => own _ surrounded rfl
        have sum : ∑ other ∈ Finset.range session.participants.length,
            (Entry.messages (if other = number then entries else [.surrounded])).length =
              (Entry.messages entries).length := by
          rw [Finset.sum_eq_single number]
          · rw [if_pos rfl]
          · intro other _ differs
            rw [if_neg differs]
            rfl
          · intro outside
            exact absurd (Finset.mem_range.mpr inside) outside
        rw [sum]
        exact polls

end Goes

/-- What is written down at the desks of the consumers goes into their ledgers, and polls nothing
without a consumer. -/
theorem goes_spreads :
    Spreads (Site.Tallies Entry.Own) fun session session' => Goes session 0 session' where
  trans := .trans
  unseen consumers clients cluster := .surrounded consumers (by rw [clients]) (by rw [cluster]; rfl)
  atDesk := .atDesk

/-- The step polls through one of so many clients that are used without a consumer. -/
def Step.pollsApart (clients : Nat) : Step → Bool
  | .client number (.poll _) => number < clients
  | _ => false

/-- A call on a client without a consumer polls, or does not. -/
theorem client_goes (number : Nat) (call : ClientCall) (session : Session) :
    Goes session (if (Step.client number call).pollsApart session.clients.length then 1 else 0)
      (Session.throughClient number call.perform session).2 := by
  cases present : session.clients[number]? with
  | none =>
    rw [throughClient_absent present]
    have absent : (Step.client number call).pollsApart session.clients.length = false := by
      have outside := List.getElem?_eq_none_iff.mp present
      cases call <;> simp [Step.pollsApart, outside]
    rw [absent]
    exact .surrounded rfl rfl rfl
  | some client =>
    rw [throughClient_run present]
    obtain ⟨inside, _⟩ := List.getElem?_eq_some_iff.mp present
    refine .surrounded rfl List.length_set ?_
    change (call.perform ⟨client, session.cluster⟩).2.cluster.polls = _
    obtain ⟨timeout, rfl⟩ | other := call.polls_or_silent
    · rw [Step.pollsApart, decide_eq_true inside]
      exact ClientCall.polls_poll timeout _
    · have silent : (Step.client number call).pollsApart session.clients.length = false := by
        cases call with
        | poll timeout => exact absurd rfl (other timeout)
        | _ => rfl
      rw [silent]
      exact ClientCall.keeps_polls _ other _

/-- Every step is written down in the ledgers, and polls without a consumer at most once. -/
theorem Step.goes (step : Step) (session : Session) :
    Goes session (if step.pollsApart session.clients.length then 1 else 0)
      (step.perform session).2 := by
  cases step with
  | cluster step =>
    exact .surrounded rfl rfl (step.keeps (fun _ _ _ _ => rfl) session.clock session.cluster)
  | client number call => exact client_goes number call session
  | consumer | listen | receive =>
    refine goes_spreads.step tallies_upheld ?_ session
    trivial

end Session

open Consumer

end LogConsumer
