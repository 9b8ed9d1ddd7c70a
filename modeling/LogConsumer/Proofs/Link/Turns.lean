import LogConsumer.Proofs.Client.Turns
import LogConsumer.Proofs.Link.Run

/-!
# Turns in a run

Every entry that is ready has its turn: whatever happens between the polls, an entry that is ready
at each of them is served by one of as many polls as there are entries. Only a poll moves the
cursor, and each poll that serves another entry brings it nearer (`Client.ahead_served`), so that
distance is what a run uses up (`exists_turn`). The main result is `serves_every_ready_entry`.
-/
namespace LogConsumer

open Client

/-- A handle that is shut down reads nothing. -/
def Client.Retires (client : Client) : Prop :=
  client.closed = true → client.assignment = []

/-- A handle is created open. -/
theorem Client.create_opened {config : Config} {fresh : String} {cluster : Cluster}
    {client : Client} (created : (Client.create config fresh cluster).1 = .ok client) :
    client.closed = false := by
  rw [Client.create_eq created]

/-- What decides whose turn it is: whether the handle is shut down, where its cursor stands, and
the partitions that it reads, in order. -/
def Link.rota (link : Link) : Bool × Nat × List PartitionKey :=
  (link.client.closed, link.client.cursor, link.client.assignment.map Assigned.key)

namespace ClientCall

/-- A call that neither says which partitions are read nor polls leaves it at whose turn it is. -/
theorem keeps_rota {call : ClientCall} (spares : call.SparesKeys)
    (polls : ∀ timeout, call ≠ .poll timeout) : Keeps Link.rota call.perform := by
  have scripts : IgnoresScripts Link.rota := fun _ _ => rfl
  have marked {link : Link} {entries : List Assigned}
      (same : entries.map Assigned.key = link.client.assignment.map Assigned.key) :
      Link.rota { link with client := { link.client with assignment := entries } } =
        link.rota := by
    unfold Link.rota
    rw [same]
  have whenSteady (steady : call.IsSteady) : Keeps Link.rota call.perform := by
    refine keeps_of_isSteady scripts (fun _ _ => rfl) (fun link entries same => marked ?_) steady
    have keys := congrArg (List.map Prod.fst) same
    simpa [List.map_map, Function.comp_def] using keys
  cases call with
  | close | subscribe | unsubscribe | assign | unassign | incrementalAssign
  | incrementalUnassign => exact spares.elim
  | poll timeout => exact absurd rfl (polls timeout)
  | seek tp timeout =>
    refine keeps_ofAction _ (keeps_seek scripts tp fun link place entries moved => marked ?_)
    exact Assigned.updateFirst?_map (fun _ => by rfl) moved
  | _ => exact whenSteady trivial

/-- A poll shuts no handle down. -/
theorem keeps_closed (timeout : Nat) :
    Keeps (fun link => link.client.closed) (Client.poll timeout) := by
  refine keeps_poll timeout (fun _ _ _ _ => rfl) fun link _ => ?_
  dsimp only
  rw [serve_rest]
  unfold joined
  dsimp only
  split <;> rfl

/-- A poll of a client that reads something keeps the partitions that are read. -/
theorem poll_keys {link : Link} (timeout : Nat) (reads : link.client.assignment ≠ []) :
    (Client.poll timeout link).2.client.assignment.map Assigned.key =
      link.client.assignment.map Assigned.key := by
  have unjoined : joined { link with cluster := counted link.cluster timeout } = link.client :=
    joined_of_assigned reads
  obtain ⟨_, _, result⟩ | ⟨_, _, result⟩ | ⟨_, _, result⟩ := poll_cases timeout link <;> rw [result]
  rw [unjoined]
  exact serve_keys _ _

/-- Whatever a handle that is shut down is called for, it goes on reading nothing. -/
theorem retires_perform {call : ClientCall} {link : Link} (retires : link.client.Retires) :
    (call.perform link).2.client.Retires := by
  have kept (spares : call.SparesKeys) (polls : ∀ timeout, call ≠ .poll timeout) :
      (call.perform link).2.client.Retires := by
    have same : (call.perform link).2.rota = link.rota := keeps_rota spares polls link
    simp only [Link.rota, Prod.mk.injEq] at same
    obtain ⟨closed, _, keys⟩ := same
    intro shut
    have nothing := retires (closed ▸ shut)
    rw [nothing] at keys
    exact List.map_eq_nil_iff.mp keys
  cases call with
  | close => exact fun _ => rfl
  | unsubscribe => exact fun _ => rfl
  | subscribe topics =>
    change ((Client.subscribe topics).run link).2.client.Retires
    obtain ⟨error, refused⟩ | ⟨_, accepted⟩ := Client.subscribe_cases topics link
    · rwa [refused]
    · rw [accepted]
      exact fun _ => rfl
  | assign partitions =>
    change ((Client.assign partitions).run link).2.client.Retires
    obtain ⟨_, error, refused⟩ | ⟨placeable, accepted⟩ := assign_cases partitions link
    · rwa [refused]
    · rw [accepted]
      intro shut
      exact absurd (placeable.opened.symm.trans shut) Bool.false_ne_true
  | unassign =>
    change (Client.unassign.run link).2.client.Retires
    obtain ⟨error, refused⟩ | accepted := unassign_cases link
    · rwa [refused]
    · rw [accepted]
      exact fun _ => rfl
  | incrementalAssign partitions =>
    change ((Client.incrementalAssign partitions).run link).2.client.Retires
    obtain ⟨error, refused⟩ | ⟨placeable, _, accepted⟩ := incrementalAssign_cases partitions link
    · rwa [refused]
    · rw [accepted]
      intro shut
      exact absurd (placeable.opened.symm.trans shut) Bool.false_ne_true
  | incrementalUnassign partitions =>
    change ((Client.incrementalUnassign partitions).run link).2.client.Retires
    obtain ⟨error, refused⟩ | accepted := incrementalUnassign_cases partitions link
    · rwa [refused]
    · rw [accepted]
      intro shut
      dsimp only
      rw [retires shut, List.filter_nil]
  | poll timeout =>
    change (Client.poll timeout link).2.client.Retires
    intro shut
    have closed : link.client.closed = true := (keeps_closed timeout link).symm.trans shut
    obtain ⟨_, _, result⟩ | ⟨_, _, result⟩ | ⟨_, opened, _⟩ := poll_cases timeout link
    · rw [result]
      exact retires closed
    · rw [result]
      exact retires closed
    · exact absurd (opened.symm.trans closed) Bool.false_ne_true
  | _ => exact kept trivial nofun

end ClientCall

namespace Link

namespace Step

/-- The step is a poll. -/
def polls : Step → Bool
  | .call (.poll _) => true
  | _ => false

/-- The step leaves the entry at a place of the assignment its turn. A poll is not scripted to fail
and finds the entry ready; any other call does not say which partitions are read; and whatever is
done to the cluster is done freely. -/
def Awaits (place : Nat) (link : Link) : Step → Prop
  | .call (.poll _) =>
    (link.cluster.takeFault .poll).1 = none ∧
      ∃ entry, link.client.assignment[place]? = some entry ∧
        entry.IsReady link.cluster link.client.settings.reportsEnd
  | .call request => request.SparesKeys
  | _ => True

/-- A step after which the entry at a place still waits for its turn: it is no poll and leaves it at
whose turn it is, or it is a poll. -/
theorem awaits_cases {place : Nat} {link : Link} {step : Step} (awaits : step.Awaits place link) :
    (step.polls = false ∧ (step.next link).rota = link.rota) ∨
    ∃ timeout, step = .call (.poll timeout) := by
  cases step with
  | cluster | elsewhere => exact .inl ⟨rfl, rfl⟩
  | call request =>
    obtain ⟨timeout, rfl⟩ | other := request.polls_or_silent
    · exact .inr ⟨timeout, rfl⟩
    · have spares : request.SparesKeys ∧ (Step.call request).polls = false := by
        cases request <;> first | exact ⟨awaits, rfl⟩ | exact absurd rfl (other _)
      exact .inl ⟨spares.2, ClientCall.keeps_rota spares.1 other link⟩

end Step

/-- A step that leaves an entry its turn neither shuts the handle down nor changes which partitions
are read. -/
theorem Step.awaits_next {place : Nat} {link : Link} {step : Step}
    (awaits : step.Awaits place link) :
    (step.next link).client.closed = link.client.closed ∧
      (step.next link).client.assignment.map Assigned.key =
        link.client.assignment.map Assigned.key := by
  obtain ⟨_, same⟩ | ⟨timeout, rfl⟩ := Step.awaits_cases awaits
  · simp only [rota, Prod.mk.injEq] at same
    exact ⟨same.1, same.2.2⟩
  · obtain ⟨_, entry, there, _⟩ := awaits
    obtain ⟨inside, _⟩ := List.getElem?_eq_some_iff.mp there
    exact ⟨ClientCall.keeps_closed timeout link,
      ClientCall.poll_keys timeout (List.ne_nil_of_length_pos (Nat.zero_lt_of_lt inside))⟩

/-- A run of such steps does neither. -/
theorem awaits_run {place : Nat} {link : Link} {steps : List Step}
    (awaits : Throughout (Step.Awaits place) link steps) :
    (run link steps).client.closed = link.client.closed ∧
      (run link steps).client.assignment.map Assigned.key =
        link.client.assignment.map Assigned.key := by
  induction steps generalizing link with
  | nil => exact ⟨rfl, rfl⟩
  | cons step steps ih =>
    obtain ⟨closed, keys⟩ := Step.awaits_next awaits.1
    obtain ⟨closed', keys'⟩ := ih awaits.2
    exact ⟨closed'.trans closed, keys'.trans keys⟩

/-- An entry that is ready at every poll is served by one of the polls, if there are more of them
than entries that are inspected before it. -/
theorem exists_turn {place : Nat} {key : PartitionKey} {link : Link} {steps : List Step}
    (opened : link.client.closed = false)
    (here : (link.client.assignment.map Assigned.key)[place]? = some key)
    (awaits : Throughout (Step.Awaits place) link steps)
    (enough : link.client.ahead place < steps.countP Step.polls) :
    ∃ sooner timeout later entry, steps = sooner ++ .call (.poll timeout) :: later ∧
      (run link sooner).client.assignment[place]? = some entry ∧ entry.key = key ∧
      (Client.poll timeout (run link sooner)).1.message = entry.due (run link sooner).cluster ∧
      (Client.poll timeout (run link sooner)).2.client.cursor = place + 1 := by
  induction steps generalizing link with
  | nil => simp at enough
  | cons step steps ih =>
    obtain ⟨now, afterwards⟩ := awaits
    obtain ⟨closed, keys⟩ := Step.awaits_next now
    have size := congrArg List.length keys
    rw [List.length_map, List.length_map] at size
    -- An entry that is not served by this step is served later, if it has come near enough.
    have later (enough : (step.next link).client.ahead place < steps.countP Step.polls) :
        ∃ sooner timeout later entry, step :: steps = sooner ++ .call (.poll timeout) :: later ∧
          (run link sooner).client.assignment[place]? = some entry ∧ entry.key = key ∧
          (Client.poll timeout (run link sooner)).1.message = entry.due (run link sooner).cluster ∧
          (Client.poll timeout (run link sooner)).2.client.cursor = place + 1 := by
      obtain ⟨sooner, timeout, rest, entry, split, served⟩ :=
        ih (closed.trans opened) (keys ▸ here) afterwards enough
      exact ⟨step :: sooner, timeout, rest, entry, by rw [split, List.cons_append], served⟩
    obtain ⟨idle, same⟩ | ⟨timeout, rfl⟩ := Step.awaits_cases now
    · simp only [rota, Prod.mk.injEq] at same
      refine later ?_
      rw [List.countP_cons_of_neg (by simp [idle])] at enough
      rwa [Client.ahead, size, same.2.1]
    · obtain ⟨unscripted, entry, there, ready⟩ := now
      obtain ⟨other, found, elsewhere, near, answer, cursor⟩ :=
        poll_turn timeout opened unscripted there ready
      have own : entry.key = key := by
        rw [List.getElem?_map, there] at here
        exact Option.some.inj here
      by_cases served : other = place
      · subst served
        cases there.symm.trans elsewhere
        exact ⟨[], timeout, steps, entry, rfl, there, own, answer, cursor⟩
      · obtain ⟨inside, _⟩ := List.getElem?_eq_some_iff.mp there
        obtain ⟨within, _⟩ := List.getElem?_eq_some_iff.mp elsewhere
        refine later ?_
        have nearer := ahead_served inside within served near size cursor
        rw [List.countP_cons_of_pos rfl] at enough
        exact Nat.lt_of_lt_of_le nearer (Nat.le_of_lt_succ enough)

/-- A handle that retires goes on doing so through any run. -/
theorem retires_run {link : Link} (retires : link.client.Retires) (steps : List Step) :
    (run link steps).client.Retires := by
  induction steps generalizing link with
  | nil => exact retires
  | cons step steps ih =>
    refine ih ?_
    cases step with
    | call request => exact ClientCall.retires_perform retires
    | cluster | elsewhere => exact retires

/-- Every handle reads nothing once it is shut down. And wherever the cursor of such a handle
stands, an entry that is ready at every poll of a run, with whatever happens in between that does
not say which partitions are read, is served by one of any consecutive polls of the run that are as
many as the entries: the poll answers with what is due at the entry, and goes on after it. -/
theorem serves_every_ready_entry :
    (∀ config fresh before client, (Client.create config fresh before).1 = .ok client →
      ∀ cluster steps, (run ⟨client, cluster⟩ steps).client.Retires) ∧
    ∀ (link : Link) (place : Nat) (entry : Assigned) (earlier window later : List Step),
      link.client.Retires → link.client.assignment[place]? = some entry →
      Throughout (Step.Awaits place) link (earlier ++ window ++ later) →
      link.client.assignment.length ≤ window.countP Step.polls →
      ∃ sooner timeout rest, window = sooner ++ .call (.poll timeout) :: rest ∧
        let polled := run link (earlier ++ sooner)
        let message := (Client.poll timeout polled).1.message
        (∃ current, polled.client.assignment[place]? = some current ∧
          current.key = entry.key ∧ message = current.due polled.cluster) ∧
        message.topicPartition.key = entry.key ∧
        (Client.poll timeout polled).2.client.cursor = place + 1 := by
  refine ⟨fun config fresh before client created cluster steps => retires_run ?_ steps, ?_⟩
  · exact fun shut => absurd ((Client.create_opened created).symm.trans shut) Bool.false_ne_true
  · intro link place entry earlier window later retires here awaits enough
    obtain ⟨before, during⟩ := awaits.parts.1.parts
    obtain ⟨closed, keys⟩ := awaits_run before
    have opened : link.client.closed = false := by
      by_contra shut
      rw [retires (by simpa using shut)] at here
      simp at here
    have size := congrArg List.length keys
    rw [List.length_map, List.length_map] at size
    have key : ((run link earlier).client.assignment.map Assigned.key)[place]? =
        some entry.key := by
      rw [keys, List.getElem?_map, here]
      rfl
    have inside : place < (run link earlier).client.assignment.length := by
      rw [size]
      exact (List.getElem?_eq_some_iff.mp here).1
    obtain ⟨sooner, timeout, rest, current, split, there, own, answer, cursor⟩ :=
      exists_turn (closed.trans opened) key during
        (Nat.lt_of_lt_of_le (ahead_lt inside) (size ▸ enough))
    refine ⟨sooner, timeout, rest, split, ?_⟩
    rw [run_append]
    exact ⟨⟨current, there, own, answer⟩, by rw [answer, due_key, own], cursor⟩

/-- The cursor of a client that reads three partitions lies past their end, at seven, so that its
polls begin at the second. Others are written to, moved, truncated and paused in between, but the
first partition has a record at every poll: it has its turn by the third of them. -/
theorem serves_every_ready_entry_past_end :
    let entry (partition : Int) : Assigned := { topic := "orders", partition, position := 0 }
    let settings : Client.Settings := ⟨none, false, false, false⟩
    let start : Client := { name := "reader", serial := 1, settings
                            assignment := [entry 0, entry 1, entry 2], cursor := 7 }
    let produce (partition : Int) : Step :=
      .cluster (.produce ("orders", partition) none [1] none) 7
    let prepared := run ⟨start, {}⟩
      [.cluster (.createTopic "orders" 3) 7, produce 0, produce 1, produce 2]
    let poll : Step := .call (.poll 10)
    let other : TopicPartition := { topic := "orders", partition := 1 }
    let window := [poll, produce 1, .call (.seek other 10), poll,
      .cluster (.deleteRecords other.key 1) 7, .call (.pause [other]), poll]
    Throughout (Step.Awaits 0) prepared window ∧
    ∃ sooner timeout rest, window = sooner ++ .call (.poll timeout) :: rest ∧
      (Client.poll timeout (run prepared sooner)).1.message.topicPartition.key = ("orders", 0) := by
  intro entry settings start produce prepared poll other window
  have ready : Throughout (Step.Awaits 0) prepared window :=
    ⟨⟨by decide +kernel, entry 0, by decide +kernel, by decide +kernel⟩, trivial, trivial,
      ⟨by decide +kernel, entry 0, by decide +kernel, by decide +kernel⟩, trivial, trivial,
      ⟨by decide +kernel, entry 0, by decide +kernel, by decide +kernel⟩, trivial⟩
  have opened : prepared.client.closed = false := by decide +kernel
  have here : prepared.client.assignment[0]? = some (entry 0) := by decide +kernel
  have enough : prepared.client.assignment.length ≤ window.countP Step.polls := by decide +kernel
  have retires : prepared.client.Retires := by
    intro shut
    rw [opened] at shut
    contradiction
  obtain ⟨sooner, timeout, rest, split, _, key, _⟩ :=
    serves_every_ready_entry.2 prepared 0 (entry 0) [] window [] retires here
      (by rwa [List.nil_append, List.append_nil]) enough
  exact ⟨ready, sooner, timeout, rest, split, key⟩

end Link

end LogConsumer
