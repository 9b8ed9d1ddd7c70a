import LogConsumer.Proofs.Link.Cursor

/-!
# Taking away what is not assigned

Taking partitions from an assignment that holds none of them takes nothing from it, and no position
and no mark of an entry changes. But the cursor is set back to the front, as it is when entries go,
and so the next polls can answer in another order than they would have. The main result is
`unmatched_hidden_iff`: just when a run of calls and of steps on the cluster can tell that the call
was made.
-/
namespace LogConsumer

namespace Link

open Client

/-- The step is a call or a step on the cluster, and nothing that others do. -/
def Step.IsOperation : Step → Prop
  | .call _ | .cluster _ _ => True
  | .elsewhere _ => False

/-- No run of calls and of steps on the cluster answers otherwise from the one than from the other.
-/
def NotToldFrom (left right : Link) : Prop :=
  ∀ steps : List Step, (∀ step ∈ steps, step.IsOperation) →
    answers left steps = answers right steps

/-- Taking partitions from the assignment answers as it is scripted. -/
theorem incrementalUnassign_answer (partitions : List TopicPartition) (link : Link) :
    ((ClientCall.incrementalUnassign partitions).perform link).1.outcome =
      match (link.cluster.takeFault .incrementalUnassign).1 with
      | some error => .error error
      | none => .ok .done := by
  show ((incrementalUnassign partitions).run link).1.map (fun _ => ClientReply.done) = _
  unfold incrementalUnassign
  cases fault : (link.cluster.takeFault .incrementalUnassign).1 with
  | some error =>
    rw [run_bind_error (takeFault_error fault)]
    rfl
  | none =>
    rw [run_bind_ok (takeFault_ok fault)]
    rfl

/-- Taking partitions from the assignment uses up what is scripted for it. -/
theorem incrementalUnassign_cluster (partitions : List TopicPartition) (link : Link) :
    ((ClientCall.incrementalUnassign partitions).perform link).2.cluster =
      (link.cluster.takeFault .incrementalUnassign).2 := by
  show ((incrementalUnassign partitions).run link).2.cluster = _
  obtain ⟨error, refused⟩ | taken := incrementalUnassign_cases partitions link
  · rw [refused]
    rfl
  · rw [taken]
    rfl

/-- Taking partitions away that are not assigned sets the cursor back and uses up what is scripted,
and changes nothing else. -/
theorem incrementalUnassign_unmatched {link : Link} {partitions : List TopicPartition}
    (unmatched : ∀ entry ∈ link.client.assignment, ∀ tp ∈ partitions, entry.key ≠ tp.key)
    (done : ((ClientCall.incrementalUnassign partitions).perform link).1.outcome = .ok .done) :
    ((ClientCall.incrementalUnassign partitions).perform link).2 =
      { client := { link.client with cursor := 0 }
        cluster := (link.cluster.takeFault .incrementalUnassign).2 } := by
  obtain ⟨error, refused⟩ | taken := incrementalUnassign_cases partitions link
  · have failed : ((ClientCall.incrementalUnassign partitions).perform link).1.outcome =
        .error error := congrArg (fun ran => ran.1.map fun _ => ClientReply.done) refused
    rw [failed] at done
    contradiction
  · have kept : (link.client.assignment.filter fun entry =>
        !partitions.any fun tp => entry.key = tp.key) = link.client.assignment := by
      apply List.filter_eq_self.mpr
      intro entry inside
      simpa using unmatched entry inside
    show ((incrementalUnassign partitions).run link).2 = _
    rw [taken, kept]
    rfl

/-- That a call has used up an entry of the script is told by a failure that is scripted next, which
comes one call earlier than it would have. -/
theorem told_by_script {left right : Link} {outcome : Option ClientError}
    {rest : List (Option ClientError)}
    (used : left.cluster.script .incrementalUnassign = rest)
    (unused : right.cluster.script .incrementalUnassign = outcome :: rest) :
    ¬left.NotToldFrom right := by
  intro same
  let error : ClientError := .ofCode .fail
  let call : ClientCall := .incrementalUnassign []
  let steps : List Step := .cluster (.failNext .incrementalUnassign error) 0 ::
    List.replicate (rest.length + 1) (.call call)
  have script (link : Link) : (run link steps).cluster.script .incrementalUnassign =
      (link.cluster.script .incrementalUnassign ++ [some error]).drop (rest.length + 1) := by
    let failing : Link := { link with cluster := link.cluster.failNext .incrementalUnassign error }
    have extended : failing.cluster.script .incrementalUnassign =
        link.cluster.script .incrementalUnassign ++ [some error] := by
      simp [failing, Cluster.failNext, Cluster.extendScript, Cluster.script]
    have each (link : Link) (_ : True) : True ∧
        (call.perform link).2.cluster.script .incrementalUnassign =
          (link.cluster.script .incrementalUnassign).tail := by
      refine ⟨trivial, ?_⟩
      rw [incrementalUnassign_cluster, Cluster.script_takeFault]
    rw [← extended]
    exact (@run_replicate (fun _ => True) _ _ each failing trivial (rest.length + 1)).2
  have early := script left
  have late := script right
  rw [used, List.drop_of_length_le (by simp)] at early
  rw [unused, List.cons_append, List.drop_succ_cons, List.drop_left] at late
  have passes := incrementalUnassign_answer [] (run left steps)
  have fails := incrementalUnassign_answer [] (run right steps)
  rw [Cluster.takeFault_eq, early] at passes
  rw [Cluster.takeFault_eq, late] at fails
  have differs : Step.answer (run left steps) (.call call) ≠
      Step.answer (run right steps) (.call call) := by
    intro answer
    have outcomes : (call.perform (run left steps)).1.outcome =
        (call.perform (run right steps)).1.outcome := by
      simp only [Step.answer, List.cons.injEq, Session.Answer.client.injEq] at answer
      rw [answer.1]
    rw [passes, fails] at outcomes
    contradiction
  refine answers_ne (by rfl) differs (same _ ?_)
  intro step inside
  rcases List.mem_append.mp inside with inside | inside
  · rcases List.mem_cons.mp inside with rfl | inside
    · trivial
    · rw [List.eq_of_mem_replicate inside]
      trivial
  · rw [List.mem_singleton.mp inside]
    trivial

/-- Every step of a run that tells the cursor is an operation. -/
theorem telling_operations (cluster : Cluster) (number : Nat) :
    ∀ step ∈ telling cluster number, step.IsOperation := by
  intro step inside
  unfold telling spreads at inside
  simp only [List.mem_cons, List.mem_append, List.mem_replicate, List.not_mem_nil, or_false]
    at inside
  rcases inside with rfl | ⟨_, rfl⟩ | ⟨_, rfl⟩ | rfl | rfl | rfl | rfl <;> trivial

/-- Polls that answer from different partitions answer differently. -/
theorem answer_poll_ne {left right : Link} {timeout : Nat}
    (differs : (poll timeout left).1.message.partition ≠
      (poll timeout right).1.message.partition) :
    Step.answer left (.call (.poll timeout)) ≠ Step.answer right (.call (.poll timeout)) := by
  intro same
  simp only [Step.answer_poll, List.cons.injEq, Session.Answer.client.injEq,
    ClientAnswer.mk.injEq, Except.ok.injEq, ClientReply.message.injEq] at same
  rw [same.1.1] at differs
  contradiction

/-- That the cursor of an open handle was set back is told by a poll. -/
theorem told_by_poll {link : Link} (opened : link.client.closed = false)
    (stands : link.client.cursor ≠ 0) :
    ¬({ link with client := { link.client with cursor := 0 } } : Link).NotToldFrom link := by
  intro same
  let back : Link := { link with client := { link.client with cursor := 0 } }
  let steps := telling link.cluster link.client.cursor
  have positive : 0 < link.client.cursor := Nat.pos_of_ne_zero stands
  have front : (poll 0 (run back steps)).1.message.partition = 0 :=
    @poll_telling back opened _ positive (.inl rfl)
  have there : (poll 0 (run link steps)).1.message.partition = link.client.cursor :=
    poll_telling opened positive (.inr rfl)
  have differs : (poll 0 (run back steps)).1.message.partition ≠
      (poll 0 (run link steps)).1.message.partition := by
    rw [front, there]
    omega
  refine answers_ne (by rfl) (answer_poll_ne differs) (same _ ?_)
  refine List.forall_mem_append.mpr ⟨telling_operations _ _, ?_⟩
  exact List.forall_mem_singleton.mpr trivial

/-- Partitions are taken from the assignment of a client that reads none of them, and the call
succeeds. It changes nothing but that the cursor goes back to the front and that the entry of the
script is used up which lets it through. Just where the script was empty and the cursor stood at the
front before, or the handle is shut down, the call is hidden: whatever is called afterwards and
whatever is done to the cluster, everything is answered as if the call had not been made. And where
the script was empty, no more than the polls of an open handle can tell: as long as there are none,
everything is answered the same, whatever others do to the cluster. -/
theorem unmatched_hidden_iff {link : Link} {partitions : List TopicPartition}
    (unmatched : ∀ entry ∈ link.client.assignment, ∀ tp ∈ partitions, entry.key ≠ tp.key)
    (done : ((ClientCall.incrementalUnassign partitions).perform link).1.outcome = .ok .done) :
    let after := ((ClientCall.incrementalUnassign partitions).perform link).2
    after = { client := { link.client with cursor := 0 }
              cluster := (link.cluster.takeFault .incrementalUnassign).2 } ∧
    (after.NotToldFrom link ↔ link.cluster.script .incrementalUnassign = [] ∧
      (link.client.cursor = 0 ∨ link.client.closed = true)) ∧
    (link.cluster.script .incrementalUnassign = [] → ∀ steps,
      Throughout (fun link step => step.PollsNoOpen link) link steps →
        answers after steps = answers link steps) := by
  intro after
  have result : after = _ := incrementalUnassign_unmatched unmatched done
  have quiet (unscripted : link.cluster.script .incrementalUnassign = []) :
      after = { link with client := { link.client with cursor := 0 } } := by
    rw [result, Cluster.takeFault, unscripted]
  have hidden (unscripted : link.cluster.script .incrementalUnassign = []) (steps : List Step)
      (spares : Throughout (fun link step => step.PollsNoOpen link) link steps) :
      answers after steps = answers link steps :=
    answers_of_unpolled ⟨0, quiet unscripted⟩ spares
  refine ⟨result, ⟨?_, ?_⟩, hidden⟩
  · intro same
    cases script : link.cluster.script .incrementalUnassign with
    | cons outcome rest =>
      have used : after.cluster.script .incrementalUnassign = rest := by
        rw [result, Cluster.script_takeFault, script, List.tail_cons]
      exact absurd same (told_by_script used script)
    | nil =>
      refine ⟨rfl, ?_⟩
      by_contra told
      obtain ⟨stands, opened⟩ := not_or.mp told
      rw [quiet script] at same
      exact told_by_poll (Bool.eq_false_iff.mpr opened) stands same
  · rintro ⟨unscripted, front | shut⟩ steps operations
    · have unchanged : after = link := by
        rw [quiet unscripted, ← front]
      rw [unchanged]
    · exact hidden unscripted steps (pollsNoOpen_of_shut shut steps)

/-- A client that has just read the first of its two partitions is called to drop one of another
topic. All that happens is that the cursor goes back, and that is not hidden. -/
theorem unmatched_told_midway :
    let read : Assigned := { topic := "orders", partition := 0, position := 1, stored := some 1 }
    let unread : Assigned := { topic := "orders", partition := 1, position := 0 }
    let client : Client := { name := "reader", serial := 1, settings := ⟨none, false, false, false⟩
                             assignment := [read, unread], cursor := 1 }
    let link : Link := ⟨client, ({} : Cluster).createTopic "orders" 2⟩
    let partitions : List TopicPartition := [{ topic := "payments", partition := 0 }]
    let after := ((ClientCall.incrementalUnassign partitions).perform link).2
    (∀ entry ∈ link.client.assignment, ∀ tp ∈ partitions, entry.key ≠ tp.key) ∧
    ((ClientCall.incrementalUnassign partitions).perform link).1.outcome = .ok .done ∧
    after = { link with client := { client with cursor := 0 } } ∧ ¬after.NotToldFrom link := by
  intro read unread client link partitions after
  have unmatched : ∀ entry ∈ link.client.assignment, ∀ tp ∈ partitions, entry.key ≠ tp.key := by
    decide
  have done : ((ClientCall.incrementalUnassign partitions).perform link).1.outcome = .ok .done :=
    rfl
  obtain ⟨result, hidden, _⟩ := unmatched_hidden_iff unmatched done
  refine ⟨unmatched, done, result, fun same => ?_⟩
  obtain ⟨_, front | shut⟩ := hidden.mp same
  · contradiction
  · contradiction

/-- A handle is assigned two partitions of a topic, one with two records and one with one, and polls
the first of the three. Then a partition of another topic is taken from its assignment, which
succeeds. Without that call the next poll answers from the second partition; after it, from the
first again. -/
theorem unmatched_served_again :
    let record (payload : UInt8) : Record := ⟨none, [payload], 1⟩
    let cluster := [(("t", 0), 97), (("t", 0), 98), (("t", 1), 99)].foldl
      (fun cluster (key, payload) => (cluster.produce key (record payload)).2)
      (({} : Cluster).createTopic "t" 2)
    let tp (topic : String) (partition : Int) : TopicPartition :=
      { topic, partition, offset := .absolute 0 }
    ∃ client cluster', Client.create { groupId := some "g" } "" cluster = (.ok client, cluster') ∧
      let link := run ⟨client, cluster'⟩ [.call (.assign [tp "t" 0, tp "t" 1]), .call (.poll 1)]
      let unassigned := (ClientCall.incrementalUnassign [tp "u" 0]).perform link
      (∀ entry ∈ link.client.assignment, entry.key ≠ ("u", 0)) ∧
      unassigned.1.outcome = .ok .done ∧
      (Client.poll 1 link).1.message.partition = 1 ∧
      (Client.poll 1 unassigned.2).1.message.partition = 0 ∧
      answers unassigned.2 [.call (.poll 1)] ≠ answers link [.call (.poll 1)] := by
  intro record cluster tp
  refine ⟨_, _, rfl, ?_⟩
  intro link unassigned
  have there : (Client.poll 1 link).1.message.partition = 1 := by decide +kernel
  have front : (Client.poll 1 unassigned.2).1.message.partition = 0 := by decide +kernel
  have differs : (Client.poll 1 unassigned.2).1.message.partition ≠
      (Client.poll 1 link).1.message.partition := by
    rw [front, there]
    decide
  have accepted : unassigned.1.outcome = .ok .done := by decide +kernel
  refine ⟨by decide +kernel, accepted, there, front, ?_⟩
  generalize unassigned.2 = after at differs ⊢
  generalize link = before at differs ⊢
  exact @answers_ne after before [] _ rfl (answer_poll_ne differs)

end Link

end LogConsumer
