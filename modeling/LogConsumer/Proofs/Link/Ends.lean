import LogConsumer.Proofs.Client.Pasts
import LogConsumer.Proofs.Client.Validity
import LogConsumer.Proofs.Link.Turns

/-!
# Ends of partitions that are told

When the end of a partition is told to a client, and when it is not. What the entries have been
through is followed over a run (`Link.pasts`), so an end that was told is told again only after a
record was read or the position was moved on demand (`ends_told`). The mark that keeps it from being
told again is not taken back when the position is raised past records that were dropped unread: the
end is told by as many polls as there are entries exactly if it is not what was told last
(`end_told_iff`), wherever it was told.
-/
namespace LogConsumer.Link

open Assigned Client

/-- What the entries have been through after a step, if they have been through `before` before it.
-/
def Step.pasts (link : Link) (before : List (List Incident)) : Step → List (List Incident)
  | .call request => request.pasts link before
  | _ => before

/-- What the entries have been through after a run, if they have been through `before` before it. -/
def pastsFrom (before : List (List Incident)) : Link → List Step → List (List Incident)
  | _, [] => before
  | link, step :: steps => pastsFrom (step.pasts link before) (step.next link) steps

/-- What the entries have been through after a run of a client that reads nothing before it. -/
def pasts (link : Link) (steps : List Step) : List (List Incident) :=
  pastsFrom [] link steps

/-- What the entries have been through after a run of two parts they have been through after the
second part, if they have been through the first before it. -/
theorem pastsFrom_append (before : List (List Incident)) (link : Link) (first second : List Step) :
    pastsFrom before link (first ++ second) =
      pastsFrom (pastsFrom before link first) (run link first) second := by
  induction first generalizing before link with
  | nil => rfl
  | cons step steps ih => exact ih _ _

/-- A run goes on with the pasts of the entries. -/
theorem recounts_run {link : Link} {before : List (List Incident)}
    (recounts : link.client.Recounts before) (steps : List Step) :
    (run link steps).client.Recounts (pastsFrom before link steps) := by
  induction steps generalizing link before with
  | nil => exact recounts
  | cons step steps ih =>
    refine ih ?_
    cases step with
    | call request => exact ClientCall.recounts_perform recounts request
    | cluster | elsewhere => exact recounts

/-- An entry is marked exactly if its end was told last. -/
theorem endReported_eq {link : Link} {before : List (List Incident)}
    (recounts : link.client.Recounts before) {place : Nat} {entry : Assigned}
    {past : List Incident} (here : link.client.assignment[place]? = some entry)
    (through : before[place]? = some past) : entry.endReported = toldEnd past := by
  have mark := congrArg (·[place]?) recounts.told
  simpa [List.getElem?_map, here, through, eq_comm] using mark

/-- A poll that is let through adds what it answers with to the past of the entry whose turn it is.
-/
theorem pasts_poll {link : Link} {before : List (List Incident)}
    (recounts : link.client.Recounts before) {timeout place : Nat} {entry : Assigned}
    (turn : turn? link = some place) (serves : Serves link (Client.poll timeout link) place entry) :
    ((ClientCall.poll timeout).pasts link before)[place]? =
      some (before[place]?.getD [] ++ [.ofMessage (Client.poll timeout link).1.message]) := by
  obtain ⟨inside, _⟩ := List.getElem?_eq_some_iff.mp serves.here
  have present : (before ++ List.replicate
      ((joined link).assignment.length - link.client.assignment.length) [])[place]? =
        some (before[place]?.getD []) := by
    have size := recounts.size
    by_cases early : place < before.length
    · rw [List.getElem?_append_left early, List.getElem?_eq_getElem early, Option.getD_some]
    · rw [List.getElem?_append_right (by omega), List.getElem?_replicate_of_lt (by omega),
        List.getElem?_eq_none (by omega), Option.getD_none]
  simp only [ClientCall.pasts, turn, serves.size, List.getElem?_modify, present]
  rfl

/-- What is told of the ends of partitions is true and is not repeated, over any run of a client
that reads nothing before it, whatever happens to the cluster besides and whatever is scripted. Each
entry has a past, and between two ends in it there is a record that was read or a move of the
position. A poll that is not scripted to fail and answers with a record or an end does so for the
entry whose turn it is, which is not paused, and adds the answer to its past. If the answer is an
end, the client is set up to have ends reported, the offset is the position of the entry at that
poll, and no record can be read there. -/
theorem ends_told {link : Link} (nothing : link.client.assignment = []) (steps : List Step) :
    let reached := run link steps
    let told := pasts link steps
    told.length = reached.client.assignment.length ∧
    (∀ past ∈ told, ∀ before between after first last,
      past = before ++ .ended first :: (between ++ .ended last :: after) →
        ∃ incident ∈ between, incident.isEnd = false) ∧
    ∀ timeout, (reached.cluster.takeFault .poll).1 = none →
      let polled := Client.poll timeout reached
      let message := polled.1.message
      message.hasData = true ∨ message.isEndOfPartition = true →
      ∃ place entry, turn? reached = some place ∧
        (joined reached).assignment[place]? = some entry ∧ entry.paused = false ∧
        message.topicPartition.key = entry.key ∧
        (pasts link (steps ++ [.call (.poll timeout)]))[place]? =
          some (told[place]?.getD [] ++ [.ofMessage message]) ∧
        (message.isEndOfPartition = true →
          let position := reached.cluster.floor entry.key entry.position
          reached.client.settings.reportsEnd = true ∧
          message = .endOfPartition entry.topic entry.partition position ∧
          reached.cluster.read? entry.key position = none ∧
          polled.2.client.assignment[place]? =
            some { entry with position, endReported := true }) := by
  intro reached told
  have recounts : reached.client.Recounts told := recounts_run (.nil nothing) steps
  refine ⟨recounts.size, fun past inside before between after first last split => ?_, ?_⟩
  · exact (recounts.apart past inside).between split rfl rfl
  · intro timeout unscripted polled message tells
    obtain ⟨place, entry, turn, serves⟩ := poll_serves unscripted tells
    have answer : message = entry.due reached.cluster := serves.answer
    have ready : entry.IsReady reached.cluster reached.client.settings.reportsEnd :=
      joined_settings reached ▸ serves.ready
    refine ⟨place, entry, turn, serves.here, ready.1, ?_, ?_, fun ends => ?_⟩
    · rw [answer, due_key]
    · rw [pasts, pastsFrom_append]
      exact pasts_poll recounts turn serves
    · obtain ⟨reports, _, unread, ending, moved⟩ := ready.ending (answer ▸ ends)
      exact ⟨reports, answer.trans ending, unread, moved ▸ serves.served⟩

/-- A partition is empty when it is assigned, and its end is told. A record is produced and read,
and the end is told again; a poll that finds nothing new waits; and after a seek the end is told
once more. -/
theorem ends_told_after_seek :
    let tp (offset : Offset) : TopicPartition := { topic := "orders", partition := 0, offset }
    let poll : Step := .call (.poll 10)
    let settings : Client.Settings := ⟨none, false, true, false⟩
    let link : Link := ⟨{ name := "reader", serial := 1, settings }, {}⟩
    let steps := [.cluster (.createTopic "orders" 1) 7, .call (.assign [tp .beginning]), poll,
      .cluster (.produce ("orders", 0) none [1] none) 7, poll, poll, poll,
      .call (.seek (tp .ending) 10)]
    link.client.assignment = [] ∧ ((run link steps).cluster.takeFault .poll).1 = none ∧
    (Client.poll 10 (run link steps)).1.message.isEndOfPartition = true ∧
    pasts link steps = [[.ended 0, .read 0, .ended 1, .sought]] ∧
    (pasts link (steps ++ [poll]))[0]? =
      some ([.ended 0, .read 0, .ended 1, .sought] ++ [.ended 1]) := by
  intro tp poll settings link steps
  have nothing : link.client.assignment = [] := rfl
  have unscripted : ((run link steps).cluster.takeFault .poll).1 = none := by decide +kernel
  have ends : (Client.poll 10 (run link steps)).1.message.isEndOfPartition = true := by
    decide +kernel
  have told : pasts link steps = [[.ended 0, .read 0, .ended 1, .sought]] := by decide +kernel
  have answer : Incident.ofMessage (Client.poll 10 (run link steps)).1.message = .ended 1 := by
    decide +kernel
  obtain ⟨place, _, turn, _, _, _, added, _⟩ :=
    (@ends_told link nothing steps).2.2 10 unscripted (Or.inr ends)
  have first : turn? (run link steps) = some 0 := by decide +kernel
  obtain rfl := Option.some.inj (first.symm.trans turn)
  rw [told, answer] at added
  exact ⟨nothing, unscripted, ends, told, added⟩

/-- Polls with these timeouts, one after the other, tell the end of the partition at a place of the
assignment with a message before any of them waits in vain. -/
def TellsEnd (place : Nat) (message : Message) : Link → List Nat → Prop
  | _, [] => False
  | link, timeout :: timeouts =>
    let polled := Client.poll timeout link
    (turn? link = some place ∧ polled.1.message = message) ∨
      (polled.1.message.error ≠ .timedOut ∧ TellsEnd place message polled.2 timeouts)

section Polling

variable {link : Link} {place : Nat} {entry : Assigned}

/-- A poll that answers for another entry leaves the handle open and coming polls let through, and
the entry ready if it was, for what was due at it. -/
theorem waits_polled (opened : link.client.closed = false)
    (lets : link.cluster.LetsThrough .poll) (here : link.client.assignment[place]? = some entry)
    (other : turn? link ≠ some place) (timeout : Nat) :
    let polled := (Client.poll timeout link).2
    polled.client.closed = false ∧ polled.cluster.LetsThrough .poll ∧
    ∃ entry', polled.client.assignment[place]? = some entry' ∧
      (entry'.IsReady polled.cluster polled.client.settings.reportsEnd ↔
        entry.IsReady link.cluster link.client.settings.reportsEnd) ∧
      entry'.due polled.cluster = entry.due link.cluster := by
  intro polled
  have alone : joined link = link.client :=
    joined_of_assigned (List.ne_nil_of_mem (List.mem_of_getElem? here))
  obtain ⟨entry', here', settled⟩ :=
    poll_passes opened lets.unscripted timeout other (alone.symm ▸ here)
  have logs : polled.cluster.topics = link.cluster.topics := call_topics (.poll timeout) link
  have setup : polled.client.settings = link.client.settings :=
    congrArg Fixture.settings (ClientCall.perform_keeps_fixture (.poll timeout) link)
  refine ⟨(ClientCall.keeps_closed timeout link).trans opened, letsThrough_poll lets timeout,
    entry', here', ?_⟩
  rw [setup]
  exact settled.outlook logs link.client.settings.reportsEnd

/-- An entry that is ready has what is due at it told by one of as many polls as there are entries
ahead of it and one more, and none of the polls before waits in vain. -/
theorem tellsEnd_of_ready (opened : link.client.closed = false)
    (lets : link.cluster.LetsThrough .poll) (here : link.client.assignment[place]? = some entry)
    (ready : entry.IsReady link.cluster link.client.settings.reportsEnd) {timeouts : List Nat}
    (enough : link.client.ahead place < timeouts.length) :
    TellsEnd place (entry.due link.cluster) link timeouts := by
  -- Each poll serves the entry, or another that is no further ahead and then stands behind it.
  induction timeouts generalizing link entry with
  | nil => exact absurd enough (Nat.not_lt_zero _)
  | cons timeout timeouts ih =>
    have alone : joined link = link.client :=
      joined_of_assigned (List.ne_nil_of_mem (List.mem_of_getElem? here))
    obtain ⟨_, unready, _⟩ | ⟨served, found, turn, serves⟩ :=
      poll_turn?_cases opened lets.unscripted timeout
    · rw [alone] at unready
      exact absurd ready (unready entry (List.mem_of_getElem? here))
    · have stands := serves.here
      have nearest := serves.nearest place entry
      have size := serves.size
      rw [alone] at stands nearest size
      by_cases own : served = place
      · subst own
        obtain rfl := Option.some.inj (stands.symm.trans here)
        exact .inl ⟨turn, serves.answer⟩
      · have prompt : (Client.poll timeout link).1.message.error ≠ .timedOut := by
          rw [serves.answer]
          rcases found.due_error link.cluster with code | code <;> rw [code] <;> nofun
        have other : turn? link ≠ some place := fun same =>
          own (Option.some.inj (turn.symm.trans same))
        obtain ⟨opened', lets', entry', here', still, same⟩ :=
          waits_polled opened lets here other timeout
        obtain ⟨inside, _⟩ := List.getElem?_eq_some_iff.mp here
        obtain ⟨within, _⟩ := List.getElem?_eq_some_iff.mp stands
        have nearer := ahead_served inside within own (nearest here (alone.symm ▸ ready)) size
          serves.cursor
        have enough' := Nat.lt_of_lt_of_le nearer (Nat.le_of_lt_succ enough)
        exact .inr ⟨prompt, same ▸ ih opened' lets' here' (still.mpr ready) enough'⟩

/-- An entry that is not ready is told nothing of by any polls. -/
theorem not_tellsEnd (opened : link.client.closed = false)
    (lets : link.cluster.LetsThrough .poll) (here : link.client.assignment[place]? = some entry)
    (unready : ¬entry.IsReady link.cluster link.client.settings.reportsEnd) (message : Message)
    (timeouts : List Nat) : ¬TellsEnd place message link timeouts := by
  induction timeouts generalizing link entry with
  | nil => exact id
  | cons timeout timeouts ih =>
    have alone : joined link = link.client :=
      joined_of_assigned (List.ne_nil_of_mem (List.mem_of_getElem? here))
    have other : turn? link ≠ some place := by
      intro turn
      have ready := ready_of_turn? opened lets.unscripted turn (alone.symm ▸ here)
      rw [alone] at ready
      exact unready ready
    obtain ⟨opened', lets', entry', here', still, _⟩ :=
      waits_polled opened lets here other timeout
    rintro (⟨turn, _⟩ | ⟨_, later⟩)
    · exact other turn
    · exact ih opened' lets' here' (mt still.mp unready) later

end Polling

/-- An entry that is not paused and stands at the end of its log is ready exactly if it is not
marked, and what is due at it is the end. -/
theorem ready_at_end {cluster : Cluster} {entry : Assigned} {log : PartitionLog}
    (unpaused : entry.paused = false) (found : cluster.log? entry.key = some log)
    (ends : max entry.position log.low = log.high) :
    (entry.IsReady cluster true ↔ entry.endReported = false) ∧
      entry.due cluster = .endOfPartition entry.topic entry.partition log.high := by
  have place : cluster.floor entry.key entry.position = log.high := by
    simp only [Cluster.floor, found]
    exact ends
  have unread : cluster.read? entry.key log.high = none := by
    rw [← Option.not_isSome_iff_eq_none, Cluster.isSome_read? found]
    intro retained
    obtain ⟨_, there⟩ := Option.isSome_iff_exists.mp retained
    exact absurd (PartitionLog.bounds_of_record? there).2 (Int.lt_irrefl _)
  rw [IsReady, due, place, unread]
  exact ⟨by simp [unpaused], rfl⟩

/-- When the end of a partition is told. An entry of a client that has ends reported, after any run
from where the client read nothing, is not paused and stands at the end of its log, be it because
the records up to there were dropped. While polls are let through and nothing else happens, its end
is told at just that offset by one of as many polls as there are entries, before any of them waits
in vain, exactly if what the entry went through last is not that its end was told, at whatever
offset that was. -/
theorem end_told_iff {link : Link} {steps : List Step} {place : Nat} {entry : Assigned}
    {past : List Incident} {log : PartitionLog} (nothing : link.client.assignment = [])
    (here : (run link steps).client.assignment[place]? = some entry)
    (through : (pasts link steps)[place]? = some past)
    (reports : (run link steps).client.settings.reportsEnd = true)
    (unpaused : entry.paused = false)
    (found : (run link steps).cluster.log? entry.key = some log)
    (ends : max entry.position log.low = log.high)
    (lets : (run link steps).cluster.LetsThrough .poll) :
    (∀ timeouts : List Nat, (run link steps).client.assignment.length ≤ timeouts.length →
      TellsEnd place (.endOfPartition entry.topic entry.partition log.high) (run link steps)
        timeouts) ↔
    toldEnd past = false := by
  have marked : entry.endReported = toldEnd past :=
    endReported_eq (recounts_run (.nil nothing) steps) here through
  obtain ⟨ready, ending⟩ := ready_at_end unpaused found ends
  have opened : (run link steps).client.closed = false := by
    have retires : (run link steps).client.Retires := retires_run (fun _ => nothing) steps
    by_contra shut
    rw [retires (by simpa using shut)] at here
    contradiction
  obtain ⟨inside, _⟩ := List.getElem?_eq_some_iff.mp here
  -- At the end of the log there is nothing to read, so the mark alone decides.
  rw [← marked, ← ready]
  constructor
  · intro told
    by_contra unready
    rw [← reports] at unready
    exact not_tellsEnd opened lets here unready _ _
      (told (List.replicate (run link steps).client.assignment.length 0) (by simp))
  · intro ready timeouts enough
    rw [← reports] at ready
    rw [← ending]
    exact tellsEnd_of_ready opened lets here ready (Nat.lt_of_lt_of_le (ahead_lt inside) enough)

/-- An empty partition is assigned beside another, and its end is told. Two records are produced, of
which one is read; the other is dropped unread, which brings the client to the new end, and that is
told at 2 before the polls wait in vain. -/
theorem end_told_after_read :
    let tp (partition : Int) : TopicPartition :=
      { topic := "orders", partition, offset := .beginning }
    let poll : Step := .call (.poll 10)
    let produce : Step := .cluster (.produce ("orders", 0) none [1] none) 7
    let settings : Client.Settings := ⟨none, false, true, false⟩
    let link : Link := ⟨{ name := "reader", serial := 1, settings }, {}⟩
    let steps := [.cluster (.createTopic "orders" 2) 7, .call (.assign [tp 0, tp 1]), poll, produce,
      produce, poll, poll, .cluster (.deleteRecords ("orders", 0) 2) 7]
    let entry : Assigned := { topic := "orders", partition := 0, position := 1, stored := some 1 }
    (run link steps).client.assignment[0]? = some entry ∧
    (pasts link steps)[0]? = some [.ended 0, .read 0] ∧
    TellsEnd 0 (.endOfPartition "orders" 0 2) (run link steps) [10, 10] := by
  intro tp poll produce settings link steps entry
  have nothing : link.client.assignment = [] := rfl
  have here : (run link steps).client.assignment[0]? = some entry := by decide +kernel
  have through : (pasts link steps)[0]? = some [.ended 0, .read 0] := by decide +kernel
  have reports : (run link steps).client.settings.reportsEnd = true := by decide +kernel
  have found : (run link steps).cluster.log? ("orders", 0) = some { low := 2 } := by decide +kernel
  have lets : (run link steps).cluster.LetsThrough .poll := .of_silent (by decide +kernel)
  have told := (@end_told_iff link steps 0 entry _ _ nothing here through reports rfl found
    (by decide) lets).mpr rfl
  have few : (run link steps).client.assignment.length ≤ [10, 10].length := by decide +kernel
  exact ⟨here, through, told [10, 10] few⟩

/-- The end of an empty partition is told at 0. Three records are produced and dropped unread, which
brings the client to the new end at 3. It is not paused and has ends reported, and the end that was
told last is another, but the next poll waits in vain, and no polls tell the end at 3. -/
theorem end_untold_after_truncation :
    let tp : TopicPartition := { topic := "t", partition := 0, offset := .absolute 0 }
    let produce : Step := .cluster (.produce ("t", 0) none [97] none) 1
    let settings : Client.Settings := ⟨some "g", false, true, false⟩
    let link : Link := ⟨{ name := "test", serial := 1, settings }, {}⟩
    let steps := [.cluster (.createTopic "t" 1) 1, .call (.assign [tp]), .call (.poll 1), produce,
      produce, produce, .cluster (.deleteRecords ("t", 0) 3) 1]
    let entry : Assigned := { topic := "t", partition := 0, position := 0, endReported := true }
    (run link steps).client.assignment = [entry] ∧
    (run link steps).cluster.watermarks ("t", 0) = .ok { low := 3, high := 3 } ∧
    pasts link steps = [[.ended 0]] ∧
    (Client.poll 1 (run link steps)).1.message = .empty .timedOut ∧
    ∀ timeouts, ¬TellsEnd 0 (.endOfPartition "t" 0 3) (run link steps) timeouts := by
  intro tp produce settings link steps entry
  have reads : (run link steps).client.assignment = [entry] := by decide +kernel
  have here : (run link steps).client.assignment[0]? = some entry := by rw [reads]; rfl
  have opened : (run link steps).client.closed = false := by decide +kernel
  have lets : (run link steps).cluster.LetsThrough .poll := .of_silent (by decide +kernel)
  have unready : ¬entry.IsReady (run link steps).cluster
      (run link steps).client.settings.reportsEnd := by decide +kernel
  exact ⟨reads, by decide +kernel, by decide +kernel, by decide +kernel,
    not_tellsEnd opened lets here unready _⟩

end LogConsumer.Link
