import Mathlib.Data.List.Rotate
import LogConsumer.Proofs.Client.Placement
import LogConsumer.Proofs.Client.Serving

/-!
# The round of a poll

Everything that one poll does. `Client.inspect_eq` says what an inspection comes to: an entry that
is ready answers with what is due and goes on (`Assigned.answered`), any other entry is at most
raised to where reading goes on (`Assigned.settled`). A poll inspects the entries in the cyclic
order that starts at the cursor, which is the assignment rotated by the cursor, wherever that lies;
it stops at the first entry that is ready (`Client.FirstReady`), and leaves those after it alone.
The main result is `Client.poll_round`.
-/
namespace LogConsumer

namespace Assigned

/-- What an inspection of the entry answers with if it is ready: the record where reading goes on,
or the report that the partition ends there. -/
def due (entry : Assigned) (cluster : Cluster) : Message :=
  (cluster.read? entry.key (cluster.floor entry.key entry.position)).getD
    (.endOfPartition entry.topic entry.partition (cluster.floor entry.key entry.position))

/-- The entry is read and has something to answer with: a record where reading goes on, or an end
that is to be reported and was not. -/
def IsReady (entry : Assigned) (cluster : Cluster) (reportsEnd : Bool) : Prop :=
  entry.paused = false ∧
    ((cluster.read? entry.key (cluster.floor entry.key entry.position)).isSome = true ∨
      (reportsEnd = true ∧ entry.endReported = false))

instance (entry : Assigned) (cluster : Cluster) (reportsEnd : Bool) :
    Decidable (entry.IsReady cluster reportsEnd) :=
  inferInstanceAs (Decidable (_ ∧ _))

/-- The entry after an inspection that found no message: unless it is paused, it is raised to where
reading goes on. -/
def settled (entry : Assigned) (cluster : Cluster) : Assigned :=
  if entry.paused then entry
  else { entry with position := cluster.floor entry.key entry.position }

/-- The entry after an inspection that found a message: it goes past the record, which is stored,
and its end is to be reported again; or its end is reported where reading goes on. -/
def answered (entry : Assigned) (cluster : Cluster) : Assigned :=
  let place := cluster.floor entry.key entry.position
  if (cluster.read? entry.key place).isSome then
    { entry with position := place + 1, stored := some (place + 1), endReported := false }
  else { entry with position := place, endReported := true }

/-- An entry that is moved stays an entry of its partition. -/
theorem key_moved (entry : Assigned) (position : Int) :
    ({ entry with position } : Assigned).key = entry.key :=
  rfl

/-- What is due is a record or the end of a partition, and not that the time is over. -/
theorem due_error (entry : Assigned) (cluster : Cluster) :
    (entry.due cluster).error = .noError ∨ (entry.due cluster).error = .partitionEof := by
  unfold due
  cases readable : cluster.read? entry.key (cluster.floor entry.key entry.position) with
  | none => exact .inr rfl
  | some message => exact .inl (Cluster.read?_eq_some readable).2.2.1

end Assigned

namespace Client

open Assigned

/-- Whatever is due comes from the partition of its entry. -/
theorem due_key (entry : Assigned) (cluster : Cluster) :
    (entry.due cluster).topicPartition.key = entry.key := by
  unfold Assigned.due
  cases readable : cluster.read? entry.key (cluster.floor entry.key entry.position) with
  | none => rfl
  | some message => exact (Cluster.read?_eq_some readable).1.2

/-- An entry that is ready answers with what is due; any other entry settles. -/
theorem inspect_eq (cluster : Cluster) (reportsEnd : Bool) (entry : Assigned) :
    inspect cluster reportsEnd entry =
      if entry.IsReady cluster reportsEnd then (some (entry.due cluster), entry.answered cluster)
      else (none, entry.settled cluster) := by
  unfold inspect
  rw [raised_eq]
  by_cases paused : entry.paused = true
  · have unready : ¬entry.IsReady cluster reportsEnd :=
      fun ready => Bool.false_ne_true (ready.1.symm.trans paused)
    rw [if_pos paused, if_neg unready, settled, if_pos paused]
  · rw [if_neg paused]
    have unpaused : entry.paused = false := Bool.eq_false_iff.mpr paused
    cases readable : cluster.read? entry.key (cluster.floor entry.key entry.position) with
    | some message =>
      have ready : entry.IsReady cluster reportsEnd := by
        refine ⟨unpaused, .inl ?_⟩
        rw [readable]
        rfl
      rw [if_pos ready]
      simp [due, answered, key_moved, readable]
    | none =>
      by_cases reports : (reportsEnd && !entry.endReported) = true
      · have ready : entry.IsReady cluster reportsEnd :=
          ⟨unpaused, .inr (by simpa using reports)⟩
        rw [if_pos ready]
        simp [due, answered, key_moved, readable, reports]
      · have unready : ¬entry.IsReady cluster reportsEnd := by
          rintro ⟨_, found | due⟩
          · rw [readable] at found
            contradiction
          · exact reports (by simpa using due)
        rw [if_neg unready, settled, if_neg paused]
        simp [key_moved, readable, reports]

/-- Entries are inspected in order up to the first that is ready: those before it settle, and those
after it are left alone. -/
theorem inspectUpTo_round (cluster : Cluster) (reportsEnd : Bool) (entries : List Assigned) :
    ((∀ entry ∈ entries, ¬entry.IsReady cluster reportsEnd) ∧
      inspectUpTo cluster reportsEnd entries = (none, entries.map (·.settled cluster))) ∨
    ∃ before entry after, entries = before ++ entry :: after ∧
      (∀ earlier ∈ before, ¬earlier.IsReady cluster reportsEnd) ∧
      entry.IsReady cluster reportsEnd ∧
      inspectUpTo cluster reportsEnd entries =
        (some (before.length, entry.due cluster),
          before.map (·.settled cluster) ++ entry.answered cluster :: after) := by
  induction entries with
  | nil => exact .inl ⟨List.forall_mem_nil _, rfl⟩
  | cons head entries ih =>
    unfold inspectUpTo
    rw [inspect_eq]
    by_cases ready : head.IsReady cluster reportsEnd
    · rw [if_pos ready]
      exact .inr ⟨[], head, entries, rfl, List.forall_mem_nil _, ready, rfl⟩
    · rw [if_neg ready]
      obtain ⟨unready, result⟩ | ⟨before, entry, after, split, unready, first, result⟩ := ih
      · refine .inl ⟨List.forall_mem_cons.mpr ⟨ready, unready⟩, ?_⟩
        rw [result]
        rfl
      · refine .inr ⟨head :: before, entry, after, by rw [split, List.cons_append],
          List.forall_mem_cons.mpr ⟨ready, unready⟩, first, ?_⟩
        rw [result]
        rfl

/-- The entry is the first that is ready in the cyclic order that starts at the cursor; the others
stand before and after it in that order. -/
structure FirstReady (client : Client) (cluster : Cluster) (before : List Assigned)
    (entry : Assigned) (after : List Assigned) : Prop where
  /-- The order in which the entries are inspected. -/
  order : client.assignment.rotate client.cursor = before ++ entry :: after
  /-- No entry before it is ready. -/
  unready : ∀ earlier ∈ before, ¬earlier.IsReady cluster client.settings.reportsEnd
  /-- The entry is ready. -/
  ready : entry.IsReady cluster client.settings.reportsEnd

/-- The place in the assignment of an entry that comes after a number of others in the cyclic order
that starts at the cursor. -/
def placeAfter (client : Client) (inspected : Nat) : Nat :=
  (client.cursor + inspected) % client.assignment.length

/-- An entry stands in the assignment at its place. -/
theorem FirstReady.at_place {client : Client} {cluster : Cluster} {before after : List Assigned}
    {entry : Assigned} (first : client.FirstReady cluster before entry after) :
    client.assignment[client.placeAfter before.length]? = some entry := by
  have size := congrArg List.length first.order
  rw [List.length_rotate, List.length_append, List.length_cons] at size
  have inside : before.length < client.assignment.length := by omega
  rw [placeAfter, Nat.add_comm, ← List.getElem?_rotate inside, first.order]
  simp

/-- A list that is rotated by a cursor which comes to stand after its first part begins with the
second part. -/
private theorem rotate_parts {early late : List Assigned} {cursor : Nat}
    (stands : cursor % (early ++ late).length = early.length) :
    (early ++ late).rotate cursor = late ++ early := by
  rw [← List.rotate_mod, stands, List.rotate_append_length_eq]

/-- A poll goes around once. Where no entry is ready, all of them settle. Else it answers with what
is due at the first that is ready, and goes on just past it; the entries before that one settle. -/
theorem serve_round (cluster : Cluster) (client : Client) :
    ((∀ entry ∈ client.assignment, ¬entry.IsReady cluster client.settings.reportsEnd) ∧
      serve cluster client =
        (none, { client with assignment := client.assignment.map (·.settled cluster) })) ∨
    ∃ before entry after assignment, client.FirstReady cluster before entry after ∧
      assignment.rotate client.cursor =
        before.map (·.settled cluster) ++ entry.answered cluster :: after ∧
      serve cluster client =
        (some (entry.due cluster),
          { client with assignment, cursor := client.placeAfter before.length + 1 }) := by
  generalize started : client.cursor % client.assignment.length = start
  generalize first : client.assignment.take start = early
  generalize second : client.assignment.drop start = late
  have whole : client.assignment = early ++ late := by
    rw [← first, ← second, List.take_append_drop]
  have place (inspected : Nat) :
      client.placeAfter inspected = (start + inspected) % (early.length + late.length) := by
    rw [placeAfter, ← Nat.mod_add_mod, started, whole, List.length_append]
  -- An entry is there only if the cursor comes to stand within the assignment.
  have stands (some : client.assignment ≠ []) :
      early.length = start ∧ start < early.length + late.length := by
    have within : start < client.assignment.length :=
      started ▸ Nat.mod_lt _ (List.length_pos_iff.mpr some)
    have size : early.length = start := by
      rw [← first, List.length_take, Nat.min_eq_left (Nat.le_of_lt within)]
    rw [whole, List.length_append] at within
    exact ⟨size, within⟩
  have order (some : client.assignment ≠ []) {early' late' : List Assigned}
      (size : early'.length = early.length) (size' : late'.length = late.length) :
      (early' ++ late').rotate client.cursor = late' ++ early' := by
    have total : (early' ++ late').length = client.assignment.length := by
      rw [whole, List.length_append, List.length_append, size, size']
    apply rotate_parts
    rw [total, started, size, (stands some).1]
  obtain ⟨unready, later⟩ | ⟨before, entry, after, split, unready, ready, later⟩ :=
    inspectUpTo_round cluster client.settings.reportsEnd late
  · obtain ⟨unready', earlier⟩ | ⟨before, entry, after, split, unready', ready, earlier⟩ :=
      inspectUpTo_round cluster client.settings.reportsEnd early
    · refine .inl ⟨?_, ?_⟩
      · rw [whole]
        exact List.forall_mem_append.mpr ⟨unready', unready⟩
      · simp only [serve, started, first, second, later, earlier]
        rw [← List.map_append, whole]
    · have some : client.assignment ≠ [] := by simp [whole, split]
      obtain ⟨size, within⟩ := stands some
      refine .inr ⟨late ++ before, entry, after,
        before.map (·.settled cluster) ++ entry.answered cluster :: after ++
          late.map (·.settled cluster), ⟨?_, ?_, ready⟩, ?_, ?_⟩
      · rw [whole, order some rfl rfl, split, List.append_assoc]
      · exact List.forall_mem_append.mpr ⟨unready, unready'⟩
      · rw [order some (by simp [split]) (by simp), List.map_append, List.append_assoc]
      · have reached : client.placeAfter (late ++ before).length = before.length := by
          have shorter : before.length < early.length := by simp [split]
          rw [place, List.length_append, ← Nat.add_assoc, ← size, Nat.add_mod_left]
          exact Nat.mod_eq_of_lt (by omega)
        simp only [serve, started, first, second, later, earlier, reached]
  · have some : client.assignment ≠ [] := by simp [whole, split]
    obtain ⟨size, within⟩ := stands some
    refine .inr ⟨before, entry, after ++ early,
      early ++ (before.map (·.settled cluster) ++ entry.answered cluster :: after),
      ⟨?_, unready, ready⟩, ?_, ?_⟩
    · rw [whole, order some rfl rfl, split, List.append_assoc, List.cons_append]
    · rw [order some rfl (by simp [split]), List.append_assoc, List.cons_append]
    · have reached : client.placeAfter before.length = start + before.length := by
        have shorter : before.length < late.length := by simp [split]
        rw [place]
        exact Nat.mod_eq_of_lt (by omega)
      simp only [serve, started, first, second, later, reached]

/-- A poll is counted with its timeout, and its scripted outcome is used up. -/
theorem counted_eq (cluster : Cluster) (timeout : Nat) :
    counted cluster timeout = { cluster with
      polls := cluster.polls + 1
      lastPollTimeout := some timeout
      faults := (cluster.takeFault .poll).2.faults } := by
  have script : ({ cluster with polls := cluster.polls + 1, lastPollTimeout := some timeout } :
      Cluster).script .poll = cluster.script .poll := rfl
  unfold counted Cluster.takeFault
  rw [script]
  split <;> rfl

/-- A poll of an open handle that is not scripted to fail serves the assignment, after the client
has joined its group if it is to. -/
theorem poll_served {link : Link} (opened : link.client.closed = false)
    (unscripted : (link.cluster.takeFault .poll).1 = none) (timeout : Nat) :
    let served := serve link.cluster (joined link)
    poll timeout link =
      ((match served.1 with
        | some message => { message }
        | none => { message := .empty .timedOut, waited := timeout }),
        ⟨served.2, counted link.cluster timeout⟩) := by
  have logs : (counted link.cluster timeout).topics = link.cluster.topics := by
    rw [counted_rest]
  have commits : (counted link.cluster timeout).commits = link.cluster.commits := by
    rw [counted_rest]
  have joins : joined { link with cluster := counted link.cluster timeout } = joined link :=
    joined_congr rfl logs commits
  obtain ⟨_, scripted, _⟩ | ⟨_, shut, _⟩ | ⟨_, _, result⟩ := poll_cases timeout link
  · rw [unscripted] at scripted
    contradiction
  · rw [opened] at shut
    contradiction
  · rwa [joins, serve_congr logs] at result

/-- What one poll of an open handle does if it is not scripted to fail, after the client has joined
its group if it is to. The time is over exactly if no entry is ready, and then all entries settle.
Else the poll answers with what is due at the first entry that is ready in the cyclic order from the
cursor on, that entry goes on, the entries inspected before it settle, those after it stay, and the
cursor moves just past it. Nothing else of the client changes, and of the cluster nothing but the
count of the polls, the timeout of the last one, and the script that is used up. -/
theorem poll_round {link : Link} (opened : link.client.closed = false)
    (unscripted : (link.cluster.takeFault .poll).1 = none) (timeout : Nat) :
    let client := joined link
    let polled := poll timeout link
    (polled.1.message.error = .timedOut ↔
      ∀ entry ∈ client.assignment, ¬entry.IsReady link.cluster client.settings.reportsEnd) ∧
    ((polled.1.message = .empty .timedOut ∧
        polled.2.client =
          { client with assignment := client.assignment.map (·.settled link.cluster) }) ∨
      ∃ before entry after assignment, client.FirstReady link.cluster before entry after ∧
        client.assignment[client.placeAfter before.length]? = some entry ∧
        polled.1.message = entry.due link.cluster ∧
        assignment.rotate client.cursor =
          before.map (·.settled link.cluster) ++ entry.answered link.cluster :: after ∧
        polled.2.client =
          { client with assignment, cursor := client.placeAfter before.length + 1 }) ∧
    polled.2.cluster = { link.cluster with
      polls := link.cluster.polls + 1
      lastPollTimeout := some timeout
      faults := (link.cluster.takeFault .poll).2.faults } := by
  intro client polled
  have result : polled = _ := poll_served opened unscripted timeout
  obtain ⟨unready, served⟩ | ⟨before, entry, after, assignment, first, rotated, served⟩ :=
    serve_round link.cluster client
  · rw [served] at result
    rw [result]
    exact ⟨iff_of_true rfl unready, .inl ⟨rfl, rfl⟩, counted_eq _ _⟩
  · rw [served] at result
    have prompt : (entry.due link.cluster).error ≠ .timedOut := by
      rcases entry.due_error link.cluster with code | code <;> rw [code] <;> nofun
    rw [result]
    refine ⟨iff_of_false prompt fun unready => ?_, .inr ⟨before, entry, after, assignment, first,
      first.at_place, rfl, rotated, rfl⟩, counted_eq _ _⟩
    exact unready entry (List.mem_of_getElem? first.at_place) first.ready

/-- The cursor of a client that reads three partitions lies past their end, at seven, so that its
poll begins at the second. That one is paused; the third has lost its record and reported its end,
and is raised only; the first answers. -/
theorem poll_round_past_end :
    let record : Record := ⟨none, [1], 7⟩
    let filled := [0, 1, 2].foldl
      (fun cluster partition => (cluster.produce ("orders", partition) record).2)
      (({} : Cluster).createTopic "orders" 3)
    let cluster := (filled.deleteRecords ("orders", 2) 1).2
    let entry (partition : Int) : Assigned := { topic := "orders", partition, position := 0 }
    let reading := [entry 0, { entry 1 with paused := true }, { entry 2 with endReported := true }]
    let client : Client := { name := "reader", serial := 1, settings := ⟨none, false, true, false⟩
                             assignment := reading, cursor := 7 }
    let polled := poll 10 ⟨client, cluster⟩
    client.closed = false ∧ (cluster.takeFault .poll).1 = none ∧
    ∃ before after assignment, client.FirstReady cluster before (entry 0) after ∧
      polled.1.message = (entry 0).due cluster ∧
      assignment.rotate 7 = before.map (·.settled cluster) ++ (entry 0).answered cluster :: after ∧
      polled.2.client = { client with assignment, cursor := 1 } ∧
      assignment.map Assigned.position = [1, 0, 1] := by
  intro record filled cluster entry reading client polled
  have opened : client.closed = false := rfl
  have unscripted : (cluster.takeFault .poll).1 = none := rfl
  have prompt : polled.1.message.error ≠ .timedOut := by decide +kernel
  have cursor : polled.2.client.cursor = 1 := by decide +kernel
  have positions : polled.2.client.assignment.map Assigned.position = [1, 0, 1] := by
    decide +kernel
  refine ⟨opened, unscripted, ?_⟩
  have round := @poll_round ⟨client, cluster⟩ opened unscripted 10
  have ran : poll 10 ⟨client, cluster⟩ = polled := rfl
  rw [ran] at round
  obtain ⟨_, ⟨late, _⟩ | ⟨before, first, after, assignment, ready, here, answer, rotated, result⟩,
    _⟩ := round
  · rw [late] at prompt
    exact absurd rfl prompt
  · have alone : joined ⟨client, cluster⟩ = client := rfl
    rw [alone] at here ready result
    rw [result] at cursor positions
    have origin : client.placeAfter before.length = 0 := Nat.succ.inj cursor
    rw [origin] at here
    cases here
    refine ⟨before, after, assignment, ready, answer, rotated, ?_, positions⟩
    rw [result, origin]

end Client

end LogConsumer
