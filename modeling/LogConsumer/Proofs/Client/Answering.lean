import LogConsumer.Proofs.Client.Turns

/-!
# The entry that a poll answers for

A poll of an open handle answers for the first entry that is ready in the cyclic order from the
cursor on. `Client.turn?` is its place in the assignment, and `poll_turn?_cases` says, place by
place, what the poll does to the entries: the one whose turn it is goes on, and any other is at most
raised to where its reading goes on.
-/
namespace LogConsumer

open Assigned

namespace Assigned

/-- The entry is at most raised to where reading goes on. -/
def AtMostSettled (cluster : Cluster) (before after : Assigned) : Prop :=
  after = before ∨ after = before.settled cluster

/-- An entry that is at most raised reports its end if it did before. -/
theorem AtMostSettled.endReported {cluster : Cluster} {before after : Assigned}
    (passed : AtMostSettled cluster before after) : after.endReported = before.endReported := by
  obtain rfl | rfl := passed
  · rfl
  · unfold settled
    split <;> rfl

/-- An entry that is at most raised stands for what it did: it is ready if it was, and the same is
due at it. -/
theorem AtMostSettled.outlook {cluster cluster' : Cluster} {before after : Assigned}
    (passed : AtMostSettled cluster before after) (logs : cluster'.topics = cluster.topics)
    (reportsEnd : Bool) :
    (after.IsReady cluster' reportsEnd ↔ before.IsReady cluster reportsEnd) ∧
      after.due cluster' = before.due cluster := by
  have again : cluster.floor before.key (cluster.floor before.key before.position) =
      cluster.floor before.key before.position :=
    Cluster.floor_eq_of_between (Cluster.le_floor _ _ _) (Int.le_refl _)
  obtain rfl | rfl := passed
  · simp only [IsReady, due, Cluster.read?_congr logs, Cluster.floor_congr logs, and_self]
  · unfold settled
    split
    · simp only [IsReady, due, Cluster.read?_congr logs, Cluster.floor_congr logs, and_self]
    · simp only [IsReady, due, key_moved, again, Cluster.read?_congr logs,
        Cluster.floor_congr logs, and_self]

end Assigned

namespace Client

/-- The place in the assignment of the entry that the next poll answers for, if it is neither
scripted to fail nor finds the handle shut down: the first that is ready from the cursor on, once
the client has joined its group if it is to. -/
def turn? (link : Link) : Option Nat :=
  if (link.cluster.takeFault .poll).1 = none ∧ link.client.closed = false then
    let client := joined link
    ((client.assignment.rotate client.cursor).findIdx? fun entry =>
      decide (entry.IsReady link.cluster client.settings.reportsEnd)).map client.placeAfter
  else none

/-- A poll that is not let through answers for no entry. -/
theorem turn?_of_stuck {link : Link}
    (stuck : ¬((link.cluster.takeFault .poll).1 = none ∧ link.client.closed = false)) :
    turn? link = none :=
  if_neg stuck

/-- A poll answers for no entry where none is ready. -/
theorem turn?_of_unready {link : Link}
    (unready : ∀ entry ∈ (joined link).assignment,
      ¬entry.IsReady link.cluster (joined link).settings.reportsEnd) : turn? link = none := by
  unfold turn?
  split
  · have none : ((joined link).assignment.rotate (joined link).cursor).findIdx? (fun entry =>
        decide (entry.IsReady link.cluster (joined link).settings.reportsEnd)) = none := by
      rw [List.findIdx?_eq_none_iff]
      intro entry inside
      exact decide_eq_false (unready entry (List.mem_rotate.mp inside))
    dsimp only
    rw [none]
    rfl
  · rfl

/-- A poll that is let through answers for the first entry that is ready. -/
theorem turn?_of_firstReady {link : Link} {before after : List Assigned} {entry : Assigned}
    (opened : link.client.closed = false) (unscripted : (link.cluster.takeFault .poll).1 = none)
    (first : (joined link).FirstReady link.cluster before entry after) :
    turn? link = some ((joined link).placeAfter before.length) := by
  have unready : before.findIdx? (fun entry =>
      decide (entry.IsReady link.cluster (joined link).settings.reportsEnd)) = none := by
    rw [List.findIdx?_eq_none_iff]
    exact fun earlier inside => decide_eq_false (first.unready earlier inside)
  rw [turn?, if_pos ⟨unscripted, opened⟩]
  dsimp only
  rw [first.order, List.findIdx?_append, unready, List.findIdx?_cons, decide_eq_true first.ready]
  simp

/-- An entry of a list as long as the assignment is found in its cyclic order after those that are
ahead of it. -/
theorem getElem?_ahead {client : Client} {entries : List Assigned} {place : Nat}
    (size : entries.length = client.assignment.length) (inside : place < client.assignment.length) :
    (entries.rotate client.cursor)[client.ahead place]? = entries[place]? := by
  have around : (client.cursor + client.ahead place) % entries.length = place := by
    rw [size]
    exact placeAfter_ahead inside
  rw [List.getElem?_rotate (by rw [size]; exact ahead_lt inside), Nat.add_comm, around]

/-- What becomes of the entries, place by place, when the first that is ready is served. -/
theorem FirstReady.places {client : Client} {cluster : Cluster}
    {before after served : List Assigned} {entry : Assigned}
    (first : client.FirstReady cluster before entry after)
    (rotated : served.rotate client.cursor =
      before.map (·.settled cluster) ++ entry.answered cluster :: after) :
    served.length = client.assignment.length ∧
    served[client.placeAfter before.length]? = some (entry.answered cluster) ∧
    ∀ other passed, other ≠ client.placeAfter before.length →
      client.assignment[other]? = some passed →
      ∃ passed', served[other]? = some passed' ∧ AtMostSettled cluster passed passed' := by
  have whole := congrArg List.length first.order
  have size := congrArg List.length rotated
  simp only [List.length_rotate, List.length_append, List.length_cons, List.length_map]
    at whole size
  have same : served.length = client.assignment.length := size.trans whole.symm
  have place : client.placeAfter before.length < client.assignment.length :=
    Nat.mod_lt _ (by omega)
  refine ⟨same, ?_, fun other passed apart here => ?_⟩
  · rw [← getElem?_ahead same place, ahead_placeAfter (by omega), rotated]
    simp
  · obtain ⟨inside, _⟩ := List.getElem?_eq_some_iff.mp here
    -- In the cyclic order the lists before and after the poll go by the same three parts.
    rw [← getElem?_ahead rfl inside, first.order] at here
    rw [← getElem?_ahead same inside, rotated]
    obtain early | last | late := Nat.lt_trichotomy (client.ahead other) before.length
    · rw [List.getElem?_append_left early] at here
      rw [List.getElem?_append_left (by simpa using early), List.getElem?_map, here]
      exact ⟨_, rfl, .inr rfl⟩
    · rw [← last, placeAfter_ahead inside] at apart
      exact absurd rfl apart
    · rw [List.getElem?_append_right (Nat.le_of_lt late)] at here
      rw [List.getElem?_append_right (by simpa using Nat.le_of_lt late), List.length_map]
      obtain ⟨further, shift⟩ : ∃ further, client.ahead other - before.length = further + 1 :=
        ⟨client.ahead other - before.length - 1, by omega⟩
      rw [shift, List.getElem?_cons_succ] at here ⊢
      exact ⟨passed, here, .inl rfl⟩

/-- A poll served the entry at a place: it answered with what was due there, the entry went on, the
others were at most raised to where their reading goes on, and the cursor stands just past it. -/
structure Serves (link : Link) (polled : Polled × Link) (place : Nat) (entry : Assigned) :
    Prop where
  /-- The entry stands at the place. -/
  here : (joined link).assignment[place]? = some entry
  /-- It is ready. -/
  ready : entry.IsReady link.cluster (joined link).settings.reportsEnd
  /-- It is no further ahead than any entry that is ready. -/
  nearest : ∀ other found, (joined link).assignment[other]? = some found →
    found.IsReady link.cluster (joined link).settings.reportsEnd →
      (joined link).ahead place ≤ (joined link).ahead other
  /-- The answer is what is due there. -/
  answer : polled.1.message = entry.due link.cluster
  /-- The entries stay as many. -/
  size : polled.2.client.assignment.length = (joined link).assignment.length
  /-- The entry goes on. -/
  served : polled.2.client.assignment[place]? = some (entry.answered link.cluster)
  /-- Any other is at most raised. -/
  others : ∀ other passed, other ≠ place → (joined link).assignment[other]? = some passed →
    ∃ passed', polled.2.client.assignment[other]? = some passed' ∧
      AtMostSettled link.cluster passed passed'
  /-- The next poll starts just past it. -/
  cursor : polled.2.client.cursor = place + 1

/-- Of an aspect that settling leaves alone, a poll changes the place of the entry that it served.
-/
theorem Serves.map_eq_set {link : Link} {polled : Polled × Link} {place : Nat} {entry : Assigned}
    (serves : Serves link polled place entry) {α : Type} {aspect : Assigned → α}
    (kept : ∀ {before after : Assigned}, AtMostSettled link.cluster before after →
      aspect after = aspect before) :
    polled.2.client.assignment.map aspect =
      ((joined link).assignment.map aspect).set place (aspect (entry.answered link.cluster)) := by
  obtain ⟨inside, _⟩ := List.getElem?_eq_some_iff.mp serves.here
  refine List.ext_getElem? fun index => ?_
  rw [List.getElem?_set, List.length_map, List.getElem?_map, List.getElem?_map]
  by_cases here : place = index
  · rw [if_pos here, if_pos inside, ← here, serves.served]
    rfl
  · rw [if_neg here]
    cases stands : (joined link).assignment[index]? with
    | some passed =>
      obtain ⟨passed', there, settled⟩ := serves.others index passed (Ne.symm here) stands
      rw [there, Option.map_some, Option.map_some, kept settled]
    | none =>
      rw [List.getElem?_eq_none_iff, ← serves.size] at stands
      rw [List.getElem?_eq_none stands]

/-- A poll that is let through serves the entry whose turn it is; where it is nobody's turn, no
entry is ready, the time is over, and all entries settle. -/
theorem poll_turn?_cases {link : Link} (opened : link.client.closed = false)
    (unscripted : (link.cluster.takeFault .poll).1 = none) (timeout : Nat) :
    let polled := poll timeout link
    (turn? link = none ∧
      (∀ entry ∈ (joined link).assignment,
        ¬entry.IsReady link.cluster (joined link).settings.reportsEnd) ∧
      polled.1.message = .empty .timedOut ∧
      polled.2.client.assignment = (joined link).assignment.map (·.settled link.cluster)) ∨
    ∃ place entry, turn? link = some place ∧ Serves link polled place entry := by
  intro polled
  obtain ⟨late, ⟨waited, settled⟩ | ⟨before, entry, after, served, first, here, answer, rotated,
    result⟩, _⟩ := poll_round opened unscripted timeout
  · have unready := late.mp (congrArg Message.error waited)
    exact .inl ⟨turn?_of_unready unready, unready, waited, congrArg Client.assignment settled⟩
  · obtain ⟨size, there, others⟩ := first.places rotated
    have assignment : polled.2.client.assignment = served := congrArg Client.assignment result
    rw [← assignment] at size there others
    exact .inr ⟨_, entry, turn?_of_firstReady opened unscripted first, here, first.ready,
      fun _ _ stands ready => first.ahead_le stands ready, answer, size, there, others,
      congrArg Client.cursor result⟩

/-- A poll that is not scripted to fail and answers with a record or an end serves the entry whose
turn it is. -/
theorem poll_serves {link : Link} (unscripted : (link.cluster.takeFault .poll).1 = none)
    {timeout : Nat} (tells : (poll timeout link).1.message.hasData = true ∨
      (poll timeout link).1.message.isEndOfPartition = true) :
    ∃ place entry, turn? link = some place ∧ Serves link (poll timeout link) place entry := by
  have telling {code : ErrorCode} (silent : code ≠ .noError ∧ code ≠ .partitionEof)
      (answer : (poll timeout link).1.message = .empty code) : False := by
    rw [answer] at tells
    simp [Message.hasData, Message.isEndOfPartition, Message.empty, silent] at tells
  obtain ⟨_, scripted, _⟩ | ⟨_, _, result⟩ | ⟨_, opened, _⟩ := poll_cases timeout link
  · rw [unscripted] at scripted
    contradiction
  · exact (telling (by decide) (congrArg (Polled.message ∘ Prod.fst) result)).elim
  · obtain ⟨_, _, waited, _⟩ | serves := poll_turn?_cases opened unscripted timeout
    · exact (telling (by decide) waited).elim
    · exact serves

/-- An entry whose turn it is not is at most raised by a poll that is let through. -/
theorem poll_passes {link : Link} (opened : link.client.closed = false)
    (unscripted : (link.cluster.takeFault .poll).1 = none) (timeout : Nat) {place : Nat}
    {entry : Assigned} (other : turn? link ≠ some place)
    (here : (joined link).assignment[place]? = some entry) :
    ∃ entry', (poll timeout link).2.client.assignment[place]? = some entry' ∧
      AtMostSettled link.cluster entry entry' := by
  obtain ⟨_, _, _, settled⟩ | ⟨served, _, turn, serves⟩ :=
    poll_turn?_cases opened unscripted timeout
  · rw [settled, List.getElem?_map, here]
    exact ⟨_, rfl, .inr rfl⟩
  · refine serves.others place entry (fun same => other ?_) here
    rw [turn, same]

/-- The entry whose turn it is is ready. -/
theorem ready_of_turn? {link : Link} (opened : link.client.closed = false)
    (unscripted : (link.cluster.takeFault .poll).1 = none) {place : Nat} {entry : Assigned}
    (turn : turn? link = some place) (here : (joined link).assignment[place]? = some entry) :
    entry.IsReady link.cluster (joined link).settings.reportsEnd := by
  obtain ⟨nobody, _⟩ | ⟨served, _, turn', serves⟩ := poll_turn?_cases opened unscripted 0
  · rw [nobody] at turn
    contradiction
  · obtain rfl := Option.some.inj (turn.symm.trans turn')
    obtain rfl := Option.some.inj (serves.here.symm.trans here)
    exact serves.ready

end Client

end LogConsumer
