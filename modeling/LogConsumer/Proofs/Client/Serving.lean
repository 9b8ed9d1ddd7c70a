import Mathlib.Data.List.Forall2
import LogConsumer.Client.Poll
import LogConsumer.Proofs.Client.Calls
import LogConsumer.Proofs.Client.Entries

/-!
# What a poll does entry by entry

A poll inspects entries in turn and stops at the first that has a message. `serve_cases` says so
for the whole assignment: the entry that has the message is inspected, and every other one is
either left alone or inspected without a message. Nothing depends on where the cursor stands, so
what a poll does to the only entry of a partition (`poll_partition`) does not either.
-/
namespace LogConsumer

namespace Message

/-- The message carries what was produced. -/
structure Carries (message : Message) (record : Record) : Prop where
  /-- The key is the record's. -/
  key : message.key = record.key
  /-- The content is the record's. -/
  payload : message.payload = some record.payload
  /-- The time is the record's. -/
  timestamp : message.timestamp = some record.timestamp

/-- The message is a record of the partition. -/
def IsRecordOf (message : Message) (key : PartitionKey) : Prop :=
  message.hasData = true ∧ message.topicPartition.key = key

instance (message : Message) (key : PartitionKey) : Decidable (message.IsRecordOf key) :=
  inferInstanceAs (Decidable (_ ∧ _))

/-- A result that carries nothing but its code names no concrete partition. -/
theorem not_isRecordOf_empty {key : PartitionKey} (concrete : 0 ≤ key.2) (code : ErrorCode) :
    ¬(empty code).IsRecordOf key := by
  rintro ⟨_, rfl⟩
  change (0 : Int) ≤ -1 at concrete
  omega

end Message

namespace Cluster

/-- The message read at an offset is the record that the log retains there. -/
theorem read?_eq_some {cluster : Cluster} {key : PartitionKey} {offset : Int} {message : Message}
    (found : cluster.read? key offset = some message) :
    message.IsRecordOf key ∧ message.offset = offset ∧ message.error = .noError ∧
      ∃ log record, cluster.log? key = some log ∧ log.record? offset = some record ∧
        message.Carries record := by
  unfold read? at found
  cases here : cluster.log? key with
  | none => simp [here] at found
  | some log =>
    cases retained : log.record? offset with
    | none => simp [here, retained] at found
    | some record =>
      simp only [here, retained, bind, Option.bind, pure, Option.some.injEq] at found
      subst found
      exact ⟨⟨rfl, rfl⟩, rfl, rfl, log, record, rfl, retained, rfl, rfl, rfl⟩

/-- Reading depends on the topics alone. -/
theorem read?_congr {left right : Cluster} (same : left.topics = right.topics)
    (key : PartitionKey) (offset : Int) : left.read? key offset = right.read? key offset := by
  unfold read?
  rw [log?_congr same]

/-- Where reading goes on depends on the topics alone. -/
theorem floor_congr {left right : Cluster} (same : left.topics = right.topics)
    (key : PartitionKey) (offset : Int) : left.floor key offset = right.floor key offset := by
  unfold floor
  rw [log?_congr same]

end Cluster

namespace Client

open Assigned

/-- Raising an entry moves its position to where reading goes on, and nothing else. -/
theorem raised_eq (cluster : Cluster) (entry : Assigned) :
    raised cluster entry = { entry with position := cluster.floor entry.key entry.position } := by
  unfold raised Cluster.floor
  cases cluster.log? entry.key <;> rfl

/-- The four ways an inspection goes: the entry is paused; it has a record where reading goes on;
its end is reported; it has nothing. -/
theorem inspect_cases (cluster : Cluster) (reportsEnd : Bool) (entry : Assigned) :
    let place := cluster.floor entry.key entry.position
    inspect cluster reportsEnd entry = (none, entry) ∨
    (∃ message, cluster.read? entry.key place = some message ∧
      inspect cluster reportsEnd entry =
        (some message,
          { entry with position := place + 1, stored := some (place + 1), endReported := false })) ∨
    (cluster.read? entry.key place = none ∧
      inspect cluster reportsEnd entry =
        (some (.endOfPartition entry.topic entry.partition place),
          { entry with position := place, endReported := true })) ∨
    (cluster.read? entry.key place = none ∧
      inspect cluster reportsEnd entry = (none, { entry with position := place })) := by
  intro place
  unfold inspect
  rw [raised_eq]
  split
  · exact .inl rfl
  · dsimp only
    split
    · rename_i message found
      exact .inr (.inl ⟨message, found, rfl⟩)
    · rename_i found
      refine .inr (.inr ?_)
      split
      · exact .inl ⟨found, rfl⟩
      · exact .inr ⟨found, rfl⟩

/-- An inspected entry stays an entry of its partition. -/
theorem inspect_key (cluster : Cluster) (reportsEnd : Bool) (entry : Assigned) :
    (inspect cluster reportsEnd entry).2.key = entry.key := by
  obtain same | ⟨_, _, same⟩ | ⟨_, same⟩ | ⟨_, same⟩ := inspect_cases cluster reportsEnd entry <;>
    rw [same] <;> rfl

/-- An entry that was found to have a message was moved to where reading goes on, where its end is
reported, or past the record there. -/
theorem inspect_found {cluster : Cluster} {reportsEnd : Bool} {entry entry' : Assigned}
    {message : Message} (found : inspect cluster reportsEnd entry = (some message, entry')) :
    let place := cluster.floor entry.key entry.position
    (message.hasData = false ∧ entry'.stored = entry.stored ∧ entry'.position = place) ∨
    (cluster.read? entry.key place = some message ∧ entry'.position = place + 1 ∧
      entry'.stored = some (place + 1)) := by
  intro place
  obtain same | ⟨read, readable, same⟩ | ⟨_, same⟩ | ⟨_, same⟩ :=
    inspect_cases cluster reportsEnd entry <;> rw [found] at same <;> cases same
  · exact .inr ⟨readable, rfl, rfl⟩
  · exact .inl ⟨rfl, rfl, rfl⟩

/-- A message comes from the partition of the entry inspected. -/
theorem inspect_message_key {cluster : Cluster} {reportsEnd : Bool} {entry : Assigned}
    {message : Message} (found : (inspect cluster reportsEnd entry).1 = some message) :
    message.topicPartition.key = entry.key := by
  obtain same | ⟨read, here, same⟩ | ⟨_, same⟩ | ⟨_, same⟩ :=
    inspect_cases cluster reportsEnd entry <;> rw [same] at found
  · contradiction
  · cases found
    exact (Cluster.read?_eq_some here).1.2
  · cases found
    rfl
  · contradiction

/-- The entry was inspected and had no message. -/
def Quiet (cluster : Cluster) (reportsEnd : Bool) (before after : Assigned) : Prop :=
  inspect cluster reportsEnd before = (none, after)

/-- The entry was left alone, or inspected without a message. -/
def Passed (cluster : Cluster) (reportsEnd : Bool) (before after : Assigned) : Prop :=
  after = before ∨ Quiet cluster reportsEnd before after

/-- Entries are inspected in order up to the first that has a message; the others stay. -/
theorem inspectUpTo_cases (cluster : Cluster) (reportsEnd : Bool) (entries : List Assigned) :
    (∃ entries', inspectUpTo cluster reportsEnd entries = (none, entries') ∧
      List.Forall₂ (Quiet cluster reportsEnd) entries entries') ∨
    ∃ message before entry after before' entry',
      entries = before ++ entry :: after ∧
      inspect cluster reportsEnd entry = (some message, entry') ∧
      List.Forall₂ (Quiet cluster reportsEnd) before before' ∧
      inspectUpTo cluster reportsEnd entries =
        (some (before.length, message), before' ++ entry' :: after) := by
  induction entries with
  | nil => exact .inl ⟨[], rfl, .nil⟩
  | cons head entries ih =>
    cases looked : inspect cluster reportsEnd head with
    | mk found head' =>
      cases found with
      | some message =>
        refine .inr ⟨message, [], head, entries, [], head', rfl, looked, .nil, ?_⟩
        simp [inspectUpTo, looked]
      | none =>
        obtain ⟨entries', nothing, quiet⟩ | ⟨message, before, entry, after, before', entry', split,
          here, quiet, result⟩ := ih
        · refine .inl ⟨head' :: entries', ?_, .cons looked quiet⟩
          simp [inspectUpTo, looked, nothing]
        · refine .inr ⟨message, head :: before, entry, after, head' :: before', entry', ?_, here,
            .cons looked quiet, ?_⟩
          · rw [split, List.cons_append]
          · simp [inspectUpTo, looked, result]

/-- Quiet entries were passed. -/
theorem passed_of_quiet {cluster : Cluster} {reportsEnd : Bool} {before after : List Assigned}
    (quiet : List.Forall₂ (Quiet cluster reportsEnd) before after) :
    List.Forall₂ (Passed cluster reportsEnd) before after :=
  quiet.imp fun _ _ quiet => .inr quiet

/-- Entries that stay were passed. -/
theorem passed_refl (cluster : Cluster) (reportsEnd : Bool) (entries : List Assigned) :
    List.Forall₂ (Passed cluster reportsEnd) entries entries :=
  List.forall₂_same.mpr fun _ _ => .inl rfl

/-- Serving the assignment changes the assignment and the cursor only. -/
theorem serve_rest (cluster : Cluster) (client : Client) :
    (serve cluster client).2 = { client with
      assignment := (serve cluster client).2.assignment
      cursor := (serve cluster client).2.cursor } := by
  unfold serve
  dsimp only
  split
  · rfl
  · split <;> rfl

/-- A message that is served was found at one entry, and every other entry was passed; without a
message every entry was passed. -/
theorem serve_cases (cluster : Cluster) (client : Client) :
    let reportsEnd := client.settings.reportsEnd
    let served := serve cluster client
    (served.1 = none ∧
      List.Forall₂ (Passed cluster reportsEnd) client.assignment served.2.assignment) ∨
    ∃ message before entry after before' entry' after',
      served.1 = some message ∧
      client.assignment = before ++ entry :: after ∧
      served.2.assignment = before' ++ entry' :: after' ∧
      inspect cluster reportsEnd entry = (some message, entry') ∧
      List.Forall₂ (Passed cluster reportsEnd) before before' ∧
      List.Forall₂ (Passed cluster reportsEnd) after after' := by
  intro reportsEnd served
  generalize start : client.cursor % client.assignment.length = place
  have whole : client.assignment.take place ++ client.assignment.drop place = client.assignment :=
    List.take_append_drop _ _
  obtain ⟨later, second, quietAfter⟩ | ⟨message, before, entry, after, before', entry', split, here,
    quiet, second⟩ := inspectUpTo_cases cluster reportsEnd (client.assignment.drop place)
  · obtain ⟨earlier, first, quietBefore⟩ | ⟨message, before, entry, after, before', entry', split,
      here, quiet, first⟩ := inspectUpTo_cases cluster reportsEnd (client.assignment.take place)
    · have result : served = (none, { client with assignment := earlier ++ later }) := by
        simp only [served, serve, start, second, first, reportsEnd]
      refine .inl ⟨by rw [result], ?_⟩
      rw [result, ← whole]
      exact List.rel_append (passed_of_quiet quietBefore) (passed_of_quiet quietAfter)
    · have result : served = (some message,
          { client with
            assignment := before' ++ entry' :: after ++ later, cursor := before.length + 1 }) := by
        simp only [served, serve, start, second, first, reportsEnd]
      refine .inr ⟨message, before, entry, after ++ client.assignment.drop place, before', entry',
        after ++ later, by rw [result], ?_, by simp [result], here, passed_of_quiet quiet, ?_⟩
      · rw [← List.cons_append, ← List.append_assoc, ← split, whole]
      · exact List.rel_append (passed_refl _ _ _) (passed_of_quiet quietAfter)
  · have result : served = (some message,
        { client with
          assignment := client.assignment.take place ++ (before' ++ entry' :: after)
          cursor := place + before.length + 1 }) := by
      simp only [served, serve, start, second, reportsEnd]
    refine .inr ⟨message, client.assignment.take place ++ before, entry, after,
      client.assignment.take place ++ before', entry', after, by rw [result], ?_, by simp [result],
      here, ?_, passed_refl _ _ _⟩
    · rw [List.append_assoc, ← split, whole]
    · exact List.rel_append (passed_refl _ _ _) (passed_of_quiet quiet)

/-- Inspecting an entry goes by the logs alone. -/
theorem inspect_congr {left right : Cluster} (same : left.topics = right.topics) (reportsEnd : Bool)
    (entry : Assigned) : inspect left reportsEnd entry = inspect right reportsEnd entry := by
  unfold inspect raised
  simp only [Cluster.log?_congr same, Cluster.read?_congr same]

/-- Inspecting entries goes by the logs alone. -/
theorem inspectUpTo_congr {left right : Cluster} (same : left.topics = right.topics)
    (reportsEnd : Bool) (entries : List Assigned) :
    inspectUpTo left reportsEnd entries = inspectUpTo right reportsEnd entries := by
  induction entries with
  | nil => rfl
  | cons entry entries ih => rw [inspectUpTo, inspectUpTo, inspect_congr same, ih]

/-- Serving the assignment goes by the logs alone. -/
theorem serve_congr {left right : Cluster} (same : left.topics = right.topics) (client : Client) :
    serve left client = serve right client := by
  unfold serve
  simp only [inspectUpTo_congr same]

/-- The cluster after a poll was counted and its scripted outcome used up. -/
def counted (cluster : Cluster) (timeout : Nat) : Cluster :=
  (({ cluster with polls := cluster.polls + 1, lastPollTimeout := some timeout } :
    Cluster).takeFault .poll).2

/-- Counting a poll touches the counters and the scripts only. -/
theorem counted_rest (cluster : Cluster) (timeout : Nat) :
    counted cluster timeout = { cluster with
      polls := cluster.polls + 1
      lastPollTimeout := some timeout
      faults := (counted cluster timeout).faults } :=
  Cluster.takeFault_rest _ _

/-- The three ways a poll goes: it fails as scripted; the handle is shut down; the assignment is
served. -/
theorem poll_cases (timeout : Nat) (link : Link) :
    let cluster := counted link.cluster timeout
    let served := serve cluster (joined { link with cluster })
    (∃ error, (link.cluster.takeFault .poll).1 = some error ∧
      poll timeout link = ({ message := .empty error.code }, { link with cluster })) ∨
    ((link.cluster.takeFault .poll).1 = none ∧ link.client.closed = true ∧
      poll timeout link = ({ message := .empty .destroy }, { link with cluster })) ∨
    ((link.cluster.takeFault .poll).1 = none ∧ link.client.closed = false ∧
      poll timeout link =
        ((match served.1 with
          | some message => { message }
          | none => { message := .empty .timedOut, waited := timeout }),
          ⟨served.2, cluster⟩)) := by
  intro cluster
  dsimp only
  have ran := takeFault_run .poll { link with cluster := { link.cluster with
    polls := link.cluster.polls + 1, lastPollTimeout := some timeout } }
  dsimp only at ran
  -- The script is read after the poll was counted, which does not touch it.
  have sameScript : (link.cluster.takeFault .poll).1 = (Cluster.takeFault { link.cluster with
      polls := link.cluster.polls + 1, lastPollTimeout := some timeout } .poll).1 := by
    refine Cluster.takeFault_congr ?_ .poll
    rfl
  have here : (Cluster.takeFault { link.cluster with
      polls := link.cluster.polls + 1, lastPollTimeout := some timeout } .poll).2 = cluster := rfl
  rw [← sameScript, here] at ran
  cases fault : (link.cluster.takeFault .poll).1 with
  | some error =>
    rw [fault] at ran
    refine .inl ⟨error, rfl, ?_⟩
    unfold poll
    rw [run_modify, run_then, ran]
    rfl
  | none =>
    rw [fault] at ran
    cases shut : link.client.closed with
    | true =>
      refine .inr (.inl ⟨rfl, rfl, ?_⟩)
      unfold poll
      rw [run_modify, run_then, ran]
      dsimp only
      rw [run_read, if_pos shut]
      rfl
    | false =>
      refine .inr (.inr ⟨rfl, rfl, ?_⟩)
      unfold poll
      rw [run_modify, run_then, ran]
      dsimp only
      rw [run_read, if_neg (by simp [shut])]
      dsimp only
      obtain ⟨found, client⟩ := serve cluster (joined { link with cluster })
      cases found <;> rfl

/-- A client that reads something does not join its group. -/
theorem joined_of_assigned {link : Link} (reads : link.client.assignment ≠ []) :
    joined link = link.client := by
  have some : link.client.assignment.isEmpty = false := by simpa using reads
  simp [joined, some]

/-- A client that does not subscribe does not join a group. -/
theorem joined_of_unsubscribed {link : Link} (unsubscribed : link.client.subscription = []) :
    joined link = link.client := by
  simp [joined, unsubscribed]

/-- A client that joins its group stays set up as it is. -/
theorem joined_settings (link : Link) : (joined link).settings = link.client.settings := by
  unfold joined
  dsimp only
  split <;> rfl

/-- The code that a poll answers with where there is nothing to read: the one that is scripted for
it, or that the handle is gone, or that the time is over. -/
def emptyCode (link : Link) : ErrorCode :=
  match (link.cluster.takeFault .poll).1 with
  | some error => error.code
  | none => if link.client.closed then .destroy else .timedOut

/-- A poll of a client that neither subscribes nor reads answers with a code and nothing else. -/
theorem poll_unread {link : Link} (unsubscribed : link.client.subscription = [])
    (unread : link.client.assignment = []) (timeout : Nat) :
    (poll timeout link).1.message = .empty (emptyCode link) := by
  unfold emptyCode
  obtain ⟨error, scripted, result⟩ | ⟨unscripted, shut, result⟩ | ⟨unscripted, opened, result⟩ :=
    poll_cases timeout link
  · rw [result, scripted]
  · rw [result, unscripted, if_pos shut]
  · have alone := @joined_of_unsubscribed { link with cluster := counted link.cluster timeout }
      unsubscribed
    have nothing : (serve (counted link.cluster timeout) link.client).1 = none := by
      obtain ⟨nothing, _⟩ | ⟨_, _, _, _, _, _, _, _, whole, _⟩ :=
        serve_cases (counted link.cluster timeout) link.client
      · exact nothing
      · simp [unread] at whole
    rw [result, unscripted, alone, nothing]
    simp [opened]

/-- Polling keeps what does not look at the scripts and the counters and what serving keeps. -/
theorem keeps_poll {ν : Type} {view : Link → ν} (timeout : Nat)
    (counters : ∀ (link : Link) (polls : Nat) (last : Option Nat)
      (faults : Table Primitive (List (Option ClientError))),
      view { link with
        cluster := { link.cluster with polls, lastPollTimeout := last, faults } } = view link)
    (served : ∀ link : Link, link.client.closed = false →
      view { link with client := (serve link.cluster (joined link)).2 } = view link) :
    Keeps view (poll timeout) := by
  intro link
  have uncounted : view { link with cluster := counted link.cluster timeout } = view link := by
    rw [counted_rest]
    exact counters link _ _ _
  obtain ⟨_, _, result⟩ | ⟨_, _, result⟩ | ⟨_, opened, result⟩ := poll_cases timeout link <;>
    rw [result]
  · exact uncounted
  · exact uncounted
  · exact (served { link with cluster := counted link.cluster timeout } opened).trans uncounted

/-- A passed entry stays an entry of its partition. -/
theorem Passed.key {cluster : Cluster} {reportsEnd : Bool} {before after : Assigned}
    (passed : Passed cluster reportsEnd before after) : after.key = before.key := by
  rcases passed with same | quiet
  · rw [same]
  · have kept := inspect_key cluster reportsEnd before
    rwa [quiet] at kept

/-- A passed entry keeps what it has stored, and its position is at most raised to where reading
goes on. -/
theorem Passed.position {cluster : Cluster} {reportsEnd : Bool} {before after : Assigned}
    (passed : Passed cluster reportsEnd before after) :
    after.stored = before.stored ∧ (after.position = before.position ∨
      after.position = cluster.floor before.key before.position) := by
  rcases passed with same | quiet
  · rw [same]
    exact ⟨rfl, .inl rfl⟩
  · obtain same | ⟨_, _, same⟩ | ⟨_, same⟩ | ⟨_, same⟩ :=
      inspect_cases cluster reportsEnd before <;> rw [Quiet, same] at quiet <;> cases quiet
    · exact ⟨rfl, .inl rfl⟩
    · exact ⟨rfl, .inr rfl⟩

/-- Passing over entries passes over those of a partition. -/
theorem passed_ofPartition {cluster : Cluster} {reportsEnd : Bool} {before after : List Assigned}
    (passed : List.Forall₂ (Passed cluster reportsEnd) before after) (key : PartitionKey) :
    List.Forall₂ (Passed cluster reportsEnd) (ofPartition key before) (ofPartition key after) :=
  List.rel_filter (fun _ _ passed => by simp [passed.key]) passed

/-- A list of entries with one of another partition in it has the same entries of a partition
without it. -/
private theorem ofPartition_skip {key : PartitionKey} {entry : Assigned}
    (other : entry.key ≠ key) (before after : List Assigned) :
    ofPartition key (before ++ entry :: after) = ofPartition key (before ++ after) := by
  simp [ofPartition, other]

/-- An entry among others that is the only one of its partition. -/
private theorem eq_of_sole {key : PartitionKey} {entry only : Assigned} (own : entry.key = key)
    {before after : List Assigned} (sole : ofPartition key (before ++ entry :: after) = [only]) :
    entry = only ∧ ofPartition key before = [] ∧ ofPartition key after = [] := by
  have spread : ofPartition key before ++ entry :: ofPartition key after = [only] := by
    simpa [ofPartition, own] using sole
  cases ahead : ofPartition key before with
  | nil =>
    rw [ahead] at spread
    simp only [List.nil_append, List.cons.injEq] at spread
    exact ⟨spread.1, rfl, spread.2⟩
  | cons head rest =>
    rw [ahead] at spread
    simp at spread

/-- The only entry of a partition, passed, is the only one still. -/
private theorem passed_sole {cluster : Cluster} {reportsEnd : Bool} {before after : List Assigned}
    {key : PartitionKey} {entry : Assigned}
    (passed : List.Forall₂ (Passed cluster reportsEnd) before after)
    (sole : ofPartition key before = [entry]) :
    ∃ entry', ofPartition key after = [entry'] ∧ Passed cluster reportsEnd entry entry' := by
  have passed := passed_ofPartition passed key
  rw [sole] at passed
  obtain ⟨entry', rest, one, nothing, result⟩ := List.forall₂_cons_left_iff.mp passed
  rw [List.forall₂_nil_left_iff.mp nothing] at result
  exact ⟨entry', result, one⟩

/-- Where there is no entry of a partition, there is none after passing. -/
private theorem passed_nothing {cluster : Cluster} {reportsEnd : Bool}
    {before after : List Assigned} {key : PartitionKey}
    (passed : List.Forall₂ (Passed cluster reportsEnd) before after)
    (nothing : ofPartition key before = []) : ofPartition key after = [] := by
  have passed := passed_ofPartition passed key
  rw [nothing] at passed
  exact List.forall₂_nil_left_iff.mp passed

/-- Serving passes the only entry of a partition, and answers with nothing of the partition; or it
answers with the message that the entry has. -/
theorem serve_sole {key : PartitionKey} (cluster : Cluster) {client : Client} {entry : Assigned}
    (sole : ofPartition key client.assignment = [entry]) :
    let reportsEnd := client.settings.reportsEnd
    let served := serve cluster client
    ∃ after, ofPartition key served.2.assignment = [after] ∧
      ((Passed cluster reportsEnd entry after ∧
          ∀ message, served.1 = some message → message.topicPartition.key ≠ key) ∨
        ∃ message, served.1 = some message ∧
          inspect cluster reportsEnd entry = (some message, after)) := by
  intro reportsEnd served
  obtain ⟨nothing, passed⟩ | ⟨message, before, found, after, before', found', after', answer, whole,
    whole', looked, passedBefore, passedAfter⟩ := serve_cases cluster client
  · obtain ⟨entry', sole', one⟩ := passed_sole passed sole
    exact ⟨entry', sole', .inl ⟨one, by simp [served, nothing]⟩⟩
  · have same : found'.key = found.key := by
      have kept := inspect_key cluster client.settings.reportsEnd found
      rwa [looked] at kept
    rw [whole] at sole
    rw [whole']
    by_cases here : found.key = key
    · obtain ⟨rfl, noneBefore, noneAfter⟩ := eq_of_sole here sole
      refine ⟨found', ?_, .inr ⟨message, answer, looked⟩⟩
      have spread : ofPartition key (before' ++ found' :: after') =
          ofPartition key before' ++ found' :: ofPartition key after' := by
        simp [ofPartition, same, here]
      rw [spread, passed_nothing passedBefore noneBefore, passed_nothing passedAfter noneAfter]
      rfl
    · rw [ofPartition_skip here] at sole
      obtain ⟨entry', sole', one⟩ := passed_sole (List.rel_append passedBefore passedAfter) sole
      rw [ofPartition_skip (same ▸ here)]
      refine ⟨entry', sole', .inl ⟨one, fun other answered => ?_⟩⟩
      cases answer.symm.trans answered
      have own : message.topicPartition.key = found.key := by
        apply inspect_message_key
        rw [looked]
      exact own ▸ here

/-- Serving either leaves the only entry of a partition where it is or where reading goes on, with
what it has stored; or it answers with the record there and the entry goes past it. -/
theorem serve_partition {key : PartitionKey} (cluster : Cluster) {client : Client}
    {entry : Assigned} (sole : ofPartition key client.assignment = [entry]) :
    let place := cluster.floor key entry.position
    let served := serve cluster client
    ∃ after, ofPartition key served.2.assignment = [after] ∧
      (((∀ message, served.1 = some message → ¬message.IsRecordOf key) ∧
          after.stored = entry.stored ∧
          (after.position = entry.position ∨ after.position = place)) ∨
        (served.1 = cluster.read? key place ∧ (cluster.read? key place).isSome ∧
          after.position = place + 1 ∧ after.stored = some (place + 1))) := by
  intro place served
  have own : entry.key = key := (mem_of_sole sole).2
  subst own
  obtain ⟨after, sole', ⟨passed, others⟩ | ⟨message, answer, looked⟩⟩ := serve_sole cluster sole
  · refine ⟨after, sole', .inl ⟨fun message answered record => ?_, passed.position⟩⟩
    exact others message answered record.2
  · refine ⟨after, sole', ?_⟩
    rw [answer]
    obtain ⟨noRecord, stored, position⟩ | ⟨readable, moved⟩ := inspect_found looked
    · refine .inl ⟨?_, stored, .inr position⟩
      rintro _ ⟨⟩ ⟨record, _⟩
      simp [noRecord] at record
    · exact .inr ⟨readable.symm, by simp [place, readable], moved⟩

/-- A poll that is not scripted either leaves the only entry of a partition where it is or where
reading goes on, with what it has stored; or it answers with the record there and the entry goes
past it. A scripted poll leaves the entry alone. -/
theorem poll_sole {key : PartitionKey} {link : Link} {entry : Assigned}
    (sole : ofPartition key link.client.assignment = [entry]) (timeout : Nat) :
    let place := link.cluster.floor key entry.position
    let message := (poll timeout link).1.message
    ∃ after, ofPartition key (poll timeout link).2.client.assignment = [after] ∧
      ((((link.cluster.takeFault .poll).1 = none → ¬message.IsRecordOf key) ∧
          after.stored = entry.stored ∧
          (after.position = entry.position ∨ after.position = place)) ∨
        ((link.cluster.takeFault .poll).1 = none ∧ link.cluster.read? key place = some message ∧
          after.position = place + 1 ∧ after.stored = some (place + 1))) := by
  intro place message
  have reads : link.client.assignment ≠ [] := List.ne_nil_of_mem (mem_of_sole sole).1
  obtain ⟨_, scripted, result⟩ | ⟨_, _, result⟩ | ⟨unscripted, _, result⟩ :=
    poll_cases timeout link <;> simp only [message, result]
  · refine ⟨entry, sole, .inl ⟨fun unscripted => ?_, rfl, .inl rfl⟩⟩
    rw [scripted] at unscripted
    contradiction
  · exact ⟨entry, sole, .inl ⟨fun _ record => Bool.false_ne_true record.1, rfl, .inl rfl⟩⟩
  · have sameTopics : (counted link.cluster timeout).topics = link.cluster.topics := by
      rw [counted_rest]
    have unjoined : joined { link with cluster := counted link.cluster timeout } = link.client :=
      joined_of_assigned reads
    rw [unjoined]
    obtain ⟨after, only, outcome⟩ :=
      serve_partition (counted link.cluster timeout) sole
    rw [Cluster.floor_congr sameTopics, Cluster.read?_congr sameTopics] at outcome
    refine ⟨after, only, ?_⟩
    obtain ⟨nothing, stored, position⟩ | ⟨answer, readable, position, stored⟩ := outcome
    · refine .inl ⟨fun _ => ?_, stored, position⟩
      cases found : (serve (counted link.cluster timeout) link.client).1 with
      | some other => exact nothing other found
      | none => exact fun record => Bool.false_ne_true record.1
    · obtain ⟨read, readable⟩ := Option.isSome_iff_exists.mp readable
      rw [answer, readable]
      exact .inr ⟨unscripted, rfl, position, stored⟩

/-- A poll that answers with a record of a concrete partition is not scripted. -/
theorem unscripted_of_record {key : PartitionKey} {link : Link} (concrete : 0 ≤ key.2)
    {timeout : Nat} (record : (poll timeout link).1.message.IsRecordOf key) :
    (link.cluster.takeFault .poll).1 = none := by
  obtain ⟨error, _, result⟩ | ⟨unscripted, _⟩ | ⟨unscripted, _⟩ := poll_cases timeout link
  · rw [result] at record
    exact absurd record (Message.not_isRecordOf_empty concrete _)
  · exact unscripted
  · exact unscripted

/-- A poll either leaves the only entry of a partition where it is or where reading goes on, with
what it has stored; or it answers with the record there and the entry goes past it. -/
theorem poll_partition {key : PartitionKey} {link : Link} {entry : Assigned}
    (concrete : 0 ≤ key.2) (sole : ofPartition key link.client.assignment = [entry])
    (timeout : Nat) :
    let place := link.cluster.floor key entry.position
    let message := (poll timeout link).1.message
    ∃ after, ofPartition key (poll timeout link).2.client.assignment = [after] ∧
      ((¬message.IsRecordOf key ∧ after.stored = entry.stored ∧
          (after.position = entry.position ∨ after.position = place)) ∨
        (link.cluster.read? key place = some message ∧
          after.position = place + 1 ∧ after.stored = some (place + 1))) := by
  obtain ⟨after, only, ⟨silent, stored, position⟩ | ⟨_, served⟩⟩ := poll_sole sole timeout
  · exact ⟨after, only, .inl
      ⟨fun record => silent (unscripted_of_record concrete record) record, stored, position⟩⟩
  · exact ⟨after, only, .inr served⟩

end Client

end LogConsumer
