import Mathlib.Algebra.GroupWithZero.Nat
import LogConsumer.Consumer.Consumption
import LogConsumer.Proofs.Client.Placement
import LogConsumer.Proofs.Client.Serving

/-!
# How many polls in a row can find something

Polls in a row do not find something forever: a scripted outcome is used up, a record is read once,
and the end of a partition is reported once until a record is read again. `Client.backlog` adds
these up, a record counting twice since the end may be reported after it. A poll that finds
something uses up some of it (`backlog_poll`), and the bound on the polls of a bounded consume
exceeds it (`backlog_lt_pollBound`).
-/
namespace LogConsumer

open Consumer (unreadRecordsOf unreadRecords pollBound)

namespace Client

/-- How many more polls can find something at one entry: two for each record that it has yet to
read, and one for its end. -/
def backlogOf (cluster : Cluster) (entry : Assigned) : Nat :=
  2 * unreadRecordsOf cluster entry + if entry.endReported then 0 else 1

/-- How many more polls can find something: one for each scripted outcome, and what there is to find
at the entries, which are those of the group if the client is yet to join it. -/
def backlog (link : Link) : Nat :=
  (link.cluster.script .poll).length +
    ((joined link).assignment.map (backlogOf link.cluster)).sum

/-- What an entry has yet to read depends on the logs alone. -/
theorem backlogOf_congr {left right : Cluster} (same : left.topics = right.topics)
    (entry : Assigned) : backlogOf left entry = backlogOf right entry := by
  unfold backlogOf unreadRecordsOf
  rw [Cluster.log?_congr same]

/-- What an entry has yet to read depends on its partition and on where reading goes on. -/
theorem unreadRecordsOf_of_floor {cluster : Cluster} {left right : Assigned}
    (key : left.key = right.key)
    (place : cluster.floor left.key left.position = cluster.floor right.key right.position) :
    unreadRecordsOf cluster left = unreadRecordsOf cluster right := by
  unfold unreadRecordsOf
  unfold Cluster.floor at place
  rw [key] at place ⊢
  cases found : cluster.log? right.key with
  | none => rfl
  | some log =>
    rw [found] at place
    dsimp only at place ⊢
    rw [place]

/-- An entry that has read a record has one less to read. -/
theorem unreadRecordsOf_read {cluster : Cluster} {entry : Assigned} {message : Message}
    (read : cluster.read? entry.key (cluster.floor entry.key entry.position) = some message) :
    let place := cluster.floor entry.key entry.position
    unreadRecordsOf cluster { entry with
      position := place + 1, stored := some (place + 1), endReported := false } + 1 =
      unreadRecordsOf cluster entry := by
  intro place
  obtain ⟨_, _, _, log, record, found, retained, _⟩ := Cluster.read?_eq_some read
  have bounds := PartitionLog.bounds_of_record? retained
  have key : ({ entry with
    position := place + 1, stored := some (place + 1), endReported := false } : Assigned).key =
      entry.key := rfl
  have reached : place = max entry.position log.low := by
    simp only [place, Cluster.floor, found]
  unfold unreadRecordsOf
  rw [key, found]
  dsimp only
  omega

/-- Where the end of a partition was reported and there is no record, an inspection finds nothing.
-/
theorem inspect_reported {cluster : Cluster} {reportsEnd : Bool} {entry : Assigned}
    (reported : entry.endReported = true)
    (unreadable : cluster.read? entry.key (cluster.floor entry.key entry.position) = none) :
    (inspect cluster reportsEnd entry).1 = none := by
  unfold inspect
  rw [raised_eq]
  split
  · rfl
  · dsimp only
    split
    · rename_i message found
      exact absurd (unreadable.symm.trans found) nofun
    · simp [reported]

/-- An entry that is passed has as much to find as before. -/
theorem Passed.backlog {cluster : Cluster} {reportsEnd : Bool} {before after : Assigned}
    (passed : Passed cluster reportsEnd before after) :
    backlogOf cluster after = backlogOf cluster before := by
  rcases passed with same | quiet
  · rw [same]
  · unfold backlogOf
    obtain same | ⟨_, _, same⟩ | ⟨_, same⟩ | ⟨_, same⟩ :=
      inspect_cases cluster reportsEnd before <;> rw [Quiet, same] at quiet <;> cases quiet
    · rfl
    · congr 2
      exact unreadRecordsOf_of_floor rfl
        (Cluster.floor_eq_of_between (Cluster.le_floor _ _ _) (Int.le_refl _))

/-- An entry at which something was found has less to find than before. -/
theorem backlog_found {cluster : Cluster} {reportsEnd : Bool} {entry entry' : Assigned}
    {message : Message} (found : inspect cluster reportsEnd entry = (some message, entry')) :
    backlogOf cluster entry' < backlogOf cluster entry := by
  have answered : (inspect cluster reportsEnd entry).1 ≠ none := by
    rw [found]
    nofun
  unfold backlogOf
  obtain same | ⟨read, readable, same⟩ | ⟨unreadable, same⟩ | ⟨_, same⟩ :=
    inspect_cases cluster reportsEnd entry <;> rw [found] at same <;> cases same
  · have less := unreadRecordsOf_read readable
    dsimp only at less ⊢
    rw [← less]
    simp only [Bool.false_eq_true, ↓reduceIte]
    omega
  · have unreported : entry.endReported = false := by
      by_contra reported
      exact answered (inspect_reported (by simpa using reported) unreadable)
    have unread : unreadRecordsOf cluster { entry with
        position := cluster.floor entry.key entry.position, endReported := true } =
        unreadRecordsOf cluster entry :=
      unreadRecordsOf_of_floor rfl
        (Cluster.floor_eq_of_between (Cluster.le_floor _ _ _) (Int.le_refl _))
    rw [unread, unreported]
    simp

/-- Entries that are passed have as much to find as before. -/
theorem backlog_passed {cluster : Cluster} {reportsEnd : Bool} {before after : List Assigned}
    (passed : List.Forall₂ (Passed cluster reportsEnd) before after) :
    after.map (backlogOf cluster) = before.map (backlogOf cluster) := by
  induction passed with
  | nil => rfl
  | cons one _ ih => rw [List.map_cons, List.map_cons, one.backlog, ih]

/-- Where something is served, there was more to find before, and there is an entry. -/
theorem backlog_served {cluster : Cluster} {client : Client} {message : Message}
    (served : (serve cluster client).1 = some message) :
    ((serve cluster client).2.assignment.map (backlogOf cluster)).sum <
        (client.assignment.map (backlogOf cluster)).sum ∧
      (serve cluster client).2.assignment ≠ [] := by
  obtain ⟨nothing, _⟩ | ⟨_, before, entry, after, before', entry', after', _, whole, whole', found,
    earlier, later⟩ := serve_cases cluster client
  · rw [nothing] at served
    contradiction
  · have less := backlog_found found
    rw [whole, whole']
    refine ⟨?_, by simp⟩
    simp only [List.map_append, List.map_cons, List.sum_append, List.sum_cons,
      backlog_passed earlier, backlog_passed later]
    omega

/-- Counting a poll uses up its scripted outcome and leaves what there is to find at the entries. -/
theorem backlog_counted (link : Link) (timeout : Nat) :
    backlog { link with cluster := counted link.cluster timeout } =
      (link.cluster.script .poll).tail.length +
        ((joined link).assignment.map (backlogOf link.cluster)).sum := by
  have logs : (counted link.cluster timeout).topics = link.cluster.topics := by
    rw [counted_rest]
  have commits : (counted link.cluster timeout).commits = link.cluster.commits := by
    rw [counted_rest]
  have script : (counted link.cluster timeout).script .poll = (link.cluster.script .poll).tail :=
    Cluster.script_takeFault _ _
  have reads := @joined_congr { link with cluster := counted link.cluster timeout } link rfl logs
    commits
  unfold backlog
  rw [reads, script]
  dsimp only
  rw [funext (backlogOf_congr logs)]

/-- A poll that answers with something uses up some of what there is to find. -/
theorem backlog_poll {timeout : Nat} {link : Link} {message : Message}
    (answered : Outcome.ofMessage (poll timeout link).1.message = .ok message)
    (prompt : message.isTimeout = false) : backlog (poll timeout link).2 < backlog link := by
  have counts := backlog_counted link timeout
  have whole : backlog link = (link.cluster.script .poll).length +
      ((joined link).assignment.map (backlogOf link.cluster)).sum := rfl
  have rest : (link.cluster.script .poll).tail.length = (link.cluster.script .poll).length - 1 :=
    List.length_tail
  obtain ⟨error, scripted, result⟩ | ⟨_, _, result⟩ | ⟨_, _, result⟩ := poll_cases timeout link
  · have some : 0 < (link.cluster.script .poll).length := by
      rw [Cluster.takeFault_eq] at scripted
      apply List.length_pos_iff.mpr
      rintro nothing
      rw [nothing] at scripted
      contradiction
    rw [result, counts]
    omega
  · rw [result] at answered
    contradiction
  · let prepared : Link := { link with cluster := counted link.cluster timeout }
    cases found : (serve prepared.cluster (joined prepared)).1 with
    | none =>
      rw [result, found] at answered
      cases answered
      contradiction
    | some other =>
      obtain ⟨less, reads⟩ := backlog_served found
      let served : Link :=
        ⟨(serve prepared.cluster (joined prepared)).2, prepared.cluster⟩
      have alone : joined served = served.client := joined_of_assigned reads
      have after : backlog served < backlog prepared := by
        unfold backlog
        rw [alone]
        exact Nat.add_lt_add_left less _
      have before : backlog prepared ≤ backlog link := by
        rw [counts]
        omega
      rw [result]
      exact Nat.lt_of_lt_of_le after before

/-- What there is to find at entries is at most two for each unread record and one for each entry.
-/
theorem sum_backlogOf_le (cluster : Cluster) (entries : List Assigned) :
    (entries.map (backlogOf cluster)).sum ≤ 2 * unreadRecords cluster entries + entries.length := by
  induction entries with
  | nil => exact Nat.le_refl _
  | cons entry entries ih =>
    have first : backlogOf cluster entry ≤ 2 * unreadRecordsOf cluster entry + 1 := by
      unfold backlogOf
      split <;> omega
    rw [List.map_cons, List.sum_cons, unreadRecords, List.length_cons]
    omega

end Client

/-- A bounded consume is let poll more often than its polls can find something. -/
theorem Site.backlog_lt_pollBound {site : Site} {client : Client}
    (opened : site.consumer.connection = .connected client) :
    Client.backlog ⟨client, site.cluster⟩ < pollBound site := by
  have most := Client.sum_backlogOf_le site.cluster
    (Client.joined ⟨client, site.cluster⟩).assignment
  have present : site.consumer.connection.connected? = some client := by
    rw [opened]
    rfl
  unfold Client.backlog pollBound
  rw [present]
  dsimp only
  omega

end LogConsumer
