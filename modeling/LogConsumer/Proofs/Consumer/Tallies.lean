import LogConsumer.Proofs.Consumer.Counters

/-!
# What is written down of a consumer

What happens at a consumer is written down entry by entry (`Entry`): it polls a handle, it counts
the outcome of a poll, a commit reaches a handle and is counted, others use the cluster, or the
trace is taken out. `Site.Written` says that between two sites exactly these entries were made, so
that nothing else moved a counter, polled, or called a handle to poll or to commit. The entries can
be told from the trace (`Site.Written.traces`) and the polls of the cluster (`Site.Written.polls`),
and they tell the counters (`Site.Written.advances`).

What was polled is counted when the poll ends, and the poll of a consume loop may be in flight in
between (`Site.Tallied`).
-/
namespace LogConsumer

open Consumer

variable {site between site' : Site}

namespace Call

/-- The call is a poll. -/
def isPoll : Call → Bool
  | .onHandle (.poll _) => true
  | _ => false

/-- The call is a commit. -/
def isCommit : Call → Bool
  | .onHandle (.commit _ _) => true
  | _ => false

/-- The call is a poll or a commit. -/
def isTallied (call : Call) : Bool :=
  call.isPoll || call.isCommit

end Call

/-- What is written down of a consumer. -/
inductive Entry where
  /-- A handle was polled, and returned a message. -/
  | polled (call : TracedCall) (message : Message)
  /-- The outcome of a poll was counted. -/
  | counted (outcome : Outcome)
  /-- A commit reached a handle, and succeeded or failed. -/
  | committed (call : TracedCall) (succeeded : Bool)
  /-- Others used the cluster, and the boundary was scripted. -/
  | surrounded
  /-- The trace was taken out. -/
  | cleared

namespace Entry

/-- The messages that polls returned. -/
def messages (entries : List Entry) : List Message :=
  entries.filterMap fun
    | .polled _ message => some message
    | _ => none

/-- The outcomes that were counted. -/
def outcomes (entries : List Entry) : List Outcome :=
  entries.filterMap fun
    | .counted outcome => some outcome
    | _ => none

/-- Whether the commits succeeded. -/
def commits (entries : List Entry) : List Bool :=
  entries.filterMap fun
    | .committed _ succeeded => some succeeded
    | _ => none

/-- The polls and commits that were called. -/
def calls (entries : List Entry) : List TracedCall :=
  entries.filterMap fun
    | .polled call _ | .committed call _ => some call
    | _ => none

section Append

variable (first second : List Entry)

@[simp] theorem messages_append : messages (first ++ second) = messages first ++ messages second :=
  List.filterMap_append

@[simp] theorem outcomes_append : outcomes (first ++ second) = outcomes first ++ outcomes second :=
  List.filterMap_append

@[simp] theorem commits_append : commits (first ++ second) = commits first ++ commits second :=
  List.filterMap_append

@[simp] theorem calls_append : calls (first ++ second) = calls first ++ calls second :=
  List.filterMap_append

end Append

end Entry

namespace Site

/-- The polls and commits traced. -/
def traces (site : Site) : List TracedCall :=
  site.consumer.boundary.calls.filter fun traced => traced.call.isTallied

/-- The polls and commits traced, and how many polls the cluster has seen. -/
def trail (site : Site) : List TracedCall × Nat :=
  (site.traces, site.cluster.polls)

/-- The counters, the polls and commits traced, and how many polls the cluster has seen. -/
def tally (site : Site) : Metrics × List TracedCall × Nat :=
  (site.consumer.metrics, site.trail)

/-- The site after a poll of its handle. -/
def polled (site : Site) (client : Client) (timeout : Nat) : Site :=
  (site.traced client (.poll timeout)).linked (Client.poll timeout ⟨client, site.cluster⟩).2

/-- The site after a commit of its handle has been counted. -/
def committed (site : Site) (client : Client) (partitions : Option (List TopicPartition))
    (mode : CommitMode) : Site :=
  let ran := (Client.commit partitions).run ⟨client, site.cluster⟩
  let reached := (site.traced client (.commit partitions mode)).linked ran.2
  { reached with
    consumer := { reached.consumer with
      metrics := reached.consumer.metrics.recordCommit ran.1.toBool } }

/-- What is written down of one thing that happens. -/
inductive Writes (site : Site) : List Entry → Site → Prop where
  /-- No counter moves, no handle is called to poll or to commit, and no poll is made. -/
  | aside {site' : Site} (same : site'.tally = site.tally) : Writes site [] site'
  /-- The open handle is polled. -/
  | polls {client : Client} (opened : site.consumer.connection = .connected client)
    (timeout : Nat) :
    Writes site
      [.polled ⟨client.serial, .onHandle (.poll timeout)⟩
        (Client.poll timeout ⟨client, site.cluster⟩).1.message]
      (site.polled client timeout)
  /-- The outcome of a poll is counted. -/
  | counts (outcome : Outcome) : Writes site [.counted outcome] (countOutcome outcome site).2
  /-- A commit reaches the open handle, and is counted. -/
  | commits {client : Client} (opened : site.consumer.connection = .connected client)
    (partitions : Option (List TopicPartition)) (mode : CommitMode) :
    Writes site
      [.committed ⟨client.serial, .onHandle (.commit partitions mode)⟩
        ((Client.commit partitions).run ⟨client, site.cluster⟩).1.toBool]
      (site.committed client partitions mode)
  /-- Others use the cluster, and the boundary is scripted. -/
  | surrounds {boundary : Boundary} (traced : boundary.calls = site.consumer.boundary.calls)
    (cluster : Cluster) :
    Writes site [.surrounded] { consumer := { site.consumer with boundary }, cluster }
  /-- The trace is taken out. -/
  | clears :
    Writes site [.cleared]
      { site with consumer := { site.consumer with
          boundary := { site.consumer.boundary with calls := [] } } }

/-- What is written down of things that happen one after the other. -/
inductive Written : Site → List Entry → Site → Prop where
  /-- Nothing happens. -/
  | refl {site : Site} : Written site [] site
  /-- One thing happens before all the others. -/
  | head {site between site' : Site} {first later : List Entry}
    (writes : Writes site first between) (rest : Written between later site') :
    Written site (first ++ later) site'

end Site

/-- A call that is traced is a poll or a commit, or not. -/
theorem traces_note (handle : Option Nat) (call : Call) (site : Site) :
    (note handle call site).2.traces =
      site.traces ++ if call.isTallied then [⟨handle, call⟩] else [] := by
  change List.filter _ (site.consumer.boundary.calls ++ [_]) = _
  rw [List.filter_append, List.filter_singleton]
  cases call.isTallied <;> rfl

/-- A call that neither polls nor commits keeps the trail. -/
theorem trail_note {call : Call} (quiet : call.isTallied = false) (handle : Option Nat)
    (site : Site) : (note handle call site).2.trail = site.trail := by
  refine Prod.ext ?_ rfl
  have traced := traces_note handle call site
  rw [quiet] at traced
  exact traced.trans (List.append_nil _)

namespace Site

variable {entries first later : List Entry}

/-- The counters count the outcomes and the commits that are written down. -/
theorem Writes.advances (writes : Writes site entries site') :
    site.consumer.metrics.Advances (Entry.outcomes entries) (Entry.commits entries)
      site'.consumer.metrics := by
  cases writes with
  | aside same =>
    have metrics : site'.consumer.metrics = site.consumer.metrics := congrArg Prod.fst same
    rw [metrics]
    exact .refl
  | polls opened timeout => exact .refl
  | counts outcome => exact Metrics.advances_recordOutcome _ outcome
  | commits opened partitions mode => exact Metrics.advances_recordCommit _ _
  | surrounds traced cluster => exact .refl
  | clears => exact .refl

/-- Unless the trace is taken out, the polls and commits traced are those written down. -/
theorem Writes.traces (writes : Writes site entries site') (whole : Entry.cleared ∉ entries) :
    site'.traces = site.traces ++ Entry.calls entries := by
  cases writes with
  | aside same => exact (congrArg (·.2.1) same).trans (List.append_nil _).symm
  | polls opened timeout => exact traces_note _ (.onHandle (.poll timeout)) site
  | counts outcome => exact (List.append_nil _).symm
  | commits opened partitions mode => exact traces_note _ (.onHandle (.commit partitions mode)) site
  | surrounds traced cluster =>
    unfold Site.traces
    rw [traced]
    exact (List.append_nil _).symm
  | clears => exact absurd (List.mem_singleton.mpr rfl) whole

/-- Unless others use the cluster, the polls that it sees are those written down. -/
theorem Writes.polls_cluster (writes : Writes site entries site')
    (alone : Entry.surrounded ∉ entries) :
    site'.cluster.polls = site.cluster.polls + (Entry.messages entries).length := by
  cases writes with
  | aside same => exact congrArg (·.2.2) same
  | polls opened timeout => exact ClientCall.polls_poll timeout _
  | counts outcome => rfl
  | @commits client opened partitions mode =>
    exact ClientCall.keeps_polls (.commit partitions mode) nofun ⟨client, site.cluster⟩
  | surrounds traced cluster => exact absurd (List.mem_singleton.mpr rfl) alone
  | clears => rfl

namespace Written

/-- One thing alone is written down. -/
theorem single (writes : Writes site entries site') : Written site entries site' := by
  rw [← List.append_nil entries]
  exact .head writes .refl

/-- What happens later is written down later. -/
theorem trans (before : Written site first between) (after : Written between later site') :
    Written site (first ++ later) site' := by
  induction before with
  | refl => exact after
  | head writes _ goesOn =>
    rw [List.append_assoc]
    exact .head writes (goesOn after)

/-- The counters count the outcomes and the commits that are written down. -/
theorem advances (written : Written site entries site') :
    site.consumer.metrics.Advances (Entry.outcomes entries) (Entry.commits entries)
      site'.consumer.metrics := by
  induction written with
  | refl => exact .refl
  | head writes _ rest =>
    rw [Entry.outcomes_append, Entry.commits_append]
    exact writes.advances.trans rest

/-- Unless the trace is taken out, the polls and commits traced are those written down. -/
theorem traces (written : Written site entries site') (whole : Entry.cleared ∉ entries) :
    site'.traces = site.traces ++ Entry.calls entries := by
  induction written with
  | refl => exact (List.append_nil _).symm
  | head writes _ rest =>
    rw [List.mem_append, not_or] at whole
    rw [rest whole.2, writes.traces whole.1, Entry.calls_append, List.append_assoc]

/-- Unless others use the cluster, the polls that it sees are those written down. -/
theorem polls (written : Written site entries site') (alone : Entry.surrounded ∉ entries) :
    site'.cluster.polls = site.cluster.polls + (Entry.messages entries).length := by
  induction written with
  | refl => rfl
  | head writes _ rest =>
    rw [List.mem_append, not_or] at alone
    rw [rest alone.2, writes.polls_cluster alone.1, Entry.messages_append, List.length_append,
      Nat.add_assoc]

end Written

/-- The outcome of the poll that has still to be counted. -/
def pending (site : Site) : List Outcome :=
  site.inFlight.filter Outcome.isPolled

/-- What is written down as a poll or a commit is the call of one. -/
theorem Written.countP_calls (written : Written site entries site') :
    (Entry.calls entries).countP (·.call.isPoll) = (Entry.messages entries).length ∧
      (Entry.calls entries).countP (·.call.isCommit) = (Entry.commits entries).length := by
  induction written with
  | refl => exact ⟨rfl, rfl⟩
  | head writes _ rest =>
    rw [Entry.calls_append, Entry.messages_append, Entry.commits_append, List.countP_append,
      List.countP_append, List.length_append, List.length_append, rest.1, rest.2]
    cases writes <;> exact ⟨rfl, rfl⟩

/-- Between two sites these entries were made, and what was polled was counted or is still to be. -/
structure Tallied (site : Site) (entries : List Entry) (site' : Site) : Prop where
  /-- These entries were made. -/
  written : Written site entries site'
  /-- What was polled was counted, or is still to be. -/
  balanced : (site.pending ++ (Entry.messages entries).map Outcome.ofMessage).Perm
    (Entry.outcomes entries ++ site'.pending)

/-- Between two sites only such entries were made, and what was polled was counted or is still to
be. -/
def Tallies (may : Entry → Prop) (site site' : Site) : Prop :=
  ∃ entries, Tallied site entries site' ∧ ∀ entry ∈ entries, may entry

/-- Where nothing happens nothing is written down. -/
theorem Tallied.refl : Tallied site [] site :=
  ⟨.refl, by simp [Entry.messages, Entry.outcomes]⟩

/-- What others do is written down as such. -/
theorem Tallied.surrounded {boundary : Boundary}
    (traced : boundary.calls = site.consumer.boundary.calls) (cluster : Cluster) :
    Tallied site [.surrounded] { consumer := { site.consumer with boundary }, cluster } :=
  ⟨.single (.surrounds traced cluster), .of_eq (List.append_nil _)⟩

/-- What is tallied before and after is tallied as a whole. -/
theorem Tallied.trans (before : Tallied site first between)
    (after : Tallied between later site') : Tallied site (first ++ later) site' := by
  refine ⟨before.written.trans after.written, ?_⟩
  rw [Entry.messages_append, Entry.outcomes_append, List.map_append, ← List.append_assoc,
    List.append_assoc (Entry.outcomes first)]
  refine (before.balanced.append_right _).trans ?_
  rw [List.append_assoc]
  exact after.balanced.append_left _

namespace Tallies

variable {may wider : Entry → Prop}

/-- Where nothing happens nothing is written down. -/
theorem refl : Tallies may site site :=
  ⟨[], .refl, by simp⟩

/-- What is tallied before and after is tallied as a whole. -/
theorem trans (before : Tallies may site between) (after : Tallies may between site') :
    Tallies may site site' := by
  obtain ⟨first, tallied, may₁⟩ := before
  obtain ⟨later, goesOn, may₂⟩ := after
  refine ⟨first ++ later, tallied.trans goesOn, fun entry made => ?_⟩
  obtain made | made := List.mem_append.mp made
  · exact may₁ entry made
  · exact may₂ entry made

/-- What may be written down may be so where more may. -/
theorem mono (tallies : Tallies may site site') (wide : ∀ entry, may entry → wider entry) :
    Tallies wider site site' := by
  obtain ⟨entries, tallied, made⟩ := tallies
  exact ⟨entries, tallied, fun entry inside => wide entry (made entry inside)⟩

/-- Where no counter moves, nothing is called and nothing ends, nothing is written down. -/
theorem aside (same : site'.tally = site.tally) (pending : site'.pending = site.pending) :
    Tallies may site site' := by
  refine ⟨[], ⟨.single (.aside same), ?_⟩, by simp⟩
  rw [pending]
  simp [Entry.messages, Entry.outcomes]

/-- What others do is written down as such. -/
theorem surrounded {boundary : Boundary} (traced : boundary.calls = site.consumer.boundary.calls)
    (cluster : Cluster) :
    Tallies (· = .surrounded) site { consumer := { site.consumer with boundary }, cluster } :=
  ⟨_, .surrounded traced cluster, by simp⟩

/-- That the trace was taken out is written down. -/
theorem cleared : Tallies (· = .cleared) site
    { site with consumer := { site.consumer with
        boundary := { site.consumer.boundary with calls := [] } } } := by
  refine ⟨_, ⟨.single .clears, ?_⟩, by simp⟩
  exact .of_eq (List.append_nil _)

end Tallies

/-- The counters of a consumer account for what is written down of it since it was built. All of
them count modulo the size of a word, and a poll that is still in flight is counted when it ends. -/
structure Accounted (site : Site) (entries : List Entry) : Prop where
  /-- Every poll is counted, once. -/
  polls : site.consumer.metrics.messagesConsumed + site.consumer.metrics.partitionEofs +
      site.consumer.metrics.pollTimeouts + site.consumer.metrics.consumeErrors +
      UInt64.ofNat site.pending.length =
    UInt64.ofNat ((Entry.calls entries).countP (·.call.isPoll))
  /-- The bytes counted are those of the messages whose code says that they are records. -/
  bytes : site.consumer.metrics.bytesConsumed +
      UInt64.ofNat (site.pending.map Outcome.bytes).sum =
    UInt64.ofNat ((Entry.messages entries).map fun message =>
      if message.error = .noError then message.size else 0).sum
  /-- The errors counted are the polls whose outcome is a failure of the client. -/
  errors : site.consumer.metrics.consumeErrors +
      UInt64.ofNat (site.pending.countP Outcome.isFailure) =
    UInt64.ofNat ((Entry.messages entries).countP fun message =>
      (Outcome.ofMessage message).isFailure)
  /-- Every commit that reached a handle is counted. -/
  commits : site.consumer.metrics.commitsSubmitted =
    UInt64.ofNat ((Entry.calls entries).countP (·.call.isCommit))
  /-- Every commit that failed there is counted. -/
  refusals : site.consumer.metrics.commitFailures =
    UInt64.ofNat ((Entry.commits entries).count false)

/-- What is tallied from where nothing was counted and nothing is in flight is accounted for. -/
theorem Tallied.accounted (fresh : site.consumer.metrics = {}) (idle : site.pending = [])
    (tallied : Tallied site entries site') : site'.Accounted entries := by
  have advances := tallied.written.advances
  have balanced := tallied.balanced
  obtain ⟨polls, commits⟩ := tallied.written.countP_calls
  rw [idle, List.nil_append] at balanced
  rw [fresh] at advances
  -- What was counted and what is pending are the outcomes of the messages in another order, so
  -- whatever is summed or counted over the ones is the same over the others.
  have kinds : (Entry.outcomes entries).countP Outcome.isRecord +
      (Entry.outcomes entries).countP Outcome.isEnd +
      (Entry.outcomes entries).countP Outcome.isEmpty +
      (Entry.outcomes entries).countP Outcome.isFailure = (Entry.outcomes entries).length := by
    refine Outcome.countP_kinds fun outcome counted => ?_
    obtain ⟨message, _, same⟩ :=
      List.mem_map.mp (balanced.mem_iff.mpr (List.mem_append_left _ counted))
    exact ⟨message, same⟩
  constructor
  · have length := balanced.length_eq
    rw [List.length_map, List.length_append, ← kinds] at length
    rw [advances.records, advances.ends, advances.empties, advances.failures, polls, length]
    simp only [UInt64.zero_add, UInt64.ofNat_add]
  · have sizes := (balanced.map Outcome.bytes).sum_nat
    have bytes : Outcome.bytes ∘ Outcome.ofMessage =
        fun message => if message.error = .noError then message.size else 0 :=
      funext Outcome.bytes_ofMessage
    rw [List.map_append, List.sum_append, List.map_map, bytes] at sizes
    rw [advances.bytes, sizes, UInt64.ofNat_add]
    exact congrArg (· + _) (UInt64.zero_add _)
  · have failures := balanced.countP_eq Outcome.isFailure
    rw [List.countP_append, List.countP_map] at failures
    have same : (Entry.messages entries).countP
        (fun message => (Outcome.ofMessage message).isFailure) = _ := failures
    rw [advances.failures, same, UInt64.ofNat_add]
    exact congrArg (· + _) (UInt64.zero_add _)
  · rw [advances.submissions, commits]
    exact UInt64.zero_add _
  · rw [advances.refusals]
    exact UInt64.zero_add _

end Site

end LogConsumer
