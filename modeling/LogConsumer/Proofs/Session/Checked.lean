import LogConsumer.Proofs.Client.CheckedCalls
import LogConsumer.Proofs.Session.Isolation

/-!
# Sessions in 64 bits

A machine follows every run of clients on one cluster. The clients are called with any absolute
offsets that 64 bits with sign can tell, the negative ones and the bounds among them, and the
cluster is told to drop records below any offset at all. All that is asked of the run is that at
each of its steps the logs fit and the partitions of a topic can be counted in 32 bits
(`Cluster.Fits`). What a step preserves is that the offsets that clients hold and groups have
committed fit (`Session.OffsetsFit`), wherever they came from; so no step makes a machine stop, and
the machine ends where the run ends: the main result is `Session.checkedRun_eq`.
-/
namespace LogConsumer

open Machine

namespace Cluster.CommitsFit

variable {cluster : Cluster}

/-- Committing offsets that fit leaves what is committed fit. -/
theorem commitAll {pending : List (PartitionKey × Int)} (fit : cluster.CommitsFit)
    (sound : ∀ entry ∈ pending, Width.int64.holds entry.2 = true) (group : String) :
    (cluster.commitAll group pending).CommitsFit := by
  induction pending generalizing cluster with
  | nil => exact fit
  | cons entry pending ih =>
    have first : (cluster.commit group entry.1 entry.2).CommitsFit := by
      intro own key offset found
      unfold committed? commit at found
      rw [Table.find?_insert] at found
      split at found
      · cases found
        exact sound entry List.mem_cons_self
      · exact fit own key offset found
    exact ih first fun other later => sound other (List.mem_cons_of_mem _ later)

end Cluster.CommitsFit

namespace ClientCall

open Client

variable {call : ClientCall} {link : Link}

/-- What is pending of a list with offsets that fit, or of entries that hold such, fits. -/
theorem pendingOffsets_fit {partitions : Option (List TopicPartition)} {mode : CommitMode}
    (carried : (ClientCall.commit partitions mode).OffsetsFit) {entries : List Assigned}
    (held : ∀ entry ∈ entries, entry.OffsetsFit) :
    ∀ pending ∈ pendingOffsets partitions entries, Width.int64.holds pending.2 = true := by
  intro pending inside
  cases partitions with
  | none =>
    obtain ⟨entry, assigned, taken⟩ := List.mem_filterMap.mp inside
    obtain ⟨offset, stored, rfl⟩ := Option.map_eq_some_iff.mp taken
    exact (held entry assigned).storing offset stored
  | some list =>
    obtain ⟨tp, listed, taken⟩ := List.mem_filterMap.mp inside
    obtain ⟨offset, absolute, rfl⟩ := Option.map_eq_some_iff.mp taken
    exact carried tp listed offset absolute

/-- A call that carries offsets that fit leaves the offsets held fit. -/
theorem offsetsFit_perform (fits : link.cluster.Fits) (held : link.OffsetsFit)
    (carried : call.OffsetsFit) : (call.perform link).2.OffsetsFit := by
  refine ⟨survives_perform (spares_offsetsFit fits held carried) held.entries, ?_⟩
  by_cases commits : ∃ partitions mode, call = .commit partitions mode
  · obtain ⟨partitions, mode, rfl⟩ := commits
    have used : (scripted .commit link).cluster.CommitsFit :=
      held.commits.congr (by rw [scripted, Cluster.takeFault_rest])
    change ((Client.commit partitions).run link).2.cluster.CommitsFit
    obtain ⟨_, refused⟩ | ⟨group, _, done⟩ := Client.commit_cases partitions link
    · rw [refused]
      exact used
    · rw [done]
      exact used.commitAll (pendingOffsets_fit carried held.entries) group
  · exact held.commits.congr
      (keeps_commits (fun partitions mode same => commits ⟨partitions, mode, same⟩) link)

end ClientCall

namespace Session

/-- A step of the cluster, or a call on a client that is used without a consumer. -/
inductive DirectStep where
  /-- A step on the cluster. -/
  | cluster (step : ClusterStep)
  /-- A call on a client. -/
  | client (number : Nat) (call : ClientCall)
  deriving Repr, Inhabited

/-- Perform a step on the cluster, as a machine does. -/
def ClusterStep.checkedPerform (clock : Int) :
    ClusterStep → Machine Cluster (Except ClientError (Option Int))
  | .produce key recordKey payload timestamp => do
    let record : Record := { key := recordKey, payload, timestamp := timestamp.getD clock }
    let cluster ← get
    let (outcome, cluster) ← cluster.checkedProduce key record
    set cluster
    pure (outcome.map some)
  | .deleteRecords key before => do
    let cluster ← get
    let (outcome, cluster) ← cluster.checkedDeleteRecords key before
    set cluster
    pure (outcome.map fun _ => none)
  | step => ofAction (step.perform clock)

/-- A machine follows every step on a cluster that fits. -/
theorem ClusterStep.follows_perform {cluster : Cluster} (fits : cluster.Fits) (step : ClusterStep)
    (clock : Int) : Follows (step.checkedPerform clock) (step.perform clock) cluster := by
  cases step with
  | produce key recordKey payload timestamp =>
    let record : Record := { key := recordKey, payload, timestamp := timestamp.getD clock }
    refine .reading (.computing (Cluster.checkedProduce_eq fits key record) ?_)
    change some (((cluster.produce key record).1.map fun (offset : Nat) => (offset : Int)).map some,
        (cluster.produce key record).2) =
      some ((ClusterStep.produce key recordKey payload timestamp).perform clock cluster)
    rw [Link.perform_produce cluster key recordKey payload timestamp clock rfl]
    cases (cluster.produce key record).1 <;> rfl
  | deleteRecords key before =>
    exact .reading (.computing (Cluster.checkedDeleteRecords_eq fits key before) rfl)
  | _ => exact .ofAction _

/-- Act through a client that is used without a consumer, as a machine does. -/
def checkedThroughClient {α : Type} (number : Nat) (machine : Machine Link α) :
    Machine Session (Option α) := do
  let session ← get
  match session.clients[number]? with
  | none => pure none
  | some client =>
    let (answer, link) ← machine ⟨client, session.cluster⟩
    set { session with cluster := link.cluster, clients := session.clients.set number link.client }
    pure (some answer)

/-- A machine follows what is done through a client if it follows it there. -/
theorem follows_throughClient {α : Type} {session : Session} {number : Nat}
    {machine : Machine Link α} {action : StateM Link α}
    (same : ∀ client, session.clients[number]? = some client →
      Follows machine action ⟨client, session.cluster⟩) :
    Follows (checkedThroughClient number machine) (throughClient number action) session := by
  refine .reading ?_
  cases present : session.clients[number]? with
  | none => exact .pure _
  | some client => exact .computing (same client present) rfl

namespace DirectStep

/-- The step as one of a session. -/
def step : DirectStep → Step
  | .cluster step => .cluster step
  | .client number call => .client number call

/-- The session after a step. -/
def next (session : Session) (direct : DirectStep) : Session :=
  (direct.step.perform session).2

/-- Perform a step, as a machine does. -/
def checkedPerform : DirectStep → Machine Session Answer
  | .cluster step => do
    let session ← get
    let (answer, changed) ← step.checkedPerform session.clock session.cluster
    set { session with cluster := changed }
    pure (.cluster answer)
  | .client number call => do
    pure (((← checkedThroughClient number call.checkedPerform).map .client).getD .nobody)

/-- The absolute offsets that a call of the step carries fit into 64 bits with sign; what a step on
the cluster carries need not. -/
def OffsetsFit : DirectStep → Prop
  | .cluster _ => True
  | .client _ call => call.OffsetsFit

instance : (direct : DirectStep) → Decidable direct.OffsetsFit
  | .cluster _ => inferInstanceAs (Decidable True)
  | .client _ call => inferInstanceAs (Decidable call.OffsetsFit)

/-- The logs fit where the step is made, and the offsets that it carries. -/
def Fits (session : Session) (direct : DirectStep) : Prop :=
  session.cluster.Fits ∧ direct.OffsetsFit

instance (session : Session) (direct : DirectStep) : Decidable (direct.Fits session) :=
  inferInstanceAs (Decidable (_ ∧ _))

end DirectStep

/-- The offsets that clients hold and groups have committed fit into 64 bits with sign. -/
structure OffsetsFit (session : Session) : Prop where
  /-- Those of the entries of the clients fit. -/
  clients : ∀ client ∈ session.clients, ∀ entry ∈ client.assignment, entry.OffsetsFit
  /-- Those committed fit. -/
  commits : session.cluster.CommitsFit

variable {session : Session}

/-- The offsets fit that a client of the session and the cluster hold. -/
theorem OffsetsFit.link (held : session.OffsetsFit) {number : Nat} {client : Client}
    (present : session.clients[number]? = some client) :
    Link.OffsetsFit ⟨client, session.cluster⟩ :=
  ⟨held.clients client (List.mem_of_getElem? present), held.commits⟩

namespace DirectStep

/-- A machine follows every step where the logs and the offsets held fit. -/
theorem follows (fits : session.cluster.Fits) (held : session.OffsetsFit) (direct : DirectStep) :
    Follows direct.checkedPerform direct.step.perform session := by
  cases direct with
  | cluster step => exact .reading (.computing (step.follows_perform fits session.clock) rfl)
  | client number call =>
    have through : Follows (checkedThroughClient number call.checkedPerform)
        (throughClient number call.perform) session :=
      follows_throughClient fun client present => call.follows_perform fits (held.link present)
    exact .bind through (.pure _)

/-- A step that carries offsets that fit leaves the offsets held fit. -/
theorem offsetsFit_next {direct : DirectStep} (fits : direct.Fits session)
    (held : session.OffsetsFit) : (direct.next session).OffsetsFit := by
  cases direct with
  | cluster step =>
    have kept : Keeps Cluster.commits (step.perform session.clock) :=
      step.keeps (fun _ _ _ _ => rfl) session.clock
    exact ⟨held.clients, held.commits.congr (kept session.cluster)⟩
  | client number call =>
    change (throughClient number call.perform session).2.OffsetsFit
    cases present : session.clients[number]? with
    | none =>
      rw [throughClient_absent present]
      exact held
    | some client =>
      rw [throughClient_run present]
      have after := ClientCall.offsetsFit_perform fits.1 (held.link present) fits.2
      refine ⟨fun other member => ?_, after.commits⟩
      obtain there | rfl := List.mem_or_eq_of_mem_set member
      · exact held.clients other there
      · exact after.entries

end DirectStep

/-- Perform steps in order, as a machine does. -/
def checkedRun (steps : List DirectStep) : Machine Session (List Answer) :=
  steps.mapM DirectStep.checkedPerform

/-- A machine follows every run, if the offsets held where it begins fit, and at each step the logs
and the offsets that it carries. -/
theorem follows_run {steps : List DirectStep} (held : session.OffsetsFit)
    (fits : Throughout DirectStep.next DirectStep.Fits session steps) :
    Follows (checkedRun steps) (run (steps.map DirectStep.step)) session := by
  induction steps generalizing session with
  | nil => exact .pure _
  | cons direct steps ih =>
    have first := direct.follows fits.1.1 held
    have rest := ih (DirectStep.offsetsFit_next fits.1 held) fits.2
    rw [checkedRun, run, List.map_cons, List.mapM_cons, List.mapM_cons]
    exact .bind first (.bind rest (.pure _))

/-- Handles that were just created read nothing. -/
theorem unassigned_of_created {configs : List Config} {fresh : String} {cluster : Cluster}
    {client : Client}
    (created : .ok client ∈
      (configs.mapM (fun config => Client.create config fresh) cluster).1) :
    client.assignment = [] := by
  induction configs generalizing cluster with
  | nil => cases created
  | cons config configs ih =>
    rw [run_mapM_cons] at created
    obtain here | later := List.mem_cons.mp created
    · rw [Client.create_eq here.symm]
    · exact ih later

/-- In a session that was just opened no offset is held. -/
theorem Setup.offsetsFit_of_build {setup : Setup} (built : setup.build = .ok session) :
    session.OffsetsFit := by
  have commits : session.cluster.commits = .empty :=
    Setup.view_of_build (fun _ _ _ => rfl) built
  unfold Setup.build at built
  cases made : setup.consumers.mapM setup.participant with
  | error error =>
    rw [made] at built
    cases built
  | ok participants =>
    rw [made] at built
    cases built
    refine ⟨fun client member entry assigned => ?_, ?_⟩
    · obtain ⟨outcome, inside, here⟩ := List.mem_filterMap.mp member
      cases outcome with
      | error error => cases here
      | ok created =>
        cases here
        rw [unassigned_of_created inside] at assigned
        cases assigned
    · have nothing : ({} : Cluster).CommitsFit := fun _ _ _ found => nomatch found
      exact nothing.congr commits

/-- Neither adding a record, nor dropping those below any offset, nor placing a reader, looking up
an offset, joining a group or polling ever overflows, crosses the bounds of a clamp or leaves a
range, whatever offsets clients were given before. A machine that would stop there performs every
run since a session was opened as the session does, if only the offset after the last record of each
log fits at each step into 64 bits with sign and the partitions of a topic into 32. -/
theorem checkedRun_eq {setup : Setup} (built : setup.build = .ok session)
    {steps : List DirectStep} (fits : Throughout DirectStep.next DirectStep.Fits session steps) :
    checkedRun steps session = some (run (steps.map DirectStep.step) session) :=
  follows_run (Setup.offsetsFit_of_build built) fits

/-- Two clients of a group read a log with the lowest and the highest offset that there are. The
first one is assigned both, polls, and commits both; the second one joins the group, resumes there,
and goes on at the low watermark; and everything is dropped by the highest offset. The machine
performs it all. -/
theorem checkedRun_eq_at_the_bounds :
    let config : Config :=
      { groupId := some "g", properties := .ofList [("enable.partition.eof", "true")] }
    let setup : Setup := { topics := [("log", 2)], clients := [config, config] }
    let place (topic : String) (partition offset : Int) : TopicPartition :=
      { topic, partition, offset := .absolute offset }
    let lowest : Int := -9223372036854775808
    let highest : Int := 9223372036854775807
    let steps : List DirectStep :=
      [.cluster (.produce ⟨"log", 0⟩ none [1] none), .cluster (.produce ⟨"log", 0⟩ none [2] none),
        .cluster (.produce ⟨"log", 0⟩ none [3] none), .cluster (.deleteRecords ⟨"log", 0⟩ lowest),
        .cluster (.deleteRecords ⟨"log", 0⟩ 1),
        .client 0 (.assign [place "log" 0 lowest, place "log" 1 highest, place "none" 0 lowest]),
        .client 0 (.poll 10), .client 0 (.poll 10), .client 0 (.poll 10),
        .client 0 (.storeOffsets [place "log" 0 lowest]), .client 0 (.commit none .sync),
        .client 0 (.commit (some [place "log" 1 highest]) .sync),
        .client 0 (.seek (place "log" 0 highest) 10), .client 0 (.poll 10),
        .client 0 (.offsetsForTimes [place "log" 0 lowest] 10),
        .client 1 (.subscribe ["log"]), .client 1 (.poll 10), .client 1 (.poll 10),
        .cluster (.deleteRecords ⟨"log", 0⟩ highest), .client 1 (.queryWatermarks ⟨"log", 0⟩ 10),
        .client 1 (.poll 10)]
    ∃ session, setup.build = .ok session ∧
      Throughout DirectStep.next DirectStep.Fits session steps ∧
      checkedRun steps session = some (run (steps.map DirectStep.step) session) ∧
      let final := (run (steps.map DirectStep.step) session).2
      (final.cluster.committed? "g" ⟨"log", 0⟩, final.cluster.committed? "g" ⟨"log", 1⟩) =
        (some lowest, some highest) ∧
      final.clients.map (fun client => client.assignment.map (·.position)) =
        [[highest, highest, lowest], [3, highest]] := by
  intro config setup place lowest highest steps
  have shown : (setup.build.toOption.map fun session =>
      let final := (run (steps.map DirectStep.step) session).2
      (decide (Throughout DirectStep.next DirectStep.Fits session steps),
        (final.cluster.committed? "g" ⟨"log", 0⟩, final.cluster.committed? "g" ⟨"log", 1⟩),
        final.clients.map (fun client => client.assignment.map (·.position)))) =
      some (true, (some lowest, some highest), [[highest, highest, lowest], [3, highest]]) := by
    decide +kernel
  cases built : setup.build with
  | error error =>
    rw [built] at shown
    cases shown
  | ok session =>
    rw [built] at shown
    obtain ⟨fits, rest⟩ := Prod.mk.inj (Option.some.inj shown)
    obtain ⟨committed, positions⟩ := Prod.mk.inj rest
    have throughout := of_decide_eq_true fits
    exact ⟨session, rfl, throughout, checkedRun_eq built throughout, committed, positions⟩
end Session

end LogConsumer
