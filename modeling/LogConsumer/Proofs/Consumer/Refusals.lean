import LogConsumer.Consumer.Run
import LogConsumer.Proofs.Consumer.Gates

/-!
# Calls without a connection

Which operations need a handle, and in which states of the connection they are refused for want of
one (`Operation.RefusedIn`). A refused operation fails before it looks at its arguments, counts,
publishes or calls anything, so the site after it is the site before it (`run_of_refused`).
-/
namespace LogConsumer

/-- The operation needs a handle that the connection does not offer in this state. Dropping what is
assigned is content with a handle that is being closed; everything else needs an open one. -/
def Operation.RefusedIn (state : ConnectionState) : Operation → Prop
  | .subscribe _ | .subscription | .assign _ | .incrementalAssign _ | .refreshAssignments
  | .assignments | .commit _ _ | .consume _ | .seek _ _ | .committed _ _ | .position _ | .pause _
  | .resume _ | .storeOffsets _ | .storeOffset _ _ _ | .offsetsForTimes _ _ | .cachedWatermarks _
  | .queryWatermarks _ _ => state ≠ .connected
  | .consumeMany count _ _ => state ≠ .connected ∧ 1 ≤ count
  | .unassign | .incrementalUnassign _ => state = .disconnected
  | .connect | .disconnect | .unsubscribe | .hasAssigned | .rebalanceProtocol | .name | .isClosing
  | .isConnected | .activate | .deactivate | .metrics => False

/-- Why an operation is refused. Storing offsets takes a subscription, which no connection without
an open handle has. -/
def Operation.refusal : Operation → StateError
  | .storeOffsets _ | .storeOffset _ _ _ => .notSubscribed
  | _ => .notConnected

namespace Consumer

variable {site : Site}

/-- The gate for an open handle refuses where no handle is open. -/
theorem openHandle_refused (absent : site.consumer.connection.state ≠ .connected) :
    openHandle.run site = (.error .notConnected, site) := by
  obtain ⟨client, opened, _⟩ | ⟨_, refused⟩ := openHandle_cases site
  · rw [opened] at absent
    exact absurd rfl absent
  · exact refused

/-- The gate for any handle refuses where there is none. -/
theorem anyHandle_refused (vacant : site.consumer.connection.state = .disconnected) :
    anyHandle.run site = (.error .notConnected, site) := by
  obtain ⟨client, opened | closing, _⟩ | ⟨_, refused⟩ := anyHandle_cases site
  · rw [opened] at vacant
    contradiction
  · rw [closing] at vacant
    contradiction
  · exact refused

/-- A consumer without an open handle has no subscription. -/
theorem isSubscribed_eq_false (absent : site.consumer.connection.state ≠ .connected) :
    site.consumer.isSubscribed = false := by
  simp [isSubscribed, Connection.isConnected, absent]

/-- A poll is refused where no handle is open. -/
theorem consume_refused (absent : site.consumer.connection.state ≠ .connected) (timeout : Nat) :
    (consume timeout).run site = (.error .notConnected, site) :=
  run_bind_error (run_bind_error (openHandle_refused absent))

/-- Without an open handle there is one poll, so that its failure is reported. -/
theorem pollBound_eq_one (absent : site.consumer.connection.state ≠ .connected) :
    pollBound site = 1 := by
  unfold pollBound
  cases state : site.consumer.connection with
  | connected client =>
    rw [state] at absent
    exact absurd rfl absent
  | disconnected => rfl
  | closing client => rfl

/-- Polling for at least one record is refused where no handle is open. -/
theorem consumeMany_refused (absent : site.consumer.connection.state ≠ .connected) {count : Nat}
    (some : 1 ≤ count) (timeout : Nat) (firstOnly : Bool) :
    (consumeMany count timeout firstOnly).run site = (.error .notConnected, site) := by
  have missing : ¬count ≤ ({ timeout } : Gathering).batch.messages.length := by
    change ¬count ≤ 0
    omega
  change gather count _ (pollBound site) { timeout } site = _
  rw [pollBound_eq_one absent, gather, if_neg missing, run_then, consume_refused absent]
  rfl

/-- A bounded consume changes nothing where no handle is open, also if it asks for nothing. -/
theorem consumeMany_idle (absent : site.consumer.connection.state ≠ .connected)
    (count timeout : Nat) (firstOnly : Bool) :
    ((consumeMany count timeout firstOnly).run site).2 = site := by
  cases count with
  | zero =>
    change (gather 0 _ (pollBound site) { timeout } site).2 = site
    rw [pollBound_eq_one absent]
    rfl
  | succ count => rw [consumeMany_refused absent (Nat.succ_pos count)]

/-- Storing offsets is refused where no handle is open, for want of a subscription. -/
theorem storeOffsets_refused (absent : site.consumer.connection.state ≠ .connected)
    (partitions : List TopicPartition) :
    (storeOffsets partitions).run site = (.error (.state .notSubscribed), site) := by
  unfold storeOffsets
  rw [run_get, isSubscribed_eq_false absent]
  rfl

end Consumer

open Consumer

/-- A refused operation fails, and leaves the site as it is. -/
theorem Operation.run_of_refused {operation : Operation} {site : Site}
    (inside : StateM Site Unit) (refused : operation.RefusedIn site.consumer.connection.state) :
    (operation.perform inside).run site = (.error (.state operation.refusal), site) := by
  cases operation with
  | subscribe | subscription | assign | incrementalAssign | refreshAssignments | commit | seek
  | committed | position | pause | resume | offsetsForTimes | cachedWatermarks | queryWatermarks =>
    exact run_bind_error (run_bind_error (openHandle_refused refused))
  | assignments =>
    exact run_bind_error (run_bind_error (run_bind_error (openHandle_refused refused)))
  | consume timeout => exact run_bind_error (consume_refused refused timeout)
  | consumeMany count timeout firstOnly =>
    exact run_bind_error (consumeMany_refused refused.1 refused.2 timeout firstOnly)
  | unassign | incrementalUnassign =>
    exact run_bind_error (run_bind_error (anyHandle_refused refused))
  | storeOffsets partitions => exact run_bind_error (storeOffsets_refused refused partitions)
  | storeOffset =>
    exact run_bind_error (run_bind_error (storeOffsets_refused refused _))
  | connect | disconnect | unsubscribe | hasAssigned | rebalanceProtocol | name | isClosing
  | isConnected | activate | deactivate | metrics => exact refused.elim

/-- However many calls are made for want of a handle in a row, with whatever arguments, each of them
fails with a state error of its own, and the site is the same after them all: its partition set, its
subscription flag, its connection, its counters, its events, its trace and its whole cluster. -/
theorem refused_calls (inside : StateM Site Unit) (site : Site) (operations : List Operation)
    (refused : ∀ operation ∈ operations, operation.RefusedIn site.consumer.connection.state) :
    operations.mapM (fun operation => (operation.perform inside).run) site =
      (operations.map fun operation => .error (.state operation.refusal), site) := by
  induction operations with
  | nil => rfl
  | cons operation operations ih =>
    have first : (operation.perform inside).run site =
        (.error (.state operation.refusal), site) :=
      operation.run_of_refused inside (refused operation List.mem_cons_self)
    have rest := ih fun later among => refused later (List.mem_cons_of_mem _ among)
    rw [List.mapM_cons, run_then, first, run_then, rest]
    rfl

/-- Malformed partitions, a missing subscription and a missing commit are not even looked at while
the handle of a consumer is being closed. -/
theorem refused_while_closing :
    let fresh : Site := { consumer := { config := {} }, cluster := {} }
    let closing : Site := { installed fresh with
      consumer := { (installed fresh).consumer with connection := .closing (nextClient fresh) } }
    let nowhere : TopicPartition := { topic := "", partition := -2 }
    let operations : List Operation :=
      [.seek nowhere 0, .assign [nowhere], .storeOffsets [nowhere], .commit none .sync,
        .consumeMany 1 0 true]
    (∀ operation ∈ operations, operation.RefusedIn closing.consumer.connection.state) ∧
      operations.mapM (fun operation => (operation.perform (pure ())).run) closing =
        ([.error .notConnected, .error .notConnected, .error (.state .notSubscribed),
          .error .notConnected, .error .notConnected], closing) := by
  intro fresh closing nowhere operations
  have refused : ∀ operation ∈ operations,
      operation.RefusedIn closing.consumer.connection.state := by
    have closes : closing.consumer.connection.state = .closing := rfl
    simp [operations, closes, Operation.RefusedIn]
  exact ⟨refused, refused_calls (pure ()) closing operations refused⟩

end LogConsumer
