import LogConsumer.Proofs.Consumer.Moments
import LogConsumer.Proofs.Consumer.Operations

/-!
# Connecting

How connecting comes out, state by state of the connection (`connect_connected`, `connect_closing`,
`connect_disconnected`). A failure changes nothing that the consumer stands on, and a success means
an open handle, except where the handle is just being closed: there nothing is installed and the
call succeeds all the same (`connectsSoundly_iff`).
-/
namespace LogConsumer

/-- A connection in the state without a handle is just that. -/
theorem Connection.eq_disconnected {α : Type} {connection : Connection α}
    (vacant : connection.state = .disconnected) : connection = .disconnected := by
  cases connection with
  | disconnected => rfl
  | connected handle | closing handle => contradiction

namespace Consumer

open Does

variable {site : Site} {makes : ClientCall → Prop} {resets : Prop}

/-- No act changes the state of the connection. -/
theorem state_of_act {site' : Site} (act : Act makes resets site site') :
    site'.consumer.connection.state = site.consumer.connection.state := by
  cases act with
  | tidy same => exact congrArg Connection.state (congrArg Core.connection same)
  | reset partitions subscriptionFlag may => rfl
  | told admits may => rfl
  | reached admits may =>
    change (site.consumer.connection.update _).state = _
    cases site.consumer.connection <;> rfl

/-- Resuming earlier partitions on an open handle fails without any consequence. -/
theorem resumePrevious_ok {client : Client}
    (opened : site.consumer.connection = .connected client) :
    (resumePrevious.run site).1 = .ok () := by
  unfold resumePrevious
  rw [run_get]
  dsimp only
  split
  · rw [run_bind_ok (openHandle_run opened)]
    rfl
  · rfl

/-- Greeting an open handle succeeds, and leaves a handle open. -/
theorem greet_ok {client : Client} (opened : site.consumer.connection = .connected client) :
    ((greet client).run site).1 = .ok () ∧
      ((greet client).run site).2.consumer.connection.state = .connected := by
  have open_before : site.consumer.connection.state = .connected := by
    rw [opened]
    rfl
  constructor
  · -- Up to the resumption nothing can fail, and the handle is the same as before.
    let named := ((do
      trace client .name
      update fun consumer =>
        { consumer with events := { consumer.events with clientName := some client.name } }
      note client.serial .onConnected : StateM Site Unit) site).2
    let told := ((takeHookFault .onConnected).run named).2
    have still : told.consumer.connection = .connected client := by
      change ((takeHookFault .onConnected).run named).2.consumer.connection = _
      rw [takeHookFault_run]
      exact opened
    have unfolded : (greet client).run site = (do
        resumePrevious
        publish (.connected client.name) : Action Unit).run told := rfl
    rw [unfolded]
    cases resumed : resumePrevious.run told with
    | mk outcome site' =>
      have fine : outcome = .ok () := by
        rw [← resumePrevious_ok still, resumed]
      subst fine
      rw [run_bind_ok resumed]
      rfl
  · have greeted : Does (fun site site' => site'.consumer.connection.state =
        site.consumer.connection.state) (greet client).run site :=
      Does.greet opened (fun _ _ act => state_of_act act) fun _ _ => rfl
    have same := greeted.whole (fun _ => rfl) fun _ _ _ before after => after.trans before
    exact same.trans open_before

/-- The site after the factory was asked to prepare. -/
def prepared (site : Site) : Site :=
  { site with consumer := { site.consumer with
    boundary := ((site.consumer.boundary.note ⟨none, .prepare⟩).takeFault .prepare).2 } }

/-- The failure that is scripted for the factory's next preparation. -/
def prepareFault (site : Site) : Option ClientError :=
  (site.consumer.boundary.takeFault .prepare).1

/-- Tracing a call uses up no script. -/
theorem takeFault_note (boundary : Boundary) (call : TracedCall) (hook : Hook) :
    ((boundary.note call).takeFault hook).1 = (boundary.takeFault hook).1 := by
  have same : (boundary.note call).script hook = boundary.script hook := rfl
  unfold Boundary.takeFault
  rw [same]
  cases boundary.script hook <;> rfl

/-- Connecting does nothing where a handle is open. -/
theorem connect_connected (opened : site.consumer.connection.state = .connected) :
    connect.run site = (.ok (), site) := by
  have present : site.consumer.connection.isConnected = true := by
    rw [Connection.isConnected, opened]
    rfl
  rw [connect_eq, run_get, present]
  rfl

/-- Where no handle is open, connecting asks the factory to prepare, and goes on to install a handle
only if that succeeds. -/
theorem connect_prepares (absent : site.consumer.connection.state ≠ .connected) :
    connect.run site = match prepareFault site with
      | some error => (.error (.protocol error), prepared site)
      | none => (do
          match ← installHandle with
          | none => pure ()
          | some client => greet client : Action Unit).run (prepared site) := by
  have missing : site.consumer.connection.isConnected = false := by
    simp [Connection.isConnected, absent]
  have hook := takeHookFault_run .prepare
    { site with consumer := { site.consumer with
      boundary := site.consumer.boundary.note ⟨none, .prepare⟩ } }
  rw [takeFault_note] at hook
  have unfolded : connect.run site = (do
      takeHookFault .prepare
      match ← installHandle with
      | none => pure ()
      | some client => greet client : Action Unit).run
      { site with consumer := { site.consumer with
        boundary := site.consumer.boundary.note ⟨none, .prepare⟩ } } := by
    rw [connect_eq, run_get, missing]
    rfl
  rw [unfolded]
  unfold prepareFault
  cases scripted : (site.consumer.boundary.takeFault .prepare).1 with
  | some error =>
    rw [scripted] at hook
    exact run_bind_error hook
  | none =>
    rw [scripted] at hook
    exact run_bind_ok hook

/-- While the handle is being closed, connecting installs nothing, and succeeds unless the factory
fails to prepare. -/
theorem connect_closing (closing : site.consumer.connection.state = .closing) :
    connect.run site =
      ((match prepareFault site with
        | some error => .error (.protocol error)
        | none => .ok ()), prepared site) := by
  have absent : site.consumer.connection.state ≠ .connected := by
    rw [closing]
    decide
  rw [connect_prepares absent]
  cases prepareFault site with
  | some error => rfl
  | none =>
    obtain ⟨_, kept⟩ | ⟨vacant, _⟩ | ⟨vacant, _⟩ := installHandle_cases (prepared site)
    · exact run_bind_ok kept
    all_goals
      have vacant : site.consumer.connection = .disconnected := vacant
      rw [vacant] at closing
      contradiction

/-- Where there is no handle, connecting fails where the factory fails to prepare or to create one;
else it succeeds with an open handle. -/
theorem connect_disconnected (vacant : site.consumer.connection.state = .disconnected) :
    (∃ error, prepareFault site = some error ∧
      connect.run site = (.error (.protocol error), prepared site)) ∨
    (∃ reason, prepareFault site = none ∧ site.cluster.refusal = some reason ∧
      connect.run site = (.error (.state (.connectionRefused reason)), asked (prepared site))) ∨
    (prepareFault site = none ∧ site.cluster.refusal = none ∧ (connect.run site).1 = .ok () ∧
      (connect.run site).2.consumer.connection.state = .connected) := by
  have absent : site.consumer.connection.state ≠ .connected := by
    rw [vacant]
    decide
  rw [connect_prepares absent]
  cases prepareFault site with
  | some error => exact .inl ⟨error, rfl, rfl⟩
  | none =>
    obtain ⟨present, _⟩ | ⟨_, reason, refused, result⟩ | ⟨_, willing, result⟩ :=
      installHandle_cases (prepared site)
    · exact absurd (Connection.eq_disconnected vacant) present
    · exact .inr (.inl ⟨reason, rfl, refused, run_bind_error result⟩)
    · refine .inr (.inr ⟨rfl, willing, ?_⟩)
      dsimp only
      rw [run_bind_ok result]
      exact greet_ok rfl

/-- What connecting promises: a success means that a handle is open, and a failure changes neither
the connection, be it its state or its handle, nor the set of partitions, nor the subscription
flag. -/
structure ConnectsSoundly (site : Site) : Prop where
  /-- A success means that a handle is open. -/
  opened : (connect.run site).1 = .ok () →
    (connect.run site).2.consumer.connection.state = .connected
  /-- A failure changes nothing that the consumer stands on. -/
  kept : ∀ error, (connect.run site).1 = .error error →
    (connect.run site).2.consumer.connection = site.consumer.connection ∧
    (connect.run site).2.consumer.partitions = site.consumer.partitions ∧
    (connect.run site).2.consumer.subscriptionFlag = site.consumer.subscriptionFlag

namespace ConnectsSoundly

/-- A connect that succeeds with an open handle keeps its promise. -/
theorem of_success (done : (connect.run site).1 = .ok ())
    (opened : (connect.run site).2.consumer.connection.state = .connected) :
    ConnectsSoundly site := by
  refine ⟨fun _ => opened, fun error failed => ?_⟩
  rw [done] at failed
  contradiction

/-- A connect that fails and changes nothing that the consumer stands on keeps its promise. -/
theorem of_failure {site' : Site} {error : ConsumerError}
    (failed : connect.run site = (.error error, site'))
    (kept : site'.consumer.connection = site.consumer.connection ∧
      site'.consumer.partitions = site.consumer.partitions ∧
      site'.consumer.subscriptionFlag = site.consumer.subscriptionFlag) :
    ConnectsSoundly site := by
  refine ⟨fun done => ?_, fun _ _ => ?_⟩
  · rw [failed] at done
    contradiction
  · rw [failed]
    exact kept

end ConnectsSoundly

/-- Connecting keeps its promise at every site but those whose handle is being closed and whose
factory prepares without a failure: there it succeeds without a connection. -/
theorem connectsSoundly_iff (site : Site) :
    ConnectsSoundly site ↔
      ¬(site.consumer.connection.state = .closing ∧ prepareFault site = none) := by
  constructor
  · rintro sound ⟨closing, ready⟩
    have result := connect_closing closing
    rw [ready] at result
    have opened := sound.opened (by rw [result])
    rw [result] at opened
    have still : (prepared site).consumer.connection.state = .closing := closing
    rw [still] at opened
    contradiction
  · intro other
    cases state : site.consumer.connection.state with
    | connected =>
      have result := connect_connected state
      apply ConnectsSoundly.of_success
      · rw [result]
      · rw [result]
        exact state
    | closing =>
      have result := connect_closing state
      cases fault : prepareFault site with
      | none => exact absurd ⟨state, fault⟩ other
      | some cause =>
        rw [fault] at result
        exact .of_failure result ⟨rfl, rfl, rfl⟩
    | disconnected =>
      obtain ⟨cause, _, result⟩ | ⟨reason, _, _, result⟩ | ⟨_, _, done, opened⟩ :=
        connect_disconnected state
      · exact .of_failure result ⟨rfl, rfl, rfl⟩
      · exact .of_failure result ⟨rfl, rfl, rfl⟩
      · exact .of_success done opened

end Consumer

/-- A connect that runs from inside the close of a handle answers that it is done, and the handle is
still being closed. -/
theorem connect_inside_close :
    let fresh : Site :=
      { consumer := { config := {}, boundary := { closeScript := [.connect] } }, cluster := {} }
    let final := course fresh [(.operate .connect, .script), (.operate .disconnect, .script)]
    final.consumer.boundary.reports.map (fun report => (report.outcome, report.state)) =
      [(.ok .done, .closing)] := by
  decide

end LogConsumer
