import LogConsumer.Proofs.Client.Placement
import LogConsumer.Proofs.Consumer.Failures
import LogConsumer.Proofs.Consumer.Subscribing

/-!
# The subscription on both sides

The subscription flag is a copy of what the handle knows. While a handle is open the flag is up just
where the handle subscribes to topics, and without a handle it is down (`Site.Agrees`); while a
handle is being closed the flag may be ahead or behind, but nobody asks it then. Every part of every
operation keeps this, so the consumer is subscribed, and names a rebalance protocol, exactly when
its open handle has a subscription (`subscription_agrees`).
-/
namespace LogConsumer

open Consumer Consumer.Does

variable {site site' : Site} {makes : ClientCall → Prop} {resets : Prop} {α : Type}

/-- The flag is up just where an open handle subscribes to topics, and down without a handle. -/
structure Site.Agrees (site : Site) : Prop where
  /-- Without a handle the flag is down. -/
  vacant : site.consumer.connection = .disconnected → site.consumer.subscriptionFlag = false
  /-- The flag tells whether the open handle subscribes to topics. -/
  opened : ∀ client, site.consumer.connection = .connected client →
    site.consumer.subscriptionFlag = !client.subscription.isEmpty

/-- The agreement is kept. -/
def Agreeing (site site' : Site) : Prop :=
  site.Agrees → site'.Agrees

namespace Site.Agrees

/-- Nothing but the connection and the flag matters. -/
theorem congr (agrees : site.Agrees)
    (connection : site'.consumer.connection = site.consumer.connection)
    (flag : site'.consumer.subscriptionFlag = site.consumer.subscriptionFlag) : site'.Agrees := by
  refine ⟨fun vacant => ?_, fun client opened => ?_⟩
  · rw [flag]
    exact agrees.vacant (connection.symm.trans vacant)
  · rw [flag]
    exact agrees.opened client (connection.symm.trans opened)

/-- While a handle is being closed there is nothing to agree on. -/
theorem of_closing (client : Client) (closing : site.consumer.connection = .closing client) :
    site.Agrees := by
  constructor <;> simp [closing]

/-- An open handle agrees with the flag. -/
theorem of_connected (client : Client) (opened : site.consumer.connection = .connected client)
    (flag : site.consumer.subscriptionFlag = !client.subscription.isEmpty) : site.Agrees := by
  constructor <;> simp [opened, flag]

/-- A handle that keeps its subscription goes on agreeing. -/
theorem linked {link : Link} (agrees : site.Agrees)
    (same : ∀ client, site.consumer.connection = .connected client →
      link.client.subscription = client.subscription) : (site.linked link).Agrees := by
  cases state : site.consumer.connection with
  | disconnected =>
    refine agrees.congr ?_ rfl
    change site.consumer.connection.update _ = _
    rw [state]
    rfl
  | connected client =>
    have opened : (site.linked link).consumer.connection = .connected link.client := by
      change site.consumer.connection.update _ = _
      rw [state]
      rfl
    refine of_connected link.client opened ?_
    rw [same client state]
    exact agrees.opened client state
  | closing client =>
    refine of_closing link.client ?_
    change site.consumer.connection.update _ = _
    rw [state]
    rfl

end Site.Agrees

/-- An act that leaves the subscription of the handle and the flag alone keeps the agreement. -/
theorem agreeing_of_act (spares : ∀ request, makes request → request.SparesSubscription)
    (calm : ¬resets) (act : Act makes resets site site') : Agreeing site site' := by
  intro agrees
  cases act with
  | tidy same =>
    exact agrees.congr (congrArg Core.connection same) (congrArg Core.subscriptionFlag same)
  | reset partitions subscriptionFlag may => exact absurd may calm
  | told admits may => exact agrees.congr rfl rfl
  | @reached client request admits may =>
    refine agrees.linked fun present opened => ?_
    obtain state | ⟨state, _⟩ := admits
    · cases state.symm.trans opened
      exact ClientCall.keeps_subscription (spares request may) ⟨client, site.cluster⟩
    · cases state.symm.trans opened

/-- A sequence of such acts keeps the agreement. -/
theorem agreeing_of_acts {action : StateM Site α} (acts : Acts makes False action site)
    (spares : ∀ request, makes request → request.SparesSubscription) :
    Does Agreeing action site :=
  acts.mono fun _ _ => agreeing_of_act spares id

/-- Keeping books keeps the agreement. -/
theorem agreeing_of_books {action : StateM Site α}
    (books : Acts (fun _ => False) False action site) : Does Agreeing action site :=
  agreeing_of_acts books nofun

/-- An action none of whose parts disturbs the agreement keeps it. -/
theorem agreeing_of_does {action : StateM Site α} (does : Does Agreeing action site) :
    Agreeing site (action site).2 :=
  does.whole (fun _ => id) fun _ _ _ before after => after ∘ before

/-- Of the operations only subscribing, dropping the subscription and disconnecting call for another
subscription. -/
theorem Operation.sparesSubscription_of_makes {operation : Operation} {request : ClientCall}
    (apart : operation.SparesSession ∨ operation = .connect) (made : operation.Makes request) :
    request.SparesSubscription := by
  cases operation with
  | disconnect | subscribe | unsubscribe => obtain ⟨⟨⟩⟩ | same := apart; cases same
  | connect =>
    obtain rfl | ⟨_, rfl⟩ := made <;> trivial
  | consume | consumeMany | seek | committed | storeOffset | offsetsForTimes | queryWatermarks =>
    obtain ⟨_, rfl⟩ := made
    trivial
  | hasAssigned | name | isClosing | isConnected | activate | deactivate | metrics =>
    exact made.elim
  | _ =>
    cases made
    trivial

/-- Subscribing keeps the agreement: the flag is raised just where the client has subscribed. -/
theorem subscribe_agreeing (topics : List String) (site : Site) :
    Agreeing site ((Consumer.subscribe topics).run site).2 := by
  intro agrees
  obtain ⟨error, refused⟩ | ⟨client, opened, goes⟩ := subscribe_cases topics site
  · rw [refused]
    exact agrees
  · have called := call_run client (.subscribe topics) (Client.subscribe topics) site
    rw [goes]
    obtain ⟨error, rejected⟩ | ⟨⟨some, _⟩, accepted⟩ :=
      Client.subscribe_cases topics ⟨client, site.cluster⟩
    · rw [rejected] at called
      rw [run_bind_error called]
      refine Site.Agrees.linked (agrees.congr rfl rfl) fun present state => ?_
      cases opened.symm.trans state
      rfl
    · rw [accepted] at called
      rw [run_bind_ok called]
      refine .of_connected { client with subscription := topics, assignment := [] } ?_ ?_
      · change site.consumer.connection.update _ = _
        rw [opened]
        rfl
      · have topical : topics.isEmpty = false := by simpa using some
        rw [topical]
        rfl

/-- Dropping the subscription keeps the agreement: the flag is cleared just where the client has
dropped it. -/
theorem unsubscribe_agreeing (site : Site) : Does Agreeing Consumer.unsubscribe.run site := by
  refine get (either (openHandle fun client state => ?_) (pure _))
  refine lift (.single fun agrees => agrees.congr rfl rfl) ?_
  refine bind (agreeing_of_books (takeHookFault .unsubscribe)) fun _ site' passed => ?_
  have still : site'.consumer.connection = .connected client := by
    rw [takeHookFault_run] at passed
    rw [← (Prod.mk.inj passed).2]
    exact state
  -- The client drops its subscription before the flag is cleared, so the two go as one step.
  refine .single fun _ =>
    .of_connected { client with subscription := [], assignment := [] } ?_ rfl
  change site'.consumer.connection.update _ = _
  rw [still]
  rfl

/-- Connecting keeps the agreement: a new handle subscribes to nothing, and the flag is down as long
as there is no handle. -/
theorem connect_agreeing (site : Site) : Does Agreeing Consumer.connect.run site := by
  rw [connect_eq]
  have noted (handle : Option Nat) (call : Call) (site : Site) :
      Agreeing site (note handle call site).2 :=
    fun agrees => agrees.congr rfl rfl
  refine get (either (lift (.single (noted _ _ _)) ?_) (pure _))
  refine bind (agreeing_of_books (takeHookFault .prepare)) fun _ prepared _ => ?_
  have installs : Does Agreeing installHandle.run prepared := by
    obtain ⟨_, result⟩ | ⟨_, _, _, result⟩ | ⟨vacant, _, result⟩ := installHandle_cases prepared
    · refine idle ?_
      rw [result]
    · refine .single ?_
      rw [result]
      exact fun agrees => agrees.congr rfl rfl
    · refine .single ?_
      rw [result]
      exact fun agrees => .of_connected _ rfl (agrees.vacant vacant)
  refine bind installs fun installed site' result => ?_
  cases installed with
  | none => exact pure _
  | some client =>
    refine Does.greet (connection_of_installHandle result)
      (fun _ _ => agreeing_of_act (fun _ => ?_) id) fun site _ => noted _ _ site
    exact Operation.sparesSubscription_of_makes (.inr rfl)

/-- Disconnecting keeps the agreement, whatever runs from inside the close: the handle is let go and
the flag is cleared at once. -/
theorem disconnect_agreeing (inside : StateM Site Unit) (site : Site) :
    Does Agreeing (Consumer.disconnect inside).run site := by
  rw [disconnect_eq]
  refine get (bind (agreeing_of_books (stopLoop _ _ _)) fun _ stopped _ => ?_)
  obtain ⟨_, unchanged⟩ | ⟨client, _, shut⟩ := shutDown_cases inside stopped
  · exact idle (congrArg Prod.snd unchanged)
  · refine .single fun _ => ?_
    let view (site : Site) := (site.consumer.connection, site.consumer.subscriptionFlag)
    have blind (site : Site) (consumer : Consumer) (same : consumer.core = site.consumer.core) :
        view { site with consumer } = view site :=
      congrArg (fun core : Core => (core.connection, core.subscriptionFlag)) same
    have gone : view ((letGo client).run (inside (stopped.shutting client)).2).2 = _ :=
      view_of_letGo blind client (inside (stopped.shutting client)).2
    rw [shut]
    obtain ⟨vacant, unflagged⟩ := Prod.mk.inj gone
    exact ⟨fun _ => unflagged, fun _ opened => nomatch vacant.symm.trans opened⟩

/-- Every operation keeps the agreement. -/
theorem operate_agreeing (operation : Operation) (inside : StateM Site Unit) (site : Site) :
    Does Agreeing (operation.perform inside).run site := by
  by_cases apart : operation.SparesSession
  · exact performApart inside apart
      (fun _ _ => agreeing_of_act (fun _ => Operation.sparesSubscription_of_makes (.inl apart)) id)
      (fun _ _ agrees => agrees.congr rfl rfl) site
  · cases operation with
    | connect => exact answer (connect_agreeing site)
    | disconnect => exact answer (disconnect_agreeing inside site)
    | subscribe topics => exact answer (.single (subscribe_agreeing topics site))
    | unsubscribe => exact answer (unsubscribe_agreeing site)
    | _ => exact absurd trivial apart

/-- Whatever happens at a consumer keeps the agreement. -/
theorem moment_agreeing (moment : Moment) (inside : StateM Site Unit) (site : Site) :
    Does Agreeing (moment.perform inside) site := by
  cases moment with
  | operate operation => exact andThen (operate_agreeing operation inside site) (idle rfl)
  | startLoop timeout sleepDelay =>
    exact andThen (agreeing_of_books (consumeLoop timeout sleepDelay site)) (idle rfl)
  | advanceLoop workerFree =>
    have acts : Acts (fun request => ∃ timeout, request = .poll timeout) False
        (Consumer.advanceLoop workerFree) site :=
      advanceLoop workerFree (fun timeout => ⟨timeout, rfl⟩) site
    exact agreeing_of_acts acts fun _ ⟨_, same⟩ => by rw [same]; trivial
  | stopLoop wait reportsPanic =>
    exact andThen (agreeing_of_books (stopLoop wait reportsPanic site)) (idle rfl)
  | surroundings boundary others created => exact .single fun agrees => agrees.congr rfl rfl

/-- Whatever runs from inside a close keeps the agreement. -/
theorem inside_agreeing (inside : Inside) (site : Site) : Does Agreeing inside.perform site := by
  cases inside with
  | script =>
    refine read (forM (fun operation site => ?_) _ _)
    exact andThen (operate_agreeing operation _ site)
      (.single fun agrees => agrees.congr rfl rfl)
  | course moments => exact forM (fun moment => moment_agreeing moment _) moments site

/-- A course keeps the agreement. -/
theorem course_agreeing (occurrences : List Occurrence) (site : Site) :
    Agreeing site (course site occurrences) := by
  induction occurrences generalizing site with
  | nil => exact id
  | cons occurrence later ih =>
    exact ih _ ∘ agreeing_of_does (moment_agreeing occurrence.1 occurrence.2.perform site)

/-- The protocol that a handle names is one just where the handle subscribes to topics. -/
theorem ofName_rebalanceProtocolName (client : Client) :
    RebalanceProtocol.ofName client.rebalanceProtocolName ≠ .none ↔ client.subscription ≠ [] := by
  unfold Client.rebalanceProtocolName
  by_cases untopical : client.subscription = []
  · simp only [untopical, List.isEmpty_nil, if_true, ne_eq, not_true_eq_false, iff_false, not_not]
    decide
  · rw [if_neg (by simpa using untopical)]
    refine iff_of_true ?_ untopical
    split <;> decide

/-- The protocol of an open handle is named by the boundary, or else by the handle; without an open
handle there is none. -/
theorem rebalanceProtocol_eq (site : Site) :
    (Consumer.rebalanceProtocol site).1 = match site.consumer.connection.connected? with
      | none => .none
      | some client => .ofName
        (site.consumer.boundary.protocol.getD client.rebalanceProtocolName) := by
  unfold Consumer.rebalanceProtocol
  rw [run_read]
  cases site.consumer.connection.connected? <;> rfl

/-- What the consumer says of its subscription: it is subscribed just where its open handle
subscribes to topics, and just then it names a rebalance protocol, unless the boundary names one in
place of the handle. -/
structure Site.TellsSubscription (site : Site) : Prop where
  /-- The consumer is subscribed just where its open handle is. -/
  subscribed : site.consumer.isSubscribed = true ↔
    ∃ client, site.consumer.connection = .connected client ∧ client.subscription ≠ []
  /-- There is a rebalance protocol just where the consumer is subscribed. -/
  protocol : site.consumer.boundary.protocol = none →
    ((Consumer.rebalanceProtocol site).1 ≠ .none ↔ site.consumer.isSubscribed = true)

/-- Where flag and handle agree, the consumer says what the handle knows. -/
theorem Site.Agrees.tells (agrees : site.Agrees) : site.TellsSubscription := by
  have subscribed : site.consumer.isSubscribed = true ↔
      ∃ client, site.consumer.connection = .connected client ∧ client.subscription ≠ [] := by
    unfold isSubscribed Connection.isConnected
    cases state : site.consumer.connection with
    | disconnected | closing => simp [Connection.state]
    | connected client => simp [Connection.state, agrees.opened client state]
  refine ⟨subscribed, fun own => ?_⟩
  rw [subscribed, rebalanceProtocol_eq, own]
  cases state : site.consumer.connection with
  | disconnected | closing => simp [Connection.connected?]
  | connected client =>
    change RebalanceProtocol.ofName client.rebalanceProtocolName ≠ .none ↔ _
    rw [ofName_rebalanceProtocolName]
    simp

/-- A connect never leaves a consumer subscribed that had no handle. -/
theorem Site.Agrees.connect_unsubscribed (agrees : site.Agrees)
    (vacant : site.consumer.connection = .disconnected) :
    (connect.run site).2.consumer.isSubscribed = false := by
  have flag := unraised_of_does (connect_unraised site) (agrees.vacant vacant)
  simp [isSubscribed, flag]

/-- A subscribe or an unsubscribe that fails moves neither the flag nor anything of the handle. -/
theorem sides_of_failure {operation : Operation}
    (asks : operation = .unsubscribe ∨ ∃ topics, operation = .subscribe topics)
    {inside : StateM Site Unit} {error : ConsumerError}
    (failed : (operation.perform inside).run site = (.error error, site')) :
    site'.consumer.subscriptionFlag = site.consumer.subscriptionFlag ∧
      site'.consumer.connection = site.consumer.connection := by
  have atOnce : operation.IsAtomic := by
    obtain rfl | ⟨topics, rfl⟩ := asks <;> trivial
  have standing := (Atomic.perform atOnce inside site).unmoved failed
  exact ⟨congrArg Site.Standing.subscriptionFlag standing,
    congrArg Site.Standing.connection standing⟩

/-- After whatever course of a consumer that was just built, whatever its boundary and the cluster
script, the consumer says of its subscription what its handle knows; a new handle is not subscribed
to begin with; a subscribe or an unsubscribe that fails moves neither side; and what is said while a
handle is being closed is right as well, whatever runs then. -/
theorem subscription_agrees {setup : Setup} {consumer : Consumer}
    (built : setup.build = .ok consumer) (boundary : Boundary) (cluster : Cluster)
    (occurrences : List Occurrence) :
    let final := course { consumer := { consumer with boundary }, cluster } occurrences
    final.TellsSubscription ∧
    (final.consumer.connection = .disconnected →
      (connect.run final).2.consumer.isSubscribed = false) ∧
    (∀ (operation : Operation) (inside : Inside) (error : ConsumerError) (site' : Site),
      (operation = .unsubscribe ∨ ∃ topics, operation = .subscribe topics) →
      (operation.perform inside.perform).run final = (.error error, site') →
      site'.consumer.subscriptionFlag = final.consumer.subscriptionFlag ∧
        site'.consumer.connection = final.consumer.connection) ∧
    ∀ (closing : Site) (client : Client) (inside : Inside),
      closing.consumer.connection = .closing client →
      (inside.perform closing).2.TellsSubscription := by
  intro final
  obtain ⟨config, factory, rfl⟩ := Setup.eq_of_build built
  have agrees : final.Agrees := course_agreeing occurrences _ ⟨fun _ => rfl, nofun⟩
  refine ⟨agrees.tells, agrees.connect_unsubscribed, ?_, ?_⟩
  · exact fun _ _ _ _ asks failed => sides_of_failure asks failed
  · intro closing client inside state
    exact (agreeing_of_does (inside_agreeing inside closing) (.of_closing client state)).tells

/-- A second handle does not take the subscription of the first one over, and a subscribe that the
cluster fails does not subscribe it. -/
theorem second_session_unsubscribed :
    let consumer : Consumer := { config := {} }
    let cluster : Cluster := Cluster.extendScript {} .subscribe [none, some (.ofCode .transport)]
    let session : List Occurrence :=
      [.connect, .subscribe ["log"], .disconnect, .connect, .subscribe ["log"]].map
        fun operation => (.operate operation, .script)
    let final := course { consumer := { consumer with boundary := {} }, cluster } session
    ({ factory := some {} } : Setup).build = .ok consumer ∧
      final.consumer.connection.isConnected = true ∧ final.consumer.isSubscribed = false ∧
      ¬∃ client, final.consumer.connection = .connected client ∧ client.subscription ≠ [] := by
  intro consumer cluster session final
  have built : ({ factory := some {} } : Setup).build = .ok consumer := rfl
  have opened : final.consumer.connection.isConnected = true := by decide +kernel
  have unsubscribed : final.consumer.isSubscribed = false := by decide +kernel
  have tells : final.TellsSubscription := (subscription_agrees built {} cluster session).1
  have unasked := tells.subscribed.not.mp (by rw [unsubscribed]; decide)
  exact ⟨built, opened, unsubscribed, unasked⟩

end LogConsumer
