import LogConsumer.Proofs.Consumer.Aside
import LogConsumer.Proofs.Consumer.Deeds

/-!
# Telling what is new

Every operation of a consumer whose dispatcher is active, but a disconnect, is a deed that the
listeners are told of as it is (`operation_told`). A failure shows nothing, since an operation fails
before it changes what the consumer believes; a success is told in the same breath as the change.
-/
namespace LogConsumer

open Consumer Consumer.Does

variable {site between site' : Site} {makes : ClientCall → Prop} {resets : Prop} {α : Type}

/-- Everything that events are about apart from the handle, with the events themselves. -/
def Site.beliefs (site : Site) : EventDispatcher × (Bool × Bool) × PartitionSet :=
  (site.consumer.audience, (site.consumer.subscriptionFlag, site.consumer.isLoopRunning),
    site.consumer.partitions)

/-- What is believed has nothing to do with the handle. -/
theorem aloof_beliefs : Site.Aloof Site.beliefs :=
  ⟨fun _ _ _ _ => rfl, fun _ _ => rfl⟩

/-- The name of the handle, be it open or being closed. -/
def Site.handleName (site : Site) : Option String :=
  site.consumer.connection.handle?.map Client.name

/-- The same is believed where each part of it is the same. -/
theorem parts_of_beliefs (same : site'.beliefs = site.beliefs) :
    site'.consumer.audience = site.consumer.audience ∧
      site'.consumer.subscriptionFlag = site.consumer.subscriptionFlag ∧
      site'.consumer.isLoopRunning = site.consumer.isLoopRunning ∧
      site'.consumer.partitions = site.consumer.partitions := by
  obtain ⟨audience, others⟩ := Prod.mk.inj same
  obtain ⟨flags, partitions⟩ := Prod.mk.inj others
  obtain ⟨flag, looping⟩ := Prod.mk.inj flags
  exact ⟨audience, flag, looping, partitions⟩

/-- What is believed and the name of the handle are everything that events are about. -/
theorem shown_of_beliefs (beliefs : site'.beliefs = site.beliefs)
    (name : site'.handleName = site.handleName) :
    site'.consumer.shown = site.consumer.shown := by
  obtain ⟨audience, flag, looping, partitions⟩ := parts_of_beliefs beliefs
  exact Prod.ext audience (Prod.ext (Picture.ext name flag looping) partitions)

/-- No act changes the name of the handle. -/
theorem handleName_of_act (act : Act makes resets site site') :
    site'.handleName = site.handleName := by
  cases act with
  | tidy same =>
    exact congrArg (fun core : Core => core.connection.handle?.map Client.name) same
  | reset partitions subscriptionFlag may => rfl
  | told admits may => rfl
  | @reached client request admits may =>
    have name : (request.perform ⟨client, site.cluster⟩).2.client.name = client.name :=
      congrArg Link.Fixture.name (ClientCall.perform_keeps_fixture request ⟨client, site.cluster⟩)
    change (site.consumer.connection.update _).handle?.map Client.name = _
    unfold Site.handleName
    obtain state | ⟨state, _⟩ := admits
    · rw [state]
      exact congrArg some name
    · rw [state]
      exact congrArg some name

/-- What does not change the name step by step does not change it as a whole. -/
theorem handleName_of_does {action : StateM Site α}
    (does : Does (fun site site' => site'.handleName = site.handleName) action site) :
    (action site).2.handleName = site.handleName :=
  does.whole (fun _ => rfl) fun _ _ _ earlier later => later.trans earlier

/-- A sequence of acts does not change the name of the handle. -/
theorem handleName_of_acts {action : StateM Site α} (acts : Acts makes resets action site) :
    (action site).2.handleName = site.handleName :=
  handleName_of_does (acts.mono fun _ _ => handleName_of_act)

/-- Every operation but connecting and disconnecting goes on with the same handle. -/
theorem handleName_of_perform {operation : Operation} (inside : StateM Site Unit)
    (opens : operation ≠ .connect) (closes : operation ≠ .disconnect) (site : Site) :
    ((operation.perform inside).run site).2.handleName = site.handleName :=
  handleName_of_acts (Does.perform inside opens closes site)

/-- What is told is passed on by whoever knows the handle by whichever name. -/
theorem audience_publish (consumer : Consumer) (event : Event) :
    ({ consumer with events := consumer.events.publish event } : Consumer).audience =
      consumer.audience.publish event := by
  unfold audience EventDispatcher.publish
  have same : EventDispatcher.hasListener { consumer.events with clientName := none } =
    consumer.events.hasListener := rfl
  dsimp only
  rw [same]
  split <;> rfl

/-- An operation as a deed. -/
theorem deed_operate {operation : Operation} {inside : StateM Site Unit}
    {outcome : Except ConsumerError Reply}
    (ran : (operation.perform inside).run site = (outcome, site')) :
    (Moment.operate operation).deed inside site =
      { moment := .operate operation, before := site.consumer, failure := failureOf outcome
        after := site'.consumer } := by
  have failure : (Moment.operate operation).failure inside site = failureOf outcome :=
    congrArg (fun ran : Except ConsumerError Reply × Site => failureOf ran.1) ran
  have after : ((Moment.operate operation).perform inside site).2 = site' := congrArg Prod.snd ran
  rw [Moment.deed, failure, after]

/-- A quiet operation has nothing to tell. -/
theorem quiet_told {operation : Operation} (quiet : operation.IsQuiet) (inside : StateM Site Unit)
    (ready : site.consumer.Ready) :
    Told site.consumer [(Moment.operate operation).deed inside site]
      ((Moment.operate operation).perform inside site).2.consumer := by
  have apart : operation ≠ .connect ∧ operation ≠ .disconnect := by
    constructor <;> rintro rfl <;> exact quiet
  have kept : Keeps Site.beliefs (operation.perform inside).run := by
    by_cases counted : operation.IsCounted
    · exact keeps_counted aloof_beliefs (fun _ _ => rfl) inside counted
    · exact keeps_quiet aloof_beliefs inside quiet counted
  have same : ((operation.perform inside).run site).2.consumer.shown = site.consumer.shown :=
    shown_of_beliefs (kept site) (handleName_of_perform inside apart.1 apart.2 site)
  refine Told.silent ((Moment.operate operation).deed inside site) ready same fun _ => ?_
  cases operation with
  | connect | disconnect | subscribe | unsubscribe | assign | unassign | incrementalAssign
  | incrementalUnassign | refreshAssignments | assignments | activate | deactivate =>
    exact quiet.elim
  | _ => exact ⟨rfl, trivial⟩

/-- What an operation that was accepted changes is told. -/
theorem settled_told {operation : Operation} (settling : operation.IsSettling)
    {inside : StateM Site Unit} (ready : site.consumer.Ready)
    (subscribed : operation = .unsubscribe → site.consumer.isSubscribed = true)
    (beliefs : between.beliefs = site.beliefs)
    (done : (operation.perform inside).run site =
      (.ok .done, { between with consumer := operation.settle between.consumer })) :
    Told site.consumer [(Moment.operate operation).deed inside site]
      ((Moment.operate operation).perform inside site).2.consumer := by
  have apart : operation ≠ .connect ∧ operation ≠ .disconnect := by
    constructor <;> rintro rfl <;> exact settling
  have name := handleName_of_perform inside apart.1 apart.2 site
  have after : ((Moment.operate operation).perform inside site).2.consumer =
      operation.settle between.consumer := congrArg (fun ran => ran.2.consumer) done
  rw [deed_operate done, after]
  rw [done] at name
  obtain ⟨audience, flag, looping, partitions⟩ := parts_of_beliefs beliefs
  have numbered : between.consumer.partitions.Numbered := by
    rw [partitions]
    exact ready.numbered
  have tells (event : Event) (consumer : Consumer)
      (told : consumer.audience = between.consumer.audience.publish event) :
      consumer.audience = site.consumer.audience.publish event := by
    rw [← audience]
    exact told
  let deed : Deed := { moment := .operate operation, before := site.consumer, failure := none
                       after := operation.settle between.consumer }
  change Told deed.before [deed] deed.after
  have news : deed.news = deed.change := Deed.news_of_success rfl name
  cases operation with
  | subscribe topics =>
    refine .spoken ready news (tells _ _ (audience_publish _ _)) ?_ ?_ trivial ?_ numbered
    · exact Picture.ext name.symm rfl looping.symm
    · exact fun _ => congrArg PartitionSet.count partitions.symm
    · exact .of_success rfl trivial
  | unsubscribe =>
    have dropped : deed.change = [.unsubscribed] := if_pos (subscribed rfl)
    refine .spoken ready (news.trans dropped) (tells _ _ (audience_publish _ _)) ?_ ?_ trivial ?_
      numbered
    · exact Picture.ext name.symm rfl looping.symm
    · exact fun _ => congrArg PartitionSet.count partitions.symm
    · exact .of_success rfl trivial
  | assign partitions =>
    refine .spoken ready news (tells _ _ (audience_publish _ _)) ?_ (fun _ => rfl) trivial ?_ rfl
    · exact Picture.ext name.symm flag.symm looping.symm
    · exact .of_success rfl ⟨news, rfl⟩
  | unassign =>
    refine .spoken ready news (tells _ _ (audience_publish _ _)) ?_ (fun _ => rfl) trivial ?_ rfl
    · exact Picture.ext name.symm flag.symm looping.symm
    · exact .of_success rfl ⟨news, rfl⟩
  | incrementalAssign added =>
    have count : deed.after.partitions.count =
        site.consumer.partitions.count + added.length := by
      rw [← partitions]
      rfl
    have right : deed.change =
        [.incrementalAssigned added.length deed.after.partitions.count] := by
      change [Event.incrementalAssigned (deed.after.partitions.count -
        site.consumer.partitions.count) _] = _
      rw [count, Nat.add_sub_cancel_left]
    refine .spoken ready (news.trans right) (tells _ _ (audience_publish _ _)) ?_ (fun _ => rfl)
      trivial ?_ (numbered.extend added)
    · exact Picture.ext name.symm flag.symm looping.symm
    · exact .of_success rfl ⟨news.trans right, count⟩
  | incrementalUnassign named =>
    let removed := named.length - (between.consumer.partitions.removeMatching named).2.length
    have count : deed.after.partitions.count = site.consumer.partitions.count - removed ∧
        removed ≤ site.consumer.partitions.count := by
      rw [← partitions]
      exact numbered.count_removeMatching named
    have right : deed.change =
        [.incrementalUnassigned removed deed.after.partitions.count] := by
      change [Event.incrementalUnassigned (site.consumer.partitions.count -
        deed.after.partitions.count) _] = _
      rw [count.1, Nat.sub_sub_self count.2]
    refine .spoken ready (news.trans right) (tells _ _ (audience_publish _ _)) ?_ (fun _ => rfl)
      trivial ?_ (numbered.removeMatching named).1
    · exact Picture.ext name.symm flag.symm looping.symm
    · exact .of_success rfl ⟨removed, news.trans right, count⟩
  | _ => exact settling.elim

/-- An operation that changes what the consumer believes is told, or it fails and nothing shows. -/
theorem settling_told {operation : Operation} (settling : operation.IsSettling)
    (inside : StateM Site Unit) (ready : site.consumer.Ready) :
    Told site.consumer [(Moment.operate operation).deed inside site]
      ((Moment.operate operation).perform inside site).2.consumer := by
  by_cases idle : operation = .unsubscribe ∧ site.consumer.isSubscribed = false
  · obtain ⟨rfl, absent⟩ := idle
    have still : (Operation.unsubscribe.perform inside).run site = (.ok .done, site) :=
      run_bind_ok (unsubscribe_unsubscribed absent)
    have same : ((Moment.operate .unsubscribe).perform inside site).2 = site :=
      congrArg Prod.snd still
    rw [deed_operate still, same]
    refine Told.silent ⟨_, site.consumer, _, site.consumer⟩ ready rfl fun _ => ⟨?_, trivial⟩
    exact if_neg (by simp [absent])
  · have subscribed (same : operation = .unsubscribe) : site.consumer.isSubscribed = true :=
      Bool.of_not_eq_false fun absent => idle ⟨same, absent⟩
    have apart : operation ≠ .connect ∧ operation ≠ .disconnect := by
      constructor <;> rintro rfl <;> exact settling
    obtain ⟨error, failed, refused, kept⟩ | ⟨between, kept, done⟩ :=
      perform_settles aloof_beliefs settling inside site subscribed
    · have name := handleName_of_perform inside apart.1 apart.2 site
      have same : ((Moment.operate operation).perform inside site).2 = failed :=
        congrArg Prod.snd refused
      rw [refused] at name
      rw [deed_operate refused, same]
      exact Told.silent ⟨_, site.consumer, some error, failed.consumer⟩ ready
        (shown_of_beliefs kept name) nofun
    · exact settled_told settling ready subscribed kept done

/-- Taking over the client's assignment counts what is taken over. -/
theorem refreshing_numbered {operation : Operation}
    (refreshing : operation = .refreshAssignments ∨ operation = .assignments)
    (inside : StateM Site Unit) (numbered : site.consumer.partitions.Numbered) :
    ((operation.perform inside).run site).2.consumer.partitions.Numbered := by
  have apart : operation ≠ .connect ∧ operation ≠ .disconnect := by
    obtain rfl | rfl := refreshing <;> exact ⟨nofun, nofun⟩
  have does : Does (fun site site' => site.consumer.partitions.Numbered →
      site'.consumer.partitions.Numbered) (operation.perform inside).run site := by
    refine performInParts inside apart.1 apart.2 (fun site site' act numbered => ?_)
      (fun site partitions sets numbered => ?_) (fun _ _ _ => id) site
    · cases act with
      | tidy same =>
        exact (congrArg (fun core : Core => core.partitions.Numbered) same).mpr numbered
      | reset partitions subscriptionFlag may => exact may.elim
      | told admits may => exact numbered
      | reached admits may => exact numbered
    · obtain rfl | rfl := refreshing <;>
      · obtain ⟨_, _, rfl⟩ := sets
        rfl
  exact does.carries numbered

/-- Taking over the client's assignment is not told; afterwards the partitions are counted. -/
theorem refreshing_told {operation : Operation}
    (refreshing : operation = .refreshAssignments ∨ operation = .assignments)
    (inside : StateM Site Unit) (ready : site.consumer.Ready) :
    Told site.consumer [(Moment.operate operation).deed inside site]
      ((Moment.operate operation).perform inside site).2.consumer := by
  let view (site : Site) := (site.consumer.audience, site.consumer.subscriptionFlag,
    site.consumer.isLoopRunning)
  have aloof : Site.Aloof view := ⟨fun _ _ _ _ => rfl, fun _ _ => rfl⟩
  have refreshes : Keeps view refreshAssignments.run :=
    keeps_refreshAssignments aloof fun _ _ => rfl
  have kept : Keeps view (operation.perform inside).run := by
    obtain rfl | rfl := refreshing
    · exact .andThen refreshes fun _ => .pure _
    · exact .andThen (.andThen refreshes fun _ => .afterReading fun _ => .pure _) fun _ => .pure _
  have apart : operation ≠ .connect ∧ operation ≠ .disconnect := by
    obtain rfl | rfl := refreshing <;> exact ⟨nofun, nofun⟩
  have name := handleName_of_perform inside apart.1 apart.2 site
  have numbered := refreshing_numbered refreshing inside ready.numbered
  obtain ⟨audience, flags⟩ := Prod.mk.inj (kept site)
  obtain ⟨flag, looping⟩ := Prod.mk.inj flags
  let deed := (Moment.operate operation).deed inside site
  have turn : deed.turn = [] := Deed.turn_eq_nil name
  have calm : deed.change = [] ∧ deed.Accounted ∧ deed.moment.refreshes = true := by
    obtain rfl | rfl := refreshing <;> exact ⟨rfl, trivial, rfl⟩
  have news : deed.news = [] := by
    rw [Deed.news, turn, calm.1, ite_self]
    rfl
  refine Told.of_isTold ⟨⟨fun _ _ => .inl news, fun _ => calm.2.1⟩, ?_, ?_, ?_, ?_⟩ ready numbered
  · rw [news]
    exact audience
  · rw [news]
    exact Picture.ext name.symm flag.symm looping.symm
  · intro kept
    cases calm.2.2.symm.trans kept
  · rw [news]
    trivial

/-- A handle that was installed where there was none is told of by its name, once it is greeted. -/
theorem greeted_told (vacant : site.consumer.connection = .disconnected)
    (ready : site.consumer.Ready) (done : Consumer.connect.run site = (.ok (), site')) :
    Told site.consumer [⟨.operate .connect, site.consumer, none, site'.consumer⟩]
      site'.consumer := by
  obtain ⟨client, begun, opened, begins, greeted⟩ := connect_greets aloof_beliefs vacant done
  obtain ⟨between, beliefs, rfl⟩ := greet_ends aloof_beliefs greeted
  obtain ⟨audience, flag, looping, partitions⟩ := parts_of_beliefs (beliefs.trans begins)
  have same : ((greet client).run begun).2.handleName = begun.handleName :=
    handleName_of_does (Does.greet opened (fun _ _ => handleName_of_act) fun _ _ => rfl)
  have named : begun.handleName = some client.name := by
    rw [Site.handleName, opened]
    rfl
  have name : between.handleName = some client.name := by
    rw [greeted] at same
    exact same.trans named
  have absent : site.consumer.picture.handle = none := by
    rw [picture, vacant]
    rfl
  let after : Consumer := { between.consumer with
    events := between.consumer.events.publish (.connected client.name) }
  let deed : Deed := ⟨.operate .connect, site.consumer, none, after⟩
  change Told deed.before [deed] deed.after
  have news : deed.news = [.connected client.name] := by
    obtain ⟨present, there, called⟩ := Option.map_eq_some_iff.mp name
    have came : deed.turn = [.connected present.name] := by
      unfold Deed.turn
      rw [show deed.before.connection.handle? = none from congrArg Connection.handle? vacant,
        show deed.after.connection.handle? = some present from there]
    rw [Deed.news, came, called]
    rfl
  refine .spoken ready news ?_ ?_ ?_ ?_ (.of_success rfl trivial) ?_
  · exact (audience_publish _ _).trans (congrArg (EventDispatcher.publish · _) audience)
  · exact Picture.ext name.symm flag.symm looping.symm
  · exact fun _ => congrArg PartitionSet.count partitions.symm
  · exact ⟨congrArg Option.isSome absent, trivial⟩
  · change between.consumer.partitions.Numbered
    rw [partitions]
    exact ready.numbered

/-- Connecting is told once a handle was installed and saluted, by the name of that handle; else
nothing shows. -/
theorem connect_told (inside : StateM Site Unit) (ready : site.consumer.Ready) :
    Told site.consumer [(Moment.operate .connect).deed inside site]
      ((Moment.operate .connect).perform inside site).2.consumer := by
  have whole : (Operation.connect.perform inside).run site =
      ((Consumer.connect.run site).1.map fun _ => .done, (Consumer.connect.run site).2) :=
    run_map Consumer.connect (fun _ => Reply.done) site
  have after : ((Moment.operate .connect).perform inside site).2 = (Consumer.connect.run site).2 :=
    congrArg Prod.snd whole
  rw [deed_operate whole, after]
  have unseen (same : (Consumer.connect.run site).2.consumer.shown = site.consumer.shown) :
      Told site.consumer [⟨.operate .connect, site.consumer,
        failureOf ((Consumer.connect.run site).1.map fun _ => Reply.done),
        (Consumer.connect.run site).2.consumer⟩] (Consumer.connect.run site).2.consumer :=
    Told.silent ⟨_, site.consumer, _, _⟩ ready same fun _ => ⟨rfl, trivial⟩
  cases state : site.consumer.connection.state with
  | connected => exact unseen (by rw [connect_connected state])
  | closing =>
    refine unseen ?_
    rw [connect_closing state]
    rfl
  | disconnected =>
    obtain ⟨_, _, result⟩ | ⟨_, _, _, result⟩ | ⟨_, _, done, _⟩ := connect_disconnected state
    · refine unseen ?_
      rw [result]
      rfl
    · refine unseen ?_
      rw [result]
      rfl
    · rw [done]
      exact greeted_told (Connection.eq_disconnected state) ready (Prod.ext done rfl)

/-- Activating a dispatcher that is active shows nothing. -/
theorem activate_told (inside : StateM Site Unit) (ready : site.consumer.Ready) :
    Told site.consumer [(Moment.operate .activate).deed inside site]
      ((Moment.operate .activate).perform inside site).2.consumer := by
  refine Told.silent ((Moment.operate .activate).deed inside site) ready ?_ fun _ => ⟨rfl, trivial⟩
  have same : ({ site.consumer.events with active := true, clientName := none } : EventDispatcher) =
      site.consumer.audience := by
    rw [audience, ready.active]
  exact congrArg (fun audience => (audience, site.consumer.picture, site.consumer.partitions)) same

/-- Every operation is told that neither closes the handle nor silences the dispatcher. -/
theorem operation_told {operation : Operation} (inside : StateM Site Unit)
    (closes : operation ≠ .disconnect) (silences : operation ≠ .deactivate)
    (ready : site.consumer.Ready) :
    Told site.consumer [(Moment.operate operation).deed inside site]
      ((Moment.operate operation).perform inside site).2.consumer := by
  cases operation with
  | disconnect => exact absurd rfl closes
  | deactivate => exact absurd rfl silences
  | connect => exact connect_told inside ready
  | activate => exact activate_told inside ready
  | refreshAssignments => exact refreshing_told (.inl rfl) inside ready
  | assignments => exact refreshing_told (.inr rfl) inside ready
  | subscribe | unsubscribe | assign | unassign | incrementalAssign | incrementalUnassign =>
    refine settling_told ?_ inside ready
    trivial
  | _ =>
    refine quiet_told ?_ inside ready
    trivial

end LogConsumer
