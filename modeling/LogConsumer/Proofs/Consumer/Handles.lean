import LogConsumer.Proofs.Client.Frame
import LogConsumer.Proofs.Consumer.Moments
import LogConsumer.Proofs.Consumer.Operations

/-!
# What happens to handles

Every operation of a consumer treats its handles as `Life.Step` says, whatever the factory and the
client answer. Only a disconnect closes a handle (`moment_lives`); it begins to close the open one,
has something run, and lets it go without any further call (`disconnect_cases`). What runs from
inside a close ends no close (`RunsInside.moment`), since the handle is not open then.
-/
namespace LogConsumer

open Consumer Consumer.Does

variable {site : Site} {makes : ClientCall → Prop} {resets : Prop} {α : Type}

/-- The life of the handles goes on without an end of a close. -/
def Lives (site site' : Site) : Prop :=
  Relation.ReflTransGen Life.Act site.life site'.life

/-- An action that goes on without an end of a close goes on so as a whole. -/
theorem lives_of_does {action : StateM Site α} (does : Does Lives action site) :
    Lives site (action site).2 :=
  does.whole (fun _ => .refl) fun _ _ _ => .trans

/-- Bookkeeping shows nothing of the life of the handles. -/
theorem life_of_tidy (site : Site) (consumer : Consumer)
    (same : consumer.core = site.consumer.core) :
    ({ site with consumer } : Site).life = site.life := by
  have connection : consumer.connection = site.consumer.connection := congrArg Core.connection same
  have calls : consumer.boundary.calls = site.consumer.boundary.calls := congrArg Core.calls same
  unfold Site.life
  rw [connection, calls]

/-- An action that only keeps books shows nothing of the life of the handles. -/
theorem life_of_books {action : StateM Site α} (books : Acts (fun _ => False) False action site) :
    (action site).2.life = site.life :=
  view_of_books life_of_tidy books

/-- No act that does not close a handle ends a close. -/
theorem lives_of_act {site' : Site} (keeps : ∀ request, makes request → request ≠ .close)
    (act : Act makes resets site site') : Lives site site' := by
  cases act with
  | tidy same =>
    unfold Lives
    rw [life_of_tidy _ _ same]
  | reset partitions subscriptionFlag may => exact .refl
  | @told client request admits may =>
    apply Relation.ReflTransGen.single
    rcases admits with opened | ⟨closing, release⟩
    · refine Life.Act.calls ?_ (fun same => keeps request may (by cases same; rfl)) nofun
      rw [Site.life, opened]
      rfl
    · refine Life.Act.releases ?_ release
      rw [Site.life, closing]
      rfl
  | @reached client request admits may =>
    have fixture := ClientCall.perform_keeps_fixture request ⟨client, site.cluster⟩
    have serial : (request.perform ⟨client, site.cluster⟩).2.client.serial = client.serial :=
      congrArg Link.Fixture.serial fixture
    have created : (request.perform ⟨client, site.cluster⟩).2.cluster.created =
        site.cluster.created := congrArg Link.Fixture.created fixture
    have life : (site.linked (request.perform ⟨client, site.cluster⟩).2).life = site.life := by
      unfold Site.life Site.linked
      rw [created]
      rcases admits with state | ⟨state, _⟩ <;>
        simp [state, Connection.update, Connection.numbered, serial]
    unfold Lives
    rw [life]

/-- An action made of acts that close no handle goes on without an end of a close. -/
theorem lives_of_acts {action : StateM Site α} (acts : Acts makes resets action site)
    (keeps : ∀ request, makes request → request ≠ .close) : Does Lives action site :=
  acts.mono fun _ _ => lives_of_act keeps

/-- One more call that is lawful for the life of the handles. -/
theorem lives_note {handle : Option Nat} {call : Call}
    (act : Life.Act site.life (site.life.told handle call)) :
    Does Lives (note handle call) site :=
  .single (.single act)

/-- An action that only keeps books goes on without an end of a close. -/
theorem lives_of_books {action : StateM Site α} (books : Acts (fun _ => False) False action site) :
    Does Lives action site :=
  lives_of_acts books nofun

/-- Installing a handle goes on without an end of a close, and a handle that is installed is
open. -/
theorem installHandle_lives (site : Site) : Does Lives installHandle.run site := by
  obtain ⟨_, result⟩ | ⟨vacant, reason, _, result⟩ | ⟨vacant, _, result⟩ :=
    installHandle_cases site
  · refine idle ?_
    rw [result]
  · unfold Does
    rw [result]
    refine .single (.single (Life.Act.creates ?_))
    rw [Site.life, vacant]
    rfl
  · have none : site.life.connection = .disconnected := by
      rw [Site.life, vacant]
      rfl
    unfold Does
    rw [result]
    refine .single (.head (Life.Act.creates none) (.single ?_))
    exact Life.Act.installs none (Nat.lt_succ_self _)

/-- A handle that was just installed is open. -/
theorem connection_of_installHandle {site' : Site} {client : Client}
    (installed : installHandle.run site = (.ok (some client), site')) :
    site'.consumer.connection = .connected client := by
  obtain ⟨_, result⟩ | ⟨_, _, _, result⟩ | ⟨_, _, result⟩ := installHandle_cases site <;>
    cases result.symm.trans installed
  rfl

/-- Connecting goes on without an end of a close. -/
theorem connect_lives (site : Site) : Does Lives Consumer.connect.run site := by
  rw [connect_eq]
  refine get (either (lift (lives_note .prepares) ?_) (pure _))
  refine bind (lives_of_books (takeHookFault .prepare)) fun _ prepared _ => ?_
  refine bind (installHandle_lives prepared) fun installed site' result => ?_
  cases installed with
  | none => exact pure _
  | some client =>
    refine greet (connection_of_installHandle result) (fun _ _ => lives_of_act ?_)
      fun site opened => ?_
    · rintro request (rfl | ⟨_, rfl⟩) <;> exact nofun
    · refine .single (Life.Act.calls ?_ nofun nofun)
      rw [Site.life, opened]
      rfl

/-- The life of the handles goes on. -/
def Continues (site site' : Site) : Prop :=
  Relation.ReflTransGen Life.Step site.life site'.life

/-- What goes on without an end of a close goes on. -/
theorem continues_of_lives {site site' : Site} (lives : Lives site site') :
    Continues site site' :=
  Relation.ReflTransGen.mono (fun _ _ => Life.Step.act) _ _ lives

/-- What runs from inside a close goes on without an end of a close. -/
def RunsInside (inside : StateM Site Unit) : Prop :=
  ∀ site handle, site.life.connection = .closing handle → Lives site (inside site).2

/-- The site whose open handle begins to be closed. -/
def Site.shutting (site : Site) (client : Client) : Site :=
  Site.traced { site with consumer := { site.consumer with connection := .closing client } }
    client .close

/-- Letting go of a handle shows nothing of its life but that the connection is without it. -/
theorem life_of_releaseHandle (client : Client) (site : Site) :
    ((releaseHandle client).run site).2.life = { site.life with connection := .disconnected } := by
  have created : ∀ link, (Client.close.run link).2.cluster.created = link.cluster.created :=
    fun link => congrArg Link.Fixture.created (ClientCall.perform_keeps_fixture .close link)
  rw [releaseHandle_run]
  unfold Site.life
  rw [created]
  rfl

/-- The end of a disconnect: the handle is let go, and the listeners are told. -/
def letGo (client : Client) : Action Unit := do
  match ← releaseHandle client with
  | .ok () => Consumer.publish (.disconnected none)
  | .error error =>
    Consumer.publish (.disconnected (some error.message))
    MonadExcept.throw (.protocol error)

/-- What a disconnect does once the consume loop has been stopped. -/
def shutDown (inside : StateM Site Unit) : Action Unit := do
  match (← MonadState.get).consumer.connection.beginClose? with
  | none => Pure.pure ()
  | some (client, connection) =>
    update fun consumer => { consumer with connection }
    Consumer.trace client .close
    inside
    letGo client

/-- A disconnect stops the consume loop and then shuts the handle down. -/
theorem disconnect_eq (inside : StateM Site Unit) :
    Consumer.disconnect inside = (do
      Consumer.stopLoop (← MonadState.get).consumer.config.loopStopTimeout false
      shutDown inside) :=
  rfl

/-- Once a handle was let go, only books are kept. -/
theorem view_of_letGo {ν : Type} {view : Site → ν}
    (blind : ∀ (site : Site) (consumer : Consumer), consumer.core = site.consumer.core →
      view { site with consumer } = view site) (client : Client) (site : Site) :
    view ((letGo client).run site).2 = view ((releaseHandle client).run site).2 := by
  have ran (outcome : Except ClientError Unit) (site' : Site)
      (answered : (releaseHandle client).run site = (.ok outcome, site')) :
      view ((letGo client).run site).2 = view site' := by
    unfold letGo
    rw [run_bind_ok answered]
    cases outcome with
    | ok _ => exact view_of_books blind (publish _)
    | error error => exact view_of_books blind (lift (publish _) (throw _))
  exact ran _ _ rfl

/-- Nothing is called when a handle is let go, and the connection is without it then. -/
theorem life_of_letGo (client : Client) (site : Site) :
    ((letGo client).run site).2.life = { site.life with connection := .disconnected } :=
  (view_of_letGo life_of_tidy client site).trans (life_of_releaseHandle client site)

/-- Shutting down does nothing where no handle is open; else it begins to close the handle, has
something run, and lets the handle go. -/
theorem shutDown_cases (inside : StateM Site Unit) (site : Site) :
    (site.consumer.connection.isConnected = false ∧ (shutDown inside).run site = (.ok (), site)) ∨
    ∃ client, site.consumer.connection = .connected client ∧
      (shutDown inside).run site = (letGo client).run (inside (site.shutting client)).2 := by
  obtain ⟨⟨config, connection, partitions, subscriptionFlag, events, metrics, loop, deliveries,
    boundary⟩, cluster⟩ := site
  cases connection with
  | disconnected => exact .inl ⟨rfl, rfl⟩
  | closing client => exact .inl ⟨rfl, rfl⟩
  | connected client => exact .inr ⟨client, rfl, rfl⟩

/-- A disconnect comes to nothing but the stop of the loop, or the stop succeeds, the open handle
begins to be closed, something runs, and the handle is let go. -/
theorem disconnect_branches (inside : StateM Site Unit) (site : Site) :
    let stop := (Consumer.stopLoop site.consumer.config.loopStopTimeout false).run site
    ((Consumer.disconnect inside).run site).2 = stop.2 ∨
    stop.1 = .ok () ∧ ∃ client, stop.2.consumer.connection = .connected client ∧
      (Consumer.disconnect inside).run site =
        (letGo client).run (inside (stop.2.shutting client)).2 := by
  rw [disconnect_eq, run_get]
  cases stop : (Consumer.stopLoop site.consumer.config.loopStopTimeout false).run site with
  | mk outcome stopped =>
    cases outcome with
    | error error =>
      rw [run_bind_error stop]
      exact .inl rfl
    | ok _ =>
      rw [run_bind_ok stop]
      obtain ⟨_, unchanged⟩ | shuts := shutDown_cases inside stopped
      · exact .inl (congrArg Prod.snd unchanged)
      · exact .inr ⟨rfl, shuts⟩

/-- Disconnecting shows nothing, or the open handle begins to be closed, something runs, and the
handle is let go without any further call. -/
theorem disconnect_cases (inside : StateM Site Unit) (site : Site) :
    ((Consumer.disconnect inside).run site).2.life = site.life ∨
    ∃ (stopped : Site) (client : Client), stopped.life = site.life ∧
      stopped.consumer.connection = .connected client ∧
      ((Consumer.disconnect inside).run site).2.life =
        { (inside (stopped.shutting client)).2.life with connection := .disconnected } := by
  have life : ((Consumer.stopLoop site.consumer.config.loopStopTimeout false).run site).2.life =
      site.life := life_of_books (stopLoop _ _ site)
  obtain stopped | ⟨_, client, opened, shut⟩ := disconnect_branches inside site
  · rw [stopped]
    exact .inl life
  · rw [shut, life_of_letGo]
    exact .inr ⟨_, client, life, opened, rfl⟩

/-- Disconnecting goes on: the close of the handle begins, whatever runs inside goes on, and the
close returns. -/
theorem disconnect_continues {inside : StateM Site Unit} (runs : RunsInside inside) (site : Site) :
    Continues site ((Consumer.disconnect inside).run site).2 := by
  unfold Continues
  obtain same | ⟨stopped, client, life, opened, final⟩ := disconnect_cases inside site
  · rw [same]
  · have begins : Life.Step stopped.life (stopped.shutting client).life := by
      refine Life.Step.begins ?_
      rw [Site.life, opened]
      rfl
    have within := runs (stopped.shutting client) client.serial rfl
    have returns := Life.Step.returns (Life.closing_of_acts within rfl)
    rw [final, ← life]
    exact .head begins ((continues_of_lives within).tail returns)

/-- Disconnecting while the handle is being closed already shows nothing. -/
theorem disconnect_closing {handle : Nat} (inside : StateM Site Unit)
    (closing : site.life.connection = .closing handle) :
    ((Consumer.disconnect inside).run site).2.life = site.life := by
  obtain same | ⟨stopped, client, life, opened, _⟩ := disconnect_cases inside site
  · exact same
  · rw [← life, Site.life, opened] at closing
    contradiction

/-- Only disconnecting closes a handle. -/
theorem Operation.ne_close_of_makes {operation : Operation} (closes : operation ≠ .disconnect)
    {request : ClientCall} (made : operation.Makes request) : request ≠ .close := by
  rintro rfl
  cases operation with
  | disconnect => exact closes rfl
  | connect => rcases made with made | ⟨_, made⟩ <;> cases made
  | consume | consumeMany | seek | committed | storeOffset | offsetsForTimes | queryWatermarks =>
    obtain ⟨_, made⟩ := made
    cases made
  | _ => cases made

/-- Every operation but disconnecting goes on without an end of a close. -/
theorem perform_lives {operation : Operation} (inside : StateM Site Unit)
    (closes : operation ≠ .disconnect) (site : Site) :
    Does Lives (operation.perform inside).run site := by
  by_cases opens : operation = .connect
  · subst opens
    exact answer (connect_lives site)
  · exact lives_of_acts (perform inside opens closes site)
      fun _ => Operation.ne_close_of_makes closes

/-- A disconnect leaves the site as disconnecting leaves it. -/
theorem operate_disconnect (inside : StateM Site Unit) (site : Site) :
    ((Moment.operate .disconnect).perform inside site).2 =
      ((Consumer.disconnect inside).run site).2 :=
  congrArg Prod.snd (run_map (Consumer.disconnect inside) (fun _ => Reply.done) site)

/-- Whatever happens at a consumer but a disconnect goes on without an end of a close. -/
theorem moment_lives {moment : Moment} (inside : StateM Site Unit)
    (stays : moment ≠ .operate .disconnect) (site : Site) :
    Lives site (moment.perform inside site).2 := by
  cases moment with
  | operate operation =>
    exact lives_of_does (perform_lives inside (fun same => stays (by rw [same])) site)
  | startLoop timeout sleepDelay =>
    exact lives_of_does (lives_of_books (consumeLoop timeout sleepDelay site))
  | advanceLoop workerFree =>
    have acts : Acts (fun request => ∃ timeout, request = .poll timeout) False
        (Consumer.advanceLoop workerFree) site :=
      advanceLoop workerFree (fun timeout => ⟨timeout, rfl⟩) site
    exact lives_of_does (lives_of_acts acts fun _ ⟨_, same⟩ => by rw [same]; nofun)
  | stopLoop wait reportsPanic =>
    exact lives_of_does (lives_of_books (stopLoop wait reportsPanic site))
  | surroundings boundary others created =>
    exact .single (.elsewhere (Nat.le_add_right _ _))

namespace RunsInside

/-- Whatever happens at a consumer may happen from inside a close. -/
theorem moment (moment : Moment) (inside : StateM Site Unit) :
    RunsInside (moment.perform inside) := by
  intro site handle closing
  by_cases closes : moment = .operate .disconnect
  · unfold Lives
    rw [closes, operate_disconnect, disconnect_closing inside closing]
  · exact moment_lives inside closes site

/-- What runs from inside a close one after the other runs from inside. -/
theorem forM {β : Type} {action : β → StateM Site Unit} (each : ∀ item, RunsInside (action item))
    (items : List β) : RunsInside (items.forM action) := by
  induction items with
  | nil => exact fun _ _ _ => .refl
  | cons item items ih =>
    intro site handle closing
    have first := each item site handle closing
    exact first.trans (ih _ handle (Life.closing_of_acts first closing))

/-- The close script of the boundary runs from inside a close. -/
theorem script : RunsInside Consumer.runCloseScript := by
  have each (operation : Operation) : RunsInside operation.runInsideClose := by
    intro site handle closing
    have performs := moment (.operate operation) (Pure.pure ()) site handle closing
    exact performs.trans (lives_of_does (lives_of_books (tidy fun _ => rfl)))
  exact fun site handle closing => forM each _ site handle closing

/-- What an occurrence has run from inside a close runs from inside. -/
theorem inside (inside : Inside) : RunsInside inside.perform := by
  cases inside with
  | script => exact script
  | course moments => exact forM (fun moment => RunsInside.moment moment _) moments

end RunsInside

end LogConsumer
