import LogConsumer.Proofs.Consumer.Counting
import LogConsumer.Proofs.Dispatcher.Effects
import LogConsumer.Session.Step

/-!
# What is done at a desk

Whatever is done at the desk of a consumer, be it done at once, by its consume loop or by the jobs
of its dispatcher, is made of a few acts of the consumer. So a relation between sites that these
acts uphold is upheld by everything that is done there (`ConsumerStep.goes`). It may be upheld by
all that a consumer can be asked for (`Upheld`), or by what goes on of itself (`Carried`) and by
what the steps at hand ask for (`ConsumerStep.Upholds`). Jobs that are held act later, so that their
acts uphold it too is asked of the dispatcher before (`Dispatcher.Upholds`) and shown of it
afterwards. A relation between sessions into which it spreads (`Session.Spreads`) is upheld by every
step that is done at a desk.

The relation of sites that what was written down of the consumer is its own is one of that kind
(`tallies_upheld`).
-/
namespace LogConsumer

open Consumer

variable {desk between desk' : Desk} {site : Site} {α : Type} {relation : Site → Site → Prop}

/-- What is done by a consumer and its boundary upholds a relation between sites. -/
structure Upheld (relation : Site → Site → Prop) : Prop where
  /-- Doing nothing upholds it. -/
  refl : ∀ site, relation site site
  /-- What upholds it one after the other upholds it as a whole. -/
  trans : ∀ first second third, relation first second → relation second third →
    relation first third
  /-- Every operation upholds it. -/
  operates : ∀ (operation : Operation) site, relation site (operation.run.run site).2
  /-- Starting the consume loop upholds it. -/
  starts : ∀ timeout sleepDelay site,
    relation site ((consumeLoop timeout sleepDelay).run site).2
  /-- A step of the consume loop upholds it. -/
  advances : ∀ workerFree site, relation site (advanceLoop workerFree site).2
  /-- Stopping the consume loop upholds it. -/
  stops : ∀ wait reportsPanic site, relation site ((stopLoop wait reportsPanic).run site).2
  /-- Changing the boundary upholds it if the trace stays. -/
  scripts : ∀ (site : Site) (boundary : Boundary),
    boundary.calls = site.consumer.boundary.calls →
      relation site { site with consumer := { site.consumer with boundary } }
  /-- Taking out the trace upholds it. -/
  clears : ∀ site : Site, relation site { site with consumer := { site.consumer with
    boundary := { site.consumer.boundary with calls := [] } } }
  /-- What the listeners do upholds it. -/
  listens : ∀ (site : Site) (events : EventDispatcher),
    relation site { site with consumer := { site.consumer with events } }

/-- What goes on at a consumer of itself upholds a relation between sites, and so do its boundary
and its listeners. -/
structure Carried (relation : Site → Site → Prop) : Prop where
  /-- Doing nothing upholds it. -/
  refl : ∀ site, relation site site
  /-- What upholds it one after the other upholds it as a whole. -/
  trans : ∀ first second third, relation first second → relation second third →
    relation first third
  /-- A step of the consume loop upholds it. -/
  advances : ∀ workerFree site, relation site (advanceLoop workerFree site).2
  /-- Stopping the consume loop upholds it. -/
  stops : ∀ wait reportsPanic site, relation site ((stopLoop wait reportsPanic).run site).2
  /-- Changing the boundary upholds it if the trace stays. -/
  scripts : ∀ (site : Site) (boundary : Boundary),
    boundary.calls = site.consumer.boundary.calls →
      relation site { site with consumer := { site.consumer with boundary } }
  /-- Taking out the trace upholds it. -/
  clears : ∀ site : Site, relation site { site with consumer := { site.consumer with
    boundary := { site.consumer.boundary with calls := [] } } }
  /-- What the listeners do upholds it. -/
  listens : ∀ (site : Site) (events : EventDispatcher),
    relation site { site with consumer := { site.consumer with events } }

/-- What a step asks of its consumer upholds a relation between sites, whenever it is done. -/
def Session.ConsumerStep.Upholds (relation : Site → Site → Prop) : Session.ConsumerStep → Prop
  | .operate operation => ∀ site, relation site (operation.run.run site).2
  | .dispatch task =>
    ∀ site, relation site ((task.operation site.consumer.config).run.run site).2
  | .startLoop timeout sleepDelay =>
    ∀ site, relation site ((consumeLoop timeout sleepDelay).run site).2
  | _ => True

/-- A task other than a disconnect is its operation under the configuration. -/
theorem Task.perform_run {task : Task} (other : task ≠ .disconnect) (site : Site) :
    task.perform.run site = (task.operation site.consumer.config).run.run site := by
  unfold Task.perform
  rw [run_get]
  cases task with
  | disconnect => exact absurd rfl other
  | _ => dsimp only

/-- What is upheld by all that a consumer can be asked for is upheld by what goes on of itself. -/
theorem Upheld.carried (upheld : Upheld relation) : Carried relation where
  refl := upheld.refl
  trans := upheld.trans
  advances := upheld.advances
  stops := upheld.stops
  scripts := upheld.scripts
  clears := upheld.clears
  listens := upheld.listens

/-- What is upheld by all that a consumer can be asked for is upheld by what every step asks for. -/
theorem Upheld.step (upheld : Upheld relation) (step : Session.ConsumerStep) :
    step.Upholds relation := by
  cases step with
  | operate operation => exact upheld.operates operation
  | dispatch task => exact fun site => upheld.operates _ site
  | startLoop timeout sleepDelay => exact upheld.starts timeout sleepDelay
  | _ => trivial

namespace Carried

/-- A task upholds the relation if its operation does. -/
theorem task (carried : Carried relation) {task : Task}
    (operates : ∀ site, relation site ((task.operation site.consumer.config).run.run site).2)
    (site : Site) : relation site (task.action site).2 := by
  change relation site (task.perform.run site).2
  by_cases closes : task = .disconnect
  · subst closes
    have does : Does relation (Task.perform .disconnect).run site :=
      .get (.bind (.single (carried.stops _ true site)) fun _ stopped _ =>
        .single (operates stopped))
    exact does.whole carried.refl carried.trans
  · rw [Task.perform_run closes]
    exact operates site

/-- Letting the loop go on upholds the relation. -/
theorem advancesUntil (carried : Carried relation) (workerFree : Bool) (reached : Site → Bool)
    (limit : Nat) (site : Site) :
    relation site (advanceLoopUntil workerFree reached limit site).2 := by
  induction limit generalizing site with
  | zero => exact carried.refl site
  | succ limit ih =>
    unfold advanceLoopUntil
    rw [run_read]
    split
    · exact carried.trans _ _ _ (carried.advances workerFree site) (ih _)
    · exact carried.refl site

end Carried

/-- The workers are dealt out, and what the jobs have still to do upholds a relation. -/
structure Dispatcher.Upholds (relation : Site → Site → Prop)
    (dispatcher : Dispatcher Site Reply) : Prop where
  /-- The workers are dealt out. -/
  staffed : ∃ workers, dispatcher.Staffed workers
  /-- What the jobs do upholds the relation. -/
  acts : dispatcher.ActsAs relation

/-- A new dispatcher has no job. -/
theorem Dispatcher.Upholds.ofWorkers (workers : Nat) :
    (Dispatcher.ofWorkers workers : Dispatcher Site Reply).Upholds relation :=
  ⟨⟨_, staffed_ofWorkers workers⟩, .ofWorkers workers⟩

/-- A job that comes in upholds the relation if what it does does. -/
theorem Dispatcher.Upholds.submitted {dispatcher : Dispatcher Site Reply}
    (upholds : dispatcher.Upholds relation) {job : Job Site Reply}
    (joins : ∀ site, relation site (job.action site).2) :
    Upholds relation { dispatcher with submitted := dispatcher.submitted ++ [job] } := by
  obtain ⟨⟨workers, staffed⟩, acts⟩ := upholds
  exact ⟨⟨workers, staffed.sublist rfl (.refl _) rfl⟩, acts.submitted joins⟩

/-- What is done at the desk upholds a relation, and so does what its jobs have still to do, if it
did before. -/
def Desk.Goes (relation : Site → Site → Prop) (desk desk' : Desk) : Prop :=
  desk.dispatcher.Upholds relation →
    desk'.dispatcher.Upholds relation ∧ relation desk.site desk'.site

namespace Desk.Goes

/-- Doing nothing upholds the relation. -/
theorem refl (carried : Carried relation) : Goes relation desk desk :=
  fun upholds => ⟨upholds, carried.refl _⟩

/-- What is done before and after is done as a whole. -/
theorem trans (carried : Carried relation) (before : Goes relation desk between)
    (after : Goes relation between desk') : Goes relation desk desk' := by
  intro upholds
  obtain ⟨still, first⟩ := before upholds
  obtain ⟨last, second⟩ := after still
  exact ⟨last, carried.trans _ _ _ first second⟩

/-- What is done on the site alone leaves the dispatcher as it is. -/
theorem onSite {action : StateM Site α} (related : relation desk.site (action desk.site).2) :
    Goes relation desk (Session.onSite action desk).2 :=
  fun upholds => ⟨upholds, related⟩

/-- Changing the boundary upholds the relation if the trace stays. -/
theorem changeBoundary (carried : Carried relation) (change : Boundary → Boundary)
    (traced : ∀ boundary, (change boundary).calls = boundary.calls) :
    Goes relation desk (Session.changeBoundary change desk).2 :=
  onSite (carried.scripts _ _ (traced desk.site.consumer.boundary))

/-- A dispatcher that is changed makes its moves. -/
theorem settle (carried : Carried relation) {dispatcher : Dispatcher Site Reply}
    (changed : desk.dispatcher.Upholds relation → dispatcher.Upholds relation) :
    Goes relation desk { site := (dispatcher.settle desk.site).2
                         dispatcher := (dispatcher.settle desk.site).1 } := by
  intro upholds
  obtain ⟨⟨workers, staffed⟩, acts⟩ := changed upholds
  obtain ⟨still, goes, related⟩ := acts.settle carried.refl carried.trans staffed desk.site
  exact ⟨⟨⟨workers, still⟩, goes⟩, related⟩

end Desk.Goes

namespace Session

/-- Dispatching a task upholds the relation if its operation does. -/
theorem dispatchTask_goes (carried : Carried relation) {task : Task}
    (operates : ∀ site, relation site ((task.operation site.consumer.config).run.run site).2)
    (desk : Desk) : desk.Goes relation (dispatchTask task desk).2 := by
  let submitted := desk.dispatcher.submit taskTag task.action
  have settles : desk.Goes relation
      { site := (submitted.settle desk.site).2, dispatcher := (submitted.settle desk.site).1 } :=
    .settle carried fun upholds => upholds.submitted (carried.task operates)
  have final : (dispatchTask task desk).2 =
      { site := (submitted.settle desk.site).2
        dispatcher := (submitted.settle desk.site).1.takePending.2 } := by
    unfold dispatchTask
    rw [run_read]
    dsimp only [Dispatcher.drain]
    rw [run_then]
    cases List.find? _ _ <;> rfl
  intro upholds
  obtain ⟨⟨⟨workers, staffed⟩, acts⟩, related⟩ := settles upholds
  -- Taking out what is ready touches the owner's queue only.
  rw [final]
  exact ⟨⟨⟨workers, staffed.sublist rfl (.refl _) rfl⟩, acts⟩, related⟩

/-- A step of a consumer upholds the relation if what it asks for does. -/
theorem ConsumerStep.goes (carried : Carried relation) {step : ConsumerStep}
    (upholds : step.Upholds relation) (desk : Desk) :
    desk.Goes relation (step.perform desk).2 := by
  cases step with
  | operate operation => exact .onSite (upholds desk.site)
  | takeCalls => exact fun upholds => ⟨upholds, carried.clears desk.site⟩
  | failHook hook error => exact .changeBoundary carried (·.failNext hook error) fun _ => rfl
  | overrideProtocol name =>
    exact .changeBoundary carried (fun boundary => { boundary with protocol := name }) fun _ => rfl
  | dispatch task => exact dispatchTask_goes carried upholds desk
  | holdWorker => exact .settle carried fun upholds => upholds.submitted fun _ => carried.refl _
  | releaseWorkers =>
    refine .settle carried fun upholds => ?_
    obtain ⟨⟨workers, staffed⟩, acts⟩ := upholds
    exact ⟨⟨workers, staffed.release⟩, acts.release⟩
  | startLoop timeout sleepDelay => exact .onSite (upholds desk.site)
  | stopLoop => exact .onSite (carried.stops _ true desk.site)
  | awaitDeliveries wanted =>
    have awaits (free : Bool) :
        relation desk.site (Consumer.awaitDeliveries free wanted desk.site).2 := by
      unfold Consumer.awaitDeliveries
      exact carried.advancesUntil _ _ _ _
    exact .onSite (awaits _)
  | awaitPolls wanted =>
    have awaits (free : Bool) :
        relation desk.site (Consumer.awaitPolls free wanted desk.site).2 := by
      unfold Consumer.awaitPolls
      exact carried.advancesUntil _ _ _ _
    exact .onSite (awaits _)
  | awaitLoopEnd =>
    have awaits (free : Bool) :
        relation desk.site (Consumer.awaitLoopEnd free desk.site).2 := by
      unfold Consumer.awaitLoopEnd
      exact carried.advancesUntil _ _ _ _
    exact .onSite (awaits _)
  | countWorkers | isLoopRunning | readDeliveries => exact .refl carried

/-- Reporting on what is done at a desk upholds the relation if what is done does. -/
theorem reporting_goes (carried : Carried relation)
    {action : StateM Desk (Except ConsumerError ConsumerAnswer)}
    (goes : ∀ desk : Desk, desk.Goes relation (action desk).2) (desk : Desk) :
    desk.Goes relation (reporting action desk).2 :=
  .trans carried
    (.changeBoundary carried (fun boundary => { boundary with reports := [] }) fun _ => rfl)
    (goes _)

/-- The step is done at a desk, with at most some reading of what listeners received. -/
def Step.IsAtDesk : Step → Prop
  | .consumer _ _ | .listen _ | .receive _ _ => True
  | .cluster _ | .client _ _ => False

/-- What upholds a relation between sites at a desk upholds a relation between sessions. -/
structure Spreads (relation : Site → Site → Prop) (spread : Session → Session → Prop) : Prop where
  /-- What upholds it one after the other upholds it as a whole. -/
  trans : ∀ {first second third : Session}, spread first second → spread second third →
    spread first third
  /-- What leaves the consumers, the clients and the cluster alone upholds it. -/
  unseen : ∀ {session session' : Session}, session'.participants = session.participants →
    session'.clients = session.clients → session'.cluster = session.cluster →
      spread session session'
  /-- What upholds the relation between sites at a desk upholds it. -/
  atDesk : ∀ {α : Type} {action : StateM Desk α},
    (∀ desk : Desk, desk.Goes relation (action desk).2) → ∀ (number : Nat) (session : Session),
      spread session (Session.atDesk number action session).2

namespace Spreads

variable {spread : Session → Session → Prop}

/-- One action upholds the relation after the other. -/
theorem bind {β : Type} {session : Session} {action : StateM Session α}
    {rest : α → StateM Session β} (spreads : Spreads relation spread)
    (before : spread session (action session).2)
    (after : ∀ answer between, spread between (rest answer between).2) :
    spread session ((action >>= rest) session).2 :=
  spreads.trans before (after _ _)

/-- Listening to a consumer upholds the relation. -/
theorem listen (spreads : Spreads relation spread) (carried : Carried relation) (number : Nat)
    (session : Session) : spread session (Session.listen number session).2 := by
  unfold Session.listen
  rw [run_read]
  refine spreads.bind (spreads.atDesk (fun desk => .onSite (carried.listens _ _)) number session)
    fun enrolled between => ?_
  cases enrolled <;> exact spreads.unseen rfl rfl rfl

/-- Reading what a listener received upholds the relation. -/
theorem receive (spreads : Spreads relation spread) (carried : Carried relation) (receiver : Nat)
    (session : Session) : spread session (Session.receive receiver session).2 := by
  unfold Session.receive
  rw [run_read]
  cases session.receivers[receiver]? with
  | none => exact spreads.unseen rfl rfl rfl
  | some place =>
    refine spreads.bind (spreads.atDesk (fun desk => .onSite (carried.listens _ _))
      place.participant session) fun _ _ => ?_
    exact spreads.unseen rfl rfl rfl

/-- What is done at a desk, and reported, upholds the relation. -/
theorem reported (spreads : Spreads relation spread) (carried : Carried relation)
    (action : StateM Desk (Except ConsumerError ConsumerAnswer))
    (goes : ∀ desk : Desk, desk.Goes relation (action desk).2) (number : Nat) (session : Session) :
    spread session (Session.atDesk number (reporting action) session).2 :=
  spreads.atDesk (reporting_goes carried goes) number session

/-- Every step that is done at a desk upholds the relation, if what it asks of the consumer does. -/
theorem stepAsking (spreads : Spreads relation spread) (carried : Carried relation) {step : Step}
    (desk : step.IsAtDesk)
    (asks : ∀ number own, step = .consumer number own → own.Upholds relation)
    (session : Session) : spread session (step.perform session).2 := by
  cases step with
  | consumer number step =>
    exact spreads.reported carried _ (step.goes carried (asks number step rfl)) number session
  | listen number =>
    exact spreads.trans (spreads.listen carried number session)
      (spreads.reported carried (pure _) (fun _ => .refl carried) number _)
  | receive number receiver =>
    exact spreads.trans (spreads.receive carried receiver session)
      (spreads.reported carried (pure _) (fun _ => .refl carried) number _)
  | cluster step => exact desk.elim
  | client number call => exact desk.elim

/-- Every step that is done at a desk upholds the relation. -/
theorem step (spreads : Spreads relation spread) (upheld : Upheld relation) {step : Step}
    (desk : step.IsAtDesk) (session : Session) : spread session (step.perform session).2 :=
  spreads.stepAsking upheld.carried desk (fun _ own _ => upheld.step own) session

end Spreads

end Session

/-- The entry is about what the consumer did itself. -/
def Entry.Own (entry : Entry) : Prop :=
  entry ≠ .surrounded

/-- What is about a poll is the consumer's own. -/
theorem Entry.own_of_ofPoll {entry : Entry} (polls : entry.OfPoll) : entry.Own := by
  rintro rfl
  exact polls

/-- What an operation may have written down is the consumer's own, if what runs from inside a close
has nothing written down. -/
theorem Operation.own_of_may {operation : Operation} {entry : Entry}
    (may : operation.May Inside.script.May entry) : entry.Own := by
  rintro rfl
  cases operation with
  | disconnect =>
    obtain counted | closing := may
    · exact counted
    · exact closing
  | _ => exact may

/-- What is written down at a desk is the consumer's own. -/
theorem tallies_upheld : Upheld (Site.Tallies Entry.Own) where
  refl _ := .refl
  trans _ _ _ := .trans
  operates operation site :=
    (operation_tallies operation (fun _ => inside_tallies .script) site).mono
      fun _ => operation.own_of_may
  starts timeout sleepDelay site := consumeLoop_tallies timeout sleepDelay site
  advances workerFree site :=
    (advanceLoop_tallies workerFree site).mono fun _ => Entry.own_of_ofPoll
  stops wait reportsPanic site :=
    (stopLoop_tallies wait reportsPanic site).mono fun _ counts =>
      Entry.own_of_ofPoll (Entry.ofPoll_of_ofCount counts)
  scripts site boundary traced := by
    refine .aside (Prod.ext rfl (Prod.ext ?_ rfl)) rfl
    exact congrArg (List.filter fun traced => traced.call.isTallied) traced
  clears site := by
    refine Site.Tallies.cleared.mono fun entry cleared => ?_
    rw [cleared]
    exact nofun
  listens site events := .aside rfl rfl

end LogConsumer
