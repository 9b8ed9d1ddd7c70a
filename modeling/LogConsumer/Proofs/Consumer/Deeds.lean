import LogConsumer.Proofs.Consumer.Disconnecting
import LogConsumer.Proofs.Event.Listening
import LogConsumer.Proofs.PartitionSets

/-!
# Deeds and their news

What happens at a consumer is listed deed by deed, with the consumer before and after each of them
(`Occurrence.deeds`); what runs from inside a close is listed within the disconnect. What is new in
a deed is read off the consumer and the failure alone (`Deed.news`). `Consumer.Told` says that
from one consumer to another the listeners were told exactly what was new, and that whoever starts
from the right picture of the first consumer and listens has the right picture of the second.
-/
namespace LogConsumer

/-- What the events tell of the handle, the subscription and the consume loop. -/
@[ext]
structure Picture where
  /-- The name of the handle, if there is one. -/
  handle : Option String := none
  /-- There is a subscription. -/
  subscribed : Bool := false
  /-- A consume loop is running. -/
  looping : Bool := false
  deriving DecidableEq, Repr

/-- The picture after an event was heard. -/
def Picture.hear (picture : Picture) : Event → Picture
  | .connected clientName => { picture with handle := some clientName }
  | .disconnected _ => { picture with handle := none, subscribed := false }
  | .subscribed _ => { picture with subscribed := true }
  | .unsubscribed => { picture with subscribed := false }
  | .consumeLoopStarted => { picture with looping := true }
  | .consumeLoopStopped => { picture with looping := false }
  | .assigned _ | .unassigned | .incrementalAssigned _ _ | .incrementalUnassigned _ _ => picture

namespace Event

/-- The number of partitions assigned after an event was heard. -/
def recount (count : Nat) : Event → Nat
  | .assigned partitions => partitions
  | .unassigned => 0
  | .incrementalAssigned _ total | .incrementalUnassigned _ total => total
  | _ => count

/-- Handles come and go in turn, the next one to come if there is none and to go if there is. -/
def Alternate : (present : Bool) → List Event → Prop
  | _, [] => True
  | present, .connected _ :: later => present = false ∧ Alternate true later
  | present, .disconnected _ :: later => present = true ∧ Alternate false later
  | present, _ :: later => Alternate present later

/-- Handles that come and go in turn do so in both parts of a stream. -/
theorem alternate_append (picture : Picture) (first second : List Event) :
    Alternate picture.handle.isSome (first ++ second) ↔
      Alternate picture.handle.isSome first ∧
        Alternate (first.foldl Picture.hear picture).handle.isSome second := by
  induction first generalizing picture with
  | nil => exact ⟨fun later => ⟨trivial, later⟩, And.right⟩
  | cons event first ih =>
    have rest := ih (picture.hear event)
    cases event with
    | connected clientName => exact (and_congr_right fun _ => rest).trans and_assoc.symm
    | disconnected error => exact (and_congr_right fun _ => rest).trans and_assoc.symm
    | _ => exact rest

end Event

namespace Consumer

/-- The handle, the subscription and the consume loop. A handle that is being closed is still
there. -/
def picture (consumer : Consumer) : Picture :=
  { handle := consumer.connection.handle?.map Client.name
    subscribed := consumer.subscriptionFlag
    looping := consumer.isLoopRunning }

/-- The listeners and the events on their way to them. -/
def audience (consumer : Consumer) : EventDispatcher :=
  { consumer.events with clientName := none }

/-- Everything that events are about, with the events themselves. -/
def shown (consumer : Consumer) : EventDispatcher × Picture × PartitionSet :=
  (consumer.audience, consumer.picture, consumer.partitions)

/-- That the consume loop ended, if it was running before and is not afterwards. -/
def ending (before after : Consumer) : List Event :=
  if before.isLoopRunning && !after.isLoopRunning then [.consumeLoopStopped] else []

end Consumer

/-- The error of an outcome that is a failure. -/
def failureOf {α : Type} : Except ConsumerError α → Option ConsumerError
  | .ok _ => none
  | .error error => some error

/-- Something that happened at a consumer. -/
structure Deed where
  /-- What happened. -/
  moment : Moment
  /-- The consumer before. -/
  before : Consumer
  /-- Why it failed, if it did. -/
  failure : Option ConsumerError
  /-- The consumer afterwards. -/
  after : Consumer

namespace Moment

/-- Why it fails, if it does. -/
def failure (inside : StateM Site Unit) (site : Site) : Moment → Option ConsumerError
  | .operate operation => failureOf ((operation.perform inside).run site).1
  | .startLoop timeout sleepDelay =>
    failureOf ((Consumer.consumeLoop timeout sleepDelay).run site).1
  | .stopLoop wait reportsPanic => failureOf ((Consumer.stopLoop wait reportsPanic).run site).1
  | .advanceLoop _ | .surroundings _ _ _ => none

/-- What happens at a site as a deed. -/
def deed (inside : StateM Site Unit) (site : Site) (moment : Moment) : Deed :=
  { moment
    before := site.consumer
    failure := moment.failure inside site
    after := (moment.perform inside site).2.consumer }

/-- The dispatcher is silenced. -/
def silences : Moment → Bool
  | .operate .deactivate => true
  | _ => false

/-- The client's assignment is taken over. -/
def refreshes : Moment → Bool
  | .operate .refreshAssignments | .operate .assignments => true
  | _ => false

end Moment

/-- What is done from inside a close, in order. -/
def Inside.deeds (site : Site) : Inside → List Deed
  | .script => collected (fun site operation => (operation.runInsideClose site).2)
      (fun site operation => [(Moment.operate operation).deed (pure ()) site]) site
      site.consumer.boundary.closeScript
  | .course moments => collected (fun site moment => (moment.perform (pure ()) site).2)
      (fun site moment => [moment.deed (pure ()) site]) site moments

/-- What is done where something happens, in order. A disconnect stops the consume loop first; then,
if it gets to close the handle, comes what runs from inside the close, and it is done when the
handle is let go. -/
def Occurrence.deeds (site : Site) : Occurrence → List Deed
  | (.operate .disconnect, inside) =>
    let whole := (Moment.operate .disconnect).deed inside.perform site
    let stop := Moment.stopLoop site.consumer.config.loopStopTimeout false
    let stopped := (stop.perform (pure ()) site).2
    stop.deed (pure ()) site ::
      match stop.failure (pure ()) site, stopped.consumer.connection with
      | none, .connected client =>
        let closing := (inside.perform (stopped.shutting client)).2
        inside.deeds (stopped.shutting client) ++ [{ whole with before := closing.consumer }]
      | _, _ => [{ whole with before := stopped.consumer }]
  | (moment, inside) => [moment.deed inside.perform site]

namespace Deed

/-- That a handle came or went: one is there after the deed and none was there before, or the other
way round. -/
def turn (deed : Deed) : List Event :=
  match deed.before.connection.handle?, deed.after.connection.handle? with
  | none, some client => [.connected client.name]
  | some _, none =>
    [.disconnected ((deed.failure.bind ConsumerError.client?).map ClientError.message)]
  | _, _ => []

/-- What else has changed by a deed that succeeds. -/
def change (deed : Deed) : List Event :=
  let before := deed.before.partitions.count
  let after := deed.after.partitions.count
  match deed.moment with
  | .operate (.subscribe topics) => [.subscribed topics]
  | .operate .unsubscribe => if deed.before.isSubscribed then [.unsubscribed] else []
  | .operate (.assign _) => [.assigned after]
  | .operate .unassign => [.unassigned]
  | .operate (.incrementalAssign _) => [.incrementalAssigned (after - before) after]
  | .operate (.incrementalUnassign _) => [.incrementalUnassigned (before - after) after]
  | .startLoop _ _ => [.consumeLoopStarted]
  | .advanceLoop _ | .stopLoop _ _ => deed.before.ending deed.after
  | _ => []

/-- What is new after a deed. -/
def news (deed : Deed) : List Event :=
  deed.turn ++ if deed.failure.isNone then deed.change else []

/-- A deed that succeeds and says which partitions are assigned is told by one event, and its
numbers are what has become of the number of partitions assigned. -/
def Accounted (deed : Deed) : Prop :=
  let before := deed.before.partitions.count
  let after := deed.after.partitions.count
  match deed.moment with
  | .operate (.assign partitions) =>
    deed.news = [.assigned partitions.length] ∧ after = partitions.length
  | .operate .unassign => deed.news = [.unassigned] ∧ after = 0
  | .operate (.incrementalAssign partitions) =>
    deed.news = [.incrementalAssigned partitions.length after] ∧
      after = before + partitions.length
  | .operate (.incrementalUnassign _) => ∃ removed,
    deed.news = [.incrementalUnassigned removed after] ∧ after = before - removed ∧
      removed ≤ before
  | _ => True

/-- A deed has nothing to tell if it fails, unless it is a close that fails, and its numbers are
right if it succeeds. -/
structure Honest (deed : Deed) : Prop where
  /-- Nothing is new after a failure, except that the handle is gone, with the error of its
  close. -/
  failed : ∀ error, deed.failure = some error → deed.news = [] ∨
    deed.moment = .operate .disconnect ∧
      ∃ cause, error = .protocol cause ∧ deed.news = [.disconnected (some cause.message)]
  /-- The numbers told after a success are right. -/
  accounted : deed.failure = none → deed.Accounted

/-- The listeners of the consumer are told of the deed as it is. -/
structure IsTold (deed : Deed) : Prop extends deed.Honest where
  /-- What is new is published, in order, and nothing else. -/
  tells : deed.after.audience = deed.news.foldl .publish deed.before.audience
  /-- Who hears it goes on having the right picture. -/
  shows : deed.news.foldl .hear deed.before.picture = deed.after.picture
  /-- Who hears it goes on knowing how many partitions are assigned, unless the client's assignment
  is taken over. -/
  counts : deed.moment.refreshes = false →
    deed.news.foldl Event.recount deed.before.partitions.count = deed.after.partitions.count
  /-- Handles come and go in turn. -/
  alternate : Event.Alternate deed.before.picture.handle.isSome deed.news

variable {deed : Deed}

/-- A deed that succeeds is honest if its numbers are right. -/
theorem Honest.of_success (done : deed.failure = none) (accounted : deed.Accounted) :
    deed.Honest := by
  refine ⟨fun error failed => ?_, fun _ => accounted⟩
  rw [done] at failed
  cases failed

/-- Where the handle stays, none came or went. -/
theorem turn_eq_nil (same : deed.after.picture.handle = deed.before.picture.handle) :
    deed.turn = [] := by
  unfold Consumer.picture at same
  unfold turn
  cases before : deed.before.connection.handle? with
  | none =>
    cases after : deed.after.connection.handle? with
    | none => rfl
    | some client =>
      rw [before, after] at same
      cases same
  | some client =>
    cases after : deed.after.connection.handle? with
    | none =>
      rw [before, after] at same
      cases same
    | some other => rfl

/-- Where the handle stays and the deed fails, nothing is new. -/
theorem news_of_failure {error : ConsumerError} (failed : deed.failure = some error)
    (same : deed.after.picture.handle = deed.before.picture.handle) : deed.news = [] := by
  rw [news, turn_eq_nil same, failed]
  rfl

/-- Where the handle stays and the deed succeeds, what is new is what else has changed. -/
theorem news_of_success (done : deed.failure = none)
    (same : deed.after.picture.handle = deed.before.picture.handle) :
    deed.news = deed.change := by
  rw [news, turn_eq_nil same, done]
  rfl

end Deed

namespace Consumer

/-- The dispatcher of the consumer is active, and the partitions are counted. -/
structure Ready (consumer : Consumer) : Prop where
  /-- The dispatcher is active. -/
  active : consumer.events.active = true
  /-- The partitions are counted. -/
  numbered : consumer.partitions.Numbered

/-- Deeds that follow one another with nothing to see in between, from what is shown before them to
what is shown after them. -/
def Leads : EventDispatcher × Picture × PartitionSet → List Deed →
    EventDispatcher × Picture × PartitionSet → Prop
  | shown, [], final => final = shown
  | shown, deed :: later, final => deed.before.shown = shown ∧ Leads deed.after.shown later final

/-- From one consumer to another these deeds were done and nothing else, and the listeners were told
of each of them as it is. -/
structure Told (before : Consumer) (deeds : List Deed) (after : Consumer) : Prop where
  /-- The deeds lead from the one consumer to the other. -/
  leads : Leads before.shown deeds after.shown
  /-- Every deed is told. -/
  each : ∀ deed ∈ deeds, deed.IsTold
  /-- The consumer goes on being ready. -/
  ready : after.Ready

namespace Leads

variable {shown between final : EventDispatcher × Picture × PartitionSet} {first second : List Deed}

/-- What leads on leads on as a whole. -/
theorem trans (earlier : Leads shown first between) (later : Leads between second final) :
    Leads shown (first ++ second) final := by
  induction first generalizing shown with
  | nil =>
    cases earlier
    exact later
  | cons deed first ih => exact ⟨earlier.1, ih earlier.2⟩

/-- Where each deed makes of a part of what is shown what its news make of it, the news of all of
them make of it what it is in the end. -/
theorem foldl_news {σ : Type} {hear : σ → Event → σ}
    (view : EventDispatcher × Picture × PartitionSet → σ) {deeds : List Deed}
    (leads : Leads shown deeds final)
    (each : ∀ deed ∈ deeds, deed.news.foldl hear (view deed.before.shown) = view deed.after.shown) :
    (deeds.flatMap Deed.news).foldl hear (view shown) = view final := by
  induction deeds generalizing shown with
  | nil =>
    cases leads
    rfl
  | cons deed later ih =>
    obtain ⟨rfl, leads⟩ := leads
    rw [List.flatMap_cons, List.foldl_append, each deed List.mem_cons_self]
    exact ih leads fun other inside => each other (List.mem_cons_of_mem _ inside)

end Leads

namespace Told

variable {before between after : Consumer} {first second deeds : List Deed}

/-- Where nothing shows, nothing is told. -/
theorem unseen (ready : before.Ready) (same : after.shown = before.shown) :
    Told before [] after := by
  obtain ⟨audience, others⟩ := Prod.mk.inj same
  obtain ⟨picture, partitions⟩ := Prod.mk.inj others
  have active : after.audience.active = before.audience.active := by
    rw [audience]
  refine ⟨same, List.forall_mem_nil _, active.trans ready.active, ?_⟩
  rw [partitions]
  exact ready.numbered

/-- What is told of two parts is told of the whole. -/
theorem trans (earlier : Told before first between) (later : Told between second after) :
    Told before (first ++ second) after := by
  refine ⟨earlier.leads.trans later.leads, fun deed inside => ?_, later.ready⟩
  obtain here | there := List.mem_append.mp inside
  · exact earlier.each deed here
  · exact later.each deed there

/-- The listeners are told what is new, in order. -/
theorem tells (told : Told before deeds after) :
    after.audience = (deeds.flatMap Deed.news).foldl .publish before.audience :=
  (told.leads.foldl_news Prod.fst fun deed inside => (told.each deed inside).tells.symm).symm

/-- Who hears all of it goes on having the right picture. -/
theorem shows (told : Told before deeds after) :
    (deeds.flatMap Deed.news).foldl .hear before.picture = after.picture :=
  told.leads.foldl_news (fun shown => shown.2.1) fun deed inside => (told.each deed inside).shows

/-- Who hears all of it goes on knowing how many partitions are assigned, unless the client's
assignment is taken over. -/
theorem counts (told : Told before deeds after)
    (kept : ∀ deed ∈ deeds, deed.moment.refreshes = false) :
    (deeds.flatMap Deed.news).foldl Event.recount before.partitions.count =
      after.partitions.count :=
  told.leads.foldl_news (fun shown => shown.2.2.count) fun deed inside =>
    (told.each deed inside).counts (kept deed inside)

/-- Handles come and go in turn. -/
theorem alternate (told : Told before deeds after) :
    Event.Alternate before.picture.handle.isSome (deeds.flatMap Deed.news) := by
  obtain ⟨leads, each, _⟩ := told
  change Event.Alternate before.shown.2.1.handle.isSome _
  generalize before.shown = shown at leads ⊢
  induction deeds generalizing shown with
  | nil => trivial
  | cons deed later ih =>
    obtain ⟨rfl, leads⟩ := leads
    have told := each deed List.mem_cons_self
    rw [List.flatMap_cons, Event.alternate_append]
    refine ⟨told.alternate, ?_⟩
    change Event.Alternate (deed.news.foldl .hear deed.before.picture).handle.isSome _
    rw [told.shows]
    exact ih (fun other inside => each other (List.mem_cons_of_mem _ inside)) _ leads

/-- A deed that is told is told as a whole. -/
theorem of_isTold {deed : Deed} (told : deed.IsTold) (ready : deed.before.Ready)
    (numbered : deed.after.partitions.Numbered) : Told deed.before [deed] deed.after := by
  have active (news : List Event) (events : EventDispatcher) :
      (news.foldl EventDispatcher.publish events).active = events.active := by
    induction news generalizing events with
    | nil => rfl
    | cons event news ih =>
      rw [List.foldl_cons, ih, EventDispatcher.publish]
      split <;> rfl
  refine ⟨⟨rfl, rfl⟩, fun other inside => ?_, ?_, numbered⟩
  · cases List.mem_singleton.mp inside
    exact told
  · change deed.after.audience.active = true
    rw [told.tells, active]
    exact ready.active

variable {deed : Deed} {event : Event}

/-- A deed with one event to tell is told by that event. -/
theorem spoken (ready : deed.before.Ready) (news : deed.news = [event])
    (tells : deed.after.audience = deed.before.audience.publish event)
    (shows : deed.before.picture.hear event = deed.after.picture)
    (counts : deed.moment.refreshes = false →
      Event.recount deed.before.partitions.count event = deed.after.partitions.count)
    (alternate : Event.Alternate deed.before.picture.handle.isSome [event])
    (honest : deed.Honest) (numbered : deed.after.partitions.Numbered) :
    Told deed.before [deed] deed.after := by
  refine of_isTold ⟨honest, ?_, ?_, ?_, ?_⟩ ready numbered
  · rw [news]
    exact tells
  · rw [news]
    exact shows
  · rw [news]
    exact counts
  · rw [news]
    exact alternate

/-- A deed that shows nothing, because it fails or there is nothing to change, is told as such. -/
theorem silent (deed : Deed) (ready : deed.before.Ready)
    (same : deed.after.shown = deed.before.shown)
    (calm : deed.failure = none → deed.change = [] ∧ deed.Accounted) :
    Told deed.before [deed] deed.after := by
  obtain ⟨audience, others⟩ := Prod.mk.inj same
  obtain ⟨picture, partitions⟩ := Prod.mk.inj others
  have nothing : deed.news = [] := by
    cases failure : deed.failure with
    | some error => exact Deed.news_of_failure failure (congrArg Picture.handle picture)
    | none =>
      exact (Deed.news_of_success failure (congrArg Picture.handle picture)).trans (calm failure).1
  refine of_isTold ⟨⟨fun _ _ => .inl nothing, fun done => (calm done).2⟩, ?_, ?_, fun _ => ?_, ?_⟩
    ready (unseen ready same).ready.numbered
  · rw [nothing]
    exact audience
  · rw [nothing]
    exact picture.symm
  · rw [nothing]
    exact congrArg PartitionSet.count partitions.symm
  · rw [nothing]
    trivial

end Told

end Consumer

end LogConsumer
