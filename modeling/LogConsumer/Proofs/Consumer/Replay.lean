import LogConsumer.Proofs.Consumer.Agreement
import LogConsumer.Proofs.Consumer.Course
import LogConsumer.Proofs.Consumer.LoopEnds

/-!
# Replaying the events

Whatever happens at a consumer is told to who listens from the start (`course_told`), what runs from
inside a close as well, so a listener that is never told that it fell behind can replay the events:
handles come and go in turn, and the picture that the events give is that of the consumer. The main
result is `stream_replays`.
-/
namespace LogConsumer

open Consumer

variable {site site' : Site}

/-- None of the deeds silences the dispatcher. -/
def Heard (deeds : List Deed) : Prop :=
  ∀ deed ∈ deeds, deed.moment.silences = false

/-- Whatever happens but a disconnect is told, unless the dispatcher is silenced. -/
theorem moment_told (moment : Moment) (inside : StateM Site Unit)
    (closes : moment ≠ .operate .disconnect) (heard : moment.silences = false)
    (ready : site.consumer.Ready) :
    Told site.consumer [moment.deed inside site] (moment.perform inside site).2.consumer := by
  cases moment with
  | operate operation =>
    refine operation_told inside ?_ ?_ ready
    · rintro rfl
      exact closes rfl
    · rintro rfl
      cases heard
  | startLoop timeout sleepDelay => exact startLoop_told timeout sleepDelay inside ready
  | advanceLoop workerFree => exact advanceLoop_told workerFree inside ready
  | stopLoop wait reportsPanic => exact stopLoop_told wait reportsPanic inside ready
  | surroundings boundary others created =>
    exact Told.silent (Moment.deed inside site (.surroundings boundary others created)) ready rfl
      fun _ => ⟨rfl, trivial⟩

/-- While the handle is being closed every moment is told, for a disconnect does nothing then. -/
theorem moment_told_inside (moment : Moment) (shutting : site.Shutting)
    (heard : moment.silences = false) (ready : site.consumer.Ready) :
    Told site.consumer [moment.deed (pure ()) site] (moment.perform (pure ()) site).2.consumer := by
  by_cases closes : moment = .operate .disconnect
  · subst closes
    have still : (Operation.disconnect.perform (pure ())).run site = (.ok .done, site) :=
      run_bind_ok (disconnect_idle shutting.not_connected shutting.loopless (pure ()))
    have same : ((Moment.operate .disconnect).perform (pure ()) site).2 = site :=
      congrArg Prod.snd still
    rw [deed_operate still, same]
    exact Told.silent ⟨.operate .disconnect, site.consumer, none, site.consumer⟩ ready rfl
      fun _ => ⟨rfl, trivial⟩
  · exact moment_told moment (pure ()) closes heard ready

/-- What is told step by step is told as a whole, where every step leads to where the next one is
told. -/
theorem told_collected {item : Type} {next : Site → item → Site} {deeds : Site → item → List Deed}
    (holds : Site → Prop)
    (each : ∀ (site : Site) (one : item), holds site →
      holds (next site one) ∧ (Heard (deeds site one) → site.consumer.Ready →
        Told site.consumer (deeds site one) (next site one).consumer))
    (items : List item) (held : holds site) (heard : Heard (collected next deeds site items))
    (ready : site.consumer.Ready) :
    Told site.consumer (collected next deeds site items) (items.foldl next site).consumer := by
  refine (related_collected deeds holds (fun site deeds site' => Heard deeds → site.consumer.Ready →
    Told site.consumer deeds site'.consumer) (fun _ _ ready => Told.unseen ready rfl)
    (fun before after heard ready => ?_) each held items).2 heard ready
  have first := before (fun deed here => heard deed (List.mem_append_left _ here)) ready
  exact first.trans
    (after (fun deed later => heard deed (List.mem_append_right _ later)) first.ready)

/-- What runs from inside a close is told. -/
theorem inside_told (inside : Inside) (shutting : site.Shutting)
    (heard : Heard (inside.deeds site)) (ready : site.consumer.Ready) :
    Told site.consumer (inside.deeds site) (inside.perform site).2.consumer := by
  cases inside with
  | script =>
    have whole : (Inside.script.perform site).2 = _ :=
      run_forM Operation.runInsideClose site.consumer.boundary.closeScript site
    rw [whole]
    refine told_collected Site.Shutting (fun site operation shutting => ?_) _ shutting heard ready
    have still := (operate_shuts operation shutting).1
    refine ⟨⟨still.closing, still.loopless⟩, fun heard ready => ?_⟩
    have told := moment_told_inside (.operate operation) shutting (heard _ List.mem_cons_self) ready
    -- The report of what it answered is nothing that events are about.
    exact told.trans (Told.unseen told.ready rfl)
  | course moments =>
    have whole : ((Inside.course moments).perform site).2 = _ :=
      run_forM (Moment.perform (pure ())) moments site
    rw [whole]
    refine told_collected Site.Shutting (fun site moment shutting => ?_) moments shutting heard
      ready
    exact ⟨(moment_shuts moment shutting).1, fun heard ready =>
      moment_told_inside moment shutting (heard _ List.mem_cons_self) ready⟩

/-- Letting the handle go is told, with the error of its close if that failed. -/
theorem released_told {client : Client} (closing : site.consumer.connection = .closing client)
    (cluster : Cluster) (failure : Option ClientError) (ready : site.consumer.Ready) :
    let final := site.released cluster failure
    Told site.consumer
      [⟨.operate .disconnect, site.consumer, failure.map .protocol, final.consumer⟩]
      final.consumer := by
  intro final
  let deed : Deed :=
    ⟨.operate .disconnect, site.consumer, failure.map .protocol, final.consumer⟩
  change Told deed.before [deed] deed.after
  have there : deed.before.connection.handle? = some client := congrArg Connection.handle? closing
  have named : (failure.map ConsumerError.protocol).bind ConsumerError.client? = failure := by
    cases failure <;> rfl
  have news : deed.news = [.disconnected (failure.map ClientError.message)] := by
    have turn : deed.turn =
        [.disconnected ((deed.failure.bind ConsumerError.client?).map ClientError.message)] := by
      rw [Deed.turn, there]
      rfl
    rw [Deed.news, turn, named]
    exact congrArg _ (ite_self _)
  refine .spoken ready news (audience_publish _ _) rfl (fun _ => rfl) ?_ ?_ ready.numbered
  · rw [Consumer.picture, there]
    exact ⟨rfl, trivial⟩
  · refine ⟨fun error failed => .inr ⟨rfl, ?_⟩, fun _ => trivial⟩
    cases failure with
    | none => cases failed
    | some cause =>
      cases failed
      exact ⟨cause, rfl, news⟩

/-- Letting the handle go fails with the error of its close, if that fails. -/
theorem letGo_releases (client : Client) {present : Client}
    (closing : site.consumer.connection = .closing present) :
    ∃ (cluster : Cluster) (failure : Option ClientError) (answer : Except ConsumerError Unit),
      (letGo client).run site = (answer, site.released cluster failure) ∧
        failureOf answer = failure.map .protocol := by
  rw [letGo_run closing]
  cases (Client.close.run ⟨present, site.cluster⟩).1 with
  | ok _ => exact ⟨_, none, _, rfl, rfl⟩
  | error error => exact ⟨_, some error, _, rfl, rfl⟩

/-- A disconnect as a deed. -/
theorem deed_disconnect {inside : StateM Site Unit} {outcome : Except ConsumerError Unit}
    (ran : (Consumer.disconnect inside).run site = (outcome, site')) :
    (Moment.operate .disconnect).deed inside site =
      ⟨.operate .disconnect, site.consumer, failureOf outcome, site'.consumer⟩ := by
  have whole : (Operation.disconnect.perform inside).run site = _ :=
    run_map (Consumer.disconnect inside) (fun _ => Reply.done) site
  rw [ran] at whole
  rw [deed_operate whole]
  cases outcome <;> rfl

/-- The close of an open handle that no consume loop uses is told: what runs from inside it, and
that the handle is let go. -/
theorem shutDown_told {client : Client} (opened : site.consumer.connection = .connected client)
    (loopless : site.consumer.loop = none) (inside : Inside) {answer : Except ConsumerError Unit}
    (ran : (letGo client).run (inside.perform (site.shutting client)).2 = (answer, site'))
    (heard : Heard (inside.deeds (site.shutting client))) (ready : site.consumer.Ready) :
    Told site.consumer (inside.deeds (site.shutting client) ++
      [⟨.operate .disconnect, (inside.perform (site.shutting client)).2.consumer, failureOf answer,
        site'.consumer⟩]) site'.consumer := by
  have begins : (site.shutting client).Shutting := ⟨rfl, loopless⟩
  have begun : Told site.consumer [] (site.shutting client).consumer := by
    refine Told.unseen ready ?_
    have handle : site.consumer.connection.handle? = some client :=
      congrArg Connection.handle? opened
    unfold shown picture
    rw [handle]
    rfl
  have within := inside_told inside begins heard begun.ready
  obtain ⟨present, closing⟩ := (inside_shuts inside begins).1.exists_handle
  obtain ⟨cluster, cause, outcome, released, failed⟩ := letGo_releases client closing
  cases ran.symm.trans released
  rw [failed]
  exact begun.trans (within.trans (released_told closing cluster cause within.ready))

/-- What is done by a disconnect is read off its stop of the loop. -/
theorem deeds_disconnect (inside : Inside) {outcome : Except ConsumerError Unit} {stopped : Site}
    (ran : (stopLoop site.consumer.config.loopStopTimeout false).run site = (outcome, stopped)) :
    Occurrence.deeds site (.operate .disconnect, inside) =
      (Moment.stopLoop site.consumer.config.loopStopTimeout false).deed (pure ()) site ::
        match failureOf outcome, stopped.consumer.connection with
        | none, .connected client =>
          inside.deeds (stopped.shutting client) ++
            [{ (Moment.operate .disconnect).deed inside.perform site with
              before := (inside.perform (stopped.shutting client)).2.consumer }]
        | _, _ => [{ (Moment.operate .disconnect).deed inside.perform site with
            before := stopped.consumer }] := by
  have failure : failureOf outcome =
      (Moment.stopLoop site.consumer.config.loopStopTimeout false).failure (pure ()) site :=
    congrArg (fun ran : Except ConsumerError Unit × Site => failureOf ran.1) ran.symm
  have after : stopped =
      ((Moment.stopLoop site.consumer.config.loopStopTimeout false).perform (pure ()) site).2 :=
    congrArg Prod.snd ran.symm
  rw [failure, after]
  rfl

/-- A disconnect is told deed by deed: the loop is stopped, what runs from inside the close runs,
and the handle is let go. -/
theorem disconnect_told (inside : Inside)
    (heard : Heard (Occurrence.deeds site (.operate .disconnect, inside)))
    (ready : site.consumer.Ready) :
    Told site.consumer (Occurrence.deeds site (.operate .disconnect, inside))
      (Occurrence.next site (.operate .disconnect, inside)).consumer := by
  have stops := stopLoop_told site.consumer.config.loopStopTimeout false (pure ()) ready
  have loopless := (stopLoop_accounts site.consumer.config.loopStopTimeout false site).2
  have next : Occurrence.next site (.operate .disconnect, inside) =
      ((Consumer.disconnect inside.perform).run site).2 := operate_disconnect inside.perform site
  have unfolded : (Consumer.disconnect inside.perform).run site = (do
      stopLoop site.consumer.config.loopStopTimeout false
      shutDown inside.perform : Action Unit).run site := by
    rw [disconnect_eq, run_get]
  cases ran : (stopLoop site.consumer.config.loopStopTimeout false).run site with
  | mk outcome stopped =>
    have after : ((Moment.stopLoop site.consumer.config.loopStopTimeout false).perform (pure ())
        site).2 = stopped := congrArg Prod.snd ran
    rw [after] at stops
    rw [ran] at loopless
    have idle {answer : Except ConsumerError Unit}
        (done : (Consumer.disconnect inside.perform).run site = (answer, stopped)) :
        Told site.consumer
          [(Moment.stopLoop site.consumer.config.loopStopTimeout false).deed (pure ()) site,
            { (Moment.operate .disconnect).deed inside.perform site with
              before := stopped.consumer }]
          ((Consumer.disconnect inside.perform).run site).2.consumer := by
      rw [done, deed_disconnect done]
      exact stops.trans (Told.silent ⟨.operate .disconnect, stopped.consumer, _, stopped.consumer⟩
        stops.ready rfl fun _ => ⟨rfl, trivial⟩)
    rw [next]
    rw [deeds_disconnect inside ran] at heard ⊢
    cases outcome with
    | error error => exact idle (unfolded.trans (run_bind_error ran))
    | ok _ =>
      rw [run_bind_ok ran] at unfolded
      obtain ⟨unconnected, done⟩ | ⟨client, opened, done⟩ := shutDown_cases inside.perform stopped
      · have told := idle (unfolded.trans done)
        cases state : stopped.consumer.connection with
        | connected client =>
          rw [state] at unconnected
          cases unconnected
        | disconnected | closing client => exact told
      · have whole := unfolded.trans done
        cases final : (letGo client).run (inside.perform (stopped.shutting client)).2 with
        | mk answer released =>
          rw [final] at whole
          rw [opened] at heard ⊢
          rw [whole, deed_disconnect whole]
          have heardInside : Heard (inside.deeds (stopped.shutting client)) := fun deed there =>
            heard deed (List.mem_cons_of_mem _ (List.mem_append_left _ there))
          exact stops.trans
            (shutDown_told opened (loopless rfl) inside final heardInside stops.ready)

/-- Whatever happens is told, unless the dispatcher is silenced. -/
theorem occurrence_told (occurrence : Occurrence) (heard : Heard (Occurrence.deeds site occurrence))
    (ready : site.consumer.Ready) :
    Told site.consumer (Occurrence.deeds site occurrence) (occurrence.next site).consumer := by
  obtain ⟨moment, inside⟩ := occurrence
  by_cases closes : moment = .operate .disconnect
  · subst closes
    exact disconnect_told inside heard ready
  · have alone : Occurrence.deeds site (moment, inside) = [moment.deed inside.perform site] := by
      unfold Occurrence.deeds
      split
      · rename_i same
        exact absurd (congrArg Prod.fst same) closes
      · rename_i same
        cases same
        rfl
    rw [alone] at heard ⊢
    exact moment_told moment inside.perform closes (heard _ List.mem_cons_self) ready

/-- What is done over a course, in order. -/
def deeds (site : Site) (occurrences : List Occurrence) : List Deed :=
  collected Occurrence.next Occurrence.deeds site occurrences

/-- What is new over a course, in order. -/
def news (site : Site) (occurrences : List Occurrence) : List Event :=
  (deeds site occurrences).flatMap Deed.news

/-- A course is told, unless the dispatcher is silenced. -/
theorem course_told (occurrences : List Occurrence) (heard : Heard (deeds site occurrences))
    (ready : site.consumer.Ready) :
    Told site.consumer (deeds site occurrences) (course site occurrences).consumer :=
  told_collected (fun _ => True)
    (fun _ occurrence _ => ⟨trivial, occurrence_told occurrence⟩) occurrences trivial heard ready

namespace Consumer

/-- The consumer with an active dispatcher and a listener that was there from the start. -/
def attended (consumer : Consumer) : Consumer :=
  { consumer with events := { consumer.events.listen.2 with active := true } }

/-- What shows in the events, with the handle and the subscription as the consumer tells of them
between its operations. -/
def outline (consumer : Consumer) : Picture :=
  { handle := consumer.connection.connected?.map Client.name
    subscribed := consumer.isSubscribed
    looping := consumer.isLoopRunning }

/-- Between two operations no handle is being closed, so what shows is what the consumer tells. -/
theorem picture_eq_outline (settled : site.IsSettled) (agrees : site.Agrees) :
    site.consumer.picture = site.consumer.outline := by
  unfold picture outline isSubscribed
  cases state : site.consumer.connection with
  | disconnected =>
    rw [agrees.vacant state]
    rfl
  | connected client => rfl
  | closing client =>
    have closing : site.life.connection = .closing client.serial := by
      unfold Site.life
      rw [state]
      rfl
    exact absurd closing (settled client.serial)

end Consumer

/-- What a listener that was there from the start can make of the events of a course. -/
structure Site.Replays (site : Site) (occurrences : List Occurrence) : Prop where
  /-- However its reading falls between the events, it reads what is new over the course, all of it
  and in order, if it is never told that it fell behind. Nothing else was sent. -/
  hears : ∀ schedule : List Listening,
    schedule.filterMap Listening.event? = news site occurrences →
    (schedule.foldl (Listening.next 0) site.consumer.events).channel =
      (course site occurrences).consumer.events.channel ∧
    ((∀ missed, .lagged missed ∉ Listening.heard 0 site.consumer.events schedule) →
      Listening.heard 0 site.consumer.events schedule = (news site occurrences).map .value)
  /-- What is new is told deed by deed, and the deeds lead from the start to the end. -/
  told : Told site.consumer (deeds site occurrences) (course site occurrences).consumer
  /-- Handles come and go in turn, and the first thing is that one comes. -/
  alternate : Event.Alternate false (news site occurrences)
  /-- The picture that the events give is that of the consumer. -/
  picture : (news site occurrences).foldl .hear {} = (course site occurrences).consumer.outline
  /-- So is the number of partitions assigned, unless the client's assignment is taken over. -/
  count : (∀ deed ∈ deeds site occurrences, deed.moment.refreshes = false) →
    (news site occurrences).foldl Event.recount 0 =
      (course site occurrences).consumer.partitions.count

/-- The events replay what becomes of a consumer: over every course of a consumer that was just
built, whatever the boundary and the cluster script and whatever runs from inside its closes, a
listener that was there from the start and never falls behind hears of each deed what is new in it
and nothing else. -/
theorem stream_replays {setup : Setup} {consumer : Consumer} (built : setup.build = .ok consumer)
    (boundary : Boundary) (cluster : Cluster) (occurrences : List Occurrence) :
    let start : Site := { consumer := { consumer.attended with boundary }, cluster }
    Heard (deeds start occurrences) → start.Replays occurrences := by
  intro start heard
  obtain ⟨config, factory, rfl⟩ := Setup.eq_of_build built
  have ready : start.consumer.Ready := ⟨rfl, rfl⟩
  have passes : start.consumer.events.Passes := ⟨rfl, rfl⟩
  have follows : Listening.Follows start.consumer.events 0 [] 0 :=
    ⟨passes, rfl, ⟨rfl, List.suffix_rfl⟩, Nat.le_refl 0⟩
  have settled : start.IsSettled := fun handle => nofun
  have agrees : start.Agrees := ⟨fun _ => rfl, nofun⟩
  have told := course_told occurrences heard ready
  refine ⟨fun schedule published => ⟨?_, fun unlagged => ?_⟩, told, told.alternate, ?_, told.counts⟩
  · have sent := (show start.consumer.audience.Passes from ⟨rfl, rfl⟩).publishAll
      (news start occurrences)
    have same := congrArg EventDispatcher.channel (told.tells.trans sent)
    rw [Listening.channel_next passes, published]
    exact same.symm
  · rw [Listening.hears follows schedule unlagged, published]
  · rw [← picture_eq_outline (course_continues settled occurrences).2
      (course_agreeing occurrences start agrees)]
    exact told.shows

/-- A close fails after partitions were dropped from inside it, and the loop was stopped before. A
listener that reads in between hears all of it, and knows the second handle and the partition that
is left. -/
theorem stream_replays_failing :
    let tp (number : Int) : TopicPartition := { topic := "log", partition := number }
    let setup : Setup := { factory := some {} }
    let boundary : Boundary :=
      { closeScript := [.incrementalUnassign [tp 0, tp 7], .assign [tp 2], .disconnect] }
    let cluster := Cluster.failNext {} .close (.ofCode .fail)
    let occurrences : List Occurrence := [(.operate .connect, .script),
      (.operate (.assign [tp 0, tp 1]), .script), (.operate (.subscribe ["log"]), .script),
      (.startLoop none none, .script), (.operate .disconnect, .script),
      (.operate .connect, .script)]
    let said : List Event := [.connected "rustmq-consumer-#consumer-1", .assigned 2,
      .subscribed ["log"], .consumeLoopStarted, .consumeLoopStopped, .incrementalUnassigned 1 1,
      .disconnected (some "Local: Failed"), .connected "rustmq-consumer-#consumer-2"]
    let schedule : List Listening := (said.take 3).map .published ++ .reads (some 2) ::
      (said.drop 3).map .published
    ∃ consumer, setup.build = .ok consumer ∧
      let start : Site := { consumer := { consumer.attended with boundary }, cluster }
      Heard (deeds start occurrences) ∧
      Listening.heard 0 start.consumer.events schedule = said.map .value ∧
      Event.Alternate false said ∧
      said.foldl Picture.hear {} = (course start occurrences).consumer.outline ∧
      said.foldl Event.recount 0 = (course start occurrences).consumer.partitions.count := by
  intro tp setup boundary cluster occurrences said schedule
  have built : setup.build = .ok { config := {}, boundary := { factory := {} } } := rfl
  refine ⟨_, built, ?_⟩
  intro start
  have heard : Heard (deeds start occurrences) := by
    unfold Heard
    decide +kernel
  have replays : start.Replays occurrences :=
    stream_replays built boundary cluster occurrences heard
  have told : news start occurrences = said := by decide +kernel
  have kept : ∀ deed ∈ deeds start occurrences, deed.moment.refreshes = false := by decide +kernel
  have whole : schedule.filterMap Listening.event? = news start occurrences := by rw [told]; rfl
  have unlagged : ∀ missed, .lagged missed ∉ Listening.heard 0 start.consumer.events schedule := by
    intro missed inside
    have values : (Listening.heard 0 start.consumer.events schedule).all
        (fun | .value _ => true | .lagged _ => false) = true := by decide +kernel
    cases List.all_eq_true.mp values _ inside
  obtain ⟨hears, _, alternate, picture, count⟩ := replays
  rw [told] at hears alternate picture count
  exact ⟨heard, (hears schedule (whole.trans told)).2 unlagged, alternate, picture, count kept⟩

end LogConsumer
