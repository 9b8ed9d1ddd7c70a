import LogConsumer.Proofs.Consumer.LoopRuns

/-!
# Waits for a consume loop

Stopping a consume loop cancels it and waits, and what the loop makes of the wait decides how the
stop goes. Here the wait is left open: the loop goes on in any way that a loop may
(`LoopProgress`), and the stop looks whether it is over by then (`Consumer.stopDuring`). A stop of
a consumer is one where the loop goes on as its poll lets it (`stopLoop_eq_during`), and so are the
two forms of a disconnect that begin with a stop.
-/
namespace LogConsumer

open Consumer

variable {site site' : Site} {α : Type}

namespace ConsumeLoop

/-- A loop that is over stays as it ended, whatever signal it gets. -/
theorem phase_of_isOver {loop : ConsumeLoop} (ended : loop.isOver = true) (signal : LoopSignal) :
    (loop.next signal).phase = loop.phase := by
  obtain ⟨settings, cancelled, phase⟩ := loop
  cases phase with
  | exited panicked => cases signal <;> rfl
  | checking | waiting | polling | backingOff => cases ended

/-- Whether a loop is over is told by its phase. -/
theorem isOver_congr {loop other : ConsumeLoop} (same : loop.phase = other.phase) :
    loop.isOver = other.isOver := by
  unfold isOver
  rw [same]

/-- A cancelled loop that is not polling is over once it has looked. -/
theorem isOver_look {loop : ConsumeLoop} (ending : loop.IsEnding) (settled : loop.inFlight = []) :
    (loop.next .look).isOver = true := by
  obtain ⟨settings, cancelled, phase⟩ := loop
  cases phase with
  | checking =>
    cases (ending : cancelled = true)
    rfl
  | polling => cases settled
  | exited => rfl
  | waiting | backingOff => exact ending.elim

end ConsumeLoop

/-- Between two sites a consume loop went on: the handle is the same one, the loop keeps its place,
and a loop that was over is as it ended. -/
structure Site.LoopGoesOn (site site' : Site) : Prop where
  /-- The connection stands as it did, with the same handle. -/
  handle : site'.life.connection = site.life.connection
  /-- The place of the loop stays taken, or empty. -/
  place : site'.consumer.loop.isSome = site.consumer.loop.isSome
  /-- A loop that is over stays as it ended. -/
  settled : ∀ loop, site.consumer.loop = some loop → loop.isOver = true →
    site'.consumer.loop.map ConsumeLoop.phase = some loop.phase

/-- A way for a consume loop to go on, with all that this does to the consumer and its cluster. -/
structure LoopProgress where
  /-- What goes on. -/
  act : StateM Site Unit
  /-- It is the loop that goes on. -/
  goesOn : ∀ site : Site, site.LoopGoesOn (act site).2

namespace Site.LoopGoesOn

/-- Nothing at all may go on. -/
theorem refl (site : Site) : site.LoopGoesOn site where
  handle := rfl
  place := rfl
  settled loop present _ := by rw [present]; rfl

/-- A loop that went on twice went on. -/
theorem trans {between : Site} (first : site.LoopGoesOn between)
    (second : between.LoopGoesOn site') : site.LoopGoesOn site' where
  handle := second.handle.trans first.handle
  place := second.place.trans first.place
  settled loop present ended := by
    obtain ⟨other, there, same⟩ := Option.map_eq_some_iff.mp (first.settled loop present ended)
    rw [← same]
    exact second.settled other there ((ConsumeLoop.isOver_congr same).trans ended)

/-- What leaves the loop alone lets it stay as it is. -/
theorem of_loop (handle : site'.life.connection = site.life.connection)
    (loop : site'.consumer.loop = site.consumer.loop) : site.LoopGoesOn site' where
  handle := handle
  place := by rw [loop]
  settled present here _ := by rw [loop, here]; rfl

end Site.LoopGoesOn

/-- An act that closes no handle leaves the connection as it stands, with the same handle. -/
theorem connection_of_act {makes : ClientCall → Prop} {resets : Prop}
    (act : Act makes resets site site') : site'.life.connection = site.life.connection := by
  cases act with
  | tidy same => rw [life_of_tidy _ _ same]
  | reset partitions subscriptionFlag may => rfl
  | told admits may => rfl
  | @reached client request admits may =>
    have fixture := ClientCall.perform_keeps_fixture request ⟨client, site.cluster⟩
    have serial : (request.perform ⟨client, site.cluster⟩).2.client.serial = client.serial :=
      congrArg Link.Fixture.serial fixture
    unfold Site.life Site.linked
    rcases admits with state | ⟨state, _⟩ <;>
      simp [state, Connection.update, Connection.numbered, serial]

/-- An action made of such acts leaves the connection as it stands, with the same handle. -/
theorem connection_of_acts {makes : ClientCall → Prop} {resets : Prop} {action : StateM Site α}
    (acts : Acts makes resets action site) :
    (action site).2.life.connection = site.life.connection :=
  (acts.mono fun _ _ => connection_of_act).whole (fun _ => rfl)
    fun _ _ _ first second => second.trans first

/-- With a signal the loop goes on. -/
theorem signalLoop_goesOn (signal : LoopSignal) (site : Site) :
    site.LoopGoesOn (signalLoop signal site).2 := by
  have handle : (signalLoop signal site).2.life.connection = site.life.connection :=
    congrArg Life.connection (life_of_books (Does.signalLoop signal site))
  cases present : site.consumer.loop with
  | none =>
    refine .of_loop handle ?_
    unfold signalLoop
    rw [run_read, present]
    exact present
  | some loop =>
    obtain ⟨next, _⟩ := Prod.mk.inj (looping_signalLoop present signal)
    refine ⟨handle, by rw [next, present]; rfl, fun other here ended => ?_⟩
    cases present.symm.trans here
    rw [next, Option.map_some, ConsumeLoop.phase_of_isOver ended]

/-- The poll of a loop that is polling ends, and then nothing is in flight. -/
theorem endLoopPoll_polling {loop : ConsumeLoop} {outcome : Outcome} {remaining : Nat}
    (present : site.consumer.loop = some loop) (polling : loop.phase = .polling outcome remaining) :
    (endLoopPoll site).2.consumer.loop = some (loop.next .pollEnded) ∧
      (loop.next .pollEnded).inFlight = [] := by
  have there : (countOutcome outcome site).2.consumer.loop = some loop := present
  have ends : endLoopPoll site = signalLoop .pollEnded (countOutcome outcome site).2 := by
    unfold endLoopPoll
    rw [run_read, present, Option.map_some, polling]
    rfl
  rw [ends]
  exact ⟨(Prod.mk.inj (looping_signalLoop there .pollEnded)).1, loop.inFlight_pollEnded⟩

/-- With the end of its poll the loop goes on. -/
theorem endLoopPoll_goesOn (site : Site) : site.LoopGoesOn (endLoopPoll site).2 :=
  (Does.endLoopPollInParts (fun signal site _ => .single (signalLoop_goesOn signal site))
    (fun _ _ => .single (.of_loop rfl rfl)) site).whole .refl fun _ _ _ => .trans

/-- With a step of its own the loop goes on. -/
theorem advanceLoop_goesOn (workerFree : Bool) (site : Site) :
    site.LoopGoesOn (advanceLoop workerFree site).2 := by
  have polls (timeout : Nat) (site : Site) :
      site.LoopGoesOn ((beginPoll timeout).run site).2 := by
    have acts : Acts (fun _ => True) False (beginPoll timeout).run site :=
      Does.beginPoll _ fun _ => trivial
    exact .of_loop (connection_of_acts acts)
      (congrArg Prod.fst (keeps_beginPoll aloof_looping timeout site))
  exact (Does.advanceLoopInParts (fun signal site _ => .single (signalLoop_goesOn signal site))
    (fun _ _ => .single (.of_loop rfl rfl)) (fun timeout site => .single (polls timeout site))
    workerFree site).whole .refl fun _ _ _ => .trans

namespace LoopProgress

/-- The loop gets a signal. -/
def signal (signal : LoopSignal) : LoopProgress :=
  ⟨signalLoop signal, signalLoop_goesOn signal⟩

/-- The poll of the loop ends. -/
def pollEnded : LoopProgress :=
  ⟨endLoopPoll, endLoopPoll_goesOn⟩

/-- The loop makes a step of its own. -/
def advance (workerFree : Bool) : LoopProgress :=
  ⟨advanceLoop workerFree, advanceLoop_goesOn workerFree⟩

/-- The loop goes on in one way, and then in another that depends on where the first one led. -/
def andThen (first : LoopProgress) (second : Site → LoopProgress) : LoopProgress where
  act := do
    first.act
    (second (← get)).act
  goesOn site := (first.goesOn site).trans ((second (first.act site).2).goesOn _)

/-- How a loop that is cancelled goes on for a time: it looks whether it is cancelled, if it is not
polling or its poll ends within that time. -/
def landing (limit : Nat) (site : Site) : LoopProgress :=
  match site.consumer.loop.map ConsumeLoop.phase with
  | some (.polling _ remaining) =>
    if limit < remaining then signal (.elapse limit)
    else pollEnded.andThen fun _ => signal .look
  | _ => signal .look

/-- How the loop of a consumer goes on while it is waited for. -/
def wait (limit : Nat) : LoopProgress :=
  (signal .cancel).andThen (landing limit)

end LoopProgress

namespace Site

/-- The site when its loop was told that it is cancelled. -/
def told (site : Site) : Site :=
  { site with consumer := { site.consumer with
      loop := site.consumer.loop.map fun loop => { loop with cancelled := true } } }

/-- The site when its loop, if it has one, was told that it is cancelled and was waited for. -/
def waited (site : Site) (progress : LoopProgress) : Site :=
  if site.consumer.loop.isNone then site else (progress.act site.told).2

/-- The site with nothing in the place of its loop. -/
def vacated (site : Site) : Site :=
  { site with consumer := { site.consumer with loop := none } }

end Site

namespace Consumer

/-- What a stop answers that has taken away a loop which is over. A loop that broke off is reported
where the caller wants to know. -/
def stopAnswer (waited : Site) (reportsPanic : Bool) : Except ConsumerError Unit :=
  if waited.consumer.loop.any ConsumeLoop.isPanicked && reportsPanic then
    .error (.internal .workerPanicked)
  else .ok ()

/-- Cancel the loop, where there is one, and wait for its end, where the loop goes on as given
meanwhile. A loop that is not over then keeps its place. -/
def stopDuring (progress : LoopProgress) (wait : Nat) (reportsPanic : Bool) : Action Unit :=
  ExceptT.mk do
    let waited := (← get).waited progress
    if waited.consumer.isLoopRunning then
      set waited
      pure (.error (.state (.loopNotStopped wait)))
    else
      set waited.vacated
      pure (stopAnswer waited reportsPanic)

/-- Close the handle once the loop was stopped, where the loop goes on as given meanwhile. -/
def disconnectDuring (progress : LoopProgress) (inside : StateM Site Unit) : Action Unit := do
  stopDuring progress (← get).consumer.config.loopStopTimeout false
  shutDown inside

/-- Stop the loop with a report if it broke off, and then close the handle as a disconnect does. -/
def disconnectTaskDuring (first second : LoopProgress) (inside : StateM Site Unit) :
    Action Unit := do
  stopDuring first (← get).consumer.config.loopStopTimeout true
  disconnectDuring second inside

end Consumer

/-- A loop that is not over when it was waited for keeps its place, and one that is over is taken
away. -/
theorem stopDuring_run (progress : LoopProgress) (wait : Nat) (reportsPanic : Bool) (site : Site) :
    let waited := site.waited progress
    (stopDuring progress wait reportsPanic).run site =
      if waited.consumer.isLoopRunning then (.error (.state (.loopNotStopped wait)), waited)
      else (stopAnswer waited reportsPanic, waited.vacated) := by
  intro waited
  change (get >>= _ : StateM Site _) site = _
  rw [run_read]
  split <;> rfl

/-- Where there is no loop there is nothing to wait for, and nothing to take away. -/
theorem waited_idle (loopless : site.consumer.loop = none) (progress : LoopProgress) :
    site.waited progress = site ∧ site.vacated = site := by
  obtain ⟨⟨config, connection, partitions, subscriptionFlag, events, metrics, loop, deliveries,
    boundary⟩, cluster⟩ := site
  cases loopless
  exact ⟨rfl, rfl⟩

/-- While a loop is waited for it goes on. -/
theorem waited_goesOn (progress : LoopProgress) (site : Site) :
    site.LoopGoesOn (site.waited progress) := by
  have told : site.LoopGoesOn site.told := by
    refine ⟨rfl, Option.isSome_map .., fun loop present ended => ?_⟩
    unfold Site.told
    dsimp only
    rw [present]
    rfl
  unfold Site.waited
  split
  · exact .refl site
  · exact told.trans (progress.goesOn site.told)

/-- A loop that was told that it is cancelled takes the signal as it would have taken it. -/
theorem signalLoop_told (site : Site) : signalLoop .cancel site.told = signalLoop .cancel site := by
  obtain ⟨⟨config, connection, partitions, subscriptionFlag, events, metrics, loop, deliveries,
    boundary⟩, cluster⟩ := site
  cases loop with
  | none => rfl
  | some loop =>
    obtain ⟨settings, cancelled, phase⟩ := loop
    cases phase <;> rfl

/-- A loop that begins no further poll and is not polling looks whether it is cancelled before it is
taken away, and is over then. -/
theorem clearLoop_run {loop : ConsumeLoop} (present : site.consumer.loop = some loop)
    (ending : loop.IsEnding) (idle : loop.inFlight = []) (wait : Nat) (reportsPanic : Bool) :
    let looked := (signalLoop .look site).2
    (clearLoop reportsPanic).run site =
      if looked.consumer.isLoopRunning then (.error (.state (.loopNotStopped wait)), looked)
      else (stopAnswer looked reportsPanic, looked.vacated) := by
  intro looked
  have ended : looked.consumer.isLoopRunning = false := by
    obtain ⟨next, _⟩ := Prod.mk.inj (looping_signalLoop present .look)
    unfold isLoopRunning
    rw [next, Option.any_some, ConsumeLoop.isOver_look ending idle]
    rfl
  unfold clearLoop stopAnswer
  rw [if_neg (by simp [ended]), run_lift, run_get]
  dsimp only
  rw [run_lift]
  split <;> rfl

/-- A stop of a consumer is one during which its loop goes on as its poll lets it. -/
theorem stopLoop_eq_during (wait : Nat) (reportsPanic : Bool) (site : Site) :
    (stopLoop wait reportsPanic).run site =
      (stopDuring (.wait wait) wait reportsPanic).run site := by
  rw [stopDuring_run]
  cases present : site.consumer.loop with
  | none =>
    obtain ⟨still, whole⟩ := waited_idle present (.wait wait)
    have settled : site.consumer.isLoopRunning = false := by
      rw [isLoopRunning, present]
      rfl
    rw [stopLoop_idle present, still, if_neg (by simp [settled]), whole, stopAnswer, present]
    rfl
  | some loop =>
    have waited : site.waited (.wait wait) =
        ((LoopProgress.landing wait (signalLoop .cancel site).2).act
          (signalLoop .cancel site).2).2 := by
      rw [← signalLoop_told site, Site.waited, present]
      rfl
    obtain ⟨there, _⟩ := Prod.mk.inj (looping_signalLoop present .cancel)
    have ending := loop.isEnding_cancel
    unfold stopLoop LoopProgress.landing at *
    rw [waited, run_get, present]
    dsimp only
    rw [run_lift, run_get]
    generalize (signalLoop .cancel site).2 = cancelled at there ⊢
    generalize loop.next .cancel = last at there ending
    obtain ⟨settings, flag, phase⟩ := last
    rw [there, Option.map_some]
    cases phase with
    | checking | exited => exact clearLoop_run there ending rfl wait reportsPanic
    | waiting | backingOff => exact ending.elim
    | polling outcome remaining =>
      by_cases late : wait < remaining
      · have running : (signalLoop (.elapse wait) cancelled).2.consumer.isLoopRunning = true := by
          obtain ⟨next, _⟩ := Prod.mk.inj (looping_signalLoop there (.elapse wait))
          unfold isLoopRunning
          rw [next]
          rfl
        simp only [if_pos late, LoopProgress.signal, running]
        rfl
      · obtain ⟨ended, idle⟩ := endLoopPoll_polling there rfl
        simp only [if_neg late]
        exact clearLoop_run ended (ending.next .pollEnded) idle wait reportsPanic

/-- A disconnect is one during which the loop goes on as its poll lets it. -/
theorem disconnect_eq_during (inside : StateM Site Unit) (site : Site) :
    (Consumer.disconnect inside).run site =
      (disconnectDuring (.wait site.consumer.config.loopStopTimeout) inside).run site := by
  rw [disconnect_eq, disconnectDuring, run_get, run_get, ExceptT.run_bind, ExceptT.run_bind,
    run_then, run_then, stopLoop_eq_during]

/-- A disconnect that is dispatched is one during which the loop goes on as its poll lets it, twice
if it is still to be stopped when the handle is to be closed. -/
theorem disconnectTask_eq_during (site : Site) : ∃ first second,
    (Task.perform .disconnect).run site =
      (do disconnectTaskDuring first second runCloseScript; pure Reply.done : Action Reply).run
        site := by
  let wait := site.consumer.config.loopStopTimeout
  let stopped := ((stopLoop wait true).run site).2
  refine ⟨.wait wait, .wait stopped.consumer.config.loopStopTimeout, ?_⟩
  have stops : (stopLoop wait true).run site = (stopDuring (.wait wait) wait true).run site :=
    stopLoop_eq_during wait true site
  have performs : Operation.disconnect.run.run stopped = _ :=
    run_map (Consumer.disconnect runCloseScript) (fun _ => Reply.done) stopped
  have perform : (Task.perform .disconnect).run site =
      (do stopLoop wait true; Operation.disconnect.run : Action Reply).run site := rfl
  rw [perform, run_map, disconnectTaskDuring, run_get]
  cases ran : (stopLoop wait true).run site with
  | mk outcome final =>
    have same : stopped = final := congrArg Prod.snd ran
    cases outcome with
    | error error =>
      rw [run_bind_error ran, run_bind_error (stops ▸ ran)]
      rfl
    | ok _ =>
      rw [run_bind_ok ran, run_bind_ok (stops ▸ ran), ← same, performs, disconnect_eq_during]

end LogConsumer
