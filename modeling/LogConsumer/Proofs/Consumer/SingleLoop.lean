import LogConsumer.Proofs.Consumer.Waits

/-!
# One consume loop at a time

A consumer with all the consume loops that it ever had (`Fleet`): the one in its place, and those
that have left it, which may still get signals. Whatever loops are started, go on, are stopped or
waited for in vain, and however the consumer is disconnected, every loop that has left its place is
over (`Fleet.Settled`), so there is at most one that is not. The main result is
`consumeLoops_exclusive`.
-/
namespace LogConsumer

open Consumer

variable {site site' : Site}

/-- A consumer with the consume loops that have left their place, as they are now. -/
structure Fleet where
  /-- The consumer, with the loop in its place, on its cluster. -/
  site : Site
  /-- The loops that have left their place, in the order in which they left it. -/
  departed : List ConsumeLoop := []

/-- What can happen to the consume loops of a consumer. -/
inductive LoopEvent where
  /-- A loop is started. -/
  | start (timeout sleepDelay : Option Nat)
  /-- The loop goes on, and is over then or not. -/
  | goesOn (progress : LoopProgress)
  /-- The loop is stopped, and goes on while it is waited for. -/
  | stop (progress : LoopProgress) (wait : Nat) (reportsPanic : Bool)
  /-- The consumer is disconnected; the loop goes on while it is waited for, and something runs from
  inside the close. -/
  | disconnect (progress : LoopProgress) (inside : Inside)
  /-- The consumer is disconnected by a task, which stops the loop before it disconnects. -/
  | disconnectTask (first second : LoopProgress) (inside : Inside)
  /-- Another operation is performed. -/
  | operate (operation : Operation) (apart : operation ≠ .disconnect)
  /-- The surroundings of the consumer change. -/
  | surroundings (boundary : Boundary) (others : Cluster) (created : Nat)
  /-- A loop that has left its place gets a signal. -/
  | signalDeparted (index : Nat) (signal : LoopSignal)

/-- The loop that leaves its place when it was waited for: it is the one there, if it is over. -/
def Site.leaving (site : Site) (progress : LoopProgress) : List ConsumeLoop :=
  if (site.waited progress).consumer.isLoopRunning then []
  else (site.waited progress).consumer.loop.toList

namespace Fleet

/-- All the loops. -/
def loops (fleet : Fleet) : List ConsumeLoop :=
  fleet.departed ++ fleet.site.consumer.loop.toList

/-- The loops that are not over. -/
def unfinished (fleet : Fleet) : List ConsumeLoop :=
  fleet.loops.filter fun loop => !loop.isOver

/-- The consumer and its loops after an event. -/
def next (fleet : Fleet) : LoopEvent → Fleet
  | .start timeout sleepDelay =>
    let started := (consumeLoop timeout sleepDelay).run fleet.site
    { site := started.2
      departed := fleet.departed ++
        if started.1.toBool then fleet.site.consumer.loop.toList else [] }
  | .goesOn progress => { fleet with site := (progress.act fleet.site).2 }
  | .stop progress wait reportsPanic =>
    { site := ((stopDuring progress wait reportsPanic).run fleet.site).2
      departed := fleet.departed ++ fleet.site.leaving progress }
  | .disconnect progress inside =>
    { site := ((disconnectDuring progress inside.perform).run fleet.site).2
      departed := fleet.departed ++ fleet.site.leaving progress }
  | .disconnectTask first second inside =>
    let wait := fleet.site.consumer.config.loopStopTimeout
    let stopped := (stopDuring first wait true).run fleet.site
    { site := ((disconnectTaskDuring first second inside.perform).run fleet.site).2
      departed := fleet.departed ++ fleet.site.leaving first ++
        if stopped.1.toBool then stopped.2.leaving second else [] }
  | .operate operation _ => { fleet with site := ((operation.perform (pure ())).run fleet.site).2 }
  | .surroundings boundary others created =>
    { fleet with site := Moment.surround boundary others created fleet.site }
  | .signalDeparted index signal =>
    { fleet with departed := fleet.departed.modify index fun loop => loop.next signal }

/-- The consumer and its loops after a list of events. -/
def run (fleet : Fleet) (events : List LoopEvent) : Fleet :=
  events.foldl next fleet

/-- The loop that an event starts, if it starts one. -/
def started (fleet : Fleet) : LoopEvent → List ConsumeLoop
  | .start timeout sleepDelay =>
    let started := (consumeLoop timeout sleepDelay).run fleet.site
    if started.1.toBool then started.2.consumer.loop.toList else []
  | _ => []

/-- Every loop that has left its place is over. -/
def Settled (fleet : Fleet) : Prop :=
  ∀ loop ∈ fleet.departed, loop.isOver = true

end Fleet

/-- How starting a loop goes. -/
structure Site.StartsAlone (site : Site) (timeout sleepDelay : Option Nat) : Prop where
  /-- It succeeds if the consumer is connected and no loop is running, and only then. -/
  succeeds : ((consumeLoop timeout sleepDelay).run site).1 = .ok () ↔
    site.consumer.connection.isConnected = true ∧ site.consumer.isLoopRunning = false
  /-- A loop that is started is a new one. -/
  fresh : ((consumeLoop timeout sleepDelay).run site).1 = .ok () → ∃ settings,
    ((consumeLoop timeout sleepDelay).run site).2.consumer.loop = some { settings }
  /-- If it is refused, nothing changes. -/
  refused : ((consumeLoop timeout sleepDelay).run site).1 ≠ .ok () →
    ((consumeLoop timeout sleepDelay).run site).2 = site

/-- The site with a new loop in its place. -/
def Site.looped (site : Site) (settings : LoopSettings) : Site :=
  { site with consumer := { site.consumer with
      loop := some { settings }
      deliveries := []
      events := site.consumer.events.publish .consumeLoopStarted } }

/-- Starting a loop is refused without a change where the consumer is not connected or a loop is
running; else a new loop takes the place. -/
theorem consumeLoop_run (timeout sleepDelay : Option Nat) (site : Site) :
    ∃ settings, (consumeLoop timeout sleepDelay).run site =
      if !site.consumer.connection.isConnected then (.error .notConnected, site)
      else if site.consumer.isLoopRunning then (.error (.state .loopOccupied), site)
      else (.ok (), site.looped settings) := by
  let settings : LoopSettings :=
    { timeout :=
        site.consumer.config.clampTimeout (timeout.getD site.consumer.config.consumeTimeout)
      sleepDelay := sleepDelay.getD site.consumer.config.loopSleepDelay }
  refine ⟨settings, ?_⟩
  unfold consumeLoop
  rw [run_get]
  dsimp only
  cases site.consumer.connection.isConnected with
  | false => rfl
  | true =>
    rw [Bool.not_true, if_neg Bool.false_ne_true, if_neg Bool.false_ne_true]
    unfold startLoop
    rw [bind_assoc, run_get]
    cases site.consumer.isLoopRunning with
    | true => rfl
    | false => rfl

/-- Starting a loop succeeds where the consumer is connected and none is running, and is refused
without a change elsewhere. -/
theorem starts_alone (timeout sleepDelay : Option Nat) (site : Site) :
    site.StartsAlone timeout sleepDelay := by
  obtain ⟨settings, ran⟩ := consumeLoop_run timeout sleepDelay site
  constructor <;> rw [ran] <;> cases site.consumer.connection.isConnected <;>
    cases site.consumer.isLoopRunning <;> simp [Site.looped]

/-- A stop fails for the state where the loop is not over when it was waited for. -/
theorem stopDuring_late {progress : LoopProgress}
    (running : (site.waited progress).consumer.isLoopRunning = true) (wait : Nat)
    (reportsPanic : Bool) : (stopDuring progress wait reportsPanic).run site =
      (.error (.state (.loopNotStopped wait)), site.waited progress) := by
  rw [stopDuring_run]
  exact if_pos running

/-- A stop takes a loop away that is over when it was waited for. -/
theorem stopDuring_settled {progress : LoopProgress}
    (settled : (site.waited progress).consumer.isLoopRunning = false) (wait : Nat)
    (reportsPanic : Bool) : (stopDuring progress wait reportsPanic).run site =
      (stopAnswer (site.waited progress) reportsPanic, (site.waited progress).vacated) := by
  rw [stopDuring_run]
  exact if_neg (by simp [settled])

/-- A stop that does not report whether the loop broke off answers nothing else. -/
theorem stopAnswer_silent (waited : Site) : stopAnswer waited false = .ok () := by
  unfold stopAnswer
  rw [Bool.and_false]
  rfl

/-- The three ways a disconnect goes: the loop is not over in time, and keeps its place; no handle
is open; or the open handle is closed, with nothing in the place of the loop. -/
theorem disconnectDuring_cases (progress : LoopProgress) (inside : StateM Site Unit)
    (site : Site) :
    let waited := site.waited progress
    let ran := (disconnectDuring progress inside).run site
    (waited.consumer.isLoopRunning = true ∧
      ran = (.error (.state (.loopNotStopped site.consumer.config.loopStopTimeout)), waited)) ∨
    (waited.consumer.isLoopRunning = false ∧ waited.consumer.connection.isConnected = false ∧
      ran = (.ok (), waited.vacated)) ∨
    (waited.consumer.isLoopRunning = false ∧
      ∃ client, waited.consumer.connection = .connected client ∧
        ran = (letGo client).run (inside (waited.begun client)).2) := by
  intro waited ran
  have unfolded : ran = (do
      stopDuring progress site.consumer.config.loopStopTimeout false
      shutDown inside : Action Unit).run site := rfl
  rw [unfolded]
  cases running : waited.consumer.isLoopRunning with
  | true => exact .inl ⟨rfl, run_bind_error (stopDuring_late running _ _)⟩
  | false =>
    have stops := stopDuring_settled running site.consumer.config.loopStopTimeout false
    rw [stopAnswer_silent] at stops
    rw [run_bind_ok stops]
    obtain ⟨unconnected, done⟩ | ⟨client, opened, done⟩ := shutDown_cases inside waited.vacated
    · exact .inr (.inl ⟨rfl, unconnected, done⟩)
    · exact .inr (.inr ⟨rfl, client, opened, done⟩)

/-- What a timeout leaves: a stop and the disconnects built on it fail for the state of the loop,
which is still in its place and not over, and the connection stands as it did. -/
structure Site.KeepsLoop (site : Site) (progress : LoopProgress) : Prop where
  /-- A stop fails for the state. -/
  stop : ∀ wait reportsPanic, (stopDuring progress wait reportsPanic).run site =
    (.error (.state (.loopNotStopped wait)), site.waited progress)
  /-- A disconnect fails for the state. -/
  disconnect : ∀ inside, (disconnectDuring progress inside).run site =
    (.error (.state (.loopNotStopped site.consumer.config.loopStopTimeout)), site.waited progress)
  /-- A disconnect by a task fails for the state. -/
  disconnectTask : ∀ second inside, (disconnectTaskDuring progress second inside).run site =
    (.error (.state (.loopNotStopped site.consumer.config.loopStopTimeout)), site.waited progress)
  /-- The loop is in its place. -/
  stays : ∃ loop, (site.waited progress).consumer.loop = some loop ∧ loop.isOver = false
  /-- The connection stands as it did, with the same handle. -/
  handle : (site.waited progress).life.connection = site.life.connection

/-- A loop that is not over when it was waited for is kept. -/
theorem keepsLoop_of_running {progress : LoopProgress}
    (running : (site.waited progress).consumer.isLoopRunning = true) :
    site.KeepsLoop progress := by
  refine ⟨stopDuring_late running, fun inside => ?_, fun second inside => ?_, ?_, ?_⟩
  · rw [disconnectDuring, run_get]
    exact run_bind_error (stopDuring_late running _ _)
  · rw [disconnectTaskDuring, run_get]
    exact run_bind_error (stopDuring_late running _ _)
  · simpa [isLoopRunning, Option.any_eq_true] using running
  · exact (waited_goesOn progress site).handle

/-- How a disconnect goes on when its loop is over: no handle is open, and nothing more happens than
that the loop is taken away; or the close of the open handle begins where there is no loop, and
there is none when everything has run that runs from inside it. -/
def Site.ClosesAlone (waited : Site) (inside : Inside) (ran : Except ConsumerError Unit × Site) :
    Prop :=
  (waited.consumer.connection.isConnected = false ∧ ran = (.ok (), waited.vacated)) ∨
  ∃ client, waited.consumer.connection = .connected client ∧
    (waited.begun client).Shutting ∧ (inside.perform (waited.begun client)).2.Shutting ∧
    ran = (letGo client).run (inside.perform (waited.begun client)).2

/-- A disconnect whose loop is over closes the handle where there is no loop. -/
theorem closesAlone_disconnect {progress : LoopProgress}
    (settled : (site.waited progress).consumer.isLoopRunning = false) (inside : Inside) :
    (site.waited progress).ClosesAlone inside
      ((disconnectDuring progress inside.perform).run site) := by
  obtain ⟨running, _⟩ | ⟨_, done⟩ | ⟨_, client, opened, done⟩ :=
    disconnectDuring_cases progress inside.perform site
  · exact absurd (settled.symm.trans running) Bool.false_ne_true
  · exact .inl done
  · have begins : ((site.waited progress).begun client).Shutting := ⟨rfl, rfl⟩
    exact .inr ⟨client, opened, begins, (inside_shuts inside begins).1, done⟩

/-- A disconnect by a task whose loop is over reports that it broke off, or closes the handle where
there is no loop. -/
theorem closesAlone_disconnectTask {first : LoopProgress}
    (settled : (site.waited first).consumer.isLoopRunning = false) (second : LoopProgress)
    (inside : Inside) :
    let ran := (disconnectTaskDuring first second inside.perform).run site
    ran = (.error (.internal .workerPanicked), (site.waited first).vacated) ∨
      (site.waited first).ClosesAlone inside ran := by
  intro ran
  have stops := stopDuring_settled settled site.consumer.config.loopStopTimeout true
  have unfolded : ran = (do
      stopDuring first site.consumer.config.loopStopTimeout true
      disconnectDuring second inside.perform : Action Unit).run site := rfl
  cases answer : stopAnswer (site.waited first) true with
  | error error =>
    rw [answer] at stops
    have panicked : error = .internal .workerPanicked := by
      unfold stopAnswer at answer
      split at answer <;> cases answer
      rfl
    rw [unfolded, run_bind_error stops, panicked]
    exact .inl rfl
  | ok _ =>
    -- The first stop has left nothing to wait for in the second.
    have vacant : (site.waited first).vacated.consumer.loop = none := rfl
    obtain ⟨still, _⟩ := waited_idle vacant second
    have idle : ((site.waited first).vacated.waited second).consumer.isLoopRunning = false := by
      rw [still]
      rfl
    have closes := closesAlone_disconnect idle inside
    rw [answer] at stops
    rw [unfolded, run_bind_ok stops]
    rw [still] at closes
    exact .inr closes

/-- An event that disconnects the consumer, or tries to. -/
def LoopEvent.Disconnects : LoopEvent → Prop
  | .disconnect _ _ | .disconnectTask _ _ _ => True
  | _ => False

/-- No handle is being closed that was not, without an end of a close. -/
theorem closing_of_lives {handle : Nat} (lives : Lives site site')
    (closing : site'.life.connection = .closing handle) :
    site.life.connection = .closing handle := by
  unfold Lives at lives
  generalize site'.life = final at lives closing
  induction lives with
  | refl => exact closing
  | tail _ act ih =>
    cases act with
    | installs vacant fresh => cases closing
    | _ => exact ih closing

/-- Only a disconnect closes a handle. -/
theorem closing_of_next {fleet : Fleet} {event : LoopEvent} (apart : ¬event.Disconnects)
    {handle : Nat} (closing : (fleet.next event).site.life.connection = .closing handle) :
    fleet.site.life.connection = .closing handle := by
  cases event with
  | disconnect | disconnectTask => exact absurd trivial apart
  | start timeout sleepDelay =>
    exact closing_of_lives (lives_of_does (lives_of_books (Does.consumeLoop _ _ _))) closing
  | goesOn progress => rwa [← (progress.goesOn fleet.site).handle]
  | stop progress wait reportsPanic =>
    have same := (waited_goesOn progress fleet.site).handle
    rw [← same]
    cases running : (fleet.site.waited progress).consumer.isLoopRunning with
    | true =>
      rwa [Fleet.next, stopDuring_late running] at closing
    | false =>
      rwa [Fleet.next, stopDuring_settled running] at closing
  | operate operation different =>
    exact closing_of_lives (lives_of_does (perform_lives _ different _)) closing
  | surroundings boundary others created =>
    exact closing
  | signalDeparted index signal => exact closing

/-- What leaves its place is over. -/
theorem isOver_of_leaving {progress : LoopProgress} {loop : ConsumeLoop}
    (leaves : loop ∈ site.leaving progress) : loop.isOver = true := by
  unfold Site.leaving at leaves
  split at leaves
  · cases leaves
  · rename_i settled
    have present : (site.waited progress).consumer.loop = some loop := by simpa using leaves
    simpa [isLoopRunning, present] using settled

/-- A loop stays in its place while it is waited for. -/
theorem length_of_goesOn (goes : site.LoopGoesOn site') :
    site'.consumer.loop.toList.length = site.consumer.loop.toList.length := by
  have place := goes.place
  cases before : site.consumer.loop <;> cases after : site'.consumer.loop <;>
    simp [before, after] at place ⊢

/-- A loop that was waited for has left its place, or is in it if it is not over. -/
theorem leaving_cases (progress : LoopProgress) (site : Site) :
    ((site.waited progress).consumer.isLoopRunning = true ∧ site.leaving progress = [] ∧
      (site.waited progress).consumer.loop.toList.length = site.consumer.loop.toList.length) ∨
    ((site.waited progress).consumer.isLoopRunning = false ∧
      (site.leaving progress).length = site.consumer.loop.toList.length) := by
  have size := length_of_goesOn (waited_goesOn progress site)
  unfold Site.leaving
  cases running : (site.waited progress).consumer.isLoopRunning with
  | true => exact .inl ⟨rfl, rfl, size⟩
  | false => exact .inr ⟨rfl, size⟩

/-- A disconnect whose loop is over ends without a loop. -/
theorem Site.ClosesAlone.loopless {waited : Site} {inside : Inside}
    {ran : Except ConsumerError Unit × Site} (closes : waited.ClosesAlone inside ran) :
    ran.2.consumer.loop = none := by
  obtain ⟨_, rfl⟩ | ⟨client, _, _, shutting, rfl⟩ := closes
  · rfl
  · exact (congrArg Prod.fst (keeps_looping_letGo client _)).trans shutting.loopless

/-- A stop or disconnect whose loop was waited for leaves as many loops as there were. -/
theorem Fleet.size_of_leaving {fleet : Fleet} {progress : LoopProgress} {final : Site}
    (late : (fleet.site.waited progress).consumer.isLoopRunning = true →
      final = fleet.site.waited progress)
    (settled : (fleet.site.waited progress).consumer.isLoopRunning = false →
      final.consumer.loop = none) :
    (Fleet.mk final (fleet.departed ++ fleet.site.leaving progress)).loops.length =
      fleet.loops.length := by
  unfold Fleet.loops
  obtain ⟨running, nothing, size⟩ | ⟨ended, size⟩ := leaving_cases progress fleet.site
  · rw [late running, nothing, List.append_nil, List.length_append, List.length_append, size]
  · rw [settled ended, Option.toList_none, List.append_nil, List.length_append, List.length_append,
      size]

/-- The disconnect by a task has its loop leave by its first stop, if at all. -/
theorem Fleet.departed_disconnectTask (fleet : Fleet) (first second : LoopProgress)
    (inside : Inside) :
    (fleet.next (.disconnectTask first second inside)).departed =
      fleet.departed ++ fleet.site.leaving first := by
  have nothing (wait : Nat) :
      (if ((stopDuring first wait true).run fleet.site).1.toBool then
        ((stopDuring first wait true).run fleet.site).2.leaving second else []) = [] := by
    cases running : (fleet.site.waited first).consumer.isLoopRunning with
    | true =>
      rw [stopDuring_late running]
      rfl
    | false =>
      have vacant : (fleet.site.waited first).vacated.consumer.loop = none := rfl
      obtain ⟨still, _⟩ := waited_idle vacant second
      rw [stopDuring_settled running]
      split
      · unfold Site.leaving
        rw [still]
        rfl
      · rfl
  rw [Fleet.next, nothing, List.append_nil]

/-- An event leaves as many loops as there were, and the one that it starts. -/
theorem Fleet.size_next (fleet : Fleet) (event : LoopEvent) :
    (fleet.next event).loops.length = fleet.loops.length + (fleet.started event).length := by
  cases event with
  | start timeout sleepDelay =>
    obtain ⟨settings, ran⟩ := consumeLoop_run timeout sleepDelay fleet.site
    rw [loops, loops, next, started, ran]
    cases fleet.site.consumer.connection.isConnected <;>
      cases fleet.site.consumer.isLoopRunning <;> simp [Except.toBool, Site.looped, Nat.add_assoc]
  | goesOn progress =>
    have size := length_of_goesOn (progress.goesOn fleet.site)
    simp [loops, next, started, size]
  | stop progress wait reportsPanic =>
    refine size_of_leaving (fun running => ?_) fun settled => ?_
    · rw [stopDuring_late running]
    · rw [stopDuring_settled settled]
      rfl
  | disconnect progress inside =>
    refine size_of_leaving (fun running => ?_) fun settled => ?_
    · rw [(keepsLoop_of_running running).disconnect]
    · exact (closesAlone_disconnect settled inside).loopless
  | disconnectTask first second inside =>
    have whole : fleet.next (.disconnectTask first second inside) =
        Fleet.mk (fleet.next (.disconnectTask first second inside)).site
          (fleet.departed ++ fleet.site.leaving first) := by
      rw [← fleet.departed_disconnectTask first second inside]
    rw [whole]
    refine size_of_leaving (fun running => ?_) fun settled => ?_
    · exact congrArg Prod.snd ((keepsLoop_of_running running).disconnectTask second _)
    · obtain broken | closes := closesAlone_disconnectTask settled second inside
      · exact congrArg (fun ran => ran.2.consumer.loop) broken
      · exact closes.loopless
  | operate operation apart =>
    have same : ((operation.perform (pure ())).run fleet.site).2.consumer.loop =
        fleet.site.consumer.loop := congrArg Prod.fst (keeps_perform (pure ()) apart fleet.site)
    unfold loops next started
    rw [same]
    rfl
  | surroundings boundary others created => rfl
  | signalDeparted index signal => simp [loops, next, started]

/-- An event has no loop leave its place that is not over. -/
theorem Fleet.Settled.next {fleet : Fleet} (settled : fleet.Settled) (event : LoopEvent) :
    (fleet.next event).Settled := by
  have leave (site : Site) (progress : LoopProgress) :
      Fleet.Settled ⟨site, fleet.departed ++ fleet.site.leaving progress⟩ := by
    intro loop departed
    obtain before | now := List.mem_append.mp departed
    · exact settled loop before
    · exact isOver_of_leaving now
  cases event with
  | start timeout sleepDelay =>
    intro loop departed
    obtain before | now := List.mem_append.mp departed
    · exact settled loop before
    · obtain ⟨settings, ran⟩ := consumeLoop_run timeout sleepDelay fleet.site
      rw [ran] at now
      cases connected : fleet.site.consumer.connection.isConnected <;>
        cases running : fleet.site.consumer.isLoopRunning <;>
          simp [Except.toBool, connected, running] at now
      simpa [isLoopRunning, now] using running
  | stop progress wait reportsPanic => exact leave _ progress
  | disconnect progress inside => exact leave _ progress
  | disconnectTask first second inside =>
    intro loop departed
    rw [fleet.departed_disconnectTask] at departed
    exact leave fleet.site first loop departed
  | goesOn | operate | surroundings => exact settled
  | signalDeparted index signal =>
    intro loop departed
    rw [Fleet.next] at departed
    obtain ⟨place, inside, rfl⟩ := List.mem_iff_getElem.mp departed
    rw [List.length_modify] at inside
    have ended := settled _ (List.getElem_mem inside)
    rw [List.getElem_modify]
    split
    · rw [ConsumeLoop.isOver_congr (ConsumeLoop.phase_of_isOver ended signal)]
      exact ended
    · exact ended

/-- At most one loop is not over where every loop that has left its place is. -/
theorem Fleet.Settled.unfinished_le {fleet : Fleet} (settled : fleet.Settled) :
    fleet.unfinished.length ≤ 1 := by
  have departed : fleet.departed.filter (fun loop => !loop.isOver) = [] :=
    List.filter_eq_nil_iff.mpr fun loop inside => by simp [settled loop inside]
  rw [unfinished, loops, List.filter_append, departed, List.nil_append]
  refine Nat.le_trans (List.length_filter_le _ _) ?_
  cases fleet.site.consumer.loop <;> simp

/-- A run has no loop leave its place that is not over, and accounts for all the loops that it
starts. -/
theorem Fleet.run_settled {fleet : Fleet} (settled : fleet.Settled) (events : List LoopEvent) :
    (fleet.run events).Settled ∧ (fleet.run events).loops.length =
      fleet.loops.length + (collected next started fleet events).length := by
  induction events generalizing fleet with
  | nil => exact ⟨settled, rfl⟩
  | cons event events ih =>
    obtain ⟨later, size⟩ := ih (settled.next event)
    refine ⟨later, size.trans ?_⟩
    rw [size_next, collected, List.length_append, Nat.add_assoc]

/-- The rules of a consumer for its place for a consume loop. -/
structure Site.LoopRules (site : Site) : Prop where
  /-- Starting succeeds where the consumer is connected and no loop is running, be it cancelled or
  not, and else changes nothing. -/
  starts : ∀ timeout sleepDelay, site.StartsAlone timeout sleepDelay
  /-- A loop that is not over in time is kept, and the handle with it. -/
  keeps : ∀ progress : LoopProgress, (site.waited progress).consumer.isLoopRunning = true →
    site.KeepsLoop progress
  /-- A disconnect closes the handle only where there is no loop. -/
  closes : ∀ (progress : LoopProgress) (inside : Inside),
    (site.waited progress).consumer.isLoopRunning = false →
    (site.waited progress).ClosesAlone inside ((disconnectDuring progress inside.perform).run site)
  /-- So does a disconnect by a task, unless it reports that the loop broke off. -/
  closesByTask : ∀ (first second : LoopProgress) (inside : Inside),
    (site.waited first).consumer.isLoopRunning = false →
    let ran := (disconnectTaskDuring first second inside.perform).run site
    ran = (.error (.internal .workerPanicked), (site.waited first).vacated) ∨
      (site.waited first).ClosesAlone inside ran
  /-- A stop is one during which the loop goes on in some way. -/
  stop_during : ∀ wait reportsPanic, ∃ progress,
    (stopLoop wait reportsPanic).run site = (stopDuring progress wait reportsPanic).run site
  /-- A disconnect is one during which the loop goes on in some way. -/
  disconnect_during : ∀ inside, ∃ progress,
    (Consumer.disconnect inside).run site = (disconnectDuring progress inside).run site
  /-- A disconnect by a task is one during which the loop goes on in some way. -/
  task_during : ∃ first second, (Task.perform .disconnect).run site =
    (do disconnectTaskDuring first second runCloseScript; pure Reply.done : Action Reply).run site

/-- Over any run, in which loops are started, go on and end in any way, and are stopped or waited
for in vain, and in which the consumer is disconnected, at most one loop is not over, and no loop is
lost. Starts, stops and disconnects follow the rules, and every signal and every step of its own is
a way for a loop to go on. Apart from disconnects nothing closes a handle. -/
theorem consumeLoops_exclusive :
    (∀ (site : Site) (events : List LoopEvent),
      let fleet := Fleet.run ⟨site, []⟩ events
      fleet.unfinished.length ≤ 1 ∧
        fleet.loops.length = site.consumer.loop.toList.length +
          (collected Fleet.next Fleet.started ⟨site, []⟩ events).length) ∧
    (∀ site : Site, site.LoopRules) ∧
    (∀ workerFree, ∃ progress : LoopProgress, progress.act = advanceLoop workerFree) ∧
    (∀ signal, ∃ progress : LoopProgress, progress.act = signalLoop signal) ∧
    ∀ (fleet : Fleet) (event : LoopEvent) (handle : Nat), ¬event.Disconnects →
      (fleet.next event).site.life.connection = .closing handle →
      fleet.site.life.connection = .closing handle := by
  refine ⟨fun site events => ?_, fun site => ?_, fun workerFree => ⟨.advance workerFree, rfl⟩,
    fun signal => ⟨.signal signal, rfl⟩, fun _ _ _ apart => closing_of_next apart⟩
  · have bare : (Fleet.mk site []).Settled := fun loop departed => absurd departed List.not_mem_nil
    obtain ⟨settled, size⟩ := Fleet.run_settled bare events
    exact ⟨settled.unfinished_le, size⟩
  · constructor
    · exact fun timeout sleepDelay => starts_alone timeout sleepDelay site
    · exact fun progress => keepsLoop_of_running
    · exact fun progress inside settled => closesAlone_disconnect settled inside
    · exact fun first second inside settled => closesAlone_disconnectTask settled second inside
    · exact fun wait reportsPanic => ⟨_, stopLoop_eq_during wait reportsPanic site⟩
    · exact fun inside => ⟨_, disconnect_eq_during inside site⟩
    · exact disconnectTask_eq_during site

/-- A loop is polling for longer than a stop and a disconnect wait for it: both fail, the handle
stays open, and no other loop is started until the poll has ended and the loop has looked. -/
theorem consumeLoops_exclusive_waiting :
    let fresh : Site := { consumer := { config := {}, boundary := {} }, cluster := {} }
    let polling := course fresh [(.operate .connect, .script),
      (.startLoop (some 500) none, .script), (.advanceLoop true, .script),
      (.advanceLoop true, .script)]
    let late := LoopProgress.wait 10
    let refused := Fleet.run ⟨polling, []⟩
      [.stop late 10 true, .start none none, .disconnect late .script, .start none none]
    let replaced := refused.run [.goesOn .pollEnded, .goesOn (.signal .look), .start none none]
    (polling.waited late).consumer.isLoopRunning = true ∧ polling.KeepsLoop late ∧
      refused.loops.length = 1 ∧ refused.site.life.connection = .connected 1 ∧
      replaced.loops.length = 2 ∧ replaced.unfinished.length ≤ 1 := by
  intro fresh polling late refused replaced
  have running : (polling.waited late).consumer.isLoopRunning = true := by decide +kernel
  have alone : refused.loops.length = 1 := by decide +kernel
  have opened : refused.site.life.connection = .connected 1 := by decide +kernel
  have both : replaced.loops.length = 2 := by decide +kernel
  have whole : replaced = Fleet.run ⟨polling, []⟩
      ([.stop late 10 true, .start none none, .disconnect late .script, .start none none] ++
        [.goesOn .pollEnded, .goesOn (.signal .look), .start none none]) :=
    List.foldl_append.symm
  obtain ⟨exclusive, rules, _⟩ := consumeLoops_exclusive
  refine ⟨running, (rules polling).keeps late running, alone, opened, both, ?_⟩
  rw [whole]
  exact (exclusive polling _).1

end LogConsumer
