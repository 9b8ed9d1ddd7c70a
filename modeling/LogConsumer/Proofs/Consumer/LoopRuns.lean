import LogConsumer.Proofs.ConsumeLoops
import LogConsumer.Proofs.Consumer.Disconnecting
import LogConsumer.Proofs.Consumer.LoopFrame

/-!
# Consume loops over a course

What the consume loops of a consumer make of the polls that they begin, over any course of the
consumer, however often a loop is started and stopped in it and whatever else happens. What happens
accounts for its polls (`Accounts`): those that have ended are delivered if they are worth it, and
the last one may still be in flight. A loop is taken away only when nothing is in flight, and a
disconnect stops the loop before anything runs from inside the close.
-/
namespace LogConsumer

open Consumer

variable {site between site' : Site} {loop : ConsumeLoop}

/-- The outcome of the poll that the consume loop has in flight. -/
def Site.inFlight (site : Site) : List Outcome :=
  (site.consumer.loop.map ConsumeLoop.inFlight).getD []

/-- The outcome of a poll that begins at the site. -/
def Site.pollOutcome (site : Site) (timeout : Nat) : Outcome :=
  match ((beginPoll timeout).run site).1 with
  | .ok polled => .ofMessage polled.message
  | .error error => .error error

/-- The outcome of the poll that the consume loop begins. It does so where it waits for a worker and
one is free. -/
def Moment.begins (site : Site) : Moment → List Outcome
  | .advanceLoop true =>
    match site.consumer.loop with
    | some { settings, phase := .waiting, .. } => [site.pollOutcome settings.timeout]
    | _ => []
  | _ => []

/-- Between two sites the consume loop began these polls: of them and of the one in flight before,
those that have ended are delivered if they are worth it, and the other one is in flight. -/
def Accounts (begun : List Outcome) (site site' : Site) : Prop :=
  ∃ posted, site'.consumer.deliveries = site.consumer.deliveries ++ posted ∧
    (site.inFlight ++ begun).filter Outcome.isDelivered =
      posted ++ site'.inFlight.filter Outcome.isDelivered

namespace Accounts

variable {begun first second : List Outcome}

/-- Where the loop and what it delivered stay, no poll began. -/
theorem of_looping (same : site'.looping = site.looping) : Accounts [] site site' := by
  obtain ⟨loop, deliveries⟩ := Prod.mk.inj same
  refine ⟨[], ?_, ?_⟩
  · rw [deliveries, List.append_nil]
  · rw [List.append_nil, List.nil_append, Site.inFlight, Site.inFlight, loop]

/-- What began between two sites and then between the second one and a third began between the first
one and the third. -/
theorem trans (before : Accounts first site between) (after : Accounts second between site') :
    Accounts (first ++ second) site site' := by
  obtain ⟨earlier, grown, ended⟩ := before
  obtain ⟨later, longer, rest⟩ := after
  refine ⟨earlier ++ later, ?_, ?_⟩
  · rw [longer, grown, List.append_assoc]
  · rw [List.filter_append] at rest
    rw [← List.append_assoc, List.filter_append, ended, List.append_assoc, rest,
      List.append_assoc]

/-- What is delivered beyond what was delivered before is what ended. -/
theorem delivered (accounts : Accounts begun site site') :
    (site.inFlight ++ begun).filter Outcome.isDelivered =
      site'.consumer.deliveries.drop site.consumer.deliveries.length ++
        site'.inFlight.filter Outcome.isDelivered := by
  obtain ⟨posted, grown, ended⟩ := accounts
  rw [grown, List.drop_left, ended]

end Accounts

/-- A signal gets to the loop, and what the loop delivers is posted. -/
theorem looping_signalLoop (present : site.consumer.loop = some loop) (signal : LoopSignal) :
    (signalLoop signal site).2.looping =
      (some (loop.next signal), site.consumer.deliveries ++ (loop.step signal).1.toList) := by
  have told (condition : Prop) [Decidable condition] (event : Event) :
      Keeps Site.looping (if condition then publish event else pure ()) :=
    .either (fun _ => rfl) (.pure _)
  unfold signalLoop
  rw [run_read, present]
  exact told _ _ _

/-- A signal accounts for the poll that begins with it. -/
theorem signalLoop_accounts (present : site.consumer.loop = some loop) (signal : LoopSignal)
    (sound : signal ≠ .panic) :
    Accounts (loop.begun signal) site (signalLoop signal site).2 := by
  obtain ⟨next, deliveries⟩ := Prod.mk.inj (looping_signalLoop present signal)
  refine ⟨(loop.step signal).1.toList, deliveries, ?_⟩
  rw [Site.inFlight, Site.inFlight, present, next, loop.step_delivers, ← List.filter_append]
  exact congrArg _ (loop.step_accounts signal sound)

/-- Where there is no loop a signal changes nothing. -/
theorem signalLoop_idle (loopless : site.consumer.loop = none) (signal : LoopSignal) :
    (signalLoop signal site).2 = site := by
  unfold signalLoop
  rw [run_read, loopless]
  rfl

/-- A signal with which no poll begins accounts for itself, be there a loop or not. -/
theorem signalLoop_calm (signal : LoopSignal) (sound : signal ≠ .panic)
    (quiet : ∀ loop : ConsumeLoop, loop.begun signal = []) (site : Site) :
    Accounts [] site (signalLoop signal site).2 := by
  cases present : site.consumer.loop with
  | none =>
    rw [signalLoop_idle present]
    exact .of_looping rfl
  | some loop =>
    have accounts := signalLoop_accounts present signal sound
    rwa [quiet] at accounts

/-- Ending the poll of the loop does nothing where there is none; else it counts the outcome and
tells the loop that its poll has ended. -/
theorem endLoopPoll_cases (site : Site) :
    ((endLoopPoll site).2 = site ∧ site.inFlight = []) ∨
    ∃ loop outcome, site.consumer.loop = some loop ∧ loop.inFlight = [outcome] ∧
      endLoopPoll site = signalLoop .pollEnded (countOutcome outcome site).2 := by
  obtain ⟨⟨config, connection, partitions, subscriptionFlag, events, metrics, place, deliveries,
    boundary⟩, cluster⟩ := site
  cases place with
  | none => exact .inl ⟨rfl, rfl⟩
  | some loop =>
    obtain ⟨settings, cancelled, phase⟩ := loop
    cases phase with
    | polling outcome remaining => exact .inr ⟨_, outcome, rfl, rfl, rfl⟩
    | checking | waiting | backingOff | exited => exact .inl ⟨rfl, rfl⟩

/-- Ending the poll of the loop accounts for it, and leaves nothing in flight. -/
theorem endLoopPoll_accounts (site : Site) :
    Accounts [] site (endLoopPoll site).2 ∧ (endLoopPoll site).2.inFlight = [] := by
  obtain ⟨still, nothing⟩ | ⟨loop, outcome, present, _, ends⟩ := endLoopPoll_cases site
  · rw [still]
    exact ⟨.of_looping rfl, nothing⟩
  · let counted := (countOutcome outcome site).2
    have same : Accounts [] site counted := .of_looping rfl
    have ended : Accounts [] counted (signalLoop .pollEnded counted).2 :=
      signalLoop_calm .pollEnded (by simp) (fun _ => rfl) counted
    have there : counted.consumer.loop = some loop := present
    obtain ⟨next, _⟩ := Prod.mk.inj (looping_signalLoop there .pollEnded)
    rw [ends]
    refine ⟨same.trans ended, ?_⟩
    rw [Site.inFlight, next]
    exact loop.inFlight_pollEnded

/-- A loop that is not polling has nothing in flight. -/
theorem inFlight_eq_nil (idle : ∀ outcome remaining,
    site.consumer.loop.map ConsumeLoop.phase ≠ some (.polling outcome remaining)) :
    site.inFlight = [] := by
  unfold Site.inFlight
  cases present : site.consumer.loop with
  | none => rfl
  | some loop =>
    rw [present] at idle
    obtain ⟨settings, cancelled, phase⟩ := loop
    cases phase with
    | polling outcome remaining => exact absurd rfl (idle outcome remaining)
    | checking | waiting | backingOff | exited => rfl

/-- The end of stopping a loop: it is taken away, and reported if it broke off and that is asked. -/
def clearLoop (reportsPanic : Bool) : Action Unit := do
  signalLoop .look
  let panicked := (← MonadState.get).consumer.loop.any ConsumeLoop.isPanicked
  update fun consumer => { consumer with loop := none }
  if panicked && reportsPanic then MonadExcept.throw (.internal .workerPanicked)

/-- Taking away a loop that has nothing in flight accounts for its polls. -/
theorem clearLoop_accounts (settled : site.inFlight = []) (reportsPanic : Bool) :
    Accounts [] site ((clearLoop reportsPanic).run site).2 ∧
      ((clearLoop reportsPanic).run site).2.consumer.loop = none := by
  let looked := (signalLoop .look site).2
  have looks : Accounts [] site looked :=
    signalLoop_calm .look (by simp) (fun _ => rfl) site
  have cleared : ((clearLoop reportsPanic).run site).2.looping =
      (none, looked.consumer.deliveries) := by
    have reports (condition : Prop) [Decidable condition] (error : ConsumerError) :
        Keeps Site.looping (if condition then throw error else pure () : Action Unit).run :=
      .eitherThen (.throw _) (.pure _)
    exact reports _ _ _
  obtain ⟨loop, deliveries⟩ := Prod.mk.inj cleared
  refine ⟨?_, loop⟩
  -- With nothing in flight, looking whether it is cancelled makes the loop post nothing.
  obtain ⟨posted, grown, ended⟩ := looks
  obtain ⟨rfl, _⟩ := List.append_eq_nil_iff.mp (ended.symm.trans (by rw [settled]; rfl))
  refine ⟨[], deliveries.trans grown, ?_⟩
  rw [settled, Site.inFlight, loop]
  rfl

/-- Stopping a loop does nothing where there is none. Else the loop is cancelled, and it is not over
in time, or its poll ends and it is taken away. -/
theorem stopLoop_cases (wait : Nat) (reportsPanic : Bool) (site : Site) :
    let cancelled := (signalLoop .cancel site).2
    ((stopLoop wait reportsPanic).run site = (.ok (), site) ∧ site.consumer.loop = none) ∨
    (stopLoop wait reportsPanic).run site =
      (.error (.state (.loopNotStopped wait)), (signalLoop (.elapse wait) cancelled).2) ∨
    (stopLoop wait reportsPanic).run site =
      (clearLoop reportsPanic).run (endLoopPoll cancelled).2 := by
  intro cancelled
  cases present : site.consumer.loop with
  | none => exact .inl ⟨stopLoop_idle present wait reportsPanic, rfl⟩
  | some loop =>
    refine .inr ?_
    unfold stopLoop
    rw [run_get, present]
    dsimp only
    rw [run_lift, run_get]
    -- Only a poll that takes longer than the wait keeps the cancelled loop in its place.
    split
    · rename_i outcome remaining polling
      by_cases late : wait < remaining
      · rw [if_pos late]
        exact .inl rfl
      · rw [if_neg late]
        exact .inr rfl
    · rename_i idle
      have nothing : (endLoopPoll cancelled).2 = cancelled := by
        obtain ⟨still, _⟩ | ⟨loop, outcome, there, flying, _⟩ := endLoopPoll_cases cancelled
        · exact still
        · have settled := inFlight_eq_nil idle
          rw [Site.inFlight, there] at settled
          cases settled.symm.trans flying
      rw [nothing]
      exact .inr rfl

/-- Stopping a loop accounts for its polls, and takes it away where it succeeds. -/
theorem stopLoop_accounts (wait : Nat) (reportsPanic : Bool) (site : Site) :
    Accounts [] site ((stopLoop wait reportsPanic).run site).2 ∧
      (((stopLoop wait reportsPanic).run site).1 = .ok () →
        ((stopLoop wait reportsPanic).run site).2.consumer.loop = none) := by
  let cancelled := (signalLoop .cancel site).2
  have cancels : Accounts [] site cancelled :=
    signalLoop_calm .cancel (by simp) (fun _ => rfl) site
  obtain ⟨nothing, loopless⟩ | late | clears := stopLoop_cases wait reportsPanic site
  · rw [nothing]
    exact ⟨.of_looping rfl, fun _ => loopless⟩
  · rw [late]
    refine ⟨cancels.trans ?_, by simp⟩
    exact signalLoop_calm (.elapse wait) (by simp) (fun _ => rfl) cancelled
  · obtain ⟨ended, nothing⟩ := endLoopPoll_accounts cancelled
    obtain ⟨cleared, loopless⟩ := clearLoop_accounts nothing reportsPanic
    rw [clears]
    exact ⟨(cancels.trans ended).trans cleared, fun _ => loopless⟩

/-- A loop that has ended has nothing in flight. -/
theorem inFlight_of_settled (settled : site.consumer.isLoopRunning = false) :
    site.inFlight = [] := by
  refine inFlight_eq_nil fun outcome remaining polling => ?_
  unfold Consumer.isLoopRunning at settled
  cases present : site.consumer.loop with
  | none =>
    rw [present] at polling
    cases polling
  | some loop =>
    rw [present] at polling settled
    obtain ⟨settings, cancelled, phase⟩ := loop
    cases polling
    cases settled

/-- Starting a loop is refused while there is one that has not ended; else a new one takes its
place, and what it delivers is counted from the beginning. -/
theorem startLoop_cases (settings : LoopSettings) (site : Site) :
    (startLoop settings).run site = (.error (.state .loopOccupied), site) ∨
    (site.consumer.isLoopRunning = false ∧
      let consumer := { site.consumer with loop := some { settings }, deliveries := [] }
      (startLoop settings).run site = (.ok (), { site with consumer })) := by
  unfold startLoop
  rw [run_get]
  cases running : site.consumer.isLoopRunning with
  | true => exact .inl rfl
  | false => exact .inr ⟨rfl, rfl⟩

/-- Starting to consume is refused, or it starts a loop where none is running. -/
theorem consumeLoop_cases (timeout sleepDelay : Option Nat) (site : Site) :
    ((consumeLoop timeout sleepDelay).run site).2 = site ∨
    (site.inFlight = [] ∧ ((consumeLoop timeout sleepDelay).run site).2.inFlight = [] ∧
      ((consumeLoop timeout sleepDelay).run site).2.consumer.deliveries = []) := by
  unfold consumeLoop
  rw [run_get]
  dsimp only
  cases site.consumer.connection.isConnected with
  | false => exact .inl rfl
  | true =>
    rw [Bool.not_true, if_neg Bool.false_ne_true]
    obtain occupied | ⟨settled, started⟩ := startLoop_cases _ site
    · rw [run_bind_error occupied]
      exact .inl rfl
    · rw [run_bind_ok started]
      exact .inr ⟨inFlight_of_settled settled, rfl, rfl⟩

/-- A loop that waits for a worker begins a poll when one is free. -/
theorem advanceLoop_waiting (present : site.consumer.loop = some loop)
    (waiting : loop.phase = .waiting) :
    ∃ duration, advanceLoop true site =
      signalLoop (.pollBegan (site.pollOutcome loop.settings.timeout) duration)
        ((beginPoll loop.settings.timeout).run site).2 := by
  unfold advanceLoop Site.pollOutcome
  rw [run_read, present]
  dsimp only
  rw [waiting]
  dsimp only
  rw [if_pos rfl, run_then]
  cases ((beginPoll loop.settings.timeout).run site).1 with
  | ok polled => exact ⟨polled.waited, rfl⟩
  | error error => exact ⟨0, rfl⟩

/-- A step of a loop that does not wait for a worker, or has none, begins no poll, and leaves the
handle and the cluster alone. -/
theorem advanceLoop_cases (workerFree : Bool) (site : Site) :
    (∃ loop, site.consumer.loop = some loop ∧ loop.phase = .waiting ∧ workerFree = true) ∨
    ((Moment.advanceLoop workerFree).begins site = [] ∧
      Accounts [] site (advanceLoop workerFree site).2 ∧
      Acts (fun _ => False) False (advanceLoop workerFree) site) := by
  obtain ⟨⟨config, connection, partitions, subscriptionFlag, events, metrics, place, deliveries,
    boundary⟩, cluster⟩ := site
  cases place with
  | none => exact .inr ⟨by cases workerFree <;> rfl, .of_looping rfl, .idle rfl⟩
  | some loop =>
    obtain ⟨settings, cancelled, phase⟩ := loop
    cases phase with
    | waiting =>
      cases workerFree with
      | true => exact .inl ⟨_, rfl, rfl, rfl⟩
      | false => exact .inr ⟨rfl, .of_looping rfl, .idle rfl⟩
    | checking =>
      refine .inr ⟨by cases workerFree <;> rfl, ?_, ?_⟩
      · exact signalLoop_calm .look (by simp) (fun _ => rfl) _
      · exact Does.signalLoop .look _
    | polling =>
      refine .inr ⟨by cases workerFree <;> rfl, ?_, ?_⟩
      · exact (endLoopPoll_accounts _).1
      · exact Does.endLoopPoll _
    | backingOff =>
      refine .inr ⟨by cases workerFree <;> rfl, ?_, ?_⟩
      · exact signalLoop_calm .wake (by simp) (fun _ => rfl) _
      · exact Does.signalLoop .wake _
    | exited => exact .inr ⟨by cases workerFree <;> rfl, .of_looping rfl, .idle rfl⟩

/-- A step of the loop accounts for the poll that begins with it. -/
theorem advanceLoop_accounts (workerFree : Bool) (site : Site) :
    Accounts ((Moment.advanceLoop workerFree).begins site) site
      (advanceLoop workerFree site).2 := by
  obtain ⟨loop, present, waiting, rfl⟩ | ⟨calm, accounts, _⟩ := advanceLoop_cases workerFree site
  · let polled := ((beginPoll loop.settings.timeout).run site).2
    have same : polled.looping = site.looping :=
      keeps_beginPoll aloof_looping loop.settings.timeout site
    have there : polled.consumer.loop = some loop := (Prod.mk.inj same).1.trans present
    obtain ⟨duration, goes⟩ := advanceLoop_waiting present waiting
    have accounts := signalLoop_accounts there
      (.pollBegan (site.pollOutcome loop.settings.timeout) duration) (by simp)
    have begins : (Moment.advanceLoop true).begins site =
        [] ++ loop.begun (.pollBegan (site.pollOutcome loop.settings.timeout) duration) := by
      obtain ⟨settings, cancelled, phase⟩ := loop
      cases waiting
      unfold Moment.begins
      rw [present]
      rfl
    rw [goes, begins]
    exact (Accounts.of_looping same).trans accounts
  · rw [calm]
    exact accounts

/-- What happens while the handle is being closed touches no loop, since there is none. -/
theorem moment_looping (moment : Moment) (shutting : site.Shutting) :
    (moment.perform (pure ()) site).2.looping = site.looping := by
  cases moment with
  | operate operation =>
    by_cases closes : operation = .disconnect
    · rw [closes, operate_disconnect,
        disconnect_idle shutting.not_connected shutting.loopless]
    · exact keeps_perform (pure ()) closes site
  | startLoop timeout sleepDelay =>
    have refused := consumeLoop_idle shutting.not_connected timeout sleepDelay
    exact congrArg Site.looping (congrArg Prod.snd refused)
  | advanceLoop workerFree =>
    exact congrArg Site.looping (advanceLoop_idle shutting.loopless workerFree)
  | stopLoop wait reportsPanic =>
    have nothing := stopLoop_idle shutting.loopless wait reportsPanic
    exact congrArg Site.looping (congrArg Prod.snd nothing)
  | surroundings boundary others created => rfl

/-- What goes on as related step by step while the handle is being closed does so as a whole. -/
theorem forM_inside {item : Type} {action : item → StateM Site Unit}
    (relation : Site → Site → Prop) (refl : ∀ site, relation site site)
    (trans : ∀ first second third, relation first second → relation second third →
      relation first third)
    (each : ∀ (site : Site) (one : item), site.Shutting →
      (action one site).2.Shutting ∧ relation site (action one site).2)
    (items : List item) (shutting : site.Shutting) :
    relation site (items.forM action site).2 := by
  rw [run_forM]
  let gives (_ : Site) (_ : item) : List Unit := []
  exact (related_collected gives Site.Shutting (fun site _ site' => relation site site') refl
    (trans _ _ _) each shutting items).2

/-- What runs from inside a close touches no loop. -/
theorem inside_looping (inside : Inside) (shutting : site.Shutting) :
    (inside.perform site).2.looping = site.looping := by
  have whole {item : Type} {action : item → StateM Site Unit} (items : List item)
      (each : ∀ (site : Site) (one : item), site.Shutting →
        (action one site).2.Shutting ∧ (action one site).2.looping = site.looping) :
      (items.forM action site).2.looping = site.looping :=
    forM_inside (fun site site' => site'.looping = site.looping) (fun _ => rfl)
      (fun _ _ _ before after => after.trans before) each items shutting
  cases inside with
  | script =>
    refine whole _ fun site operation shutting => ?_
    have still := (operate_shuts operation shutting).1
    exact ⟨⟨still.closing, still.loopless⟩, moment_looping (.operate operation) shutting⟩
  | course moments =>
    exact whole moments fun site moment shutting =>
      ⟨(moment_shuts moment shutting).1, moment_looping moment shutting⟩

/-- Letting the handle go keeps what its release and what is published keep. -/
theorem keeps_letGo {ν : Type} {view : Site → ν} {client : Client}
    (releases : Keeps view (releaseHandle client).run)
    (published : ∀ event, Keeps view (publish event)) : Keeps view (letGo client).run := by
  refine .andThen releases fun closed => ?_
  cases closed with
  | ok _ => exact published _
  | error error => exact .lift (published _) fun _ => .throw _

/-- Letting the handle go touches no loop. -/
theorem keeps_looping_letGo (client : Client) : Keeps Site.looping (letGo client).run := by
  refine keeps_letGo (fun site => ?_) fun _ _ => rfl
  rw [releaseHandle_run]
  rfl

/-- A disconnect accounts for the polls of the loop that it stops. -/
theorem disconnect_accounts (inside : Inside) (site : Site) :
    Accounts [] site ((Consumer.disconnect inside.perform).run site).2 := by
  obtain ⟨accounts, loopless⟩ := stopLoop_accounts site.consumer.config.loopStopTimeout false site
  obtain stopped | ⟨done, client, _, shut⟩ := disconnect_branches inside.perform site
  · rw [stopped]
    exact accounts
  · let stopped := ((Consumer.stopLoop site.consumer.config.loopStopTimeout false).run site).2
    have begins : (stopped.shutting client).Shutting := ⟨rfl, loopless done⟩
    have within := inside_looping inside begins
    rw [shut]
    exact accounts.trans (.of_looping ((keeps_looping_letGo client _).trans within))

/-- What happens accounts for the polls that begin, unless a loop starts: then nothing is in flight,
and what the new loop delivers is counted from the beginning. -/
theorem occurrence_accounts (site : Site) (occurrence : Occurrence) :
    Accounts (occurrence.1.begins site) site (occurrence.next site) ∨
    (occurrence.1.begins site = [] ∧ site.inFlight = [] ∧ (occurrence.next site).inFlight = [] ∧
      (occurrence.next site).consumer.deliveries = []) := by
  obtain ⟨moment, inside⟩ := occurrence
  unfold Occurrence.next
  cases moment with
  | operate operation =>
    refine .inl ?_
    by_cases closes : operation = .disconnect
    · rw [closes, operate_disconnect]
      exact disconnect_accounts inside site
    · exact .of_looping (keeps_perform inside.perform closes site)
  | startLoop timeout sleepDelay =>
    obtain refused | started := consumeLoop_cases timeout sleepDelay site
    · exact .inl (.of_looping (congrArg Site.looping refused))
    · exact .inr ⟨rfl, started⟩
  | advanceLoop workerFree => exact .inl (advanceLoop_accounts workerFree site)
  | stopLoop wait reportsPanic => exact .inl (stopLoop_accounts wait reportsPanic site).1
  | surroundings boundary others created => exact .inl (.of_looping rfl)

/-- What the consume loop posts to its callback where something happens. -/
def Occurrence.posts (site : Site) (occurrence : Occurrence) : List Outcome :=
  (occurrence.next site).consumer.deliveries.drop site.consumer.deliveries.length

/-- Of what was in flight and what begins, what ends is posted if it is worth it. -/
theorem occurrence_posts (site : Site) (occurrence : Occurrence) :
    (site.inFlight ++ occurrence.1.begins site).filter Outcome.isDelivered =
      occurrence.posts site ++ (occurrence.next site).inFlight.filter Outcome.isDelivered := by
  obtain accounts | ⟨calm, nothing, still, fresh⟩ := occurrence_accounts site occurrence
  · exact accounts.delivered
  · rw [Occurrence.posts, calm, nothing, still, fresh, List.drop_nil]
    rfl

/-- The polls that the consume loops begin in a course, in order. -/
def begunPolls (site : Site) (occurrences : List Occurrence) : List Outcome :=
  collected Occurrence.next (fun site occurrence => occurrence.1.begins site) site occurrences

/-- What the consume loops post to their callbacks in a course, in order. -/
def postedOutcomes (site : Site) (occurrences : List Occurrence) : List Outcome :=
  collected Occurrence.next Occurrence.posts site occurrences

/-- Over a course, of what was in flight and what begins, what ends is posted if it is worth it. -/
theorem course_posts (site : Site) (occurrences : List Occurrence) :
    (site.inFlight ++ begunPolls site occurrences).filter Outcome.isDelivered =
      postedOutcomes site occurrences ++
        (course site occurrences).inFlight.filter Outcome.isDelivered := by
  induction occurrences generalizing site with
  | nil => rw [begunPolls, collected, List.append_nil]; rfl
  | cons occurrence occurrences ih =>
    let between := occurrence.next site
    have begun : begunPolls site (occurrence :: occurrences) =
        occurrence.1.begins site ++ begunPolls between occurrences := rfl
    have posted : postedOutcomes site (occurrence :: occurrences) =
        occurrence.posts site ++ postedOutcomes between occurrences := rfl
    -- What is in flight between the first occurrence and the others ends in these.
    have later := ih between
    rw [List.filter_append] at later
    rw [begun, posted, ← List.append_assoc, List.filter_append, occurrence_posts,
      List.append_assoc, later, List.append_assoc]
    rfl

/-- The outcome of a poll is a record. -/
def Outcome.isRecord : Outcome → Bool
  | .ok message => message.hasData
  | .error _ => false

/-- A record is worth delivering. -/
theorem Outcome.isDelivered_of_isRecord {outcome : Outcome} (record : outcome.isRecord = true) :
    outcome.isDelivered = true := by
  cases outcome with
  | error error => cases record
  | ok message =>
    have code : message.error = .noError := by
      simpa [Outcome.isRecord, Message.hasData] using record
    simp [Outcome.isDelivered, Message.isTimeout, code]

/-- The records among outcomes are those among the ones worth delivering. -/
theorem filter_isRecord (outcomes : List Outcome) :
    (outcomes.filter Outcome.isDelivered).filter Outcome.isRecord =
      outcomes.filter Outcome.isRecord := by
  rw [List.filter_filter]
  refine List.filter_congr fun outcome _ => ?_
  cases record : outcome.isRecord with
  | false => rfl
  | true => exact Outcome.isDelivered_of_isRecord record

/-- A move of the consume loop. -/
def Moment.MovesLoop : Moment → Prop
  | .startLoop _ _ | .advanceLoop _ | .stopLoop _ _ => True
  | .operate _ | .surroundings _ _ _ => False

/-- A move of the loop that begins no poll leaves the handle and the cluster alone. -/
theorem untouched_of_calm {moment : Moment} (moves : moment.MovesLoop)
    (calm : moment.begins site = []) (inside : StateM Site Unit) :
    (moment.perform inside site).2.consumer.connection = site.consumer.connection ∧
      (moment.perform inside site).2.cluster = site.cluster := by
  let reached (site : Site) := (site.consumer.connection, site.cluster)
  have books {action : StateM Site Unit} (books : Acts (fun _ => False) False action site) :
      (action site).2.consumer.connection = site.consumer.connection ∧
        (action site).2.cluster = site.cluster := by
    have same : reached (action site).2 = reached site :=
      view_of_books (fun site _ core => congrArg (·, site.cluster) (congrArg Core.connection core))
        books
    exact Prod.mk.inj same
  cases moment with
  | operate operation => exact moves.elim
  | surroundings boundary others created => exact moves.elim
  | startLoop timeout sleepDelay =>
    exact books (.andThen (Does.consumeLoop timeout sleepDelay site) (.idle rfl))
  | stopLoop wait reportsPanic =>
    exact books (.andThen (Does.stopLoop wait reportsPanic site) (.idle rfl))
  | advanceLoop workerFree =>
    obtain ⟨loop, present, waiting, rfl⟩ | ⟨_, _, still⟩ := advanceLoop_cases workerFree site
    · obtain ⟨settings, cancelled, phase⟩ := loop
      cases waiting
      unfold Moment.begins at calm
      rw [present] at calm
      cases calm
    · exact books still

/-- What the consume loops of a consumer make of their polls in a course. -/
structure Site.LoopsFaithful (site : Site) (occurrences : List Occurrence) : Prop where
  /-- Of the poll in flight before and those that begin, those that end are posted if they are worth
  it, each once and in their order; the last one may be in flight still. -/
  posts : (site.inFlight ++ begunPolls site occurrences).filter Outcome.isDelivered =
    postedOutcomes site occurrences ++
      (course site occurrences).inFlight.filter Outcome.isDelivered
  /-- Where no loop is running before and after, the records that the loops took are those that they
  posted. -/
  records : site.consumer.isLoopRunning = false →
    (course site occurrences).consumer.isLoopRunning = false →
    (begunPolls site occurrences).filter Outcome.isRecord =
      (postedOutcomes site occurrences).filter Outcome.isRecord

/-- Whatever signals a consume loop gets, it is faithful to its polls. Whatever happens at a
consumer, what its loops post comes after what they posted before, until another one starts when
nothing is in flight; they take nothing from a log but by the polls that they begin; and over any
course, however often they are started and stopped, they post the polls that end and are worth
it. -/
theorem consumeLoops_faithful :
    (∀ loop : ConsumeLoop, loop.Faithful) ∧
    (∀ (site : Site) (occurrence : Occurrence), (occurrence.next site).consumer.deliveries =
        site.consumer.deliveries ++ occurrence.posts site ∨
      (site.inFlight = [] ∧ (occurrence.next site).consumer.deliveries = [])) ∧
    (∀ (site : Site) (occurrence : Occurrence), occurrence.1.MovesLoop →
      occurrence.1.begins site = [] →
      (occurrence.next site).consumer.connection = site.consumer.connection ∧
        (occurrence.next site).cluster = site.cluster) ∧
    ∀ (site : Site) (occurrences : List Occurrence), site.LoopsFaithful occurrences := by
  refine ⟨ConsumeLoop.faithful, ?_, ?_, ?_⟩
  · intro site occurrence
    obtain accounts | ⟨_, nothing, _, fresh⟩ := occurrence_accounts site occurrence
    · obtain ⟨posted, grown, _⟩ := accounts
      refine .inl ?_
      rw [Occurrence.posts, grown, List.drop_left]
    · exact .inr ⟨nothing, fresh⟩
  · exact fun site occurrence moves calm => untouched_of_calm moves calm occurrence.2.perform
  · intro site occurrences
    have posts := course_posts site occurrences
    refine ⟨posts, fun before after => ?_⟩
    rw [inFlight_of_settled before, inFlight_of_settled after, List.nil_append, List.filter_nil,
      List.append_nil] at posts
    rw [← posts, filter_isRecord]

/-- Of two loops the first one is stopped while it is polling, and the second one before its second
poll. Both records that they took are posted. -/
theorem consumeLoops_faithful_stopping :
    let key : PartitionKey := ⟨"log", 0⟩
    let record : Record := { key := none, payload := [1], timestamp := 0 }
    let cluster := (((Cluster.createTopic {} "log" 1).produce key record).2.produce key record).2
    let ready := course { consumer := { config := {}, boundary := {} }, cluster }
      [(.operate .connect, .script),
        (.operate (.assign [{ topic := "log", partition := 0, offset := .beginning }]), .script)]
    let advance : Occurrence := (.advanceLoop true, .script)
    let start : Occurrence := (.startLoop none none, .script)
    let stop : Occurrence := (.stopLoop 1000 true, .script)
    let occurrences := [start, advance, advance, stop, start, advance, advance, advance, stop]
    ((begunPolls ready occurrences).filter Outcome.isRecord).length = 2 ∧
      (begunPolls ready occurrences).filter Outcome.isRecord =
        (postedOutcomes ready occurrences).filter Outcome.isRecord := by
  intro key record cluster ready advance start stop occurrences
  have before : ready.consumer.isLoopRunning = false := by decide +kernel
  have after : (course ready occurrences).consumer.isLoopRunning = false := by decide +kernel
  have took : ((begunPolls ready occurrences).filter Outcome.isRecord).length = 2 := by
    decide +kernel
  exact ⟨took, (consumeLoops_faithful.2.2.2 ready occurrences).records before after⟩

end LogConsumer
