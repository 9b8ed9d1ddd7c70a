import LogConsumer.Proofs.Consumer.Refusals
import LogConsumer.Proofs.Consumer.Tallies

/-!
# What is counted, and where

Every operation of a consumer and every move of its consume loop is tallied: a consume polls once
and counts the outcome, a commit that reaches the handle is counted with its result, a poll of the
loop is counted when it ends, and nothing else polls, commits or moves a counter
(`occurrence_tallies`).
-/
namespace LogConsumer

open Consumer

variable {site : Site} {may : Entry → Prop} {makes : ClientCall → Prop} {resets : Prop} {α : Type}

namespace Entry

/-- The entry is about a poll. -/
def OfPoll : Entry → Prop
  | .polled _ _ | .counted _ => True
  | _ => False

/-- The entry counts a poll that has ended. -/
def OfCount : Entry → Prop
  | .counted _ => True
  | _ => False

/-- The entry is about a commit. -/
def OfCommit : Entry → Prop
  | .committed _ _ => True
  | _ => False

/-- What counts a poll is about a poll. -/
theorem ofPoll_of_ofCount {entry : Entry} (counts : entry.OfCount) : entry.OfPoll := by
  cases entry with
  | counted outcome => exact trivial
  | _ => exact counts.elim

end Entry

/-- What may be written down where an operation is performed; `closing` is what may be written down
from inside a close. -/
def Operation.May (closing : Entry → Prop) : Operation → Entry → Prop
  | .consume _ | .consumeMany _ _ _ => Entry.OfPoll
  | .commit _ _ => Entry.OfCommit
  | .disconnect => fun entry => entry.OfCount ∨ closing entry
  | _ => fun _ => False

/-- What may be written down from inside a close. -/
def Inside.May : Inside → Entry → Prop
  | .script => fun _ => False
  | .course _ => (· = .surrounded)

/-- What may be written down where something happens. -/
def Occurrence.May (occurrence : Occurrence) : Entry → Prop :=
  match occurrence.1 with
  | .operate operation => operation.May occurrence.2.May
  | .startLoop _ _ => fun _ => False
  | .advanceLoop _ => Entry.OfPoll
  | .stopLoop _ _ => Entry.OfCount
  | .surroundings _ _ _ => (· = .surrounded)

/-- A change of the boundary or of what is not written down keeps the trail. -/
theorem trail_of_act {site' : Site}
    (quiet : ∀ request, makes request → (Call.onHandle request).isTallied = false)
    (act : Act makes resets site site') : site'.trail = site.trail := by
  cases act with
  | tidy same =>
    have calls := congrArg Core.calls same
    unfold Site.trail Site.traces
    exact congrArg (fun calls : List TracedCall => (calls.filter _, site.cluster.polls)) calls
  | reset partitions subscriptionFlag may => rfl
  | told admits may => exact trail_note (quiet _ may) _ _
  | @reached client request admits may =>
    refine Prod.ext rfl ?_
    refine ClientCall.keeps_polls _ (fun timeout same => ?_) ⟨client, site.cluster⟩
    have quiet := quiet request may
    rw [same] at quiet
    cases quiet

/-- What neither polls nor commits keeps the trail. -/
theorem trail_of_acts {action : StateM Site α}
    (quiet : ∀ request, makes request → (Call.onHandle request).isTallied = false)
    (acts : Acts makes resets action site) : (action site).2.trail = site.trail :=
  (acts.mono fun _ _ => trail_of_act quiet).whole (fun _ => rfl)
    fun _ _ _ before after => after.trans before

/-- What only keeps books keeps the trail. -/
theorem trail_of_books {action : StateM Site α} (books : Acts (fun _ => False) False action site) :
    (action site).2.trail = site.trail :=
  trail_of_acts (fun _ => False.elim) books

/-- Only consuming and committing call a handle to poll or to commit. -/
theorem Operation.isTallied_of_makes {operation : Operation} (uncounted : ¬operation.IsCounted)
    {request : ClientCall} (made : operation.Makes request) :
    (Call.onHandle request).isTallied = false := by
  cases operation with
  | commit | consume | consumeMany => exact absurd trivial uncounted
  | connect =>
    obtain rfl | ⟨_, rfl⟩ := made <;> rfl
  | seek | committed | storeOffset | offsetsForTimes | queryWatermarks =>
    obtain ⟨_, rfl⟩ := made
    rfl
  | hasAssigned | name | isClosing | isConnected | activate | deactivate | metrics =>
    exact made.elim
  | _ =>
    cases made
    rfl

/-- Connecting neither polls nor commits. -/
theorem keeps_trail_connect : Keeps Site.trail connect.run := by
  let Same (site site' : Site) : Prop := site'.trail = site.trail
  intro site
  have does : Does Same Consumer.connect.run site := by
    have books {α : Type} {action : StateM Site α} {site : Site}
        (books : Acts (fun _ => False) False action site) : Does Same action site :=
      .single (trail_of_books books)
    rw [connect_eq]
    refine .get (.either (.lift (.single (trail_note rfl _ _)) ?_) (.pure _))
    refine .bind (books (.takeHookFault .prepare)) fun _ prepared _ => ?_
    have installs : Same prepared (installHandle.run prepared).2 := by
      obtain ⟨_, result⟩ | ⟨_, _, _, result⟩ | ⟨_, _, result⟩ := installHandle_cases prepared
      · exact congrArg (fun ran => ran.2.trail) result
      · exact (congrArg (fun ran => ran.2.trail) result).trans (trail_note rfl none prepared)
      · exact (congrArg (fun ran => ran.2.trail) result).trans (trail_note rfl none prepared)
    refine .bind (.single installs) fun installed site' result => ?_
    cases installed with
    | none => exact .pure _
    | some client =>
      refine .greet (connection_of_installHandle result) (fun _ _ => trail_of_act ?_)
        fun site opened => trail_note rfl _ _
      rintro request (rfl | ⟨_, rfl⟩) <;> rfl
  exact does.whole (fun _ => rfl) fun _ _ _ before after => after.trans before

/-- An operation that neither polls nor commits keeps the trail. -/
theorem keeps_trail {operation : Operation} (inside : StateM Site Unit)
    (closes : operation ≠ .disconnect) (uncounted : ¬operation.IsCounted) :
    Keeps Site.trail (operation.perform inside).run := by
  intro site
  by_cases opens : operation = .connect
  · subst opens
    exact Keeps.andThen keeps_trail_connect (fun _ => .pure _) site
  · exact trail_of_acts (fun _ => Operation.isTallied_of_makes uncounted)
      (.perform inside opens closes site)

/-- Where the loop is the same, so is what has still to be counted. -/
theorem pending_of_looping {site' : Site} (same : site'.looping = site.looping) :
    site'.pending = site.pending := by
  unfold Site.pending Site.inFlight
  rw [show site'.consumer.loop = site.consumer.loop from congrArg Prod.fst same]

/-- An operation that neither polls nor commits nor disconnects has nothing written down. -/
theorem quiet_tallies {operation : Operation} (inside : StateM Site Unit)
    (closes : operation ≠ .disconnect) (uncounted : ¬operation.IsCounted) (site : Site) :
    Site.Tallies may site ((operation.perform inside).run site).2 := by
  have counting := keeps_counting inside closes uncounted site
  have metrics : ((operation.perform inside).run site).2.consumer.metrics =
      site.consumer.metrics := congrArg Prod.snd counting
  refine .aside (Prod.ext metrics (keeps_trail inside closes uncounted site)) ?_
  exact pending_of_looping (congrArg Prod.fst counting)

/-- Beginning to poll is refused, or the open handle is polled with its timeout raised to the
configured minimum. -/
theorem beginPoll_cases (timeout : Nat) (site : Site) :
    ((∀ client, site.consumer.connection ≠ .connected client) ∧
      (beginPoll timeout).run site = (.error .notConnected, site)) ∨
    ∃ client, site.consumer.connection = .connected client ∧
      let clamped := site.consumer.config.clampTimeout timeout
      (beginPoll timeout).run site =
        (.ok (Client.poll clamped ⟨client, site.cluster⟩).1, site.polled client clamped) := by
  unfold beginPoll
  obtain ⟨client, opened, passed⟩ | ⟨absent, refused⟩ := openHandle_cases site
  · rw [run_bind_ok passed]
    exact .inr ⟨client, opened, rfl⟩
  · exact .inl ⟨absent, run_bind_error refused⟩

/-- A consume is refused, with nothing changed, or it polls the open handle once, counts the
outcome, and answers it. -/
theorem consume_cases (timeout : Nat) (site : Site) :
    ((∀ client, site.consumer.connection ≠ .connected client) ∧
      (consume timeout).run site = (.error .notConnected, site)) ∨
    ∃ client, site.consumer.connection = .connected client ∧
      let clamped := site.consumer.config.clampTimeout timeout
      let outcome := Outcome.ofMessage (Client.poll clamped ⟨client, site.cluster⟩).1.message
      (consume timeout).run site =
        (outcome, (countOutcome outcome (site.polled client clamped)).2) := by
  unfold consume
  obtain ⟨absent, refused⟩ | ⟨client, opened, began⟩ := beginPoll_cases timeout site
  · exact .inl ⟨absent, run_bind_error refused⟩
  · rw [run_bind_ok began]
    exact .inr ⟨client, opened, rfl⟩

/-- A commit is refused, with nothing changed, or it reaches the open handle, is counted, and
answers what the handle answers. -/
theorem commit_cases (partitions : Option (List TopicPartition)) (mode : CommitMode) (site : Site) :
    (∃ error, (commit partitions mode).run site = (.error error, site) ∧
      Outcome.isFailure (.error error) = false) ∨
    ∃ client, site.consumer.connection = .connected client ∧
      (commit partitions mode).run site =
        (((Client.commit partitions).run ⟨client, site.cluster⟩).1.mapError .protocol,
          site.committed client partitions mode) := by
  unfold commit
  obtain ⟨client, opened, passed⟩ | ⟨_, refused⟩ := openHandle_cases site
  · rw [run_bind_ok passed]
    obtain ⟨_, formed⟩ | ⟨fault, _, malformed⟩ := requireWellFormed_cases (partitions.getD []) site
    · refine .inr ⟨client, opened, ?_⟩
      let ran := (Client.commit partitions).run ⟨client, site.cluster⟩
      let call := site.traced client (.commit partitions mode)
      have traced : (trace client (.commit partitions mode) : Action Unit).run site =
          (.ok (), call) := rfl
      have reached : (onHandle client (Client.commit partitions).run).run call =
          (.ok ran.1, call.linked ran.2) := rfl
      have counted : (update fun consumer => { consumer with
            metrics := consumer.metrics.recordCommit ran.1.toBool } : Action Unit).run
          (call.linked ran.2) = (.ok (), site.committed client partitions mode) := rfl
      rw [run_bind_ok formed, run_bind_ok traced, run_bind_ok reached, run_bind_ok counted]
      cases ran.1 <;> rfl
    · exact .inl ⟨_, run_bind_error malformed, rfl⟩
  · exact .inl ⟨_, run_bind_error refused, rfl⟩

/-- What a consume and a commit answer, and what is written down of them. -/
structure Site.Answers (site : Site) : Prop where
  /-- A consume polls the open handle once and answers the outcome, or it is refused and nothing is
  written down. -/
  consume : ∀ timeout, ∃ entries, site.Tallied entries ((consume timeout).run site).2 ∧
    ((∃ call message, entries = [.polled call message, .counted (.ofMessage message)] ∧
      ((consume timeout).run site).1 = Outcome.ofMessage message) ∨
    (entries = [] ∧ ((consume timeout).run site).1 = .error .notConnected))
  /-- A commit reaches the open handle and is written down as it answers, or it is refused for
  another reason than a failure of the client and nothing is written down. -/
  commit : ∀ partitions mode, ∃ entries,
    site.Tallied entries ((commit partitions mode).run site).2 ∧
    ((∃ call, entries = [.committed call ((commit partitions mode).run site).1.toBool]) ∨
    (entries = [] ∧ ∃ error, ((commit partitions mode).run site).1 = .error error ∧
      Outcome.isFailure (.error error) = false))

/-- A consume and a commit answer what is written down of them. -/
theorem answers (site : Site) : site.Answers where
  consume timeout := by
    have pending := pending_of_looping (keeps_consume aloof_looping (fun _ _ => rfl) timeout site)
    obtain ⟨_, refused⟩ | ⟨client, opened, polled⟩ := consume_cases timeout site
    · rw [refused]
      exact ⟨[], .refl, .inr ⟨rfl, rfl⟩⟩
    · rw [polled] at pending ⊢
      refine ⟨_, ⟨.head (.polls opened _) (.single (.counts _)), ?_⟩, .inl ⟨_, _, rfl, rfl⟩⟩
      rw [pending]
      exact List.perm_append_comm
  commit partitions mode := by
    obtain ⟨error, refused, other⟩ | ⟨client, opened, reached⟩ := commit_cases partitions mode site
    · rw [refused]
      exact ⟨[], .refl, .inr ⟨rfl, error, rfl, other⟩⟩
    · rw [reached]
      let call : TracedCall := ⟨client.serial, .onHandle (.commit partitions mode)⟩
      refine ⟨_, ⟨.single (.commits opened partitions mode), ?_⟩, .inl ⟨call, ?_⟩⟩
      · exact .of_eq (List.append_nil _)
      · cases ((Client.commit partitions).run ⟨client, site.cluster⟩).1 <;> rfl

/-- A consume polls once and counts the outcome, or is refused. -/
theorem consume_tallies (timeout : Nat) (site : Site) :
    Site.Tallies Entry.OfPoll site ((consume timeout).run site).2 := by
  obtain ⟨entries, tallied, ⟨_, _, rfl, _⟩ | ⟨rfl, _⟩⟩ := (answers site).consume timeout
  · exact ⟨_, tallied, by simp [Entry.OfPoll]⟩
  · exact ⟨_, tallied, by simp⟩

/-- A gathering polls and counts again and again. -/
theorem gather_tallies (count : Nat) (next : Option Nat) (limit : Nat) (gathering : Gathering)
    (site : Site) : Site.Tallies Entry.OfPoll site (gather count next limit gathering site).2 := by
  induction limit generalizing gathering site with
  | zero => exact .refl
  | succ limit ih =>
    unfold gather
    split
    · exact .refl
    · refine (consume_tallies gathering.timeout site).trans ?_
      rw [run_then]
      cases gathering.receive next _ with
      | going gathering => exact ih gathering _
      | ended result => exact .refl

/-- A commit that reaches the handle is counted with its result, and no other one is. -/
theorem commit_tallies (partitions : Option (List TopicPartition)) (mode : CommitMode)
    (site : Site) :
    Site.Tallies Entry.OfCommit site ((commit partitions mode).run site).2 := by
  obtain ⟨entries, tallied, ⟨_, rfl⟩ | ⟨rfl, _⟩⟩ := (answers site).commit partitions mode
  · exact ⟨_, tallied, by simp [Entry.OfCommit]⟩
  · exact ⟨_, tallied, by simp⟩

/-- A signal moves no counter and makes no call. -/
theorem keeps_tally_signalLoop (signal : LoopSignal) : Keeps Site.tally (signalLoop signal) := by
  intro site
  refine Prod.ext ?_ (trail_of_books (Does.signalLoop signal site))
  have told (condition : Prop) [Decidable condition] (event : Event) :
      Keeps (fun site => site.consumer.metrics) (if condition then publish event else pure ()) :=
    .either (fun _ => rfl) (.pure _)
  cases present : site.consumer.loop with
  | none => rw [signalLoop_idle present]
  | some loop =>
    unfold signalLoop
    rw [run_read, present]
    exact told _ _ _

/-- What is in flight and what begins with a signal is what ends with it and what is in flight
then. -/
theorem inFlight_signalLoop {loop : ConsumeLoop} (present : site.consumer.loop = some loop)
    (signal : LoopSignal) (sound : signal ≠ .panic) :
    site.inFlight ++ loop.begun signal =
      loop.finished signal ++ (signalLoop signal site).2.inFlight := by
  obtain ⟨next, _⟩ := Prod.mk.inj (looping_signalLoop present signal)
  unfold Site.inFlight
  rw [present, next]
  exact loop.step_accounts signal sound

/-- A signal with which no poll begins or ends has nothing written down. -/
theorem signalLoop_tallies (signal : LoopSignal) (sound : signal ≠ .panic)
    (calm : ∀ loop : ConsumeLoop, loop.begun signal = [] ∧ loop.finished signal = [])
    (site : Site) : Site.Tallies may site (signalLoop signal site).2 := by
  refine .aside (keeps_tally_signalLoop signal site) ?_
  unfold Site.pending
  cases present : site.consumer.loop with
  | none => rw [signalLoop_idle present]
  | some loop =>
    obtain ⟨begun, finished⟩ := calm loop
    have accounts := inFlight_signalLoop present signal sound
    rw [begun, finished, List.append_nil, List.nil_append] at accounts
    rw [accounts]

/-- The poll of the loop is counted when it ends. A refusal to poll is not. -/
theorem endLoopPoll_tallies (site : Site) :
    Site.Tallies Entry.OfCount site (endLoopPoll site).2 := by
  obtain ⟨still, _⟩ | ⟨loop, outcome, present, flying, ends⟩ := endLoopPoll_cases site
  · rw [still]
    exact .refl
  · have before : site.inFlight = [outcome] := by
      rw [Site.inFlight, present]
      exact flying
    have after := (endLoopPoll_accounts site).2
    -- A refusal to poll called no handle: it was not pending, and counting it counts nothing.
    have signalled := keeps_tally_signalLoop .pollEnded (countOutcome outcome site).2
    rw [← ends] at signalled
    cases polled : outcome.isPolled with
    | true =>
      refine ⟨_, ⟨.head (.counts outcome) (.single (.aside signalled)), ?_⟩, ?_⟩
      · unfold Site.pending
        rw [before, after, List.filter_singleton, polled]
        exact .refl _
      · simp [Entry.OfCount]
    | false =>
      have refused : (countOutcome outcome site).2.tally = site.tally :=
        Prod.ext (Metrics.recordOutcome_of_refused polled _) rfl
      refine .aside (signalled.trans refused) ?_
      unfold Site.pending
      rw [before, after, List.filter_singleton, polled]
      rfl

/-- Taking away a loop that has nothing in flight has nothing written down. -/
theorem clearLoop_tallies (settled : site.inFlight = []) (reportsPanic : Bool) :
    Site.Tallies may site ((clearLoop reportsPanic).run site).2 := by
  have still : Keeps Site.tally (clearLoop reportsPanic).run :=
    .lift (keeps_tally_signalLoop .look) fun _ => .afterReading fun _ =>
      .lift (.change fun _ => rfl) fun _ => .eitherThen (.throw _) (.pure _)
  obtain ⟨_, loopless⟩ := clearLoop_accounts settled reportsPanic
  refine .aside (still site) ?_
  unfold Site.pending
  rw [settled, Site.inFlight, loopless]
  rfl

/-- Stopping the loop counts the poll that ends with it. -/
theorem stopLoop_tallies (wait : Nat) (reportsPanic : Bool) (site : Site) :
    Site.Tallies Entry.OfCount site ((stopLoop wait reportsPanic).run site).2 := by
  let cancelled := (signalLoop .cancel site).2
  have cancels : Site.Tallies Entry.OfCount site cancelled :=
    signalLoop_tallies .cancel nofun (fun _ => ⟨rfl, rfl⟩) site
  obtain ⟨nothing, _⟩ | late | clears := stopLoop_cases wait reportsPanic site
  · rw [nothing]
    exact .refl
  · rw [late]
    exact cancels.trans (signalLoop_tallies (.elapse wait) nofun (fun _ => ⟨rfl, rfl⟩) cancelled)
  · rw [clears]
    refine (cancels.trans (endLoopPoll_tallies cancelled)).trans ?_
    exact clearLoop_tallies (endLoopPoll_accounts cancelled).2 reportsPanic

/-- Starting a loop has nothing written down. -/
theorem consumeLoop_tallies (timeout sleepDelay : Option Nat) (site : Site) :
    Site.Tallies may site ((consumeLoop timeout sleepDelay).run site).2 := by
  have starts (settings : LoopSettings) : Keeps Site.tally (startLoop settings).run :=
    .afterReading fun _ => .eitherThen (.throw _) (.change fun _ => rfl)
  have still : Keeps Site.tally (consumeLoop timeout sleepDelay).run :=
    .afterReading fun _ => .eitherThen (.throw _) (.andThen (starts _) fun _ _ => rfl)
  refine .aside (still site) ?_
  obtain refused | ⟨before, after, _⟩ := consumeLoop_cases timeout sleepDelay site
  · rw [refused]
  · unfold Site.pending
    rw [before, after]

/-- A loop that begins a poll polls the handle, or is refused; the outcome is still to be
counted. -/
theorem advanceLoop_tallies_waiting {loop : ConsumeLoop}
    (present : site.consumer.loop = some loop) (waiting : loop.phase = .waiting) :
    Site.Tallies Entry.OfPoll site (advanceLoop true site).2 := by
  obtain ⟨duration, goes⟩ := advanceLoop_waiting present waiting
  unfold Site.pollOutcome at goes
  have before : site.inFlight = [] := by
    rw [Site.inFlight, present, Option.map_some, ConsumeLoop.inFlight, waiting]
    rfl
  -- The outcome is in flight from now on, and balances the message until it is counted.
  have after (outcome : Outcome) (polled : Site) (there : polled.consumer.loop = some loop) :
      (signalLoop (.pollBegan outcome duration) polled).2.inFlight = [outcome] := by
    obtain ⟨next, _⟩ := Prod.mk.inj (looping_signalLoop there (.pollBegan outcome duration))
    rw [Site.inFlight, next]
    exact ConsumeLoop.inFlight_pollBegan waiting outcome duration
  have still (outcome : Outcome) := keeps_tally_signalLoop (.pollBegan outcome duration)
  rw [goes]
  obtain ⟨_, refused⟩ | ⟨client, opened, polled⟩ := beginPoll_cases loop.settings.timeout site
  · rw [refused]
    refine .aside (still _ site) ?_
    unfold Site.pending
    rw [before, after _ site present]
    rfl
  · rw [polled]
    refine ⟨_, ⟨.head (.polls opened _) (.single (.aside (still _ _))), ?_⟩, by simp [Entry.OfPoll]⟩
    unfold Site.pending
    rw [before, after _ (site.polled client _) present, List.filter_singleton,
      Outcome.isPolled_ofMessage]
    exact .refl _

/-- A step of the loop polls, or counts the poll that ends, or has nothing written down. -/
theorem advanceLoop_tallies (workerFree : Bool) (site : Site) :
    Site.Tallies Entry.OfPoll site (advanceLoop workerFree site).2 := by
  cases present : site.consumer.loop with
  | none =>
    rw [advanceLoop_idle present]
    exact .refl
  | some loop =>
    by_cases begins : loop.phase = .waiting ∧ workerFree = true
    · obtain ⟨waiting, rfl⟩ := begins
      exact advanceLoop_tallies_waiting present waiting
    · rw [advanceLoop, run_read, present]
      dsimp only
      cases phase : loop.phase with
      | checking => exact signalLoop_tallies .look nofun (fun _ => ⟨rfl, rfl⟩) site
      | waiting =>
        rw [phase] at begins
        rw [if_neg fun free => begins ⟨rfl, free⟩]
        exact .refl
      | polling outcome remaining =>
        exact (endLoopPoll_tallies site).mono fun _ => Entry.ofPoll_of_ofCount
      | backingOff => exact signalLoop_tallies .wake nofun (fun _ => ⟨rfl, rfl⟩) site
      | exited panicked => exact .refl

/-- A counted operation changes nothing where no handle is open. -/
theorem still_of_isCounted {operation : Operation} (counted : operation.IsCounted)
    (absent : site.consumer.connection.state ≠ .connected) (inside : StateM Site Unit) :
    ((operation.perform inside).run site).2 = site := by
  cases operation with
  | consume timeout =>
    exact congrArg Prod.snd ((Operation.consume timeout).run_of_refused inside absent)
  | commit partitions mode =>
    exact congrArg Prod.snd ((Operation.commit partitions mode).run_of_refused inside absent)
  | consumeMany count timeout firstOnly =>
    have whole : ((Operation.consumeMany count timeout firstOnly).perform inside).run site = _ :=
      run_map (consumeMany count timeout firstOnly) Reply.batch site
    rw [whole]
    exact consumeMany_idle absent count timeout firstOnly
  | _ => exact counted.elim

/-- An operation from inside a close has nothing written down. -/
theorem operate_tallies_inside (operation : Operation) (shutting : site.Shutting) :
    Site.Tallies may site ((operation.perform (pure ())).run site).2 := by
  by_cases closes : operation = .disconnect
  · have still : ((Operation.disconnect.perform (pure ())).run site).2 = site := by
      have disconnects := operate_disconnect (pure ()) site
      rw [disconnect_idle shutting.not_connected shutting.loopless] at disconnects
      exact disconnects
    rw [closes, still]
    exact .refl
  · by_cases counted : operation.IsCounted
    · rw [still_of_isCounted counted shutting.not_connected]
      exact .refl
    · exact quiet_tallies _ closes counted site

/-- Other surroundings are written down as such. -/
theorem surround_tallies (boundary : Boundary) (others : Cluster) (created : Nat) (site : Site) :
    Site.Tallies (· = .surrounded) site (Moment.surround boundary others created site) := by
  have traced : ({ boundary with calls := site.consumer.boundary.calls } : Boundary).calls =
      site.consumer.boundary.calls := rfl
  exact .surrounded traced _

/-- What happens while the handle is being closed has nothing written down but its surroundings. -/
theorem moment_tallies_inside (moment : Moment) (shutting : site.Shutting) :
    Site.Tallies (· = .surrounded) site (moment.perform (pure ()) site).2 := by
  have unchanged {final : Site} (same : final = site) :
      Site.Tallies (· = .surrounded) site final := by
    rw [same]
    exact .refl
  cases moment with
  | operate operation => exact operate_tallies_inside operation shutting
  | startLoop timeout sleepDelay => exact consumeLoop_tallies timeout sleepDelay site
  | advanceLoop workerFree => exact unchanged (advanceLoop_idle shutting.loopless workerFree)
  | stopLoop wait reportsPanic =>
    exact unchanged (congrArg Prod.snd (stopLoop_idle shutting.loopless wait reportsPanic))
  | surroundings boundary others created => exact surround_tallies boundary others created site

/-- From inside a close nothing is written down but its surroundings. -/
theorem inside_tallies (inside : Inside) (shutting : site.Shutting) :
    Site.Tallies inside.May site (inside.perform site).2 := by
  cases inside with
  | script =>
    refine forM_inside _ (fun _ => .refl) (fun _ _ _ => .trans)
      (fun site operation shutting => ?_) _ shutting
    have still := (operate_shuts operation shutting).1
    refine ⟨⟨still.closing, still.loopless⟩, (operate_tallies_inside operation shutting).trans ?_⟩
    exact .aside rfl rfl
  | course moments =>
    exact forM_inside _ (fun _ => .refl) (fun _ _ _ => .trans) (fun site moment shutting =>
      ⟨(moment_shuts moment shutting).1, moment_tallies_inside moment shutting⟩) moments shutting

/-- Letting the handle go has nothing written down. -/
theorem letGo_tallies (client : Client) (site : Site) :
    Site.Tallies may site ((letGo client).run site).2 := by
  have releases : Keeps Site.tally (releaseHandle client).run := by
    intro site
    rw [releaseHandle_run]
    refine Prod.ext rfl (Prod.ext rfl ?_)
    exact ClientCall.keeps_polls .close nofun ⟨_, site.cluster⟩
  have still : Keeps Site.tally (letGo client).run :=
    keeps_letGo releases fun _ _ => rfl
  exact .aside (still site) (pending_of_looping (keeps_looping_letGo client site))

/-- A disconnect counts the poll of the loop that it stops, and what runs from inside the close is
written down. -/
theorem disconnect_tallies {inside : StateM Site Unit} {closing : Entry → Prop}
    (runs : ∀ site : Site, site.Shutting → Site.Tallies closing site (inside site).2)
    (site : Site) :
    Site.Tallies (Operation.May closing .disconnect) site
      ((Consumer.disconnect inside).run site).2 := by
  let wait := site.consumer.config.loopStopTimeout
  have stops : Site.Tallies (Operation.May closing .disconnect) site
      ((stopLoop wait false).run site).2 :=
    (stopLoop_tallies wait false site).mono fun _ => .inl
  have loopless := (stopLoop_accounts wait false site).2
  obtain stopped | ⟨done, client, _, shut⟩ := disconnect_branches inside site
  · rw [stopped]
    exact stops
  · let stopped := ((stopLoop wait false).run site).2
    have begins : (stopped.shutting client).Shutting := ⟨rfl, loopless done⟩
    have begun : Site.Tallies (Operation.May closing .disconnect) stopped
        (stopped.shutting client) := .aside (Prod.ext rfl (trail_note rfl _ _)) rfl
    have runs := (runs _ begins).mono fun entry made =>
      (.inr made : Operation.May closing .disconnect entry)
    rw [shut]
    exact ((stops.trans begun).trans runs).trans (letGo_tallies client _)

/-- Every operation has written down what it may. -/
theorem operation_tallies (operation : Operation) {inside : StateM Site Unit}
    {closing : Entry → Prop}
    (runs : ∀ site : Site, site.Shutting → Site.Tallies closing site (inside site).2)
    (site : Site) :
    Site.Tallies (operation.May closing) site ((operation.perform inside).run site).2 := by
  have quiet (closes : operation ≠ .disconnect) (uncounted : ¬operation.IsCounted) :
      Site.Tallies (operation.May closing) site ((operation.perform inside).run site).2 :=
    quiet_tallies inside closes uncounted site
  cases operation with
  | disconnect =>
    have whole : (Operation.disconnect.perform inside).run site = _ :=
      run_map (Consumer.disconnect inside) (fun _ => Reply.done) site
    rw [whole]
    exact disconnect_tallies runs site
  | consume timeout =>
    have whole : ((Operation.consume timeout).perform inside).run site = _ :=
      run_map (consume timeout) Reply.message site
    rw [whole]
    exact consume_tallies timeout site
  | consumeMany count timeout firstOnly =>
    have whole : ((Operation.consumeMany count timeout firstOnly).perform inside).run site = _ :=
      run_map (consumeMany count timeout firstOnly) Reply.batch site
    rw [whole]
    exact gather_tallies count _ _ _ site
  | commit partitions mode =>
    have whole : ((Operation.commit partitions mode).perform inside).run site = _ :=
      run_map (commit partitions mode) (fun _ => Reply.done) site
    rw [whole]
    exact commit_tallies partitions mode site
  | _ => exact quiet nofun id

end LogConsumer
