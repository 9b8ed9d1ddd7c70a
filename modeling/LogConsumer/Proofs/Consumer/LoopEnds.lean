import LogConsumer.Proofs.Consumer.SingleLoop
import LogConsumer.Proofs.Consumer.Telling

/-!
# Telling of the consume loop

A consume loop that goes on without breaking off ends in order, if it ends, and that is told at once
(`Site.WindsDown`). So a step of the loop, its stop and its start are deeds that the listeners are
told of as they are (`advanceLoop_told`, `stopLoop_told`, `startLoop_told`). A stop that fails finds
the loop still polling, or one that broke off before, and tells nothing.
-/
namespace LogConsumer

open Consumer

variable {site between site' : Site} {loop : ConsumeLoop} {signal : LoopSignal}

namespace ConsumeLoop

/-- Whatever the outcome of a poll, the loop does not break off. -/
theorem receive_orderly (loop : ConsumeLoop) (outcome : Outcome) :
    (loop.receive outcome).2.phase ≠ .exited true := by
  obtain ⟨settings, cancelled, phase⟩ := loop
  unfold receive
  cases outcome with
  | ok message =>
    dsimp only
    cases message.isTimeout with
    | true => cases cancelled <;> exact nofun
    | false => exact nofun
  | error error =>
    dsimp only
    cases error.isState with
    | true => exact nofun
    | false => cases cancelled <;> exact nofun

/-- A loop that has broken off did so before, unless it was told to. -/
theorem next_orderly (sound : signal ≠ .panic) (broken : (loop.next signal).phase = .exited true) :
    loop.phase = .exited true := by
  obtain ⟨settings, cancelled, phase⟩ := loop
  cases signal with
  | panic => exact absurd rfl sound
  | pollEnded =>
    cases phase with
    | polling outcome remaining => exact absurd broken (receive_orderly _ outcome)
    | _ => exact broken
  | look => cases phase <;> cases cancelled <;> first | exact broken | cases broken
  | _ => cases phase <;> first | exact broken | cases broken

/-- A loop broke off if it is over and not in order. -/
theorem isPanicked_iff : loop.isPanicked = true ↔ loop.phase = .exited true := by
  obtain ⟨settings, cancelled, phase⟩ := loop
  cases phase with
  | exited panicked =>
    cases panicked with
    | true => exact ⟨fun _ => rfl, fun _ => rfl⟩
    | false => exact ⟨nofun, nofun⟩
  | _ => exact ⟨nofun, nofun⟩

end ConsumeLoop

/-- Between two sites the consume loop went on without breaking off, and if it ended that was
told. -/
structure Site.WindsDown (site site' : Site) : Prop where
  /-- Nothing is told but that the loop ended. -/
  audience : site'.consumer.audience =
    (site.consumer.ending site'.consumer).foldl .publish site.consumer.audience
  /-- No loop began. -/
  running : site'.consumer.isLoopRunning = true → site.consumer.isLoopRunning = true
  /-- A loop that has broken off did so before. -/
  orderly : site'.consumer.loop.map ConsumeLoop.phase = some (.exited true) →
    site.consumer.loop.map ConsumeLoop.phase = some (.exited true)
  /-- The handle, the subscription and the partitions stay. -/
  apart : (site'.handleName, site'.consumer.subscriptionFlag, site'.consumer.partitions) =
    (site.handleName, site.consumer.subscriptionFlag, site.consumer.partitions)

namespace Site.WindsDown

/-- Where the loop stays, nothing is told. -/
theorem unseen (loop : site'.consumer.loop = site.consumer.loop)
    (audience : site'.consumer.audience = site.consumer.audience)
    (apart : (site'.handleName, site'.consumer.subscriptionFlag, site'.consumer.partitions) =
      (site.handleName, site.consumer.subscriptionFlag, site.consumer.partitions)) :
    site.WindsDown site' := by
  have running : site'.consumer.isLoopRunning = site.consumer.isLoopRunning := by
    unfold isLoopRunning
    rw [loop]
  refine ⟨?_, fun still => running.symm.trans still, fun broken => by rwa [← loop], apart⟩
  rw [ending, running, Bool.and_not_self]
  exact audience

/-- Where nothing happens, nothing is told. -/
theorem refl (site : Site) : site.WindsDown site :=
  unseen rfl rfl rfl

/-- A loop that went on twice went on, and ended once at most. -/
theorem trans (first : site.WindsDown between) (second : between.WindsDown site') :
    site.WindsDown site' := by
  refine ⟨?_, first.running ∘ second.running, first.orderly ∘ second.orderly,
    second.apart.trans first.apart⟩
  have once : site.consumer.ending site'.consumer =
      site.consumer.ending between.consumer ++ between.consumer.ending site'.consumer := by
    have earlier := first.running
    have later := second.running
    unfold ending
    revert earlier later
    generalize site.consumer.isLoopRunning = before
    generalize between.consumer.isLoopRunning = meanwhile
    generalize site'.consumer.isLoopRunning = after
    cases before <;> cases meanwhile <;> cases after <;> simp
  rw [once, List.foldl_append, ← first.audience]
  exact second.audience

/-- A loop that broke off is not running. -/
theorem not_running (broken : site.consumer.loop.map ConsumeLoop.phase = some (.exited true)) :
    site.consumer.isLoopRunning = false := by
  obtain ⟨loop, present, ended⟩ := Option.map_eq_some_iff.mp broken
  rw [isLoopRunning, present, Option.any_some, ConsumeLoop.isOver, ended]
  rfl

end Site.WindsDown

/-- A signal gets to the loop, and the listeners are told if the loop ends in order with it. -/
theorem signalLoop_run (present : site.consumer.loop = some loop) (signal : LoopSignal) :
    (signalLoop signal site).2 =
      { site with consumer := { site.consumer with
          loop := some (loop.next signal)
          deliveries := site.consumer.deliveries ++ (loop.step signal).1.toList
          events :=
            if !loop.isOver && (loop.next signal).isOver && !(loop.next signal).isPanicked then
              site.consumer.events.publish .consumeLoopStopped
            else site.consumer.events } } := by
  unfold signalLoop
  rw [run_read, present]
  dsimp only
  rw [run_then]
  split
  · rw [if_pos (by assumption)]
    rfl
  · rw [if_neg (by assumption)]
    rfl

/-- A signal but a panic winds the loop down at most. -/
theorem signalLoop_windsDown (signal : LoopSignal) (sound : signal ≠ .panic) (site : Site) :
    site.WindsDown (signalLoop signal site).2 := by
  cases present : site.consumer.loop with
  | none =>
    rw [signalLoop_idle present]
    exact .refl site
  | some loop =>
    have settled (ended : loop.isOver = true) : (loop.next signal).isOver = true :=
      (ConsumeLoop.isOver_congr (ConsumeLoop.phase_of_isOver ended signal)).trans ended
    have orderly (broken : (loop.next signal).phase = .exited true) : loop.phase = .exited true :=
      loop.next_orderly sound broken
    -- A loop that ends with the signal has not broken off before, so it ends in order.
    have ordered : (!loop.isOver && (loop.next signal).isOver && !(loop.next signal).isPanicked) =
        (!loop.isOver && (loop.next signal).isOver) := by
      cases panicked : (loop.next signal).isPanicked with
      | false => rw [Bool.not_false, Bool.and_true]
      | true =>
        have ended : loop.isOver = true := by
          rw [ConsumeLoop.isOver, orderly (ConsumeLoop.isPanicked_iff.mp panicked)]
        rw [ended]
        rfl
    have ran := signalLoop_run present signal
    rw [ordered] at ran
    have before : site.consumer.isLoopRunning = !loop.isOver := by
      rw [isLoopRunning, present, Option.any_some]
    have after :
        (signalLoop signal site).2.consumer.isLoopRunning = !(loop.next signal).isOver := by
      rw [ran, isLoopRunning, Option.any_some]
    refine ⟨?_, fun still => ?_, fun broken => ?_, ?_⟩
    · rw [ending, before, after, Bool.not_not, ran]
      dsimp only
      split
      · exact audience_publish site.consumer .consumeLoopStopped
      · rfl
    · rw [before]
      cases ended : loop.isOver with
      | false => rfl
      | true =>
        rw [after, settled ended] at still
        exact still
    · rw [ran] at broken
      rw [present]
      exact congrArg some (orderly (Option.some.inj broken))
    · rw [ran]
      rfl

/-- The loop counts an outcome without more. -/
theorem countOutcome_windsDown (outcome : Outcome) (site : Site) :
    site.WindsDown (countOutcome outcome site).2 :=
  .unseen rfl rfl rfl

/-- The end of its poll winds the loop down at most. -/
theorem endLoopPoll_windsDown (site : Site) : site.WindsDown (endLoopPoll site).2 :=
  (Does.endLoopPollInParts
    (fun signal site sound => .single (signalLoop_windsDown signal sound site))
    (fun outcome site => .single (countOutcome_windsDown outcome site)) site).whole
    .refl fun _ _ _ => .trans

/-- A step of its own winds the loop down at most. -/
theorem advanceLoop_windsDown (workerFree : Bool) (site : Site) :
    site.WindsDown (advanceLoop workerFree site).2 := by
  have polls (timeout : Nat) (site : Site) :
      site.WindsDown ((beginPoll timeout).run site).2 := by
    have acts : Acts (fun _ => True) False (beginPoll timeout).run site :=
      Does.beginPoll _ fun _ => trivial
    obtain ⟨audience, flag, _, partitions⟩ :=
      parts_of_beliefs (keeps_beginPoll aloof_beliefs timeout site)
    refine .unseen (congrArg Prod.fst (keeps_beginPoll aloof_looping timeout site)) audience ?_
    exact Prod.ext (handleName_of_acts acts) (Prod.ext flag partitions)
  exact (Does.advanceLoopInParts
    (fun signal site sound => .single (signalLoop_windsDown signal sound site))
    (fun outcome site => .single (countOutcome_windsDown outcome site))
    (fun timeout site => .single (polls timeout site)) workerFree site).whole
    .refl fun _ _ _ => .trans

/-- A loop that is waited for as its poll lets it is wound down at most. -/
theorem waited_windsDown (limit : Nat) (site : Site) :
    site.WindsDown (site.waited (.wait limit)) := by
  have cancelled : site.WindsDown (signalLoop .cancel site).2 :=
    signalLoop_windsDown .cancel nofun site
  have landing (site : Site) : site.WindsDown ((LoopProgress.landing limit site).act site).2 := by
    unfold LoopProgress.landing
    split
    · split
      · exact signalLoop_windsDown (.elapse limit) nofun site
      · exact (endLoopPoll_windsDown site).trans (signalLoop_windsDown .look nofun _)
    · exact signalLoop_windsDown .look nofun site
  unfold Site.waited
  split
  · exact .refl site
  · change site.WindsDown ((LoopProgress.landing limit (signalLoop .cancel site.told).2).act
      (signalLoop .cancel site.told).2).2
    rw [signalLoop_told]
    exact cancelled.trans (landing _)

/-- What winds the loop down is told, where nothing that fails does so. -/
theorem Site.WindsDown.told (winds : site.WindsDown site') (ready : site.consumer.Ready)
    {moment : Moment} {failure : Option ConsumerError} :
    let deed : Deed := ⟨moment, site.consumer, failure, site'.consumer⟩
    deed.change = site.consumer.ending site'.consumer → deed.Accounted →
    (failure.isSome → site.consumer.ending site'.consumer = []) →
    Told site.consumer [deed] site'.consumer := by
  intro deed change accounted done
  change Told deed.before [deed] deed.after
  obtain ⟨audience, running, _, apart⟩ := winds
  obtain ⟨name, others⟩ := Prod.mk.inj apart
  obtain ⟨flag, partitions⟩ := Prod.mk.inj others
  by_cases ends : site.consumer.isLoopRunning = true ∧ site'.consumer.isLoopRunning = false
  · have ending : site.consumer.ending site'.consumer = [.consumeLoopStopped] := by
      rw [Consumer.ending, ends.1, ends.2]
      rfl
    have success : deed.failure = none := by
      cases failed : failure with
      | none => exact failed
      | some error => cases ending.symm.trans (done (by rw [failed]; rfl))
    have news : deed.news = [.consumeLoopStopped] :=
      (Deed.news_of_success success name).trans (change.trans ending)
    rw [ending] at audience
    refine .spoken ready news audience ?_ ?_ trivial (.of_success success accounted) ?_
    · exact Picture.ext name.symm flag.symm ends.2.symm
    · exact fun _ => congrArg PartitionSet.count partitions.symm
    · change site'.consumer.partitions.Numbered
      rw [partitions]
      exact ready.numbered
  · have same : site'.consumer.isLoopRunning = site.consumer.isLoopRunning := by
      cases still : site'.consumer.isLoopRunning with
      | true => exact (running still).symm
      | false => exact (Bool.of_not_eq_true fun earlier => ends ⟨earlier, still⟩).symm
    have ending : site.consumer.ending site'.consumer = [] := by
      rw [Consumer.ending, same, Bool.and_not_self]
      rfl
    rw [ending] at audience
    exact Told.silent deed ready
      (Prod.ext audience (Prod.ext (Picture.ext name flag same) partitions))
      fun _ => ⟨change.trans ending, accounted⟩

/-- A step of the consume loop is told as it is. -/
theorem advanceLoop_told (workerFree : Bool) (inside : StateM Site Unit)
    (ready : site.consumer.Ready) :
    Told site.consumer [(Moment.advanceLoop workerFree).deed inside site]
      ((Moment.advanceLoop workerFree).perform inside site).2.consumer :=
  (advanceLoop_windsDown workerFree site).told ready rfl trivial nofun

/-- A stop of the consume loop winds it down at most, and does not if it fails. -/
theorem stopLoop_windsDown (wait : Nat) (reportsPanic : Bool) (site : Site) :
    let ran := (stopLoop wait reportsPanic).run site
    site.WindsDown ran.2 ∧
      ((failureOf ran.1).isSome → site.consumer.ending ran.2.consumer = []) := by
  have winds := waited_windsDown wait site
  rw [stopLoop_eq_during, stopDuring_run]
  dsimp only
  split
  · rename_i running
    refine ⟨winds, fun _ => ?_⟩
    rw [ending, running, Bool.not_true, Bool.and_false]
    rfl
  · rename_i settled
    have ended : (site.waited (.wait wait)).consumer.isLoopRunning = false :=
      Bool.eq_false_iff.mpr settled
    have same : (site.waited (.wait wait)).vacated.consumer.isLoopRunning =
        (site.waited (.wait wait)).consumer.isLoopRunning := ended.symm
    refine ⟨⟨?_, (fun still => nomatch still), (fun broken => nomatch broken), winds.apart⟩,
      fun failed => ?_⟩
    · rw [ending, same]
      exact winds.audience
    · -- The stop fails for the loop that broke off, so it was not running before.
      have panicked :
          (site.waited (.wait wait)).consumer.loop.any ConsumeLoop.isPanicked = true := by
        unfold stopAnswer at failed
        split at failed
        · rename_i reported
          exact (Bool.and_eq_true_iff.mp reported).1
        · cases failed
      obtain ⟨loop, present, broken⟩ := (Option.any_eq_true _ _).mp panicked
      have orderly := winds.orderly (by
        rw [present, Option.map_some, ConsumeLoop.isPanicked_iff.mp broken])
      rw [ending, Site.WindsDown.not_running orderly]
      rfl

/-- A stop of the consume loop is told as it is. -/
theorem stopLoop_told (wait : Nat) (reportsPanic : Bool) (inside : StateM Site Unit)
    (ready : site.consumer.Ready) :
    Told site.consumer [(Moment.stopLoop wait reportsPanic).deed inside site]
      ((Moment.stopLoop wait reportsPanic).perform inside site).2.consumer := by
  obtain ⟨winds, failed⟩ := stopLoop_windsDown wait reportsPanic site
  exact winds.told ready rfl trivial failed

/-- A start of the consume loop is told as it is. -/
theorem startLoop_told (timeout sleepDelay : Option Nat) (inside : StateM Site Unit)
    (ready : site.consumer.Ready) :
    Told site.consumer [(Moment.startLoop timeout sleepDelay).deed inside site]
      ((Moment.startLoop timeout sleepDelay).perform inside site).2.consumer := by
  obtain ⟨settings, ran⟩ := consumeLoop_run timeout sleepDelay site
  have unseen {outcome : Except ConsumerError Unit}
      (refused : (consumeLoop timeout sleepDelay).run site = (outcome, site))
      (failed : failureOf outcome ≠ none) :
      Told site.consumer [(Moment.startLoop timeout sleepDelay).deed inside site]
        ((Moment.startLoop timeout sleepDelay).perform inside site).2.consumer := by
    have failure : ((Moment.startLoop timeout sleepDelay).deed inside site).failure =
        failureOf outcome :=
      congrArg (fun ran : Except ConsumerError Unit × Site => failureOf ran.1) refused
    have same : ((Moment.startLoop timeout sleepDelay).perform inside site).2 = site :=
      congrArg Prod.snd refused
    refine Told.silent ((Moment.startLoop timeout sleepDelay).deed inside site) ready ?_
      fun done => absurd (failure.symm.trans done) failed
    exact congrArg (fun site : Site => site.consumer.shown) same
  cases connected : site.consumer.connection.isConnected with
  | false =>
    rw [connected] at ran
    exact unseen ran nofun
  | true =>
    cases running : site.consumer.isLoopRunning with
    | true =>
      rw [connected, running] at ran
      exact unseen ran nofun
    | false =>
      rw [connected, running] at ran
      have after : ((Moment.startLoop timeout sleepDelay).perform inside site).2 =
          site.looped settings := congrArg Prod.snd ran
      have whole : (Moment.startLoop timeout sleepDelay).deed inside site =
          ⟨.startLoop timeout sleepDelay, site.consumer, none,
            (site.looped settings).consumer⟩ := by
        have failure : (Moment.startLoop timeout sleepDelay).failure inside site = none :=
          congrArg (fun ran : Except ConsumerError Unit × Site => failureOf ran.1) ran
        rw [Moment.deed, failure, after]
      rw [whole, after]
      let deed : Deed :=
        ⟨.startLoop timeout sleepDelay, site.consumer, none, (site.looped settings).consumer⟩
      change Told deed.before [deed] deed.after
      have news : deed.news = [.consumeLoopStarted] := Deed.news_of_success rfl rfl
      exact .spoken ready news (audience_publish site.consumer .consumeLoopStarted) rfl
        (fun _ => rfl) trivial (.of_success rfl trivial) ready.numbered

end LogConsumer
