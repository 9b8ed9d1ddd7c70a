import LogConsumer.Proofs.Consumer.LoopRuns
import LogConsumer.Proofs.Consumer.Timeouts

/-!
# The pace of a consume loop

A consume loop polls with the timeout that it was started with, until it is taken away: no operation
and no signal changes how it is set up (`Site.KeepsPace`), and each of its polls hands that timeout
over, raised to the configured minimum (`advanceLoop_hands`). It is started with a timeout that is
raised already (`consumeLoop_paced`).
-/
namespace LogConsumer

open Consumer Consumer.Does

variable {site between site' : Site} {α : Type}

/-- No signal changes how a loop polls and pauses. -/
theorem ConsumeLoop.settings_next (loop : ConsumeLoop) (signal : LoopSignal) :
    (loop.next signal).settings = loop.settings := by
  obtain ⟨settings, cancelled, phase⟩ := loop
  cases signal with
  | pollEnded =>
    cases phase with
    | polling outcome remaining =>
      change (ConsumeLoop.receive _ outcome).2.settings = settings
      unfold ConsumeLoop.receive
      split <;> split <;> rfl
    | _ => rfl
  | _ => cases phase <;> rfl

/-- From one site to the next the configuration stays, and a consume loop that is there is the one
from before, set up as it was. -/
structure Site.KeepsPace (site site' : Site) : Prop where
  /-- The configuration stays. -/
  config : site'.consumer.config = site.consumer.config
  /-- A loop is set up as it was. -/
  loop : ∀ loop', site'.consumer.loop = some loop' →
    ∃ loop, site.consumer.loop = some loop ∧ loop'.settings = loop.settings

namespace Site.KeepsPace

/-- What leaves the configuration and the loop alone keeps the pace. -/
theorem of_standby (same : site'.standby = site.standby) : site.KeepsPace site' := by
  obtain ⟨config, loop⟩ := Prod.mk.inj same
  exact ⟨config, fun loop' there => ⟨loop', loop.symm.trans there, rfl⟩⟩

/-- What keeps the pace one after the other keeps it as a whole. -/
theorem trans (before : site.KeepsPace between) (after : between.KeepsPace site') :
    site.KeepsPace site' := by
  refine ⟨after.config.trans before.config, fun loop' there => ?_⟩
  obtain ⟨middle, present, same⟩ := after.loop loop' there
  obtain ⟨loop, first, as⟩ := before.loop middle present
  exact ⟨loop, first, same.trans as⟩

/-- Where there is no loop, what keeps the pace starts none. -/
theorem standby {config : Config} (paced : site.KeepsPace site')
    (idle : site.standby = (config, none)) : site'.standby = (config, none) := by
  obtain ⟨own, loopless⟩ := Prod.mk.inj idle
  refine Prod.ext (paced.config.trans own) (Option.eq_none_iff_forall_ne_some.mpr ?_)
  intro loop' there
  obtain ⟨loop, present, _⟩ := paced.loop loop' there
  cases loopless.symm.trans present

/-- An action all of whose parts keep the pace keeps it. -/
theorem of_does {action : StateM Site α} (does : Does Site.KeepsPace action site) :
    site.KeepsPace (action site).2 :=
  does.whole (fun _ => of_standby rfl) fun _ _ _ => trans

/-- Keeping books leaves the configuration alone. -/
theorem config_of_books {action : StateM Site α}
    (books : Acts (fun _ => False) False action site) :
    (action site).2.consumer.config = site.consumer.config := by
  let config (site : Site) := site.consumer.config
  have kept : config (action site).2 = config site :=
    view_of_books (fun _ _ same => congrArg Core.config same) books
  exact kept

end Site.KeepsPace

namespace Consumer

/-- A signal keeps the pace of the loop. -/
theorem signalLoop_paced (signal : LoopSignal) (site : Site) :
    site.KeepsPace (signalLoop signal site).2 := by
  cases present : site.consumer.loop with
  | none =>
    rw [signalLoop_idle present]
    exact .of_standby rfl
  | some loop =>
    refine ⟨Site.KeepsPace.config_of_books (Does.signalLoop signal site), fun loop' there => ?_⟩
    have next : (signalLoop signal site).2.consumer.loop = some (loop.next signal) :=
      congrArg Prod.fst (looping_signalLoop present signal)
    cases next.symm.trans there
    exact ⟨loop, present, loop.settings_next signal⟩

/-- A step of the loop keeps its pace. -/
theorem advanceLoop_paced (workerFree : Bool) (site : Site) :
    site.KeepsPace (advanceLoop workerFree site).2 :=
  .of_does (advanceLoopInParts (fun signal site _ => .single (signalLoop_paced signal site))
    (fun _ _ => .single (.of_standby rfl))
    (fun timeout site =>
      .single (.of_standby (keeps_beginPoll remote_standby.toAloof timeout site)))
    workerFree site)

/-- Stopping the loop keeps its pace, or takes it away. -/
theorem stopLoop_paced (wait : Nat) (reportsPanic : Bool) (site : Site) :
    site.KeepsPace ((stopLoop wait reportsPanic).run site).2 := by
  let cancelled := (signalLoop .cancel site).2
  obtain ⟨nothing, _⟩ | late | clears := stopLoop_cases wait reportsPanic site
  · rw [nothing]
    exact .of_standby rfl
  · rw [late]
    exact (signalLoop_paced .cancel site).trans (signalLoop_paced (.elapse wait) cancelled)
  · refine ⟨Site.KeepsPace.config_of_books (Does.stopLoop wait reportsPanic site), ?_⟩
    rw [clears, (clearLoop_accounts (endLoopPoll_accounts cancelled).2 reportsPanic).2]
    exact fun _ there => nomatch there

/-- Disconnecting keeps the pace of the loop if what runs from inside the close does. -/
theorem disconnect_paced {inside : StateM Site Unit}
    (runs : ∀ site : Site, site.KeepsPace (inside site).2) (site : Site) :
    site.KeepsPace ((disconnect inside).run site).2 := by
  let wait := site.consumer.config.loopStopTimeout
  obtain unchanged | ⟨_, client, _, shut⟩ := disconnect_branches inside site
  · rw [unchanged]
    exact stopLoop_paced wait false site
  · let stopped := ((stopLoop wait false).run site).2
    have released : Keeps Site.standby (letGo client).run :=
      keeps_letGo (fun site => by rw [releaseHandle_run]; rfl) fun _ _ => rfl
    have begins : stopped.KeepsPace (stopped.shutting client) := .of_standby rfl
    rw [shut]
    exact (stopLoop_paced wait false site).trans
      ((begins.trans (runs _)).trans (.of_standby (released _)))

/-- Every operation keeps the pace of the loop if what runs from inside a close does. -/
theorem perform_paced (operation : Operation) {inside : StateM Site Unit}
    (runs : ∀ site : Site, site.KeepsPace (inside site).2) (site : Site) :
    site.KeepsPace ((operation.perform inside).run site).2 := by
  by_cases closes : operation = .disconnect
  · rw [closes]
    exact .of_does (answer (.single (disconnect_paced runs site)))
  · exact .of_standby (keeps_standby inside closes site)

/-- The close script keeps the pace of the loop. -/
theorem runCloseScript_paced (site : Site) : site.KeepsPace (runCloseScript site).2 :=
  .of_does (Does.runCloseScript
    (fun operation site => .single (perform_paced operation (fun _ => .of_standby rfl) site))
    (fun _ _ => .of_standby rfl) site)

end Consumer

/-- Every operation keeps the pace of the loop. -/
theorem Operation.run_paced (operation : Operation) (site : Site) :
    site.KeepsPace (operation.run.run site).2 :=
  perform_paced operation runCloseScript_paced site

/-- A step of the loop hands over the timeout that the loop is set up with, raised to the configured
minimum, and no other. -/
theorem Consumer.advanceLoop_hands (workerFree : Bool) (site : Site) :
    site.Hands (fun request => ∃ loop, site.consumer.loop = some loop ∧
        request = .poll (max loop.settings.timeout site.consumer.config.minTimeout))
      (advanceLoop workerFree site).2 := by
  obtain ⟨loop, present, waiting, rfl⟩ | ⟨_, _, books⟩ := advanceLoop_cases workerFree site
  · obtain ⟨duration, begins⟩ := advanceLoop_waiting present waiting
    have polls := Site.Hands.of_acts (beginPollRaised loop.settings.timeout : Acts _ _ _ site)
    rw [begins]
    exact (polls.mono fun request same _ => ⟨loop, present, same⟩).trans
      (.of_books (Does.signalLoop _ _))
  · exact .of_books books

/-- A consume loop that was there stays, or it is started with the timeout asked for, or else the
configured one, raised to the configured minimum. -/
theorem Consumer.consumeLoop_paced (timeout sleepDelay : Option Nat) (site : Site) :
    let config := site.consumer.config
    ∀ loop, ((consumeLoop timeout sleepDelay).run site).2.consumer.loop = some loop →
      site.consumer.loop = some loop ∨
        loop.settings.timeout = max (timeout.getD config.consumeTimeout) config.minTimeout := by
  intro config loop
  unfold consumeLoop
  rw [run_get]
  dsimp only
  cases site.consumer.connection.isConnected with
  | false => exact .inl
  | true =>
    rw [Bool.not_true, if_neg Bool.false_ne_true]
    obtain occupied | ⟨_, started⟩ := startLoop_cases _ site
    · rw [run_bind_error occupied]
      exact .inl
    · rw [run_bind_ok started]
      intro there
      cases there
      exact .inr rfl

end LogConsumer
