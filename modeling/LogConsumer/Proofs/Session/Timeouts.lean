import LogConsumer.Proofs.Consumer.LoopPace
import LogConsumer.Proofs.Session.Desks
import LogConsumer.Proofs.Session.Steps

/-!
# Timeouts of a session

Whatever timeout a consumer of a session hands to its handle is due to something that was asked of
it before: an operation, a task, whose timeouts may be the configured ones, or a consume loop, whose
polls come later (`Demand`). A consumer stays so (`Site.Timely`) whatever goes on at it of itself
and whatever it is asked for, as long as that is among the demands; what others do does not matter.
The main result is `timeouts_due`.
-/
namespace LogConsumer

open Consumer

variable {config : Config} {site site' : Site} {may : ClientCall → Prop}

/-- What a consumer can be asked for, as far as timeouts may be handed over for it, be it later. -/
inductive Demand where
  /-- An operation. -/
  | operate (operation : Operation)
  /-- A task. -/
  | dispatch (task : Task)
  /-- A consume loop. -/
  | startLoop (timeout : Option Nat)

/-- The calls with which timeouts are handed over for a demand: those of the operation, of the
operation that the task is under the configuration, or the polls of the loop. -/
def Demand.Hands (config : Config) : Demand → ClientCall → Prop
  | .operate operation, request => operation.Hands config request
  | .dispatch task, request => (task.operation config).Hands config request
  | .startLoop timeout, request =>
    request = .poll (max (timeout.getD config.consumeTimeout) config.minTimeout)

/-- Every timeout that the consumer has handed over is due to a demand, and so is the one with which
its consume loop polls. -/
structure Site.Timely (config : Config) (demands : List Demand) (site : Site) : Prop where
  /-- The consumer has this configuration. -/
  configured : site.consumer.config = config
  /-- What was handed over is due to a demand. -/
  handed : ∀ request ∈ site.handed, ∃ demand ∈ demands, demand.Hands config request
  /-- What the loop will hand over is due to a demand. -/
  loop : ∀ loop, site.consumer.loop = some loop → ∃ timeout, .startLoop timeout ∈ demands ∧
    loop.settings.timeout = max (timeout.getD config.consumeTimeout) config.minTimeout

variable {demands : List Demand}

namespace Site.Timely

/-- What more is handed over is due if it may be. -/
theorem handed_of_hands (timely : site.Timely config demands) (hands : site.Hands may site')
    (due : ∀ request, may request → ∃ demand ∈ demands, demand.Hands config request) :
    ∀ request ∈ site'.handed, ∃ demand ∈ demands, demand.Hands config request := by
  obtain ⟨more, grown, each⟩ := hands
  rw [grown]
  exact List.forall_mem_append.mpr
    ⟨timely.handed, fun request among => due request (each request among).1⟩

/-- What keeps the pace of the loop keeps a consumer timely if what it hands over is due. -/
theorem later (timely : site.Timely config demands) (paced : site.KeepsPace site')
    (hands : site.Hands may site')
    (due : ∀ request, may request → ∃ demand ∈ demands, demand.Hands config request) :
    site'.Timely config demands where
  configured := paced.config.trans timely.configured
  handed := timely.handed_of_hands hands due
  loop loop' there := by
    obtain ⟨loop, present, same⟩ := paced.loop loop' there
    rw [same]
    exact timely.loop loop present

/-- An operation that is demanded keeps a consumer timely. -/
theorem operates (timely : site.Timely config demands) {operation : Operation}
    (due : ∀ request, operation.Hands config request →
      ∃ demand ∈ demands, demand.Hands config request) :
    Site.Timely config demands (operation.run.run site).2 := by
  have hands := operation.run_hands site
  rw [timely.configured] at hands
  exact timely.later (operation.run_paced site) hands due

/-- The polls of the loop keep a consumer timely. -/
theorem advances (timely : site.Timely config demands) (workerFree : Bool) :
    Site.Timely config demands (Consumer.advanceLoop workerFree site).2 := by
  refine timely.later (advanceLoop_paced workerFree site) (advanceLoop_hands workerFree site) ?_
  rintro request ⟨loop, present, rfl⟩
  obtain ⟨timeout, demanded, started⟩ := timely.loop loop present
  refine ⟨.startLoop timeout, demanded, ?_⟩
  -- The loop was started with a raised timeout, so raising it once more changes nothing.
  rw [timely.configured, started, Nat.max_eq_left (Nat.le_max_right _ _)]
  rfl

/-- A loop that is demanded keeps a consumer timely. -/
theorem starts (timely : site.Timely config demands) {timeout : Option Nat}
    (demanded : .startLoop timeout ∈ demands) (sleepDelay : Option Nat) :
    Site.Timely config demands ((Consumer.consumeLoop timeout sleepDelay).run site).2 where
  configured := (Site.KeepsPace.config_of_books (Does.consumeLoop timeout sleepDelay site)).trans
    timely.configured
  handed := timely.handed_of_hands (.of_books (Does.consumeLoop timeout sleepDelay site))
    fun _ => False.elim
  loop loop there := by
    obtain present | started := consumeLoop_paced timeout sleepDelay site loop there
    · exact timely.loop loop present
    · rw [timely.configured] at started
      exact ⟨timeout, demanded, started⟩

end Site.Timely

/-- A timely consumer stays timely. -/
def Site.StaysTimely (config : Config) (demands : List Demand) (site site' : Site) : Prop :=
  site.Timely config demands → site'.Timely config demands

/-- What goes on at a timely consumer of itself keeps it timely. -/
theorem staysTimely_carried : Carried (Site.StaysTimely config demands) where
  refl _ := id
  trans _ _ _ before after := after ∘ before
  advances workerFree _ timely := timely.advances workerFree
  stops wait reportsPanic site timely :=
    timely.later (stopLoop_paced wait reportsPanic site)
      (.of_books (Does.stopLoop wait reportsPanic site)) fun _ => False.elim
  scripts site boundary traced timely := by
    have nothing : site.Hands (fun _ => False)
        { site with consumer := { site.consumer with boundary } } := .of_calls traced
    exact timely.later (.of_standby rfl) nothing fun _ => False.elim
  clears _ timely := ⟨timely.configured, List.forall_mem_nil _, timely.loop⟩
  listens _ _ timely := ⟨timely.configured, timely.handed, timely.loop⟩

namespace Session

variable {number : Nat} {session : Session}

/-- What a step asks of its consumer. -/
def ConsumerStep.demand? : ConsumerStep → Option Demand
  | .operate operation => some (.operate operation)
  | .dispatch task => some (.dispatch task)
  | .startLoop timeout _ => some (.startLoop timeout)
  | _ => none

/-- What a step asks of the consumer with this number. -/
def Step.demand? (number : Nat) : Step → Option Demand
  | .consumer other step => if other = number then step.demand? else none
  | _ => none

/-- A step of a consumer keeps it timely if what it asks for is demanded. -/
theorem ConsumerStep.staysTimely {step : ConsumerStep}
    (demanded : ∀ demand, step.demand? = some demand → demand ∈ demands) :
    step.Upholds (Site.StaysTimely config demands) := by
  cases step with
  | operate operation =>
    exact fun site timely => timely.operates fun _ hands => ⟨_, demanded _ rfl, hands⟩
  | dispatch task =>
    intro site timely
    rw [timely.configured]
    exact timely.operates fun _ hands => ⟨_, demanded _ rfl, hands⟩
  | startLoop timeout sleepDelay =>
    exact fun site timely => timely.starts (demanded _ rfl) sleepDelay
  | _ => trivial

/-- The consumer with this number is timely, and so is what its jobs have still to do. -/
def Timely (number : Nat) (config : Config) (demands : List Demand) (session : Session) : Prop :=
  ∃ participant, session.participants[number]? = some participant ∧
    Site.Timely config demands ⟨participant.consumer, session.cluster⟩ ∧
    participant.dispatcher.Upholds (Site.StaysTimely config demands)

namespace Timely

/-- What happens to the cluster and the others does not matter. -/
theorem elsewhere {session' : Session} (timely : session.Timely number config demands)
    (same : session'.participants[number]? = session.participants[number]?) :
    session'.Timely number config demands := by
  obtain ⟨participant, present, own, upholds⟩ := timely
  exact ⟨participant, same.trans present, ⟨own.configured, own.handed, own.loop⟩, upholds⟩

/-- What is done at the desk of another consumer does not matter. -/
theorem atOther {α : Type} {other : Nat} (differs : other ≠ number) (action : StateM Desk α)
    (timely : session.Timely number config demands) :
    (Session.atDesk other action session).2.Timely number config demands := by
  refine timely.elsewhere ?_
  cases present : session.participants[other]? with
  | none => rw [atDesk_absent present]
  | some participant =>
    rw [atDesk_run present]
    exact List.getElem?_set_ne differs

/-- What is done at the desk of the consumer keeps it timely if it does so at every desk. -/
theorem atOwn {α : Type} {action : StateM Desk α}
    (goes : ∀ desk : Desk, desk.Goes (Site.StaysTimely config demands) (action desk).2)
    (timely : session.Timely number config demands) :
    (Session.atDesk number action session).2.Timely number config demands := by
  obtain ⟨participant, present, own, upholds⟩ := timely
  obtain ⟨inside, _⟩ := List.getElem?_eq_some_iff.mp present
  let desk : Desk :=
    { site := ⟨participant.consumer, session.cluster⟩, dispatcher := participant.dispatcher }
  obtain ⟨still, stays⟩ := goes desk upholds
  rw [atDesk_run present]
  exact ⟨_, List.getElem?_set_self inside, stays own, still⟩

end Timely

/-- What keeps consumers timely at a desk keeps them so in the session. -/
theorem timely_spreads : Spreads (Site.StaysTimely config demands)
    fun session session' => session.Timely number config demands →
      session'.Timely number config demands where
  trans before after := after ∘ before
  unseen consumers _ _ timely := timely.elsewhere (by rw [consumers])
  atDesk goes other _ timely := by
    by_cases same : other = number
    · subst same
      exact timely.atOwn goes
    · exact timely.atOther same _

/-- A step keeps a consumer timely if what it asks of that consumer is demanded. -/
theorem Step.timely {step : Step}
    (demanded : ∀ demand, step.demand? number = some demand → demand ∈ demands)
    (timely : session.Timely number config demands) :
    (step.perform session).2.Timely number config demands := by
  cases step with
  | consumer other step =>
    by_cases same : other = number
    · refine timely_spreads.stepAsking staysTimely_carried ?_ ?_ session timely
      · trivial
      · intro _ own is
        cases is
        exact step.staysTimely fun demand asks => demanded demand ((if_pos same).trans asks)
    · exact timely.atOther same (reporting step.perform)
  | listen | receive =>
    refine timely_spreads.stepAsking staysTimely_carried ?_ ?_ session timely
    · trivial
    · exact fun _ _ is => nomatch is
  | cluster step => exact timely.elsewhere rfl
  | client other call =>
    refine timely.elsewhere ?_
    change (throughClient other call.perform session).2.participants[number]? = _
    cases present : session.clients[other]? with
    | none => rw [throughClient_absent present]
    | some client => rw [throughClient_run present]

end Session

end LogConsumer
