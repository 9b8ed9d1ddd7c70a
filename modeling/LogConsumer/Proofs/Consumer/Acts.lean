import Mathlib.Logic.Relation
import LogConsumer.Consumer.Run
import LogConsumer.Proofs.Client.Validity
import LogConsumer.Proofs.Consumer.Life

/-!
# What operations of a consumer do

`Does` follows an action of a consumer along its own lines, one related site after the other, so
an operation is taken apart once, in the terms in which it is written.

An operation is a sequence of acts: it keeps books, changes what is believed to be assigned, leaves
a trace of a call on the handle, or has the handle perform it. `Act` says when an act may be made;
above all, a call passes the gate (`Site.Admits`) only on the handle that is open, or on the one
that is being closed if it drops what is assigned.
-/
namespace LogConsumer

namespace Site

/-- The call passes the gate to the handle: the handle is open, or it is being closed and the call
drops what is assigned. -/
def Admits (site : Site) (client : Client) (call : ClientCall) : Prop :=
  site.consumer.connection = .connected client ∨
    (site.consumer.connection = .closing client ∧ call.IsRelease)

end Site

namespace Consumer

/-- What of a consumer no bookkeeping touches. -/
structure Core where
  /-- What the consumer is set up with. -/
  config : Config
  /-- The connection to the handle. -/
  connection : Connection Client
  /-- The partitions believed to be assigned. -/
  partitions : PartitionSet
  /-- A subscription was made on the present handle. -/
  subscriptionFlag : Bool
  /-- The calls traced. -/
  calls : List TracedCall

/-- What of the consumer no bookkeeping touches. -/
def core (consumer : Consumer) : Core :=
  { config := consumer.config
    connection := consumer.connection
    partitions := consumer.partitions
    subscriptionFlag := consumer.subscriptionFlag
    calls := consumer.boundary.calls }

/-- One act of an operation that makes the calls `makes` and, only if `resets`, changes what the
consumer believes to be assigned. -/
inductive Act (makes : ClientCall → Prop) (resets : Prop) : Site → Site → Prop where
  /-- Books are kept. -/
  | tidy {site : Site} {consumer : Consumer} (same : consumer.core = site.consumer.core) :
    Act makes resets site { site with consumer }
  /-- The set of partitions and the subscription flag change. -/
  | reset {site : Site} (partitions : PartitionSet) (subscriptionFlag : Bool) (may : resets) :
    Act makes resets site
      { site with consumer := { site.consumer with partitions, subscriptionFlag } }
  /-- A call on the handle is traced. -/
  | told {site : Site} {client : Client} {call : ClientCall} (admits : site.Admits client call)
    (may : makes call) : Act makes resets site (site.traced client call)
  /-- The handle performs a call. -/
  | reached {site : Site} {client : Client} {call : ClientCall} (admits : site.Admits client call)
    (may : makes call) :
    Act makes resets site (site.linked (call.perform ⟨client, site.cluster⟩).2)

variable {relation : Site → Site → Prop} {makes : ClientCall → Prop} {resets : Prop} {α β : Type}
  {site : Site} {client : Client} {request : ClientCall}

/-- From this site, the action goes from one site to the next as related. -/
def Does (relation : Site → Site → Prop) (action : StateM Site α) (site : Site) : Prop :=
  Relation.ReflTransGen relation site (action site).2

/-- From this site, the action is a sequence of acts. -/
abbrev Acts (makes : ClientCall → Prop) (resets : Prop) (action : StateM Site α) (site : Site) :
    Prop :=
  Does (Act makes resets) action site

/-- What may be done in an act may be done in one that may do more. -/
theorem Act.mono {wider : ClientCall → Prop} {free : Prop} {site' : Site}
    (act : Act makes resets site site') (wide : ∀ request, makes request → wider request)
    (frees : resets → free) : Act wider free site site' := by
  cases act with
  | tidy same => exact .tidy same
  | reset partitions subscriptionFlag may => exact .reset _ _ (frees may)
  | told admits may => exact .told admits (wide _ may)
  | reached admits may => exact .reached admits (wide _ may)

/-- An act that changes nothing of what is believed to be assigned may be done where that may
change. -/
theorem Act.of_calm {site' : Site} (act : Act makes False site site') :
    Act makes resets site site' :=
  act.mono (fun _ => id) False.elim

/-- What does not look at the books, an action that only keeps books leaves as it is. -/
theorem view_of_books {ν : Type} {view : Site → ν}
    (blind : ∀ (site : Site) (consumer : Consumer), consumer.core = site.consumer.core →
      view { site with consumer } = view site)
    {action : StateM Site α} (books : Acts (fun _ => False) False action site) :
    view (action site).2 = view site := by
  unfold Acts Does at books
  generalize (action site).2 = final at books ⊢
  induction books with
  | refl => rfl
  | tail _ act ih =>
    cases act with
    | tidy same => exact (blind _ _ same).trans ih
    | reset partitions subscriptionFlag may => exact may.elim
    | told admits may => exact may.elim
    | reached admits may => exact may.elim

/-- The gate looks at the connection alone. -/
theorem admits_congr {site' : Site} (same : site'.consumer.connection = site.consumer.connection)
    (admits : site.Admits client request) : site'.Admits client request := by
  rwa [Site.Admits, same]

namespace Does

/-- What goes on as related goes on as more widely related. -/
theorem mono {wider : Site → Site → Prop} {action : StateM Site α}
    (does : Does relation action site)
    (wide : ∀ site site', relation site site' → wider site site') :
    Does wider action site :=
  Relation.ReflTransGen.mono wide _ _ does

/-- What is related step by step is related as a whole, if that can be put together. -/
theorem whole {action : StateM Site α} (does : Does relation action site)
    (refl : ∀ site, relation site site)
    (trans : ∀ first second third, relation first second → relation second third →
      relation first third) : relation site (action site).2 := by
  unfold Does at does
  generalize (action site).2 = final at does ⊢
  induction does with
  | refl => exact refl _
  | tail _ last ih => exact trans _ _ _ ih last

/-- What holds before an action whose parts all pass it on holds afterwards. -/
theorem carries {holds : Site → Prop} {action : StateM Site α}
    (does : Does (fun site site' => holds site → holds site') action site) (before : holds site) :
    holds (action site).2 :=
  does.whole (fun _ => id) (fun _ _ _ earlier later => later ∘ earlier) before

/-- An action that changes nothing goes nowhere. -/
theorem idle {action : StateM Site α} (unchanged : (action site).2 = site) :
    Does relation action site := by
  unfold Does
  rw [unchanged]

/-- Answering goes nowhere. -/
theorem pure (value : α) : Does relation (Pure.pure value : Action α).run site :=
  idle rfl

/-- Failing goes nowhere. -/
theorem throw (error : ConsumerError) :
    Does relation (throw error : Action α).run site :=
  idle rfl

/-- Two actions in order go on one after the other. -/
theorem andThen {first : StateM Site α} {rest : α → StateM Site β}
    (before : Does relation first site)
    (after : Does relation (rest (first site).1) (first site).2) :
    Does relation (first >>= rest) site :=
  before.trans after

/-- Two actions that may fail, in order, go on one after the other, or the first one goes alone if
it fails. -/
theorem bind {first : Action α} {rest : α → Action β} (before : Does relation first.run site)
    (after : ∀ value site', first.run site = (.ok value, site') →
      Does relation (rest value).run site') : Does relation (first >>= rest).run site := by
  cases answered : first.run site with
  | mk outcome site' =>
    cases outcome with
    | ok value =>
      have acts := after value site' answered
      unfold Does at before acts ⊢
      rw [answered] at before
      rw [run_bind_ok answered]
      exact before.trans acts
    | error error =>
      unfold Does at before ⊢
      rw [answered] at before
      rwa [run_bind_error answered]

/-- An action followed by an answer goes as the action goes. -/
theorem answer {first : Action α} {reply : α → β} (acts : Does relation first.run site) :
    Does relation (do Pure.pure (reply (← first)) : Action β).run site :=
  bind acts fun _ _ _ => pure _

/-- An action that cannot fail, and another, go on one after the other. -/
theorem lift {first : StateM Site α} {rest : α → Action β} (before : Does relation first site)
    (after : Does relation (rest (first site).1).run (first site).2) :
    Does relation (liftM first >>= rest : Action β).run site :=
  before.trans after

/-- Reading the site goes nowhere. -/
theorem get {rest : Site → Action β} (after : Does relation (rest site).run site) :
    Does relation (MonadState.get >>= rest : Action β).run site :=
  after

/-- Reading the site goes nowhere, also where nothing can fail. -/
theorem read {rest : Site → StateM Site β} (after : Does relation (rest site) site) :
    Does relation (MonadState.get >>= rest) site :=
  after

/-- Either of two actions goes as the one chosen. -/
theorem either {condition : Prop} [Decidable condition] {left right : Action α}
    (yes : Does relation left.run site) (no : Does relation right.run site) :
    Does relation (if condition then left else right).run site := by
  split
  · exact yes
  · exact no

/-- An action that may be left out goes nowhere then. -/
theorem optional {condition : Prop} [Decidable condition] {action : StateM Site Unit}
    (does : Does relation action site) :
    Does relation (if condition then action else Pure.pure ()) site := by
  split
  · exact does
  · exact idle rfl

/-- What is done for the items of a list goes on item by item. -/
theorem forM {action : β → StateM Site Unit} (each : ∀ item site, Does relation (action item) site)
    (items : List β) (site : Site) : Does relation (items.forM action) site := by
  induction items generalizing site with
  | nil => exact idle rfl
  | cons item items ih => exact andThen (each item site) (ih _)

/-- Asking for the open handle goes nowhere; what follows has the handle open. -/
theorem openHandle {rest : Client → Action β}
    (after : ∀ client, site.consumer.connection = .connected client →
      Does relation (rest client).run site) :
    Does relation (Consumer.openHandle >>= rest).run site := by
  obtain ⟨client, state, passed⟩ | ⟨_, refused⟩ := openHandle_cases site
  · refine idle ?_ |>.bind fun _ site' answered => ?_
    · rw [passed]
    · cases passed.symm.trans answered
      exact after client state
  · refine idle ?_
    rw [run_bind_error refused]

/-- Asking for any handle goes nowhere; what follows may drop what is assigned. -/
theorem anyHandle {rest : Client → Action β}
    (after : ∀ client, (∀ request : ClientCall, request.IsRelease → site.Admits client request) →
      Does relation (rest client).run site) :
    Does relation (Consumer.anyHandle >>= rest).run site := by
  obtain ⟨client, state, passed⟩ | ⟨_, refused⟩ := anyHandle_cases site
  · refine idle ?_ |>.bind fun _ site' answered => ?_
    · rw [passed]
    · cases passed.symm.trans answered
      exact after client fun request release => state.imp_right fun closing => ⟨closing, release⟩
  · refine idle ?_
    rw [run_bind_error refused]

/-- Asking for well-formed partitions goes nowhere; what follows has well-formed partitions. -/
theorem requireWellFormed {partitions : List TopicPartition} {rest : Unit → Action β}
    (after : (∀ tp ∈ partitions, tp.WellFormed) → Does relation (rest ()).run site) :
    Does relation (Consumer.requireWellFormed partitions >>= rest).run site := by
  obtain ⟨faultless, passed⟩ | ⟨_, _, refused⟩ := requireWellFormed_cases partitions site
  · refine idle ?_ |>.bind fun _ site' answered => ?_
    · rw [passed]
    · cases passed.symm.trans answered
      exact after fun tp listed => inputFault?_eq_none.mp (faultless tp listed)
  · refine idle ?_
    rw [run_bind_error refused]

/-- Raising a timeout goes nowhere. -/
theorem clamped {timeout : Nat} {rest : Nat → Action β}
    (after : ∀ timeout, Does relation (rest timeout).run site) :
    Does relation (Consumer.clamped timeout >>= rest).run site :=
  after _

/-- Handing a failure back as a value goes as the action goes. -/
theorem attempt {action : Action α} (does : Does relation action.run site) :
    Does relation (Consumer.attempt action).run site :=
  andThen does (idle rfl)

/-- Keeping books is an act of its own. -/
theorem tidy {change : Consumer → Consumer}
    (same : ∀ consumer : Consumer, (change consumer).core = consumer.core) :
    Acts makes resets (update change) site :=
  .single (.tidy (same site.consumer))

/-- Publishing an event keeps books. -/
theorem publish (event : Event) : Acts makes resets (Consumer.publish event) site :=
  tidy fun _ => rfl

/-- Tracing a call that passes the gate is an act. -/
theorem trace (admits : site.Admits client request) (may : makes request) :
    Acts makes resets (Consumer.trace client request) site :=
  .single (.told admits may)

/-- Having the handle perform a call that passes the gate is an act. -/
theorem onHandle {action : StateM Link α} (admits : site.Admits client request)
    (may : makes request) (performs : ∀ link, (request.perform link).2 = (action link).2) :
    Acts makes resets (Consumer.onHandle client action).run site := by
  unfold Acts Does
  rw [onHandle_run, ← performs]
  exact .single (.reached admits may)

/-- A call on the handle is traced and performed. -/
theorem call {primitive : Client.Action α} (admits : site.Admits client request)
    (may : makes request) (performs : ∀ link, (request.perform link).2 = (primitive.run link).2) :
    Acts makes resets (Consumer.call client request primitive).run site := by
  unfold Acts Does
  rw [call_run, ← performs]
  exact .head (.told admits may) (.single (.reached admits may))

/-- A call on the handle that answers within its list is traced and performed. -/
theorem callOnList {traced : List TopicPartition → ClientCall} {primitive : Client.WriteBack}
    {partitions : List TopicPartition} (admits : site.Admits client (traced partitions))
    (may : makes (traced partitions))
    (performs : ∀ link, ((traced partitions).perform link).2 = (primitive partitions link).2) :
    Acts makes resets (Consumer.callOnList client traced primitive partitions).run site := by
  unfold Acts Does
  rw [callOnList_run, ← performs]
  exact .head (.told admits may) (.single (.reached admits may))

/-- Using up a failure that is scripted for a hook keeps books. -/
theorem takeHookFault (hook : Hook) : Acts makes resets (Consumer.takeHookFault hook).run site := by
  unfold Acts Does
  rw [takeHookFault_run]
  refine .single (.tidy ?_)
  rw [takeFault_boundary]
  rfl

/-- A call that the boundary may fail is traced, and goes on to the handle unless it fails. -/
theorem hooked {hook : Hook} {rest : Unit → Action β} (admits : site.Admits client request)
    (may : makes request) (acts : ∀ site site', Act makes False site site' → relation site site')
    (after : ∀ site' : Site, site'.Admits client request → Does relation (rest ()).run site') :
    Does relation (do
      Consumer.trace client request
      rest (← Consumer.takeHookFault hook) : Action β).run site := by
  refine lift ((trace admits may).mono acts) ?_
  refine ((takeHookFault hook).mono acts).bind fun _ site' answered => ?_
  refine after site' (admits_congr ?_ admits)
  rw [takeHookFault_run] at answered
  rw [← (Prod.mk.inj answered).2]
  rfl

end Does

end Consumer

end LogConsumer
