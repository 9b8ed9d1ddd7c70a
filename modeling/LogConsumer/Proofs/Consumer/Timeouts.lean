import LogConsumer.Proofs.Consumer.Gathering
import LogConsumer.Proofs.Consumer.Handles

/-!
# Timeouts handed to the client

Which timeouts the operations of a consumer hand to its handle, read off the trace of the calls
(`Site.handed`). An operation that is given a timeout raises it to the configured minimum and hands
that over; only a bounded consume that waits for its first record alone hands over the minimum
itself from then on (`Operation.Hands`). No other operation hands a timeout over at all, nor does
what runs from inside a close, where the handle is not open. The main result is
`Operation.run_hands`.
-/
namespace LogConsumer

open Consumer Consumer.Does

variable {site between site' : Site} {makes may : ClientCall → Prop} {resets : Prop} {α : Type}

/-- The timeout of a call, if it has one. -/
def ClientCall.timeout? : ClientCall → Option Nat
  | .committed _ timeout | .seek _ timeout | .poll timeout | .offsetsForTimes _ timeout
  | .queryWatermarks _ timeout => some timeout
  | _ => none

/-- What drops the assignment of a handle has no timeout. -/
theorem ClientCall.timeout?_of_isRelease {request : ClientCall} (release : request.IsRelease) :
    request.timeout? = none := by
  cases request with
  | unassign | incrementalUnassign => rfl
  | _ => exact release.elim

/-- The call on the handle, if a timeout is handed over with it. -/
def Call.timed? : Call → Option ClientCall
  | .onHandle request => if request.timeout?.isSome then some request else none
  | _ => none

/-- A timeout is handed over with calls on the handle only. -/
theorem Call.of_timed? {call : Call} {request : ClientCall} (timed : call.timed? = some request) :
    call = .onHandle request ∧ request.timeout?.isSome := by
  cases call with
  | onHandle other =>
    rw [Call.timed?, Option.ite_none_right_eq_some] at timed
    obtain ⟨present, same⟩ := timed
    cases same
    exact ⟨rfl, present⟩
  | prepare | create | onConnected => cases timed

/-- The calls traced with which a timeout was handed over, oldest first. -/
def Site.handed (site : Site) : List ClientCall :=
  site.consumer.boundary.calls.filterMap fun traced => traced.call.timed?

/-- The calls with which an operation hands a timeout over: its own, raised to the configured
minimum. A bounded consume may also go on with the minimum itself if only its first record is worth
waiting for. -/
def Operation.Hands (config : Config) : Operation → ClientCall → Prop
  | .consume timeout, request => request = .poll (max timeout config.minTimeout)
  | .consumeMany _ timeout firstOnly, request =>
    request = .poll (max timeout config.minTimeout) ∨
      (firstOnly = true ∧ request = .poll config.minTimeout)
  | .seek tp timeout, request => request = .seek tp (max timeout config.minTimeout)
  | .committed partitions timeout, request =>
    request = .committed partitions (max timeout config.minTimeout)
  | .offsetsForTimes partitions timeout, request =>
    request = .offsetsForTimes partitions (max timeout config.minTimeout)
  | .queryWatermarks key timeout, request =>
    request = .queryWatermarks key (max timeout config.minTimeout)
  | _, _ => False

/-- From one site to the next timeouts were handed over only with calls that may be made. -/
def Site.Hands (may : ClientCall → Prop) (site site' : Site) : Prop :=
  ∃ handed, site'.handed = site.handed ++ handed ∧
    ∀ request ∈ handed, may request ∧ request.timeout?.isSome

namespace Site.Hands

/-- Nothing was handed over where the trace stays. -/
theorem of_calls (same : site'.consumer.boundary.calls = site.consumer.boundary.calls) :
    site.Hands may site' := by
  refine ⟨[], ?_, List.forall_mem_nil _⟩
  rw [handed, same, List.append_nil]
  rfl

/-- What is traced more is what was handed over. -/
theorem of_append {own : List TracedCall}
    (grown : site'.consumer.boundary.calls = site.consumer.boundary.calls ++ own)
    (each : ∀ traced ∈ own, ∀ request, traced.call.timed? = some request → may request) :
    site.Hands may site' := by
  refine ⟨own.filterMap fun traced => traced.call.timed?, ?_, fun request among => ?_⟩
  · rw [handed, grown, List.filterMap_append]
    rfl
  · obtain ⟨traced, inside, timed⟩ := List.mem_filterMap.mp among
    refine ⟨each traced inside request timed, ?_⟩
    exact (Call.of_timed? timed).2

/-- What was handed over before and after was handed over as a whole. -/
theorem trans (before : site.Hands may between) (after : between.Hands may site') :
    site.Hands may site' := by
  obtain ⟨first, grown, each⟩ := before
  obtain ⟨second, grown', each'⟩ := after
  refine ⟨first ++ second, ?_, List.forall_mem_append.mpr ⟨each, each'⟩⟩
  rw [grown', grown, List.append_assoc]

/-- What may be handed over by a narrower condition may be by a wider one. -/
theorem mono {wide : ClientCall → Prop} (hands : site.Hands may site')
    (wider : ∀ request, may request → request.timeout?.isSome → wide request) :
    site.Hands wide site' := by
  obtain ⟨handed, grown, each⟩ := hands
  refine ⟨handed, grown, fun request among => ?_⟩
  obtain ⟨does, timed⟩ := each request among
  exact ⟨wider request does timed, timed⟩

/-- What an action hands over part by part it hands over as a whole. -/
theorem of_does {action : StateM Site α} (does : Does (Site.Hands may) action site) :
    site.Hands may (action site).2 :=
  does.whole (fun _ => of_calls rfl) fun _ _ _ => trans

/-- A call that is traced is handed over if it has a timeout. -/
theorem noted (handle : Option Nat) (call : Call)
    (each : ∀ request, call.timed? = some request → may request) :
    site.Hands may (note handle call site).2 :=
  of_append rfl fun _ inside => List.mem_singleton.mp inside ▸ each

/-- A call that has no timeout hands none over. -/
theorem noted_untimed (handle : Option Nat) {call : Call} (untimed : call.timed? = none) :
    site.Hands may (note handle call site).2 := by
  refine noted handle call fun request timed => ?_
  rw [untimed] at timed
  cases timed

/-- An act hands over what it is there to call. -/
theorem of_act (act : Act makes resets site site') : site.Hands makes site' := by
  cases act with
  | tidy same => exact of_calls (congrArg Core.calls same)
  | reset partitions subscriptionFlag allowed => exact of_calls rfl
  | @told client request admits does =>
    refine noted client.serial (.onHandle request) fun other timed => ?_
    cases (Call.of_timed? timed).1
    exact does
  | reached admits does => exact of_calls rfl

/-- An action made of acts hands over what they are there to call. -/
theorem of_acts {action : StateM Site α} (acts : Acts makes resets action site) :
    site.Hands makes (action site).2 :=
  of_does (acts.mono fun _ _ => of_act)

/-- Keeping books hands nothing over. -/
theorem of_books {action : StateM Site α} (books : Acts (fun _ => False) False action site) :
    site.Hands may (action site).2 :=
  (of_acts books).mono fun _ made _ => made.elim

end Site.Hands

namespace Consumer.Does

/-- Raising a timeout goes nowhere, and what follows goes on with the timeout raised. -/
theorem raised {relation : Site → Site → Prop} {timeout : Nat} {rest : Nat → Action α}
    (after : Does relation (rest (max timeout site.consumer.config.minTimeout)).run site) :
    Does relation (Consumer.clamped timeout >>= rest).run site :=
  after

/-- Beginning to poll hands the timeout over, raised to the minimum. -/
theorem beginPollRaised (timeout : Nat) :
    Acts (· = .poll (max timeout site.consumer.config.minTimeout)) False
      (Consumer.beginPoll timeout).run site := by
  refine openHandle fun client state => get ?_
  exact lift (trace (.inl state) rfl) (onHandle (.inl state) rfl fun _ => rfl)

end Consumer.Does

/-- The operation is given a timeout. -/
def Operation.IsTimed : Operation → Prop
  | .consume _ | .consumeMany _ _ _ | .seek _ _ | .committed _ _ | .offsetsForTimes _ _
  | .queryWatermarks _ _ => True
  | _ => False

/-- An operation that is given no timeout makes no call that has one. -/
theorem Operation.timeout?_of_makes {operation : Operation} {request : ClientCall}
    (untimed : ¬operation.IsTimed) (made : operation.Makes request) : request.timeout? = none := by
  cases operation with
  | consume | consumeMany | seek | committed | offsetsForTimes | queryWatermarks =>
    exact absurd trivial untimed
  | connect => obtain rfl | ⟨_, rfl⟩ := made <;> rfl
  | storeOffset =>
    obtain ⟨_, rfl⟩ := made
    rfl
  | hasAssigned | name | isClosing | isConnected | activate | deactivate | metrics =>
    exact made.elim
  | _ =>
    cases made
    rfl

/-- An operation that is given no timeout hands none over. -/
theorem Site.Hands.untimed {operation : Operation} (untimed : ¬operation.IsTimed)
    (hands : site.Hands operation.Makes site') : site.Hands may site' := by
  refine hands.mono fun request made timed => ?_
  rw [Operation.timeout?_of_makes untimed made] at timed
  cases timed

namespace Consumer

/-- Connecting hands no timeout over. -/
theorem connect_hands (site : Site) : site.Hands may (connect.run site).2 := by
  refine .of_does ?_
  rw [connect_eq]
  refine get (either (lift (.single (.noted_untimed none rfl)) ?_) (pure _))
  refine bind (.single (.of_books (Does.takeHookFault .prepare))) fun _ prepared _ => ?_
  have installs : Does (Site.Hands may) installHandle.run prepared := by
    have asks : prepared.Hands may (asked prepared) := .noted_untimed none rfl
    obtain ⟨_, result⟩ | ⟨_, _, _, result⟩ | ⟨_, _, result⟩ := installHandle_cases prepared
    · exact idle (by rw [result])
    · exact .single (by rw [result]; exact asks)
    · exact .single (by rw [result]; exact asks.trans (.of_calls rfl))
  refine bind installs fun installed site' result => ?_
  cases installed with
  | none => exact pure _
  | some client =>
    exact Does.greet (connection_of_installHandle result)
      (fun _ _ act => (Site.Hands.of_act act).untimed id)
      fun site _ => .noted_untimed client.serial rfl

/-- Disconnecting hands no timeout over: while the handle is being closed, only what drops its
assignment reaches it. -/
theorem disconnect_hands {inside : StateM Site Unit} (runs : RunsInside inside) (site : Site) :
    site.Hands may ((disconnect inside).run site).2 := by
  obtain same | ⟨stopped, client, life, opened, final⟩ := disconnect_cases inside site
  · exact .of_calls (congrArg Life.calls same)
  · have within := runs (stopped.shutting client) client.serial rfl
    obtain ⟨own, calls, closing⟩ := Life.calls_of_closing within rfl
    have begun : (stopped.shutting client).life.calls =
        site.consumer.boundary.calls ++ [⟨client.serial, .onHandle .close⟩] :=
      congrArg (· ++ _) (congrArg Life.calls life)
    rw [begun, List.append_assoc] at calls
    refine .of_append ((congrArg Life.calls final).trans calls) fun traced among request timed => ?_
    obtain called | called := List.mem_cons.mp among
    · cases called
      cases timed
    · cases closing traced called with
      | prepares => cases timed
      | releases release =>
        obtain ⟨same, present⟩ := Call.of_timed? timed
        cases same
        rw [ClientCall.timeout?_of_isRelease release] at present
        cases present

/-- A poll of the open handle is handed its timeout; without one nothing is handed over. The handle
stays open or not. -/
theorem pollHandle_handed (timeout : Nat) (site : Site) :
    (pollHandle timeout site).2.handed =
        site.handed ++ (if site.consumer.connection.isConnected then [.poll timeout] else []) ∧
      (pollHandle timeout site).2.consumer.connection.isConnected =
        site.consumer.connection.isConnected := by
  cases state : site.consumer.connection with
  | connected client =>
    rw [pollHandle_connected state]
    refine ⟨List.filterMap_append, ?_⟩
    change (site.consumer.connection.update _).isConnected = _
    rw [state]
    rfl
  | disconnected | closing =>
    rw [pollHandle_absent (by rw [state]; nofun)]
    refine ⟨(List.append_nil _).symm, congrArg Connection.isConnected state⟩

/-- Polls of the open handle are handed their timeouts, one after the other. -/
theorem pollHandles_handed (timeouts : List Nat) (site : Site) :
    (timeouts.mapM pollHandle site).2.handed = site.handed ++
      (if site.consumer.connection.isConnected then timeouts.map .poll else []) := by
  induction timeouts generalizing site with
  | nil => cases site.consumer.connection.isConnected <;> exact (List.append_nil _).symm
  | cons timeout timeouts ih =>
    obtain ⟨first, state⟩ := pollHandle_handed timeout site
    rw [run_mapM_cons, ih, first, state]
    cases site.consumer.connection.isConnected <;> simp

/-- Over an open handle, a bounded consume hands over the timeouts of its polls, and no other. -/
theorem consumeMany_handed (count timeout : Nat) (firstOnly : Bool) (site : Site) :
    let ran := (consumeMany count timeout firstOnly).run site
    ∃ timeouts outcomes,
      BoundedConsume site.consumer.config count timeout firstOnly timeouts outcomes ran.1 ∧
      ran.2.handed = site.handed ++
        (if site.consumer.connection.isConnected then timeouts.map .poll else []) := by
  intro ran
  have gathers := gather_gathers (rfl : site.consumer.config = _) count
    (site.consumer.config.nextTimeout? firstOnly) (backlog_lt_pollBound site) { timeout }
  obtain ⟨timeouts, answers, polled, bounded⟩ := gathers_iff.mp gathers
  have final : ran.2 = (timeouts.mapM pollHandle site).2 := (congrArg Prod.snd polled).symm
  refine ⟨timeouts, _, bounded, ?_⟩
  rw [final]
  exact pollHandles_handed timeouts site

end Consumer

/-- Every timeout of a bounded consume is one that its operation may hand over. -/
theorem PollsOn.hands {config : Config} {count timeout : Nat} {firstOnly : Bool}
    {timeouts : List Nat} {outcomes : List Outcome}
    (polls : PollsOn config count timeout firstOnly timeouts outcomes) {asked : Nat}
    (among : asked ∈ timeouts) :
    (Operation.consumeMany count timeout firstOnly).Hands config (.poll asked) := by
  rw [polls.timeouts] at among
  obtain ⟨polled, _, rfl⟩ := List.mem_map.mp among
  unfold Config.handedAfter
  split
  · rename_i shortened
    exact .inr ⟨shortened.1, rfl⟩
  · exact .inl rfl

/-- A bounded consume hands over what its operation may. -/
theorem Consumer.consumeMany_hands (count timeout : Nat) (firstOnly : Bool) (site : Site) :
    site.Hands ((Operation.consumeMany count timeout firstOnly).Hands site.consumer.config)
      ((consumeMany count timeout firstOnly).run site).2 := by
  obtain ⟨timeouts, outcomes, bounded, handed⟩ := consumeMany_handed count timeout firstOnly site
  refine ⟨_, handed, fun request among => ?_⟩
  split at among
  · obtain ⟨asked, inside, rfl⟩ := List.mem_map.mp among
    exact ⟨bounded.toPollsOn.hands inside, rfl⟩
  · cases among

/-- Every operation hands its own timeouts over, raised to the configured minimum, whatever state
the consumer is in and whatever runs from inside a close. -/
theorem Operation.run_hands (operation : Operation) (site : Site) :
    site.Hands (operation.Hands site.consumer.config) (operation.run.run site).2 := by
  have untimed (opens : operation ≠ .connect) (closes : operation ≠ .disconnect)
      (untimed : ¬operation.IsTimed) :
      site.Hands (operation.Hands site.consumer.config) (operation.run.run site).2 :=
    (Site.Hands.of_acts (Does.perform Consumer.runCloseScript opens closes site)).untimed untimed
  have acts (timed : Acts (operation.Hands site.consumer.config) False
      (operation.perform Consumer.runCloseScript).run site) :
      site.Hands (operation.Hands site.consumer.config) (operation.run.run site).2 := .of_acts timed
  cases operation with
  | connect => exact .of_does (answer (.single (connect_hands site)))
  | disconnect => exact .of_does (answer (.single (disconnect_hands .script site)))
  | consume timeout =>
    refine acts (answer (bind (beginPollRaised timeout) fun _ _ _ => ?_))
    exact lift (tidy fun _ => rfl) (idle rfl)
  | consumeMany count timeout firstOnly =>
    exact .of_does (answer (.single (consumeMany_hands count timeout firstOnly site)))
  | seek tp timeout =>
    exact acts (answer (openHandle fun client state => requireWellFormed fun _ =>
      raised (call (.inl state) rfl fun _ => rfl)))
  | committed partitions timeout | offsetsForTimes partitions timeout =>
    exact acts (answer (openHandle fun client state => requireWellFormed fun _ =>
      raised (callOnList (.inl state) rfl fun _ => rfl)))
  | queryWatermarks key timeout =>
    exact acts (answer (openHandle fun client state => raised (call (.inl state) rfl fun _ => rfl)))
  | _ => exact untimed nofun nofun id

end LogConsumer
