import LogConsumer.Consumer.Offsets
import LogConsumer.Proofs.Client.Forgetting
import LogConsumer.Proofs.Consumer.Gates

/-!
# Errors that a list carries through a consumer

A consumer hands a list on to its handle and answers with the list that the handle writes, so what
holds of old errors at the client holds through the consumer. Two runs are compared: from sites that
differ in their traces alone, which list the calls with the lists they were given, the operations
pass the same gates, and answer and end alike (`Couples`). Coupled parts make coupled wholes. The
main result is `reports_this_call`: what a call reports is its own, but that the errors which a list
carries into a look-up of committed offsets come out of it again.
-/
namespace LogConsumer

open TopicPartition

/-- The site with another trace. -/
def Site.withCalls (site : Site) (calls : List TracedCall) : Site :=
  { site with consumer := { site.consumer with
      boundary := { site.consumer.boundary with calls } } }

/-- The fault without the outcome of a call in the partition that it names. -/
def InputError.cleared : InputError → InputError
  | .negativeOffset offset tp => .negativeOffset offset tp.cleared
  | fault => fault

/-- The error without the outcome of a call in the partition that it names. -/
def ConsumerError.cleared : ConsumerError → ConsumerError
  | .validation fault => .validation fault.cleared
  | error => error

/-- Nothing that is told of an error shows the outcome of a call in the partition it names. -/
theorem ConsumerError.told_cleared (error : ConsumerError) :
    error.cleared.message = error.message ∧ error.cleared.kind = error.kind ∧
      error.cleared.code = error.code ∧ error.cleared.client? = error.client? := by
  cases error with
  | validation fault => cases fault <;> exact ⟨rfl, rfl, rfl, rfl⟩
  | state | config | protocol | internal => exact ⟨rfl, rfl, rfl, rfl⟩

/-- The lists that a call answers with are alike, and the same if it renews their errors; if not,
the errors in them are those of the lists that it was given. -/
def ListCall.Reports (request : ListCall) (left right given taken : List TopicPartition) : Prop :=
  Alike given taken ∧ (request.Renews → given = taken) ∧
    (¬request.Renews → given.map error = left.map error ∧ taken.map error = right.map error)

namespace Consumer

variable {α β γ δ : Type} {agree : α → β → Prop} {later : γ → δ → Prop}

/-- Both outcomes are answers that agree, or failures that differ at most in the outcome of a call
in a partition that they name. -/
def Agree (agree : α → β → Prop) : Except ConsumerError α → Except ConsumerError β → Prop
  | .ok answer, .ok answer' => agree answer answer'
  | .error failure, .error failure' => failure.cleared = failure'.cleared
  | _, _ => False

/-- From sites that differ in their traces alone the actions answer in agreement and end on sites
that differ in their traces alone. -/
def Couples (agree : α → β → Prop) (left : Action α) (right : Action β) : Prop :=
  ∀ site calls,
    Agree agree (left.run site).1 (right.run (site.withCalls calls)).1 ∧
      ∃ calls', (right.run (site.withCalls calls)).2 = (left.run site).2.withCalls calls'

/-- The fault of a partition is found whatever the outcome of a call in it. -/
theorem inputFault?_cleared (tp : TopicPartition) :
    (inputFault? tp).map InputError.cleared = inputFault? tp.cleared := by
  obtain ⟨topic, partition, offset, leaderEpoch, error⟩ := tp
  unfold inputFault? TopicPartition.cleared
  dsimp only
  split
  · rfl
  · split
    · rfl
    · cases offset with
      | absolute place =>
        dsimp only
        split <;> rfl
      | beginning | ending | stored | invalid => rfl

namespace Couples

/-- Answering in agreement is coupled. -/
theorem pure {answer : α} {answer' : β} (agrees : agree answer answer') :
    Couples agree (Pure.pure answer) (Pure.pure answer') :=
  fun _ calls => ⟨agrees, calls, rfl⟩

/-- Failing alike is coupled. -/
theorem throw {failure failure' : ConsumerError} (same : failure.cleared = failure'.cleared) :
    Couples agree (throw failure : Action α) (throw failure' : Action β) :=
  fun _ calls => ⟨same, calls, rfl⟩

/-- Two actions in order are coupled with two that are coupled with them one by one. -/
theorem bind {left : Action α} {right : Action β} {rest : α → Action γ} {rest' : β → Action δ}
    (first : Couples agree left right)
    (after : ∀ answer answer', agree answer answer' → Couples later (rest answer) (rest' answer')) :
    Couples later (left >>= rest) (right >>= rest') := by
  intro site calls
  obtain ⟨agreed, calls', ended⟩ := first site calls
  cases one : left.run site with
  | mk outcome between =>
    cases two : right.run (site.withCalls calls) with
    | mk outcome' between' =>
      rw [one, two] at agreed ended
      obtain rfl : between' = between.withCalls calls' := ended
      cases outcome with
      | ok answer =>
        cases outcome' with
        | ok answer' =>
          rw [run_bind_ok one, run_bind_ok two]
          exact after answer answer' agreed between calls'
        | error failure' => exact agreed.elim
      | error failure =>
        cases outcome' with
        | ok answer' => exact agreed.elim
        | error failure' =>
          rw [run_bind_error one, run_bind_error two]
          exact ⟨agreed, calls', rfl⟩

/-- What is read of the site, the trace apart, is the same on both sides. -/
theorem reading {rest rest' : Site → Action α} {later : α → α → Prop}
    (after : ∀ site calls, Couples later (rest site) (rest' (site.withCalls calls))) :
    Couples later (MonadState.get >>= rest) (MonadState.get >>= rest') :=
  fun site calls => after site calls site calls

/-- Either of two actions is coupled with the other side's. -/
theorem either {condition : Prop} [Decidable condition] {first second : Action α}
    {first' second' : Action β} (yes : Couples agree first first')
    (no : Couples agree second second') :
    Couples agree (if condition then first else second)
      (if condition then first' else second') := by
  split
  · exact yes
  · exact no

/-- The gate for an open handle admits the same handle. -/
theorem openHandle : Couples Eq openHandle openHandle := by
  intro site calls
  obtain ⟨client, state, passed⟩ | ⟨absent, refused⟩ := openHandle_cases site
  · obtain ⟨client', state', passed'⟩ | ⟨absent', _⟩ := openHandle_cases (site.withCalls calls)
    · cases state.symm.trans state'
      rw [passed, passed']
      exact ⟨rfl, calls, rfl⟩
    · exact absurd state (absent' client)
  · obtain ⟨client', state', _⟩ | ⟨_, refused'⟩ := openHandle_cases (site.withCalls calls)
    · exact absurd state' (absent client')
    · rw [refused, refused']
      exact ⟨rfl, calls, rfl⟩

/-- Raising a timeout raises it the same. -/
theorem clamped (timeout : Nat) : Couples Eq (clamped timeout) (clamped timeout) :=
  reading fun _ _ => pure rfl

/-- A call that is traced goes on, whatever the trace says. -/
theorem traced {client : Client} {request request' : ClientCall} {rest : Action α}
    {rest' : Action β} (after : Couples agree rest rest') :
    Couples agree (do trace client request; rest) (do trace client request'; rest') := by
  intro site calls
  exact after (site.traced client request) (calls ++ [⟨client.serial, .onHandle request'⟩])

/-- A failure that is scripted for a hook fails both. -/
theorem takeHookFault (hook : Hook) : Couples Eq (takeHookFault hook) (takeHookFault hook) := by
  intro site calls
  have apart : (site.withCalls calls).consumer.boundary.takeFault hook =
      ((site.consumer.boundary.takeFault hook).1,
        { (site.consumer.boundary.takeFault hook).2 with calls }) := by
    change Boundary.takeFault { site.consumer.boundary with calls } hook = _
    unfold Boundary.takeFault Boundary.script
    dsimp only
    split <;> rfl
  rw [takeHookFault_run, takeHookFault_run, apart]
  refine ⟨?_, calls, rfl⟩
  cases (site.consumer.boundary.takeFault hook).1 with
  | some error => exact rfl
  | none => exact rfl

/-- What handles do in agreement, from the same link to the same link, is coupled. -/
theorem onHandle {client : Client} {left : StateM Link α} {right : StateM Link β}
    (acts : ∀ link, agree (left link).1 (right link).1 ∧ (right link).2 = (left link).2) :
    Couples agree (onHandle client left) (onHandle client right) := by
  intro site calls
  obtain ⟨agrees, same⟩ := acts ⟨client, site.cluster⟩
  refine ⟨agrees, calls, ?_⟩
  change (site.withCalls calls).linked (right ⟨client, site.cluster⟩).2 = _
  rw [same]
  rfl

/-- The gate for well-formed partitions finds the same fault in lists that are alike. -/
theorem requireWellFormed {left right : List TopicPartition} (alike : Alike left right) :
    Couples Eq (requireWellFormed left) (requireWellFormed right) := by
  have first (partitions : List TopicPartition) :
      (partitions.findSome? inputFault?).map InputError.cleared =
        (partitions.map cleared).findSome? inputFault? := by
    rw [List.map_findSome?, List.findSome?_map]
    exact congrArg (List.findSome? · partitions) (funext inputFault?_cleared)
  have same := (first left).trans ((congrArg _ alike).trans (first right).symm)
  unfold Consumer.requireWellFormed
  cases one : left.findSome? inputFault? with
  | none =>
    cases two : right.findSome? inputFault? with
    | none => exact pure rfl
    | some fault' =>
      rw [one, two] at same
      cases same
  | some fault =>
    cases two : right.findSome? inputFault? with
    | none =>
      rw [one, two] at same
      cases same
    | some fault' =>
      rw [one, two] at same
      exact throw (congrArg ConsumerError.validation (Option.some.inj same))

/-- What a handle writes into lists that are alike is handed on alike. -/
theorem answered (request : ListCall) (client : Client) {left right : List TopicPartition}
    (alike : Alike left right) :
    Couples (request.Reports left right)
      (do
        match ← Consumer.onHandle client (request.primitive left) with
        | (.ok (), answers) => Pure.pure answers
        | (.error error, _) => MonadExcept.throw (.protocol error))
      (do
        match ← Consumer.onHandle client (request.primitive right) with
        | (.ok (), answers) => Pure.pure answers
        | (.error error, _) => MonadExcept.throw (.protocol error)) := by
  have acts (link : Link) :
      ((request.primitive left link).1.1 = (request.primitive right link).1.1 ∧
        ((request.primitive left link).1.1 = .ok () → request.Reports left right
          (request.primitive left link).1.2 (request.primitive right link).1.2)) ∧
        (request.primitive right link).2 = (request.primitive left link).2 := by
    obtain ⟨outcome, after, written, renewed, kept⟩ := request.primitive_alike link alike
    refine ⟨⟨outcome, fun done => ⟨written, fun renews => ?_, fun keeps => ?_⟩⟩, after.symm⟩
    · exact renewed (ListCall.rewrites_of_ok renews done)
    · exact kept fun rewrites => keeps rewrites.renews
  have written : Couples (fun one two => one.1 = two.1 ∧
      (one.1 = .ok () → request.Reports left right one.2 two.2))
      (Consumer.onHandle client (request.primitive left))
      (Consumer.onHandle client (request.primitive right)) := onHandle acts
  refine bind written fun one two agrees => ?_
  obtain ⟨outcome, given⟩ := one
  obtain ⟨outcome', taken⟩ := two
  obtain ⟨rfl, reports⟩ := agrees
  cases outcome with
  | error error => exact throw rfl
  | ok value => exact pure (reports rfl)

/-- Calls with lists that are alike are coupled. -/
theorem callOnList (request : ListCall) (client : Client)
    (tells : List TopicPartition → ClientCall) {left right : List TopicPartition}
    (alike : Alike left right) :
    Couples (request.Reports left right)
      (Consumer.callOnList client tells request.primitive left)
      (Consumer.callOnList client tells request.primitive right) :=
  traced (answered request client alike)

/-- Calls that the boundary may fail, with lists that are alike, are coupled. -/
theorem callHookedOnList (request : ListCall) (hook : Hook) (client : Client)
    (tells : List TopicPartition → ClientCall) {left right : List TopicPartition}
    (alike : Alike left right) :
    Couples (request.Reports left right)
      (Consumer.callHookedOnList hook client tells request.primitive left)
      (Consumer.callHookedOnList hook client tells request.primitive right) :=
  traced (bind (takeHookFault hook) fun _ _ _ => answered request client alike)

end Couples

end Consumer

namespace ListCall

/-- The operation of a consumer that makes the call. -/
def through (partitions : List TopicPartition) : ListCall → Consumer.Action (List TopicPartition)
  | committed timeout => Consumer.committed partitions timeout
  | position => Consumer.position partitions
  | pause => Consumer.pause partitions
  | resume => Consumer.resume partitions
  | storeOffsets => Consumer.storeOffsets partitions
  | offsetsForTimes timeout => Consumer.offsetsForTimes partitions timeout

/-- The operations on lists that are alike are coupled. -/
theorem through_couples (request : ListCall) {left right : List TopicPartition}
    (alike : Alike left right) :
    Consumer.Couples (request.Reports left right) (request.through left)
      (request.through right) := by
  have gated {first second : Client → Consumer.Action (List TopicPartition)}
      (rest : ∀ client, Consumer.Couples (request.Reports left right) (first client)
        (second client)) :
      Consumer.Couples (request.Reports left right)
        (do
          let client ← Consumer.openHandle
          Consumer.requireWellFormed left
          first client)
        (do
          let client ← Consumer.openHandle
          Consumer.requireWellFormed right
          second client) := by
    refine .bind .openHandle fun client client' same => ?_
    obtain rfl : client = client' := same
    exact .bind (.requireWellFormed alike) fun _ _ _ => rest client
  cases request with
  | committed timeout =>
    refine gated fun client => .bind (.clamped timeout) fun raised raised' same => ?_
    obtain rfl : raised = raised' := same
    exact .callOnList (.committed raised) client _ alike
  | position => exact gated fun client => .callHookedOnList .position _ client _ alike
  | pause => exact gated fun client => .callHookedOnList .pause _ client _ alike
  | resume => exact gated fun client => .callHookedOnList .resume _ client _ alike
  | storeOffsets =>
    have refuses : Consumer.Couples Eq
        (throw (.state .notSubscribed) : Consumer.Action PUnit) (throw (.state .notSubscribed)) :=
      .throw rfl
    have goes := gated fun client =>
      Consumer.Couples.callOnList .storeOffsets client ClientCall.storeOffsets alike
    exact .reading fun site calls => .either (refuses.bind fun _ _ _ => goes) goes
  | offsetsForTimes timeout =>
    refine gated fun client => .bind (.clamped timeout) fun raised raised' same => ?_
    obtain rfl : raised = raised' := same
    exact .callOnList (.offsetsForTimes raised) client _ alike

end ListCall

/-- What a call reports is its own, whichever errors its list carries in. For lists that are the
same but for their errors it answers the same, writes the same offsets and leaves the same state,
and it writes the same errors if it `Rewrites` its list; if not, the errors that were in the list
stay in it. Through a consumer a call fails the same, or it succeeds and so its list is rewritten,
but not by a look-up of committed offsets. -/
theorem reports_this_call (request : ListCall) (left right : List TopicPartition)
    (alike : Alike left right) :
    (∀ link,
      let one := (request.on left).perform link
      let two := (request.on right).perform link
      one.1.outcome = two.1.outcome ∧ one.2 = two.2 ∧
      ∃ given taken, one.1.written = some given ∧ two.1.written = some taken ∧
        Alike given taken ∧ (request.Rewrites link → given = taken) ∧
        (¬request.Rewrites link →
          given.map error = left.map error ∧ taken.map error = right.map error)) ∧
    ∀ site,
      let one := (request.through left).run site
      let two := (request.through right).run site
      (∃ calls, two.2 = one.2.withCalls calls) ∧
      ((∃ given taken, one.1 = .ok given ∧ two.1 = .ok taken ∧
          request.Reports left right given taken) ∨
        ∃ failure failure', one.1 = .error failure ∧ two.1 = .error failure' ∧
          failure.cleared = failure'.cleared ∧ failure.message = failure'.message ∧
          failure.kind = failure'.kind ∧ failure.code = failure'.code ∧
          failure.client? = failure'.client?) := by
  refine ⟨fun link => ?_, fun site => ?_⟩
  · intro one two
    obtain ⟨outcome, after, written, renewed, kept⟩ := request.primitive_alike link alike
    have first : one = _ := request.perform_eq left link
    have second : two = _ := request.perform_eq right link
    rw [first, second]
    refine ⟨?_, after, _, _, rfl, rfl, written, renewed, kept⟩
    dsimp only
    rw [outcome]
  · intro one two
    obtain ⟨agreed, ended⟩ := request.through_couples alike site site.consumer.boundary.calls
    refine ⟨ended, ?_⟩
    change Consumer.Agree _ one.1 two.1 at agreed
    cases answered : one.1 with
    | ok given =>
      cases answered' : two.1 with
      | ok taken =>
        rw [answered, answered'] at agreed
        exact .inl ⟨given, taken, rfl, rfl, agreed⟩
      | error failure' =>
        rw [answered, answered'] at agreed
        exact agreed.elim
    | error failure =>
      cases answered' : two.1 with
      | ok taken =>
        rw [answered, answered'] at agreed
        exact agreed.elim
      | error failure' =>
        rw [answered, answered'] at agreed
        have same : failure.cleared = failure'.cleared := agreed
        obtain ⟨message, kind, code, client⟩ := failure.told_cleared
        obtain ⟨message', kind', code', client'⟩ := failure'.told_cleared
        refine .inr ⟨failure, failure', rfl, rfl, same, ?_, ?_, ?_, ?_⟩
        · rw [← message, same, message']
        · rw [← kind, same, kind']
        · rw [← code, same, code']
        · rw [← client, same, client']

/-- A partition that is not assigned is reported so again, whatever an entry said before. -/
theorem reports_this_call_position :
    let tp : TopicPartition := { topic := "t", partition := 0 }
    let stale : TopicPartition := { tp with error := .timedOut }
    Alike [tp] [stale] ∧ ∃ given taken,
      ((ListCall.position.on [tp]).perform default).1.written = some given ∧
      ((ListCall.position.on [stale]).perform default).1.written = some taken ∧ given = taken := by
  intro tp stale
  have alike : Alike [tp] [stale] := by decide
  obtain ⟨_, _, given, taken, first, second, _, renewed, _⟩ :=
    (reports_this_call .position [tp] [stale] alike).1 default
  exact ⟨alike, given, taken, first, second, renewed trivial⟩

/-- Committed offsets are looked up with the list that reading positions has written: the partition
that was not assigned has a committed offset, and the error stays beside it. -/
theorem old_error_survives :
    let tp : TopicPartition := { topic := "t", partition := 0 }
    let stale : TopicPartition := { tp with error := .unknownPartition }
    let found : TopicPartition := { tp with offset := .absolute 5 }
    ∃ client cluster, Client.create { groupId := some "g" } "" (({} : Cluster).createTopic "t" 1) =
        (.ok client, cluster) ∧
      let link := ((ClientCall.commit (some [found]) .sync).perform ⟨client, cluster⟩).2
      ((ListCall.position.on [tp]).perform link).1.written = some [stale] ∧
      Alike [tp] [stale] ∧
      (((ListCall.committed 1).on [tp]).perform link).1.written = some [found] ∧
      (((ListCall.committed 1).on [stale]).perform link).1.written =
        some [{ found with error := .unknownPartition }] :=
  ⟨_, _, rfl, by decide +kernel⟩

end LogConsumer
