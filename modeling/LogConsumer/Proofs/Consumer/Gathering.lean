import LogConsumer.Proofs.Client.Backlog
import LogConsumer.Proofs.Consumer.Counting
import LogConsumer.Proofs.Consumer.Opening

/-!
# Bounded consumes

What a bounded consume does, whatever answers its polls. `Gathers` is its loop with no bound on the
polls, over an arbitrary source of answers: after each poll `Gathering.receive` says whether it goes
on. `BoundedConsume` says the same from outside, of the answers to its polls in order, the timeouts
that were handed over with them, and the result. The two agree for every source (`gathers_iff`), so
where the loop ends it has polled just as often as it should, and dropped nothing of what it polled.

The bound on the polls of `Consumer.gather` is never what ends it, since polls that find something
use up a backlog that the bound exceeds (`gather_gathers`). The main result, `bounded_consumes`,
puts both together.
-/
namespace LogConsumer

namespace Outcome

/-- The outcome of a poll that was answered with a message, or refused. -/
def ofAnswer (answer : Except ConsumerError Message) : Outcome :=
  answer >>= ofMessage

/-- The outcome ends a bounded consume: the poll failed or saw nothing. -/
def ends : Outcome → Bool
  | .ok message => message.isTimeout
  | .error _ => true

/-- The record that was polled, if it was one. -/
def record? : Outcome → Option Message
  | .ok message => if message.hasData then some message else none
  | .error _ => none

/-- The partition whose end was polled, if it was one. -/
def endedPartition? : Outcome → Option TopicPartition
  | .ok message => if message.isEndOfPartition then some message.topicPartition else none
  | .error _ => none

end Outcome

/-- All records and all ends of partitions among the outcomes of polls, in the order of the polls.
-/
def Batch.of (outcomes : List Outcome) : Batch :=
  { messages := outcomes.filterMap Outcome.record?
    endedPartitions := outcomes.filterMap Outcome.endedPartition? }

/-- The timeout that is handed to the client for the poll after these: the one that was asked for,
raised to the configured minimum, or that minimum itself once there is a record, if only the first
record is worth waiting for. -/
def Config.handedAfter (config : Config) (timeout : Nat) (firstOnly : Bool)
    (outcomes : List Outcome) : Nat :=
  if firstOnly ∧ (Batch.of outcomes).messages ≠ [] then config.minTimeout
  else max timeout config.minTimeout

/-- Polls are made as long as they should, with the timeouts that they should have. -/
structure PollsOn (config : Config) (count timeout : Nat) (firstOnly : Bool) (timeouts : List Nat)
    (outcomes : List Outcome) : Prop where
  /-- Before every poll there are fewer records than asked for, and no poll has ended it. -/
  goesOn : ∀ before outcome after, outcomes = before ++ outcome :: after →
    (Batch.of before).messages.length < count ∧ ∀ earlier ∈ before, earlier.ends = false
  /-- Every poll is handed the timeout that is due after the polls before it. -/
  timeouts : timeouts = (List.range outcomes.length).map fun polled =>
    config.handedAfter timeout firstOnly (outcomes.take polled)

/-- What a bounded consume of up to `count` records does: it polls with these timeouts and these
outcomes, and answers with this result. -/
structure BoundedConsume (config : Config) (count timeout : Nat) (firstOnly : Bool)
    (timeouts : List Nat) (outcomes : List Outcome) (result : Except ConsumerError Batch) : Prop
    extends PollsOn config count timeout firstOnly timeouts outcomes where
  /-- It ends with the records asked for, or with the first outcome that ends it. -/
  ended : (Batch.of outcomes).messages.length = count ∨
    ∃ last, outcomes.getLast? = some last ∧ last.ends = true
  /-- There are never more records than asked for. -/
  atMost : (Batch.of outcomes).messages.length ≤ count
  /-- It fails exactly if the last poll failed and no record was polled, as that poll did. -/
  fails : ∀ error, result = .error error ↔
    outcomes.getLast? = some (.error error) ∧ (Batch.of outcomes).messages = []
  /-- Else it answers with everything that was polled. -/
  answers : ∀ batch, result = .ok batch → batch = Batch.of outcomes

section Source

variable {σ : Type} {config : Config} {source : Nat → StateM σ (Except ConsumerError Message)}

/-- Poll one message from a source, as a consumer with this configuration does. -/
def consuming (config : Config) (source : Nat → StateM σ (Except ConsumerError Message))
    (timeout : Nat) : StateM σ Outcome := do
  pure (.ofAnswer (← source (config.clampTimeout timeout)))

/-- The loop of a bounded consume, with no bound on its polls: from a state and a gathering it comes
to a result and a final state. -/
inductive Gathers (consume : Nat → StateM σ Outcome) (count : Nat) (next : Option Nat) :
    σ → Gathering → Except ConsumerError Batch → σ → Prop where
  /-- There are as many records as asked for. -/
  | enough {state : σ} {gathering : Gathering}
      (reached : count ≤ gathering.batch.messages.length) :
      Gathers consume count next state gathering (.ok gathering.batch) state
  /-- A poll is made, and the loop goes on. -/
  | going {state final : σ} {gathering longer : Gathering} {result : Except ConsumerError Batch}
      (short : gathering.batch.messages.length < count)
      (goes : gathering.receive next (consume gathering.timeout state).1 = .going longer)
      (rest : Gathers consume count next (consume gathering.timeout state).2 longer result final) :
      Gathers consume count next state gathering result final
  /-- A poll is made, and the loop ends. -/
  | ended {state : σ} {gathering : Gathering} {result : Except ConsumerError Batch}
      (short : gathering.batch.messages.length < count)
      (stops : gathering.receive next (consume gathering.timeout state).1 = .ended result) :
      Gathers consume count next state gathering result (consume gathering.timeout state).2

/-- What a bounded consume has gathered after these outcomes, with the timeout that it goes on with.
-/
def Gathering.after (config : Config) (timeout : Nat) (firstOnly : Bool) (outcomes : List Outcome) :
    Gathering :=
  { batch := .of outcomes
    timeout :=
      if firstOnly ∧ (Batch.of outcomes).messages ≠ [] then config.minTimeout else timeout }

/-- The timeout to go on with once there is a record, if it changes then. -/
def Config.nextTimeout? (config : Config) (firstOnly : Bool) : Option Nat :=
  if firstOnly then some config.minTimeout else none

/-- The timeout that a gathering goes on with is raised to the one that is handed over. -/
theorem Config.clampTimeout_after (config : Config) (timeout : Nat) (firstOnly : Bool)
    (outcomes : List Outcome) :
    config.clampTimeout (Gathering.after config timeout firstOnly outcomes).timeout =
      config.handedAfter timeout firstOnly outcomes := by
  unfold Config.clampTimeout Gathering.after Config.handedAfter
  dsimp only
  split
  · exact Nat.max_self _
  · rfl

/-- A source is asked with the timeout that is handed over. -/
theorem consuming_after (config : Config) (timeout : Nat) (firstOnly : Bool)
    (outcomes : List Outcome) (state : σ) :
    consuming config source (Gathering.after config timeout firstOnly outcomes).timeout state =
      let answered := source (config.handedAfter timeout firstOnly outcomes) state
      (.ofAnswer answered.1, answered.2) := by
  rw [← config.clampTimeout_after]
  rfl

/-- What is gathered of outcomes and one more is what is gathered of both. -/
theorem Batch.of_snoc (outcomes : List Outcome) (outcome : Outcome) :
    Batch.of (outcomes ++ [outcome]) =
      { messages := (Batch.of outcomes).messages ++ outcome.record?.toList
        endedPartitions :=
          (Batch.of outcomes).endedPartitions ++ outcome.endedPartition?.toList } := by
  have one {α : Type} (part? : Outcome → Option α) :
      [outcome].filterMap part? = (part? outcome).toList := by
    cases found : part? outcome <;> simp [found]
  unfold Batch.of
  rw [List.filterMap_append, List.filterMap_append, one, one]

/-- An outcome that does not end a bounded consume is a record or the end of a partition. -/
theorem Outcome.kind_of_goesOn {answer : Except ConsumerError Message}
    (goes : (Outcome.ofAnswer answer).ends = false) :
    ∃ message : Message, Outcome.ofAnswer answer = .ok message ∧ message.isTimeout = false ∧
      message.hasData = !message.isEndOfPartition := by
  cases outcome : Outcome.ofAnswer answer with
  | error error =>
    rw [outcome] at goes
    contradiction
  | ok message =>
    have awake : message.isTimeout = false := by
      rw [outcome] at goes
      exact goes
    refine ⟨message, rfl, awake, ?_⟩
    cases answer with
    | error error => cases outcome
    | ok polled =>
      obtain ⟨rfl, record | empty | ended⟩ := Outcome.eq_of_ofMessage outcome
      · have inside : message.isEndOfPartition = false := by
          by_contra atEnd
          rw [Message.hasData_eq_false (.inr (by simpa using atEnd))] at record
          contradiction
        rw [record, inside]
        rfl
      · rw [awake] at empty
        contradiction
      · rw [Message.hasData_eq_false (.inr ended), ended]
        rfl

/-- An outcome that does not end a bounded consume is gathered. -/
theorem Gathering.receive_of_goesOn {answer : Except ConsumerError Message}
    (goes : (Outcome.ofAnswer answer).ends = false) (config : Config) (timeout : Nat)
    (firstOnly : Bool) (outcomes : List Outcome) :
    (Gathering.after config timeout firstOnly outcomes).receive (config.nextTimeout? firstOnly)
        (.ofAnswer answer) =
      .going (.after config timeout firstOnly (outcomes ++ [.ofAnswer answer])) := by
  obtain ⟨message, outcome, awake, kind⟩ := Outcome.kind_of_goesOn goes
  have batch : Batch.of (outcomes ++ [.ok message]) =
      if message.isEndOfPartition then
        { Batch.of outcomes with
          endedPartitions := (Batch.of outcomes).endedPartitions ++ [message.topicPartition] }
      else { Batch.of outcomes with messages := (Batch.of outcomes).messages ++ [message] } := by
    rw [Batch.of_snoc]
    cases atEnd : message.isEndOfPartition <;>
      simp [Outcome.record?, Outcome.endedPartition?, kind, atEnd]
  rw [outcome]
  cases atEnd : message.isEndOfPartition <;> rw [atEnd] at batch <;>
    cases firstOnly <;>
    simp +contextual [Gathering.receive, Gathering.after, Config.nextTimeout?, awake, atEnd, batch]

/-- The result of a bounded consume that an outcome has ended: a failure without a record before it,
or what was gathered. -/
def Gathering.resultOf (outcomes : List Outcome) : Outcome → Except ConsumerError Batch
  | .error error =>
    if (Batch.of outcomes).messages = [] then .error error else .ok (Batch.of outcomes)
  | .ok _ => .ok (Batch.of outcomes)

/-- An outcome that ends a bounded consume ends it with its result. -/
theorem Gathering.receive_of_ends {outcome : Outcome} (ends : outcome.ends = true) (config : Config)
    (timeout : Nat) (firstOnly : Bool) (outcomes : List Outcome) :
    (Gathering.after config timeout firstOnly outcomes).receive (config.nextTimeout? firstOnly)
        outcome = .ended (resultOf outcomes outcome) := by
  cases outcome with
  | error error =>
    unfold receive resultOf Gathering.after
    simp only [List.isEmpty_iff]
    split <;> rfl
  | ok message =>
    have empty : message.isTimeout = true := ends
    simp [receive, resultOf, after, empty]

/-- An outcome that ends a bounded consume adds nothing to what is gathered. -/
theorem Batch.of_snoc_of_ends {outcome : Outcome} (ends : outcome.ends = true)
    (outcomes : List Outcome) : Batch.of (outcomes ++ [outcome]) = Batch.of outcomes := by
  rw [Batch.of_snoc]
  cases outcome with
  | error error => simp [Outcome.record?, Outcome.endedPartition?]
  | ok message =>
    have empty : message.isTimeout = true := ends
    have noRecord := Message.hasData_eq_false (.inl empty)
    have inside : message.isEndOfPartition = false := by
      simp only [Message.isTimeout, Bool.or_eq_true, decide_eq_true_eq] at empty
      rcases empty with code | code <;> simp [Message.isEndOfPartition, code]
    simp [Outcome.record?, Outcome.endedPartition?, noRecord, inside]

namespace PollsOn

variable {count timeout : Nat} {firstOnly : Bool} {timeouts : List Nat} {outcomes : List Outcome}

/-- No poll is made at first. -/
theorem nil : PollsOn config count timeout firstOnly [] [] where
  goesOn := by
    intro before outcome after split
    simp at split
  timeouts := rfl

/-- Every poll has its timeout. -/
theorem length (polls : PollsOn config count timeout firstOnly timeouts outcomes) :
    timeouts.length = outcomes.length := by
  rw [polls.timeouts, List.length_map, List.length_range]

/-- One more poll is made where there are too few records and nothing has ended it. -/
theorem snoc (polls : PollsOn config count timeout firstOnly timeouts outcomes)
    (going : ∀ outcome ∈ outcomes, outcome.ends = false)
    (short : (Batch.of outcomes).messages.length < count) (outcome : Outcome) :
    PollsOn config count timeout firstOnly
      (timeouts ++ [config.handedAfter timeout firstOnly outcomes]) (outcomes ++ [outcome]) where
  goesOn := by
    intro before other after split
    obtain rfl | ⟨rest, last, rfl⟩ := after.eq_nil_or_concat
    · obtain ⟨rfl, _⟩ := List.append_inj' split rfl
      exact ⟨short, going⟩
    · have whole : outcomes ++ [outcome] = (before ++ other :: rest) ++ [last] := by
        simpa using split
      obtain ⟨rfl, _⟩ := List.append_inj' whole rfl
      exact polls.goesOn _ _ _ rfl
  timeouts := by
    have earlier : (List.range outcomes.length).map (fun polled =>
        config.handedAfter timeout firstOnly ((outcomes ++ [outcome]).take polled)) =
          timeouts := by
      rw [polls.timeouts]
      apply List.map_congr_left
      intro polled inside
      rw [List.take_append_of_le_length (Nat.le_of_lt (List.mem_range.mp inside))]
    rw [List.length_append, List.length_singleton, List.range_succ, List.map_append, earlier,
      List.map_singleton, List.take_left]

end PollsOn

namespace BoundedConsume

variable {count timeout : Nat} {firstOnly : Bool} {timeouts : List Nat} {outcomes : List Outcome}
  {result : Except ConsumerError Batch}

/-- The result of a bounded consume depends on the outcomes of its polls alone. -/
theorem result_unique {other : Except ConsumerError Batch} {timeouts' : List Nat}
    (left : BoundedConsume config count timeout firstOnly timeouts outcomes result)
    (right : BoundedConsume config count timeout firstOnly timeouts' outcomes other) :
    result = other := by
  cases failed : result with
  | error error => exact ((right.fails error).mpr ((left.fails error).mp failed)).symm
  | ok batch =>
    cases failed' : other with
    | error error =>
      have same := (left.fails error).mpr ((right.fails error).mp failed')
      rw [failed] at same
      contradiction
    | ok batch' => rw [left.answers batch failed, right.answers batch' failed']

/-- Where nothing has ended it, a bounded consume ends with the records asked for. -/
theorem of_enough (polls : PollsOn config count timeout firstOnly timeouts outcomes)
    (going : ∀ outcome ∈ outcomes, outcome.ends = false)
    (reached : (Batch.of outcomes).messages.length = count) :
    BoundedConsume config count timeout firstOnly timeouts outcomes (.ok (.of outcomes)) where
  toPollsOn := polls
  ended := .inl reached
  atMost := Nat.le_of_eq reached
  fails := by
    intro error
    refine ⟨nofun, ?_⟩
    rintro ⟨last, _⟩
    have unended := going _ (List.mem_of_getLast? last)
    contradiction
  answers := fun batch done => (Except.ok.inj done).symm

/-- The first outcome that ends it gives a bounded consume its result. -/
theorem of_ended (polls : PollsOn config count timeout firstOnly timeouts outcomes)
    (going : ∀ outcome ∈ outcomes, outcome.ends = false)
    (short : (Batch.of outcomes).messages.length < count) {outcome : Outcome}
    (ends : outcome.ends = true) :
    BoundedConsume config count timeout firstOnly
      (timeouts ++ [config.handedAfter timeout firstOnly outcomes]) (outcomes ++ [outcome])
      (Gathering.resultOf outcomes outcome) where
  toPollsOn := polls.snoc going short outcome
  ended := .inr ⟨outcome, List.getLast?_concat, ends⟩
  atMost := by
    rw [Batch.of_snoc_of_ends ends]
    exact Nat.le_of_lt short
  fails := by
    intro error
    rw [Batch.of_snoc_of_ends ends, List.getLast?_concat]
    cases outcome with
    | error cause =>
      unfold Gathering.resultOf
      by_cases nothing : (Batch.of outcomes).messages = [] <;> simp [nothing]
    | ok message => simp [Gathering.resultOf]
  answers := by
    intro batch done
    rw [Batch.of_snoc_of_ends ends]
    cases outcome with
    | error cause =>
      unfold Gathering.resultOf at done
      dsimp only at done
      split at done
      · contradiction
      · exact (Except.ok.inj done).symm
    | ok message => exact (Except.ok.inj done).symm

end BoundedConsume

/-- Only an outcome that does not end it leads a gathering on. -/
theorem Gathering.goesOn_of_receive {gathering longer : Gathering} {next : Option Nat}
    {outcome : Outcome} (goes : gathering.receive next outcome = .going longer) :
    outcome.ends = false := by
  unfold receive at goes
  cases outcome with
  | error error =>
    dsimp only at goes
    split at goes <;> contradiction
  | ok message =>
    dsimp only at goes
    split at goes
    · contradiction
    · rename_i awake
      exact Bool.eq_false_iff.mpr awake

/-- What is gathered of one more outcome is at most one more record. -/
theorem Batch.length_of_snoc_le (outcomes : List Outcome) (outcome : Outcome) :
    (Batch.of (outcomes ++ [outcome])).messages.length ≤
      (Batch.of outcomes).messages.length + 1 := by
  rw [Batch.of_snoc, List.length_append]
  exact Nat.add_le_add_left outcome.record?.length_toList_le _

/-- The loop, from where these polls have led it, makes the polls of a bounded consume. -/
theorem Gathers.exists_bounded {count timeout : Nat} {firstOnly : Bool} {state final : σ}
    {gathering : Gathering} {result : Except ConsumerError Batch} {timeouts : List Nat}
    {outcomes : List Outcome}
    (gathers : Gathers (consuming config source) count (config.nextTimeout? firstOnly) state
      gathering result final)
    (same : gathering = .after config timeout firstOnly outcomes)
    (polls : PollsOn config count timeout firstOnly timeouts outcomes)
    (going : ∀ outcome ∈ outcomes, outcome.ends = false)
    (atMost : (Batch.of outcomes).messages.length ≤ count) :
    ∃ later answers, later.mapM source state = (answers, final) ∧
      BoundedConsume config count timeout firstOnly (timeouts ++ later)
        (outcomes ++ answers.map Outcome.ofAnswer) result := by
  induction gathers generalizing timeouts outcomes with
  | enough reached =>
    subst same
    refine ⟨[], [], rfl, ?_⟩
    rw [List.append_nil, List.map_nil, List.append_nil]
    exact .of_enough polls going (Nat.le_antisymm atMost reached)
  | @going state final gathering longer result short goes rest ih =>
    subst same
    rw [consuming_after] at goes ih
    generalize answered : source (config.handedAfter timeout firstOnly outcomes) state = polled
      at goes ih
    have unended : (Outcome.ofAnswer polled.1).ends = false := Gathering.goesOn_of_receive goes
    rw [Gathering.receive_of_goesOn unended] at goes
    have stillGoing : ∀ outcome ∈ outcomes ++ [.ofAnswer polled.1], outcome.ends = false :=
      List.forall_mem_append.mpr ⟨going, List.forall_mem_singleton.mpr unended⟩
    obtain ⟨later, answers, ran, bounded⟩ := ih (Gathered.going.inj goes).symm
      (polls.snoc going short _) stillGoing
      (Nat.le_trans (Batch.length_of_snoc_le _ _) short)
    refine ⟨config.handedAfter timeout firstOnly outcomes :: later, polled.1 :: answers, ?_, ?_⟩
    · rw [run_mapM_cons, answered, ran]
    · rwa [List.append_assoc, List.append_assoc] at bounded
  | @ended state gathering result short stops =>
    subst same
    rw [consuming_after] at stops ⊢
    generalize answered : source (config.handedAfter timeout firstOnly outcomes) state = polled
      at stops ⊢
    have ends : (Outcome.ofAnswer polled.1).ends = true := by
      by_contra unended
      rw [Gathering.receive_of_goesOn (by simpa using unended)] at stops
      contradiction
    rw [Gathering.receive_of_ends ends] at stops
    refine ⟨[config.handedAfter timeout firstOnly outcomes], [polled.1], ?_, ?_⟩
    · rw [run_mapM_cons, answered]
      rfl
    · rw [← Gathered.ended.inj stops]
      exact .of_ended polls going short ends

/-- A poll whose outcome ends it ends the loop with its result. -/
theorem Gathers.of_ends {count timeout : Nat} {firstOnly : Bool} {state : σ}
    {polled : Except ConsumerError Message × σ} {outcomes : List Outcome}
    (answered : source (config.handedAfter timeout firstOnly outcomes) state = polled)
    (short : (Batch.of outcomes).messages.length < count)
    (ends : (Outcome.ofAnswer polled.1).ends = true) :
    Gathers (consuming config source) count (config.nextTimeout? firstOnly) state
      (.after config timeout firstOnly outcomes)
      (Gathering.resultOf outcomes (.ofAnswer polled.1)) polled.2 := by
  have ended (result : Except ConsumerError Batch) := @Gathers.ended σ (consuming config source)
    count (config.nextTimeout? firstOnly) state (.after config timeout firstOnly outcomes) result
    short
  rw [consuming_after, answered] at ended
  exact ended _ (Gathering.receive_of_ends ends config timeout firstOnly outcomes)

/-- A poll whose outcome does not end it leads the loop on. -/
theorem Gathers.of_goesOn {count timeout : Nat} {firstOnly : Bool} {state final : σ}
    {polled : Except ConsumerError Message × σ} {outcomes : List Outcome}
    {result : Except ConsumerError Batch}
    (answered : source (config.handedAfter timeout firstOnly outcomes) state = polled)
    (short : (Batch.of outcomes).messages.length < count)
    (goes : (Outcome.ofAnswer polled.1).ends = false)
    (rest : Gathers (consuming config source) count (config.nextTimeout? firstOnly) polled.2
      (.after config timeout firstOnly (outcomes ++ [.ofAnswer polled.1])) result final) :
    Gathers (consuming config source) count (config.nextTimeout? firstOnly) state
      (.after config timeout firstOnly outcomes) result final := by
  have going (longer : Gathering) := @Gathers.going σ (consuming config source) count
    (config.nextTimeout? firstOnly) state final (.after config timeout firstOnly outcomes) longer
    result short
  rw [consuming_after, answered] at going
  exact going _ (Gathering.receive_of_goesOn goes config timeout firstOnly outcomes) rest

/-- The polls of a bounded consume lead the loop, from where the polls before them have led it, to
the same result. -/
theorem BoundedConsume.gathers {count timeout : Nat} {firstOnly : Bool} {state final : σ}
    {result : Except ConsumerError Batch} {timeouts later : List Nat} {outcomes : List Outcome}
    {answers : List (Except ConsumerError Message)}
    (ran : later.mapM source state = (answers, final))
    (bounded : BoundedConsume config count timeout firstOnly (timeouts ++ later)
      (outcomes ++ answers.map Outcome.ofAnswer) result)
    (polls : PollsOn config count timeout firstOnly timeouts outcomes)
    (going : ∀ outcome ∈ outcomes, outcome.ends = false) :
    Gathers (consuming config source) count (config.nextTimeout? firstOnly) state
      (.after config timeout firstOnly outcomes) result final := by
  induction later generalizing state timeouts outcomes answers with
  | nil =>
    have unanswered : answers = [] := (Prod.mk.inj ran).1.symm
    have still : state = final := (Prod.mk.inj ran).2
    subst unanswered still
    rw [List.append_nil, List.map_nil, List.append_nil] at bounded
    obtain reached | ⟨last, isLast, ends⟩ := bounded.ended
    · rw [bounded.result_unique (.of_enough polls going reached)]
      exact .enough (Nat.le_of_eq reached.symm)
    · rw [going last (List.mem_of_getLast? isLast)] at ends
      contradiction
  | cons asked later ih =>
    rw [run_mapM_cons] at ran
    obtain ⟨rfl, rest⟩ := Prod.mk.inj ran
    generalize answered : source asked state = polled at bounded rest
    rw [List.map_cons] at bounded
    obtain ⟨short, _⟩ := bounded.goesOn outcomes (.ofAnswer polled.1) _ rfl
    -- The timeout of this poll is the one that is due after the polls before it.
    have due : asked = config.handedAfter timeout firstOnly outcomes := by
      have place := congrArg (fun list => list[outcomes.length]?) bounded.timeouts
      simpa [← polls.length] using place
    subst due
    cases ends : (Outcome.ofAnswer polled.1).ends with
    | true =>
      cases later with
      | nil =>
        have still : polled.2 = final := rest
        rw [bounded.result_unique (.of_ended polls going short ends), ← still]
        exact .of_ends answered short ends
      | cons second later =>
        rw [run_mapM_cons, List.map_cons] at bounded
        obtain ⟨_, unended⟩ := bounded.goesOn (outcomes ++ [.ofAnswer polled.1]) _ _
          (List.append_cons _ _ _)
        rw [unended (.ofAnswer polled.1) (by simp)] at ends
        contradiction
    | false =>
      have stillGoing : ∀ outcome ∈ outcomes ++ [.ofAnswer polled.1], outcome.ends = false :=
        List.forall_mem_append.mpr ⟨going, List.forall_mem_singleton.mpr ends⟩
      rw [List.append_cons timeouts, List.append_cons outcomes] at bounded
      exact .of_goesOn answered short ends
        (ih (Prod.ext rfl rest) bounded (polls.snoc going short _) stillGoing)

/-- From whatever source it polls, the loop of a bounded consume comes to a result exactly if that
is what a bounded consume does with the polls that lead there. -/
theorem gathers_iff {count timeout : Nat} {firstOnly : Bool} {state final : σ}
    {result : Except ConsumerError Batch} :
    Gathers (consuming config source) count (config.nextTimeout? firstOnly) state { timeout } result
        final ↔
      ∃ timeouts answers, timeouts.mapM source state = (answers, final) ∧
        BoundedConsume config count timeout firstOnly timeouts (answers.map Outcome.ofAnswer)
          result := by
  have begins : ({ timeout } : Gathering) = .after config timeout firstOnly [] := by
    simp [Gathering.after, Batch.of]
  rw [begins]
  constructor
  · intro gathers
    exact gathers.exists_bounded rfl .nil (List.forall_mem_nil _) (Nat.zero_le _)
  · rintro ⟨timeouts, answers, ran, bounded⟩
    have whole : BoundedConsume config count timeout firstOnly ([] ++ timeouts)
        ([] ++ answers.map Outcome.ofAnswer) result := bounded
    exact whole.gathers ran .nil (List.forall_mem_nil _)

end Source

namespace Consumer

/-- Poll the open handle with exactly this timeout, and count the outcome; without one the poll is
refused. -/
def pollHandle (timeout : Nat) : StateM Site (Except ConsumerError Message) := fun site =>
  match site.consumer.connection.connected? with
  | none => (.error .notConnected, site)
  | some client =>
    let message := (Client.poll timeout ⟨client, site.cluster⟩).1.message
    (.ok message, (countOutcome (.ofMessage message) (site.polled client timeout)).2)

/-- Where a handle is open, it is polled. -/
theorem pollHandle_connected {site : Site} {client : Client}
    (opened : site.consumer.connection = .connected client) (timeout : Nat) :
    let message := (Client.poll timeout ⟨client, site.cluster⟩).1.message
    pollHandle timeout site =
      (.ok message, (countOutcome (.ofMessage message) (site.polled client timeout)).2) := by
  have present : site.consumer.connection.connected? = some client := by
    rw [opened]
    rfl
  unfold pollHandle
  rw [present]

/-- Without an open handle a poll is refused. -/
theorem pollHandle_absent {site : Site}
    (absent : ∀ client, site.consumer.connection ≠ .connected client) (timeout : Nat) :
    pollHandle timeout site = (.error .notConnected, site) := by
  have missing : site.consumer.connection.connected? = none := by
    cases state : site.consumer.connection with
    | connected client => exact absurd state (absent client)
    | disconnected | closing client => rfl
  unfold pollHandle
  rw [missing]

/-- A consume is a poll of the open handle, with the timeout raised to the configured minimum. -/
theorem consume_eq (timeout : Nat) (site : Site) :
    (consume timeout).run site = consuming site.consumer.config pollHandle timeout site := by
  let clamped := site.consumer.config.clampTimeout timeout
  have unfolded : consuming site.consumer.config pollHandle timeout site =
      (.ofAnswer (pollHandle clamped site).1, (pollHandle clamped site).2) := rfl
  rw [unfolded]
  obtain ⟨absent, refused⟩ | ⟨client, opened, consumed⟩ := consume_cases timeout site
  · rw [refused, pollHandle_absent absent]
    rfl
  · rw [consumed, pollHandle_connected opened]
    rfl

/-- How many more polls of the site's open handle can find something. -/
def backlog (site : Site) : Nat :=
  match site.consumer.connection.connected? with
  | none => 0
  | some client => Client.backlog ⟨client, site.cluster⟩

/-- Where a handle is open, its backlog is the site's. -/
theorem backlog_eq {site : Site} {link : Link} (holds : site.Holds link) :
    backlog site = Client.backlog link := by
  obtain ⟨client, cluster⟩ := link
  obtain ⟨opened, rfl⟩ := holds
  unfold backlog
  rw [opened]
  rfl

/-- A poll that does not end a bounded consume uses up some of the backlog. -/
theorem backlog_pollHandle {timeout : Nat} {site : Site}
    (goes : (Outcome.ofAnswer (pollHandle timeout site).1).ends = false) :
    backlog (pollHandle timeout site).2 < backlog site := by
  cases state : site.consumer.connection with
  | connected client =>
    rw [pollHandle_connected state] at goes ⊢
    obtain ⟨message, answered, awake, _⟩ := Outcome.kind_of_goesOn goes
    have before : site.Holds ⟨client, site.cluster⟩ := ⟨state, rfl⟩
    have after := before.linked (.poll timeout) (Client.poll timeout ⟨client, site.cluster⟩).2
    have less := Client.backlog_poll answered awake
    rw [← backlog_eq before, ← backlog_eq after] at less
    exact less
  | disconnected | closing client =>
    rw [pollHandle_absent (by rw [state]; nofun)] at goes
    contradiction

/-- Polling keeps the configuration. -/
theorem config_pollHandle (timeout : Nat) (site : Site) :
    (pollHandle timeout site).2.consumer.config = site.consumer.config := by
  unfold pollHandle
  split <;> rfl

/-- The bound on the polls of a gathering that exceeds the backlog does not end it. -/
theorem gather_gathers {config : Config} {site : Site} (own : site.consumer.config = config)
    (count : Nat) (next : Option Nat) {limit : Nat} (enough : backlog site < limit)
    (gathering : Gathering) :
    Gathers (consuming config pollHandle) count next site gathering
      (gather count next limit gathering site).1 (gather count next limit gathering site).2 := by
  induction limit generalizing site gathering with
  | zero => exact absurd enough (Nat.not_lt_zero _)
  | succ limit ih =>
    unfold gather
    split
    · rename_i reached
      exact .enough reached
    · rename_i short
      have short := Nat.lt_of_not_le short
      rw [run_then, consume_eq, own]
      cases receives :
          gathering.receive next (consuming config pollHandle gathering.timeout site).1 with
      | ended result => exact .ended short receives
      | going longer =>
        have less := backlog_pollHandle (Gathering.goesOn_of_receive receives)
        have kept := config_pollHandle (config.clampTimeout gathering.timeout) site
        exact .going short receives
          (ih (kept.trans own) (Nat.lt_of_lt_of_le less (Nat.le_of_lt_succ enough)) longer)

/-- A bounded consume is let poll more often than its polls can find something. -/
theorem backlog_lt_pollBound (site : Site) : backlog site < pollBound site := by
  cases state : site.consumer.connection with
  | connected client =>
    have holds : site.Holds ⟨client, site.cluster⟩ := ⟨state, rfl⟩
    rw [backlog_eq holds]
    exact site.backlog_lt_pollBound state
  | disconnected | closing client =>
    unfold backlog pollBound
    rw [state]
    exact Nat.one_pos

end Consumer

/-- What a bounded consume does, for every count, timeout and flag and under every configuration.

From any source of answers, be they messages or refusals, and however often it could go on
answering, the loop comes to a result exactly by the polls of `BoundedConsume`: it polls until it
has the records asked for or the first empty poll or failure, whichever comes first, hands over the
timeouts that are due, and answers with every record and every end of a partition that it polled, in
their order, or with the failure if that came before any record.

And at every site the bounded consume of a consumer is just that, with the open handle for a source;
the bound on its polls is never what ends it. -/
theorem bounded_consumes :
    (∀ (σ : Type) (source : Nat → StateM σ (Except ConsumerError Message)) (config : Config)
        (count timeout : Nat) (firstOnly : Bool) (state final : σ)
        (result : Except ConsumerError Batch),
      Gathers (consuming config source) count (config.nextTimeout? firstOnly) state { timeout }
          result final ↔
        ∃ timeouts answers, timeouts.mapM source state = (answers, final) ∧
          BoundedConsume config count timeout firstOnly timeouts (answers.map Outcome.ofAnswer)
            result) ∧
    ∀ (site : Site) (count timeout : Nat) (firstOnly : Bool),
      ∃ timeouts answers,
        let ran := (Consumer.consumeMany count timeout firstOnly).run site
        timeouts.mapM Consumer.pollHandle site = (answers, ran.2) ∧
          BoundedConsume site.consumer.config count timeout firstOnly timeouts
            (answers.map Outcome.ofAnswer) ran.1 := by
  refine ⟨fun _ _ _ _ _ _ _ _ _ => gathers_iff, ?_⟩
  intro site count timeout firstOnly
  have own : site.consumer.config = site.consumer.config := rfl
  have gathers := Consumer.gather_gathers own count (site.consumer.config.nextTimeout? firstOnly)
    (Consumer.backlog_lt_pollBound site) { timeout }
  exact gathers_iff.mp gathers

end LogConsumer
