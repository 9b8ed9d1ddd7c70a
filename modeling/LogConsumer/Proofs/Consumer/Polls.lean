import LogConsumer.Consumer.Run
import LogConsumer.Proofs.Consumer.Gates
import LogConsumer.Proofs.Link.Run

/-!
# Consuming as a run of polls

A consume and a bounded consume are runs of polls of the open handle (`consume_run`, `gather_run`).
Neither drops a record: what they hand out of a partition is what the polls deliver of it, also when
a failure, the end of a partition or an empty poll comes after the first records.
-/
namespace LogConsumer

open Link

/-- The open handle of the site and its cluster. -/
structure Site.Holds (site : Site) (link : Link) : Prop where
  /-- The handle is open. -/
  opened : site.consumer.connection = .connected link.client
  /-- The cluster is the site's. -/
  cluster : site.cluster = link.cluster

/-- The records of a partition among messages, delivered at a low watermark. -/
def Message.deliveries (key : PartitionKey) (low : Int) (messages : List Message) : List Delivery :=
  (messages.filter fun message => message.IsRecordOf key).map fun message => ⟨message, low⟩

/-- One message is a record of the partition or is not. -/
theorem Message.deliveries_singleton (key : PartitionKey) (low : Int) (message : Message) :
    Message.deliveries key low [message] =
      if message.IsRecordOf key then [⟨message, low⟩] else [] := by
  unfold Message.deliveries
  by_cases record : message.IsRecordOf key <;> simp [record]

/-- The messages that an answer hands out as records. -/
def Reply.records : Reply → List Message
  | .message polled => [polled]
  | .batch gathered => gathered.messages
  | _ => []

/-- The records of a partition that an operation delivers. -/
def Operation.deliveries (key : PartitionKey) (site : Site) (operation : Operation) :
    List Delivery :=
  match (operation.run.run site).1 with
  | .ok reply => Message.deliveries key (site.cluster.low key) reply.records
  | .error _ => []

namespace Outcome

/-- A record is an answer. -/
theorem ofMessage_of_hasData {message : Message} (data : message.hasData = true) :
    ofMessage message = .ok message := by
  have code : message.error = .noError := by simpa [Message.hasData] using data
  rw [ofMessage, code]

/-- An answer is the message polled, which is a record, empty, or the end of a partition. -/
theorem eq_of_ofMessage {message answer : Message} (answered : ofMessage message = .ok answer) :
    answer = message ∧ (message.hasData = true ∨ message.isTimeout = true ∨
      message.isEndOfPartition = true) := by
  unfold ofMessage at answered
  split at answered
  all_goals first
    | contradiction
    | rename_i code
      refine ⟨(Except.ok.inj answered).symm, ?_⟩
      simp [Message.hasData, Message.isTimeout, Message.isEndOfPartition, code]

end Outcome

/-- The records that a bounded consume hands out. -/
def Batch.recordsOf : Except ConsumerError Batch → List Message
  | .ok batch => batch.messages
  | .error _ => []

/-- What is no record is either empty or the end of a partition, or a failure. -/
theorem Message.hasData_eq_false {message : Message}
    (other : message.isTimeout = true ∨ message.isEndOfPartition = true) :
    message.hasData = false := by
  simp only [Message.isTimeout, Message.isEndOfPartition, Bool.or_eq_true,
    decide_eq_true_eq] at other
  rw [Message.hasData, decide_eq_false_iff_not]
  intro code
  simp [code] at other

/-- A gathering keeps every record, and loses none when it ends. -/
theorem Gathering.receive_cases (gathering : Gathering) (next : Option Nat) (message : Message) :
    (∃ longer : Gathering, gathering.receive next (.ofMessage message) = .going longer ∧
      longer.batch.messages =
        gathering.batch.messages ++ if message.hasData then [message] else []) ∨
    (message.hasData = false ∧ ∃ result,
      gathering.receive next (.ofMessage message) = .ended result ∧
        Batch.recordsOf result = gathering.batch.messages) := by
  cases answered : Outcome.ofMessage message with
  | error error =>
    have data : message.hasData = false := by
      by_contra record
      rw [Bool.not_eq_false] at record
      rw [Outcome.ofMessage_of_hasData record] at answered
      contradiction
    refine .inr ⟨data, ?_⟩
    unfold receive
    dsimp only
    split
    · rename_i nothing
      exact ⟨_, rfl, (List.isEmpty_iff.mp nothing).symm⟩
    · exact ⟨_, rfl, rfl⟩
  | ok answer =>
    obtain ⟨rfl, kind⟩ := Outcome.eq_of_ofMessage answered
    unfold receive
    dsimp only
    by_cases empty : answer.isTimeout = true
    · rw [if_pos empty]
      exact .inr ⟨Message.hasData_eq_false (.inl empty), _, rfl, rfl⟩
    · rw [if_neg empty]
      refine .inl ⟨_, rfl, ?_⟩
      by_cases ended : answer.isEndOfPartition = true
      · rw [Message.hasData_eq_false (.inr ended)]
        simp [ended]
      · have data : answer.hasData = true := by
          simpa [empty, ended] using kind
        simp [ended, data]

namespace Consumer

/-- Beginning to poll polls the open handle, with its timeout raised to the configured minimum. -/
theorem beginPoll_run {site : Site} {link : Link} (holds : site.Holds link) (timeout : Nat) :
    let polled := Client.poll (site.consumer.config.clampTimeout timeout) link
    ∃ site', (beginPoll timeout).run site = (.ok polled.1, site') ∧ site'.Holds polled.2 := by
  obtain ⟨client, cluster⟩ := link
  obtain ⟨opened, rfl⟩ := holds
  unfold beginPoll
  rw [run_bind_ok (openHandle_run opened)]
  refine ⟨_, rfl, ?_, rfl⟩
  change site.consumer.connection.update _ = _
  rw [opened]
  rfl

/-- A consume is one poll. -/
theorem consume_run {site : Site} {link : Link} (holds : site.Holds link) (timeout : Nat) :
    let polled := Client.poll (site.consumer.config.clampTimeout timeout) link
    ∃ site', (consume timeout).run site = (Outcome.ofMessage polled.1.message, site') ∧
      site'.Holds polled.2 := by
  intro polled
  obtain ⟨between, began, holds⟩ := beginPoll_run holds timeout
  unfold consume
  rw [run_bind_ok began]
  exact ⟨_, rfl, holds.opened, holds.cluster⟩

/-- The polls with these timeouts. -/
def polls (timeouts : List Nat) : List Link.Step :=
  timeouts.map fun timeout => .call (.poll timeout)

/-- No poll moves the low watermark of a partition. -/
theorem low_poll (key : PartitionKey) (timeout : Nat) (link : Link) :
    (Client.poll timeout link).2.cluster.low key = link.cluster.low key :=
  Cluster.low_congr (call_topics (.poll timeout) link) key

/-- One poll delivers its message, if that is a record of the partition. -/
theorem deliveries_poll (key : PartitionKey) (timeout : Nat) (link : Link) :
    Link.deliveries key link (polls [timeout]) =
      if (Client.poll timeout link).1.message.IsRecordOf key then
        [⟨(Client.poll timeout link).1.message, link.cluster.low key⟩]
      else [] := by
  change (if _ then _ else none : Option Delivery).toList ++ [] = _
  split <;> rfl

/-- The records of a partition in a gathering with one more message. -/
theorem deliveries_received (key : PartitionKey) (low : Int) (gathered : List Message)
    (message : Message) :
    Message.deliveries key low (gathered ++ if message.hasData then [message] else []) =
      Message.deliveries key low gathered ++
        if message.IsRecordOf key then [⟨message, low⟩] else [] := by
  rw [Message.deliveries, List.filter_append, List.map_append, ← Message.deliveries]
  congr 1
  cases data : message.hasData with
  | true => exact Message.deliveries_singleton key low message
  | false =>
    have other : ¬message.IsRecordOf key := fun record => by simp [record.1] at data
    rw [if_neg other]
    rfl

/-- A gathering is a run of polls, and hands out what it had gathered and what they deliver. -/
theorem gather_run {site : Site} {link : Link} (holds : site.Holds link) (count : Nat)
    (next : Option Nat) (limit : Nat) (gathering : Gathering) :
    ∃ timeouts result site', gather count next limit gathering site = (result, site') ∧
      site'.Holds (Link.run link (polls timeouts)) ∧ ∀ key,
        Message.deliveries key (link.cluster.low key) (Batch.recordsOf result) =
          Message.deliveries key (link.cluster.low key) gathering.batch.messages ++
            Link.deliveries key link (polls timeouts) := by
  induction limit generalizing gathering site link with
  | zero =>
    exact ⟨[], .ok gathering.batch, site, rfl, holds, fun key => (List.append_nil _).symm⟩
  | succ limit ih =>
    unfold gather
    split
    · exact ⟨[], .ok gathering.batch, site, rfl, holds, fun key => (List.append_nil _).symm⟩
    · obtain ⟨between, consumed, holds⟩ := consume_run holds gathering.timeout
      generalize site.consumer.config.clampTimeout gathering.timeout = timeout at consumed holds
      rw [run_then, consumed]
      dsimp only
      obtain ⟨longer, receives, messages⟩ | ⟨other, result, ends, records⟩ :=
        gathering.receive_cases next (Client.poll timeout link).1.message
      · obtain ⟨timeouts, result, site', rest, reached, records⟩ := ih holds longer
        rw [receives]
        refine ⟨timeout :: timeouts, result, site', rest, reached, fun key => ?_⟩
        have later := records key
        rw [low_poll, messages, deliveries_received, List.append_assoc] at later
        rw [later, ← deliveries_poll]
        exact congrArg _ (collected_append _ link (polls [timeout]) (polls timeouts)).symm
      · rw [ends]
        refine ⟨[timeout], result, between, rfl, holds, fun key => ?_⟩
        have silent : ¬(Client.poll timeout link).1.message.IsRecordOf key := by
          rintro ⟨record, _⟩
          rw [other] at record
          contradiction
        rw [deliveries_poll, if_neg silent, records, List.append_nil]

end Consumer

/-- An operation that only consumes. -/
def Operation.Consumes : Operation → Prop
  | .consume _ | .consumeMany _ _ _ => True
  | _ => False

/-- An operation that only consumes is a run of polls, and delivers what they deliver. -/
theorem Operation.consumes_run {operation : Operation} (consumes : operation.Consumes)
    {site : Site} {link : Link} (holds : site.Holds link) :
    ∃ timeouts, (operation.run.run site).2.Holds (Link.run link (Consumer.polls timeouts)) ∧
      ∀ key, operation.deliveries key site =
        Link.deliveries key link (Consumer.polls timeouts) := by
  cases operation with
  | consume timeout =>
    obtain ⟨site', consumed, reached⟩ := Consumer.consume_run holds timeout
    have ran : (Operation.consume timeout).run.run site = _ :=
      run_map (Consumer.consume timeout) Reply.message site
    rw [consumed] at ran
    refine ⟨[site.consumer.config.clampTimeout timeout], by rwa [ran], fun key => ?_⟩
    unfold Operation.deliveries
    rw [ran, holds.cluster, Consumer.deliveries_poll]
    cases answered : Outcome.ofMessage
        (Client.poll (site.consumer.config.clampTimeout timeout) link).1.message with
    | ok answer =>
      obtain ⟨rfl, _⟩ := Outcome.eq_of_ofMessage answered
      exact Message.deliveries_singleton key _ _
    | error error =>
      rw [if_neg]
      · rfl
      · rintro ⟨record, _⟩
        rw [Outcome.ofMessage_of_hasData record] at answered
        contradiction
  | consumeMany count timeout firstOnly =>
    let next := if firstOnly then some site.consumer.config.minTimeout else none
    obtain ⟨timeouts, result, site', gathered, reached, records⟩ :=
      Consumer.gather_run holds count next (Consumer.pollBound site) { timeout }
    have many : (Consumer.consumeMany count timeout firstOnly).run site = (result, site') :=
      gathered
    have ran : (Operation.consumeMany count timeout firstOnly).run.run site = _ :=
      run_map (Consumer.consumeMany count timeout firstOnly) Reply.batch site
    rw [many] at ran
    refine ⟨timeouts, by rwa [ran], fun key => ?_⟩
    unfold Operation.deliveries
    rw [ran, holds.cluster]
    have delivered := records key
    cases result <;> exact delivered
  | _ => exact consumes.elim

end LogConsumer
