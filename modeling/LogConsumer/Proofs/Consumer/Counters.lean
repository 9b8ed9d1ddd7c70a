import Mathlib.Algebra.Ring.Nat
import LogConsumer.Proofs.Consumer.LoopRuns
import LogConsumer.Proofs.Consumer.Polls

/-!
# Counters

What the counters of a consumer say about the outcomes and the commits that were counted. The
outcome of a poll is a record, the end of a partition, empty or a failure, and it is one of these
only (`Outcome.kinds_ofMessage`), so every poll moves one counter of four.
-/
namespace LogConsumer

namespace Outcome

/-- The poll saw the end of a partition. -/
def isEnd : Outcome → Bool
  | .ok message => message.isEndOfPartition
  | .error _ => false

/-- The poll saw nothing in time. -/
def isEmpty : Outcome → Bool
  | .ok message => message.isTimeout
  | .error _ => false

/-- The client failed. -/
def isFailure : Outcome → Bool
  | .ok _ => false
  | .error (.protocol _) => true
  | .error _ => false

/-- The bytes of a record. -/
def bytes : Outcome → Nat
  | .ok message => if message.hasData then message.size else 0
  | .error _ => 0

/-- The outcome is that of a poll, and not a refusal to poll. -/
def isPolled : Outcome → Bool
  | .ok _ => true
  | outcome => outcome.isFailure

/-- The outcome of a poll is of one kind. -/
theorem kinds_ofMessage (message : Message) :
    [ofMessage message].countP isRecord + [ofMessage message].countP isEnd +
      [ofMessage message].countP isEmpty + [ofMessage message].countP isFailure = 1 := by
  unfold ofMessage
  split <;> rename_i code <;>
    simp [isRecord, isEnd, isEmpty, isFailure, ConsumerError.ofCode, Message.hasData,
      Message.isEndOfPartition, Message.isTimeout, code]

/-- The outcomes of polls are as many as there are of the four kinds together. -/
theorem countP_kinds {outcomes : List Outcome}
    (polls : ∀ outcome ∈ outcomes, ∃ message, ofMessage message = outcome) :
    outcomes.countP isRecord + outcomes.countP isEnd + outcomes.countP isEmpty +
      outcomes.countP isFailure = outcomes.length := by
  induction outcomes with
  | nil => rfl
  | cons outcome outcomes ih =>
    obtain ⟨message, rfl⟩ := polls outcome List.mem_cons_self
    have one := kinds_ofMessage message
    have rest := ih fun outcome inside => polls outcome (List.mem_cons_of_mem _ inside)
    rw [← List.singleton_append, List.countP_append, List.countP_append, List.countP_append,
      List.countP_append, List.length_append, List.length_singleton]
    omega

/-- What a poll returns is the outcome of a poll. -/
theorem isPolled_ofMessage (message : Message) : (ofMessage message).isPolled = true := by
  unfold ofMessage
  split <;> rfl

/-- The bytes of a poll are those of its message, if the code of the message says that it is a
record. -/
theorem bytes_ofMessage (message : Message) :
    (ofMessage message).bytes = if message.error = .noError then message.size else 0 := by
  cases answered : ofMessage message with
  | ok answer =>
    obtain ⟨rfl, _⟩ := eq_of_ofMessage answered
    simp [bytes, Message.hasData]
  | error error =>
    have other : message.error ≠ .noError := by
      intro code
      rw [ofMessage, code] at answered
      cases answered
    rw [if_neg other]
    rfl

end Outcome

namespace Metrics

variable {metrics between metrics' : Metrics} {earlier later : List Outcome}
  {first second : List Bool}

/-- Counting these outcomes and these commits leads from the one to the other. -/
structure Advances (metrics : Metrics) (outcomes : List Outcome) (commits : List Bool)
    (metrics' : Metrics) : Prop where
  /-- Every record is counted. -/
  records : metrics'.messagesConsumed =
    metrics.messagesConsumed + UInt64.ofNat (outcomes.countP Outcome.isRecord)
  /-- The bytes of the records are counted. -/
  bytes : metrics'.bytesConsumed =
    metrics.bytesConsumed + UInt64.ofNat (outcomes.map Outcome.bytes).sum
  /-- Every end of a partition is counted. -/
  ends : metrics'.partitionEofs =
    metrics.partitionEofs + UInt64.ofNat (outcomes.countP Outcome.isEnd)
  /-- Every empty poll is counted. -/
  empties : metrics'.pollTimeouts =
    metrics.pollTimeouts + UInt64.ofNat (outcomes.countP Outcome.isEmpty)
  /-- Every failure of a poll is counted. -/
  failures : metrics'.consumeErrors =
    metrics.consumeErrors + UInt64.ofNat (outcomes.countP Outcome.isFailure)
  /-- Every commit is counted. -/
  submissions : metrics'.commitsSubmitted = metrics.commitsSubmitted + UInt64.ofNat commits.length
  /-- Every commit that failed is counted. -/
  refusals : metrics'.commitFailures =
    metrics.commitFailures + UInt64.ofNat (commits.count false)

namespace Advances

/-- Nothing was counted. -/
theorem refl : Advances metrics [] [] metrics := by
  constructor <;> simp

/-- What is counted later is counted on top. -/
theorem trans (before : Advances metrics earlier first between)
    (after : Advances between later second metrics') :
    Advances metrics (earlier ++ later) (first ++ second) metrics' := by
  constructor
  · rw [after.records, before.records, List.countP_append, UInt64.ofNat_add, UInt64.add_assoc]
  · rw [after.bytes, before.bytes, List.map_append, List.sum_append, UInt64.ofNat_add,
      UInt64.add_assoc]
  · rw [after.ends, before.ends, List.countP_append, UInt64.ofNat_add, UInt64.add_assoc]
  · rw [after.empties, before.empties, List.countP_append, UInt64.ofNat_add, UInt64.add_assoc]
  · rw [after.failures, before.failures, List.countP_append, UInt64.ofNat_add, UInt64.add_assoc]
  · rw [after.submissions, before.submissions, List.length_append, UInt64.ofNat_add,
      UInt64.add_assoc]
  · rw [after.refusals, before.refusals, List.count_append, UInt64.ofNat_add, UInt64.add_assoc]

end Advances

/-- An outcome is counted once. -/
theorem advances_recordOutcome (metrics : Metrics) (outcome : Outcome) :
    metrics.Advances [outcome] [] (metrics.recordOutcome outcome) := by
  cases outcome with
  | error error =>
    cases error <;> constructor <;>
      simp [recordOutcome, recordConsumeError, Outcome.isRecord, Outcome.isEnd, Outcome.isEmpty,
        Outcome.isFailure, Outcome.bytes]
  | ok message =>
    rw [recordOutcome, recordPoll]
    simp only [Message.hasData, Message.isEndOfPartition, Message.isTimeout, Bool.or_eq_true,
      decide_eq_true_eq]
    split_ifs with record ended empty <;> constructor <;>
      simp [Outcome.isRecord, Outcome.isEnd, Outcome.isEmpty, Outcome.isFailure, Outcome.bytes,
        Message.hasData, Message.isEndOfPartition, Message.isTimeout, *]

/-- Where the consumer refused to poll no counter moves. -/
theorem recordOutcome_of_refused {outcome : Outcome} (refused : outcome.isPolled = false)
    (metrics : Metrics) : metrics.recordOutcome outcome = metrics := by
  cases outcome with
  | ok message => cases refused
  | error error =>
    cases error with
    | protocol error => cases refused
    | _ => rfl

/-- A commit is counted once, and once more if it failed. -/
theorem advances_recordCommit (metrics : Metrics) (succeeded : Bool) :
    metrics.Advances [] [succeeded] (metrics.recordCommit succeeded) := by
  cases succeeded <;> constructor <;> simp [recordCommit]

end Metrics

end LogConsumer
