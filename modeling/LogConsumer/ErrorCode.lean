/-!
# Error codes

The closed set of codes that a client reports. A negative raw number is raised locally, a
positive one comes from a broker, and zero is success. `ErrorCode.ofRaw_raw` says that the raw
number of a code determines it.
-/
namespace LogConsumer

/-- A code reported by a client, for a whole call or for one partition of it. -/
inductive ErrorCode where
  /-- Success. -/
  | noError
  /-- A local failure without a more precise code. -/
  | fail
  /-- The connection to a broker failed. -/
  | transport
  /-- The handle has been closed. -/
  | destroy
  /-- The end of a partition was reached. -/
  | partitionEof
  /-- No such partition, or one that is not assigned. -/
  | unknownPartition
  /-- No such topic. -/
  | unknownTopic
  /-- Every broker is down. -/
  | allBrokersDown
  /-- An argument was refused. -/
  | invalidArg
  /-- Nothing arrived in time. -/
  | timedOut
  /-- A queue is full. -/
  | queueFull
  /-- The request contradicts one already made. -/
  | conflict
  /-- The local state does not permit the call. -/
  | state
  /-- There is no offset to commit. -/
  | noOffset
  /-- Nothing left a queue in time. -/
  | timedOutQueue
  /-- The client can no longer be used. -/
  | fatal
  /-- A broker error without a code of its own here. -/
  | unknown
  /-- The offset lies outside the retained log. -/
  | offsetOutOfRange
  /-- The broker does not know the topic or the partition. -/
  | unknownTopicOrPartition
  /-- The broker does not lead the partition. -/
  | notLeaderForPartition
  /-- The broker did not answer in time. -/
  | requestTimedOut
  /-- The group coordinator is loading. -/
  | coordinatorLoadInProgress
  /-- The group coordinator is not available. -/
  | coordinatorNotAvailable
  /-- The broker does not coordinate the group. -/
  | notCoordinator
  /-- The group generation has passed. -/
  | illegalGeneration
  /-- The group name is missing or malformed. -/
  | invalidGroupId
  /-- The group does not know the member. -/
  | unknownMemberId
  /-- The group is rebalancing. -/
  | rebalanceInProgress
  /-- The topic may not be read. -/
  | topicAuthorizationFailed
  /-- The group may not be joined. -/
  | groupAuthorizationFailed
  deriving DecidableEq, Repr, Inhabited

namespace ErrorCode

/-- Every code, in declaration order. -/
def all : List ErrorCode :=
  [noError, fail, transport, destroy, partitionEof, unknownPartition, unknownTopic,
    allBrokersDown, invalidArg, timedOut, queueFull, conflict, state, noOffset, timedOutQueue,
    fatal, unknown, offsetOutOfRange, unknownTopicOrPartition, notLeaderForPartition,
    requestTimedOut, coordinatorLoadInProgress, coordinatorNotAvailable, notCoordinator,
    illegalGeneration, invalidGroupId, unknownMemberId, rebalanceInProgress,
    topicAuthorizationFailed, groupAuthorizationFailed]

/-- Every code is listed. -/
theorem mem_all (code : ErrorCode) : code ∈ all := by
  cases code <;> decide

/-- The number of a code on the wire. -/
def raw : ErrorCode → Int
  | noError => 0
  | fail => -196
  | transport => -195
  | destroy => -197
  | partitionEof => -191
  | unknownPartition => -190
  | unknownTopic => -188
  | allBrokersDown => -187
  | invalidArg => -186
  | timedOut => -185
  | queueFull => -184
  | conflict => -173
  | state => -172
  | noOffset => -168
  | timedOutQueue => -166
  | fatal => -150
  | unknown => -1
  | offsetOutOfRange => 1
  | unknownTopicOrPartition => 3
  | notLeaderForPartition => 6
  | requestTimedOut => 7
  | coordinatorLoadInProgress => 14
  | coordinatorNotAvailable => 15
  | notCoordinator => 16
  | illegalGeneration => 22
  | invalidGroupId => 24
  | unknownMemberId => 25
  | rebalanceInProgress => 27
  | topicAuthorizationFailed => 29
  | groupAuthorizationFailed => 30

/-- The code of a wire number; a number without a code is an unknown error. -/
def ofRaw (number : Int) : ErrorCode :=
  (all.find? fun code => code.raw = number).getD unknown

/-- A code is read back from its number. -/
@[simp] theorem ofRaw_raw (code : ErrorCode) : ofRaw code.raw = code := by
  cases code <;> decide

/-- What a code means, for a reader. -/
def description : ErrorCode → String
  | noError => "Success"
  | fail => "Local: Failed"
  | transport => "Local: Broker transport failure"
  | destroy => "Local: Broker handle destroyed"
  | partitionEof => "Broker: No more messages"
  | unknownPartition => "Local: Unknown partition"
  | unknownTopic => "Local: Unknown topic"
  | allBrokersDown => "Local: All broker connections are down"
  | invalidArg => "Local: Invalid argument or configuration"
  | timedOut => "Local: Timed out"
  | queueFull => "Local: Queue full"
  | conflict => "Local: Conflicting use"
  | state => "Local: Erroneous state"
  | noOffset => "Local: No offset stored"
  | timedOutQueue => "Local: Timed out in queue"
  | fatal => "Local: Fatal error"
  | unknown => "Unknown broker error"
  | offsetOutOfRange => "Broker: Offset out of range"
  | unknownTopicOrPartition => "Broker: Unknown topic or partition"
  | notLeaderForPartition => "Broker: Not leader for partition"
  | requestTimedOut => "Broker: Request timed out"
  | coordinatorLoadInProgress => "Broker: Coordinator load in progress"
  | coordinatorNotAvailable => "Broker: Coordinator not available"
  | notCoordinator => "Broker: Not coordinator"
  | illegalGeneration => "Broker: Specified group generation id is not valid"
  | invalidGroupId => "Broker: Invalid group.id"
  | unknownMemberId => "Broker: Unknown member"
  | rebalanceInProgress => "Broker: Group rebalance in progress"
  | topicAuthorizationFailed => "Broker: Topic authorization failed"
  | groupAuthorizationFailed => "Broker: Group authorization failed"

/-- The name of a code in stored values. -/
def name : ErrorCode → String
  | noError => "NoError"
  | fail => "Fail"
  | transport => "Transport"
  | destroy => "Destroy"
  | partitionEof => "PartitionEof"
  | unknownPartition => "UnknownPartition"
  | unknownTopic => "UnknownTopic"
  | allBrokersDown => "AllBrokersDown"
  | invalidArg => "InvalidArg"
  | timedOut => "TimedOut"
  | queueFull => "QueueFull"
  | conflict => "Conflict"
  | state => "State"
  | noOffset => "NoOffset"
  | timedOutQueue => "TimedOutQueue"
  | fatal => "Fatal"
  | unknown => "Unknown"
  | offsetOutOfRange => "OffsetOutOfRange"
  | unknownTopicOrPartition => "UnknownTopicOrPartition"
  | notLeaderForPartition => "NotLeaderForPartition"
  | requestTimedOut => "RequestTimedOut"
  | coordinatorLoadInProgress => "CoordinatorLoadInProgress"
  | coordinatorNotAvailable => "CoordinatorNotAvailable"
  | notCoordinator => "NotCoordinator"
  | illegalGeneration => "IllegalGeneration"
  | invalidGroupId => "InvalidGroupId"
  | unknownMemberId => "UnknownMemberId"
  | rebalanceInProgress => "RebalanceInProgress"
  | topicAuthorizationFailed => "TopicAuthorizationFailed"
  | groupAuthorizationFailed => "GroupAuthorizationFailed"

/-- The code of a stored name, which must be spelled exactly. -/
def ofName? (text : String) : Option ErrorCode :=
  all.find? fun code => code.name = text

/-- The end of a partition and an empty poll are ordinary outcomes, not failures. -/
def isTimeoutLike : ErrorCode → Bool
  | partitionEof | timedOut | timedOutQueue => true
  | _ => false

/-- Every code but success is an error. -/
def isError (code : ErrorCode) : Bool :=
  code ≠ noError

end ErrorCode

end LogConsumer
