import LogConsumer.ClientError
import LogConsumer.Text.Duration
import LogConsumer.TopicPartition

/-!
# Errors of a consumer

Why a consumer operation failed. An error is a cause; its wording is in the `message` functions
alone. Only a client failure (`ConsumerError.protocol`) may be worth another try.
-/
namespace LogConsumer

/-- The consumer is not in a state that permits the operation. -/
inductive StateError where
  /-- There is no open handle. -/
  | notConnected
  /-- There is no subscription. -/
  | notSubscribed
  /-- A consume loop has not ended yet. -/
  | loopOccupied
  /-- The consume loop did not end within this many milliseconds. -/
  | loopNotStopped (wait : Nat)
  /-- No handle could be created, for the reason given by the client. -/
  | connectionRefused (reason : String)
  /-- A cause named by its text. -/
  | other (text : String)
  deriving DecidableEq, Repr, Inhabited

/-- The consumer was set up wrongly. -/
inductive ConfigError where
  /-- There is no broker to connect to. -/
  | noBootstrapServers
  /-- The group name is blank. -/
  | blankGroup
  /-- The lower bound of all timeouts is zero. -/
  | zeroMinTimeout
  /-- There is no worker. -/
  | zeroWorkers
  /-- Stopping the consume loop would not wait at all. -/
  | zeroLoopStopTimeout
  /-- Nothing can create handles. -/
  | missingFactory
  /-- The file could not be read or is not a configuration. -/
  | unreadable
  /-- A cause named by its text. -/
  | other (text : String)
  deriving DecidableEq, Repr, Inhabited

/-- An argument is malformed. -/
inductive InputError where
  /-- The list of topics is empty. -/
  | noTopics
  /-- A topic has no name. -/
  | emptyTopic
  /-- The number of a partition is out of range. -/
  | partitionOutOfRange (topic : String) (partition : Int)
  /-- An absolute offset is negative. -/
  | negativeOffset (offset : Int) (tp : TopicPartition)
  /-- A cause named by its text. -/
  | other (text : String)
  deriving DecidableEq, Repr, Inhabited

/-- The dispatch of an operation failed. -/
inductive DispatchError where
  /-- The operation broke off on its worker. -/
  | workerPanicked
  /-- A cause named by its text. -/
  | other (text : String)
  deriving DecidableEq, Repr, Inhabited

/-- Why a consumer operation failed. -/
inductive ConsumerError where
  /-- The state does not permit the operation. -/
  | state (cause : StateError)
  /-- The setup is wrong. -/
  | config (cause : ConfigError)
  /-- The client rejected the operation. -/
  | protocol (error : ClientError)
  /-- An argument is malformed. -/
  | validation (cause : InputError)
  /-- The dispatch failed. -/
  | internal (cause : DispatchError)
  deriving DecidableEq, Repr, Inhabited

namespace StateError

/-- The text of a cause. -/
def message : StateError → String
  | notConnected => "KafkaConsumer is not connected"
  | notSubscribed => "KafkaConsumer is not subscribed"
  | loopOccupied => "Consume was already called"
  | loopNotStopped wait => "consume loop did not stop within " ++ durationText wait
  | connectionRefused reason => reason
  | other text => text

end StateError

namespace ConfigError

/-- The text of a cause. -/
def message : ConfigError → String
  | noBootstrapServers => "bootstrap_servers cannot be empty"
  | blankGroup => "group_id cannot be blank"
  | zeroMinTimeout => "min_timeout_ms must be greater than 0"
  | zeroWorkers => "worker_threads must be greater than 0"
  | zeroLoopStopTimeout => "loop_stop_timeout_ms must be greater than 0"
  | missingFactory => "Client factory is required"
  | unreadable => "the configuration cannot be read"
  | other text => text

end ConfigError

namespace InputError

/-- The text of a cause. -/
def message : InputError → String
  | noTopics => "topic list cannot be empty"
  | emptyTopic => "topic name cannot be empty"
  | partitionOutOfRange topic partition =>
    "invalid partition " ++ toString partition ++ " for topic " ++ topic
  | negativeOffset offset tp => "invalid offset " ++ toString offset ++ " for " ++ tp.text
  | other text => text

end InputError

namespace DispatchError

/-- The text of a cause. -/
def message : DispatchError → String
  | workerPanicked => "worker panicked"
  | other text => text

end DispatchError

/-- The broad kind of an error. -/
inductive ErrorKind where
  /-- The state does not permit the operation. -/
  | state
  /-- The setup is wrong. -/
  | config
  /-- The client rejected the operation. -/
  | protocol
  /-- The client saw the end of a partition or nothing in time. -/
  | timeoutLike
  /-- An argument is malformed. -/
  | validation
  /-- The dispatch failed. -/
  | internal
  deriving DecidableEq, Repr, Inhabited

namespace ErrorKind

/-- The name of a kind. -/
def name : ErrorKind → String
  | state => "State"
  | config => "Config"
  | protocol => "Protocol"
  | timeoutLike => "TimeoutLike"
  | validation => "Validation"
  | internal => "Internal"

/-- The category under which errors of a kind are counted. -/
def category : ErrorKind → String
  | state => "state"
  | config => "configuration"
  | protocol => "protocol"
  | timeoutLike => "timeout"
  | validation => "validation"
  | internal => "internal"

end ErrorKind

namespace ConsumerError

/-- There is no open handle. -/
def notConnected : ConsumerError :=
  state .notConnected

/-- A client failure that carries nothing but its code. -/
def ofCode (code : ErrorCode) : ConsumerError :=
  protocol (.ofCode code)

/-- The text of an error: its area, and then its cause. -/
def message : ConsumerError → String
  | state cause => "Invalid state: " ++ cause.message
  | config cause => "Invalid configuration: " ++ cause.message
  | protocol error => "Protocol error: " ++ error.message
  | validation cause => "Invalid input: " ++ cause.message
  | internal cause => "Internal error: " ++ cause.message

/-- The kind of an error. A client failure with a steady-state code has a kind of its own. -/
def kind : ConsumerError → ErrorKind
  | state _ => .state
  | config _ => .config
  | protocol error => if error.code.isTimeoutLike then .timeoutLike else .protocol
  | validation _ => .validation
  | internal _ => .internal

/-- The code under which an error is reported. -/
def code : ConsumerError → ErrorCode
  | state _ => .state
  | config _ | validation _ => .invalidArg
  | protocol error => error.code
  | internal _ => .fail

/-- The client's failure, where the error came from the client. -/
def client? : ConsumerError → Option ClientError
  | protocol error => some error
  | _ => none

/-- The codes after which the same call may succeed later. -/
def retryableCodes : List ErrorCode :=
  [.timedOut, .timedOutQueue, .transport, .allBrokersDown, .requestTimedOut,
    .coordinatorLoadInProgress, .coordinatorNotAvailable, .notCoordinator, .rebalanceInProgress]

/-- The operation may be tried again: the client failed, not for good, and either says that a
retry may help or gives a code that does. -/
def isRetryable : ConsumerError → Bool
  | protocol error => !error.fatal && (error.retriable || retryableCodes.contains error.code)
  | _ => false

/-- The error refuses the operation in the present state. -/
def isState : ConsumerError → Bool
  | state _ => true
  | _ => false

end ConsumerError

end LogConsumer
