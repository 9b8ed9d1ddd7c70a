import LogConsumer.ConsumerError
import LogConsumer.Metrics

/-!
# Outcomes of polls

What a consumer makes of a polled message. The end of a partition and an empty poll are answers;
a message with any other code is a failure of the client.
-/
namespace LogConsumer

/-- What a consume answers. -/
abbrev Outcome := Except ConsumerError Message

/-- The outcome of a poll that returned this message. -/
def Outcome.ofMessage (message : Message) : Outcome :=
  match message.error with
  | .noError | .partitionEof | .timedOut | .timedOutQueue => .ok message
  | code => .error (.ofCode code)

/-- Count the outcome of a poll. Where the consumer refused to poll, there is nothing to count. -/
def Metrics.recordOutcome (metrics : Metrics) : Outcome → Metrics
  | .ok message => metrics.recordPoll message
  | .error (.protocol _) => metrics.recordConsumeError
  | .error _ => metrics

end LogConsumer
