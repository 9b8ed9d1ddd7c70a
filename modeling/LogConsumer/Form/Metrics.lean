import LogConsumer.Form
import LogConsumer.Metrics

/-!
# Stored counters

The form of the counters of a consumer.
-/
namespace LogConsumer.Metrics

/-- The counters by name, in order. -/
def counters (metrics : Metrics) : List (String × UInt64) :=
  [("messages_consumed", metrics.messagesConsumed),
    ("bytes_consumed", metrics.bytesConsumed),
    ("partition_eofs", metrics.partitionEofs),
    ("poll_timeouts", metrics.pollTimeouts),
    ("consume_errors", metrics.consumeErrors),
    ("commits_submitted", metrics.commitsSubmitted),
    ("commit_failures", metrics.commitFailures)]

/-- The counters of a consumer. -/
def form : Form Metrics where
  encode metrics :=
    .obj (metrics.counters.map fun counter => (counter.1, Form.word.encode counter.2))
  decode json := do
    let fields ← Form.record? ((default : Metrics).counters.map Prod.fst) json
    pure
      { messagesConsumed := ← Form.word.required "messages_consumed" fields
        bytesConsumed := ← Form.word.required "bytes_consumed" fields
        partitionEofs := ← Form.word.required "partition_eofs" fields
        pollTimeouts := ← Form.word.required "poll_timeouts" fields
        consumeErrors := ← Form.word.required "consume_errors" fields
        commitsSubmitted := ← Form.word.required "commits_submitted" fields
        commitFailures := ← Form.word.required "commit_failures" fields }

end LogConsumer.Metrics
