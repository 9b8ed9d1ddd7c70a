import LogConsumer.Config
import LogConsumer.Form

/-!
# Stored configurations

The form of configurations. A field that is missing has its default value.
-/
namespace LogConsumer.Config

/-- The names of the fields of a configuration, in order. -/
def fieldNames : List String :=
  ["client_id", "group_id", "bootstrap_servers", "consume_timeout_ms", "loop_sleep_delay_ms",
    "min_timeout_ms", "seek_timeout_ms", "committed_timeout_ms", "loop_stop_timeout_ms",
    "worker_threads", "properties", "topic_properties"]

/-- A configuration. -/
def form : Form Config where
  encode config := .obj
    [("client_id", Form.text.option.encode config.clientId),
      ("group_id", Form.text.option.encode config.groupId),
      ("bootstrap_servers", Form.text.list.encode config.bootstrapServers),
      ("consume_timeout_ms", Form.natural.encode config.consumeTimeout),
      ("loop_sleep_delay_ms", Form.natural.encode config.loopSleepDelay),
      ("min_timeout_ms", Form.natural.encode config.minTimeout),
      ("seek_timeout_ms", Form.natural.encode config.seekTimeout),
      ("committed_timeout_ms", Form.natural.encode config.committedTimeout),
      ("loop_stop_timeout_ms", Form.natural.encode config.loopStopTimeout),
      ("worker_threads", Form.natural.encode config.workerThreads),
      ("properties", Form.texts.encode config.properties),
      ("topic_properties", Form.texts.option.encode config.topicProperties)]
  decode json := do
    let fields ← Form.openRecord? fieldNames json
    let standard : Config := {}
    let natural (name : String) (default : Nat) : Option Nat :=
      Form.natural.defaulted name default fields
    pure
      { clientId := ← Form.text.optional "client_id" fields
        groupId := ← Form.text.optional "group_id" fields
        bootstrapServers :=
          ← Form.text.list.defaulted "bootstrap_servers" standard.bootstrapServers fields
        consumeTimeout := ← natural "consume_timeout_ms" standard.consumeTimeout
        loopSleepDelay := ← natural "loop_sleep_delay_ms" standard.loopSleepDelay
        minTimeout := ← natural "min_timeout_ms" standard.minTimeout
        seekTimeout := ← natural "seek_timeout_ms" standard.seekTimeout
        committedTimeout := ← natural "committed_timeout_ms" standard.committedTimeout
        loopStopTimeout := ← natural "loop_stop_timeout_ms" standard.loopStopTimeout
        workerThreads := ← natural "worker_threads" standard.workerThreads
        properties := ← Form.texts.defaulted "properties" standard.properties fields
        topicProperties := ← Form.texts.optional "topic_properties" fields }

end LogConsumer.Config
