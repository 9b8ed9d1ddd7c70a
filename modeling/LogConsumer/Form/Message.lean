import LogConsumer.Form.Partition

/-!
# Stored messages

The form of messages.
-/
namespace LogConsumer.Message

/-- The names of the fields of a message, in order. -/
def fieldNames : List String :=
  ["topic", "partition", "offset", "key", "payload", "headers", "timestamp", "leader_epoch",
    "error"]

/-- A message. -/
def form : Form Message where
  encode message := .obj
    [("topic", Form.text.encode message.topic),
      ("partition", Form.int32.encode message.partition),
      ("offset", Form.int64.encode message.offset),
      ("key", Form.bytes.option.encode message.key),
      ("payload", Form.bytes.option.encode message.payload),
      ("headers", Form.texts.encode message.headers),
      ("timestamp", Form.int64.option.encode message.timestamp),
      ("leader_epoch", Form.int32.option.encode message.leaderEpoch),
      ("error", ErrorCode.form.encode message.error)]
  decode json := do
    let fields ← Form.record? fieldNames json
    pure
      { topic := ← Form.text.required "topic" fields
        partition := ← Form.int32.required "partition" fields
        offset := ← Form.int64.required "offset" fields
        key := ← Form.bytes.optional "key" fields
        payload := ← Form.bytes.optional "payload" fields
        headers := ← Form.texts.required "headers" fields
        timestamp := ← Form.int64.optional "timestamp" fields
        leaderEpoch := ← Form.int32.optional "leader_epoch" fields
        error := ← ErrorCode.form.required "error" fields }

end LogConsumer.Message
