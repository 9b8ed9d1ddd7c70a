import LogConsumer.Event
import LogConsumer.Form

/-!
# Stored events

The form of events. An event without data is stored under its name, one with data as the one
field of an object, which holds the data by name.
-/
namespace LogConsumer.Event

/-- An event with data, as it is written. -/
private def withData (name : String) (fields : Form.Fields) : Json :=
  .obj [(name, .obj fields)]

/-- An event as it is written. -/
def encode : Event → Json
  | connected clientName => withData "Connected" [("client_name", Form.text.encode clientName)]
  | disconnected error => withData "Disconnected" [("error", Form.text.option.encode error)]
  | subscribed topics => withData "Subscribed" [("topics", Form.text.list.encode topics)]
  | unsubscribed => .str "Unsubscribed"
  | assigned partitions => withData "Assigned" [("partitions", Form.natural.encode partitions)]
  | unassigned => .str "Unassigned"
  | incrementalAssigned added total =>
    withData "IncrementalAssigned"
      [("added", Form.natural.encode added), ("total", Form.natural.encode total)]
  | incrementalUnassigned removed total =>
    withData "IncrementalUnassigned"
      [("removed", Form.natural.encode removed), ("total", Form.natural.encode total)]
  | consumeLoopStarted => .str "ConsumeLoopStarted"
  | consumeLoopStopped => .str "ConsumeLoopStopped"

/-- The event without data that has a name. -/
def plain? : String → Option Event
  | "Unsubscribed" => some unsubscribed
  | "Unassigned" => some unassigned
  | "ConsumeLoopStarted" => some consumeLoopStarted
  | "ConsumeLoopStopped" => some consumeLoopStopped
  | _ => none

/-- The event with data that has a name. -/
def withData? (name : String) (fields : Form.Fields) : Option Event :=
  match name with
  | "Connected" => do pure (connected (← Form.text.required "client_name" fields))
  | "Disconnected" => do pure (disconnected (← Form.text.optional "error" fields))
  | "Subscribed" => do pure (subscribed (← Form.text.list.required "topics" fields))
  | "Assigned" => do pure (assigned (← Form.natural.required "partitions" fields))
  | "IncrementalAssigned" => do
    let added ← Form.natural.required "added" fields
    pure (incrementalAssigned added (← Form.natural.required "total" fields))
  | "IncrementalUnassigned" => do
    let removed ← Form.natural.required "removed" fields
    pure (incrementalUnassigned removed (← Form.natural.required "total" fields))
  | _ => none

/-- An event. -/
def form : Form Event where
  encode := encode
  decode
    | .obj [(name, .obj fields)] => withData? name fields
    | json => do plain? (← Form.nameOf? json)

end LogConsumer.Event
