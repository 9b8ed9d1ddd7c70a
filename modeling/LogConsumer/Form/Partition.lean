import LogConsumer.Form
import LogConsumer.RebalanceProtocol
import LogConsumer.Watermarks

/-!
# Stored partitions

The forms of offsets, error codes, topic partitions, watermarks and rebalance protocols.
-/
namespace LogConsumer

/-- The logical offsets with the names they are stored under. -/
def Offset.logical : List (String × Offset) :=
  [("Beginning", .beginning), ("End", .ending), ("Stored", .stored), ("Invalid", .invalid)]

/-- A logical offset is stored under its name, an absolute one as the one field of an object. -/
def Offset.form : Form Offset where
  encode
    | .beginning => .str "Beginning"
    | .ending => .str "End"
    | .stored => .str "Stored"
    | .invalid => .str "Invalid"
    | .absolute position => .obj [("Offset", .int position)]
  decode
    | .obj [("Offset", position)] => (Form.int64.decode position).map Offset.absolute
    | json => do Offset.logical.lookup (← Form.nameOf? json)

/-- An error code is stored under its name. -/
def ErrorCode.form : Form ErrorCode :=
  .named ErrorCode.all ErrorCode.name

/-- A topic partition. -/
def TopicPartition.form : Form TopicPartition where
  encode tp := .obj
    [("topic", Form.text.encode tp.topic),
      ("partition", Form.int32.encode tp.partition),
      ("offset", Offset.form.encode tp.offset),
      ("leader_epoch", Form.int32.option.encode tp.leaderEpoch),
      ("error", ErrorCode.form.encode tp.error)]
  decode json := do
    let fields ← Form.record? ["topic", "partition", "offset", "leader_epoch", "error"] json
    pure
      { topic := ← Form.text.required "topic" fields
        partition := ← Form.int32.required "partition" fields
        offset := ← Offset.form.required "offset" fields
        leaderEpoch := ← Form.int32.optional "leader_epoch" fields
        error := ← ErrorCode.form.required "error" fields }

/-- The bounds of a partition. -/
def Watermarks.form : Form Watermarks where
  encode marks := .obj
    [("low", Form.int64.encode marks.low), ("high", Form.int64.encode marks.high)]
  decode json := do
    let fields ← Form.record? ["low", "high"] json
    pure
      { low := ← Form.int64.required "low" fields
        high := ← Form.int64.required "high" fields }

/-- Every rebalance protocol, in declaration order. -/
def RebalanceProtocol.all : List RebalanceProtocol :=
  [.none, .eager, .cooperative]

/-- The name that a rebalance protocol is stored under. -/
def RebalanceProtocol.storedName : RebalanceProtocol → String
  | .none => "None"
  | .eager => "Eager"
  | .cooperative => "Cooperative"

/-- A rebalance protocol is stored under a name of its own. -/
def RebalanceProtocol.form : Form RebalanceProtocol :=
  .named RebalanceProtocol.all RebalanceProtocol.storedName

end LogConsumer
