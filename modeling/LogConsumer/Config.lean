import LogConsumer.ConsumerError
import LogConsumer.Table
import LogConsumer.Text.Blank

/-!
# Configuration

What a consumer is set up with. `Config.validate` names the first fault of a configuration, and
`Config.clientProperties` is what a client gets to see: the free properties, overridden by the
named settings.
-/
namespace LogConsumer

/-- Free settings by name. -/
abbrev Properties := Table String String

/-- The setup of a consumer. Every duration is a number of milliseconds. -/
structure Config where
  /-- The name the client registers under; one is made up where it is missing. -/
  clientId : Option String := none
  /-- The consumer group. -/
  groupId : Option String := none
  /-- The brokers to connect to. -/
  bootstrapServers : List String := ["localhost:9092"]
  /-- How long one poll of the consume loop waits. -/
  consumeTimeout : Nat := 1000
  /-- How long the consume loop pauses after a poll that brought nothing. -/
  loopSleepDelay : Nat := 500
  /-- The lower bound of every timeout. -/
  minTimeout : Nat := 10
  /-- How long a seek waits. -/
  seekTimeout : Nat := 1000
  /-- How long a look-up of committed offsets waits. -/
  committedTimeout : Nat := 1000
  /-- How long stopping the consume loop waits for its last iteration. -/
  loopStopTimeout : Nat := 5000
  /-- How many background operations run at a time. -/
  workerThreads : Nat := 4
  /-- Free settings of the client. -/
  properties : Properties := .empty
  /-- Free settings of topics. -/
  topicProperties : Option Properties := none
  deriving DecidableEq, Repr, Inhabited

namespace Config

/-- Report the first fault of a configuration. -/
def validate (config : Config) : Except ConfigError Unit :=
  if config.bootstrapServers.isEmpty && !config.properties.contains "bootstrap.servers" then
    .error .noBootstrapServers
  else if config.groupId.any isBlank then .error .blankGroup
  else if config.minTimeout = 0 then .error .zeroMinTimeout
  else if config.workerThreads = 0 then .error .zeroWorkers
  else if config.loopStopTimeout = 0 then .error .zeroLoopStopTimeout
  else .ok ()

/-- The name to register under; `fresh` is the random part of a name that is made up. -/
def resolvedClientId (config : Config) (fresh : String) : String :=
  config.clientId.getD ("rustmq-consumer-" ++ fresh)

/-- Override a property where a named setting is present. -/
private def override (properties : Properties) (key : String) : Option String → Properties
  | some value => properties.insert key value
  | none => properties

/-- The properties that a client gets to see: the free ones, overridden by the brokers, the
client name and the group where these are set. -/
def clientProperties (config : Config) : Properties :=
  let servers :=
    if config.bootstrapServers.isEmpty then none
    else some (",".intercalate config.bootstrapServers)
  let properties := override config.properties "bootstrap.servers" servers
  let properties := override properties "client.id" config.clientId
  override properties "group.id" config.groupId

/-- A free property of the client. -/
def property? (config : Config) (key : String) : Option String :=
  config.properties.find? key

/-- A timeout raised to the lower bound. -/
def clampTimeout (config : Config) (timeout : Nat) : Nat :=
  max timeout config.minTimeout

/-- No clamped timeout is below the lower bound. -/
theorem minTimeout_le_clampTimeout (config : Config) (timeout : Nat) :
    config.minTimeout ≤ config.clampTimeout timeout :=
  Nat.le_max_right _ _

end Config

end LogConsumer
