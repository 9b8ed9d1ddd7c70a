import LogConsumer.Config.Toml
import LogConsumer.Json.Reader
import LogConsumer.Json.Writer
import LogConsumer.Proofs.Consumer.Budget
import LogConsumer.Proofs.Consumer.Forgetting
import LogConsumer.Proofs.Consumer.Lookups
import LogConsumer.Proofs.Consumer.Mirror
import LogConsumer.Proofs.Consumer.Pairing
import LogConsumer.Proofs.Consumer.Reconnecting
import LogConsumer.Proofs.Consumer.Replay
import LogConsumer.Proofs.Dispatcher.Completion
import LogConsumer.Proofs.Event.Lagging
import LogConsumer.Proofs.Form.Stored
import LogConsumer.Proofs.Group.Resumption
import LogConsumer.Proofs.Link.History
import LogConsumer.Proofs.Link.Shutdown
import LogConsumer.Proofs.Link.Stored
import LogConsumer.Proofs.Link.Times
import LogConsumer.Proofs.Link.Unmatched
import LogConsumer.Proofs.PartitionRemoval
import LogConsumer.Proofs.Session.Checked
import LogConsumer.Proofs.Session.Tasks
import LogConsumer.Proofs.Session.Timeouts
import LogConsumer.Proofs.Session.Validity
