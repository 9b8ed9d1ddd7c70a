import LogConsumer.Form.Config
import LogConsumer.Form.Event
import LogConsumer.Form.Message
import LogConsumer.Form.Metrics
import LogConsumer.Proofs.Form.Exact

/-!
# Stored values

Every form of the library is exact, for the values whose numbers have the width at which they are
stored: the names of a closed type are apart, each field of a record is found again where it was
written, and what stands in for a field that is missing can itself be stored. So every such value is
read back from its JSON form, and what was read of any JSON value at all is written and read again
as it is: the main result is `stored_values_restored`.
-/
namespace LogConsumer

open Form

/-- An absolute offset has 64 bits. -/
def Offset.InRange (offset : Offset) : Prop :=
  ∀ position ∈ offset.absolute?, Width.int64.holds position = true

/-- The numbers of a topic partition have the width at which they are stored. -/
structure TopicPartition.InRange (tp : TopicPartition) : Prop where
  /-- The number of the partition has 32 bits. -/
  partition : Width.int32.holds tp.partition = true
  /-- The offset has 64 bits. -/
  offset : tp.offset.InRange
  /-- The leader epoch has 32 bits. -/
  leaderEpoch : ∀ epoch ∈ tp.leaderEpoch, Width.int32.holds epoch = true

/-- Both bounds have 64 bits. -/
structure Watermarks.InRange (marks : Watermarks) : Prop where
  /-- The lower bound has 64 bits. -/
  low : Width.int64.holds marks.low = true
  /-- The upper bound has 64 bits. -/
  high : Width.int64.holds marks.high = true

/-- The numbers of a message have the width at which they are stored. -/
structure Message.InRange (message : Message) : Prop where
  /-- The number of the partition has 32 bits. -/
  partition : Width.int32.holds message.partition = true
  /-- The offset has 64 bits. -/
  offset : Width.int64.holds message.offset = true
  /-- The time has 64 bits. -/
  timestamp : ∀ time ∈ message.timestamp, Width.int64.holds time = true
  /-- The leader epoch has 32 bits. -/
  leaderEpoch : ∀ epoch ∈ message.leaderEpoch, Width.int32.holds epoch = true

/-- The numbers of partitions that an event tells fit a word. -/
def Event.InRange : Event → Prop
  | assigned partitions => Width.word64.holds partitions = true
  | incrementalAssigned added total =>
    Width.word64.holds added = true ∧ Width.word64.holds total = true
  | incrementalUnassigned removed total =>
    Width.word64.holds removed = true ∧ Width.word64.holds total = true
  | _ => True

/-- The numbers of a configuration fit a word. -/
structure Config.InRange (config : Config) : Prop where
  /-- The wait of the loop's polls fits a word. -/
  consumeTimeout : Width.word64.holds config.consumeTimeout = true
  /-- The pause of the loop fits a word. -/
  loopSleepDelay : Width.word64.holds config.loopSleepDelay = true
  /-- The lower bound of timeouts fits a word. -/
  minTimeout : Width.word64.holds config.minTimeout = true
  /-- The wait of a seek fits a word. -/
  seekTimeout : Width.word64.holds config.seekTimeout = true
  /-- The wait of a look-up fits a word. -/
  committedTimeout : Width.word64.holds config.committedTimeout = true
  /-- The wait for the loop to stop fits a word. -/
  loopStopTimeout : Width.word64.holds config.loopStopTimeout = true
  /-- The number of workers fits a word. -/
  workerThreads : Width.word64.holds config.workerThreads = true

/-- An integer that may be missing is stored exactly. -/
theorem Form.integer_option_exact (width : Width) :
    (integer width).option.Exact fun value? => ∀ value ∈ value?, width.holds value = true :=
  option_exact (integer_exact width) nofun

/-- A value that may be missing is stored exactly where all values are. -/
theorem Form.option_exact_of_all {α : Type} {form : Form α} (exact : form.Exact fun _ => True)
    (neverNull : form.NeverNull) : form.option.Exact fun _ => True where
  decode_encode _ := (option_exact exact neverNull).decode_encode fun _ _ => trivial
  stores_of_decode _ := trivial

/-- Offsets are stored exactly. -/
theorem Offset.form_exact : Offset.form.Exact Offset.InRange where
  decode_encode {offset} fits := by
    cases offset with
    | absolute position =>
      have read : int64.decode (.int position) = some position := integer_decode (fits position rfl)
      change (int64.decode (.int position)).map Offset.absolute = _
      rw [read, Option.map_some]
    | _ => rfl
  stores_of_decode {json offset} read position inside := by
    simp only [Offset.form] at read
    split at read
    · obtain ⟨number, here, rfl⟩ := Option.map_eq_some_iff.mp read
      obtain rfl : number = position := by simpa [Offset.absolute?] using inside
      exact (integer_exact .int64).stores_of_decode here
    · obtain ⟨name, _, named⟩ := Option.bind_eq_some_iff.mp read
      -- A logical offset has no position.
      obtain ⟨before, after, listed, _⟩ := List.lookup_eq_some_iff.mp named
      have logical : (name, offset) ∈ Offset.logical := by simp [listed]
      simp only [Offset.logical, List.mem_cons, Prod.mk.injEq, List.not_mem_nil, or_false]
        at logical
      rcases logical with ⟨_, rfl⟩ | ⟨_, rfl⟩ | ⟨_, rfl⟩ | ⟨_, rfl⟩ <;> cases inside

/-- Error codes are stored exactly. -/
theorem ErrorCode.form_exact : ErrorCode.form.Exact fun _ => True :=
  named_exact ErrorCode.mem_all (by decide +kernel)

/-- Rebalance protocols are stored exactly. -/
theorem RebalanceProtocol.form_exact : RebalanceProtocol.form.Exact fun _ => True :=
  named_exact (fun protocol => by cases protocol <;> decide) (by decide)

/-- Topic partitions are stored exactly. -/
theorem TopicPartition.form_exact : TopicPartition.form.Exact TopicPartition.InRange where
  decode_encode {tp} fits := by
    simp only [TopicPartition.form, Form.record?, bind, pure, Option.bind_some]
    refine Eq.trans (text_exact.required trivial rfl) ?_
    refine Eq.trans ((integer_exact .int32).required fits.partition rfl) ?_
    refine Eq.trans (Offset.form_exact.required fits.offset rfl) ?_
    refine Eq.trans ((integer_option_exact .int32).defaulted fits.leaderEpoch rfl) ?_
    exact ErrorCode.form_exact.required trivial rfl
  stores_of_decode {json tp} read := by
    obtain ⟨fields, _, read⟩ := Option.bind_eq_some_iff.mp read
    obtain ⟨topic, _, read⟩ := Option.bind_eq_some_iff.mp read
    obtain ⟨partition, partitionRead, read⟩ := Option.bind_eq_some_iff.mp read
    obtain ⟨offset, offsetRead, read⟩ := Option.bind_eq_some_iff.mp read
    obtain ⟨leaderEpoch, epochRead, read⟩ := Option.bind_eq_some_iff.mp read
    obtain ⟨error, _, read⟩ := Option.bind_eq_some_iff.mp read
    cases read
    exact
      { partition := (integer_exact .int32).of_required partitionRead
        offset := Offset.form_exact.of_required offsetRead
        leaderEpoch := (integer_option_exact .int32).of_optional epochRead }

/-- Watermarks are stored exactly. -/
theorem Watermarks.form_exact : Watermarks.form.Exact Watermarks.InRange where
  decode_encode {marks} fits := by
    simp only [Watermarks.form, Form.record?, bind, pure, Option.bind_some]
    refine Eq.trans ((integer_exact .int64).required fits.low rfl) ?_
    exact (integer_exact .int64).required fits.high rfl
  stores_of_decode {json marks} read := by
    obtain ⟨fields, _, read⟩ := Option.bind_eq_some_iff.mp read
    obtain ⟨low, lowRead, read⟩ := Option.bind_eq_some_iff.mp read
    obtain ⟨high, highRead, read⟩ := Option.bind_eq_some_iff.mp read
    cases read
    exact
      { low := (integer_exact .int64).of_required lowRead
        high := (integer_exact .int64).of_required highRead }

/-- Messages are stored exactly. -/
theorem Message.form_exact : Message.form.Exact Message.InRange where
  decode_encode {message} fits := by
    have bytesOption := option_exact_of_all bytes_exact nofun
    simp only [Message.form, Form.record?, bind, pure, Option.bind_some]
    refine Eq.trans (text_exact.required trivial rfl) ?_
    refine Eq.trans ((integer_exact .int32).required fits.partition rfl) ?_
    refine Eq.trans ((integer_exact .int64).required fits.offset rfl) ?_
    refine Eq.trans (bytesOption.defaulted trivial rfl) ?_
    refine Eq.trans (bytesOption.defaulted trivial rfl) ?_
    refine Eq.trans (texts_exact.required trivial rfl) ?_
    refine Eq.trans ((integer_option_exact .int64).defaulted fits.timestamp rfl) ?_
    refine Eq.trans ((integer_option_exact .int32).defaulted fits.leaderEpoch rfl) ?_
    exact ErrorCode.form_exact.required trivial rfl
  stores_of_decode {json message} read := by
    obtain ⟨fields, _, read⟩ := Option.bind_eq_some_iff.mp read
    obtain ⟨topic, _, read⟩ := Option.bind_eq_some_iff.mp read
    obtain ⟨partition, partitionRead, read⟩ := Option.bind_eq_some_iff.mp read
    obtain ⟨offset, offsetRead, read⟩ := Option.bind_eq_some_iff.mp read
    obtain ⟨key, _, read⟩ := Option.bind_eq_some_iff.mp read
    obtain ⟨payload, _, read⟩ := Option.bind_eq_some_iff.mp read
    obtain ⟨headers, _, read⟩ := Option.bind_eq_some_iff.mp read
    obtain ⟨timestamp, timeRead, read⟩ := Option.bind_eq_some_iff.mp read
    obtain ⟨leaderEpoch, epochRead, read⟩ := Option.bind_eq_some_iff.mp read
    obtain ⟨error, _, read⟩ := Option.bind_eq_some_iff.mp read
    cases read
    exact
      { partition := (integer_exact .int32).of_required partitionRead
        offset := (integer_exact .int64).of_required offsetRead
        timestamp := (integer_option_exact .int64).of_optional timeRead
        leaderEpoch := (integer_option_exact .int32).of_optional epochRead }

/-- Counters are read from fields that hold each of them under its name. -/
theorem Metrics.decode_of_written {metrics : Metrics} {fields : Fields}
    (written : ∀ counter ∈ metrics.counters,
      fields.lookup counter.1 = some (word.encode counter.2)) :
    Metrics.form.decode (.obj fields) = some metrics := by
  simp only [Metrics.counters, List.forall_mem_cons] at written
  obtain ⟨consumed, bytes, ends, timeouts, errors, commits, failures, _⟩ := written
  simp only [Metrics.form, Form.record?, bind, pure, Option.bind_some]
  refine Eq.trans (word_exact.required trivial consumed) ?_
  refine Eq.trans (word_exact.required trivial bytes) ?_
  refine Eq.trans (word_exact.required trivial ends) ?_
  refine Eq.trans (word_exact.required trivial timeouts) ?_
  refine Eq.trans (word_exact.required trivial errors) ?_
  refine Eq.trans (word_exact.required trivial commits) ?_
  exact word_exact.required trivial failures

/-- Counters are stored exactly, all of them. -/
theorem Metrics.form_exact : Metrics.form.Exact fun _ => True where
  decode_encode {metrics} _ := by
    apply Metrics.decode_of_written
    simp [Metrics.counters, List.lookup_cons]
  stores_of_decode _ := trivial

/-- An event that is read with its data is in range. -/
theorem Event.inRange_of_withData? {name : String} {fields : Fields} {event : Event}
    (read : withData? name fields = some event) : event.InRange := by
  unfold withData? at read
  split at read
  · obtain ⟨clientName, _, read⟩ := Option.bind_eq_some_iff.mp read
    cases read
    trivial
  · obtain ⟨error, _, read⟩ := Option.bind_eq_some_iff.mp read
    cases read
    trivial
  · obtain ⟨topics, _, read⟩ := Option.bind_eq_some_iff.mp read
    cases read
    trivial
  · obtain ⟨partitions, partitionsRead, read⟩ := Option.bind_eq_some_iff.mp read
    cases read
    exact natural_exact.of_required partitionsRead
  · obtain ⟨added, addedRead, read⟩ := Option.bind_eq_some_iff.mp read
    obtain ⟨total, totalRead, read⟩ := Option.bind_eq_some_iff.mp read
    cases read
    exact ⟨natural_exact.of_required addedRead, natural_exact.of_required totalRead⟩
  · obtain ⟨removed, removedRead, read⟩ := Option.bind_eq_some_iff.mp read
    obtain ⟨total, totalRead, read⟩ := Option.bind_eq_some_iff.mp read
    cases read
    exact ⟨natural_exact.of_required removedRead, natural_exact.of_required totalRead⟩
  · cases read

/-- An event that is read by its name alone tells no number. -/
theorem Event.inRange_of_plain? {name : String} {event : Event}
    (read : plain? name = some event) : event.InRange := by
  unfold plain? at read
  split at read <;> cases read <;> trivial

/-- Events are stored exactly. -/
theorem Event.form_exact : Event.form.Exact Event.InRange where
  decode_encode {event} fits := by
    have textOption := option_exact_of_all text_exact nofun
    cases event with
    | connected clientName =>
      change withData? "Connected" [("client_name", text.encode clientName)] = _
      simp only [withData?, bind, pure]
      exact text_exact.required trivial rfl
    | disconnected error =>
      change withData? "Disconnected" [("error", text.option.encode error)] = _
      simp only [withData?, bind, pure]
      exact textOption.defaulted trivial rfl
    | subscribed topics =>
      change withData? "Subscribed" [("topics", text.list.encode topics)] = _
      simp only [withData?, bind, pure]
      exact (list_exact text_exact).required (fun _ _ => trivial) rfl
    | assigned partitions =>
      change withData? "Assigned" [("partitions", natural.encode partitions)] = _
      simp only [withData?, bind, pure]
      exact natural_exact.required fits rfl
    | incrementalAssigned added total =>
      change withData? "IncrementalAssigned"
        [("added", natural.encode added), ("total", natural.encode total)] = _
      simp only [withData?, bind, pure]
      refine Eq.trans (natural_exact.required fits.1 rfl) ?_
      exact natural_exact.required fits.2 rfl
    | incrementalUnassigned removed total =>
      change withData? "IncrementalUnassigned"
        [("removed", natural.encode removed), ("total", natural.encode total)] = _
      simp only [withData?, bind, pure]
      refine Eq.trans (natural_exact.required fits.1 rfl) ?_
      exact natural_exact.required fits.2 rfl
    | unsubscribed | unassigned | consumeLoopStarted | consumeLoopStopped => rfl
  stores_of_decode {json event} read := by
    simp only [Event.form] at read
    split at read
    · exact Event.inRange_of_withData? read
    · obtain ⟨name, _, plain⟩ := Option.bind_eq_some_iff.mp read
      exact Event.inRange_of_plain? plain

/-- Configurations are stored exactly. -/
theorem Config.form_exact : Config.form.Exact Config.InRange where
  decode_encode {config} fits := by
    have textOption := option_exact_of_all text_exact nofun
    have textsOption := option_exact_of_all texts_exact nofun
    change (Form.text.option.defaulted "client_id" none _).bind _ = _
    refine Eq.trans (textOption.defaulted trivial rfl) ?_
    refine Eq.trans (textOption.defaulted trivial rfl) ?_
    refine Eq.trans ((list_exact text_exact).defaulted (fun _ _ => trivial) rfl) ?_
    refine Eq.trans (natural_exact.defaulted fits.consumeTimeout rfl) ?_
    refine Eq.trans (natural_exact.defaulted fits.loopSleepDelay rfl) ?_
    refine Eq.trans (natural_exact.defaulted fits.minTimeout rfl) ?_
    refine Eq.trans (natural_exact.defaulted fits.seekTimeout rfl) ?_
    refine Eq.trans (natural_exact.defaulted fits.committedTimeout rfl) ?_
    refine Eq.trans (natural_exact.defaulted fits.loopStopTimeout rfl) ?_
    refine Eq.trans (natural_exact.defaulted fits.workerThreads rfl) ?_
    refine Eq.trans (texts_exact.defaulted trivial rfl) ?_
    exact textsOption.defaulted trivial rfl
  stores_of_decode {json config} read := by
    obtain ⟨fields, _, read⟩ := Option.bind_eq_some_iff.mp read
    obtain ⟨clientId, _, read⟩ := Option.bind_eq_some_iff.mp read
    obtain ⟨groupId, _, read⟩ := Option.bind_eq_some_iff.mp read
    obtain ⟨bootstrapServers, _, read⟩ := Option.bind_eq_some_iff.mp read
    obtain ⟨consumeTimeout, consumeRead, read⟩ := Option.bind_eq_some_iff.mp read
    obtain ⟨loopSleepDelay, sleepRead, read⟩ := Option.bind_eq_some_iff.mp read
    obtain ⟨minTimeout, minRead, read⟩ := Option.bind_eq_some_iff.mp read
    obtain ⟨seekTimeout, seekRead, read⟩ := Option.bind_eq_some_iff.mp read
    obtain ⟨committedTimeout, committedRead, read⟩ := Option.bind_eq_some_iff.mp read
    obtain ⟨loopStopTimeout, stopRead, read⟩ := Option.bind_eq_some_iff.mp read
    obtain ⟨workerThreads, workersRead, read⟩ := Option.bind_eq_some_iff.mp read
    obtain ⟨properties, _, read⟩ := Option.bind_eq_some_iff.mp read
    obtain ⟨topicProperties, _, read⟩ := Option.bind_eq_some_iff.mp read
    cases read
    -- Every default fits a word.
    exact
      { consumeTimeout := natural_exact.of_defaulted (by decide) consumeRead
        loopSleepDelay := natural_exact.of_defaulted (by decide) sleepRead
        minTimeout := natural_exact.of_defaulted (by decide) minRead
        seekTimeout := natural_exact.of_defaulted (by decide) seekRead
        committedTimeout := natural_exact.of_defaulted (by decide) committedRead
        loopStopTimeout := natural_exact.of_defaulted (by decide) stopRead
        workerThreads := natural_exact.of_defaulted (by decide) workersRead }

/-- Stored values are restored. Of each stored type just the values whose numbers have the width at
which they are stored are read back from what is written for them, every text, map, list and byte
included and whatever is missing that may be; and whatever is read of a JSON value at all, it is
written and read again as it is. -/
theorem stored_values_restored :
    TopicPartition.form.Restores TopicPartition.InRange ∧
      Offset.form.Restores Offset.InRange ∧
      ErrorCode.form.Restores (fun _ => True) ∧
      Message.form.Restores Message.InRange ∧
      Watermarks.form.Restores Watermarks.InRange ∧
      RebalanceProtocol.form.Restores (fun _ => True) ∧
      Event.form.Restores Event.InRange ∧
      Metrics.form.Restores (fun _ => True) ∧
      Config.form.Restores Config.InRange :=
  ⟨TopicPartition.form_exact.restores, Offset.form_exact.restores, ErrorCode.form_exact.restores,
    Message.form_exact.restores, Watermarks.form_exact.restores,
    RebalanceProtocol.form_exact.restores, Event.form_exact.restores, Metrics.form_exact.restores,
    Config.form_exact.restores⟩

end LogConsumer
