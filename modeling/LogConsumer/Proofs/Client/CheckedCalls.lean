import LogConsumer.Proofs.Client.Checked

/-!
# Calls of a client in 64 bits

What a machine does for a whole call. The scripted failures, the refusals and the changes of the
client compute nothing and are done as they are; the numbers in between are those of
`LogConsumer.Proofs.Client.Checked`. A machine follows every call on a client with positions that
fit, on a cluster with logs that fit: the main result is `ClientCall.follows_perform`.
-/
namespace LogConsumer

open Machine

/-- The offsets committed fit into 64 bits with sign. -/
def Cluster.CommitsFit (cluster : Cluster) : Prop :=
  ∀ group key offset, cluster.committed? group key = some offset →
    Width.int64.holds offset = true

/-- Whether what is committed fits depends on the committed offsets alone. -/
theorem Cluster.CommitsFit.congr {cluster other : Cluster} (same : other.commits = cluster.commits)
    (fit : cluster.CommitsFit) : other.CommitsFit := by
  unfold Cluster.CommitsFit Cluster.committed?
  rw [same]
  exact fit

/-- The offsets that an entry holds fit into 64 bits with sign. -/
structure Assigned.OffsetsFit (entry : Assigned) : Prop where
  /-- The position fits. -/
  reading : Width.int64.holds entry.position = true
  /-- What is stored fits. -/
  storing : ∀ offset ∈ entry.stored, Width.int64.holds offset = true

/-- The offsets that a client and its cluster hold fit into 64 bits with sign. -/
structure Link.OffsetsFit (link : Link) : Prop where
  /-- Those of the entries of the client fit. -/
  entries : ∀ entry ∈ link.client.assignment, entry.OffsetsFit
  /-- Those committed fit. -/
  commits : link.cluster.CommitsFit

namespace Client

variable {link : Link}

/-- The cluster fits after an action that leaves its topics, if it does before. -/
theorem fits_of_keeps {α : Type} {action : Action α} {outcome : Except ClientError α}
    {between : Link} (kept : Keeps (fun link => link.cluster.topics) action.run)
    (fits : link.cluster.Fits) (ran : action.run link = (outcome, between)) :
    between.cluster.Fits := by
  have same := kept link
  rw [ran] at same
  exact fits.congr same

/-- What a script says about a call leaves the topics. -/
theorem keeps_topics_takeFault (primitive : Primitive) :
    Keeps (fun link => link.cluster.topics) (takeFault primitive).run :=
  keeps_takeFault (fun _ _ => rfl) primitive

/-- A machine goes on, after an action that computes nothing and leaves the topics, where the
cluster fits as before. -/
theorem follows_fitting {α β : Type} {action : Action α}
    (kept : Keeps (fun link => link.cluster.topics) action.run) (fits : link.cluster.Fits)
    {rest : α → ExceptT ClientError (Machine Link) β} {after : α → Action β}
    (same : ∀ value between, between.cluster.Fits →
      Follows (rest value).run (after value).run between) :
    Follows (ofFallible action >>= rest).run (action >>= after).run link :=
  .andThen (.ofFallible _) fun value between ran => same value between (fits_of_keeps kept fits ran)

/-- Replace the assignment, as a machine does. -/
def checkedAssign (partitions : List TopicPartition) : ExceptT ClientError (Machine Link) Unit := do
  ofFallible (takeFault .assign)
  ofFallible (requireConcrete partitions)
  ofFallible ensureOpen
  let link ← get
  let entries ← checkedAssignedOfList link partitions
  ofFallible (update fun client => { client with assignment := entries, cursor := 0 })

/-- The assignment is replaced right. -/
theorem follows_assign (fits : link.cluster.Fits) (partitions : List TopicPartition) :
    Follows (checkedAssign partitions).run (assign partitions).run link := by
  refine follows_fitting (keeps_topics_takeFault _) fits fun _ _ fits => ?_
  refine follows_fitting (keeps_requireConcrete _) fits fun _ _ fits => ?_
  refine follows_fitting keeps_ensureOpen fits fun _ opened fits => .readingThen ?_
  exact .computingThen (checkedAssignedOfList_eq fits _) (.ofFallible _)

/-- Add to the assignment, as a machine does. -/
def checkedIncrementalAssign (partitions : List TopicPartition) :
    ExceptT ClientError (Machine Link) Unit := do
  ofFallible (takeFault .incrementalAssign)
  ofFallible (requireConcrete partitions)
  ofFallible ensureOpen
  let link ← get
  match partitions.find? fun tp => (Assigned.find? link.client.assignment tp.key).isSome with
  | some tp => throw (.because .conflict (tp.text ++ " is already assigned"))
  | none =>
    let entries ← checkedAssignedOfList link partitions
    ofFallible (update fun client => { client with assignment := client.assignment ++ entries })

/-- The assignment is extended right. -/
theorem follows_incrementalAssign (fits : link.cluster.Fits) (partitions : List TopicPartition) :
    Follows (checkedIncrementalAssign partitions).run (incrementalAssign partitions).run link := by
  refine follows_fitting (keeps_topics_takeFault _) fits fun _ _ fits => ?_
  refine follows_fitting (keeps_requireConcrete _) fits fun _ _ fits => ?_
  refine follows_fitting keeps_ensureOpen fits fun _ opened fits => .readingThen ?_
  cases partitions.find? fun tp => (Assigned.find? opened.client.assignment tp.key).isSome with
  | some tp => exact .throw _
  | none => exact .computingThen (checkedAssignedOfList_eq fits _) (.ofFallible _)

/-- Move the position of an assigned partition, as a machine does: the place is resolved whether or
not the partition is assigned. -/
def checkedSeek (tp : TopicPartition) : ExceptT ClientError (Machine Link) Unit := do
  ofFallible (takeFault .seek)
  let link ← get
  let position ← checkedResolve link.client.settings link.cluster tp.key tp.offset
  match Assigned.updateFirst? tp.key
      (fun entry => { entry with position, endReported := false }) link.client.assignment with
  | some entries => ofFallible (update fun client => { client with assignment := entries })
  | none => throw (.because .unknownPartition (tp.text ++ " is not assigned"))

/-- A position is moved right. -/
theorem follows_seek (fits : link.cluster.Fits) (tp : TopicPartition) :
    Follows (checkedSeek tp).run (seek tp).run link := by
  refine follows_fitting (keeps_topics_takeFault _) fits fun _ between fits => .readingThen ?_
  refine .computingThen (checkedResolve_eq fits _ _ _) ?_
  dsimp only
  generalize Assigned.updateFirst? _ _ _ = moved
  cases moved with
  | some entries => exact .ofFallible _
  | none => exact .throw _

/-- The bounds of the retained part of a partition, as a machine computes them. -/
def checkedWatermarks (key : PartitionKey) : ExceptT ClientError (Machine Link) Watermarks := do
  ofFallible (takeFault .watermarks)
  let link ← get
  let outcome ← link.cluster.checkedWatermarks key
  match outcome with
  | .ok marks => pure marks
  | .error error => throw error

/-- The bounds are told right. -/
theorem follows_watermarks (fits : link.cluster.Fits) (key : PartitionKey) :
    Follows (checkedWatermarks key).run (watermarks key).run link := by
  refine follows_fitting (keeps_topics_takeFault _) fits fun _ between fits => .readingThen ?_
  refine .computingThen (Cluster.checkedWatermarks_eq fits key) ?_
  cases between.cluster.watermarks key with
  | ok marks => exact .pure _
  | error error => exact .throw _

/-- The entry of a list with the offset of the first record written at its time or later, as a
machine computes it. -/
def checkedOffsetForTime (cluster : Cluster) (tp : TopicPartition) : Option TopicPartition :=
  match tp.offset.absolute? with
  | none => some { tp with error := .invalidArg }
  | some timestamp =>
    match cluster.log tp.key with
    | .error error => some { tp with offset := .invalid, error := error.code }
    | .ok log => do
      let found ← log.checkedOffsetForTime? timestamp
      pure { tp with offset := (found.map Offset.absolute).getD .ending, error := .noError }

/-- The offset of a time is looked up right. -/
theorem checkedOffsetForTime_eq {cluster : Cluster} (fits : cluster.Fits) (tp : TopicPartition) :
    checkedOffsetForTime cluster tp = some (offsetForTime cluster tp) := by
  unfold checkedOffsetForTime offsetForTime
  cases tp.offset.absolute? with
  | none => rfl
  | some timestamp =>
    dsimp only
    cases found : cluster.log tp.key with
    | error error => rfl
    | ok log =>
      dsimp only
      rw [bind_of_eq_some (PartitionLog.checkedOffsetForTime?_eq (fits.log_of_ok found) timestamp)]
      cases log.offsetForTime? timestamp <;> rfl

/-- Write the offset of each entry's time into the entry, as a machine does. -/
def checkedOffsetsForTimes (partitions : List TopicPartition) :
    Machine Link (Except ClientError Unit × List TopicPartition) := do
  match ← ofAction (takeFault .offsetsForTimes).run with
  | .error error => pure (.error error, partitions)
  | .ok () =>
    let link ← get
    let answers ← (partitions.mapM (checkedOffsetForTime link.cluster) : Option _)
    pure (.ok (), answers)

/-- Offsets of times are looked up right. -/
theorem follows_offsetsForTimes (fits : link.cluster.Fits) (partitions : List TopicPartition) :
    Follows (checkedOffsetsForTimes partitions) (offsetsForTimes partitions) link := by
  refine .bind (.ofAction _) ?_
  cases ran : (takeFault .offsetsForTimes).run link with
  | mk outcome between =>
    have fits := fits_of_keeps (keeps_topics_takeFault _) fits ran
    cases outcome with
    | error error => exact .pure _
    | ok _ =>
      refine .reading (.computing (mapM_eq_some fun tp _ => checkedOffsetForTime_eq fits tp) ?_)
      exact .pure _

/-- Poll one message, as a machine does. -/
def checkedPoll (timeout : Nat) : Machine Link Polled := do
  modify fun link =>
    { link with
      cluster := { link.cluster with
        polls := link.cluster.polls + 1
        lastPollTimeout := some timeout } }
  match ← ofAction (takeFault .poll).run with
  | .error error => pure { message := .empty error.code }
  | .ok () =>
    let link ← get
    if link.client.closed then pure { message := .empty .destroy }
    else
      let client ← checkedJoined link
      let (found, client) ← checkedServe link.cluster client
      set { link with client }
      match found with
      | some message => pure { message }
      | none => pure { message := .empty .timedOut, waited := timeout }

/-- The offset at which reading starts fits, if an offset that is named does, and those that are
committed. -/
theorem holds_resolve {cluster : Cluster} (fits : cluster.Fits) (commits : cluster.CommitsFit)
    {offset : Offset} (placed : ∀ number ∈ offset.absolute?, Width.int64.holds number = true)
    (settings : Settings) (key : PartitionKey) :
    Width.int64.holds (resolve settings cluster key offset) = true := by
  let marks := ((cluster.log? key).map PartitionLog.watermarks).getD { low := 0, high := 0 }
  have bounds : Width.int64.holds marks.low = true ∧ Width.int64.holds marks.high = true := by
    unfold marks
    cases found : cluster.log? key with
    | none => exact ⟨rfl, rfl⟩
    | some log =>
      have bound := PartitionLog.fits_iff.mp (fits.log found)
      refine ⟨(Width.int64_holds_iff _).mpr ?_, fits.log found⟩
      change _ ≤ (log.low : Int) ∧ (log.low : Int) < _
      omega
  have resumed : Width.int64.holds ((settings.group.bind fun group =>
      cluster.committed? group key).getD
        (if settings.resetToLatest then marks.high else marks.low)) = true := by
    cases found : settings.group.bind fun group => cluster.committed? group key with
    | none =>
      rw [Option.getD_none]
      split
      · exact bounds.2
      · exact bounds.1
    | some offset =>
      obtain ⟨group, _, committed⟩ := Option.bind_eq_some_iff.mp found
      exact commits group key offset committed
  cases offset with
  | absolute number => exact placed number rfl
  | beginning => exact bounds.1
  | ending => exact bounds.2
  | stored | invalid => exact resumed

/-- The offsets that entries hold fit after the client has joined its group. -/
theorem offsetsFit_joined (fits : link.cluster.Fits) (held : link.OffsetsFit) :
    ∀ entry ∈ (joined link).assignment, entry.OffsetsFit := by
  refine survives_joined (fun tp nowhere => ⟨?_, nofun⟩) held.entries
  refine holds_resolve fits held.commits (fun number placed => ?_) _ _
  rw [nowhere] at placed
  cases placed

/-- A message is polled right where the offsets held fit. -/
theorem follows_poll (fits : link.cluster.Fits) (held : link.OffsetsFit) (timeout : Nat) :
    Follows (checkedPoll timeout) (poll timeout) link := by
  let before : Link := { link with cluster := { link.cluster with
    polls := link.cluster.polls + 1, lastPollTimeout := some timeout } }
  -- Counting the poll and using up its script leave what the poll goes by.
  have keeps : Keeps (fun link => (link.client, link.cluster.topics, link.cluster.commits))
      (takeFault .poll).run := keeps_takeFault (fun _ _ => rfl) .poll
  have kept := keeps before
  refine .changing (.bind (.ofAction _) ?_)
  cases ran : (takeFault .poll).run before with
  | mk outcome between =>
    rw [ran] at kept
    obtain ⟨client, rest⟩ := Prod.mk.inj kept
    obtain ⟨topics, commits⟩ := Prod.mk.inj rest
    dsimp only at client topics commits
    have fits : between.cluster.Fits := fits.congr topics
    have held : between.OffsetsFit := ⟨client ▸ held.entries, held.commits.congr commits⟩
    have served := checkedServe_eq fits fun entry inside =>
      (offsetsFit_joined fits held entry inside).reading
    cases outcome with
    | error error => exact .pure _
    | ok _ =>
      refine .reading ?_
      by_cases shut : between.client.closed = true
      · rw [if_pos shut, if_pos shut]
        exact .pure _
      · rw [if_neg shut, if_neg shut]
        refine .computing (checkedJoined_eq fits) (.computing served ?_)
        cases serve between.cluster (joined between) with
        | mk found client => cases found <;> exact .bind rfl (.pure _)

/-- The answer of an action that writes no list back, as a machine gives it. -/
def checkedAnswer {α : Type} (reply : α → ClientReply)
    (machine : ExceptT ClientError (Machine Link) α) : Machine Link ClientAnswer := do
  pure { outcome := (← machine.run).map reply }

/-- An action that is done right is answered right. -/
theorem follows_answer {α : Type} {machine : ExceptT ClientError (Machine Link) α}
    {action : Action α} (reply : α → ClientReply) (same : Follows machine.run action.run link) :
    Follows (checkedAnswer reply machine) (ClientAnswer.ofAction reply action) link :=
  .bind same (.pure _)

end Client

namespace ClientCall

open Client

/-- Perform a call, as a machine does. The calls that compute nothing are performed as they are. -/
def checkedPerform : ClientCall → Machine Link ClientAnswer
  | .assign partitions => checkedAnswer (fun _ => .done) (checkedAssign partitions)
  | .incrementalAssign partitions =>
    checkedAnswer (fun _ => .done) (checkedIncrementalAssign partitions)
  | .seek tp _ => checkedAnswer (fun _ => .done) (checkedSeek tp)
  | .poll timeout => do pure { outcome := .ok (.message (← checkedPoll timeout).message) }
  | .offsetsForTimes partitions _ => do
    let (outcome, written) ← checkedOffsetsForTimes partitions
    pure { outcome := outcome.map fun _ => .done, written := some written }
  | .cachedWatermarks key => checkedAnswer .watermarks (checkedWatermarks key)
  | .queryWatermarks key _ => checkedAnswer .watermarks (checkedWatermarks key)
  | call => ofAction call.perform

/-- Every absolute offset that a call carries fits into 64 bits with sign. -/
def OffsetsFit (call : ClientCall) : Prop :=
  ∀ tp ∈ call.descriptors, ∀ offset ∈ tp.offset.absolute?, Width.int64.holds offset = true

instance (call : ClientCall) : Decidable call.OffsetsFit :=
  inferInstanceAs (Decidable (∀ tp ∈ call.descriptors, ∀ offset ∈ tp.offset.absolute?,
    Width.int64.holds offset = true))

variable {call : ClientCall} {link : Link}

/-- A machine follows every call where the logs and the offsets held fit. -/
theorem follows_perform (fits : link.cluster.Fits) (held : link.OffsetsFit) (call : ClientCall) :
    Follows call.checkedPerform call.perform link := by
  cases call with
  | assign partitions => exact follows_answer _ (follows_assign fits partitions)
  | incrementalAssign partitions =>
    exact follows_answer _ (follows_incrementalAssign fits partitions)
  | seek tp timeout => exact follows_answer _ (follows_seek fits tp)
  | poll timeout => exact .bind (follows_poll fits held timeout) (.pure _)
  | offsetsForTimes partitions timeout =>
    exact .bind (follows_offsetsForTimes fits partitions) (.pure _)
  | cachedWatermarks key => exact follows_answer _ (follows_watermarks fits key)
  | queryWatermarks key timeout => exact follows_answer _ (follows_watermarks fits key)
  | _ => exact .ofAction _

/-- Where a call makes or changes an entry, the offsets that the entry holds still fit, if those do
that the call carries. -/
theorem spares_offsetsFit (fits : link.cluster.Fits) (held : link.OffsetsFit)
    (carried : call.OffsetsFit) : call.Spares Assigned.OffsetsFit link where
  made tp named := by
    refine ⟨holds_resolve fits held.commits (fun offset placed => ?_) _ _, nofun⟩
    rcases named with listed | nowhere
    · exact carried tp listed offset placed
    · rw [nowhere] at placed
      cases placed
  moved tp listed entry sound :=
    ⟨holds_resolve fits held.commits (carried tp listed) _ _, sound.storing⟩
  paused entry paused sound := ⟨sound.reading, sound.storing⟩
  stored tp listed offset placed entry leaderEpoch sound := by
    refine ⟨sound.reading, fun other same => ?_⟩
    cases same
    refine carried tp listed offset ?_
    rw [placed]
    rfl
  inspected entry sound := by
    have place := holds_floor fits entry.key sound.reading
    obtain same | ⟨message, read, same⟩ | ⟨_, same⟩ | ⟨_, same⟩ :=
      inspect_cases link.cluster link.client.settings.reportsEnd entry <;> rw [same]
    · exact sound
    · have next := holds_next fits read
      refine ⟨next, fun offset stored => ?_⟩
      cases stored
      exact next
    · exact ⟨place, sound.storing⟩
    · exact ⟨place, sound.storing⟩

end ClientCall

end LogConsumer
