import LogConsumer.Client

/-!
# Offsets of a client

Committed offsets, positions, pausing, stored offsets and look-ups by time. The operations that
take a list answer entry by entry, and each but the look-up of committed offsets, where no entry
can fail, writes the error of every entry anew.
-/
namespace LogConsumer.Client

/-- What a commit of a list takes: its entries with an absolute offset. -/
def absoluteOffsets (partitions : List TopicPartition) : List (PartitionKey × Int) :=
  partitions.filterMap fun tp => tp.offset.absolute?.map (tp.key, ·)

/-- What a commit without a list takes: the stored offsets of the assignment. -/
def storedOffsets (entries : List Assigned) : List (PartitionKey × Int) :=
  entries.filterMap fun entry => entry.stored.map (entry.key, ·)

/-- Commit offsets for the group, in their order; the last one of a partition counts. Nothing to
commit is a failure. -/
def commit (partitions : Option (List TopicPartition)) : Action Unit := do
  takeFault .commit
  let group ← requireGroup
  let link ← get
  let pending :=
    match partitions with
    | some list => absoluteOffsets list
    | none => storedOffsets link.client.assignment
  if pending.isEmpty then throw (.ofCode .noOffset)
  updateCluster fun cluster =>
    pending.foldl (fun cluster entry => cluster.commit group entry.1 entry.2) cluster

/-- The place that a group has committed for a partition. -/
def committedOffset (cluster : Cluster) (group : String) (key : PartitionKey) : Offset :=
  ((cluster.committed? group key).map Offset.absolute).getD .invalid

/-- Write the committed offset of each partition into its entry. -/
def committed : WriteBack := fun partitions => do
  match ← (do takeFault .committed; requireGroup : Action String).run with
  | .error error => pure (.error error, partitions)
  | .ok group =>
    let cluster := (← get).cluster
    pure (.ok (), partitions.map fun tp =>
      { tp with offset := committedOffset cluster group tp.key })

/-- The entry of a list with the position of its partition. -/
def positionOf (entries : List Assigned) (tp : TopicPartition) : TopicPartition :=
  match Assigned.find? entries tp.key with
  | some entry => { tp with offset := .absolute entry.position, error := .noError }
  | none => { tp with offset := .invalid, error := .unknownPartition }

/-- Write the position of each partition into its entry. -/
def position : WriteBack := fun partitions => do
  let entries := (← get).client.assignment
  pure (.ok (), partitions.map (positionOf entries))

/-- Move the position of an assigned partition; its end may be reported again. -/
def seek (tp : TopicPartition) : Action Unit := do
  takeFault .seek
  let link ← get
  let position := resolve link.client.settings link.cluster tp.key tp.offset
  match Assigned.updateFirst? tp.key
      (fun entry => { entry with position, endReported := false }) link.client.assignment with
  | some entries => update fun client => { client with assignment := entries }
  | none => throw (.because .unknownPartition (tp.text ++ " is not assigned"))

/-- Run through a list with the assignment as it changes, entry by entry. -/
def sweep (visit : TopicPartition → List Assigned → TopicPartition × List Assigned) :
    List TopicPartition → List Assigned → List TopicPartition × List Assigned
  | [], entries => ([], entries)
  | tp :: partitions, entries =>
    let (answer, entries) := visit tp entries
    let (answers, entries) := sweep visit partitions entries
    (answer :: answers, entries)

/-- Pause or resume the partition of one entry. -/
def setPaused (paused : Bool) (tp : TopicPartition) (entries : List Assigned) :
    TopicPartition × List Assigned :=
  match Assigned.updateFirst? tp.key (fun entry => { entry with paused }) entries with
  | some changed => ({ tp with error := .noError }, changed)
  | none => ({ tp with error := .unknownPartition }, entries)

/-- Run through a list and keep the assignment as it has changed. -/
def sweepAssignment
    (visit : TopicPartition → List Assigned → TopicPartition × List Assigned)
    (partitions : List TopicPartition) : StateM Link (List TopicPartition) := do
  let link ← get
  let (answers, entries) := sweep visit partitions link.client.assignment
  set { link with client := { link.client with assignment := entries } }
  pure answers

/-- Stop reading the partitions for now. -/
def pause : WriteBack := fun partitions => do
  pure (.ok (), ← sweepAssignment (setPaused true) partitions)

/-- Read the partitions again. -/
def resume : WriteBack := fun partitions => do
  pure (.ok (), ← sweepAssignment (setPaused false) partitions)

/-- Store the offset of one entry for the next commit, and its leader epoch if it has one. The
partition must be assigned and the offset absolute. -/
def storeOffset (tp : TopicPartition) (entries : List Assigned) :
    TopicPartition × List Assigned :=
  match Assigned.find? entries tp.key, tp.offset.absolute? with
  | none, _ => ({ tp with error := .unknownPartition }, entries)
  | some _, none => ({ tp with error := .invalidArg }, entries)
  | some _, some offset =>
    let change (entry : Assigned) : Assigned :=
      { entry with stored := some offset, leaderEpoch := tp.leaderEpoch <|> entry.leaderEpoch }
    ({ tp with error := .noError }, (Assigned.updateFirst? tp.key change entries).getD entries)

/-- Store offsets for the next commit. Good entries are stored even when others fail; the call
fails with the code of the first bad entry. -/
def storeOffsets : WriteBack := fun partitions => do
  match ← (takeFault .offsetsStore).run with
  | .error error => pure (.error error, partitions)
  | .ok () =>
    let answers ← sweepAssignment storeOffset partitions
    match answers.find? fun tp => tp.error.isError with
    | some tp => pure (.error (.ofCode tp.error), answers)
    | none => pure (.ok (), answers)

/-- The entry of a list with the offset of the first record written at its time or later. The
time is the entry's absolute offset; an entry without one keeps its place. -/
def offsetForTime (cluster : Cluster) (tp : TopicPartition) : TopicPartition :=
  match tp.offset.absolute? with
  | none => { tp with error := .invalidArg }
  | some timestamp =>
    match cluster.log tp.key with
    | .error error => { tp with offset := .invalid, error := error.code }
    | .ok log =>
      let offset :=
        ((log.offsetForTime? timestamp).map fun found => Offset.absolute found).getD .ending
      { tp with offset, error := .noError }

/-- Write the offset of each entry's time into the entry. -/
def offsetsForTimes : WriteBack := fun partitions => do
  match ← (takeFault .offsetsForTimes).run with
  | .error error => pure (.error error, partitions)
  | .ok () =>
    let cluster := (← get).cluster
    pure (.ok (), partitions.map (offsetForTime cluster))

/-- The bounds of the retained part of a partition. -/
def watermarks (key : PartitionKey) : Action Watermarks := do
  takeFault .watermarks
  match (← get).cluster.watermarks key with
  | .ok marks => pure marks
  | .error error => throw error

end LogConsumer.Client
