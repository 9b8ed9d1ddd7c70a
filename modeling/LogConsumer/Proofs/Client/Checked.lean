import LogConsumer.Proofs.Client.Surviving
import LogConsumer.Proofs.Cluster.Checked

/-!
# Clients in 64 bits

What a machine does for the calls of a client that compute with offsets: those that say where
reading starts, the look-ups, and the poll. Each of its definitions goes through the steps of its
original in their order, and each is shown to come to the same where the logs fit. Only a poll needs
more than that. It subtracts the low watermark from a position that anybody may have chosen, so the
position must fit itself, and it must have been raised to the low watermark before. Then the
difference lies between zero and the position, and the offset after a record that is read is at most
that after the last record of the log.
-/
namespace LogConsumer

open Machine

namespace Client

variable {cluster : Cluster} {link : Link}

/-- The bounds of the retained part of a partition, both zero where there is no log, as a machine
computes them. -/
def checkedMarks (cluster : Cluster) (key : PartitionKey) : Option Watermarks :=
  match cluster.log? key with
  | none => some { low := 0, high := 0 }
  | some log => log.checkedWatermarks

/-- The offset at which reading starts for a place in a partition, as a machine computes it: the
bounds of the log come first, whatever the place. -/
def checkedResolve (settings : Settings) (cluster : Cluster) (key : PartitionKey)
    (offset : Offset) : Option Int := do
  let marks ← checkedMarks cluster key
  pure (match offset with
    | .absolute position => position
    | .beginning => marks.low
    | .ending => marks.high
    | .stored | .invalid =>
      (settings.group.bind fun group => cluster.committed? group key).getD
        (if settings.resetToLatest then marks.high else marks.low))

/-- The start of reading is computed right. -/
theorem checkedResolve_eq (fits : cluster.Fits) (settings : Settings) (key : PartitionKey)
    (offset : Offset) :
    checkedResolve settings cluster key offset = some (resolve settings cluster key offset) := by
  have marks : checkedMarks cluster key =
      some (((cluster.log? key).map PartitionLog.watermarks).getD { low := 0, high := 0 }) := by
    unfold checkedMarks
    cases found : cluster.log? key with
    | none => rfl
    | some log => exact PartitionLog.checkedWatermarks_eq (fits.log found)
  rw [checkedResolve, bind_of_eq_some marks]
  rfl

/-- A fresh entry of the assignment for a partition, as a machine makes it. -/
def checkedAssignedOf (settings : Settings) (cluster : Cluster) (tp : TopicPartition) :
    Option Assigned := do
  let position ← checkedResolve settings cluster tp.key tp.offset
  pure { topic := tp.topic, partition := tp.partition, position, leaderEpoch := tp.leaderEpoch }

/-- Fresh entries for partitions, as a machine makes them. -/
def checkedAssignedOfList (link : Link) (partitions : List TopicPartition) :
    Option (List Assigned) :=
  partitions.mapM (checkedAssignedOf link.client.settings link.cluster)

/-- Fresh entries are made right. -/
theorem checkedAssignedOfList_eq (fits : link.cluster.Fits) (partitions : List TopicPartition) :
    checkedAssignedOfList link partitions = some (assignedOfList link partitions) := by
  refine mapM_eq_some fun tp _ => ?_
  rw [checkedAssignedOf, bind_of_eq_some (checkedResolve_eq fits _ _ _)]
  rfl

/-- Every partition of a topic, as a machine counts them. -/
def checkedPartitionsOf (cluster : Cluster) (topic : String) : Option (List TopicPartition) := do
  let count ← cluster.checkedPartitionCount topic
  pure ((List.range count.toNat).map fun (number : Nat) => { topic, partition := (number : Int) })

/-- The client after it has joined its group, if it subscribes and reads nothing, as a machine makes
it. -/
def checkedJoined (link : Link) : Option Client :=
  let client := link.client
  if !client.subscription.isEmpty && client.assignment.isEmpty then do
    let partitions ← client.subscription.mapM (checkedPartitionsOf link.cluster)
    let assignment ← checkedAssignedOfList link partitions.flatten
    pure { client with assignment, cursor := 0 }
  else some client

/-- Joining is computed right. -/
theorem checkedJoined_eq (fits : link.cluster.Fits) : checkedJoined link = some (joined link) := by
  have counted : link.client.subscription.mapM (checkedPartitionsOf link.cluster) =
      some (link.client.subscription.map fun topic =>
        (List.range (link.cluster.partitionCount topic)).map fun (number : Nat) =>
          { topic, partition := (number : Int) }) := by
    refine mapM_eq_some fun topic _ => ?_
    rw [checkedPartitionsOf, bind_of_eq_some (Cluster.checkedPartitionCount_eq fits topic)]
    rfl
  unfold checkedJoined joined
  dsimp only
  split
  · rw [bind_of_eq_some counted, bind_of_eq_some (checkedAssignedOfList_eq fits _),
      subscribedPartitions, List.flatMap_def]
    rfl
  · rfl

/-- The entry with its position raised to the oldest retained record, as a machine does it. -/
def checkedRaised (cluster : Cluster) (entry : Assigned) : Option Assigned :=
  match cluster.log? entry.key with
  | none => some entry
  | some log => do
    let marks ← log.checkedWatermarks
    pure { entry with position := max entry.position marks.low }

/-- A position is raised right. -/
theorem checkedRaised_eq (fits : cluster.Fits) (entry : Assigned) :
    checkedRaised cluster entry = some (raised cluster entry) := by
  unfold checkedRaised raised
  cases found : cluster.log? entry.key with
  | none => rfl
  | some log =>
    dsimp only
    rw [bind_of_eq_some (PartitionLog.checkedWatermarks_eq (fits.log found))]
    rfl

/-- Inspect one entry, as a machine does. -/
def checkedInspect (cluster : Cluster) (reportsEnd : Bool) (entry : Assigned) :
    Option (Option Message × Assigned) :=
  if entry.paused then some (none, entry)
  else do
    let entry ← checkedRaised cluster entry
    let found ← cluster.checkedRead? entry.key entry.position
    match found with
    | some message =>
      let next ← Width.int64.checked (message.offset + 1)
      pure (some message,
        { entry with position := next, stored := some next, endReported := false })
    | none =>
      if reportsEnd && !entry.endReported then
        pure (some (.endOfPartition entry.topic entry.partition entry.position),
          { entry with endReported := true })
      else pure (none, entry)

/-- Where reading goes on from an offset that fits, fits. -/
theorem holds_floor (fits : cluster.Fits) (key : PartitionKey) {offset : Int}
    (held : Width.int64.holds offset = true) :
    Width.int64.holds (cluster.floor key offset) = true := by
  unfold Cluster.floor
  cases found : cluster.log? key with
  | none => exact held
  | some log =>
    have bound := PartitionLog.fits_iff.mp (fits.log found)
    rw [Width.int64_holds_iff] at held ⊢
    dsimp only
    omega

/-- The offset after a record that is read fits. -/
theorem holds_next (fits : cluster.Fits) {key : PartitionKey} {offset : Int} {message : Message}
    (read : cluster.read? key offset = some message) :
    Width.int64.holds (offset + 1) = true := by
  obtain ⟨_, _, _, log, record, found, retained, _⟩ := Cluster.read?_eq_some read
  obtain ⟨above, below⟩ := PartitionLog.bounds_of_record? retained
  have bound := PartitionLog.fits_iff.mp (fits.log found)
  rw [PartitionLog.high] at below
  rw [Width.int64_holds_iff]
  omega

/-- An entry with a position that fits is inspected right. -/
theorem checkedInspect_eq (fits : cluster.Fits) (reportsEnd : Bool) {entry : Assigned}
    (held : Width.int64.holds entry.position = true) :
    checkedInspect cluster reportsEnd entry = some (inspect cluster reportsEnd entry) := by
  have place : (raised cluster entry).position = cluster.floor entry.key entry.position := by
    rw [raised_eq]
  have own : (raised cluster entry).key = entry.key := by
    rw [raised_eq]
    rfl
  have retained (log : PartitionLog) (found : cluster.log? (raised cluster entry).key = some log) :
      (log.low : Int) ≤ (raised cluster entry).position := by
    rw [own] at found
    rw [place, Cluster.floor, found]
    exact Int.le_max_right _ _
  have reads : cluster.checkedRead? (raised cluster entry).key (raised cluster entry).position =
      some (cluster.read? (raised cluster entry).key (raised cluster entry).position) :=
    Cluster.checkedRead?_eq retained (place ▸ holds_floor fits entry.key held)
  unfold checkedInspect inspect
  split
  · rfl
  · rw [bind_of_eq_some (checkedRaised_eq fits entry), bind_of_eq_some reads]
    dsimp only
    cases found : cluster.read? (raised cluster entry).key (raised cluster entry).position with
    | none =>
      dsimp only
      split <;> rfl
    | some message =>
      have offset := (Cluster.read?_eq_some found).2.1
      have next : Width.int64.checked (message.offset + 1) =
          some ((raised cluster entry).position + 1) := by
        rw [offset]
        exact Width.checked_of_holds (holds_next fits found)
      dsimp only
      rw [bind_of_eq_some next]
      rfl

/-- Inspect the entries at some places of the assignment, up to the first that has a message: its
place and the message, and the entries afterwards. A machine stops at a place where there is no
entry. -/
def checkedInspectAt (cluster : Cluster) (reportsEnd : Bool) :
    List Nat → List Assigned → Option (Option (Nat × Message) × List Assigned)
  | [], entries => some (none, entries)
  | place :: places, entries => do
    let entry ← entries[place]?
    let (found, entry) ← checkedInspect cluster reportsEnd entry
    match found with
    | some message => some (some (place, message), entries.set place entry)
    | none => checkedInspectAt cluster reportsEnd places (entries.set place entry)

/-- At the places of entries that stand together, with positions that fit, a machine inspects these
entries in order, and goes on at the other places if none of them has a message. -/
theorem checkedInspectAt_together (fits : cluster.Fits) (reportsEnd : Bool)
    {entries : List Assigned}
    (held : ∀ entry ∈ entries, Width.int64.holds entry.position = true)
    (before after : List Assigned) (places : List Nat) :
    checkedInspectAt cluster reportsEnd (List.range' before.length entries.length ++ places)
        (before ++ entries ++ after) =
      match inspectUpTo cluster reportsEnd entries with
      | (some (index, message), entries) =>
        some (some (before.length + index, message), before ++ entries ++ after)
      | (none, entries) =>
        checkedInspectAt cluster reportsEnd places (before ++ entries ++ after) := by
  induction entries generalizing before with
  | nil => rfl
  | cons entry entries ih =>
    obtain ⟨here, later⟩ := List.forall_mem_cons.mp held
    have present : (before ++ entry :: entries ++ after)[before.length]? = some entry := by simp
    have rest := ih later (before ++ [(inspect cluster reportsEnd entry).2])
    rw [List.length_append, List.length_singleton] at rest
    rw [List.length_cons, List.range'_succ, List.cons_append, checkedInspectAt,
      bind_of_eq_some present, bind_of_eq_some (checkedInspect_eq fits reportsEnd here),
      inspectUpTo]
    cases looked : inspect cluster reportsEnd entry with
    | mk found entry' =>
      have put : (before ++ entry :: entries ++ after).set before.length entry' =
          before ++ [entry'] ++ entries ++ after := by simp
      rw [looked] at rest
      cases found with
      | some message =>
        dsimp only
        rw [put]
        simp
      | none =>
        dsimp only
        rw [put, rest]
        cases inspectUpTo cluster reportsEnd entries with
        | mk later entries' =>
          cases later with
          | none => simp
          | some answer => simp [Nat.add_assoc, Nat.add_comm 1]

/-- The places of as many entries, once around from the cursor on. -/
def round (cursor count : Nat) : List Nat :=
  (List.range count).map fun step => (cursor + step) % count

/-- Once around from the cursor on comes to the places from the cursor to the end and then those
before the cursor. -/
theorem round_eq {cursor count : Nat} (some : 0 < count) :
    round cursor count =
      List.range' (cursor % count) (count - cursor % count) ++ List.range (cursor % count) := by
  have inside : cursor % count < count := Nat.mod_lt cursor some
  refine List.ext_getElem (by simp [round]; omega) fun step here there => ?_
  have within : step < count := by simpa [round] using here
  have place : (round cursor count)[step] = (cursor % count + step) % count := by
    simp [round, Nat.mod_add_mod]
  rw [place, List.getElem_append]
  split
  · rename_i early
    rw [List.length_range'] at early
    rw [List.getElem_range', Nat.one_mul, Nat.mod_eq_of_lt (by omega)]
  · rename_i late
    rw [List.length_range'] at late
    rw [List.getElem_range, List.length_range', Nat.mod_eq_sub_mod (by omega),
      Nat.mod_eq_of_lt (by omega)]
    omega

/-- Serve the assignment once around from the cursor on, as a machine does. -/
def checkedServe (cluster : Cluster) (client : Client) : Option (Option Message × Client) := do
  let places := round client.cursor client.assignment.length
  let (found, assignment) ←
    checkedInspectAt cluster client.settings.reportsEnd places client.assignment
  match found with
  | some (place, message) => pure (some message, { client with assignment, cursor := place + 1 })
  | none => pure (none, { client with assignment })

/-- An assignment with positions that fit is served right. -/
theorem checkedServe_eq (fits : cluster.Fits) {client : Client}
    (held : ∀ entry ∈ client.assignment, Width.int64.holds entry.position = true) :
    checkedServe cluster client = some (serve cluster client) := by
  unfold checkedServe serve
  dsimp only
  generalize start : client.cursor % client.assignment.length = place
  by_cases nothing : client.assignment = []
  · simp [nothing, round, checkedInspectAt, inspectUpTo]
  · have count : 0 < client.assignment.length := List.length_pos_iff.mpr nothing
    have inside : place < client.assignment.length := start ▸ Nat.mod_lt _ count
    have whole : client.assignment.take place ++ client.assignment.drop place = client.assignment :=
      List.take_append_drop _ _
    have heldBefore (entry : Assigned) (early : entry ∈ client.assignment.take place) :=
      held entry (List.mem_of_mem_take early)
    have heldAfter (entry : Assigned) (late : entry ∈ client.assignment.drop place) :=
      held entry (List.mem_of_mem_drop late)
    have first := checkedInspectAt_together fits client.settings.reportsEnd heldAfter
      (client.assignment.take place) [] (List.range place)
    have second (after : List Assigned) := checkedInspectAt_together fits
      client.settings.reportsEnd heldBefore [] after []
    have length : (client.assignment.take place).length = place := by simp; omega
    rw [List.append_nil, whole, length, List.length_drop] at first
    simp only [length, List.length_nil, List.append_nil, List.nil_append, Nat.zero_add,
      ← List.range_eq_range'] at second
    rw [round_eq count, start, first]
    cases inspectUpTo cluster client.settings.reportsEnd (client.assignment.drop place) with
    | mk found after =>
      cases found with
      | some answer => simp
      | none =>
        dsimp only
        rw [List.append_nil, second]
        cases inspectUpTo cluster client.settings.reportsEnd (client.assignment.take place) with
        | mk found before => cases found <;> rfl

end Client

end LogConsumer
