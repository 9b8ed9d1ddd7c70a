import LogConsumer.Client.Offsets

/-!
# Entries of an assignment

The operations that change entries in place find the first entry of a partition, change it and
leave the order alone. What such a change does not touch of any entry, `updateFirst?_map`, it does
not touch of the assignment; and a change to another partition leaves the entries of a partition
as they are.
-/
namespace LogConsumer

namespace Assigned

/-- The entries of a partition. -/
def ofPartition (key : PartitionKey) (entries : List Assigned) : List Assigned :=
  entries.filter fun entry => entry.key = key

/-- A partition without an entry is not found. -/
theorem find?_eq_none_iff {entries : List Assigned} {key : PartitionKey} :
    find? entries key = none ↔ key ∉ entries.map Assigned.key := by
  simp [find?, List.find?_eq_none]

/-- Where no partition repeats, an entry is the only one of its partition. -/
theorem ofPartition_of_mem {entries : List Assigned} (distinct : (entries.map key).Nodup)
    {entry : Assigned} (inside : entry ∈ entries) : ofPartition entry.key entries = [entry] := by
  induction entries with
  | nil => contradiction
  | cons head entries ih =>
    rw [List.map_cons, List.nodup_cons] at distinct
    obtain ⟨apart, distinct⟩ := distinct
    rcases List.mem_cons.mp inside with rfl | later
    · have none : ofPartition entry.key entries = [] := by
        rw [ofPartition, List.filter_eq_nil_iff]
        intro other there same
        exact apart (List.mem_map.mpr ⟨other, there, by simpa using same⟩)
      rw [ofPartition, List.filter_cons_of_pos (by simp), ← ofPartition, none]
    · have differ : head.key ≠ entry.key := by
        intro same
        exact apart (same ▸ List.mem_map_of_mem later)
      rw [ofPartition, List.filter_cons_of_neg (by simpa using differ)]
      exact ih distinct later

/-- Where no partition repeats, the entries of a partition are the one that is found. -/
theorem ofPartition_eq_toList {entries : List Assigned} (distinct : (entries.map key).Nodup)
    {key : PartitionKey} : ofPartition key entries = (find? entries key).toList := by
  cases found : find? entries key with
  | none =>
    rw [ofPartition, Option.toList_none, List.filter_eq_nil_iff]
    intro entry inside same
    exact find?_eq_none_iff.mp found (List.mem_map.mpr ⟨entry, inside, by simpa using same⟩)
  | some entry =>
    have own : entry.key = key := by simpa using List.find?_some found
    rw [Option.toList_some, ← own, ofPartition_of_mem distinct (List.mem_of_find?_eq_some found)]

/-- The only entry of a partition is an entry of it, and assigned. -/
theorem mem_of_sole {key : PartitionKey} {entries : List Assigned} {entry : Assigned}
    (sole : ofPartition key entries = [entry]) : entry ∈ entries ∧ entry.key = key := by
  have inside : entry ∈ ofPartition key entries := by simp [sole]
  simpa using List.mem_filter.mp inside

/-- A partition that has one entry is assigned. -/
theorem assigned_of_sole {key : PartitionKey} {entries : List Assigned} {entry : Assigned}
    (sole : ofPartition key entries = [entry]) : key ∈ entries.map Assigned.key := by
  obtain ⟨inside, own⟩ := mem_of_sole sole
  exact List.mem_map.mpr ⟨entry, inside, own⟩

/-- What a change leaves of an entry of the partition, it leaves of all entries. -/
theorem updateFirst?_map {α : Type} {aspect : Assigned → α} {key : PartitionKey}
    {change : Assigned → Assigned} (same : ∀ entry, aspect (change entry) = aspect entry)
    {entries changed : List Assigned} (found : updateFirst? key change entries = some changed) :
    changed.map aspect = entries.map aspect := by
  induction entries generalizing changed with
  | nil => contradiction
  | cons entry entries ih =>
    unfold updateFirst? at found
    split at found
    · cases found
      rw [List.map_cons, List.map_cons, same]
    · obtain ⟨rest, there, rfl⟩ := Option.map_eq_some_iff.mp found
      rw [List.map_cons, List.map_cons, ih there]

/-- A change to one partition leaves the entries of another. -/
theorem ofPartition_updateFirst? {key other : PartitionKey} (apart : other ≠ key)
    {change : Assigned → Assigned} (same : ∀ entry, (change entry).key = entry.key)
    {entries changed : List Assigned} (found : updateFirst? other change entries = some changed) :
    ofPartition key changed = ofPartition key entries := by
  induction entries generalizing changed with
  | nil => contradiction
  | cons entry entries ih =>
    unfold updateFirst? at found
    split at found
    · rename_i here
      cases found
      simp [ofPartition, same, here, apart]
    · obtain ⟨rest, there, rfl⟩ := Option.map_eq_some_iff.mp found
      have kept := ih there
      unfold ofPartition at kept ⊢
      rw [List.filter_cons, List.filter_cons, kept]

/-- A partition with an entry is found to be changed. -/
theorem exists_updateFirst? {key : PartitionKey} (change : Assigned → Assigned)
    {entries : List Assigned} (assigned : key ∈ entries.map Assigned.key) :
    ∃ changed, updateFirst? key change entries = some changed := by
  induction entries with
  | nil => contradiction
  | cons entry entries ih =>
    unfold updateFirst?
    split
    · exact ⟨_, rfl⟩
    · rename_i other
      obtain here | later := List.mem_cons.mp assigned
      · exact absurd here.symm other
      · obtain ⟨changed, found⟩ := ih later
        exact ⟨entry :: changed, by rw [found]; rfl⟩

/-- A partition without an entry is not found to be changed. -/
theorem updateFirst?_eq_none {key : PartitionKey} (change : Assigned → Assigned)
    {entries : List Assigned} (absent : key ∉ entries.map Assigned.key) :
    updateFirst? key change entries = none := by
  induction entries with
  | nil => rfl
  | cons entry entries ih =>
    rw [List.map_cons, List.mem_cons, not_or] at absent
    rw [updateFirst?, if_neg (Ne.symm absent.1), ih absent.2]
    rfl

/-- A change to a partition that has one entry changes that entry. -/
theorem ofPartition_updateFirst?_own {key : PartitionKey} {change : Assigned → Assigned}
    (same : ∀ entry, (change entry).key = entry.key) {entries changed : List Assigned}
    {entry : Assigned} (sole : ofPartition key entries = [entry])
    (found : updateFirst? key change entries = some changed) :
    ofPartition key changed = [change entry] := by
  induction entries generalizing changed with
  | nil => contradiction
  | cons head entries ih =>
    unfold updateFirst? at found
    unfold ofPartition at sole ih ⊢
    split at found
    · rename_i here
      cases found
      rw [List.filter_cons_of_pos (by simpa using here), List.cons.injEq] at sole
      rw [List.filter_cons_of_pos (by simpa [same] using here), sole.1, sole.2]
    · rename_i other
      obtain ⟨rest, there, rfl⟩ := Option.map_eq_some_iff.mp found
      rw [List.filter_cons_of_neg (by simpa using other)] at sole
      rw [List.filter_cons_of_neg (by simpa using other)]
      exact ih sole there

/-- The keys and positions of the entries decide the positions of a partition. -/
theorem positions_congr {left right : List Assigned}
    (same : (left.map fun entry => (entry.key, entry.position)) =
      right.map fun entry => (entry.key, entry.position)) (key : PartitionKey) :
    (ofPartition key left).map position = (ofPartition key right).map position := by
  have spread (entries : List Assigned) : (ofPartition key entries).map position =
      ((entries.map fun entry => (entry.key, entry.position)).filter
        fun place => place.1 = key).map Prod.snd := by
    simp [ofPartition, List.filter_map, Function.comp_def]
  rw [spread, spread, same]

end Assigned

namespace Client

open Assigned

/-- What no visit changes of any entry, running through a list does not change. -/
theorem sweep_map {α : Type} {aspect : Assigned → α}
    {visit : TopicPartition → List Assigned → TopicPartition × List Assigned}
    (same : ∀ tp entries, (visit tp entries).2.map aspect = entries.map aspect)
    (partitions : List TopicPartition) (entries : List Assigned) :
    (sweep visit partitions entries).2.map aspect = entries.map aspect := by
  induction partitions generalizing entries with
  | nil => rfl
  | cons tp partitions ih => exact (ih _).trans (same tp entries)

/-- What every visit leaves of a partition, running through a list leaves of it. -/
theorem ofPartition_sweep {key : PartitionKey}
    {visit : TopicPartition → List Assigned → TopicPartition × List Assigned}
    {partitions : List TopicPartition}
    (same : ∀ tp ∈ partitions, ∀ entries,
      ofPartition key (visit tp entries).2 = ofPartition key entries) (entries : List Assigned) :
    ofPartition key (sweep visit partitions entries).2 = ofPartition key entries := by
  induction partitions generalizing entries with
  | nil => rfl
  | cons tp partitions ih =>
    obtain ⟨first, rest⟩ := List.forall_mem_cons.mp same
    exact (ih rest _).trans (first entries)

/-- Pausing or resuming a partition marks its first entry; it fails where there is none. -/
theorem setPaused_cases (paused : Bool) (tp : TopicPartition) (entries : List Assigned) :
    (tp.key ∈ entries.map Assigned.key ∧ ∃ changed,
      updateFirst? tp.key (fun entry => { entry with paused }) entries = some changed ∧
      setPaused paused tp entries = ({ tp with error := .noError }, changed)) ∨
    (tp.key ∉ entries.map Assigned.key ∧
      setPaused paused tp entries = ({ tp with error := .unknownPartition }, entries)) := by
  unfold setPaused
  by_cases assigned : tp.key ∈ entries.map Assigned.key
  · obtain ⟨changed, found⟩ := exists_updateFirst? (fun entry => { entry with paused }) assigned
    rw [found]
    exact .inl ⟨assigned, changed, rfl, rfl⟩
  · rw [updateFirst?_eq_none _ assigned]
    exact .inr ⟨assigned, rfl⟩

/-- Pausing or resuming a partition leaves the entries of another. -/
theorem setPaused_other {key : PartitionKey} {tp : TopicPartition} (other : tp.key ≠ key)
    (paused : Bool) (entries : List Assigned) :
    ofPartition key (setPaused paused tp entries).2 = ofPartition key entries := by
  obtain ⟨_, changed, found, result⟩ | ⟨_, result⟩ := setPaused_cases paused tp entries
  · rw [result]
    exact ofPartition_updateFirst? other (fun _ => by rfl) found
  · rw [result]

/-- Pausing and resuming leave everything of an entry but its pause. -/
theorem setPaused_map {α : Type} {aspect : Assigned → α} {paused : Bool}
    (same : ∀ entry, aspect { entry with paused } = aspect entry) (tp : TopicPartition)
    (entries : List Assigned) :
    (setPaused paused tp entries).2.map aspect = entries.map aspect := by
  unfold setPaused
  split
  · rename_i changed found
    exact updateFirst?_map same found
  · rfl

/-- Storing an offset leaves everything of an entry but what it stores and its leader epoch. -/
theorem storeOffset_map {α : Type} {aspect : Assigned → α}
    (same : ∀ entry stored leaderEpoch, aspect { entry with stored, leaderEpoch } = aspect entry)
    (tp : TopicPartition) (entries : List Assigned) :
    (storeOffset tp entries).2.map aspect = entries.map aspect := by
  unfold storeOffset
  split
  · rfl
  · rfl
  · rename_i offset _ _
    dsimp only
    cases found : updateFirst? tp.key
        (fun entry => { entry with
          stored := some offset, leaderEpoch := tp.leaderEpoch <|> entry.leaderEpoch })
        entries with
    | none => rfl
    | some changed => exact updateFirst?_map (fun entry => same entry _ _) found

/-- Storing an offset for a partition leaves the entries of another. -/
theorem storeOffset_other {key : PartitionKey} {tp : TopicPartition} (other : tp.key ≠ key)
    (entries : List Assigned) :
    ofPartition key (storeOffset tp entries).2 = ofPartition key entries := by
  unfold storeOffset
  split
  · rfl
  · rfl
  · rename_i offset _ _
    dsimp only
    cases found : updateFirst? tp.key
        (fun entry => { entry with
          stored := some offset, leaderEpoch := tp.leaderEpoch <|> entry.leaderEpoch })
        entries with
    | none => rfl
    | some changed => exact ofPartition_updateFirst? other (fun _ => by rfl) found

end Client

end LogConsumer
