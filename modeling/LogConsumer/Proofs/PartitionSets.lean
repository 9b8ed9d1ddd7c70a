import Mathlib.Data.List.Nodup
import LogConsumer.PartitionSet

/-!
# Keys of partition sets

What the operations on a set do to its keys. Removal takes the first entry of each partition named,
so where no partition repeats it takes exactly the partitions named (`removeMatching_keys`). The
count of a set that is `Counted` stays the number of its entries, and so it does where partitions
repeat (`PartitionSet.Numbered`).
-/
namespace LogConsumer.PartitionSet

/-- The keys of the entries, in their order. -/
def keys (set : PartitionSet) : List PartitionKey :=
  set.entries.map TopicPartition.key

/-- No partition repeats, and the count is the number of entries. -/
structure Counted (set : PartitionSet) : Prop where
  /-- No partition repeats. -/
  distinct : set.keys.Nodup
  /-- The count is the number of entries. -/
  count : set.count = set.entries.length

/-- The set of partitions that do not repeat is counted. -/
theorem Counted.replace {partitions : List TopicPartition}
    (distinct : (partitions.map TopicPartition.key).Nodup) (set : PartitionSet) :
    (set.replace partitions).Counted :=
  ⟨distinct, rfl⟩

/-- A set is counted after it was extended by partitions that neither repeat nor were in it. -/
theorem Counted.extend {set : PartitionSet} (counted : set.Counted)
    {partitions : List TopicPartition} (distinct : (partitions.map TopicPartition.key).Nodup)
    (apart : ∀ tp ∈ partitions, tp.key ∉ set.keys) : (set.extend partitions).Counted := by
  constructor
  · rw [keys, PartitionSet.extend, List.map_append]
    refine List.Nodup.append counted.distinct distinct fun key here there => ?_
    obtain ⟨tp, inside, rfl⟩ := List.mem_map.mp there
    exact apart tp inside here
  · rw [PartitionSet.extend, counted.count, List.length_append]

/-- A set contains the partitions of its keys. -/
theorem contains_iff {set : PartitionSet} {key : PartitionKey} :
    set.contains key = true ↔ key ∈ set.keys := by
  simp [contains, keys]

/-- The keys of entries without the first entry of a partition are the keys without the first
occurrence of that partition. -/
theorem keys_eraseP (entries : List TopicPartition) (key : PartitionKey) :
    (entries.eraseP fun tp => tp.key = key).map TopicPartition.key =
      (entries.map TopicPartition.key).erase key := by
  induction entries with
  | nil => rfl
  | cons tp entries ih =>
    rw [List.map_cons]
    by_cases here : tp.key = key
    · rw [List.eraseP_cons_of_pos (by simpa using here), here, List.erase_cons_head]
    · rw [List.eraseP_cons_of_neg (by simpa using here), List.map_cons, ih,
        List.erase_cons_tail (by simpa using here)]

/-- Removal leaves entries of the set, in their order. -/
theorem removeMatching_sublist (set : PartitionSet) (targets : List TopicPartition) :
    (set.removeMatching targets).1.entries.Sublist set.entries := by
  induction targets generalizing set with
  | nil => exact .refl _
  | cons target targets ih =>
    rw [removeMatching, removeFirst?]
    by_cases inside : set.contains target.key = true
    · rw [if_pos inside]
      exact (ih _).trans List.eraseP_sublist
    · rw [if_neg inside]
      exact ih set

/-- The count is the number of entries; a partition may be among them more than once. -/
def Numbered (set : PartitionSet) : Prop :=
  set.count = set.entries.length

/-- A set that is extended goes on being numbered. -/
theorem Numbered.extend {set : PartitionSet} (numbered : set.Numbered)
    (partitions : List TopicPartition) : (set.extend partitions).Numbered := by
  unfold Numbered at numbered ⊢
  rw [PartitionSet.extend, numbered, List.length_append]

/-- Removal takes as many entries as partitions named that matched one, and goes on numbering
them. -/
theorem Numbered.removeMatching {set : PartitionSet} (numbered : set.Numbered)
    (targets : List TopicPartition) :
    (set.removeMatching targets).1.Numbered ∧
      (set.removeMatching targets).1.count + targets.length =
        set.count + (set.removeMatching targets).2.length ∧
      (set.removeMatching targets).2.length ≤ targets.length := by
  induction targets generalizing set with
  | nil => exact ⟨numbered, rfl, Nat.le_refl 0⟩
  | cons target targets ih =>
    rw [PartitionSet.removeMatching, removeFirst?]
    by_cases inside : set.contains target.key = true
    · obtain ⟨tp, among, same⟩ := List.any_eq_true.mp inside
      have fewer : (set.entries.eraseP fun tp => tp.key = target.key).length =
          set.entries.length - 1 := List.length_eraseP_of_mem among same
      have some : 0 < set.entries.length := List.length_pos_of_mem among
      have smaller : (PartitionSet.mk (set.entries.eraseP fun tp => tp.key = target.key)
          (set.count - 1)).Numbered := by
        unfold Numbered at numbered ⊢
        rw [fewer, numbered]
      obtain ⟨still, counts, few⟩ := ih smaller
      unfold Numbered at numbered
      rw [if_pos inside]
      dsimp only at counts few ⊢
      rw [List.length_cons]
      exact ⟨still, by omega, by omega⟩
    · obtain ⟨still, counts, few⟩ := ih numbered
      rw [if_neg inside]
      dsimp only
      rw [List.length_cons, List.length_cons]
      exact ⟨still, by omega, by omega⟩

/-- Removal takes from the count as many as it found. -/
theorem Numbered.count_removeMatching {set : PartitionSet} (numbered : set.Numbered)
    (targets : List TopicPartition) :
    let removed := targets.length - (set.removeMatching targets).2.length
    (set.removeMatching targets).1.count = set.count - removed ∧ removed ≤ set.count := by
  obtain ⟨_, counts, few⟩ := numbered.removeMatching targets
  dsimp only
  omega

/-- Removing a partition leaves the other keys and a set that is counted, and fails only where the
partition is not in the set. -/
theorem removeFirst?_keys {set : PartitionSet} (counted : set.Counted) (key : PartitionKey) :
    (set.removeFirst? key = none ∧ key ∉ set.keys) ∨
    ∃ smaller, set.removeFirst? key = some smaller ∧ smaller.Counted ∧
      smaller.keys = set.keys.filter fun other => other ≠ key := by
  unfold removeFirst?
  split
  · rename_i inside
    rw [contains_iff] at inside
    have erased : (set.entries.eraseP fun tp => tp.key = key).map TopicPartition.key =
        set.keys.filter fun other => other ≠ key := by
      rw [keys_eraseP]
      change set.keys.erase key = _
      rw [counted.distinct.erase_eq_filter]
      apply List.filter_congr
      intro other _
      by_cases same : other = key <;> simp [same]
    refine .inr ⟨_, rfl, ⟨?_, ?_⟩, erased⟩
    · rw [keys, erased]
      exact counted.distinct.filter _
    · obtain ⟨tp, among, same⟩ := List.mem_map.mp inside
      rw [counted.count]
      exact (List.length_eraseP_of_mem among (by simpa using same)).symm
  · rename_i absent
    rw [contains_iff] at absent
    exact .inl ⟨rfl, absent⟩

/-- Removing the partitions of a list leaves the keys that are not named, and a set that is
counted. -/
theorem removeMatching_keys {set : PartitionSet} (counted : set.Counted)
    (targets : List TopicPartition) :
    (set.removeMatching targets).1.Counted ∧
      (set.removeMatching targets).1.keys =
        set.keys.filter fun key => !targets.any fun tp => key = tp.key := by
  induction targets generalizing set with
  | nil =>
    refine ⟨counted, ?_⟩
    simp [removeMatching]
  | cons target targets ih =>
    obtain ⟨failed, absent⟩ | ⟨smaller, removed, less, keys⟩ :=
      removeFirst?_keys counted target.key
    · have skipped :
          (set.removeMatching (target :: targets)).1 = (set.removeMatching targets).1 := by
        rw [removeMatching, failed]
      obtain ⟨still, rest⟩ := ih counted
      rw [skipped, rest]
      refine ⟨still, List.filter_congr fun key inside => ?_⟩
      have differs : key ≠ target.key := fun same => absent (same ▸ inside)
      simp [differs]
    · have taken : set.removeMatching (target :: targets) = smaller.removeMatching targets := by
        rw [removeMatching, removed]
      obtain ⟨still, rest⟩ := ih less
      rw [taken, rest, keys, List.filter_filter]
      refine ⟨still, List.filter_congr fun key _ => ?_⟩
      simp [Bool.and_comm]

/-- What was just added is what is removed, where no partition that was added is in the set. -/
theorem removeMatching_extend {set : PartitionSet} {partitions : List TopicPartition}
    (apart : ∀ tp ∈ partitions, tp.key ∉ set.keys) :
    (set.extend partitions).removeMatching partitions = (set, []) := by
  induction partitions with
  | nil => simp [extend, removeMatching]
  | cons tp partitions ih =>
    have first : (set.extend (tp :: partitions)).removeFirst? tp.key =
        some (set.extend partitions) := by
      have inside : (set.extend (tp :: partitions)).contains tp.key = true :=
        contains_iff.mpr (by simp [keys, extend])
      have passed : ∀ entry ∈ set.entries, ¬decide (entry.key = tp.key) = true := by
        intro entry among same
        exact apart tp List.mem_cons_self (List.mem_map.mpr ⟨entry, among, by simpa using same⟩)
      rw [removeFirst?, if_pos inside]
      simp only [extend, List.eraseP_append_right _ passed, List.eraseP_cons, decide_true,
        List.length_cons, cond_true]
      rfl
    rw [removeMatching, first]
    exact ih fun other among => apart other (List.mem_cons_of_mem _ among)

/-- What was just added stays where an entry of its partition was in the set, for that one is
removed in its place. -/
theorem mem_removeMatching_extend {set : PartitionSet} {tp : TopicPartition}
    (held : tp.key ∈ set.keys) : tp ∈ ((set.extend [tp]).removeMatching [tp]).1.entries := by
  have inside : (set.extend [tp]).contains tp.key = true :=
    contains_iff.mpr (by simp [keys, extend])
  obtain ⟨entry, among, same⟩ := List.mem_map.mp held
  rw [removeMatching, removeFirst?, if_pos inside]
  change tp ∈ (set.entries ++ [tp]).eraseP fun other => other.key = tp.key
  rw [List.eraseP_append_left (by simpa using same) _ among]
  simp

/-- Where a set has the partitions named, each as often as it is named, removal takes them all and
leaves the other keys. -/
theorem removeMatching_perm {set : PartitionSet} {targets : List TopicPartition}
    {rest : List PartitionKey} {left : Nat}
    (all : set.keys.Perm (targets.map TopicPartition.key ++ rest))
    (count : set.count = targets.length + left) :
    (set.removeMatching targets).1.keys.Perm rest ∧
      (set.removeMatching targets).1.count = left := by
  induction targets generalizing set with
  | nil =>
    rw [List.length_nil, Nat.zero_add] at count
    exact ⟨all, count⟩
  | cons target targets ih =>
    have inside : target.key ∈ set.keys := all.mem_iff.mpr (by simp)
    rw [removeMatching, removeFirst?, if_pos (contains_iff.mpr inside)]
    apply ih
    · rw [keys, keys_eraseP]
      have erased := all.erase target.key
      rwa [List.map_cons, List.cons_append, List.erase_cons_head] at erased
    · change set.count - 1 = _
      rw [count, List.length_cons]
      omega

end LogConsumer.PartitionSet
