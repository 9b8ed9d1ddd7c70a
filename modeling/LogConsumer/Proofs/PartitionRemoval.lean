import LogConsumer.Proofs.PartitionSets

/-!
# What removal takes and what it leaves

A partition may be in a set more than once, and more than once in the list that is removed. Removal
matches the two key by key: of each key it takes the first entries, as many as there are on both
sides, and it hands back the targets of that key that were left over. Which places these are depends
on the two lists of keys alone (`placesBeyond`), so the rest of an entry plays no part.

Both sides follow one recursion. A target takes the first entry of its key off the set, which is to
say that one more entry of that key is taken (`beyond_eraseP`), and an entry of the set uses up the
first target of its key (`beyond_cons`).
-/
namespace LogConsumer.PartitionSet

/-- A change of a partition set. -/
inductive Change
  /-- Exactly these partitions are in the set. -/
  | replace (partitions : List TopicPartition)
  /-- The partitions are added at the end. -/
  | extend (partitions : List TopicPartition)
  /-- The first entry of each partition named leaves. -/
  | removeMatching (targets : List TopicPartition)
  /-- All partitions leave. -/
  | clear
  deriving DecidableEq, Repr

/-- The set after a change. -/
def Change.apply (set : PartitionSet) : Change → PartitionSet
  | .replace partitions => set.replace partitions
  | .extend partitions => set.extend partitions
  | .removeMatching targets => (set.removeMatching targets).1
  | .clear => set.clear

/-- A change leaves a set that is numbered. -/
theorem Numbered.change {set : PartitionSet} (numbered : set.Numbered) (change : Change) :
    (change.apply set).Numbered :=
  match change with
  | .replace _ => rfl
  | .extend partitions => numbered.extend partitions
  | .removeMatching targets => (numbered.removeMatching targets).1
  | .clear => rfl

/-- A run of changes leaves a set that is numbered. -/
theorem Numbered.changes {set : PartitionSet} (numbered : set.Numbered) (changes : List Change) :
    (changes.foldl Change.apply set).Numbered := by
  induction changes generalizing set with
  | nil => exact numbered
  | cons change changes ih => exact ih (numbered.change change)

/-! ## The places that are left -/

/-- The places of a list of keys that are not among the first of their key, where `taken` says how
many are the first ones. -/
def placesBeyond (taken : PartitionKey → Nat) (keys : List PartitionKey) : List Nat :=
  (keys.zipIdx.filter fun (key, place) => taken key ≤ (keys.take place).count key).map Prod.snd

/-- The entries that are not among the first of their key, in their order. -/
def beyond (taken : PartitionKey → Nat) (entries : List TopicPartition) : List TopicPartition :=
  (placesBeyond taken (entries.map TopicPartition.key)).filterMap fun place => entries[place]?

/-- One more of a key is taken. -/
def raised (taken : PartitionKey → Nat) (key : PartitionKey) : PartitionKey → Nat :=
  fun other => if other = key then taken other + 1 else taken other

/-- One less of a key is taken, if there is one. -/
def lowered (taken : PartitionKey → Nat) (key : PartitionKey) : PartitionKey → Nat :=
  fun other => if other = key then taken other - 1 else taken other

/-- A key in front counts for itself. -/
theorem count_cons_key (key other : PartitionKey) (keys : List PartitionKey) :
    (key :: keys).count other = keys.count other + if other = key then 1 else 0 := by
  rw [List.count_cons]
  by_cases same : other = key
  · simp [same]
  · simp [same, Ne.symm same]

/-- Where none of a key is taken there is none to use up. -/
theorem lowered_of_zero {taken : PartitionKey → Nat} {key : PartitionKey} (none : taken key = 0) :
    lowered taken key = taken := by
  funext other
  unfold lowered
  split
  · rename_i same
    rw [same, none]
  · rfl

/-- A key in front of a list is one more of it. -/
theorem count_cons_raised (key : PartitionKey) (keys : List PartitionKey) :
    (fun other => (key :: keys).count other) = raised (fun other => keys.count other) key := by
  funext other
  rw [count_cons_key, raised]
  split <;> rfl

/-- The first place is left where none of its key is taken; otherwise it uses up one of them. -/
theorem placesBeyond_cons (taken : PartitionKey → Nat) (key : PartitionKey)
    (keys : List PartitionKey) :
    placesBeyond taken (key :: keys) =
      (if taken key = 0 then [0] else []) ++
        (placesBeyond (lowered taken key) keys).map (· + 1) := by
  have later : ∀ other place,
      taken other ≤ ((key :: keys).take (place + 1)).count other ↔
        lowered taken key other ≤ (keys.take place).count other := by
    intro other place
    rw [List.take_succ_cons, count_cons_key, lowered]
    split <;> omega
  have rest : ((keys.zipIdx 0).map fun (other, place) => (other, place + 1)).filter
      (fun (other, place) => taken other ≤ ((key :: keys).take place).count other) =
      ((keys.zipIdx 0).filter fun (other, place) =>
        lowered taken key other ≤ (keys.take place).count other).map
          fun (other, place) => (other, place + 1) := by
    rw [List.filter_map]
    exact congrArg _ (List.filter_congr fun (other, place) _ => decide_eq_decide.mpr
      (later other place))
  unfold placesBeyond
  rw [List.zipIdx_cons, List.zipIdx_succ, List.filter_cons, rest]
  by_cases none : taken key = 0
  · simp [none]
  · simp [none]

/-- The first entry is left where none of its key is taken; otherwise it uses up one of them. -/
theorem beyond_cons (taken : PartitionKey → Nat) (tp : TopicPartition)
    (entries : List TopicPartition) :
    beyond taken (tp :: entries) =
      (if taken tp.key = 0 then [tp] else []) ++ beyond (lowered taken tp.key) entries := by
  unfold beyond
  rw [List.map_cons, placesBeyond_cons, List.filterMap_append, List.filterMap_map]
  congr 1
  split
  · rfl
  · rfl

/-- Where nothing is taken all entries are left. -/
theorem beyond_zero (entries : List TopicPartition) : beyond (fun _ => 0) entries = entries := by
  induction entries with
  | nil => rfl
  | cons tp entries ih =>
    rw [beyond_cons, lowered_of_zero rfl, ih]
    rfl

/-- Where one more of a key is taken, the first entry of that key goes before the others do. -/
theorem beyond_eraseP (taken : PartitionKey → Nat) (key : PartitionKey)
    (entries : List TopicPartition) :
    beyond (raised taken key) entries =
      beyond taken (entries.eraseP fun tp => tp.key = key) := by
  induction entries generalizing taken with
  | nil => rfl
  | cons tp entries ih =>
    rw [beyond_cons]
    by_cases here : tp.key = key
    · have back : lowered (raised taken key) key = taken := by
        funext other
        by_cases same : other = key <;> simp [lowered, raised, same]
      rw [List.eraseP_cons_of_pos (by simpa using here), here, back]
      simp [raised]
    · have apart : lowered (raised taken key) tp.key = raised (lowered taken tp.key) key := by
        funext other
        by_cases same : other = key
        · have differs : other ≠ tp.key := fun back => here (back.symm.trans same)
          simp [lowered, raised, same, Ne.symm here]
        · simp [lowered, raised, same]
      have first : raised taken key tp.key = taken tp.key := if_neg here
      rw [List.eraseP_cons_of_neg (by simpa using here), beyond_cons, first, apart, ih]

/-- No more of a key is taken than the entries that have it. -/
theorem beyond_min (taken : PartitionKey → Nat) (entries : List TopicPartition) :
    beyond (fun key => min (taken key) ((entries.map TopicPartition.key).count key)) entries =
      beyond taken entries := by
  induction entries generalizing taken with
  | nil => rfl
  | cons tp entries ih =>
    have fewer : lowered (fun key => min (taken key)
          (((tp :: entries).map TopicPartition.key).count key)) tp.key =
        fun key => min (lowered taken tp.key key)
          ((entries.map TopicPartition.key).count key) := by
      funext other
      rw [lowered, List.map_cons, count_cons_key, lowered]
      split <;> omega
    have first : min (taken tp.key) (((tp :: entries).map TopicPartition.key).count tp.key) = 0 ↔
        taken tp.key = 0 := by
      rw [List.map_cons, List.count_cons_self]
      omega
    rw [beyond_cons, beyond_cons, fewer, ih]
    simp only [first]

/-- Nothing is left where all entries of each key are taken. -/
theorem beyond_eq_nil {taken : PartitionKey → Nat} {entries : List TopicPartition}
    (all : ∀ key, (entries.map TopicPartition.key).count key ≤ taken key) :
    beyond taken entries = [] := by
  induction entries generalizing taken with
  | nil => rfl
  | cons tp entries ih =>
    have some : taken tp.key ≠ 0 := by
      have here := all tp.key
      rw [List.map_cons, List.count_cons_self] at here
      omega
    rw [beyond_cons, if_neg some, List.nil_append]
    refine ih fun key => ?_
    have here := all key
    rw [List.map_cons, count_cons_key] at here
    unfold lowered
    by_cases same : key = tp.key
    · rw [if_pos same] at here ⊢
      omega
    · rw [if_neg same] at here ⊢
      exact here

/-- Of the entries of one key the first ones are gone. -/
theorem filter_beyond (taken : PartitionKey → Nat) (entries : List TopicPartition)
    (key : PartitionKey) :
    ((beyond taken entries).filter fun tp => tp.key = key) =
      (entries.filter fun tp => tp.key = key).drop (taken key) := by
  induction entries generalizing taken with
  | nil => simp [beyond]
  | cons tp entries ih =>
    rw [beyond_cons, List.filter_append, ih]
    by_cases here : tp.key = key
    · subst here
      cases number : taken tp.key with
      | zero => simp [lowered, number]
      | succ more => simp [lowered, number]
    · have passed : lowered taken tp.key key = taken key := if_neg (Ne.symm here)
      rw [passed, List.filter_cons_of_neg (by simpa using here)]
      split
      · simp [here]
      · rfl

/-! ## Removal -/

/-- The targets use up the entries of the set, the first of each key first. -/
theorem removeMatching_entries (set : PartitionSet) (targets : List TopicPartition) :
    (set.removeMatching targets).1.entries =
      beyond (fun key => (targets.map TopicPartition.key).count key) set.entries := by
  induction targets generalizing set with
  | nil => exact (beyond_zero set.entries).symm
  | cons target targets ih =>
    rw [List.map_cons, count_cons_raised, beyond_eraseP, removeMatching, removeFirst?]
    by_cases inside : set.contains target.key = true
    · rw [if_pos inside]
      exact ih _
    · have absent : ∀ tp ∈ set.entries, ¬decide (tp.key = target.key) = true := by
        intro tp among same
        exact inside (List.any_eq_true.mpr ⟨tp, among, same⟩)
      rw [if_neg inside, List.eraseP_of_forall_not absent]
      exact ih set

/-- The entries of the set use up the targets, the first of each key first; the others are handed
back. -/
theorem removeMatching_unmatched (set : PartitionSet) (targets : List TopicPartition) :
    (set.removeMatching targets).2 = beyond (fun key => set.keys.count key) targets := by
  induction targets generalizing set with
  | nil => rfl
  | cons target targets ih =>
    rw [beyond_cons, removeMatching, removeFirst?]
    by_cases inside : set.contains target.key = true
    · have held : set.keys.count target.key ≠ 0 :=
        Nat.ne_of_gt (List.count_pos_iff.mpr (contains_iff.mp inside))
      have fewer : lowered (fun key => set.keys.count key) target.key = fun key =>
          ((set.entries.eraseP fun tp => tp.key = target.key).map TopicPartition.key).count
            key := by
        funext key
        rw [keys_eraseP, List.count_erase, lowered]
        change _ = set.keys.count key - _
        by_cases same : key = target.key
        · simp [same]
        · simp [same, Ne.symm same]
      rw [if_pos inside, if_neg held, fewer]
      exact ih _
    · have none : set.keys.count target.key = 0 :=
        List.count_eq_zero.mpr fun held => inside (contains_iff.mpr held)
      rw [if_neg inside, if_pos none, lowered_of_zero none]
      exact congrArg (target :: ·) (ih set)

/-- Removing a list is removing its first part and then the rest. -/
theorem removeMatching_append (set : PartitionSet) (first later : List TopicPartition) :
    set.removeMatching (first ++ later) =
      (((set.removeMatching first).1.removeMatching later).1,
        (set.removeMatching first).2 ++ ((set.removeMatching first).1.removeMatching later).2) := by
  induction first generalizing set with
  | nil => rfl
  | cons target first ih =>
    rw [List.cons_append, removeMatching, removeMatching]
    split
    · exact ih _
    · rw [ih set]
      rfl

/-- Where there is an entry to remove, the count has one to give up. -/
theorem Numbered.count_removeFirst? {set smaller : PartitionSet} {key : PartitionKey}
    (numbered : set.Numbered) (removed : set.removeFirst? key = some smaller) :
    smaller.count + 1 = set.count := by
  unfold removeFirst? at removed
  split at removed
  · rename_i inside
    obtain ⟨tp, among, _⟩ := List.any_eq_true.mp inside
    have some : 0 < set.entries.length := List.length_pos_of_mem among
    cases removed
    unfold Numbered at numbered
    dsimp only
    omega
  · cases removed

/-- After every run of changes from the empty set the count is the number of entries. Removal then
takes of each key the first entries, as many as there are both in the set and among the targets; it
leaves the others as they are, in their order, and it hands back the targets beyond those it
matched, in theirs. It works through the targets one by one, and where one of them matches there is
something to take off the count. -/
theorem exact_removal (changes : List Change) :
    let set := changes.foldl Change.apply {}
    set.count = set.entries.length ∧
    (∀ targets : List TopicPartition,
      let removal := set.removeMatching targets
      let targeted := targets.map TopicPartition.key
      let matched := fun key => min (set.keys.count key) (targeted.count key)
      removal.1.entries = beyond matched set.entries ∧ removal.2 = beyond matched targets ∧
      ∀ key,
        (removal.1.entries.filter fun tp => tp.key = key) =
          (set.entries.filter fun tp => tp.key = key).drop (matched key) ∧
        (removal.2.filter fun tp => tp.key = key) =
          (targets.filter fun tp => tp.key = key).drop (matched key)) ∧
    ∀ (first : List TopicPartition) (target : TopicPartition) (later : List TopicPartition),
      let midway := (set.removeMatching first).1
      (set.removeMatching (first ++ target :: later)).1 =
        (midway.removeMatching (target :: later)).1 ∧
      midway.count = midway.entries.length ∧
      ∀ smaller, midway.removeFirst? target.key = some smaller →
        smaller.count + 1 = midway.count := by
  intro set
  have fresh : ({} : PartitionSet).Numbered := rfl
  have numbered : set.Numbered := fresh.changes changes
  refine ⟨numbered, fun targets => ?_, fun first target later => ?_⟩
  · intro removal targeted matched
    have left : removal.1.entries = beyond matched set.entries := by
      have swapped : matched = fun key => min (targeted.count key) (set.keys.count key) :=
        funext fun key => Nat.min_comm _ _
      rw [swapped]
      exact (removeMatching_entries set targets).trans (beyond_min _ set.entries).symm
    have back : removal.2 = beyond matched targets :=
      (removeMatching_unmatched set targets).trans (beyond_min _ targets).symm
    refine ⟨left, back, fun key => ⟨?_, ?_⟩⟩
    · rw [left, filter_beyond]
    · rw [back, filter_beyond]
  · intro midway
    have counted : midway.Numbered := (numbered.removeMatching first).1
    refine ⟨?_, counted, fun smaller removed => counted.count_removeFirst? removed⟩
    rw [removeMatching_append]

/-- The second of two equal targets takes the second of two equal entries, and the count has one to
give up for it. -/
theorem exact_removal_twice :
    let entry : TopicPartition := { topic := "t", partition := 0 }
    let set := [Change.extend [entry, entry]].foldl Change.apply {}
    let midway := (set.removeMatching [entry]).1
    midway.removeFirst? entry.key = some {} ∧ PartitionSet.count {} + 1 = midway.count := by
  intro entry set midway
  have removed : midway.removeFirst? entry.key = some {} := by decide
  exact ⟨removed, ((exact_removal [.extend [entry, entry]]).2.2 [entry] entry []).2.2 _ removed⟩

/-- What was just added is removed again: every element of the list matches, and the count and the
keys are those of before. Where no partition that was added was in the set, so are the entries. -/
theorem removal_undoes_extension (set : PartitionSet) (partitions : List TopicPartition) :
    let undone := (set.extend partitions).removeMatching partitions
    undone.2 = [] ∧ undone.1.count = set.count ∧ undone.1.keys.Perm set.keys ∧
      ((∀ tp ∈ partitions, tp.key ∉ set.keys) → undone.1 = set) := by
  intro undone
  have all : (set.extend partitions).keys.Perm
      (partitions.map TopicPartition.key ++ set.keys) := by
    rw [keys, extend, List.map_append]
    exact List.perm_append_comm
  have counts : (set.extend partitions).count = partitions.length + set.count :=
    Nat.add_comm _ _
  have enough : ∀ key, (partitions.map TopicPartition.key).count key ≤
      (set.extend partitions).keys.count key := by
    intro key
    rw [all.count_eq, List.count_append]
    exact Nat.le_add_right _ _
  obtain ⟨keys, count⟩ := removeMatching_perm all counts
  refine ⟨?_, count, keys, fun apart => ?_⟩
  · exact (removeMatching_unmatched _ _).trans (beyond_eq_nil enough)
  · exact congrArg Prod.fst (removeMatching_extend apart)

/-- A partition that is added twice beside another one leaves that one as it was. -/
theorem removal_undoes_extension_apart :
    let held : TopicPartition := { topic := "t", partition := 0 }
    let added : TopicPartition := { topic := "t", partition := 1 }
    let set := PartitionSet.mk [held] 1
    (∀ tp ∈ [added, added], tp.key ∉ set.keys) ∧
      ((set.extend [added, added]).removeMatching [added, added]).1 = set :=
  ⟨by decide, (removal_undoes_extension _ _).2.2.2 (by decide)⟩

end LogConsumer.PartitionSet
