/-!
# Finite maps

A finite map held as its bindings in the order in which the keys were first bound, each key
once. `Table.find?_insert` is the law of a map: a binding changes the answer for its own key and
for no other.
-/
namespace LogConsumer

/-- Bindings of keys to values, each key bound once. -/
structure Table (κ : Type) (ν : Type) where
  /-- The bindings, in the order in which their keys were first bound. -/
  entries : List (κ × ν) := []
  /-- No key is bound twice. -/
  nodup : (entries.map Prod.fst).Nodup := by simp
  deriving DecidableEq, Repr

namespace Table

variable {κ ν : Type} [DecidableEq κ]

/-- The map that binds nothing. -/
def empty : Table κ ν := {}

instance : Inhabited (Table κ ν) := ⟨empty⟩

/-- The keys bound, oldest first. -/
def keys (table : Table κ ν) : List κ :=
  table.entries.map Prod.fst

/-- The value bound to a key. -/
def find? (table : Table κ ν) (key : κ) : Option ν :=
  (table.entries.find? fun entry => entry.1 = key).map Prod.snd

/-- The key is bound. -/
def contains (table : Table κ ν) (key : κ) : Bool :=
  (table.find? key).isSome

/-- The same bindings with the value of one key replaced. -/
private def rebind (key : κ) (value : ν) (entry : κ × ν) : κ × ν :=
  if entry.1 = key then (key, value) else entry

private theorem fst_rebind (key : κ) (value : ν) (entry : κ × ν) :
    (rebind key value entry).1 = entry.1 := by
  unfold rebind
  split <;> simp_all

/-- Bind a key to a value. A key bound before keeps its place. -/
def insert (table : Table κ ν) (key : κ) (value : ν) : Table κ ν :=
  if bound : key ∈ table.entries.map Prod.fst then
    { entries := table.entries.map (rebind key value)
      nodup := by
        have same : (Prod.fst ∘ rebind key value : κ × ν → κ) = Prod.fst :=
          funext (fst_rebind key value)
        rw [List.map_map, same]
        exact table.nodup }
  else
    { entries := table.entries ++ [(key, value)]
      nodup := by
        rw [List.map_append, List.nodup_append]
        refine ⟨table.nodup, by simp, ?_⟩
        intro left inLeft right inRight same
        simp only [List.map_cons, List.map_nil, List.mem_singleton] at inRight
        subst inRight same
        exact bound inLeft }

/-- The map of a list of bindings; the last binding of a key counts. -/
def ofList (bindings : List (κ × ν)) : Table κ ν :=
  bindings.foldl (fun table binding => table.insert binding.1 binding.2) empty

private theorem find?_map_rebind (key other : κ) (value : ν) (entries : List (κ × ν)) :
    (entries.map (rebind key value)).find? (fun entry => entry.1 = other) =
      (entries.find? fun entry => entry.1 = other).map (rebind key value) := by
  rw [List.find?_map]
  congr 2
  funext entry
  simp [fst_rebind]

/-- A key that some binding has is found. -/
private theorem find?_isSome (key : κ) (entries : List (κ × ν))
    (bound : key ∈ entries.map Prod.fst) :
    (entries.find? fun entry => entry.1 = key).isSome := by
  rw [List.find?_isSome]
  obtain ⟨entry, inside, same⟩ := List.mem_map.mp bound
  exact ⟨entry, inside, by simpa using same⟩

/-- A binding changes the answer for its own key and for no other. -/
theorem find?_insert (table : Table κ ν) (key other : κ) (value : ν) :
    (table.insert key value).find? other =
      if key = other then some value else table.find? other := by
  unfold insert
  split
  case isTrue bound =>
    simp only [find?, find?_map_rebind]
    by_cases same : key = other
    · subst same
      obtain ⟨entry, found⟩ := Option.isSome_iff_exists.mp (find?_isSome key _ bound)
      have here : entry.1 = key := by simpa using List.find?_some found
      simp [found, rebind, here]
    · cases found : table.entries.find? (fun entry => decide (entry.1 = other)) with
      | none => simp [same]
      | some entry =>
        have here : entry.1 = other := by simpa using List.find?_some found
        have differ : ¬ entry.1 = key := fun equal => same (equal.symm.trans here)
        simp [same, rebind, differ]
  case isFalse absent =>
    simp only [find?, List.find?_append]
    by_cases same : key = other
    · subst same
      have unbound : table.entries.find? (fun entry => decide (entry.1 = key)) = none := by
        rw [List.find?_eq_none]
        intro entry inside equal
        exact absent (List.mem_map.mpr ⟨entry, inside, by simpa using equal⟩)
      simp [unbound]
    · simp [same]

/-- The key just bound has its value. -/
@[simp] theorem find?_insert_self (table : Table κ ν) (key : κ) (value : ν) :
    (table.insert key value).find? key = some value := by
  simp [find?_insert]

/-- Binding a key that is bound replaces its value in place. -/
private theorem entries_insert_of_mem {table : Table κ ν} {key : κ}
    (bound : key ∈ table.entries.map Prod.fst) (value : ν) :
    (table.insert key value).entries = table.entries.map (rebind key value) := by
  rw [insert, dif_pos bound]

/-- Binding a key that is not bound adds it at the end. -/
private theorem entries_insert_of_not_mem {table : Table κ ν} {key : κ}
    (absent : key ∉ table.entries.map Prod.fst) (value : ν) :
    (table.insert key value).entries = table.entries ++ [(key, value)] := by
  rw [insert, dif_neg absent]

/-- Of two bindings of a key the later one counts, and nothing is left of the other. -/
theorem insert_insert (table : Table κ ν) (key : κ) (first second : ν) :
    (table.insert key first).insert key second = table.insert key second := by
  suffices same : ((table.insert key first).insert key second).entries =
      (table.insert key second).entries by
    cases left : (table.insert key first).insert key second
    cases right : table.insert key second
    simpa only [left, right, Table.mk.injEq] using same
  by_cases bound : key ∈ table.entries.map Prod.fst
  · have still : key ∈ (table.insert key first).entries.map Prod.fst := by
      have same : Prod.fst ∘ rebind key first = (Prod.fst : κ × ν → κ) :=
        funext (fst_rebind key first)
      rwa [entries_insert_of_mem bound, List.map_map, same]
    rw [entries_insert_of_mem still, entries_insert_of_mem bound, entries_insert_of_mem bound,
      List.map_map]
    refine List.map_congr_left fun entry _ => ?_
    by_cases own : entry.1 = key <;> simp [rebind, own]
  · have other (entry : κ × ν) (inside : entry ∈ table.entries) :
        rebind key second entry = id entry := by
      refine if_neg fun own => bound ?_
      rw [← own]
      exact List.mem_map_of_mem inside
    have now : key ∈ (table.insert key first).entries.map Prod.fst := by
      simp [entries_insert_of_not_mem bound]
    rw [entries_insert_of_mem now, entries_insert_of_not_mem bound,
      entries_insert_of_not_mem bound, List.map_append, List.map_congr_left other, List.map_id]
    simp [rebind]

/-- Binding keys that are not bound yet, one after the other, adds them at the end. -/
private theorem entries_foldl_insert (bindings : List (κ × ν)) (table : Table κ ν)
    (apart : ((table.entries ++ bindings).map Prod.fst).Nodup) :
    (bindings.foldl (fun table binding => table.insert binding.1 binding.2) table).entries =
      table.entries ++ bindings := by
  induction bindings generalizing table with
  | nil => simp
  | cons binding bindings ih =>
    have absent : binding.1 ∉ table.entries.map Prod.fst := by
      intro bound
      rw [List.map_append, List.nodup_append] at apart
      exact apart.2.2 _ bound _ (by simp) rfl
    have added := entries_insert_of_not_mem absent binding.2
    rw [List.foldl_cons, ih _ (by simpa [added] using apart), added]
    simp

/-- A map is made of its bindings. -/
theorem ofList_entries (table : Table κ ν) : ofList table.entries = table := by
  have same : (ofList table.entries).entries = table.entries := by
    have apart : (((empty : Table κ ν).entries ++ table.entries).map Prod.fst).Nodup := table.nodup
    have made := entries_foldl_insert table.entries empty apart
    exact made
  cases made : ofList table.entries
  cases table
  simpa only [made, Table.mk.injEq] using same

/-- The empty map binds nothing. -/
@[simp] theorem find?_empty (key : κ) : (empty : Table κ ν).find? key = none := rfl

end Table

end LogConsumer
