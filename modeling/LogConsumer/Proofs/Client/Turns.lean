import LogConsumer.Proofs.Client.Keys
import LogConsumer.Proofs.Client.Rounds

/-!
# Turns of a poll

A poll inspects the entries in cyclic order from the cursor on. How far an entry is ahead of the
cursor, `Client.ahead`, is the number of entries that are inspected before it, wherever the cursor
stands and even where it lies past the end. A poll serves the first entry that is ready, which is no
further ahead than any other that is (`FirstReady.ahead_le`); so an entry that is ready is served,
or another is served instead of it, and then it has come nearer (`ahead_served`).
-/
namespace LogConsumer

namespace Client

/-- How many entries are inspected before the one at a place of the assignment, when the next poll
goes around. -/
def ahead (client : Client) (place : Nat) : Nat :=
  let start := client.cursor % client.assignment.length
  if start ≤ place then place - start else place + client.assignment.length - start

/-- Less than the whole assignment is inspected before any of its entries. -/
theorem ahead_lt {client : Client} {place : Nat} (inside : place < client.assignment.length) :
    client.ahead place < client.assignment.length := by
  have start : client.cursor % client.assignment.length < client.assignment.length :=
    Nat.mod_lt _ (Nat.zero_lt_of_lt inside)
  unfold ahead
  dsimp only
  split <;> omega

/-- The entry that is inspected after as many others as are ahead of it is the entry itself. -/
theorem placeAfter_ahead {client : Client} {place : Nat}
    (inside : place < client.assignment.length) :
    client.placeAfter (client.ahead place) = place := by
  have start : client.cursor % client.assignment.length < client.assignment.length :=
    Nat.mod_lt _ (Nat.zero_lt_of_lt inside)
  rw [placeAfter, ← Nat.mod_add_mod, ahead]
  split
  · rename_i before
    rw [Nat.add_sub_cancel' before, Nat.mod_eq_of_lt inside]
  · have around : client.cursor % client.assignment.length +
        (place + client.assignment.length - client.cursor % client.assignment.length) =
          place + client.assignment.length := by omega
    rw [around, Nat.add_mod_right, Nat.mod_eq_of_lt inside]

/-- As many others are ahead of an entry as are inspected before it. -/
theorem ahead_placeAfter {client : Client} {inspected : Nat}
    (within : inspected < client.assignment.length) :
    client.ahead (client.placeAfter inspected) = inspected := by
  have start : client.cursor % client.assignment.length < client.assignment.length :=
    Nat.mod_lt _ (Nat.zero_lt_of_lt within)
  have place : client.placeAfter inspected =
      if client.cursor % client.assignment.length + inspected < client.assignment.length then
        client.cursor % client.assignment.length + inspected
      else client.cursor % client.assignment.length + inspected - client.assignment.length := by
    rw [placeAfter, ← Nat.mod_add_mod]
    split
    · exact Nat.mod_eq_of_lt (by assumption)
    · rw [Nat.mod_eq_sub_mod (by omega), Nat.mod_eq_of_lt (by omega)]
  rw [place, ahead]
  split_ifs <;> omega

/-- A client that has just served another entry, which was no further ahead, inspects fewer entries
before the one at a place than it did. -/
theorem ahead_served {client client' : Client} {place other : Nat}
    (inside : place < client.assignment.length) (served : other < client.assignment.length)
    (apart : other ≠ place) (nearer : client.ahead other ≤ client.ahead place)
    (size : client'.assignment.length = client.assignment.length)
    (cursor : client'.cursor = other + 1) : client'.ahead place < client.ahead place := by
  have start : client.cursor % client.assignment.length < client.assignment.length :=
    Nat.mod_lt _ (Nat.zero_lt_of_lt inside)
  have restart : (other + 1) % client.assignment.length =
      if other + 1 = client.assignment.length then 0 else other + 1 := by
    split
    · rename_i last
      rw [last, Nat.mod_self]
    · exact Nat.mod_eq_of_lt (by omega)
  unfold ahead at nearer ⊢
  rw [size, cursor, restart]
  dsimp only at nearer ⊢
  generalize client.cursor % client.assignment.length = origin at start nearer ⊢
  split_ifs at nearer ⊢ <;> omega

/-- The first entry that is ready in the cyclic order is no further ahead than any that is. -/
theorem FirstReady.ahead_le {client : Client} {cluster : Cluster} {before after : List Assigned}
    {first entry : Assigned} (found : client.FirstReady cluster before first after) {place : Nat}
    (here : client.assignment[place]? = some entry)
    (ready : entry.IsReady cluster client.settings.reportsEnd) :
    client.ahead (client.placeAfter before.length) ≤ client.ahead place := by
  obtain ⟨inside, _⟩ := List.getElem?_eq_some_iff.mp here
  have size := congrArg List.length found.order
  rw [List.length_rotate, List.length_append, List.length_cons] at size
  rw [ahead_placeAfter (by omega)]
  by_contra nearer
  have early : client.ahead place < before.length := Nat.lt_of_not_le nearer
  have inspected : (client.assignment.rotate client.cursor)[client.ahead place]? = some entry := by
    rw [List.getElem?_rotate (ahead_lt inside), Nat.add_comm, ← placeAfter, placeAfter_ahead inside,
      here]
  rw [found.order, List.getElem?_append_left early] at inspected
  exact found.unready entry (List.mem_of_getElem? inspected) ready

/-- A poll that is not scripted to fail, of an open handle that reads an entry which is ready,
answers with what is due at an entry that is no further ahead, and leaves the cursor just past that
entry. -/
theorem poll_turn {link : Link} {place : Nat} {entry : Assigned} (timeout : Nat)
    (opened : link.client.closed = false) (unscripted : (link.cluster.takeFault .poll).1 = none)
    (here : link.client.assignment[place]? = some entry)
    (ready : entry.IsReady link.cluster link.client.settings.reportsEnd) :
    ∃ other found, link.client.assignment[other]? = some found ∧
      link.client.ahead other ≤ link.client.ahead place ∧
      (poll timeout link).1.message = found.due link.cluster ∧
      (poll timeout link).2.client.cursor = other + 1 := by
  have inside : entry ∈ link.client.assignment := List.mem_of_getElem? here
  rw [poll_served opened unscripted, joined_of_assigned (List.ne_nil_of_mem inside)]
  obtain ⟨unready, _⟩ | ⟨before, found, after, _, first, _, served⟩ :=
    serve_round link.cluster link.client
  · exact absurd ready (unready entry inside)
  · rw [served]
    exact ⟨_, found, first.at_place, first.ahead_le here ready, rfl, rfl⟩

end Client

end LogConsumer
