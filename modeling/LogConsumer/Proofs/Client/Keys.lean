import LogConsumer.Proofs.Client.Frame

/-!
# Keys of a client

Which partitions a client reads, and in which order. Only a few calls decide that; every other call
keeps the keys of a client that does not subscribe, a poll too, since such a client joins nothing.
-/
namespace LogConsumer

open Client Assigned

/-- The partitions read by a client that does not subscribe, in the order of their assignment. -/
def Client.ownKeys? (client : Client) : Option (List PartitionKey) :=
  if client.subscription = [] then some (client.assignment.map Assigned.key) else none

/-- A client has keys of its own if it does not subscribe. -/
theorem Client.ownKeys?_eq_some {client : Client} {keys : List PartitionKey} :
    client.ownKeys? = some keys ↔
      client.subscription = [] ∧ client.assignment.map Assigned.key = keys := by
  unfold ownKeys?
  split <;> simp [*]

/-- Serving the assignment keeps its keys. -/
theorem Client.serve_keys (cluster : Cluster) (client : Client) :
    (serve cluster client).2.assignment.map Assigned.key = client.assignment.map Assigned.key := by
  have passed {before after : List Assigned}
      (passed : List.Forall₂ (Passed cluster client.settings.reportsEnd) before after) :
      after.map Assigned.key = before.map Assigned.key := by
    induction passed with
    | nil => rfl
    | cons one _ ih => rw [List.map_cons, List.map_cons, one.key, ih]
  obtain ⟨_, all⟩ | ⟨message, before, entry, after, before', entry', after', _, whole, whole', here,
    earlier, later⟩ := serve_cases cluster client
  · exact passed all
  · have same := inspect_key cluster client.settings.reportsEnd entry
    rw [here] at same
    rw [whole, whole', List.map_append, List.map_append, List.map_cons, List.map_cons,
      passed earlier, passed later, same]

/-- Serving what a client reads keeps its own keys. -/
theorem Client.serve_ownKeys? (link : Link) :
    (serve link.cluster (joined link)).2.ownKeys? = link.client.ownKeys? := by
  have subscription : (joined link).subscription = link.client.subscription := by
    unfold joined
    dsimp only
    split <;> rfl
  unfold ownKeys?
  rw [serve_keys, serve_rest]
  dsimp only
  rw [subscription]
  split
  · rename_i unsubscribed
    rw [joined_of_unsubscribed unsubscribed]
  · rfl

namespace ClientCall

/-- The call does not say which partitions are read. -/
def SparesKeys : ClientCall → Prop
  | .close | .subscribe _ | .unsubscribe | .assign _ | .unassign | .incrementalAssign _
  | .incrementalUnassign _ => False
  | _ => True

/-- A call that does not say which partitions are read keeps the keys of a client. -/
theorem keeps_ownKeys? {call : ClientCall} (spares : call.SparesKeys) :
    Keeps (fun link => link.client.ownKeys?) call.perform := by
  have scripts : IgnoresScripts fun link => link.client.ownKeys? := fun _ _ => rfl
  have marked {link : Link} {entries : List Assigned}
      (same : entries.map Assigned.key = link.client.assignment.map Assigned.key) :
      ({ link.client with assignment := entries } : Client).ownKeys? = link.client.ownKeys? := by
    unfold ownKeys?
    rw [same]
  have whenSteady (steady : call.IsSteady) :
      Keeps (fun link => link.client.ownKeys?) call.perform := by
    refine keeps_of_isSteady scripts (fun _ _ => rfl) (fun link entries same => marked ?_) steady
    have keys := congrArg (List.map Prod.fst) same
    simpa [List.map_map, Function.comp_def] using keys
  cases call with
  | close | subscribe | unsubscribe | assign | unassign | incrementalAssign
  | incrementalUnassign => exact spares.elim
  | seek tp timeout =>
    refine keeps_ofAction _ (keeps_seek scripts tp fun link place entries moved => marked ?_)
    exact updateFirst?_map (fun _ => by rfl) moved
  | poll timeout =>
    refine .bind (keeps_poll timeout (fun _ _ _ _ => rfl) fun link _ => ?_) fun _ => .pure _
    exact serve_ownKeys? link
  | _ => exact whenSteady trivial

end ClientCall

end LogConsumer
