import LogConsumer.Proofs.Client.Frame
import LogConsumer.Proofs.Client.Placement

/-!
# Calls that leave a reading alone

Which calls leave the reading of a partition alone (`ClientCall.SparesReading`), and that its
positions then change by polling only; where a call does not mark its entries either
(`ClientCall.SparesMarks`), nothing of them changes but by polling.
-/
namespace LogConsumer.ClientCall

open Assigned Client

variable {key : PartitionKey}

/-- The call leaves the reading of a partition alone: it neither moves its position nor takes it
from the assignment, and does not shut the handle down. -/
def SparesReading (key : PartitionKey) : ClientCall → Prop
  | .seek tp _ => tp.key ≠ key
  | .incrementalUnassign partitions => ∀ tp ∈ partitions, tp.key ≠ key
  | .assign _ | .unassign | .subscribe _ | .unsubscribe | .close => False
  | _ => True

/-- Taking other partitions away leaves the entries of a partition. -/
theorem ofPartition_filter {partitions : List TopicPartition}
    (others : ∀ tp ∈ partitions, tp.key ≠ key) (entries : List Assigned) :
    ofPartition key (entries.filter fun entry => !partitions.any fun tp => entry.key = tp.key) =
      ofPartition key entries := by
  unfold ofPartition
  rw [List.filter_filter]
  apply List.filter_congr
  intro entry _
  by_cases here : entry.key = key
  · have kept : partitions.any (fun tp => decide (entry.key = tp.key)) = false := by
      rw [List.any_eq_false]
      intro tp inside same
      exact others tp inside ((of_decide_eq_true same).symm.trans here)
    rw [kept]
    simp
  · simp [here]

/-- Adding other partitions leaves the entries of a partition. -/
theorem ofPartition_extended {link : Link} {partitions : List TopicPartition}
    (others : ∀ tp ∈ partitions, tp.key ≠ key) :
    ofPartition key (extended link partitions).assignment =
      ofPartition key link.client.assignment := by
  have none : ofPartition key (assignedOfList link partitions) = [] := by
    rw [ofPartition, List.filter_eq_nil_iff]
    intro entry inside same
    have listed : entry.key ∈ partitions.map TopicPartition.key := by
      rw [← assignedOfList_key link]
      exact List.mem_map_of_mem inside
    obtain ⟨tp, inside, equal⟩ := List.mem_map.mp listed
    exact others tp inside (equal.trans (of_decide_eq_true same))
  unfold ofPartition at none ⊢
  rw [extended, List.filter_append, none, List.append_nil]

/-- The call marks no entry of a partition: it neither pauses nor resumes it and stores no offset
for it. -/
def SparesMarks (key : PartitionKey) : ClientCall → Prop
  | .pause partitions | .resume partitions | .storeOffsets partitions =>
    ∀ tp ∈ partitions, tp.key ≠ key
  | _ => True

/-- A call that leaves the reading of a partition alone and marks none of its entries changes them
only by polling. -/
theorem ofPartition_kept {call : ClientCall} (spares : call.SparesReading key)
    (unmarked : call.SparesMarks key) (silent : ∀ timeout, call ≠ .poll timeout) {link : Link}
    (assigned : key ∈ link.client.assignment.map Assigned.key) :
    ofPartition key (call.perform link).2.client.assignment =
      ofPartition key link.client.assignment := by
  let view (link : Link) : List Assigned := ofPartition key link.client.assignment
  have scripts : IgnoresScripts view := fun _ _ => rfl
  have whenSpared (spares : call.SparesClient) : Keeps view call.perform :=
    keeps_of_sparesClient scripts (fun _ _ => rfl) spares
  change view (call.perform link).2 = view link
  cases call with
  | close | subscribe | unsubscribe | assign | unassign => exact spares.elim
  | poll timeout => exact absurd rfl (silent timeout)
  | incrementalAssign partitions =>
    change view ((Client.incrementalAssign partitions).run link).2 = view link
    obtain ⟨_, refused⟩ | ⟨_, apart, placed⟩ := incrementalAssign_cases partitions link
    · rw [refused]
      rfl
    · rw [placed]
      have others : ∀ tp ∈ partitions, tp.key ≠ key :=
        fun tp inside same => apart tp inside (same ▸ assigned)
      exact ofPartition_extended others
  | incrementalUnassign partitions =>
    refine keeps_ofAction _ (keeps_incrementalUnassign scripts partitions fun link => ?_) link
    exact ofPartition_filter spares _
  | seek tp timeout =>
    refine keeps_ofAction _ (keeps_seek scripts tp fun link place entries moved => ?_) link
    exact ofPartition_updateFirst? spares (fun _ => by rfl) moved
  | pause partitions =>
    exact ofPartition_sweep (fun tp inside => setPaused_other (unmarked tp inside) true) _
  | resume partitions =>
    exact ofPartition_sweep (fun tp inside => setPaused_other (unmarked tp inside) false) _
  | storeOffsets partitions =>
    refine keeps_ofWriteBack _ (keeps_storeOffsets scripts partitions fun link => ?_) link
    exact ofPartition_sweep (fun tp inside => storeOffset_other (unmarked tp inside)) _
  | _ => exact whenSpared trivial link

/-- A call that leaves the reading of a partition alone moves its positions only by polling. -/
theorem positions_kept {call : ClientCall} (spares : call.SparesReading key)
    (silent : ∀ timeout, call ≠ .poll timeout) {link : Link}
    (assigned : key ∈ link.client.assignment.map Assigned.key) :
    (ofPartition key (call.perform link).2.client.assignment).map Assigned.position =
      (ofPartition key link.client.assignment).map Assigned.position := by
  have whenSteady (steady : call.IsSteady) :
      Keeps (fun link => (ofPartition key link.client.assignment).map Assigned.position)
        call.perform :=
    keeps_of_isSteady (fun _ _ => rfl) (fun _ _ => rfl) (fun _ _ same => positions_congr same key)
      steady
  cases call with
  | pause | resume | storeOffsets => exact whenSteady trivial link
  | _ =>
    have kept := ofPartition_kept spares trivial silent assigned
    exact congrArg (List.map Assigned.position) kept

end LogConsumer.ClientCall
