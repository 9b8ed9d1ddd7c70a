import LogConsumer.Proofs.Client.Lookups
import LogConsumer.Proofs.Client.Storing

/-!
# Errors that a list carries in

A list that a call writes back may have been written by a call before, so its entries may carry
errors that are none of the present call's. No call goes by them: what it answers as a whole, the
offsets it writes and the link it leaves are the same for lists that are `Alike`, which differ in
their errors alone. The errors it writes are its own if the call `Rewrites` its list
(`primitive_cleared`). A call that is refused leaves the list as it came, and so the errors in it,
and the look-up of committed offsets does even where it succeeds (`primitive_kept`).
-/
namespace LogConsumer

namespace TopicPartition

/-- The partition without the outcome of a call. -/
def cleared (tp : TopicPartition) : TopicPartition :=
  { tp with error := .noError }

/-- The lists are the same but for the errors of their entries. -/
def Alike (left right : List TopicPartition) : Prop :=
  left.map cleared = right.map cleared

/-- Whether lists are the same but for their errors can be decided. -/
instance (left right : List TopicPartition) : Decidable (Alike left right) :=
  inferInstanceAs (Decidable (left.map cleared = right.map cleared))

/-- What does not look at errors gives the same for lists that are alike. -/
theorem Alike.map {α : Type} {left right : List TopicPartition} (alike : Alike left right)
    {gives : TopicPartition → α} (blind : ∀ tp, gives tp.cleared = gives tp) :
    left.map gives = right.map gives := by
  have through (partitions : List TopicPartition) :
      partitions.map gives = (partitions.map cleared).map gives := by
    rw [List.map_map]
    exact List.map_congr_left fun tp _ => (blind tp).symm
  rw [through left, through right, alike]

end TopicPartition

open TopicPartition

/-- The calls that write their list back. -/
inductive ListCall where
  /-- Committed offsets are looked up. -/
  | committed (timeout : Nat)
  /-- Positions are read. -/
  | position
  /-- Partitions are paused. -/
  | pause
  /-- Partitions are resumed. -/
  | resume
  /-- Offsets are stored. -/
  | storeOffsets
  /-- Offsets are looked up by time. -/
  | offsetsForTimes (timeout : Nat)
  deriving DecidableEq, Repr

namespace ListCall

/-- The call with its list. -/
def on (partitions : List TopicPartition) : ListCall → ClientCall
  | committed timeout => .committed partitions timeout
  | position => .position partitions
  | pause => .pause partitions
  | resume => .resume partitions
  | storeOffsets => .storeOffsets partitions
  | offsetsForTimes timeout => .offsetsForTimes partitions timeout

/-- What the client does for the call. -/
def primitive : ListCall → Client.WriteBack
  | committed _ => Client.committed
  | position => Client.position
  | pause => Client.pause
  | resume => Client.resume
  | storeOffsets => Client.storeOffsets
  | offsetsForTimes _ => Client.offsetsForTimes

/-- The call writes the error of every entry of its list where it is let through; only the look-up
of committed offsets does not. -/
def Renews : ListCall → Prop
  | committed _ => False
  | _ => True

/-- The call writes the error of every entry of its list: it is one that does, and it is let
through. -/
def Rewrites (link : Link) : ListCall → Prop
  | committed _ => False
  | position | pause | resume => True
  | storeOffsets => (link.cluster.takeFault .offsetsStore).1 = none
  | offsetsForTimes _ => (link.cluster.takeFault .offsetsForTimes).1 = none

/-- A call answers with its outcome and the list written back. -/
theorem perform_eq (call : ListCall) (partitions : List TopicPartition) (link : Link) :
    (call.on partitions).perform link =
      ({ outcome := (call.primitive partitions link).1.1.map fun _ => .done
         written := some (call.primitive partitions link).1.2 },
        (call.primitive partitions link).2) := by
  cases call <;> rfl

end ListCall

namespace Client

/-- A visit of an entry that does not look at its error runs through a list whatever its errors. -/
theorem sweep_cleared {visit : TopicPartition → List Assigned → TopicPartition × List Assigned}
    (blind : ∀ tp, visit tp.cleared = visit tp) (partitions : List TopicPartition)
    (entries : List Assigned) :
    sweep visit (partitions.map cleared) entries = sweep visit partitions entries := by
  induction partitions generalizing entries with
  | nil => rfl
  | cons tp partitions ih =>
    have rest := ih (visit tp entries).2
    rw [List.map_cons, sweep, sweep, blind]
    dsimp only
    rw [rest]

/-- A partition is paused or resumed whatever the error of the entry. -/
theorem setPaused_cleared (paused : Bool) (tp : TopicPartition) :
    setPaused paused tp.cleared = setPaused paused tp :=
  rfl

/-- An offset is stored whatever the error of the entry. -/
theorem storeOffset_cleared (tp : TopicPartition) : storeOffset tp.cleared = storeOffset tp :=
  rfl

end Client

namespace Client

/-- A list that is run through leaves the same, whatever its errors. -/
theorem sweepAssignment_cleared
    {visit : TopicPartition → List Assigned → TopicPartition × List Assigned}
    (blind : ∀ tp, visit tp.cleared = visit tp) (partitions : List TopicPartition) :
    sweepAssignment visit (partitions.map cleared) = sweepAssignment visit partitions := by
  unfold sweepAssignment
  simp only [sweep_cleared blind]

/-- Offsets are stored whatever the errors of the list, where the call is let through. -/
theorem storeOffsets_cleared {link : Link}
    (unscripted : (link.cluster.takeFault .offsetsStore).1 = none)
    (partitions : List TopicPartition) :
    storeOffsets (partitions.map cleared) link = storeOffsets partitions link := by
  unfold storeOffsets
  rw [run_then, run_then, takeFault_ok unscripted]
  dsimp only
  rw [sweepAssignment_cleared storeOffset_cleared]

end Client

namespace ListCall

/-- A call that rewrites its list does as it does for the list without its errors. -/
theorem primitive_cleared {call : ListCall} {link : Link} (rewrites : call.Rewrites link)
    (partitions : List TopicPartition) :
    call.primitive (partitions.map cleared) link = call.primitive partitions link := by
  cases call with
  | committed timeout => exact rewrites.elim
  | position =>
    have same : (partitions.map cleared).map (Client.positionOf link.client.assignment) =
        partitions.map (Client.positionOf link.client.assignment) := by
      rw [List.map_map]
      rfl
    exact Prod.ext (Prod.ext rfl same) rfl
  | pause =>
    change Client.pause _ link = Client.pause _ link
    unfold Client.pause
    rw [Client.sweepAssignment_cleared (Client.setPaused_cleared true)]
  | resume =>
    change Client.resume _ link = Client.resume _ link
    unfold Client.resume
    rw [Client.sweepAssignment_cleared (Client.setPaused_cleared false)]
  | storeOffsets => exact Client.storeOffsets_cleared rewrites partitions
  | offsetsForTimes timeout =>
    change Client.offsetsForTimes _ link = Client.offsetsForTimes _ link
    have unscripted : (link.cluster.takeFault .offsetsForTimes).1 = none := rewrites
    rw [Client.offsetsForTimes_run, Client.offsetsForTimes_run, unscripted]
    dsimp only
    rw [List.map_map]
    rfl

/-- A call that does not rewrite its list writes nothing but offsets, and it finds those by the key
and the offset of each entry. -/
theorem primitive_kept {call : ListCall} {link : Link} (keeps : ¬call.Rewrites link) :
    ∃ (outcome : Except ClientError Unit) (place : PartitionKey → Offset → Offset) (after : Link),
      ∀ partitions, call.primitive partitions link =
        ((outcome, partitions.map fun tp => { tp with offset := place tp.key tp.offset }),
          after) := by
  have unwritten (partitions : List TopicPartition) :
      (partitions.map fun tp => { tp with offset := tp.offset }) = partitions :=
    List.map_id _
  cases call with
  | committed timeout =>
    change ∃ outcome place after, ∀ partitions, Client.committed partitions link = _
    unfold Client.committed
    cases gated : (do Client.takeFault .committed; Client.requireGroup :
        Client.Action String).run link with
    | mk outcome after =>
      cases outcome with
      | error error =>
        refine ⟨.error error, fun _ offset => offset, after, fun partitions => ?_⟩
        rw [run_then, gated, unwritten]
        rfl
      | ok group =>
        refine ⟨.ok (), fun key _ => Client.committedOffset after.cluster group key, after, ?_⟩
        intro partitions
        rw [run_then, gated]
        rfl
  | position => exact absurd trivial keeps
  | pause => exact absurd trivial keeps
  | resume => exact absurd trivial keeps
  | storeOffsets =>
    obtain ⟨error, fault⟩ := Option.ne_none_iff_exists'.mp keeps
    refine ⟨.error error, fun _ offset => offset, Client.scripted .offsetsStore link, ?_⟩
    intro partitions
    rw [unwritten]
    exact Client.storeOffsets_refused fault partitions
  | offsetsForTimes timeout =>
    obtain ⟨error, fault⟩ := Option.ne_none_iff_exists'.mp keeps
    refine ⟨.error error, fun _ offset => offset, Client.scripted .offsetsForTimes link, ?_⟩
    intro partitions
    rw [unwritten]
    exact (Client.offsetsForTimes_run partitions link).trans (by rw [fault])

/-- A call that rewrites its list is one that does where it is let through. -/
theorem Rewrites.renews {call : ListCall} {link : Link} (rewrites : call.Rewrites link) :
    call.Renews := by
  cases call with
  | committed timeout => exact rewrites
  | position | pause | resume | storeOffsets | offsetsForTimes timeout => trivial

/-- A call that renews the errors of its list where it is let through has done so if it succeeds. -/
theorem rewrites_of_ok {call : ListCall} {link : Link} (renews : call.Renews)
    {partitions : List TopicPartition} (done : (call.primitive partitions link).1.1 = .ok ()) :
    call.Rewrites link := by
  cases call with
  | committed timeout => exact renews.elim
  | position | pause | resume => trivial
  | storeOffsets =>
    change (Client.storeOffsets partitions link).1.1 = .ok () at done
    cases fault : (link.cluster.takeFault .offsetsStore).1 with
    | none => exact fault
    | some error =>
      rw [Client.storeOffsets_refused fault] at done
      cases done
  | offsetsForTimes timeout =>
    change (Client.offsetsForTimes partitions link).1.1 = .ok () at done
    cases fault : (link.cluster.takeFault .offsetsForTimes).1 with
    | none => exact fault
    | some error =>
      rw [Client.offsetsForTimes_run, fault] at done
      cases done

/-- For lists that are alike a call answers the same as a whole, writes the same offsets and leaves
the same link. If it rewrites its list it writes the same list, and if not the errors stay that were
there. -/
theorem primitive_alike (call : ListCall) (link : Link) {left right : List TopicPartition}
    (alike : Alike left right) :
    let one := call.primitive left link
    let two := call.primitive right link
    one.1.1 = two.1.1 ∧ one.2 = two.2 ∧ Alike one.1.2 two.1.2 ∧
      (call.Rewrites link → one.1.2 = two.1.2) ∧
      (¬call.Rewrites link → one.1.2.map error = left.map error ∧
        two.1.2.map error = right.map error) := by
  intro one two
  by_cases rewrites : call.Rewrites link
  · have same : one = two :=
      calc call.primitive left link
        _ = call.primitive (left.map cleared) link := (primitive_cleared rewrites left).symm
        _ = call.primitive (right.map cleared) link := by rw [alike]
        _ = call.primitive right link := primitive_cleared rewrites right
    rw [same]
    exact ⟨rfl, rfl, rfl, fun _ => rfl, fun keeps => absurd rewrites keeps⟩
  · obtain ⟨outcome, place, after, writes⟩ := primitive_kept rewrites
    have first : one = _ := writes left
    have second : two = _ := writes right
    rw [first, second]
    refine ⟨rfl, rfl, ?_, fun may => absurd may rewrites, fun _ => ⟨?_, ?_⟩⟩
    · rw [Alike, List.map_map, List.map_map]
      exact alike.map fun _ => rfl
    · rw [List.map_map]
      rfl
    · rw [List.map_map]
      rfl

end ListCall

end LogConsumer
