import LogConsumer.Proofs.Client.Advancing
import LogConsumer.Proofs.Client.Committing
import LogConsumer.Proofs.Link.Ownership

/-!
# What a commit without a list commits

Over any run of a client that owns nothing twice, the stored offset of an entry is the last one that
was stored for its partition since the entry was created, be it the offset after a record that was
returned or one that was accepted; and it is none before the first of them. What the steps since
then say of an entry (`Since`) is kept by every step. So if no offset was accepted, every offset
from the creation of the entry up to the stored one was passed: its record was returned, or was
gone, or was passed over by a seek. The main result is `committed_since_creation`.
-/
namespace LogConsumer.Link

open Assigned

namespace Step

/-- The entries that a step creates, as it creates them. -/
def created (link : Link) : Step → List Assigned
  | .call request => request.created link
  | _ => []

/-- The offset of the record of a partition that a step returns. -/
def returned? (key : PartitionKey) (link : Link) : Step → Option Int
  | .call request => request.returned? key link
  | _ => none

/-- The offsets that a step accepts for a partition. -/
def accepted (key : PartitionKey) (link : Link) : Step → List Int
  | .call request => request.accepted key link
  | _ => []

/-- What a step stores for a partition, in order. -/
def stores (key : PartitionKey) (link : Link) : Step → List Int
  | .call request => request.stores key link
  | _ => []

/-- The step takes the position of a partition past an offset. -/
def Passes (key : PartitionKey) (offset : Int) (link : Link) : Step → Prop
  | .call request => request.Passes key offset link
  | _ => False

/-- What a step stores is the offset after the record that it returns, and what it accepts. -/
theorem stores_eq (key : PartitionKey) (link : Link) (step : Step) :
    step.stores key link =
      ((step.returned? key link).map (· + 1)).toList ++ step.accepted key link := by
  cases step <;> rfl

end Step

/-- The offsets of the records of a partition that a run returns, in order. -/
def returns (key : PartitionKey) : Link → List Step → List Int :=
  collected Step.next fun link step => (step.returned? key link).toList

/-- The offsets that a run accepts for a partition, in order. -/
def acceptances (key : PartitionKey) : Link → List Step → List Int :=
  collected Step.next fun link step => step.accepted key link

/-- What a run stores for a partition, in order. -/
def stores (key : PartitionKey) : Link → List Step → List Int :=
  collected Step.next fun link step => step.stores key link

/-- A step of a run takes the position of a partition past an offset. -/
def Passed (key : PartitionKey) (offset : Int) (origin : Link) (steps : List Step) : Prop :=
  ∃ earlier step later, steps = earlier ++ step :: later ∧
    step.Passes key offset (run origin earlier)

variable {key : PartitionKey} {link origin : Link} {steps : List Step}

/-- What a run stores that is longer by a step. -/
theorem stores_concat (key : PartitionKey) (origin : Link) (steps : List Step) (step : Step) :
    stores key origin (steps ++ [step]) =
      stores key origin steps ++ step.stores key (run origin steps) :=
  collected_concat _ _ _ _

/-- What a run accepts that is longer by a step. -/
theorem acceptances_concat (key : PartitionKey) (origin : Link) (steps : List Step) (step : Step) :
    acceptances key origin (steps ++ [step]) =
      acceptances key origin steps ++ step.accepted key (run origin steps) :=
  collected_concat _ _ _ _

/-- If no offset was accepted, what was stored are the offsets after the records returned. -/
theorem stores_of_unaccepted (unaccepted : acceptances key link steps = []) :
    stores key link steps = (returns key link steps).map (· + 1) := by
  induction steps generalizing link with
  | nil => rfl
  | cons step steps ih =>
    obtain ⟨here, later⟩ := List.append_eq_nil_iff.mp unaccepted
    have none : step.accepted key link = [] := here
    have first : step.stores key link = (step.returned? key link).toList.map (· + 1) := by
      rw [Step.stores_eq, none, List.append_nil]
      cases step.returned? key link <;> rfl
    have rest := ih later
    unfold stores returns at rest ⊢
    rw [collected, collected, List.map_append, first, rest]

/-- What was passed is passed in a longer run. -/
theorem Passed.longer {offset : Int} (passed : Passed key offset origin steps) (step : Step) :
    Passed key offset origin (steps ++ [step]) := by
  obtain ⟨earlier, other, later, rfl, passes⟩ := passed
  exact ⟨earlier, other, later ++ [step], by simp, passes⟩

/-- What the last step of a run passes is passed. -/
theorem Passed.last {offset : Int} {step : Step}
    (passes : step.Passes key offset (run origin steps)) :
    Passed key offset origin (steps ++ [step]) :=
  ⟨steps, step, [], rfl, passes⟩

/-- What the steps since an entry was created say of it. -/
structure Since (origin : Link) (steps : List Step) (start : Int) (entry : Assigned) : Prop where
  /-- What is stored is what the steps store last. -/
  stored : entry.stored = (stores entry.key origin steps).getLast?
  /-- Every offset from the start up to the position was passed. -/
  passed : ∀ offset, start ≤ offset → offset < entry.position → Passed entry.key offset origin steps
  /-- If no offset was accepted, every offset from the start up to the stored one was passed. -/
  vouched : acceptances entry.key origin steps = [] → ∀ upTo, entry.stored = some upTo →
    ∀ offset, start ≤ offset → offset < upTo → Passed entry.key offset origin steps

namespace Since

variable {start : Int} {entry before after : Assigned}

/-- An entry that is just created has nothing stored and has passed nothing. -/
theorem nil (unstored : entry.stored = none) : Since origin [] entry.position entry where
  stored := unstored
  passed offset ahead behind := by omega
  vouched _ upTo stored := by
    rw [unstored] at stored
    contradiction

/-- A step that is no call changes nothing about it. -/
theorem still {step : Step} (since : Since origin steps start entry)
    (silent : ∀ link, step.stores entry.key link = [] ∧ step.accepted entry.key link = []) :
    Since origin (steps ++ [step]) start entry where
  stored := by
    rw [since.stored, stores_concat, (silent _).1, List.append_nil]
  passed offset ahead behind := (since.passed offset ahead behind).longer step
  vouched unaccepted upTo stored offset ahead behind := by
    rw [acceptances_concat, (silent _).2, List.append_nil] at unaccepted
    exact (since.vouched unaccepted upTo stored offset ahead behind).longer step

/-- It goes on over a call with what the call makes of the entry. -/
theorem call {request : ClientCall} (since : Since origin steps start before)
    (advances : request.Advances (run origin steps) before after) :
    Since origin (steps ++ [.call request]) start after := by
  obtain ⟨stored, passed, vouched⟩ := since
  rw [advances.key] at stored passed vouched
  have passed' : ∀ offset, start ≤ offset → offset < after.position →
      Passed after.key offset origin (steps ++ [.call request]) := by
    intro offset ahead behind
    by_cases already : offset < before.position
    · exact (passed offset ahead already).longer _
    · exact .last (advances.passed offset (Int.not_lt.mp already) behind)
  refine ⟨?_, passed', ?_⟩
  · rw [advances.stored, stored, stores_concat, List.getLast?_append]
    rfl
  · intro unaccepted upTo stored' offset ahead behind
    rw [acceptances_concat] at unaccepted
    obtain ⟨earlier, here⟩ := List.append_eq_nil_iff.mp unaccepted
    -- Either nothing was stored anew, or all up to the position was.
    obtain same | renewed := advances.renewed here
    · exact (vouched earlier upTo (same.symm.trans stored') offset ahead behind).longer _
    · obtain rfl := Option.some.inj (renewed.symm.trans stored')
      exact passed' offset ahead behind

end Since

/-- The entry was created by a step of a run, and by none after it; what the steps since then say of
it holds. -/
def Born (link : Link) (steps : List Step) (entry : Assigned) : Prop :=
  ∃ earlier birth later fresh, steps = earlier ++ birth :: later ∧
    fresh ∈ birth.created (run link earlier) ∧ fresh.key = entry.key ∧
    Throughout (fun link step => entry.key ∉ (step.created link).map Assigned.key)
      (birth.next (run link earlier)) later ∧
    Since (run link earlier) (birth :: later) fresh.position entry

/-- The birth of an entry lies further back after a step that accounts for it by an entry that it
found. -/
theorem Born.later {before after : Assigned} {step : Step} (born : Born link steps before)
    (same : before.key = after.key)
    (uncreated : after.key ∉ (step.created (run link steps)).map Assigned.key)
    (since : ∀ origin since start, run origin since = run link steps →
      Since origin since start before → Since origin (since ++ [step]) start after) :
    Born link (steps ++ [step]) after := by
  obtain ⟨earlier, birth, later, fresh, rfl, created, own, kept, told⟩ := born
  have reached :
      run (birth.next (run link earlier)) later = run link (earlier ++ birth :: later) := by
    rw [run_append]
    rfl
  refine ⟨earlier, birth, later ++ [step], fresh, by simp, created, own.trans same, ?_, ?_⟩
  · rw [same] at kept
    refine LogConsumer.Throughout.append kept ⟨?_, trivial⟩
    change after.key ∉ (step.created (run (birth.next (run link earlier)) later)).map Assigned.key
    rwa [reached]
  · exact since _ (birth :: later) _ reached told

/-- The birth of an entry after a call that accounts for it: it is the call, or the birth of the
entry that was found. -/
theorem Born.call {request : ClientCall} {after : Assigned}
    (born : ∀ {entry}, entry ∈ (run link steps).client.assignment → Born link steps entry)
    (accounts : request.Accounts (run link steps) after) :
    Born link (steps ++ [.call request]) after := by
  obtain ⟨before, created | ⟨found, uncreated⟩, advances⟩ := accounts
  · have start : Since (run link steps) [] before.position before :=
      .nil (ClientCall.created_unstored created)
    exact ⟨steps, .call request, [], before, rfl, created, advances.key, trivial,
      start.call advances⟩
  · refine (born found).later advances.key uncreated fun origin since start reached told => ?_
    exact told.call (reached ▸ advances)

/-- The birth of an entry stays what it was over a step that is no call. -/
theorem Born.still {step : Step} {entry : Assigned} (born : Born link steps entry)
    (uncreated : step.created (run link steps) = [])
    (silent : ∀ link, step.stores entry.key link = [] ∧ step.accepted entry.key link = []) :
    Born link (steps ++ [step]) entry :=
  born.later rfl (by simp [uncreated]) fun _ _ _ _ since => since.still silent

/-- Every entry of a client that owns nothing twice at any point of a run from where it reads
nothing was created by a step of it. -/
theorem born_of_mem (nothing : link.client.assignment = [])
    (once : Throughout (fun link step => (step.next link).client.OwnsOnce) link steps) :
    (run link steps).client.OwnsOnce ∧
      ∀ {entry}, entry ∈ (run link steps).client.assignment → Born link steps entry := by
  induction steps using List.reverseRecOn with
  | nil =>
    refine ⟨Client.ownsOnce_of_nil nothing, fun inside => ?_⟩
    have none : (run link []).client.assignment = [] := nothing
    rw [none] at inside
    contradiction
  | append_singleton steps step ih =>
    obtain ⟨earlier, last, _⟩ := once.parts
    obtain ⟨apart, born⟩ := ih earlier
    have led : run link (steps ++ [step]) = step.next (run link steps) :=
      run_append link steps [step]
    rw [led]
    refine ⟨last, fun inside => ?_⟩
    cases step with
    | call request => exact .call born (request.accounts_perform apart last inside)
    | cluster step clock => exact (born inside).still rfl fun _ => ⟨rfl, rfl⟩
    | elsewhere others => exact (born inside).still rfl fun _ => ⟨rfl, rfl⟩

/-- What is stored at the end of a run of a client that owns nothing twice at any point of it, and
what a commit without a list commits there. Each entry was created by a step of the run, an
assignment or a join, and by none after it. Stored for it is what the steps since then stored last,
be it the offset after a record that was returned or an offset that was accepted, and nothing if
they stored none. If they accepted none, it is the offset after the record that was returned last,
and every offset from where the entry began up to the stored one was passed: its record was
returned, or was gone, or was passed over by a seek. A commit of a client with a group, unless it is
scripted to fail, succeeds exactly if some entry has a stored offset. It leaves for each partition,
for the group of the client, what its entry has stored, or what was committed before where that is
nothing; and it changes neither the client nor what others have committed. -/
theorem committed_since_creation (nothing : link.client.assignment = [])
    (once : Throughout (fun link step => (step.next link).client.OwnsOnce) link steps) :
    let reached := run link steps
    let assignment := reached.client.assignment
    (∀ entry ∈ assignment, ∃ earlier birth later fresh, steps = earlier ++ birth :: later ∧
      fresh ∈ birth.created (run link earlier) ∧ fresh.key = entry.key ∧
      Throughout (fun link step => entry.key ∉ (step.created link).map Assigned.key)
        (birth.next (run link earlier)) later ∧
      let origin := run link earlier
      let since := birth :: later
      entry.stored = (stores entry.key origin since).getLast? ∧
      (acceptances entry.key origin since = [] →
        entry.stored = ((returns entry.key origin since).map (· + 1)).getLast? ∧
        ∀ upTo, entry.stored = some upTo → ∀ offset, fresh.position ≤ offset → offset < upTo →
          Passed entry.key offset origin since)) ∧
    ∀ group mode, reached.client.settings.group = some group →
      (reached.cluster.takeFault .commit).1 = none →
      let called := (ClientCall.commit none mode).perform reached
      (called.1.outcome =
        if ∃ entry ∈ assignment, entry.stored ≠ none then .ok .done
        else .error (.ofCode .noOffset)) ∧
      called.2.client = reached.client ∧
      ∀ other key, called.2.cluster.committed? other key =
        if other = group then
          ((Assigned.find? assignment key).bind Assigned.stored).or
            (reached.cluster.committed? group key)
        else reached.cluster.committed? other key := by
  intro reached assignment
  obtain ⟨apart, born⟩ := born_of_mem nothing once
  refine ⟨fun entry inside => ?_, fun group mode grouped unscripted =>
    ClientCall.commit_assigned grouped unscripted apart mode⟩
  obtain ⟨earlier, birth, later, fresh, split, created, own, kept, told⟩ := born inside
  refine ⟨earlier, birth, later, fresh, split, created, own, kept, told.stored,
    fun unaccepted => ?_⟩
  exact ⟨stores_of_unaccepted unaccepted ▸ told.stored, told.vouched unaccepted⟩

/-- The records of a partition are read one by one: the first is returned, a seek passes over the
second, and the third is returned; then its end is told, and it is paused. For another partition,
which is empty, an offset is accepted. An earlier commit took the offset after the first record. The
one at the end takes the offset after the third, and the accepted one, and leaves what the group had
committed for a partition that is not assigned. -/
theorem committed_since_creation_sought :
    let key (partition : Int) : PartitionKey := ("orders", partition)
    let tp (partition : Int) (offset : Offset) : TopicPartition :=
      { topic := "orders", partition, offset }
    let produce (payload : UInt8) : Step := .cluster (.produce (key 0) none [payload] none) 7
    let poll : Step := .call (.poll 10)
    let settings : Client.Settings := ⟨some "g", false, true, false⟩
    let link : Link := ⟨{ name := "reader", serial := 1, settings },
      (({} : Cluster).createTopic "orders" 3).commit "g" (key 2) 4⟩
    let steps := [produce 1, produce 2, produce 3,
      .call (.assign [tp 0 .beginning, tp 1 .beginning]), poll, .call (.commit none .sync),
      .call (.seek (tp 0 (.absolute 2)) 10), poll, poll, poll,
      .call (.storeOffsets [tp 1 (.absolute 7)]), .call (.pause [tp 0 .invalid])]
    let reached := run link steps
    let entry : Assigned :=
      { topic := "orders", partition := 0, position := 3, stored := some 3, paused := true
        endReported := true }
    let called := (ClientCall.commit none .sync).perform reached
    link.client.assignment = [] ∧
    Throughout (fun link step => (step.next link).client.OwnsOnce) link steps ∧
    entry ∈ reached.client.assignment ∧
    (∃ earlier birth later fresh, steps = earlier ++ birth :: later ∧
      fresh ∈ birth.created (run link earlier) ∧
      ∀ offset, fresh.position ≤ offset → offset < 3 →
        Passed (key 0) offset (run link earlier) (birth :: later)) ∧
    called.1.outcome = .ok .done ∧
    reached.cluster.committed? "g" (key 0) = some 1 ∧
    called.2.cluster.committed? "g" (key 0) = some 3 ∧
    called.2.cluster.committed? "g" (key 1) = some 7 ∧
    called.2.cluster.committed? "g" (key 2) = some 4 := by
  intro key tp produce poll settings link steps reached entry called
  have nothing : link.client.assignment = [] := rfl
  have once : Throughout (fun link step => (step.next link).client.OwnsOnce) link steps := by
    decide +kernel
  have inside : entry ∈ reached.client.assignment := by decide +kernel
  have unscripted : (reached.cluster.takeFault .commit).1 = none := by decide +kernel
  obtain ⟨history, commits⟩ := @committed_since_creation link steps nothing once
  obtain ⟨outcome, _, committed⟩ := commits "g" .sync (by decide +kernel) unscripted
  have same : run link steps = reached := rfl
  have performed : (ClientCall.commit none .sync).perform reached = called := rfl
  rw [same] at history outcome committed
  rw [performed] at outcome committed
  have some : ∃ entry ∈ reached.client.assignment, entry.stored ≠ none := by decide +kernel
  rw [if_pos some] at outcome
  refine ⟨nothing, once, inside, ?_, outcome, by decide +kernel,
    (committed "g" (key 0)).trans (by decide +kernel),
    (committed "g" (key 1)).trans (by decide +kernel),
    (committed "g" (key 2)).trans (by decide +kernel)⟩
  obtain ⟨earlier, birth, later, fresh, split, created, _, _, _, vouched⟩ := history entry inside
  have unaccepted : acceptances (key 0) (run link earlier) (birth :: later) = [] := by
    have none : acceptances (key 0) link (earlier ++ birth :: later) = [] := by
      rw [← split]
      decide +kernel
    rw [acceptances, collected_append] at none
    exact (List.append_eq_nil_iff.mp none).2
  exact ⟨earlier, birth, later, fresh, split, created, (vouched unaccepted).2 3 rfl⟩

/-- A client that owns nothing twice and stores no offset but by its polls reads two partitions. It
is returned the record at 0 of the first one, seeks to 2 and is returned that, and once the records
below 4 are dropped it is returned the one at 4. It is assigned the second one from 1 on, and is
returned that. The commit takes 5 and 2, although the records at 1 and 3 of the first partition and
the one at 0 of the second, all of which were there to be read, were never returned. -/
theorem committed_past_unreturned :
    let key (partition : Int) : PartitionKey := ("t", partition)
    let tp (partition offset : Int) : TopicPartition :=
      { topic := "t", partition, offset := .absolute offset }
    let produce (partition : Int) (payload : UInt8) : Step :=
      .cluster (.produce (key partition) none [payload] (some 1)) 7
    let poll : Step := .call (.poll 1)
    ∃ client cluster, Client.create { groupId := some "g" } "" (({} : Cluster).createTopic "t" 2) =
        (.ok client, cluster) ∧
      let link : Link := ⟨client, cluster⟩
      let begun := [produce 0 97, produce 0 98, produce 0 99, produce 0 100, produce 0 101,
        produce 1 102, produce 1 103, .call (.assign [tp 0 0, tp 1 1]), poll, poll]
      let steps := begun ++ [.call (.seek (tp 0 2) 1), poll,
        .cluster (.deleteRecords (key 0) 4) 7, poll]
      let reached := run link steps
      let called := (ClientCall.commit none .sync).perform reached
      link.client.assignment = [] ∧
      Throughout (fun link step => (step.next link).client.OwnsOnce) link steps ∧
      (∀ partition ∈ [0, 1], acceptances (key partition) link steps = []) ∧
      (∀ offset ∈ [0, 1, 2, 3, 4], ((run link begun).cluster.read? (key 0) offset).isSome) ∧
      ((run link begun).cluster.read? (key 1) 0).isSome ∧
      returns (key 0) link steps = [0, 2, 4] ∧ returns (key 1) link steps = [1] ∧
      called.1.outcome = .ok .done ∧
      called.2.cluster.committed? "g" (key 0) = some 5 ∧
      called.2.cluster.committed? "g" (key 1) = some 2 := by
  intro key tp produce poll
  refine ⟨_, _, rfl, ?_⟩
  intro link begun steps reached called
  decide +kernel

end LogConsumer.Link
