import LogConsumer.Proofs.Client.Pasts
import LogConsumer.Proofs.Client.Storing

/-!
# What a call makes of an entry

Where a commit without a list gets its offsets from. An entry is created by an assignment that is
accepted, or by a poll by which the client joins its group (`ClientCall.created`). From then on two
things store an offset for it: a poll that returns a record of the partition stores the offset after
it, and a list of offsets is stored entry by entry (`ClientCall.stores`). Nothing else does, and the
position goes past an offset only because its record was returned, was gone, or was passed over by a
seek (`ClientCall.Passes`). Every call accounts for each entry that is assigned after it by one that
it created or found: the main result is `ClientCall.accounts_perform`.
-/
namespace LogConsumer.ClientCall

open Assigned Client

/-- The entries that a call creates, as it creates them: those of an assignment that is accepted,
and those with which the client joins its group when it polls. -/
def created (link : Link) (call : ClientCall) : List Assigned :=
  match call with
  | .assign partitions | .incrementalAssign partitions =>
    if (call.perform link).1.outcome.isOk then assignedOfList link partitions else []
  | .poll _ =>
    if (link.cluster.takeFault .poll).1 = none ∧ link.client.closed = false ∧
        link.client.assignment = [] then
      (joined link).assignment
    else []
  | _ => []

/-- The offset of the record of a partition that a call returns: a poll does, unless its answer is
scripted. -/
def returned? (key : PartitionKey) (link : Link) : ClientCall → Option Int
  | .poll timeout =>
    let message := (Client.poll timeout link).1.message
    if (link.cluster.takeFault .poll).1 = none ∧ message.IsRecordOf key then some message.offset
    else none
  | _ => none

/-- The offsets that a call accepts for a partition, in order: those of the entries of a list of
offsets that are written back without an error, unless the call is scripted to fail. -/
def accepted (key : PartitionKey) (link : Link) (call : ClientCall) : List Int :=
  match call with
  | .storeOffsets _ =>
    if (link.cluster.takeFault .offsetsStore).1 = none then
      (((call.perform link).1.written.getD []).filter fun tp =>
        tp.key = key ∧ tp.error = .noError).filterMap fun tp => tp.offset.absolute?
    else []
  | _ => []

/-- What a call stores for a partition, in order: the offset after a record that it returns, and the
offsets that it accepts. -/
def stores (key : PartitionKey) (link : Link) (call : ClientCall) : List Int :=
  ((call.returned? key link).map (· + 1)).toList ++ call.accepted key link

/-- How a call can take the position of a partition past an offset. -/
inductive Passes (key : PartitionKey) (offset : Int) (link : Link) : ClientCall → Prop where
  /-- The record at the offset is returned. -/
  | returned {call : ClientCall} (returns : call.returned? key link = some offset) :
    Passes key offset link call
  /-- A poll finds the record at the offset gone. -/
  | dropped {timeout : Nat} (gone : offset < link.cluster.low key) :
    Passes key offset link (.poll timeout)
  /-- The position is moved on demand from the offset or before it to behind it. -/
  | sought {tp : TopicPartition} {timeout : Nat} (own : tp.key = key)
    (ahead : ∃ entry ∈ link.client.assignment, entry.key = key ∧ entry.position ≤ offset)
    (behind : ∃ entry ∈ ((ClientCall.seek tp timeout).perform link).2.client.assignment,
      entry.key = key ∧ offset < entry.position) :
    Passes key offset link (.seek tp timeout)

/-- What a call makes of an entry of the client. -/
structure Advances (link : Link) (call : ClientCall) (before after : Assigned) : Prop where
  /-- The partition is the same. -/
  key : before.key = after.key
  /-- What is stored is what the call stores last, or what was stored before. -/
  stored : after.stored = (call.stores after.key link).getLast?.or before.stored
  /-- Unless an offset is accepted, what was stored stays, or the position is stored. -/
  renewed : call.accepted after.key link = [] →
    after.stored = before.stored ∨ after.stored = some after.position
  /-- Whatever offset comes to lie behind the position was passed. -/
  passed : ∀ offset, before.position ≤ offset → offset < after.position →
    call.Passes after.key offset link

/-- The entry is one that the call creates, or that was assigned before it and is not created by it,
with what the call makes of it. -/
def Accounts (link : Link) (call : ClientCall) (after : Assigned) : Prop :=
  ∃ before, (before ∈ call.created link ∨
      (before ∈ link.client.assignment ∧ after.key ∉ (call.created link).map Assigned.key)) ∧
    call.Advances link before after

variable {link : Link} {call : ClientCall} {after : Assigned}

/-- An entry that is created has nothing stored. -/
theorem created_unstored {fresh : Assigned} (created : fresh ∈ call.created link) :
    fresh.stored = none := by
  have unstored {link : Link} {partitions : List TopicPartition}
      (inside : fresh ∈ assignedOfList link partitions) : fresh.stored = none := by
    obtain ⟨_, _, rfl⟩ := List.mem_map.mp inside
    rfl
  have placed {partitions : List TopicPartition} {accepts : Prop} [Decidable accepts]
      (inside : fresh ∈ if accepts then assignedOfList link partitions else []) :
      fresh.stored = none := by
    split at inside
    · exact unstored inside
    · contradiction
  cases call with
  | assign partitions => exact placed created
  | incrementalAssign partitions => exact placed created
  | poll timeout =>
    unfold ClientCall.created at created
    dsimp only at created
    split at created
    · rename_i joins
      unfold joined at created
      dsimp only at created
      split at created
      · exact unstored created
      · rw [joins.2.2] at created
        contradiction
    · contradiction
  | _ => contradiction

/-- A call that neither stores nor moves anything makes nothing of an entry. -/
theorem Advances.of_same {before : Assigned} (silent : call.stores after.key link = [])
    (same : (before.key, before.position, before.stored) =
      (after.key, after.position, after.stored)) : call.Advances link before after := by
  obtain ⟨key, position, stored⟩ : before.key = after.key ∧ before.position = after.position ∧
      before.stored = after.stored := by simpa using same
  refine ⟨key, ?_, fun _ => .inl stored.symm, fun offset ahead behind => ?_⟩
  · rw [silent, stored]
    rfl
  · omega

/-- A call that creates nothing and neither stores nor moves anything accounts for every entry. -/
theorem accounts_of_kept (uncreated : call.created link = [])
    (silent : ∀ key, call.stores key link = [])
    (kept : (call.perform link).2.client.assignment.map
        (fun entry => (entry.key, entry.position, entry.stored)) =
      link.client.assignment.map fun entry => (entry.key, entry.position, entry.stored))
    (inside : after ∈ (call.perform link).2.client.assignment) : call.Accounts link after := by
  have marked := List.mem_map_of_mem
    (f := fun entry : Assigned => (entry.key, entry.position, entry.stored)) inside
  rw [kept] at marked
  obtain ⟨before, present, same⟩ := List.mem_map.mp marked
  exact ⟨before, .inr ⟨present, by simp [uncreated]⟩, .of_same (silent _) same⟩

/-- A call that creates nothing and leaves the assignment as it is accounts for every entry. -/
theorem accounts_of_same (uncreated : call.created link = [])
    (silent : ∀ key, call.stores key link = [])
    (same : (call.perform link).2.client = link.client)
    (inside : after ∈ (call.perform link).2.client.assignment) : call.Accounts link after :=
  accounts_of_kept uncreated silent (by rw [same]) inside

/-- A call that is refused accounts for every entry. -/
theorem accounts_of_refused {action : Action Unit} {primitive : Primitive} {error : ClientError}
    (performs : call.perform = ClientAnswer.ofUnit action)
    (silent : ∀ key, call.stores key link = [])
    (uncreated : (call.perform link).1.outcome.isOk = false → call.created link = [])
    (refused : action.run link = (.error error, scripted primitive link))
    (inside : after ∈ (call.perform link).2.client.assignment) : call.Accounts link after := by
  have ran : call.perform link =
      ({ outcome := (action.run link).1.map fun _ => .done }, (action.run link).2) :=
    congrFun performs link
  rw [refused] at ran
  exact accounts_of_same (uncreated (by rw [ran]; rfl)) silent (by rw [ran]; rfl) inside

/-- An accepted assignment accounts for the entries that it creates. -/
theorem accounts_of_created (created : after ∈ call.created link)
    (silent : call.stores after.key link = []) : call.Accounts link after :=
  ⟨after, .inl created, .of_same silent rfl⟩

/-- Replacing the assignment accounts for every entry. -/
theorem accounts_assign {partitions : List TopicPartition}
    (inside : after ∈ ((ClientCall.assign partitions).perform link).2.client.assignment) :
    (ClientCall.assign partitions).Accounts link after := by
  obtain ⟨_, _, refused⟩ | ⟨_, placed⟩ := assign_cases partitions link
  · exact accounts_of_refused rfl (fun _ => rfl) (fun failed => by simp [created, failed]) refused
      inside
  · have ran : (ClientCall.assign partitions).perform link =
        ({ outcome := ((Client.assign partitions).run link).1.map fun _ => .done },
          ((Client.assign partitions).run link).2) := rfl
    rw [placed] at ran
    refine accounts_of_created ?_ rfl
    rw [ran] at inside
    rw [created, ran]
    exact inside

/-- Adding to the assignment accounts for every entry. -/
theorem accounts_incrementalAssign {partitions : List TopicPartition}
    (inside : after ∈
      ((ClientCall.incrementalAssign partitions).perform link).2.client.assignment) :
    (ClientCall.incrementalAssign partitions).Accounts link after := by
  obtain ⟨_, refused⟩ | ⟨_, apart, placed⟩ := incrementalAssign_cases partitions link
  · exact accounts_of_refused rfl (fun _ => rfl) (fun failed => by simp [created, failed]) refused
      inside
  · have ran : (ClientCall.incrementalAssign partitions).perform link =
        ({ outcome := ((Client.incrementalAssign partitions).run link).1.map fun _ => .done },
          ((Client.incrementalAssign partitions).run link).2) := rfl
    rw [placed] at ran
    have fresh : (ClientCall.incrementalAssign partitions).created link =
        assignedOfList link partitions := by
      rw [created, ran]
      rfl
    rw [ran] at inside
    obtain present | added := List.mem_append.mp inside
    · refine ⟨after, .inr ⟨present, ?_⟩, .of_same rfl rfl⟩
      rw [fresh, assignedOfList_key]
      intro named
      obtain ⟨tp, listed, same⟩ := List.mem_map.mp named
      exact apart tp listed (same ▸ List.mem_map_of_mem present)
    · exact accounts_of_created (fresh ▸ added) rfl

/-- Moving a position accounts for every entry of a client that owns nothing twice. -/
theorem accounts_seek {tp : TopicPartition} {timeout : Nat}
    (once : (link.client.assignment.map Assigned.key).Nodup)
    (inside : after ∈ ((ClientCall.seek tp timeout).perform link).2.client.assignment) :
    (ClientCall.seek tp timeout).Accounts link after := by
  obtain ⟨_, refused⟩ | ⟨position, entries, found, moved⟩ := seek_cases tp link
  · exact accounts_of_refused rfl (fun _ => rfl) (fun _ => rfl) refused inside
  · have ran : (ClientCall.seek tp timeout).perform link =
        ({ outcome := ((Client.seek tp).run link).1.map fun _ => .done },
          ((Client.seek tp).run link).2) := rfl
    rw [moved] at ran
    have listed : after ∈ entries := by rw [ran] at inside; exact inside
    have kept : entries.map (fun entry => (entry.key, entry.stored)) =
        link.client.assignment.map fun entry => (entry.key, entry.stored) :=
      updateFirst?_map (fun _ => by rfl) found
    have marked := List.mem_map_of_mem
      (f := fun entry : Assigned => (entry.key, entry.stored)) listed
    rw [kept] at marked
    obtain ⟨before, present, same⟩ := List.mem_map.mp marked
    obtain ⟨own, stored⟩ := Prod.mk.inj same
    refine ⟨before, .inr ⟨present, List.not_mem_nil⟩, own, stored.symm, fun _ => .inl stored.symm,
      fun offset ahead behind => ?_⟩
    by_cases here : tp.key = after.key
    · exact .sought here ⟨before, present, own, ahead⟩ ⟨after, inside, rfl, behind⟩
    · -- Another partition is moved, so the entry is the one that it was.
      have keys : (entries.map Assigned.key).Nodup := by
        rwa [updateFirst?_map (fun _ => by rfl) found]
      have still := ofPartition_updateFirst? here (fun _ => by rfl) found
      rw [ofPartition_of_mem keys listed, ← own, ofPartition_of_mem once present] at still
      cases List.cons.inj still |>.1
      omega

/-- Where no partition repeats, a list that is not scripted to fail is accepted for an assigned
partition with all absolute offsets that it gives. -/
theorem accepted_eq {key : PartitionKey} (once : (link.client.assignment.map Assigned.key).Nodup)
    (unscripted : (link.cluster.takeFault .offsetsStore).1 = none)
    (assigned : key ∈ link.client.assignment.map Assigned.key) (partitions : List TopicPartition) :
    (ClientCall.storeOffsets partitions).accepted key link =
      (partitions.filter fun tp => tp.key = key).filterMap fun tp => tp.offset.absolute? := by
  unfold accepted
  rw [if_pos unscripted, storeOffsets_perform, storeOffsets_run once unscripted, Option.getD_some,
    List.filterMap_filter, List.filterMap_filter, List.filterMap_map]
  refine congrArg (fun gives => partitions.filterMap gives) (funext fun tp => ?_)
  dsimp only [Function.comp]
  have own : ({ tp with error := storeVerdict link.client.assignment tp } : TopicPartition).key =
    tp.key := rfl
  rw [own]
  cases place : tp.offset.absolute? with
  | none => rw [ite_self, ite_self]
  | some offset =>
    by_cases here : tp.key = key
    · have good : storeVerdict link.client.assignment tp = .noError :=
        storeVerdict_eq_noError.mpr ⟨here ▸ assigned, by rw [place]; rfl⟩
      simp [here, good]
    · simp [here]

/-- Storing a list accounts for every entry of a client that owns nothing twice. -/
theorem accounts_storeOffsets {partitions : List TopicPartition}
    (once : (link.client.assignment.map Assigned.key).Nodup)
    (inside : after ∈ ((ClientCall.storeOffsets partitions).perform link).2.client.assignment) :
    (ClientCall.storeOffsets partitions).Accounts link after := by
  cases fault : (link.cluster.takeFault .offsetsStore).1 with
  | some error =>
    have silent (key : PartitionKey) :
        (ClientCall.storeOffsets partitions).stores key link = [] := by
      simp [stores, returned?, accepted, fault]
    refine accounts_of_same rfl silent ?_ inside
    rw [storeOffsets_perform, storeOffsets_refused fault]
    rfl
  | none =>
    rw [storeOffsets_perform, storeOffsets_run once fault] at inside
    obtain ⟨before, present, rfl⟩ := List.mem_map.mp inside
    have own : (before.withStored partitions).key = before.key := rfl
    have accepted := accepted_eq once fault (List.mem_map_of_mem present) partitions
    have stores : (ClientCall.storeOffsets partitions).stores before.key link =
        (partitions.filter fun tp => tp.key = before.key).filterMap fun tp => tp.offset.absolute? :=
      accepted
    refine ⟨before, .inr ⟨present, List.not_mem_nil⟩, rfl, ?_, fun nothing => .inl ?_,
      fun offset ahead behind => ?_⟩
    · rw [own, stores]
      rfl
    · rw [own, accepted] at nothing
      rw [Assigned.withStored, TopicPartition.lastAbsolute?, nothing]
      rfl
    · have still : (before.withStored partitions).position = before.position := rfl
      omega

/-- A poll that is not let through changes no client and returns nothing. -/
theorem poll_stuck (timeout : Nat)
    (stuck : ¬((link.cluster.takeFault .poll).1 = none ∧ link.client.closed = false)) :
    (Client.poll timeout link).2.client = link.client ∧
      ∀ key, (ClientCall.poll timeout).returned? key link = none := by
  obtain ⟨_, scripted, result⟩ | ⟨_, shut, result⟩ | ⟨unscripted, opened, _⟩ :=
    poll_cases timeout link
  · refine ⟨by rw [result], fun key => if_neg fun returns => ?_⟩
    rw [scripted] at returns
    exact absurd returns.1 nofun
  · refine ⟨by rw [result], fun key => if_neg fun returns => ?_⟩
    rw [result] at returns
    exact Bool.false_ne_true returns.2.1
  · exact absurd ⟨unscripted, opened⟩ stuck

/-- A poll that is let through goes on from where the client has joined its group. -/
theorem poll_joined (timeout : Nat) (unscripted : (link.cluster.takeFault .poll).1 = none)
    (opened : link.client.closed = false) (reads : (joined link).assignment ≠ []) :
    Client.poll timeout link = Client.poll timeout ⟨joined link, link.cluster⟩ := by
  have opened' : (joined link).closed = false := by
    unfold joined
    dsimp only
    split <;> exact opened
  have alone : joined ⟨joined link, link.cluster⟩ = joined link := joined_of_assigned reads
  rw [poll_served opened unscripted, @poll_served ⟨joined link, link.cluster⟩ opened' unscripted,
    alone]

/-- What a poll makes of the only entry of a partition: it is left where it is, or raised past
records that are gone, or goes past a record that is returned. -/
theorem advances_poll {timeout : Nat} {before : Assigned} {now : Link}
    (same : Client.poll timeout link = Client.poll timeout now)
    (cluster : now.cluster = link.cluster)
    (sole : ofPartition after.key now.client.assignment = [before])
    (sole' : ofPartition after.key (Client.poll timeout link).2.client.assignment = [after]) :
    (ClientCall.poll timeout).Advances link before after := by
  have own : before.key = after.key := (mem_of_sole sole).2
  obtain ⟨moved, only, outcome⟩ := poll_sole sole timeout
  rw [← same, sole'] at only
  obtain rfl := List.cons.inj only |>.1
  rw [cluster, ← same] at outcome
  obtain ⟨silent, stored, position⟩ | ⟨unscripted, readable, position, stored⟩ := outcome
  · have returns : (ClientCall.poll timeout).returned? after.key link = none :=
      if_neg fun returns => silent returns.1 returns.2
    refine ⟨own, ?_, fun _ => .inl stored, fun offset ahead behind => .dropped ?_⟩
    · rw [stores, returns, stored]
      rfl
    · obtain still | raised := position
      · omega
      · exact Cluster.lt_low_of_lt_floor ahead (raised ▸ behind)
  · obtain ⟨isRecord, place, _⟩ := Cluster.read?_eq_some readable
    have returns : (ClientCall.poll timeout).returned? after.key link =
        some (link.cluster.floor after.key before.position) := by
      rw [← place]
      exact if_pos ⟨unscripted, isRecord⟩
    refine ⟨own, ?_, fun _ => .inr (by rw [stored, position]), fun offset ahead behind => ?_⟩
    · rw [stores, returns, stored]
      rfl
    · by_cases here : offset = link.cluster.floor after.key before.position
      · exact .returned (here ▸ returns)
      · refine .dropped (Cluster.lt_low_of_lt_floor ahead ?_)
        omega

/-- A poll accounts for every entry of a client that owns nothing twice after it. -/
theorem accounts_poll {timeout : Nat}
    (once : ((Client.poll timeout link).2.client.assignment.map Assigned.key).Nodup)
    (inside : after ∈ (Client.poll timeout link).2.client.assignment) :
    (ClientCall.poll timeout).Accounts link after := by
  by_cases through : (link.cluster.takeFault .poll).1 = none ∧ link.client.closed = false
  · obtain ⟨unscripted, opened⟩ := through
    -- The poll serves the assignment with which the client has joined its group.
    have keys : (Client.poll timeout link).2.client.assignment.map Assigned.key =
        (joined link).assignment.map Assigned.key := by
      rw [poll_served opened unscripted]
      exact serve_keys _ _
    have listed : after.key ∈ (joined link).assignment.map Assigned.key :=
      keys ▸ List.mem_map_of_mem inside
    obtain ⟨before, present, own⟩ := List.mem_map.mp listed
    have sole : ofPartition after.key (joined link).assignment = [before] := by
      rw [← own]
      exact ofPartition_of_mem (keys ▸ once) present
    have same := poll_joined timeout unscripted opened (List.ne_nil_of_mem present)
    refine ⟨before, ?_, advances_poll same rfl sole (ofPartition_of_mem once inside)⟩
    by_cases nothing : link.client.assignment = []
    · exact .inl (by rwa [created, if_pos ⟨unscripted, opened, nothing⟩])
    · rw [joined_of_assigned nothing] at present
      have uncreated : (ClientCall.poll timeout).created link = [] :=
        if_neg fun creates => nothing creates.2.2
      exact .inr ⟨present, by rw [uncreated]; exact List.not_mem_nil⟩
  · obtain ⟨same, silent⟩ := poll_stuck timeout through
    have uncreated : (ClientCall.poll timeout).created link = [] :=
      if_neg fun creates => through ⟨creates.1, creates.2.1⟩
    refine accounts_of_same uncreated (fun key => ?_) same inside
    rw [stores, silent key]
    rfl

/-- Every call accounts for each entry that is assigned after it, in a client that owns nothing
twice before and after it. -/
theorem accounts_perform (call : ClientCall)
    (once : (link.client.assignment.map Assigned.key).Nodup)
    (once' : ((call.perform link).2.client.assignment.map Assigned.key).Nodup)
    (inside : after ∈ (call.perform link).2.client.assignment) : call.Accounts link after := by
  have whenSpared (spares : call.SparesClient) (uncreated : call.created link = [])
      (silent : ∀ key, call.stores key link = []) : call.Accounts link after := by
    have kept : Keeps Link.client call.perform :=
      keeps_of_sparesClient (fun _ _ => rfl) (fun _ _ => rfl) spares
    exact accounts_of_same uncreated silent (kept link) inside
  have whenSwept {visit : TopicPartition → List Assigned → TopicPartition × List Assigned}
      {partitions : List TopicPartition} (uncreated : call.created link = [])
      (silent : ∀ key, call.stores key link = [])
      (swept : (call.perform link).2.client.assignment =
        (sweep visit partitions link.client.assignment).2)
      (same : ∀ tp entries,
        (visit tp entries).2.map (fun entry => (entry.key, entry.position, entry.stored)) =
          entries.map fun entry => (entry.key, entry.position, entry.stored)) :
      call.Accounts link after :=
    accounts_of_kept uncreated silent (by rw [swept]; exact sweep_map same partitions _) inside
  cases call with
  | close => exact absurd inside List.not_mem_nil
  | unsubscribe => exact absurd inside List.not_mem_nil
  | subscribe topics =>
    obtain ⟨_, refused⟩ | ⟨_, accepted⟩ := subscribe_cases topics link
    · exact accounts_of_refused rfl (fun _ => rfl) (fun _ => rfl) refused inside
    · change after ∈ ((Client.subscribe topics).run link).2.client.assignment at inside
      rw [accepted] at inside
      exact absurd inside List.not_mem_nil
  | assign partitions => exact accounts_assign inside
  | unassign =>
    obtain ⟨_, refused⟩ | accepted := unassign_cases link
    · exact accounts_of_refused rfl (fun _ => rfl) (fun _ => rfl) refused inside
    · change after ∈ (Client.unassign.run link).2.client.assignment at inside
      rw [accepted] at inside
      exact absurd inside List.not_mem_nil
  | incrementalAssign partitions => exact accounts_incrementalAssign inside
  | incrementalUnassign partitions =>
    obtain ⟨_, refused⟩ | accepted := incrementalUnassign_cases partitions link
    · exact accounts_of_refused rfl (fun _ => rfl) (fun _ => rfl) refused inside
    · change after ∈
        ((Client.incrementalUnassign partitions).run link).2.client.assignment at inside
      rw [accepted] at inside
      exact ⟨after, .inr ⟨(List.mem_filter.mp inside).1, List.not_mem_nil⟩, .of_same rfl rfl⟩
  | seek tp timeout => exact accounts_seek once inside
  | pause partitions => exact whenSwept rfl (fun _ => rfl) rfl (setPaused_map fun _ => rfl)
  | resume partitions => exact whenSwept rfl (fun _ => rfl) rfl (setPaused_map fun _ => rfl)
  | storeOffsets partitions => exact accounts_storeOffsets once inside
  | poll timeout => exact accounts_poll once' inside
  | _ => exact whenSpared trivial rfl fun _ => rfl

end LogConsumer.ClientCall
