import LogConsumer.Proofs.Client.Keys
import LogConsumer.Proofs.Client.Placement
import LogConsumer.Proofs.Consumer.Moments
import LogConsumer.Proofs.Consumer.Operations
import LogConsumer.Proofs.PartitionSets

/-!
# The partition set mirrors the assignment

The set of partitions of a consumer and the assignment of its client are changed by different rules.
As long as the consumer stays connected and does not subscribe, and no list to assign repeats a
partition, both hold the same partitions in the same order (`partitions_mirror_assignment`): a
change that the client refuses is not taken over, a change that it accepts does the same to both,
and nothing else changes either.
-/
namespace LogConsumer

open Consumer Consumer.Does

variable {site site' : Site} {client : Client} {makes : ClientCall → Prop} {resets : Prop}
  {α β : Type}

/-- The open handle does not subscribe, and reads exactly the partitions of the set, in the order of
the set. -/
structure Consumer.Mirrors (consumer : Consumer) (client : Client) : Prop where
  /-- The handle is open. -/
  connected : consumer.connection = .connected client
  /-- It reads the partitions of the set without subscribing. -/
  keys : client.ownKeys? = some consumer.partitions.keys
  /-- The set repeats nothing and is counted. -/
  counted : consumer.partitions.Counted
  /-- No subscription was made. -/
  unflagged : consumer.subscriptionFlag = false

/-- The set of partitions mirrors the assignment of the open handle. -/
def Site.Mirrored (site : Site) : Prop :=
  ∃ client, site.consumer.Mirrors client

/-- The set of partitions mirrors the assignment afterwards if it did before. -/
def Stays (site site' : Site) : Prop :=
  site.Mirrored → site'.Mirrored

/-- A call passes the gate on the open handle only. -/
theorem Consumer.Mirrors.of_admits {request : ClientCall} {other : Client}
    (mirrors : site.consumer.Mirrors client) (admits : site.Admits other request) :
    other = client := by
  rcases admits with state | ⟨state, _⟩
  · exact Connection.connected.inj (state.symm.trans mirrors.connected)
  · cases state.symm.trans mirrors.connected

/-- An act that neither says what is read nor changes what is believed to be assigned keeps the
mirror. -/
theorem stays_of_act (spares : ∀ request, makes request → request.SparesKeys) (calm : ¬resets)
    (act : Act makes resets site site') : Stays site site' := by
  rintro ⟨client, mirrors⟩
  cases act with
  | @tidy consumer same =>
    have connection : consumer.connection = site.consumer.connection :=
      congrArg Core.connection same
    have partitions : consumer.partitions = site.consumer.partitions :=
      congrArg Core.partitions same
    have flag : consumer.subscriptionFlag = site.consumer.subscriptionFlag :=
      congrArg Core.subscriptionFlag same
    refine ⟨client, connection.trans mirrors.connected, ?_, ?_, flag.trans mirrors.unflagged⟩
    · rw [partitions]
      exact mirrors.keys
    · rw [partitions]
      exact mirrors.counted
  | reset partitions subscriptionFlag may => exact absurd may calm
  | told admits may => exact ⟨client, mirrors.connected, mirrors.keys, mirrors.counted,
      mirrors.unflagged⟩
  | @reached other request admits may =>
    rw [mirrors.of_admits admits]
    refine ⟨(request.perform ⟨client, site.cluster⟩).2.client, ?_, ?_, mirrors.counted,
      mirrors.unflagged⟩
    · rw [Site.linked, mirrors.connected]
      rfl
    · have kept := ClientCall.keeps_ownKeys? (spares request may) ⟨client, site.cluster⟩
      exact kept.trans mirrors.keys

/-- An action all of whose parts keep the mirror keeps it. -/
theorem stays_of_does {action : StateM Site α} (does : Does Stays action site) :
    Stays site (action site).2 :=
  does.whole (fun _ => id) fun _ _ _ before after => after ∘ before

/-- An action made of acts of that kind keeps the mirror. -/
theorem stays_of_acts {action : StateM Site α} (acts : Acts makes resets action site)
    (spares : ∀ request, makes request → request.SparesKeys) (calm : ¬resets) :
    Stays site (action site).2 :=
  stays_of_does (acts.mono fun _ _ => stays_of_act spares calm)

/-- A call that the handle refuses without a change, or accepts in a way that is taken over, keeps
the mirror. -/
theorem mirrored_of_call {request : ClientCall} {primitive : Client.Action α} {rest : α → Action β}
    (mirrors : site.consumer.Mirrors client)
    (outcome : (∃ error link, primitive.run ⟨client, site.cluster⟩ = (.error error, link) ∧
        link.client = client) ∨
      ∃ answer link, primitive.run ⟨client, site.cluster⟩ = (.ok answer, link) ∧
        ((rest answer).run ((site.traced client request).linked link)).2.Mirrored) :
    ((call client request primitive >>= rest).run site).2.Mirrored := by
  have called := call_run client request primitive site
  obtain ⟨error, link, refused, same⟩ | ⟨answer, link, accepted, taken⟩ := outcome
  · rw [refused] at called
    rw [run_bind_error called]
    refine ⟨client, ?_, mirrors.keys, mirrors.counted, mirrors.unflagged⟩
    change site.consumer.connection.update link.client = _
    rw [mirrors.connected, same]
    rfl
  · rw [accepted] at called
    rw [run_bind_ok called]
    exact taken

/-- A change that the handle has accepted and that is taken over keeps the mirror. -/
theorem mirrored_of_taken {request : ClientCall} {link : Link} {partitions : PartitionSet}
    (mirrors : site.consumer.Mirrors client) (keys : link.client.ownKeys? = some partitions.keys)
    (counted : partitions.Counted) {final : Site}
    (taken : final.consumer.core =
      { ((site.traced client request).linked link).consumer.core with partitions }) :
    final.Mirrored := by
  have connection : final.consumer.connection = site.consumer.connection.update link.client :=
    congrArg Core.connection taken
  have set : final.consumer.partitions = partitions := congrArg Core.partitions taken
  have flag : final.consumer.subscriptionFlag = site.consumer.subscriptionFlag :=
    congrArg Core.subscriptionFlag taken
  refine ⟨link.client, ?_, ?_, ?_, flag.trans mirrors.unflagged⟩
  · rw [connection, mirrors.connected]
    rfl
  · rw [set]
    exact keys
  · rw [set]
    exact counted

/-- Replacing the assignment by partitions that do not repeat keeps the mirror. -/
theorem assign_stays {partitions : List TopicPartition}
    (distinct : (partitions.map TopicPartition.key).Nodup) (site : Site) :
    Stays site ((Consumer.assign partitions).run site).2 := by
  rintro ⟨client, mirrors⟩
  unfold Consumer.assign
  rw [run_bind_ok (openHandle_run mirrors.connected)]
  obtain ⟨_, passed⟩ | ⟨fault, _, refused⟩ := requireWellFormed_cases partitions site
  · rw [run_bind_ok passed]
    refine mirrored_of_call mirrors ?_
    obtain ⟨_, error, refused⟩ | ⟨_, accepted⟩ :=
      Client.assign_cases partitions ⟨client, site.cluster⟩
    · exact .inl ⟨error, _, refused, rfl⟩
    · have keys : (Client.replaced ⟨client, site.cluster⟩ partitions).ownKeys? =
          some (site.consumer.partitions.replace partitions).keys :=
        Client.ownKeys?_eq_some.mpr ⟨(Client.ownKeys?_eq_some.mp mirrors.keys).1,
          Client.assignedOfList_key _ partitions⟩
      exact .inr ⟨(), _, accepted, mirrored_of_taken mirrors keys (.replace distinct _) rfl⟩
  · rw [run_bind_error refused]
    exact ⟨client, mirrors⟩

/-- Adding partitions that do not repeat to the assignment keeps the mirror: the client accepts them
only if none of them was assigned. -/
theorem incrementalAssign_stays {partitions : List TopicPartition}
    (distinct : (partitions.map TopicPartition.key).Nodup) (site : Site) :
    Stays site ((Consumer.incrementalAssign partitions).run site).2 := by
  rintro ⟨client, mirrors⟩
  obtain ⟨unsubscribed, same⟩ := Client.ownKeys?_eq_some.mp mirrors.keys
  unfold Consumer.incrementalAssign
  rw [run_bind_ok (openHandle_run mirrors.connected)]
  obtain ⟨_, passed⟩ | ⟨fault, _, refused⟩ := requireWellFormed_cases partitions site
  · rw [run_bind_ok passed]
    refine mirrored_of_call mirrors ?_
    obtain ⟨error, refused⟩ | ⟨_, apart, accepted⟩ :=
      Client.incrementalAssign_cases partitions ⟨client, site.cluster⟩
    · exact .inl ⟨error, _, refused, rfl⟩
    · have keys : (Client.extended ⟨client, site.cluster⟩ partitions).ownKeys? =
          some (site.consumer.partitions.extend partitions).keys := by
        refine Client.ownKeys?_eq_some.mpr ⟨unsubscribed, ?_⟩
        rw [Client.extended, List.map_append, same, Client.assignedOfList_key, PartitionSet.keys,
          PartitionSet.keys, PartitionSet.extend, List.map_append]
      rw [same] at apart
      have counted := mirrors.counted.extend distinct apart
      exact .inr ⟨(), _, accepted, mirrored_of_taken mirrors keys counted rfl⟩
  · rw [run_bind_error refused]
    exact ⟨client, mirrors⟩

/-- Dropping the assignment keeps the mirror. -/
theorem unassign_stays (site : Site) : Stays site (Consumer.unassign.run site).2 := by
  rintro ⟨client, mirrors⟩
  unfold Consumer.unassign
  rw [run_bind_ok (anyHandle_run mirrors.connected)]
  refine mirrored_of_call mirrors ?_
  obtain ⟨error, refused⟩ | accepted := Client.unassign_cases ⟨client, site.cluster⟩
  · exact .inl ⟨error, _, refused, rfl⟩
  · have keys : ({ client with assignment := [], cursor := 0 } : Client).ownKeys? =
        some site.consumer.partitions.clear.keys :=
      Client.ownKeys?_eq_some.mpr ⟨(Client.ownKeys?_eq_some.mp mirrors.keys).1, rfl⟩
    have counted : site.consumer.partitions.clear.Counted := ⟨List.nodup_nil, rfl⟩
    exact .inr ⟨(), _, accepted, mirrored_of_taken mirrors keys counted rfl⟩

/-- Taking partitions from the assignment keeps the mirror: where nothing repeats, removing the
first entry of each partition named removes what the client drops. -/
theorem incrementalUnassign_stays (partitions : List TopicPartition) (site : Site) :
    Stays site ((Consumer.incrementalUnassign partitions).run site).2 := by
  rintro ⟨client, mirrors⟩
  obtain ⟨unsubscribed, same⟩ := Client.ownKeys?_eq_some.mp mirrors.keys
  unfold Consumer.incrementalUnassign
  rw [run_bind_ok (anyHandle_run mirrors.connected)]
  obtain ⟨_, passed⟩ | ⟨fault, _, refused⟩ := requireWellFormed_cases partitions site
  · rw [run_bind_ok passed]
    refine mirrored_of_call mirrors ?_
    obtain ⟨error, refused⟩ | accepted :=
      Client.incrementalUnassign_cases partitions ⟨client, site.cluster⟩
    · exact .inl ⟨error, _, refused, rfl⟩
    · obtain ⟨counted, remaining⟩ := PartitionSet.removeMatching_keys mirrors.counted partitions
      have dropped : (client.assignment.filter fun entry =>
            !partitions.any fun tp => entry.key = tp.key).map Assigned.key =
          (client.assignment.map Assigned.key).filter
            fun key => !partitions.any fun tp => key = tp.key := by
        rw [List.filter_map]
        rfl
      refine .inr ⟨(), _, accepted, mirrored_of_taken mirrors ?_ counted rfl⟩
      rw [remaining, ← same, ← dropped]
      exact Client.ownKeys?_eq_some.mpr ⟨unsubscribed, rfl⟩
  · rw [run_bind_error refused]
    exact ⟨client, mirrors⟩

/-- Taking the client's assignment over keeps the mirror. -/
theorem refreshAssignments_stays (site : Site) :
    Stays site (Consumer.refreshAssignments.run site).2 := by
  rintro ⟨client, mirrors⟩
  obtain ⟨unsubscribed, same⟩ := Client.ownKeys?_eq_some.mp mirrors.keys
  unfold Consumer.refreshAssignments
  rw [run_bind_ok (openHandle_run mirrors.connected)]
  refine mirrored_of_call mirrors ?_
  obtain ⟨error, refused⟩ | accepted := Client.assignedPartitions_cases ⟨client, site.cluster⟩
  · exact .inl ⟨error, _, refused, rfl⟩
  · have listed : (client.assignment.map fun entry =>
        ({ topic := entry.topic, partition := entry.partition } : TopicPartition)).map
          TopicPartition.key = site.consumer.partitions.keys := by
      rw [List.map_map, ← same]
      rfl
    have keys : client.ownKeys? = some (site.consumer.partitions.replace
        (client.assignment.map fun entry =>
          { topic := entry.topic, partition := entry.partition })).keys := by
      rw [mirrors.keys, ← listed]
      rfl
    have counted : (site.consumer.partitions.replace (client.assignment.map fun entry =>
        { topic := entry.topic, partition := entry.partition })).Counted :=
      .replace (by rw [listed]; exact mirrors.counted.distinct) _
    exact .inr ⟨_, _, accepted, mirrored_of_taken mirrors keys counted rfl⟩

/-- Without a subscription there is none to drop. -/
theorem unsubscribe_stays (site : Site) : Stays site (Consumer.unsubscribe.run site).2 := by
  rintro ⟨client, mirrors⟩
  have flag : site.consumer.isSubscribed = false := by
    rw [Consumer.isSubscribed, mirrors.unflagged, Bool.and_false]
  unfold Consumer.unsubscribe
  rw [run_get, flag]
  exact ⟨client, mirrors⟩

/-- Where a handle is open, connecting does nothing. -/
theorem connect_stays (site : Site) : Stays site (Consumer.connect.run site).2 := by
  rintro ⟨client, mirrors⟩
  have opened : site.consumer.connection.isConnected = true := by
    rw [mirrors.connected]
    rfl
  unfold Consumer.connect
  rw [run_get, opened]
  exact ⟨client, mirrors⟩

/-- An operation that may not change what is believed to be assigned does not say what is read
either, unless it closes the handle. -/
theorem Operation.sparesKeys_of_makes {operation : Operation} (calm : ¬operation.Resets)
    (closes : operation ≠ .disconnect) {request : ClientCall} (made : operation.Makes request) :
    request.SparesKeys := by
  cases operation with
  | disconnect => exact absurd rfl closes
  | connect => rcases made with rfl | ⟨_, rfl⟩ <;> trivial
  | subscribe | unsubscribe | assign | unassign | incrementalAssign | incrementalUnassign
  | refreshAssignments | assignments => exact absurd trivial calm
  | consume | consumeMany | seek | committed | storeOffset | offsetsForTimes | queryWatermarks =>
    obtain ⟨_, rfl⟩ := made
    trivial
  | subscription | commit | position | pause | resume | storeOffsets | cachedWatermarks
  | rebalanceProtocol =>
    cases made
    trivial
  | hasAssigned | name | isClosing | isConnected | activate | deactivate | metrics => cases made

/-- An operation that may not change what is believed to be assigned keeps the mirror. -/
theorem calm_stays {operation : Operation} (inside : StateM Site Unit)
    (calm : ¬operation.Resets) (opens : operation ≠ .connect) (closes : operation ≠ .disconnect)
    (site : Site) : Stays site ((operation.perform inside).run site).2 :=
  stays_of_acts (perform inside opens closes site)
    (fun _ => Operation.sparesKeys_of_makes calm closes) calm

/-- The moment neither ends the session nor subscribes, and repeats no partition that it assigns. -/
def Moment.StaysInSession : Moment → Prop
  | .operate .disconnect | .operate (.subscribe _) => False
  | .operate (.assign partitions) | .operate (.incrementalAssign partitions) =>
    (partitions.map TopicPartition.key).Nodup
  | _ => True

/-- An operation in a session keeps the mirror. -/
theorem operate_stays {operation : Operation} (inside : StateM Site Unit)
    (stays : (Moment.operate operation).StaysInSession) (site : Site) :
    Stays site ((operation.perform inside).run site).2 := by
  cases operation with
  | disconnect | subscribe => exact stays.elim
  | connect => exact stays_of_does (answer (.single (connect_stays site)))
  | unsubscribe => exact stays_of_does (answer (.single (unsubscribe_stays site)))
  | assign partitions => exact stays_of_does (answer (.single (assign_stays stays site)))
  | unassign => exact stays_of_does (answer (.single (unassign_stays site)))
  | incrementalAssign partitions =>
    exact stays_of_does (answer (.single (incrementalAssign_stays stays site)))
  | incrementalUnassign partitions =>
    exact stays_of_does (answer (.single (incrementalUnassign_stays partitions site)))
  | refreshAssignments => exact stays_of_does (answer (.single (refreshAssignments_stays site)))
  | assignments =>
    have taken : Does Stays Consumer.assignments.run site :=
      bind (.single (refreshAssignments_stays site)) fun _ _ _ => get (pure _)
    exact stays_of_does (answer taken)
  | _ =>
    apply calm_stays inside
    · exact id
    · exact nofun
    · exact nofun

/-- Whatever happens in a session keeps the mirror. -/
theorem moment_stays {moment : Moment} (inside : StateM Site Unit)
    (stays : moment.StaysInSession) (site : Site) : Stays site (moment.perform inside site).2 := by
  cases moment with
  | operate operation => exact operate_stays inside stays site
  | startLoop timeout sleepDelay =>
    have acts : Acts (fun _ => False) False (Consumer.consumeLoop timeout sleepDelay).run site :=
      consumeLoop timeout sleepDelay site
    exact stays_of_acts acts nofun id
  | advanceLoop workerFree =>
    have acts : Acts (fun request => ∃ timeout, request = .poll timeout) False
        (Consumer.advanceLoop workerFree) site :=
      advanceLoop workerFree (fun timeout => ⟨timeout, rfl⟩) site
    exact stays_of_acts acts (fun _ ⟨_, same⟩ => by rw [same]; trivial) id
  | stopLoop wait reportsPanic =>
    have acts : Acts (fun _ => False) False (Consumer.stopLoop wait reportsPanic).run site :=
      stopLoop wait reportsPanic site
    exact stays_of_acts acts nofun id
  | surroundings boundary others created =>
    exact fun ⟨client, mirrors⟩ => ⟨client, mirrors.connected, mirrors.keys, mirrors.counted,
      mirrors.unflagged⟩

/-- A session begins with nothing assigned on either side. -/
theorem connect_mirrored (vacant : site.consumer.connection = .disconnected)
    (empty : site.consumer.partitions = {}) (unflagged : site.consumer.subscriptionFlag = false)
    (done : Consumer.connect.run site = (.ok (), site')) : site'.Mirrored := by
  obtain ⟨boundary, done⟩ := connect_eq_ok vacant done
  let prepared : Site := { site with consumer := { site.consumer with boundary } }
  have partitions : prepared.consumer.partitions = {} := empty
  have begins : (installed prepared).Mirrored := by
    refine ⟨nextClient prepared, rfl, ?_, ?_, unflagged⟩
    · change _ = some prepared.consumer.partitions.keys
      rw [partitions]
      rfl
    · change prepared.consumer.partitions.Counted
      rw [partitions]
      exact ⟨List.nodup_nil, rfl⟩
  have final : ((greet (nextClient prepared)).run (installed prepared)).2 = site' := by rw [done]
  rw [← final]
  refine stays_of_does (greet rfl (fun _ _ => stays_of_act ?_ id) fun site opened => ?_) begins
  · rintro request (rfl | ⟨_, rfl⟩) <;> trivial
  · exact fun ⟨client, mirrors⟩ => ⟨client, mirrors.connected, mirrors.keys, mirrors.counted,
      mirrors.unflagged⟩

/-- A course in a session keeps the mirror. -/
theorem course_stays {occurrences : List Occurrence}
    (stays : ∀ occurrence ∈ occurrences, occurrence.1.StaysInSession) (site : Site) :
    Stays site (course site occurrences) := by
  induction occurrences using List.reverseRecOn with
  | nil => exact id
  | append_singleton before occurrence ih =>
    have earlier := ih fun occurrence inside => stays occurrence (List.mem_append_left _ inside)
    have last := moment_stays occurrence.2.perform (stays occurrence (by simp)) (course site before)
    rw [course, List.foldl_append]
    exact last ∘ earlier

/-- From the connecting of a consumer that was just built on, whatever its boundary scripts: as long
as it neither disconnects nor subscribes, and no list to assign repeats a partition, the set of
partitions holds the keys of the client's assignment in the same order, repeats nothing, and has
their number for its count. -/
theorem partitions_mirror_assignment {setup : Setup} {consumer : Consumer}
    (built : setup.build = .ok consumer) {boundary : Boundary} {cluster : Cluster} {site : Site}
    (connected : Consumer.connect.run { consumer := { consumer with boundary }, cluster } =
      (.ok (), site))
    {occurrences : List Occurrence}
    (stays : ∀ occurrence ∈ occurrences, occurrence.1.StaysInSession) :
    let final := (course site occurrences).consumer
    ∃ client, final.connection = .connected client ∧
      final.partitions.entries.map TopicPartition.key = client.assignment.map Assigned.key ∧
      (final.partitions.entries.map TopicPartition.key).Nodup ∧
      final.partitions.count = (client.assignment.map Assigned.key).length := by
  intro final
  obtain ⟨config, factory, rfl⟩ := Setup.eq_of_build built
  obtain ⟨client, mirrors⟩ := course_stays stays site (connect_mirrored rfl rfl rfl connected)
  obtain ⟨_, same⟩ := Client.ownKeys?_eq_some.mp mirrors.keys
  refine ⟨client, mirrors.connected, same.symm, mirrors.counted.distinct, ?_⟩
  rw [same, mirrors.counted.count, PartitionSet.keys, List.length_map]

/-- A conflict that the client finds behind a partition it could add, and a partition that is taken
away twice, leave the set and the assignment alike. -/
theorem mirror_after_conflict :
    let tp (number : Int) : TopicPartition := { topic := "log", partition := number }
    let consumer : Consumer := { config := {} }
    let start : Site := { consumer := { consumer with boundary := {} }, cluster := {} }
    let session : List Occurrence :=
      [.operate (.assign [tp 0, tp 1]), .operate (.incrementalAssign [tp 2, tp 1]),
        .operate (.incrementalAssign [tp 3]), .operate (.incrementalUnassign [tp 0, tp 0]),
        .operate (.consume 0)].map fun moment => (moment, .script)
    let final := (course (Consumer.connect.run start).2 session).consumer
    final.partitions.entries.map TopicPartition.key = [("log", 1), ("log", 3)] ∧
      ∃ client, final.connection = .connected client ∧
        client.assignment.map Assigned.key = [("log", 1), ("log", 3)] := by
  intro tp consumer start session final
  have built : ({ factory := some {} } : Setup).build = .ok consumer := rfl
  have connected : Consumer.connect.run start = (.ok (), (Consumer.connect.run start).2) :=
    Prod.ext (by decide) rfl
  have stays : ∀ occurrence ∈ session, occurrence.1.StaysInSession := by
    simp [session, Moment.StaysInSession, tp, TopicPartition.key]
  obtain ⟨client, opened, same, _⟩ := partitions_mirror_assignment built connected stays
  exact ⟨by decide, client, opened, same.symm.trans (by decide)⟩

end LogConsumer
