import LogConsumer.Proofs.Consumer.Connecting
import LogConsumer.Proofs.Consumer.Opening

/-!
# Connecting again

What becomes of the partitions of an earlier session. The set of partitions outlives a disconnect,
and connecting lists it to the new handle to be resumed; but a handle resumes only what it reads,
and a new handle reads nothing (`resume_nothing`). So the list comes back with every partition
unknown, which nobody looks at, and the handle goes on reading nothing (`connect_restarts`). The
main result, `resumesSoundly_iff`, is that connecting again keeps its promise just where there is
nothing left to resume.
-/
namespace LogConsumer

/-- The client reads the partition, and does not pause it. -/
def Client.Reads (client : Client) (key : PartitionKey) : Prop :=
  ∃ entry, Assigned.find? client.assignment key = some entry ∧ entry.paused = false

/-- The handle of the link was told nothing yet that it should read. It is open, resuming is no news
to it whatever is listed, and its polls find nothing. -/
structure Link.Unread (link : Link) : Prop where
  /-- The handle is open. -/
  opened : link.client.closed = false
  /-- It subscribes to nothing. -/
  subscription : link.client.subscription = []
  /-- It reads nothing. -/
  assignment : link.client.assignment = []
  /-- It knows no partition that it is asked to resume. -/
  resumes : ∀ partitions, (ClientCall.resume partitions).perform link =
    ({ outcome := .ok .done
       written := some (partitions.map fun tp => { tp with error := .unknownPartition }) }, link)
  /-- Its polls answer with a code and nothing else. -/
  polls : ∀ timeout, (Client.poll timeout link).1.message = .empty (Client.emptyCode link)

/-- A handle that is open, subscribes to nothing and reads nothing was told nothing yet. -/
theorem Link.Unread.of_blank {link : Link} (opened : link.client.closed = false)
    (subscription : link.client.subscription = []) (assignment : link.client.assignment = []) :
    link.Unread where
  opened := opened
  subscription := subscription
  assignment := assignment
  resumes := resume_nothing assignment
  polls := Client.poll_unread subscription assignment

namespace Consumer

open Does

variable {site : Site}

/-- No act but a reset changes the set of partitions. -/
theorem partitions_of_act {site' : Site} {makes : ClientCall → Prop}
    (act : Act makes False site site') :
    site'.consumer.partitions = site.consumer.partitions := by
  cases act with
  | tidy same => exact congrArg Core.partitions same
  | reset partitions subscriptionFlag may => exact may.elim
  | told admits may => rfl
  | reached admits may => rfl

/-- Where there is no handle, a connect that succeeds keeps the set of partitions. -/
theorem connect_partitions {site' : Site} (vacant : site.consumer.connection = .disconnected)
    (done : connect.run site = (.ok (), site')) :
    site'.consumer.partitions = site.consumer.partitions := by
  obtain ⟨boundary, done⟩ := connect_eq_ok vacant done
  let prepared : Site := { site with consumer := { site.consumer with boundary } }
  have greeted : Does (fun site site' => site'.consumer.partitions = site.consumer.partitions)
      (Consumer.greet (nextClient prepared)).run (installed prepared) :=
    Does.greet rfl (fun _ _ act => partitions_of_act act) fun _ _ => rfl
  have same := greeted.whole (fun _ => rfl) fun _ _ _ before after => after.trans before
  rwa [done] at same

/-- Where there is no handle, a connect that succeeds installs a handle that was told nothing, and
remembers the partitions of the earlier session all the same. -/
theorem connect_restarts {site' : Site} (vacant : site.consumer.connection = .disconnected)
    (done : connect.run site = (.ok (), site')) :
    site'.consumer.partitions = site.consumer.partitions ∧
      ∃ link : Link, link.Unread ∧ site'.Holds link := by
  obtain ⟨client, _, opened, keys, holds⟩ := connect_holds vacant done
  obtain ⟨subscription, unkeyed⟩ := Client.ownKeys?_eq_some.mp keys
  have assignment : client.assignment = [] := List.map_eq_nil_iff.mp unkeyed
  exact ⟨connect_partitions vacant done, _, .of_blank opened subscription assignment, holds⟩

/-- What connecting promises about an earlier session: where a new handle is installed, and resuming
is not scripted to fail, the handle reads every partition that is remembered. -/
def ResumesSoundly (site : Site) : Prop :=
  site.consumer.connection = .disconnected →
  (site.consumer.boundary.takeFault .resume).1 = none →
  (connect.run site).1 = .ok () →
  ∃ client, (connect.run site).2.consumer.connection = .connected client ∧
    ∀ tp ∈ (connect.run site).2.consumer.partitions.entries, client.Reads tp.key

/-- Connecting installs a new handle, and resuming is not scripted to fail. -/
structure Reinstalls (site : Site) : Prop where
  /-- There is no handle. -/
  vacant : site.consumer.connection = .disconnected
  /-- The factory prepares. -/
  prepares : prepareFault site = none
  /-- The cluster accepts the handle. -/
  accepts : site.cluster.refusal = none
  /-- Resuming is not scripted to fail. -/
  resumes : (site.consumer.boundary.takeFault .resume).1 = none

/-- Where a new handle can be installed, connecting succeeds. -/
theorem Reinstalls.connects (reinstalls : Reinstalls site) : (connect.run site).1 = .ok () := by
  have state : site.consumer.connection.state = .disconnected := by
    rw [reinstalls.vacant]
    rfl
  obtain ⟨_, fails, _⟩ | ⟨_, _, refused, _⟩ | ⟨_, _, done, _⟩ := connect_disconnected state
  · cases reinstalls.prepares.symm.trans fails
  · cases reinstalls.accepts.symm.trans refused
  · exact done

/-- Where connecting succeeds without a handle before, a new one could be installed. -/
theorem Reinstalls.of_connects (vacant : site.consumer.connection = .disconnected)
    (resumes : (site.consumer.boundary.takeFault .resume).1 = none)
    (done : (connect.run site).1 = .ok ()) : Reinstalls site := by
  have state : site.consumer.connection.state = .disconnected := by
    rw [vacant]
    rfl
  obtain ⟨_, _, failed⟩ | ⟨_, _, _, failed⟩ | ⟨prepares, accepts, _⟩ := connect_disconnected state
  · rw [failed] at done
    contradiction
  · rw [failed] at done
    contradiction
  · exact ⟨vacant, prepares, accepts, resumes⟩

/-- At every site: a connect that installs a new handle and succeeds keeps the set of partitions,
and the handle was told nothing, so that whatever is to be resumed on it is unknown to it and its
polls find nothing. So connecting keeps its promise exactly at the sites where no new handle can be
installed and those where no partition is left from an earlier session. -/
theorem resumesSoundly_iff (site : Site) :
    (site.consumer.connection = .disconnected → (connect.run site).1 = .ok () →
      (connect.run site).2.consumer.partitions = site.consumer.partitions ∧
      ∃ link : Link, link.Unread ∧ (connect.run site).2.Holds link) ∧
    (ResumesSoundly site ↔
      ¬(Reinstalls site ∧ site.consumer.partitions.entries ≠ [])) := by
  have restarts (vacant : site.consumer.connection = .disconnected)
      (done : (connect.run site).1 = .ok ()) :
      (connect.run site).2.consumer.partitions = site.consumer.partitions ∧
        ∃ link : Link, link.Unread ∧ (connect.run site).2.Holds link :=
    connect_restarts vacant (Prod.ext done rfl)
  refine ⟨restarts, ?_, ?_⟩
  · rintro sound ⟨reinstalls, left⟩
    have done := reinstalls.connects
    obtain ⟨kept, link, unread, holds⟩ := restarts reinstalls.vacant done
    obtain ⟨client, opened, reads⟩ := sound reinstalls.vacant reinstalls.resumes done
    have own : client = link.client := Connection.connected.inj (opened.symm.trans holds.opened)
    obtain ⟨tp, inside⟩ := List.exists_mem_of_ne_nil _ left
    obtain ⟨entry, found, _⟩ := reads tp (by rwa [kept])
    rw [own, unread.assignment] at found
    contradiction
  · intro other vacant resumes done
    have reinstalls := Reinstalls.of_connects vacant resumes done
    have nothing : site.consumer.partitions.entries = [] := by
      by_contra left
      exact other ⟨reinstalls, left⟩
    obtain ⟨kept, link, _, holds⟩ := restarts vacant done
    refine ⟨link.client, holds.opened, fun tp inside => ?_⟩
    rw [kept, nothing] at inside
    contradiction

end Consumer

/-- A consumer is assigned a partition, disconnects and connects again. The connect succeeds, the
consumer claims the partition to be assigned, and the handle reads nothing: to be resumed, the
partition is unknown. -/
theorem forgotten_after_reconnect :
    let fresh : Site :=
      { consumer := { config := { groupId := some "g" } }
        cluster := ({} : Cluster).createTopic "t" 1 }
    let tp : TopicPartition := { topic := "t", partition := 0 }
    let before := course fresh
      [(.operate .connect, .script), (.operate (.assign [tp]), .script),
        (.operate .disconnect, .script)]
    let after := (Consumer.connect.run before).2
    (Consumer.connect.run before).1 = .ok () ∧
      before.consumer.connection = .disconnected ∧
      (before.consumer.boundary.takeFault .resume).1 = none ∧
      after.consumer.partitions.entries = [tp] ∧ after.consumer.hasAssigned = true ∧
      (∃ client, after.consumer.connection = .connected client ∧ client.assignment = []) ∧
      ((Consumer.resume [tp]).run after).1 = .ok [{ tp with error := .unknownPartition }] :=
  ⟨rfl, rfl, rfl, rfl, rfl, ⟨_, rfl, rfl⟩, rfl⟩

end LogConsumer
