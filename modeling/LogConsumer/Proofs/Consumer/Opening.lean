import LogConsumer.Proofs.Client.Keys
import LogConsumer.Proofs.Client.Placement
import LogConsumer.Proofs.Consumer.Operations
import LogConsumer.Proofs.Consumer.Polls

/-!
# The open handle of a consumer

What connecting, assigning and committing do to the handle and its cluster. A handle that was just
connected is fresh, whatever partitions the consumer remembers from an earlier session
(`connect_holds`), and assigning and committing pass on what the handle answers.
-/
namespace LogConsumer

open Consumer Consumer.Does

variable {site site' : Site} {link link' : Link}

/-- A site holds the link of its handle still if neither its connection nor its cluster changed. -/
theorem Site.Holds.congr (holds : site.Holds link)
    (connection : site'.consumer.connection = site.consumer.connection)
    (cluster : site'.cluster = site.cluster) : site'.Holds link :=
  ⟨connection.trans holds.opened, cluster.trans holds.cluster⟩

/-- After a call on the open handle the site holds what the call made of the link. -/
theorem Site.Holds.linked (holds : site.Holds link) (traced : ClientCall) (link' : Link) :
    ((site.traced link.client traced).linked link').Holds link' := by
  refine ⟨?_, rfl⟩
  change site.consumer.connection.update link'.client = _
  rw [holds.opened]
  rfl

/-- A call on the open handle passes on what the handle answers. -/
theorem Site.Holds.call_run {α : Type} (holds : site.Holds link) (traced : ClientCall)
    (primitive : Client.Action α) :
    ∃ site', (call link.client traced primitive).run site =
        ((primitive.run link).1.mapError .protocol, site') ∧
          site'.Holds (primitive.run link).2 := by
  have called := Consumer.call_run link.client traced primitive site
  rw [holds.cluster] at called
  exact ⟨_, called, holds.linked traced _⟩

/-- Resuming partitions of a handle that reads none changes nothing, and every one of them is
unknown to the handle. -/
theorem resume_nothing {link : Link} (nothing : link.client.assignment = [])
    (partitions : List TopicPartition) :
    (ClientCall.resume partitions).perform link =
      ({ outcome := .ok .done
         written := some (partitions.map fun tp => { tp with error := .unknownPartition }) },
        link) := by
  have swept : Client.sweep (Client.setPaused false) partitions [] =
      (partitions.map fun tp => { tp with error := .unknownPartition }, []) := by
    induction partitions with
    | nil => rfl
    | cons tp partitions ih => simp [Client.sweep, Client.setPaused, Assigned.updateFirst?, ih]
  obtain ⟨client, cluster⟩ := link
  have same : client.assignment = [] := nothing
  let sweeps := Client.sweep (Client.setPaused false) partitions client.assignment
  have ran : sweeps = (partitions.map fun tp => { tp with error := .unknownPartition }, []) := by
    show Client.sweep _ _ client.assignment = _
    rw [same, swept]
  show (({ outcome := .ok .done, written := some sweeps.1 },
    { client := { client with assignment := sweeps.2 }, cluster }) : ClientAnswer × Link) = _
  rw [ran, ← same]

/-- A site that holds a handle that reads nothing holds it still after an act of a greeting. -/
theorem holds_of_act {site site' : Site} (nothing : link.client.assignment = [])
    (act : Act Operation.connect.Makes False site site') (holds : site.Holds link) :
    site'.Holds link := by
  cases act with
  | tidy same => exact holds.congr (congrArg Core.connection same) rfl
  | reset partitions subscriptionFlag may => exact may.elim
  | told admits may => exact holds.congr rfl rfl
  | @reached client request admits may =>
    rcases admits with opened | ⟨closing, _⟩
    · have own : client = link.client :=
        Connection.connected.inj (opened.symm.trans holds.opened)
      have unchanged : (request.perform link).2 = link := by
        rcases may with rfl | ⟨partitions, rfl⟩
        · rfl
        · exact congrArg Prod.snd (resume_nothing nothing partitions)
      have here : (⟨client, site.cluster⟩ : Link) = link := by rw [own, holds.cluster]
      rw [here, unchanged]
      refine ⟨?_, rfl⟩
      rw [Site.linked, opened, own]
      rfl
    · cases closing.symm.trans holds.opened

/-- Connecting, where there is no handle, installs a fresh one and counts it. -/
theorem connect_holds (vacant : site.consumer.connection = .disconnected)
    (done : Consumer.connect.run site = (.ok (), site')) :
    ∃ client : Client, client.settings = .ofConfig site.consumer.config ∧ client.closed = false ∧
      client.ownKeys? = some [] ∧
      site'.Holds ⟨client, { site.cluster with created := site.cluster.created + 1 }⟩ := by
  obtain ⟨boundary, done⟩ := connect_eq_ok vacant done
  let prepared : Site := { site with consumer := { site.consumer with boundary } }
  let link : Link := ⟨nextClient prepared, (installed prepared).cluster⟩
  have begins : (installed prepared).Holds link := ⟨rfl, rfl⟩
  have greeted : Does (fun site site' => site.Holds link → site'.Holds link)
      (Consumer.greet (nextClient prepared)).run (installed prepared) :=
    greet rfl (fun _ _ act holds => holds_of_act rfl act holds) fun _ _ holds => holds.congr rfl rfl
  have final := greeted.whole (fun _ => id) (fun _ _ _ before after => after ∘ before) begins
  rw [done] at final
  exact ⟨nextClient prepared, rfl, rfl, rfl, final⟩

/-- Assigning well-formed partitions succeeds where the handle accepts them. -/
theorem Site.Holds.assign_run (holds : site.Holds link) {partitions : List TopicPartition}
    (wellFormed : ∀ tp ∈ partitions, inputFault? tp = none)
    (accepted : (Client.assign partitions).run link = (.ok (), link')) :
    ∃ site', (Consumer.assign partitions).run site = (.ok (), site') ∧ site'.Holds link' := by
  obtain ⟨between, called, holds'⟩ := holds.call_run (.assign partitions) (Client.assign partitions)
  rw [accepted] at called holds'
  have passed : (requireWellFormed partitions).run site = (.ok (), site) := by
    obtain ⟨_, passed⟩ | ⟨fault, found, _⟩ := requireWellFormed_cases partitions site
    · exact passed
    · rw [List.findSome?_eq_none_iff.mpr wellFormed] at found
      contradiction
  unfold Consumer.assign
  rw [run_bind_ok (openHandle_run holds.opened), run_bind_ok passed, run_bind_ok called]
  exact ⟨_, rfl, holds'.congr rfl rfl⟩

/-- Committing what is stored passes on what the handle answers. -/
theorem Site.Holds.commit_run (holds : site.Holds link) (mode : CommitMode) :
    ∃ site', (Consumer.commit none mode).run site =
        (((Client.commit none).run link).1.mapError .protocol, site') ∧
      site'.Holds ((Client.commit none).run link).2 := by
  obtain ⟨client, cluster⟩ := link
  obtain ⟨opened, rfl⟩ := holds
  have formed : (requireWellFormed ((none : Option (List TopicPartition)).getD [])).run site =
      (.ok (), site) := rfl
  have told : (trace client (.commit none mode) site).2 = site.traced client (.commit none mode) :=
    rfl
  have still : (site.traced client (.commit none mode)).cluster = site.cluster := rfl
  unfold Consumer.commit
  rw [run_bind_ok (openHandle_run opened), run_bind_ok formed, run_lift, told,
    run_bind_ok (onHandle_run client _ _), run_lift, still]
  have kept (link : Link) :
      site.consumer.connection.update link.client = .connected link.client := by
    rw [opened]
    rfl
  cases (Client.commit none).run ⟨client, site.cluster⟩ with
  | mk outcome link =>
    cases outcome with
    | ok _ => exact ⟨_, rfl, kept link, rfl⟩
    | error error => exact ⟨_, rfl, kept link, rfl⟩

end LogConsumer
