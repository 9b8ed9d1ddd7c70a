import LogConsumer.Proofs.Consumer.Validity
import LogConsumer.Proofs.Session.Accounting

/-!
# Validity of a session

In a session of consumers alone, nobody hands a malformed partition to a client or to the cluster:
every consumer checks what it is given before it passes it on. So the cluster and all the consumers
stay valid over any run, whatever is asked of them, and nothing but well-formed calls reaches a
handle. What one consumer commits is where another resumes, and so what is polled is at an absolute
offset, unless that is scripted: the main result is `Session.valid_throughout`.
-/
namespace LogConsumer

open Consumer

variable {α : Type}

/-- What is done by a consumer and its boundary keeps everything in good order. -/
theorem guards_upheld : Upheld Site.Guards where
  refl _ := .refl
  trans _ _ _ := .trans
  operates := Operation.run_guards
  starts timeout sleepDelay site :=
    .of_does (guards_of_books (Does.consumeLoop timeout sleepDelay site))
  advances := advanceLoop_guards
  stops wait reportsPanic site := .of_does (guards_of_books (Does.stopLoop wait reportsPanic site))
  scripts site boundary traced valid := by
    have same : ({ site.consumer with boundary } : Consumer).core = site.consumer.core := by
      unfold core
      rw [traced]
    exact ⟨⟨valid.consumer.congr same, valid.cluster⟩, .single (.aside rfl)⟩
  clears site valid :=
    ⟨⟨⟨valid.consumer.handle, valid.consumer.entries, List.forall_mem_nil _⟩, valid.cluster⟩,
      .single (.aside rfl)⟩
  listens site events valid := by
    have same : ({ site.consumer with events } : Consumer).core = site.consumer.core := rfl
    exact ⟨⟨valid.consumer.congr same, valid.cluster⟩, .single (.aside rfl)⟩

namespace Session

variable {session between session' : Session}

/-- The consumers and the cluster of a session mislead nobody. -/
structure Valid (session : Session) : Prop where
  /-- The cluster is valid. -/
  cluster : session.cluster.Valid
  /-- Every consumer is valid. -/
  consumers : ∀ participant ∈ session.participants, participant.consumer.Valid

/-- A valid session of consumers alone, whose jobs keep everything in good order. -/
structure Guarded (session : Session) : Prop where
  /-- The consumers and the cluster are valid. -/
  valid : session.Valid
  /-- No client is used without a consumer. -/
  alone : session.clients = []
  /-- What the jobs of the consumers have still to do keeps everything in good order. -/
  acts : ∀ participant ∈ session.participants, participant.dispatcher.Upholds Site.Guards

/-- To every consumer of a session everything happens in good order until a later session. -/
def Orderly (session session' : Session) : Prop :=
  ∀ (number : Nat) (before : Participant), session.participants[number]? = some before →
    ∃ after : Participant, session'.participants[number]? = some after ∧
      Relation.ReflTransGen Site.Orderly ⟨before.consumer, session.cluster⟩
        ⟨after.consumer, session'.cluster⟩

/-- From one session to the next what is guarded stays so, and everything happens in good order. -/
def Guards (session session' : Session) : Prop :=
  session.Guarded → session'.Guarded ∧ session.Orderly session'

namespace Guards

/-- What is guarded before and after is guarded as a whole. -/
theorem trans (before : Guards session between) (after : Guards between session') :
    Guards session session' := by
  intro guarded
  obtain ⟨still, first⟩ := before guarded
  obtain ⟨last, later⟩ := after still
  refine ⟨last, fun number participant present => ?_⟩
  obtain ⟨middle, there, begun⟩ := first number participant present
  obtain ⟨final, there', ended⟩ := later number middle there
  exact ⟨final, there', begun.trans ended⟩

/-- What leaves the consumers alone and commits nothing is guarded. -/
theorem surrounded (consumers : session'.participants = session.participants)
    (clients : session'.clients = session.clients)
    (commits : session'.cluster.commits = session.cluster.commits) :
    Guards session session' := by
  intro guarded
  refine ⟨⟨⟨guarded.valid.cluster.congr commits, ?_⟩, clients.trans guarded.alone, ?_⟩, ?_⟩
  · rw [consumers]
    exact guarded.valid.consumers
  · rw [consumers]
    exact guarded.acts
  · intro number participant present
    have changed : Site.Orderly ⟨participant.consumer, session.cluster⟩
        ⟨participant.consumer, session'.cluster⟩ := .surrounded _
    exact ⟨participant, by rw [consumers, present], .single changed⟩

/-- What is done at the desk of a consumer is guarded, and to the others a change of their
surroundings. -/
theorem atDesk {action : StateM Desk α}
    (goes : ∀ desk : Desk, desk.Goes Site.Guards (action desk).2) (number : Nat)
    (session : Session) : Guards session (Session.atDesk number action session).2 := by
  cases present : session.participants[number]? with
  | none =>
    rw [atDesk_absent present]
    exact surrounded rfl rfl rfl
  | some participant =>
    rw [atDesk_run present]
    intro guarded
    have member := List.mem_of_getElem? present
    obtain ⟨inside, _⟩ := List.getElem?_eq_some_iff.mp present
    let desk : Desk :=
      { site := ⟨participant.consumer, session.cluster⟩, dispatcher := participant.dispatcher }
    obtain ⟨acts, guards⟩ := goes desk (guarded.acts participant member)
    obtain ⟨valid, orderly⟩ :=
      guards ⟨guarded.valid.consumers participant member, guarded.valid.cluster⟩
    have anew {holds : Participant → Prop}
        (others : ∀ other ∈ session.participants, holds other)
        (own : holds ⟨(action desk).2.site.consumer, (action desk).2.dispatcher⟩) :
        ∀ other ∈ session.participants.set number
          ⟨(action desk).2.site.consumer, (action desk).2.dispatcher⟩, holds other := by
      intro other among
      obtain there | rfl := List.mem_or_eq_of_mem_set among
      · exact others other there
      · exact own
    refine ⟨⟨⟨valid.cluster, anew guarded.valid.consumers valid.consumer⟩, guarded.alone,
      anew guarded.acts acts⟩, fun other before there => ?_⟩
    by_cases same : other = number
    · subst same
      cases present.symm.trans there
      exact ⟨_, List.getElem?_set_self inside, orderly⟩
    · have changed : Site.Orderly ⟨before.consumer, session.cluster⟩
          ⟨before.consumer, (action desk).2.site.cluster⟩ := .surrounded _
      exact ⟨before, (List.getElem?_set_ne (Ne.symm same)).trans there, .single changed⟩

end Guards

/-- What keeps everything in good order at a desk keeps it in the session. -/
theorem guards_spreads : Spreads Site.Guards Guards where
  trans := .trans
  unseen consumers clients cluster := .surrounded consumers clients (by rw [cluster])
  atDesk := .atDesk

/-- Every step is guarded. -/
theorem Step.guards (step : Step) (session : Session) :
    Guards session (step.perform session).2 := by
  cases step with
  | consumer | listen | receive =>
    refine guards_spreads.step guards_upheld ?_ session
    trivial
  | cluster step =>
    exact .surrounded rfl rfl (step.keeps (fun _ _ _ _ => rfl) session.clock session.cluster)
  | client number call =>
    intro guarded
    have absent : session.clients[number]? = none := by
      rw [guarded.alone]
      rfl
    have nothing : ((Step.client number call).perform session).2 =
        (throughClient number call.perform session).2 := rfl
    rw [nothing, throughClient_absent absent]
    exact Guards.surrounded rfl rfl rfl guarded

/-- Every run is guarded. -/
theorem run_guards (steps : List Step) (session : Session) :
    Guards session (Session.run steps session).2 := by
  induction steps generalizing session with
  | nil => exact .surrounded rfl rfl rfl
  | cons step steps ih =>
    rw [run_cons]
    exact (step.guards session).trans (ih _)

/-- A participant that was just built is valid and has no task. -/
theorem Setup.guarded_participant {setup : Setup} {config : Config} {participant : Participant}
    (built : setup.participant config = .ok participant) :
    participant.consumer.Valid ∧ participant.dispatcher.Upholds Site.Guards := by
  obtain ⟨consumer, made, rfl⟩ := Setup.eq_of_participant built
  obtain ⟨config, factory, rfl⟩ := Consumer.Setup.eq_of_build made
  exact ⟨⟨nofun, List.forall_mem_nil _, List.forall_mem_nil _⟩, .ofWorkers _⟩

/-- A session of consumers alone that was just opened is guarded. -/
theorem Setup.guarded_of_build {setup : Setup} {session : Session} (alone : setup.clients = [])
    (built : setup.build = .ok session) : session.Guarded := by
  have uncommitted : session.cluster.Valid := by
    have commits : session.cluster.commits = .empty :=
      Setup.view_of_build (fun _ _ _ => rfl) built
    intro group key offset found
    rw [Cluster.committed?, commits] at found
    cases found
  unfold Setup.build at built
  rw [alone] at built
  cases made : setup.consumers.mapM setup.participant with
  | error error =>
    rw [made] at built
    cases built
  | ok participants =>
    rw [made] at built
    cases built
    refine ⟨⟨uncommitted, fun participant member => ?_⟩, rfl, fun participant member => ?_⟩
    · obtain ⟨config, _, built⟩ := exists_of_mem_mapM made member
      exact (Setup.guarded_participant built).1
    · obtain ⟨config, _, built⟩ := exists_of_mem_mapM made member
      exact (Setup.guarded_participant built).2

/-- Over any run of a session of consumers alone, the consumers and the cluster stay valid: every
partition believed to be assigned is well formed, every call traced carries well-formed partitions,
every position and every stored or committed offset is absolute, and every partition that a client
reads has a number. To every consumer everything happens in good order: its handle changes by
well-formed calls only, and whatever is polled at an absolute offset is told as such. So whenever a
consumer consumes, and that is not scripted to fail, what it is answered is empty or at an absolute
offset. -/
theorem valid_throughout {setup : Setup} {session : Session} (alone : setup.clients = [])
    (built : setup.build = .ok session) (steps : List Step) :
    let final := (Session.run steps session).2
    final.Valid ∧ session.Orderly final ∧ ∀ participant ∈ final.participants,
      let site : Site := ⟨participant.consumer, final.cluster⟩
      (∀ timeout message, (final.cluster.takeFault .poll).1 = none →
        ((consume timeout).run site).1 = .ok message →
          message.isTimeout = true ∨ message.Located) ∧
      ∀ count timeout firstOnly batch, final.cluster.LetsThrough .poll →
        ((consumeMany count timeout firstOnly).run site).1 = .ok batch → batch.Located := by
  intro final
  obtain ⟨guarded, orderly⟩ := run_guards steps session (Setup.guarded_of_build alone built)
  refine ⟨guarded.valid, orderly, fun participant member => ?_⟩
  have valid : Site.Valid ⟨participant.consumer, final.cluster⟩ :=
    ⟨guarded.valid.consumers participant member, guarded.valid.cluster⟩
  exact ⟨fun timeout message unscripted => located_consume valid timeout unscripted,
    fun count timeout firstOnly batch lets => located_consumeMany valid lets⟩

/-- A consumer polls a record, is refused to store and to commit reserved and negative numbers, and
commits what it has stored. Another one of its group resumes there, and is told the end of the
partition at that offset. -/
theorem valid_throughout_resuming :
    let config : Config :=
      { groupId := some "g", properties := .ofList [("enable.partition.eof", "true")] }
    let setup : Setup := { topics := [("log", 1)], consumers := [config, config] }
    let place (partition offset : Int) : TopicPartition :=
      { topic := "log", partition, offset := .absolute offset }
    let asks (number : Nat) (operation : Operation) : Step := .consumer number (.operate operation)
    let steps : List Step :=
      [.cluster (.produce ⟨"log", 0⟩ none [1] none), asks 0 .connect, asks 0 (.subscribe ["log"]),
        asks 0 (.consume 10), asks 0 (.storeOffset ⟨"log", 0⟩ (-2) none),
        asks 0 (.commit (some [place 0 (-7)]) .sync), asks 0 (.incrementalAssign [place (-1) 4]),
        asks 0 (.commit none .sync), asks 1 .connect, asks 1 (.subscribe ["log"])]
    ∃ session, setup.build = .ok session ∧
      let final := (Session.run steps session).2
      final.cluster.committed? "g" ⟨"log", 0⟩ = some 1 ∧ final.Valid ∧ session.Orderly final ∧
      ∃ participant ∈ final.participants, ∃ message,
        ((consume 10).run ⟨participant.consumer, final.cluster⟩).1 = .ok message ∧
          message.isEndOfPartition = true ∧ message.Located := by
  intro config setup place asks steps
  have shown : (setup.build.toOption.map fun session =>
      let final := (Session.run steps session).2
      (final.cluster.committed? "g" ⟨"log", 0⟩, (final.cluster.takeFault .poll).1,
        final.participants[1]?.map fun participant =>
          ((consume 10).run ⟨participant.consumer, final.cluster⟩).1.toOption)) =
      some (some 1, none, some (some (.endOfPartition "log" 0 1))) := by
    decide +kernel
  cases built : setup.build with
  | error error =>
    rw [built] at shown
    cases shown
  | ok session =>
    rw [built] at shown
    obtain ⟨committed, rest⟩ := Prod.mk.inj (Option.some.inj shown)
    obtain ⟨unscripted, consumed⟩ := Prod.mk.inj rest
    obtain ⟨participant, present, told⟩ := Option.map_eq_some_iff.mp consumed
    have member := List.mem_of_getElem? present
    obtain ⟨valid, orderly, located⟩ := valid_throughout rfl built steps
    have answered : ((consume 10).run
        ⟨participant.consumer, (Session.run steps session).2.cluster⟩).1 =
          .ok (.endOfPartition "log" 0 1) := by
      cases outcome : ((consume 10).run
          ⟨participant.consumer, (Session.run steps session).2.cluster⟩).1 with
      | error error =>
        rw [outcome] at told
        cases told
      | ok message =>
        rw [outcome] at told
        exact congrArg Except.ok (Option.some.inj told)
    obtain empty | here := (located participant member).1 10 _ unscripted answered
    · exact absurd empty (by decide)
    · exact ⟨session, rfl, committed, valid, orderly, participant, member, _, answered, rfl, here⟩

end Session

end LogConsumer
