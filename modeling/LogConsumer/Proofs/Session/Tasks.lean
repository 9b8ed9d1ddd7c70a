import LogConsumer.Proofs.Consumer.LoopPace
import LogConsumer.Proofs.Dispatcher.Serial
import LogConsumer.Proofs.Session.Desks

/-!
# Dispatched tasks

Handing operations to a dispatcher with one worker is the same as calling them, as long as there is
no consume loop. No operation starts one (`Operation.standby_run`), and without one a dispatched
disconnect has nothing to stop before it asks for its worker.

A `Worklist` follows the tasks from their submission, however the work goes on meanwhile: tasks are
begun in the order in which they were submitted, a disconnect by stopping the consume loop, and ask
for the worker then. The main result is `dispatched_as_called`.
-/
namespace LogConsumer

open Consumer

variable {config : Config} {site : Site}

/-- No operation starts a consume loop or changes the configuration. -/
theorem Operation.standby_run (operation : Operation) (idle : site.standby = (config, none)) :
    (operation.run.run site).2.standby = (config, none) :=
  (operation.run_paced site).standby idle

/-- What a worker does for an operation. -/
def Operation.action (operation : Operation) : StateM Site (Ending Reply) := do
  pure (.returned (← operation.run.run))

/-- Call operations one after the other, and keep the answers under their tags. -/
def Operation.callAll (calls : List (String × Operation)) :
    StateM Site (List (Completion Reply)) :=
  calls.mapM fun call => do pure ⟨call.1, ← call.2.run.run⟩

/-- The work that operations are for a worker. -/
def Operation.work (calls : List (String × Operation)) :
    List (String × StateM Site (Ending Reply)) :=
  calls.map fun call => (call.1, call.2.action)

/-- A worker that does the work of operations calls them. -/
theorem Operation.callAll_eq (calls : List (String × Operation)) :
    callAll calls = (work calls).mapM Completion.ofWork := by
  unfold callAll work
  rw [List.mapM_map]
  rfl

/-- Calling operations starts no consume loop. -/
theorem Operation.standby_callAll (calls : List (String × Operation))
    (idle : site.standby = (config, none)) : (callAll calls site).2.standby = (config, none) :=
  run_mapM_holds (fun site : Site => site.standby = (config, none))
    (fun call _ idle => call.2.standby_run idle) calls idle

namespace Task

/-- The operations of tasks under a configuration, with their tags. -/
def operations (config : Config) (tasks : List (String × Task)) : List (String × Operation) :=
  tasks.map fun task => (task.1, task.2.operation config)

end Task

namespace Session

/-- What is done for an operation before it asks for a worker: a disconnect stops the consume loop.
-/
def prepareWork (operation : Operation) : StateM Desk (Except ConsumerError Unit) := do
  if operation = .disconnect then
    let wait := (← get).site.consumer.config.loopStopTimeout
    onSite (Consumer.stopLoop wait true).run
  else pure (.ok ())

/-- Begin on an operation: it is prepared and asks for a worker. If it cannot be prepared, that is
its result. -/
def beginWork (tag : String) (operation : Operation) : StateM Desk Unit := do
  let prepared ← prepareWork operation
  modify fun desk =>
    { desk with
      dispatcher := match prepared with
        | .ok () => desk.dispatcher.askForWorker (.ofWork (tag, operation.action))
        | .error error => desk.dispatcher.post ⟨tag, .error error⟩ }

/-- Preparing an operation does not touch the dispatcher. -/
theorem prepareWork_dispatcher (operation : Operation) (desk : Desk) :
    (prepareWork operation desk).2.dispatcher = desk.dispatcher := by
  unfold prepareWork
  split <;> rfl

/-- Beginning on an operation leaves at most two moves to make. -/
theorem movesLeft_beginWork (tag : String) (operation : Operation) (desk : Desk) :
    (beginWork tag operation desk).2.dispatcher.movesLeft ≤ desk.dispatcher.movesLeft + 2 := by
  have same := prepareWork_dispatcher operation desk
  unfold beginWork
  rw [run_then]
  cases prepared : (prepareWork operation desk).1 with
  | ok _ =>
    rw [← same]
    exact Dispatcher.movesLeft_askForWorker _ _
  | error error =>
    rw [← same]
    show Dispatcher.movesLeft (Dispatcher.post _ _) ≤ _
    unfold Dispatcher.post
    split <;> exact Nat.le_add_right _ _

/-- Without a consume loop there is nothing to prepare, and the operation asks for a worker. -/
theorem beginWork_idle {desk : Desk} (idle : desk.site.standby = (config, none)) (tag : String)
    (operation : Operation) : (beginWork tag operation desk).2 =
      { desk with
        dispatcher := desk.dispatcher.askForWorker (.ofWork (tag, operation.action)) } := by
  have stopped :=
    stopLoop_idle (congrArg Prod.snd idle) desk.site.consumer.config.loopStopTimeout true
  have prepared : prepareWork operation desk = (.ok (), desk) := by
    unfold prepareWork
    split
    · rw [run_read]
      unfold onSite
      rw [run_read, stopped]
      rfl
    · rfl
  unfold beginWork
  rw [run_then, prepared]
  rfl

end Session

/-- A desk with the tasks that were submitted there and have not been begun. -/
structure Worklist where
  /-- The desk. -/
  desk : Desk
  /-- The operations of the tasks that have not been begun, oldest first, with their tags. -/
  pending : List (String × Operation) := []

namespace Worklist

variable {list list' : Worklist} {tasks : List (String × Task)}
  {received : List (Completion Reply)} {history : List (Notice Site Reply)}
  {begun : List (String × Operation)}

/-- What goes on by itself: the oldest task is begun, or the dispatcher makes a move. -/
inductive Turn (list : Worklist) : Worklist → Prop where
  /-- The oldest task is begun. -/
  | begins {tag : String} {operation : Operation} {rest : List (String × Operation)}
    (oldest : list.pending = (tag, operation) :: rest) :
    Turn list { desk := (Session.beginWork tag operation list.desk).2, pending := rest }
  /-- The dispatcher makes a move. -/
  | moves {notices : List (Notice Site Reply)} {dispatcher : Dispatcher Site Reply} {site : Site}
    (move : Dispatcher.Move list.desk.dispatcher list.desk.site notices dispatcher site) :
    Turn list { list with desk := { site, dispatcher } }

/-- What a consumer at this site and a new dispatcher with one worker come to after these tasks were
submitted and the owner received these results, in whatever order things went on. -/
inductive Reached (site : Site) :
    List (String × Task) → List (Completion Reply) → Worklist → Prop where
  /-- Nothing was submitted. -/
  | start : Reached site [] [] { desk := { site, dispatcher := .ofWorkers 1 } }
  /-- A task is submitted, with the timeouts filled in. -/
  | submit {tasks : List (String × Task)} {received : List (Completion Reply)} {list : Worklist}
    (reached : Reached site tasks received list) (tag : String) (task : Task) :
    Reached site (tasks ++ [(tag, task)]) received
      { list with
        pending := list.pending ++ [(tag, task.operation list.desk.site.consumer.config)] }
  /-- Something goes on by itself. -/
  | turn {tasks : List (String × Task)} {received : List (Completion Reply)}
    {list list' : Worklist} (reached : Reached site tasks received list) (turn : list.Turn list') :
    Reached site tasks received list'
  /-- The owner takes the oldest result out. -/
  | take {tasks : List (String × Task)} {received : List (Completion Reply)} {list : Worklist}
    {completion : Completion Reply} {rest : List (Completion Reply)}
    (reached : Reached site tasks received list)
    (oldest : list.desk.dispatcher.completions = completion :: rest) :
    Reached site tasks (received ++ [completion])
      { list with
        desk := { list.desk with dispatcher := { list.desk.dispatcher with completions := rest } } }

/-- Nothing is left to begin or to end. -/
def IsIdle (list : Worklist) : Prop :=
  list.pending = [] ∧ list.desk.dispatcher.jobs = []

/-- An upper bound on what is left to go on by itself. -/
def movesLeft (list : Worklist) : Nat :=
  3 * list.pending.length + list.desk.dispatcher.movesLeft

/-- What a worklist has come to is a run of the dispatcher in which the tasks that were begun came
in, in order. -/
structure Follows (site : Site) (tasks : List (String × Task))
    (received : List (Completion Reply)) (list : Worklist) (history : List (Notice Site Reply))
    (begun : List (String × Operation)) : Prop where
  /-- The dispatcher has run. -/
  run : Dispatcher.Run Dispatcher.Step (.ofWorkers 1) site history list.desk.dispatcher
    list.desk.site
  /-- What was begun came in. -/
  come : Notice.admissions history = (Operation.work begun).map Job.ofWork
  /-- Nothing was posted but results. -/
  unposted : ∀ completion, .posted completion ∉ history
  /-- The owner received what it took out. -/
  taken : Notice.takes history = received
  /-- What was begun and what has not been are the tasks, in order. -/
  tasks : Task.operations site.consumer.config tasks = begun ++ list.pending
  /-- What was begun has asked for a worker. -/
  asked : list.desk.dispatcher.submitted = []
  /-- No job holds its worker. -/
  free : ∀ job ∈ list.desk.dispatcher.jobs, job.held = false

namespace Follows

/-- What the owner has received, and finds in the queue, is what calling the first of the operations
answers, and that is what the site has come to; without jobs these are all that were begun. -/
theorem called (follows : Follows site tasks received list history begun) : ∃ done left,
    begun = done ++ left ∧ (list.desk.dispatcher.jobs = [] → left = []) ∧
      Operation.callAll done site =
        (received ++ list.desk.dispatcher.completions, list.desk.site) := by
  obtain ⟨done', left', parts, line, served⟩ := follows.run.serial follows.come follows.unposted
  obtain ⟨done, left, rfl, rfl, rfl⟩ := List.map_eq_append_iff.mp parts
  refine ⟨done, left, rfl, fun idle => ?_, ?_⟩
  · rw [Dispatcher.line_eq_nil idle] at line
    exact List.map_eq_nil_iff.mp (List.map_eq_nil_iff.mp line.symm)
  · rw [Operation.callAll_eq, ← follows.taken]
    exact served

/-- Where no consume loop was started, there is none, and the configuration is the same. -/
theorem standby (follows : Follows site tasks received list history begun)
    (idle : site.standby = (config, none)) : list.desk.site.standby = (config, none) := by
  obtain ⟨done, _, _, _, served⟩ := follows.called
  have still := Operation.standby_callAll done idle
  rw [served] at still
  exact still

/-- In the beginning nothing has run. -/
theorem start (site : Site) :
    Follows site [] [] { desk := { site, dispatcher := .ofWorkers 1 } } [] [] where
  run := .refl
  come := rfl
  unposted _ := List.not_mem_nil
  taken := rfl
  tasks := rfl
  asked := rfl
  free _ member := absurd member List.not_mem_nil

/-- A task that is submitted is yet to be begun. -/
theorem submit (follows : Follows site tasks received list history begun)
    (idle : site.standby = (config, none)) (tag : String) (task : Task) :
    Follows site (tasks ++ [(tag, task)]) received
      { list with
        pending := list.pending ++ [(tag, task.operation list.desk.site.consumer.config)] }
      history begun := by
  have same : list.desk.site.consumer.config = site.consumer.config :=
    congrArg Prod.fst ((follows.standby idle).trans idle.symm)
  refine { follows with tasks := ?_ }
  rw [same, ← List.append_assoc, ← follows.tasks]
  exact List.map_append

/-- A task that is begun asks for the worker. -/
theorem begins (follows : Follows site tasks received list history begun)
    (idle : site.standby = (config, none)) {tag : String} {operation : Operation}
    {rest : List (String × Operation)} (oldest : list.pending = (tag, operation) :: rest) :
    Follows site tasks received
      { desk := (Session.beginWork tag operation list.desk).2, pending := rest }
      (history ++ [.admitted (.ofWork (tag, operation.action))])
      (begun ++ [(tag, operation)]) := by
  rw [Session.beginWork_idle (follows.standby idle)]
  constructor
  · exact follows.run.append (Dispatcher.asks_run follows.asked (tag, operation.action) _)
  · rw [Notice.admissions_append, follows.come, Operation.work, Operation.work, List.map_append,
      List.map_append]
    rfl
  · exact fun completion => List.not_mem_append (follows.unposted completion) (by simp)
  · rw [Notice.takes_append, follows.taken]
    exact List.append_nil _
  · rw [follows.tasks, oldest, List.append_assoc]
    rfl
  · rw [Dispatcher.askForWorker_rest]
    exact follows.asked
  · intro job member
    obtain rfl | there := List.mem_cons.mp ((Dispatcher.jobs_askForWorker _ _).mem_iff.mp member)
    · rfl
    · exact follows.free job there

/-- A move of the dispatcher ends at most one of the jobs. -/
theorem moves (follows : Follows site tasks received list history begun)
    {notices : List (Notice Site Reply)} {dispatcher : Dispatcher Site Reply} {site' : Site}
    (move : Dispatcher.Move list.desk.dispatcher list.desk.site notices dispatcher site') :
    Follows site tasks received { list with desk := ⟨site', dispatcher⟩ } (history ++ notices)
      begun := by
  have single : Dispatcher.Run Dispatcher.Move _ _ notices dispatcher site' := .single move
  obtain ⟨come, _, taken⟩ := single.alone
  constructor
  · exact follows.run.append (.ofMoves single)
  · rw [Notice.admissions_append, come, List.append_nil]
    exact follows.come
  · exact fun completion => List.not_mem_append (follows.unposted completion)
      (single.unposted completion)
  · rw [Notice.takes_append, taken, List.append_nil]
    exact follows.taken
  · exact follows.tasks
  · exact move.asked follows.asked
  · exact fun job member =>
      follows.free job (move.jobs.mem_iff.mpr (List.mem_append_right _ member))

/-- The owner receives the result that it takes out. -/
theorem take (follows : Follows site tasks received list history begun)
    {completion : Completion Reply} {rest : List (Completion Reply)}
    (oldest : list.desk.dispatcher.completions = completion :: rest) :
    Follows site tasks (received ++ [completion])
      { list with
        desk := { list.desk with dispatcher := { list.desk.dispatcher with completions := rest } } }
      (history ++ [.taken completion]) begun where
  run := follows.run.append (.single (.take oldest))
  come := by
    rw [Notice.admissions_append, follows.come]
    exact List.append_nil _
  unposted other := List.not_mem_append (follows.unposted other) (by simp)
  taken := by
    rw [Notice.takes_append, follows.taken]
    rfl
  tasks := follows.tasks
  asked := follows.asked
  free := follows.free

end Follows

/-- Whatever a worklist comes to is a run of the dispatcher. -/
theorem Reached.follows (idle : site.standby = (config, none))
    (reached : Reached site tasks received list) :
    ∃ history begun, Follows site tasks received list history begun := by
  induction reached with
  | start => exact ⟨[], [], .start site⟩
  | submit _ tag task ih =>
    obtain ⟨history, begun, follows⟩ := ih
    exact ⟨history, begun, follows.submit idle tag task⟩
  | turn _ turn ih =>
    obtain ⟨history, begun, follows⟩ := ih
    cases turn with
    | begins oldest => exact ⟨_, _, follows.begins idle oldest⟩
    | moves move => exact ⟨_, _, follows.moves move⟩
  | take _ oldest ih =>
    obtain ⟨history, begun, follows⟩ := ih
    exact ⟨_, _, follows.take oldest⟩

/-- Whatever goes on leaves less to go on. -/
theorem Turn.fewer (turn : list.Turn list') : list'.movesLeft < list.movesLeft := by
  unfold movesLeft
  cases turn with
  | @begins tag operation rest oldest =>
    have begun := Session.movesLeft_beginWork tag operation list.desk
    rw [oldest, List.length_cons]
    show 3 * rest.length + (Session.beginWork tag operation list.desk).2.dispatcher.movesLeft < _
    omega
  | moves move => exact Nat.add_lt_add_left move.fewer _

/-- As long as something is left, something goes on. -/
theorem Follows.goesOn (follows : Follows site tasks received list history begun)
    (busy : ¬list.IsIdle) : ∃ list', list.Turn list' := by
  cases pending : list.pending with
  | cons first rest => exact ⟨_, .begins pending⟩
  | nil =>
    have staffed := follows.run.staffed (Dispatcher.staffed_ofWorkers 1)
    cases next : list.desk.dispatcher.step? list.desk.site with
    | some after =>
      obtain ⟨notices, move⟩ := Dispatcher.step?_move staffed next
      exact ⟨_, .moves move⟩
    | none =>
      have none := Dispatcher.jobs_eq_nil_of_settled staffed Nat.one_pos next follows.free
      exact absurd ⟨pending, none⟩ busy

end Worklist

end LogConsumer
