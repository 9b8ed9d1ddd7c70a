import LogConsumer.Task

/-!
# What happens at a consumer

A course of a consumer is a list of moments: its operations, the moves of its consume loop, and
changes of its surroundings, which are the cluster and the boundary. A disconnect has a course of
its own inside, since the close of a handle may run operations of the consumer.
-/
namespace LogConsumer

/-- A consumer that was just built is set up, and that is all. -/
theorem Consumer.Setup.eq_of_build {setup : Consumer.Setup} {consumer : Consumer}
    (built : setup.build = .ok consumer) :
    ∃ config factory, consumer = { config, boundary := { factory } } := by
  unfold build at built
  split at built
  · contradiction
  · dsimp only at built
    split at built
    · contradiction
    · cases built
      exact ⟨_, _, rfl⟩

/-- What can happen at a consumer. -/
inductive Moment where
  /-- An operation is performed. -/
  | operate (operation : Operation)
  /-- The consume loop is started. -/
  | startLoop (timeout sleepDelay : Option Nat)
  /-- The consume loop makes its next step. -/
  | advanceLoop (workerFree : Bool)
  /-- The consume loop is stopped. -/
  | stopLoop (wait : Nat) (reportsPanic : Bool)
  /-- The boundary scripts other failures and another close, and others use the cluster and create
  a number of handles. -/
  | surroundings (boundary : Boundary) (others : Cluster) (created : Nat)

namespace Moment

/-- The site in other surroundings. The trace stays, and no handle is counted twice. -/
def surround (boundary : Boundary) (others : Cluster) (created : Nat) (site : Site) : Site :=
  { consumer := { site.consumer with
      boundary := { boundary with calls := site.consumer.boundary.calls } }
    cluster := { others with created := site.cluster.created + created } }

/-- Let it happen; `inside` is what runs from inside a close. -/
def perform (inside : StateM Site Unit) : Moment → StateM Site Unit
  | .operate operation => do let _ ← (operation.perform inside).run
  | .startLoop timeout sleepDelay => do let _ ← (Consumer.consumeLoop timeout sleepDelay).run
  | .advanceLoop workerFree => Consumer.advanceLoop workerFree
  | .stopLoop wait reportsPanic => do let _ ← (Consumer.stopLoop wait reportsPanic).run
  | .surroundings boundary others created => modify (surround boundary others created)

end Moment

/-- What runs from inside a close. -/
inductive Inside where
  /-- The close script of the boundary. -/
  | script
  /-- Whatever happens at the consumer then. -/
  | course (moments : List Moment)

/-- Let it run. The handle is being closed then, so nothing of it closes a handle in turn. -/
def Inside.perform : Inside → StateM Site Unit
  | .script => Consumer.runCloseScript
  | .course moments => moments.forM (Moment.perform (pure ()))

/-- A moment with what runs from inside a close, if it closes the handle. -/
abbrev Occurrence := Moment × Inside

/-- The site after it happened. -/
def Occurrence.next (site : Site) (occurrence : Occurrence) : Site :=
  (occurrence.1.perform occurrence.2.perform site).2

/-- The site after a course. -/
def course (site : Site) (occurrences : List Occurrence) : Site :=
  occurrences.foldl Occurrence.next site

end LogConsumer
