import LogConsumer.Proofs.Client.Turns
import LogConsumer.Proofs.Client.Unpolled
import LogConsumer.Proofs.Link.Run

/-!
# What a run tells of the cursor

Only a poll of an open handle goes by the cursor. So two clients that differ in their cursors alone
are told apart by no run that polls no open handle (`answers_of_unpolled`). But a cursor that does
not stand at the front is told from one that does: from any open handle a run leads to an assignment
that is longer than the cursor, with a record at the front and one where the cursor stands, and the
next poll answers with the one or the other (`poll_telling`).
-/
namespace LogConsumer

namespace Link

/-- What a step answers; others are not asked. -/
def Step.answer (link : Link) : Step → List Session.Answer
  | .call request => [.client (request.perform link).1]
  | .cluster step clock => [.cluster (step.perform clock link.cluster).1]
  | .elsewhere _ => []

/-- A poll answers with its message. -/
theorem Step.answer_poll (link : Link) (timeout : Nat) :
    Step.answer link (.call (.poll timeout)) =
      [.client { outcome := .ok (.message (Client.poll timeout link).1.message) }] :=
  rfl

/-- A poll leads where it leads without its answer. -/
theorem Step.next_poll (link : Link) (timeout : Nat) :
    Step.next link (.call (.poll timeout)) = (Client.poll timeout link).2 :=
  rfl

/-- What the steps of a run answer, in order. -/
def answers : Link → List Step → List Session.Answer :=
  collected Step.next Step.answer

/-- The links differ at most in where the cursor of the client stands. -/
def Turned (left right : Link) : Prop :=
  ∃ cursor, left = { right with client := { right.client with cursor } }

/-- A call that does not poll can tell no difference of the cursors. -/
theorem likeness_turned : Likeness Turned where
  client := by
    rintro _ right ⟨cursor, rfl⟩
    exact ⟨cursor, rfl⟩
  topics := by
    rintro _ right ⟨cursor, rfl⟩
    rfl
  commits := by
    rintro _ right ⟨cursor, rfl⟩ group own key
    rfl
  takeFault primitive := by
    rintro _ right ⟨cursor, rfl⟩
    rw [Client.takeFault_run, Client.takeFault_run]
    exact ⟨rfl, cursor, rfl⟩
  commitAll := by
    rintro _ right ⟨cursor, rfl⟩ group pending
    exact ⟨cursor, rfl⟩
  update := by
    rintro _ right ⟨cursor, rfl⟩ change ignores
    obtain ⟨cursor', moved⟩ := ignores.cursor right.client cursor
    exact ⟨cursor', by rw [moved]⟩

/-- A poll of a handle that is shut down goes by the script alone. -/
theorem poll_shut {link : Link} (shut : link.client.closed = true) (timeout : Nat) :
    Client.poll timeout link =
      ({ message := .empty (Client.emptyCode link) },
        { link with cluster := Client.counted link.cluster timeout }) := by
  unfold Client.emptyCode
  obtain ⟨error, scripted, result⟩ | ⟨unscripted, _, result⟩ | ⟨_, opened, _⟩ :=
    Client.poll_cases timeout link
  · rw [result, scripted]
  · rw [result, unscripted, if_pos shut]
  · rw [shut] at opened
    contradiction

/-- The step does not poll an open handle. -/
def Step.PollsNoOpen (link : Link) : Step → Prop
  | .call (.poll _) => link.client.closed = true
  | _ => True

/-- A step that does not poll an open handle answers the same wherever the cursor stands, and leaves
no other difference. -/
theorem Turned.step {left right : Link} (turned : left.Turned right) {step : Step}
    (spares : step.PollsNoOpen right) :
    step.answer left = step.answer right ∧ (step.next left).Turned (step.next right) := by
  have silent {call : ClientCall} (silent : ∀ timeout, call ≠ .poll timeout) :
      Step.answer left (.call call) = Step.answer right (.call call) ∧
        (Step.next left (.call call)).Turned (Step.next right (.call call)) := by
    obtain ⟨answer, after⟩ := likeness_turned.respects silent left right turned
    exact ⟨by rw [Step.answer, Step.answer, answer], after⟩
  cases step with
  | call call =>
    cases call with
    | poll timeout =>
      obtain ⟨cursor, rfl⟩ := turned
      have shut : right.client.closed = true := spares
      have first := @poll_shut { right with client := { right.client with cursor } } shut timeout
      have second := poll_shut shut timeout
      rw [Step.answer_poll, Step.answer_poll, Step.next_poll, Step.next_poll, first, second]
      exact ⟨rfl, cursor, rfl⟩
    | _ => exact silent nofun
  | cluster step clock =>
    obtain ⟨cursor, rfl⟩ := turned
    exact ⟨rfl, cursor, rfl⟩
  | elsewhere others =>
    obtain ⟨cursor, rfl⟩ := turned
    exact ⟨rfl, cursor, rfl⟩

/-- A run that polls no open handle answers the same wherever the cursor stands. -/
theorem answers_of_unpolled {left right : Link} (turned : left.Turned right) {steps : List Step}
    (spares : Throughout (fun link step => step.PollsNoOpen link) right steps) :
    answers left steps = answers right steps := by
  induction steps generalizing left right with
  | nil => rfl
  | cons step steps ih =>
    obtain ⟨answer, after⟩ := turned.step spares.1
    exact congrArg₂ (· ++ ·) answer (ih after spares.2)

/-- No call opens a handle again that is shut down. -/
theorem closed_perform {link : Link} (shut : link.client.closed = true) (call : ClientCall) :
    (call.perform link).2.client.closed = true := by
  have standing (spares : call.SparesSubscription) :
      (call.perform link).2.client.closed = true :=
    (congrArg Prod.fst (ClientCall.keeps_standing spares link)).trans shut
  cases call with
  | close => rfl
  | unsubscribe => exact shut
  | subscribe topics =>
    show ((Client.subscribe topics).run link).2.client.closed = true
    obtain ⟨error, refused⟩ | ⟨⟨_, opened⟩, _⟩ := Client.subscribe_cases topics link
    · rw [refused]
      exact shut
    · rw [shut] at opened
      contradiction
  | _ => exact standing trivial

/-- A handle that is shut down is polled as such by every run. -/
theorem pollsNoOpen_of_shut {link : Link} (shut : link.client.closed = true) (steps : List Step) :
    Throughout (fun link step => step.PollsNoOpen link) link steps := by
  induction steps generalizing link with
  | nil => trivial
  | cons step steps ih =>
    cases step with
    | call call =>
      refine ⟨?_, ih (closed_perform shut call)⟩
      cases call with
      | poll timeout => exact shut
      | _ => trivial
    | cluster step clock => exact ⟨trivial, ih shut⟩
    | elsewhere others => exact ⟨trivial, ih shut⟩

/-- A run answers as another does up to its last step, and unlike it there. -/
theorem answers_ne {left right : Link} {steps : List Step} {last : Step}
    (one : (last.answer (run left steps)).length = (last.answer (run right steps)).length)
    (differs : last.answer (run left steps) ≠ last.answer (run right steps)) :
    answers left (steps ++ [last]) ≠ answers right (steps ++ [last]) := by
  intro same
  have parts (link : Link) : answers link (steps ++ [last]) =
      answers link steps ++ last.answer (run link steps) := by
    rw [answers, collected_append, collected, collected, List.append_nil]
    rfl
  rw [parts, parts] at same
  exact differs (List.append_inj' same one).2

/-- Calls that are made over and over, each of which uses up one scripted outcome of its primitive,
use up the script. -/
theorem run_replicate {holds : Link → Prop} {call : ClientCall} {primitive : Primitive}
    (each : ∀ link, holds link → holds (call.perform link).2 ∧
      (call.perform link).2.cluster.script primitive = (link.cluster.script primitive).tail)
    {link : Link} (held : holds link) (times : Nat) :
    let final := run link (List.replicate times (.call call))
    holds final ∧ final.cluster.script primitive = (link.cluster.script primitive).drop times := by
  induction times generalizing link with
  | zero => exact ⟨held, rfl⟩
  | succ times ih =>
    obtain ⟨still, used⟩ := each link held
    obtain ⟨final, rest⟩ := ih still
    refine ⟨final, rest.trans ?_⟩
    rw [used, List.drop_tail]

end Link

namespace Client

/-- The handle is open, and it neither subscribes nor reads anything. -/
structure Bare (cursor : Nat) (client : Client) : Prop where
  /-- The handle is open. -/
  opened : client.closed = false
  /-- It subscribes to nothing. -/
  unsubscribed : client.subscription = []
  /-- It reads nothing. -/
  reads : client.assignment = []
  /-- Its cursor stands here still. -/
  cursor : client.cursor = cursor

/-- A poll of a client that neither subscribes nor reads anything changes nothing but the script. -/
theorem Bare.poll {cursor : Nat} {link : Link} (bare : link.client.Bare cursor) (timeout : Nat) :
    (Client.poll timeout link).2 = { link with cluster := counted link.cluster timeout } := by
  have alone : joined { link with cluster := counted link.cluster timeout } = link.client :=
    joined_of_unsubscribed bare.unsubscribed
  obtain ⟨_, _, result⟩ | ⟨_, _, result⟩ | ⟨_, _, result⟩ := poll_cases timeout link <;> rw [result]
  obtain ⟨_, served⟩ | ⟨before, entry, after, _, first, _⟩ :=
    serve_round (counted link.cluster timeout) link.client
  · rw [alone, served]
    have same : link.client.assignment.map (·.settled (counted link.cluster timeout)) =
        link.client.assignment := by
      rw [bare.reads, List.map_nil]
    dsimp only
    rw [same]
  · have order := first.order
    rw [bare.reads, List.rotate_nil] at order
    exact absurd order.symm (by simp)

/-- Adding nothing to the assignment of a client changes nothing but the script. -/
theorem incrementalAssign_nil (link : Link) :
    ((incrementalAssign []).run link).2 = scripted .incrementalAssign link := by
  obtain ⟨error, refused⟩ | ⟨_, _, added⟩ := incrementalAssign_cases [] link
  · rw [refused]
  · rw [added]
    have same : extended link [] = link.client := by
      rw [extended, assignedOfList, List.map_nil, List.append_nil]
    rw [same]
    rfl

/-- A poll of an open handle that is not scripted answers with what is due where the cursor stands,
if the entry there is ready. -/
theorem poll_at_cursor {link : Link} {entry : Assigned} (opened : link.client.closed = false)
    (unscripted : (link.cluster.takeFault .poll).1 = none)
    (here : link.client.assignment[link.client.cursor]? = some entry)
    (ready : entry.IsReady link.cluster link.client.settings.reportsEnd) (timeout : Nat) :
    (poll timeout link).1.message = entry.due link.cluster := by
  obtain ⟨other, found, there, near, answer, _⟩ := poll_turn timeout opened unscripted here ready
  obtain ⟨inside, _⟩ := List.getElem?_eq_some_iff.mp here
  obtain ⟨within, _⟩ := List.getElem?_eq_some_iff.mp there
  have front : link.client.ahead link.client.cursor = 0 := by
    simp [ahead, Nat.mod_eq_of_lt inside]
  have nearest : link.client.ahead other = link.client.ahead link.client.cursor := by
    rw [front] at near ⊢
    exact Nat.le_zero.mp near
  have same : other = link.client.cursor := by
    rw [← placeAfter_ahead within, nearest, placeAfter_ahead inside]
  rw [same, here] at there
  cases there
  exact answer

end Client

namespace Link

open Client

/-- Partitions of one topic, as many as the number says and one more, to be read from their
beginnings. -/
def spread (number : Nat) : List TopicPartition :=
  (List.range (number + 1)).map fun (partition : Nat) =>
    { topic := "", partition := (partition : Int), offset := .absolute 0 }

/-- A topic is created with partitions that are spread, the first and the last of them are given a
record, and all of them are added to the assignment. -/
def spreads (number : Nat) : List Step :=
  [.cluster (.createTopic "" (number + 1)) 0, .cluster (.produce ("", 0) none [] none) 0,
    .cluster (.produce ("", number) none [] none) 0, .call (.incrementalAssign (spread number))]

/-- The cluster after the first and the last of the partitions that are spread were given a record.
-/
def stocked (cluster : Cluster) (number : Nat) : Cluster :=
  let record : Record := ⟨none, [], 0⟩
  let created := cluster.createTopic "" (number + 1)
  ((created.produce ("", 0) record).2.produce ("", number) record).2

/-- The first and the last of the partitions that are spread have one record each. -/
theorem log?_stocked (cluster : Cluster) {number place : Nat} (apart : 0 < number)
    (ends : place = 0 ∨ place = number) :
    (stocked cluster number).log? ("", place) = some { records := [⟨none, [], 0⟩] } := by
  let record : Record := ⟨none, [], 0⟩
  let created := cluster.createTopic "" (number + 1)
  let first := (created.produce ("", 0) record).2
  have produced {before : Cluster} {key : PartitionKey} {log : PartitionLog}
      (found : before.log? key = some log) (other : PartitionKey) :
      (before.produce key record).2.log? other =
        if other = key then some (log.produce record).2 else before.log? other := by
    obtain ⟨missing, _⟩ | ⟨same, here, result⟩ := before.produce_cases key record
    · rw [found] at missing
      contradiction
    · rw [found] at here
      cases here
      rw [result]
      exact Cluster.log?_putLog found _ other
  have empty {place : Nat} (inside : place ≤ number) : created.log? ("", place) = some {} := by
    rw [Cluster.log?_createTopic, if_pos rfl, Cluster.partitionLog?, if_pos (Int.natCast_nonneg _)]
    exact List.getElem?_replicate_of_lt (Nat.lt_succ_of_le inside)
  have differ : (("", (number : Int)) : PartitionKey) ≠ ("", 0) := by
    intro same
    have zero : (number : Int) = 0 := congrArg Prod.snd same
    omega
  have front : created.log? ("", 0) = some {} := @empty 0 (Nat.zero_le number)
  have last : first.log? ("", number) = some {} := by
    rw [produced front, if_neg differ, empty (Nat.le_refl number)]
  have result : (stocked cluster number).log? ("", place) =
      (first.produce ("", number) record).2.log? ("", place) := rfl
  rw [result, produced last]
  rcases ends with rfl | rfl
  · have zero : ((0 : Nat) : Int) = 0 := rfl
    rw [zero, if_neg differ.symm, produced front, if_pos rfl]
    rfl
  · rw [if_pos rfl]
    rfl

/-- The first and the last of the partitions that are spread are ready to be read from their
beginnings. -/
theorem isReady_stocked (cluster : Cluster) {number place : Nat} (apart : 0 < number)
    (ends : place = 0 ∨ place = number) (reportsEnd : Bool) :
    ({ topic := "", partition := (place : Int), position := 0 } : Assigned).IsReady
      (stocked cluster number) reportsEnd := by
  have found := log?_stocked cluster apart ends
  refine ⟨rfl, .inl ?_⟩
  unfold Cluster.floor Cluster.read? Assigned.key
  rw [found]
  rfl

/-- Giving partitions their records changes no script. -/
theorem script_stocked (cluster : Cluster) (number : Nat) (primitive : Primitive) :
    (stocked cluster number).script primitive = cluster.script primitive := by
  have produced (before : Cluster) (key : PartitionKey) (record : Record) :
      (before.produce key record).2.script primitive = before.script primitive := by
    rw [Cluster.produce_rest]
    rfl
  unfold stocked
  dsimp only
  rw [produced, produced]
  rfl

/-- What the steps that spread partitions do to an open handle that reads nothing: it reads the
partitions from their beginnings, and its cursor stands where it stood. -/
theorem run_spreads {link : Link} {cursor : Nat} (bare : link.client.Bare cursor)
    (unscripted : link.cluster.script .incrementalAssign = []) (number : Nat) :
    run link (spreads number) =
      { client := { link.client with
          assignment := (List.range (number + 1)).map fun (place : Nat) =>
            { topic := "", partition := (place : Int), position := 0 } }
        cluster := stocked link.cluster number } := by
  let supplied : Link := { link with cluster := stocked link.cluster number }
  have steps : run link (spreads number) =
      ((incrementalAssign (spread number)).run supplied).2 := by
    have parts : spreads number =
        (spreads number).take 3 ++ [.call (.incrementalAssign (spread number))] := rfl
    have supplies : run link ((spreads number).take 3) = supplied := rfl
    rw [parts, run_append, supplies]
    rfl
  have used : supplied.cluster.script .incrementalAssign = [] :=
    (script_stocked _ _ _).trans unscripted
  have goes : (supplied.cluster.takeFault .incrementalAssign).1 = none := by
    rw [Cluster.takeFault_eq, used, List.head?_nil, Option.join_none]
  have placeable : Placeable .incrementalAssign (spread number) supplied := by
    refine ⟨goes, ?_, bare.opened⟩
    intro tp inside
    obtain ⟨place, _, rfl⟩ := List.mem_map.mp inside
    exact Int.natCast_nonneg place
  have still : scripted .incrementalAssign supplied = supplied := by
    unfold scripted Cluster.takeFault
    rw [used]
  rw [steps, incrementalAssign_run placeable (by simp [supplied, bare.reads]), still]
  have entries : (extended supplied (spread number)).assignment =
      (List.range (number + 1)).map fun (place : Nat) =>
        { topic := "", partition := (place : Int), position := 0 } := by
    rw [extended, bare.reads, assignedOfList, spread, List.map_map]
    rfl
  dsimp only
  rw [← entries]
  rfl

/-- A run that tells where the cursor of an open handle stands: the handle drops what it reads, so
many polls and additions of nothing use up what is scripted for them, and the partitions that are
spread take the place of what was read. -/
def telling (cluster : Cluster) (number : Nat) : List Step :=
  .call .unsubscribe :: (List.replicate (cluster.script .poll).length (.call (.poll 0)) ++
    (List.replicate (cluster.script .incrementalAssign).length (.call (.incrementalAssign [])) ++
      spreads number))

/-- Polls of a bare client use up what is scripted for polls, and nothing else. -/
theorem bare_polled {link : Link} {cursor : Nat} (bare : link.client.Bare cursor)
    (script : List (Option ClientError)) (kept : link.cluster.script .incrementalAssign = script) :
    let after := run link
      (List.replicate (link.cluster.script .poll).length (.call (.poll 0)))
    after.client.Bare cursor ∧ after.cluster.script .incrementalAssign = script ∧
      after.cluster.script .poll = [] := by
  have each (link : Link)
      (holds : link.client.Bare cursor ∧ link.cluster.script .incrementalAssign = script) :
      (((ClientCall.poll 0).perform link).2.client.Bare cursor ∧
        ((ClientCall.poll 0).perform link).2.cluster.script .incrementalAssign = script) ∧
      ((ClientCall.poll 0).perform link).2.cluster.script .poll =
        (link.cluster.script .poll).tail := by
    obtain ⟨bare, kept⟩ := holds
    have polled : ((ClientCall.poll 0).perform link).2 =
        { link with cluster := counted link.cluster 0 } := bare.poll 0
    have other : (counted link.cluster 0).script .incrementalAssign =
        link.cluster.script .incrementalAssign := Cluster.script_takeFault_other (by decide) _
    rw [polled]
    exact ⟨⟨bare, other.trans kept⟩, Cluster.script_takeFault _ _⟩
  obtain ⟨⟨bare, kept⟩, rest⟩ := run_replicate each ⟨bare, kept⟩ (link.cluster.script .poll).length
  exact ⟨bare, kept, by rw [rest, List.drop_length]⟩

/-- Adding nothing to the assignment of a bare client uses up what is scripted for that, and nothing
else. -/
theorem bare_added {link : Link} {cursor : Nat} (bare : link.client.Bare cursor)
    (unscripted : link.cluster.script .poll = []) :
    let after := run link (List.replicate (link.cluster.script .incrementalAssign).length
      (.call (.incrementalAssign [])))
    after.client.Bare cursor ∧ after.cluster.script .poll = [] ∧
      after.cluster.script .incrementalAssign = [] := by
  have each (link : Link)
      (holds : link.client.Bare cursor ∧ link.cluster.script .poll = []) :
      (((ClientCall.incrementalAssign []).perform link).2.client.Bare cursor ∧
        ((ClientCall.incrementalAssign []).perform link).2.cluster.script .poll = []) ∧
      ((ClientCall.incrementalAssign []).perform link).2.cluster.script .incrementalAssign =
        (link.cluster.script .incrementalAssign).tail := by
    obtain ⟨bare, unscripted⟩ := holds
    have added : ((ClientCall.incrementalAssign []).perform link).2 =
        scripted .incrementalAssign link := incrementalAssign_nil link
    have other : (scripted .incrementalAssign link).cluster.script .poll =
        link.cluster.script .poll := Cluster.script_takeFault_other (by decide) _
    rw [added]
    exact ⟨⟨bare, other.trans unscripted⟩, Cluster.script_takeFault _ _⟩
  obtain ⟨⟨bare, unscripted⟩, rest⟩ :=
    run_replicate each ⟨bare, unscripted⟩ (link.cluster.script .incrementalAssign).length
  exact ⟨bare, unscripted, by rw [rest, List.drop_length]⟩

/-- After a run that tells it, a poll answers with a record from the partition whose number says
where the cursor of the open handle stood. -/
theorem poll_telling {link : Link} (opened : link.client.closed = false) {number : Nat}
    (apart : 0 < number) (ends : link.client.cursor = 0 ∨ link.client.cursor = number) :
    (Client.poll 0 (run link (telling link.cluster number))).1.message.partition =
      link.client.cursor := by
  let dropped : Link :=
    { link with client := { link.client with subscription := [], assignment := [] } }
  have bare : dropped.client.Bare link.client.cursor := ⟨opened, rfl, rfl, rfl⟩
  obtain ⟨bare, kept, unpolled⟩ := bare_polled bare (link.cluster.script .incrementalAssign) rfl
  generalize polled : run dropped (List.replicate (dropped.cluster.script .poll).length
    (.call (.poll 0))) = first at bare kept unpolled
  obtain ⟨bare, unpolled, unscripted⟩ := bare_added bare unpolled
  rw [kept] at bare unpolled unscripted
  generalize added : run first (List.replicate (link.cluster.script .incrementalAssign).length
    (.call (.incrementalAssign []))) = second at bare unpolled unscripted
  have whole : run link (telling link.cluster number) = run second (spreads number) := by
    have begins : run link (telling link.cluster number) =
        run dropped (List.replicate (dropped.cluster.script .poll).length (.call (.poll 0)) ++
          (List.replicate (link.cluster.script .incrementalAssign).length
            (.call (.incrementalAssign [])) ++ spreads number)) := rfl
    rw [begins, run_append, polled, run_append, added]
  have result := run_spreads bare unscripted number
  generalize spread : run second (spreads number) = final at whole result
  let entry : Assigned := { topic := "", partition := link.client.cursor, position := 0 }
  have here : final.client.assignment[final.client.cursor]? = some entry := by
    rw [result]
    dsimp only
    rw [bare.cursor, List.getElem?_map, List.getElem?_range (by omega)]
    rfl
  have unscripted : (final.cluster.takeFault .poll).1 = none := by
    rw [result, Cluster.takeFault_eq, script_stocked, unpolled]
    rfl
  have opened : final.client.closed = false := by
    rw [result]
    exact bare.opened
  have ready : entry.IsReady final.cluster final.client.settings.reportsEnd := by
    rw [result]
    exact isReady_stocked second.cluster apart ends _
  rw [whole, poll_at_cursor opened unscripted here ready]
  exact congrArg Prod.snd (due_key entry final.cluster)

end Link

end LogConsumer
