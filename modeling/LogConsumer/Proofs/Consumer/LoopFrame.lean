import LogConsumer.Proofs.Consumer.Aside

/-!
# Operations beside the consume loop

No operation but disconnecting touches the consume loop or what it has delivered, whatever it does
to the handle and the books (`keeps_perform`). Only consuming, committing and disconnecting touch
the counters (`keeps_counting`). Both are cases of what holds of every view that looks past the
handle and past what the consumer believes and tells (`Site.Remote`).
-/
namespace LogConsumer

/-- The view looks past the handle, and past what the consumer believes and tells. -/
structure Site.Remote {ν : Type} (view : Site → ν) : Prop extends Site.Aloof view where
  /-- Neither the partitions, the subscription flag nor the listeners are looked at. -/
  unsettled : ∀ (site : Site) (partitions : PartitionSet) (subscriptionFlag : Bool)
    (events : EventDispatcher),
    view { site with consumer := { site.consumer with partitions, subscriptionFlag, events } } =
      view site

/-- The consume loop and what it has delivered. -/
def Site.looping (site : Site) : Option ConsumeLoop × List Outcome :=
  (site.consumer.loop, site.consumer.deliveries)

/-- The consume loop, what it has delivered, and the counters. -/
def Site.counting (site : Site) : (Option ConsumeLoop × List Outcome) × Metrics :=
  (site.looping, site.consumer.metrics)

/-- The configuration and the consume loop. -/
def Site.standby (site : Site) : Config × Option ConsumeLoop :=
  (site.consumer.config, site.consumer.loop)

/-- The loop has nothing to do with the handle. -/
theorem aloof_looping : Site.Aloof Site.looping :=
  ⟨fun _ _ _ _ => rfl, fun _ _ => rfl⟩

/-- The loop and the counters have nothing to do with the handle, nor with what is believed. -/
theorem remote_counting : Site.Remote Site.counting :=
  ⟨⟨fun _ _ _ _ => rfl, fun _ _ => rfl⟩, fun _ _ _ _ => rfl⟩

/-- The configuration and the loop have nothing to do with the handle, nor with what is believed. -/
theorem remote_standby : Site.Remote Site.standby :=
  ⟨⟨fun _ _ _ _ => rfl, fun _ _ => rfl⟩, fun _ _ _ _ => rfl⟩

/-- What leaves the loop and the counters alone leaves the loop alone. -/
theorem keeps_looping_of_counting {α : Type} {action : StateM Site α}
    (kept : Keeps Site.counting action) : Keeps Site.looping action :=
  fun site => congrArg Prod.fst (kept site)

namespace Consumer

section Remote

variable {ν : Type} {view : Site → ν}

/-- No operation changes more of the consumer than what it believes and tells. -/
theorem view_settle (remote : Site.Remote view) (operation : Operation) (site : Site) :
    view { site with consumer := operation.settle site.consumer } = view site := by
  cases operation with
  | subscribe | unsubscribe | assign | unassign | incrementalAssign | incrementalUnassign =>
    exact remote.unsettled site _ _ _
  | _ => rfl

/-- Connecting keeps what looks past the handle and past what is believed. -/
theorem keeps_connect (remote : Site.Remote view) : Keeps view connect.run := by
  have aloof := remote.toAloof
  rw [connect_eq]
  refine .afterReading fun _ => .eitherThen (.lift (keeps_note aloof _ _) fun _ => ?_) (.pure _)
  refine .andThen (keeps_takeHookFault aloof .prepare) fun _ =>
    .andThen (keeps_installHandle aloof) fun installed => ?_
  cases installed with
  | none => exact .pure _
  | some client =>
    dsimp only
    rw [greet_eq]
    exact .andThen (keeps_salute aloof client) fun _ site => remote.unsettled site _ _ _

/-- Every operation that neither disconnects nor polls nor commits keeps what looks past the handle
and past what is believed. -/
theorem keeps_uncounted (remote : Site.Remote view) {operation : Operation}
    (inside : StateM Site Unit) (closes : operation ≠ .disconnect)
    (uncounted : ¬operation.IsCounted) : Keeps view (operation.perform inside).run := by
  have aloof := remote.toAloof
  have answer {α : Type} {action : Action α} (reply : α → Reply) (kept : Keeps view action.run) :
      Keeps view (do pure (reply (← action)) : Action Reply).run :=
    .andThen kept fun _ => .pure _
  have refreshes : Keeps view refreshAssignments.run :=
    keeps_refreshAssignments aloof fun site _ => remote.unsettled site _ _ _
  cases operation with
  | disconnect => exact absurd rfl closes
  | connect => exact answer _ (keeps_connect remote)
  | subscribe | unsubscribe | assign | unassign | incrementalAssign | incrementalUnassign =>
    refine keeps_settling aloof ?_ (view_settle remote _) inside
    trivial
  | refreshAssignments => exact answer _ refreshes
  | assignments => exact answer _ (.andThen refreshes fun _ => .afterReading fun _ => .pure _)
  | commit | consume | consumeMany => exact absurd trivial uncounted
  | activate | deactivate =>
    exact .lift (.change fun site => remote.unsettled site _ _ _) fun _ => .pure _
  | _ => exact keeps_quiet aloof inside trivial id

end Remote

/-- Every operation that neither disconnects nor polls nor commits leaves the loop, what it
delivered and the counters alone. -/
theorem keeps_counting {operation : Operation} (inside : StateM Site Unit)
    (closes : operation ≠ .disconnect) (uncounted : ¬operation.IsCounted) :
    Keeps Site.counting (operation.perform inside).run :=
  keeps_uncounted remote_counting inside closes uncounted

/-- Every operation but disconnecting leaves the loop and what it delivered alone. -/
theorem keeps_perform {operation : Operation} (inside : StateM Site Unit)
    (closes : operation ≠ .disconnect) : Keeps Site.looping (operation.perform inside).run := by
  by_cases counted : operation.IsCounted
  · exact keeps_counted aloof_looping (fun _ _ => rfl) inside counted
  · exact keeps_looping_of_counting (keeps_counting inside closes counted)

/-- Every operation but disconnecting leaves the configuration and the loop alone. -/
theorem keeps_standby {operation : Operation} (inside : StateM Site Unit)
    (closes : operation ≠ .disconnect) : Keeps Site.standby (operation.perform inside).run := by
  by_cases counted : operation.IsCounted
  · exact keeps_counted remote_standby.toAloof (fun _ _ => rfl) inside counted
  · exact keeps_uncounted remote_standby inside closes counted

end Consumer

end LogConsumer
