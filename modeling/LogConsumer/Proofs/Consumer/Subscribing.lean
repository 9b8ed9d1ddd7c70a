import LogConsumer.Proofs.Consumer.Connecting
import LogConsumer.Proofs.Consumer.Handles
import LogConsumer.Proofs.Runs

/-!
# The subscription flag

Of all that happens at a consumer, only a subscribe that succeeds raises the subscription flag
(`course_unraised`). Connecting, assigning and the consume loop leave it as it is; dropping the
subscription and letting the handle go clear it.
-/
namespace LogConsumer

open Consumer Consumer.Does

variable {site site' : Site} {makes : ClientCall → Prop} {resets : Prop} {α β : Type}

/-- The subscription flag is not raised. -/
def Unraised (site site' : Site) : Prop :=
  site.consumer.subscriptionFlag = false → site'.consumer.subscriptionFlag = false

/-- An act that does not change what is believed to be assigned does not raise the flag. -/
theorem unraised_of_act (calm : ¬resets) (act : Act makes resets site site') :
    Unraised site site' := by
  intro unflagged
  cases act with
  | tidy same => exact (congrArg Core.subscriptionFlag same).trans unflagged
  | reset partitions subscriptionFlag may => exact absurd may calm
  | told admits may => exact unflagged
  | reached admits may => exact unflagged

/-- A sequence of such acts does not raise the flag. -/
theorem unraised_of_acts {action : StateM Site α}
    (acts : Acts (fun _ => True) False action site) : Does Unraised action site :=
  acts.mono fun _ _ => unraised_of_act id

/-- An action none of whose parts raises the flag does not raise it. -/
theorem unraised_of_does {action : StateM Site α} (does : Does Unraised action site) :
    Unraised site (action site).2 :=
  does.whole (fun _ => id) fun _ _ _ before after => after ∘ before

/-- A change of the consumer that leaves the flag as it is or clears it, and an event. -/
theorem publish_unraised {change : Consumer → Consumer} {event : Event}
    (clears : ∀ consumer : Consumer, (change consumer).subscriptionFlag =
      consumer.subscriptionFlag ∨ (change consumer).subscriptionFlag = false) (site : Site) :
    Does Unraised (do update change; Consumer.publish event : Action Unit).run site := by
  have changed : Unraised site (update change site).2 := by
    intro unflagged
    rcases clears site.consumer with same | cleared
    · exact same.trans unflagged
    · exact cleared
  exact lift (.single changed) (unraised_of_acts (publish event))

/-- Subscribing fails before it calls the open handle, or goes on from the call. -/
theorem subscribe_cases (topics : List String) (site : Site) :
    (∃ error, (Consumer.subscribe topics).run site = (.error error, site)) ∨
    ∃ client, site.consumer.connection = .connected client ∧
      (Consumer.subscribe topics).run site = (do
        Consumer.call client (.subscribe topics) (Client.subscribe topics)
        update fun consumer => { consumer with subscriptionFlag := true }
        Consumer.publish (.subscribed topics) : Action Unit).run site := by
  unfold Consumer.subscribe
  obtain ⟨client, opened, passed⟩ | ⟨_, refused⟩ := openHandle_cases site
  · rw [run_bind_ok passed]
    by_cases untopical : topics.isEmpty = true
    · rw [if_pos untopical]
      exact .inl ⟨_, rfl⟩
    · rw [if_neg untopical]
      by_cases unnamed : topics.any isBlank = true
      · rw [if_pos unnamed]
        exact .inl ⟨_, rfl⟩
      · rw [if_neg unnamed]
        exact .inr ⟨client, opened, rfl⟩
  · exact .inl ⟨_, run_bind_error refused⟩

/-- A subscribe that fails does not raise the flag. -/
theorem subscribe_unraised {topics : List String}
    (failed : ((Consumer.subscribe topics).run site).1 ≠ .ok ()) :
    Unraised site ((Consumer.subscribe topics).run site).2 := by
  intro unflagged
  obtain ⟨error, refused⟩ | ⟨client, opened, goes⟩ := subscribe_cases topics site
  · rw [refused]
    exact unflagged
  · obtain ⟨error, _, rejected⟩ | ⟨answer, _, went⟩ := call_cases client (.subscribe topics)
      (Client.subscribe topics) (fun _ => do
        update fun consumer => { consumer with subscriptionFlag := true }
        Consumer.publish (.subscribed topics)) site
    · rw [goes, rejected]
      exact unflagged
    · rw [goes, went] at failed
      exact absurd rfl failed

/-- Dropping the subscription does not raise the flag. -/
theorem unsubscribe_unraised (site : Site) : Does Unraised Consumer.unsubscribe.run site := by
  refine get (either (openHandle fun client state => ?_) (pure _))
  refine lift (unraised_of_acts (trace (.inl state) trivial)) ?_
  refine bind (unraised_of_acts (takeHookFault _)) fun _ site' _ => ?_
  have reached : Does Unraised (Consumer.onHandle client Client.unsubscribe.run).run site' :=
    .single fun unflagged => unflagged
  refine bind reached fun outcome site'' _ => ?_
  cases outcome with
  | error error => exact throw _
  | ok _ => exact publish_unraised (fun _ => .inr rfl) _

/-- The operation does not subscribe, or fails. -/
def Operation.LeavesUnsubscribed (site : Site) : Operation → Prop
  | .subscribe topics => ((Consumer.subscribe topics).run site).1 ≠ .ok ()
  | _ => True

/-- Connecting does not raise the flag. -/
theorem connect_unraised (site : Site) : Does Unraised Consumer.connect.run site := by
  rw [connect_eq]
  refine get (either (lift (.single fun unflagged => unflagged) ?_) (pure _))
  refine bind (unraised_of_acts (takeHookFault .prepare)) fun _ prepared _ => ?_
  have installs : Does Unraised installHandle.run prepared := by
    obtain ⟨_, result⟩ | ⟨_, _, _, result⟩ | ⟨_, _, result⟩ := installHandle_cases prepared
    all_goals
      refine .single ?_
      rw [result]
      exact fun unflagged => unflagged
  refine bind installs fun installed site' result => ?_
  cases installed with
  | none => exact pure _
  | some client =>
    exact Does.greet (connection_of_installHandle result) (fun _ _ => unraised_of_act id)
      fun _ _ unflagged => unflagged

/-- Disconnecting does not raise the flag, whatever runs from inside the close. -/
theorem disconnect_unraised (inside : StateM Site Unit) (site : Site) :
    Does Unraised (Consumer.disconnect inside).run site := by
  rw [disconnect_eq]
  refine get (bind (unraised_of_acts (stopLoop _ _ _)) fun _ stopped _ => ?_)
  obtain ⟨_, unchanged⟩ | ⟨client, _, shut⟩ := shutDown_cases inside stopped
  · exact idle (congrArg Prod.snd unchanged)
  · have cleared (closing : Site) :
        ((letGo client).run closing).2.consumer.subscriptionFlag =
          ((releaseHandle client).run closing).2.consumer.subscriptionFlag :=
      @view_of_letGo _ (fun site => site.consumer.subscriptionFlag)
        (fun _ _ same => congrArg Core.subscriptionFlag same) client closing
    refine .single fun _ => ?_
    rw [shut, cleared]
    rfl

/-- No operation but a subscribe that succeeds raises the flag. -/
theorem operate_unraised {operation : Operation} (inside : StateM Site Unit)
    (unsubscribed : operation.LeavesUnsubscribed site) :
    Does Unraised (operation.perform inside).run site := by
  by_cases apart : operation.SparesSession
  · exact performApart inside apart (fun _ _ => unraised_of_act id)
      (fun _ _ unflagged => unflagged) site
  · cases operation with
    | connect => exact answer (connect_unraised site)
    | disconnect => exact answer (disconnect_unraised inside site)
    | subscribe topics => exact answer (.single (subscribe_unraised unsubscribed))
    | unsubscribe => exact answer (unsubscribe_unraised site)
    | _ => exact absurd trivial apart

/-- It is no subscribe that succeeds. -/
def Occurrence.LeavesUnsubscribed (site : Site) : Occurrence → Prop
  | (.operate operation, _) => operation.LeavesUnsubscribed site
  | _ => True

/-- Nothing that happens raises the flag but a subscribe that succeeds. -/
theorem next_unraised {occurrence : Occurrence}
    (unsubscribed : occurrence.LeavesUnsubscribed site) :
    Unraised site (occurrence.next site) := by
  obtain ⟨moment, inside⟩ := occurrence
  cases moment with
  | operate operation => exact unraised_of_does (operate_unraised inside.perform unsubscribed)
  | startLoop timeout sleepDelay =>
    exact unraised_of_does (unraised_of_acts (consumeLoop timeout sleepDelay site))
  | advanceLoop workerFree =>
    exact unraised_of_does (unraised_of_acts (advanceLoop workerFree (fun _ => trivial) site))
  | stopLoop wait reportsPanic =>
    exact unraised_of_does (unraised_of_acts (stopLoop wait reportsPanic site))
  | surroundings boundary others created => exact fun unflagged => unflagged

/-- Over a course without a subscribe that succeeds the flag is not raised. -/
theorem course_unraised {occurrences : List Occurrence}
    (unsubscribed : Throughout Occurrence.next Occurrence.LeavesUnsubscribed site occurrences) :
    Unraised site (course site occurrences) := by
  induction occurrences generalizing site with
  | nil => exact id
  | cons occurrence later ih =>
    obtain ⟨first, rest⟩ := unsubscribed
    exact ih rest ∘ next_unraised first

end LogConsumer
