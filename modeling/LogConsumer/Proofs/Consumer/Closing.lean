import LogConsumer.Proofs.Client.Placement
import LogConsumer.Proofs.Consumer.Handles

/-!
# Closing and the cluster

A disconnect happens to no log and commits nothing, whatever runs from inside the close
(`disconnect_unmoved`): while the handle is being closed, only what drops its assignment reaches it.
-/
namespace LogConsumer

open Consumer Consumer.Does

variable {site site' : Site} {makes : ClientCall → Prop} {resets : Prop} {α : Type}

/-- From a site whose handle is being closed, nothing happens to the cluster, and the handle still
is being closed. -/
def Still (site site' : Site) : Prop :=
  ∀ client, site.consumer.connection = .closing client →
    (∃ client, site'.consumer.connection = .closing client) ∧ site.cluster.Unmoved site'.cluster

/-- Where nothing but other parts of the consumer changes, nothing happens to the cluster. -/
theorem still_of_consumer {consumer : Consumer}
    (connection : consumer.connection = site.consumer.connection) :
    Still site { site with consumer } :=
  fun client closing => ⟨⟨client, connection.trans closing⟩, .refl _⟩

/-- A call that drops what is assigned uses up its script, and that is all it does to the cluster.
-/
theorem ClientCall.unmoved_of_isRelease {request : ClientCall} (release : request.IsRelease)
    (link : Link) : link.cluster.Unmoved (request.perform link).2.cluster := by
  cases request with
  | unassign =>
    change link.cluster.Unmoved (Client.unassign.run link).2.cluster
    obtain ⟨error, refused⟩ | accepted := Client.unassign_cases link
    · rw [refused]
      exact .takeFault _ _
    · rw [accepted]
      exact .takeFault _ _
  | incrementalUnassign partitions =>
    change link.cluster.Unmoved ((Client.incrementalUnassign partitions).run link).2.cluster
    obtain ⟨error, refused⟩ | accepted := Client.incrementalUnassign_cases partitions link
    · rw [refused]
      exact .takeFault _ _
    · rw [accepted]
      exact .takeFault _ _
  | _ => exact release.elim

/-- While a handle is being closed, no act happens to the cluster. -/
theorem still_of_act (act : Act makes resets site site') : Still site site' := by
  cases act with
  | tidy same => exact still_of_consumer (congrArg Core.connection same)
  | reset partitions subscriptionFlag may => exact still_of_consumer rfl
  | told admits may => exact still_of_consumer rfl
  | @reached client request admits may =>
    intro other closing
    rcases admits with opened | ⟨state, release⟩
    · rw [closing] at opened
      contradiction
    · refine ⟨⟨(request.perform ⟨client, site.cluster⟩).2.client, ?_⟩,
        ClientCall.unmoved_of_isRelease release ⟨client, site.cluster⟩⟩
      rw [Site.linked, state]
      rfl

/-- An action none of whose parts happens to the cluster does not. -/
theorem still_of_does {action : StateM Site α} (does : Does Still action site) :
    Still site (action site).2 := by
  refine does.whole (fun site client closing => ⟨⟨client, closing⟩, .refl _⟩) ?_
  intro first second third before after client closing
  obtain ⟨⟨between, still⟩, earlier⟩ := before client closing
  obtain ⟨final, later⟩ := after between still
  exact ⟨final, earlier.trans later⟩

/-- A sequence of acts happens to no cluster while a handle is being closed. -/
theorem still_of_acts {action : StateM Site α} (acts : Acts makes resets action site) :
    Does Still action site :=
  acts.mono fun _ _ => still_of_act

/-- Bookkeeping happens to no cluster while a handle is being closed. -/
theorem still_of_books {action : StateM Site α} (books : Acts (fun _ => False) False action site) :
    Does Still action site :=
  still_of_acts books

/-- Where a handle is not being closed, nothing is said. -/
theorem still_of_not_closing (other : ∀ client, site.consumer.connection ≠ .closing client) :
    Still site site' :=
  fun client closing => absurd closing (other client)

/-- Connecting happens to no cluster while a handle is being closed. -/
theorem connect_still (site : Site) : Does Still Consumer.connect.run site := by
  rw [connect_eq]
  refine get (either (lift (.single (still_of_consumer rfl)) ?_) (pure _))
  refine bind (still_of_books (takeHookFault .prepare)) fun _ prepared _ => ?_
  have installs : Does Still installHandle.run prepared := by
    obtain ⟨_, result⟩ | ⟨vacant, _⟩ | ⟨vacant, _⟩ := installHandle_cases prepared
    · exact idle (by rw [result])
    · exact .single (still_of_not_closing fun client => by rw [vacant]; exact nofun)
    · exact .single (still_of_not_closing fun client => by rw [vacant]; exact nofun)
  refine bind installs fun installed site' result => ?_
  cases installed with
  | none => exact pure _
  | some client =>
    exact greet (connection_of_installHandle result) (fun _ _ => still_of_act)
      fun site _ => still_of_consumer rfl

/-- A disconnect happens to no cluster while the handle is being closed already. -/
theorem disconnect_still (inside : StateM Site Unit) (site : Site) :
    Does Still (Consumer.disconnect inside).run site := by
  rw [disconnect_eq]
  refine get (bind (still_of_books (stopLoop _ _ _)) fun _ stopped _ => ?_)
  obtain ⟨_, unchanged⟩ | ⟨client, opened, _⟩ := shutDown_cases inside stopped
  · exact idle (congrArg Prod.snd unchanged)
  · exact .single (still_of_not_closing fun other => by rw [opened]; exact nofun)

/-- No operation happens to the cluster while the handle is being closed. -/
theorem perform_still (operation : Operation) (inside : StateM Site Unit) (site : Site) :
    Does Still (operation.perform inside).run site := by
  by_cases opens : operation = .connect
  · subst opens
    exact answer (connect_still site)
  · by_cases closes : operation = .disconnect
    · subst closes
      exact answer (disconnect_still inside site)
    · exact still_of_acts (perform inside opens closes site)

/-- The close script happens to no cluster while the handle is being closed. -/
theorem runCloseScript_still (site : Site) : Still site (Consumer.runCloseScript site).2 :=
  still_of_does (Does.runCloseScript (fun operation => perform_still operation _)
    (fun _ _ => still_of_consumer rfl) site)

/-- Letting a handle go uses up a script, and that is all it does to the cluster. -/
theorem letGo_unmoved (client : Client) (site : Site) :
    site.cluster.Unmoved ((letGo client).run site).2.cluster := by
  have last : ((letGo client).run site).2.cluster =
      ((releaseHandle client).run site).2.cluster := view_of_letGo (fun _ _ _ => rfl) client site
  have closed (link : Link) : (Client.close.run link).2.cluster =
      (link.cluster.takeFault .close).2 := by
    change ((Client.takeFault .close).run link).2.cluster = _
    rw [Client.takeFault_run]
  rw [last, releaseHandle_run]
  change site.cluster.Unmoved (Client.close.run ⟨_, site.cluster⟩).2.cluster
  rw [closed]
  exact .takeFault site.cluster .close

/-- A disconnect happens to no log and commits nothing. -/
theorem disconnect_unmoved (site : Site) :
    site.cluster.Unmoved (Operation.disconnect.run.run site).2.cluster := by
  have ran : (Operation.disconnect.run.run site).2 =
      ((Consumer.disconnect Consumer.runCloseScript).run site).2 :=
    congrArg Prod.snd
      (run_map (Consumer.disconnect Consumer.runCloseScript) (fun _ => Reply.done) site)
  have same : ((Consumer.stopLoop site.consumer.config.loopStopTimeout false).run site).2.cluster =
      site.cluster := view_of_books (fun _ _ _ => rfl) (stopLoop _ _ site)
  rw [ran, ← same]
  obtain stopped | ⟨_, client, _, shut⟩ := disconnect_branches Consumer.runCloseScript site
  · rw [stopped]
    exact .refl _
  · let stopped := ((Consumer.stopLoop site.consumer.config.loopStopTimeout false).run site).2
    have within := (runCloseScript_still (stopped.shutting client) client rfl).2
    rw [shut]
    exact within.trans (letGo_unmoved client _)

end LogConsumer
