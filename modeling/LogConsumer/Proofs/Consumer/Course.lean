import LogConsumer.Proofs.Consumer.Handles

/-!
# Handles over a course

Over any course of a consumer a handle is created only where there is none, closed once at most,
reached only to drop its assignment while it is being closed, and not called at all any more once
its close has returned (`handles_over_course`).
-/
namespace LogConsumer

open Consumer

variable {site : Site}

/-- No handle is being closed. -/
def Site.IsSettled (site : Site) : Prop :=
  ∀ handle, site.life.connection ≠ .closing handle

/-- Without an end of a close no handle comes to be closed. -/
theorem settled_of_lives {site' : Site} (settled : site.IsSettled) (lives : Lives site site') :
    site'.IsSettled := by
  unfold Site.IsSettled at settled ⊢
  unfold Lives at lives
  generalize site'.life = life at lives ⊢
  induction lives with
  | refl => exact settled
  | tail _ last ih =>
    cases last with
    | installs vacant fresh => exact nofun
    | _ => exact ih

/-- Every occurrence goes on. -/
theorem occurrence_continues (site : Site) (occurrence : Occurrence) :
    Continues site (occurrence.next site) := by
  obtain ⟨moment, inside⟩ := occurrence
  unfold Occurrence.next
  by_cases closes : moment = .operate .disconnect
  · rw [closes, operate_disconnect]
    exact disconnect_continues (RunsInside.inside inside) site
  · exact continues_of_lives (moment_lives inside.perform closes site)

/-- A close returns within the occurrence in which it began. -/
theorem occurrence_settled (settled : site.IsSettled) (occurrence : Occurrence) :
    (occurrence.next site).IsSettled := by
  obtain ⟨moment, inside⟩ := occurrence
  unfold Occurrence.next
  by_cases closes : moment = .operate .disconnect
  · rw [closes, operate_disconnect]
    unfold Site.IsSettled
    obtain same | ⟨stopped, client, _, _, final⟩ := disconnect_cases inside.perform site
    · rw [same]
      exact settled
    · rw [final]
      exact nofun
  · exact settled_of_lives settled (moment_lives inside.perform closes site)

/-- A close that is new in an occurrence is that of a disconnect. Whatever is called after it in
this occurrence is called from inside the close, and is one of the few calls made then. -/
theorem occurrence_closes (occurrence : Occurrence) {handle : Nat}
    (unclosed : TracedCall.closing handle ∉ site.life.calls)
    (closed : TracedCall.closing handle ∈ (occurrence.next site).life.calls) :
    ∃ (begun : Site) (own : List TracedCall), begun.life.connection = .closing handle ∧
      begun.life.calls = site.life.calls ++ [TracedCall.closing handle] ∧
      (occurrence.next site).life.calls = (occurrence.2.perform begun).2.life.calls ∧
      (occurrence.2.perform begun).2.life.calls = begun.life.calls ++ own ∧
      ∀ call ∈ own, TracedCall.WhileClosing handle call := by
  obtain ⟨moment, inside⟩ := occurrence
  unfold Occurrence.next at closed ⊢
  by_cases closes : moment = .operate .disconnect
  · rw [closes, operate_disconnect] at closed ⊢
    obtain same | ⟨stopped, client, life, _, final⟩ := disconnect_cases inside.perform site
    · rw [same] at closed
      exact absurd closed unclosed
    · have begun : (stopped.shutting client).life.calls =
          site.life.calls ++ [TracedCall.closing client.serial] := by
        rw [← life]
        rfl
      have within := RunsInside.inside inside (stopped.shutting client) client.serial rfl
      have number : handle = client.serial := by
        by_contra differs
        refine Life.unclosed_of_acts within ?_ (by rwa [final] at closed)
        rw [begun]
        intro closed
        rcases List.mem_append.mp closed with closed | closed
        · exact unclosed closed
        · cases List.mem_singleton.mp closed
          exact differs rfl
      obtain ⟨own, calls, listed⟩ := Life.calls_of_closing within rfl
      rw [number]
      exact ⟨stopped.shutting client, own, rfl, begun, by rw [final], calls, listed⟩
  · exact absurd closed (Life.unclosed_of_acts (moment_lives inside.perform closes site) unclosed)

/-- Every course goes on, and leaves no handle in the middle of its close. -/
theorem course_continues (settled : site.IsSettled) (occurrences : List Occurrence) :
    Continues site (course site occurrences) ∧ (course site occurrences).IsSettled := by
  induction occurrences using List.reverseRecOn with
  | nil => exact ⟨.refl, settled⟩
  | append_singleton before occurrence ih =>
    obtain ⟨continued, still⟩ := ih
    rw [course, List.foldl_append]
    exact ⟨continued.trans (occurrence_continues _ occurrence), occurrence_settled still occurrence⟩

/-- Over any course of a consumer, its surroundings and what runs from inside its closes: the trace
is lawful, so a handle is created only when every earlier one was closed; no handle is closed
twice; a handle that was closed is not called in any later occurrence; and in the occurrence that
closes it, it is called only from inside the close, and only to drop what is assigned. -/
theorem handles_over_course {setup : Setup} {consumer : Consumer}
    (built : setup.build = .ok consumer) (cluster : Cluster) (past future : List Occurrence) :
    let start : Site := { consumer, cluster }
    let middle := course start past
    let final := course middle future
    Continues start final ∧ TracedCall.AllLawful final.life.calls ∧
    (∀ handle, final.life.calls.count (TracedCall.closing handle) ≤ 1) ∧
    (∀ handle, TracedCall.closing handle ∈ middle.life.calls → ∃ later,
      final.life.calls = middle.life.calls ++ later ∧ handle ∉ TracedCall.handles later) ∧
    ∀ occurrence handle, TracedCall.closing handle ∉ final.life.calls →
      TracedCall.closing handle ∈ (Occurrence.next final occurrence).life.calls →
      ∃ (begun : Site) (own : List TracedCall), begun.life.connection = .closing handle ∧
        begun.life.calls = final.life.calls ++ [TracedCall.closing handle] ∧
        (Occurrence.next final occurrence).life.calls =
          (occurrence.2.perform begun).2.life.calls ∧
        (occurrence.2.perform begun).2.life.calls = begun.life.calls ++ own ∧
        ∀ call ∈ own, TracedCall.WhileClosing handle call := by
  intro start middle final
  obtain ⟨config, factory, rfl⟩ := Setup.eq_of_build built
  have begins : Life.Sound start.life := .start _
  have settled : start.IsSettled := fun _ => nofun
  obtain ⟨continued, still⟩ := course_continues settled past
  obtain ⟨goes, _⟩ := course_continues still future
  have sound := begins.steps continued
  have lawful := (sound.steps goes).lawful
  have gone {handle : Nat} (closed : TracedCall.closing handle ∈ middle.life.calls) :
      Life.Gone handle middle.life := by
    refine ⟨sound.known handle (TracedCall.mem_handles_of_closing closed), fun installed => ?_⟩
    cases state : middle.life.connection with
    | disconnected =>
      rw [state] at installed
      contradiction
    | connected other =>
      rw [state] at installed
      cases installed
      exact (sound.opened handle state).2 closed
    | closing other => exact still other state
  exact ⟨continued.trans goes, lawful, lawful.count_closing_le,
    fun _ closed => ((gone closed).steps goes).2, fun occurrence _ => occurrence_closes occurrence⟩

/-- The first handle of a consumer, closed with a course inside that tries to connect, to disconnect
and to drop what is assigned, is not called any more while the second one is in use. -/
theorem first_handle_gone :
    let setup : Setup := { factory := some {} }
    let inside : List Moment := [.operate .connect, .operate .disconnect, .operate .unassign]
    let past : List Occurrence :=
      [(.operate .connect, .script), (.operate .disconnect, .course inside)]
    let future : List Occurrence := [(.operate .connect, .script), (.operate .disconnect, .script)]
    ∃ consumer, setup.build = .ok consumer ∧
      let middle := course { consumer, cluster := {} } past
      TracedCall.closing 1 ∈ middle.life.calls ∧
      TracedCall.closing 2 ∈ (course middle future).life.calls ∧ ∃ later,
        (course middle future).life.calls = middle.life.calls ++ later ∧
          1 ∉ TracedCall.handles later := by
  intro setup inside past future
  have built : setup.build = .ok { config := {}, boundary := { factory := {} } } := rfl
  obtain ⟨_, _, _, gone, _⟩ := handles_over_course built {} past future
  exact ⟨_, built, by decide, by decide, gone 1 (by decide)⟩

end LogConsumer
