import Mathlib.Data.List.Induction
import Mathlib.Logic.Relation
import LogConsumer.Consumer
import LogConsumer.Proofs.Consumer.Gates

/-!
# The life of handles

What a trace of calls tells about the handles of a consumer. `Life.Step` lists everything that can
happen to them: the factory is asked for a handle only where there is none, a handle is called only
while it is installed and open, and once it is being closed only what drops its assignment still
reaches it. `Lawful` says what follows for the trace: at most one handle is in use at any time, and
a handle that was closed is not used again. `Sound` is the invariant from which it follows.
-/
namespace LogConsumer

/-- The same state with the number of the handle in its place. -/
def Connection.numbered : Connection Client → Connection Nat
  | .disconnected => .disconnected
  | .connected client => .connected client.serial
  | .closing client => .closing client.serial

/-- The calls that still reach a handle while it is being closed. -/
def ClientCall.IsRelease : ClientCall → Prop
  | .unassign | .incrementalUnassign _ => True
  | _ => False

/-- What a site shows of the life of its handles. -/
structure Life where
  /-- The connection, with the number of its handle. -/
  connection : Connection Nat
  /-- The calls traced, oldest first. -/
  calls : List TracedCall
  /-- The number of handles that the cluster has created. -/
  created : Nat

/-- What the site shows of the life of its handles. -/
def Site.life (site : Site) : Life :=
  { connection := site.consumer.connection.numbered
    calls := site.consumer.boundary.calls
    created := site.cluster.created }

namespace TracedCall

/-- The call that shuts a handle down. -/
def closing (handle : Nat) : TracedCall :=
  ⟨some handle, .onHandle .close⟩

/-- The handles that were called. -/
def handles (calls : List TracedCall) : List Nat :=
  calls.filterMap TracedCall.handle

/-- The calls that are made while a handle is being closed: the factory is asked to prepare, or the
handle drops what is assigned. -/
inductive WhileClosing (handle : Nat) : TracedCall → Prop where
  /-- The factory prepares. -/
  | prepares : WhileClosing handle ⟨none, .prepare⟩
  /-- What is assigned is dropped. -/
  | releases {request : ClientCall} (release : request.IsRelease) :
    WhileClosing handle ⟨some handle, .onHandle request⟩

/-- What the trace so far says about the call that comes next. -/
structure Lawful (before : List TracedCall) (call : TracedCall) : Prop where
  /-- The factory is asked for a handle only when every handle so far has been closed. -/
  creates : call.call = .create → ∀ handle ∈ handles before, closing handle ∈ before
  /-- A handle is called only when every other handle so far has been closed. -/
  alone : ∀ handle, call.handle = some handle →
    ∀ other ∈ handles before, other ≠ handle → closing other ∈ before
  /-- A handle that is being closed is called only to drop what is assigned. -/
  releases : ∀ handle, call.handle = some handle → closing handle ∈ before →
    ∃ request, call.call = .onHandle request ∧ request.IsRelease
  /-- A handle is not called any more once the factory was asked for another. -/
  current : ∀ handle, call.handle = some handle → ∀ earlier asked later,
    before = earlier ++ asked :: later → asked.call = .create → handle ∉ handles earlier

/-- Every call of the trace is lawful after the calls before it. -/
def AllLawful (calls : List TracedCall) : Prop :=
  ∀ before call after, calls = before ++ call :: after → Lawful before call

/-- A call in a trace that was made longer is the last one, or one of the trace before. -/
theorem split_snoc {calls before after : List TracedCall} {call other : TracedCall}
    (split : calls ++ [call] = before ++ other :: after) :
    (before = calls ∧ other = call) ∨ ∃ rest, calls = before ++ other :: rest := by
  rcases List.eq_nil_or_concat after with rfl | ⟨rest, last, rfl⟩
  · obtain ⟨rfl, same⟩ := List.append_inj' split rfl
    cases same
    exact .inl ⟨rfl, rfl⟩
  · have whole : calls ++ [call] = (before ++ other :: rest) ++ [last] := by
      rw [split, List.concat_eq_append]
      simp
    obtain ⟨rfl, _⟩ := List.append_inj' whole rfl
    exact .inr ⟨rest, rfl⟩

/-- A lawful trace stays lawful by a lawful call. -/
theorem AllLawful.snoc {calls : List TracedCall} {call : TracedCall} (all : AllLawful calls)
    (lawful : Lawful calls call) : AllLawful (calls ++ [call]) := by
  intro before other after split
  obtain ⟨rfl, rfl⟩ | ⟨rest, earlier⟩ := split_snoc split
  · exact lawful
  · exact all before other rest earlier

/-- A part of a lawful trace up to some call is lawful. -/
theorem AllLawful.front {calls later : List TracedCall} (all : AllLawful (calls ++ later)) :
    AllLawful calls := by
  intro before call after split
  apply all before call (after ++ later)
  rw [split, List.append_assoc, List.cons_append]

/-- A handle is closed at most once. -/
theorem AllLawful.count_closing_le {calls : List TracedCall} (all : AllLawful calls)
    (handle : Nat) : calls.count (closing handle) ≤ 1 := by
  induction calls using List.reverseRecOn with
  | nil => simp
  | append_singleton calls call ih =>
    rw [List.count_append, List.count_singleton]
    have before := ih all.front
    by_cases closes : call = closing handle
    · have lawful := all calls call [] rfl
      have first : closing handle ∉ calls := by
        intro again
        obtain ⟨request, same, release⟩ := lawful.releases handle (by rw [closes]; rfl) again
        rw [closes] at same
        cases same
        exact release
      rw [List.count_eq_zero.mpr first]
      split <;> omega
    · simpa [closes] using before

/-- The handles called in two parts of a trace are those called in the parts. -/
theorem handles_append (first second : List TracedCall) :
    handles (first ++ second) = handles first ++ handles second :=
  List.filterMap_append

/-- A handle that was closed was called. -/
theorem mem_handles_of_closing {calls : List TracedCall} {handle : Nat}
    (closed : closing handle ∈ calls) : handle ∈ handles calls :=
  List.mem_filterMap.mpr ⟨closing handle, closed, rfl⟩

end TracedCall

namespace Life

/-- The life after one more call was traced. -/
def told (life : Life) (handle : Option Nat) (call : Call) : Life :=
  { life with calls := life.calls ++ [⟨handle, call⟩] }

/-- What can happen to the handles but for the two ends of a close. -/
inductive Act : Life → Life → Prop where
  /-- The factory prepares. -/
  | prepares {life : Life} : Act life (life.told none .prepare)
  /-- The factory is asked for a handle where there is none. -/
  | creates {life : Life} (vacant : life.connection = .disconnected) :
    Act life (life.told none .create)
  /-- A handle that never was before is installed where there is none. -/
  | installs {life : Life} {handle : Nat} (vacant : life.connection = .disconnected)
    (fresh : life.created < handle) :
    Act life { life with connection := .connected handle, created := handle }
  /-- The open handle is called, or the factory is told about it. -/
  | calls {life : Life} {handle : Nat} {call : Call} (opened : life.connection = .connected handle)
    (closes : call ≠ .onHandle .close) (creates : call ≠ .create) :
    Act life (life.told (some handle) call)
  /-- What is assigned to a handle that is being closed is dropped. -/
  | releases {life : Life} {handle : Nat} {request : ClientCall}
    (closing : life.connection = .closing handle) (release : request.IsRelease) :
    Act life (life.told (some handle) (.onHandle request))
  /-- Others create handles. -/
  | elsewhere {life : Life} {created : Nat} (more : life.created ≤ created) :
    Act life { life with created }

/-- What can happen to the handles. -/
inductive Step : Life → Life → Prop where
  /-- Anything but an end of a close. -/
  | act {life life' : Life} (act : Act life life') : Step life life'
  /-- The close of the open handle begins. -/
  | begins {life : Life} {handle : Nat} (opened : life.connection = .connected handle) :
    Step life { life.told (some handle) (.onHandle .close) with connection := .closing handle }
  /-- The close returns, and the handle is let go. -/
  | returns {life : Life} {handle : Nat} (closing : life.connection = .closing handle) :
    Step life { life with connection := .disconnected }

/-- What holds of the handles at any time: the trace is lawful; every handle that is not installed
any more has been closed, one that is being closed too, and one that is open has not; and the
cluster has counted them all. -/
structure Sound (life : Life) : Prop where
  /-- The trace is lawful. -/
  lawful : TracedCall.AllLawful life.calls
  /-- Every handle called was counted. -/
  known : ∀ handle ∈ TracedCall.handles life.calls, handle ≤ life.created
  /-- Every handle called that is not installed was closed. -/
  gone : ∀ handle ∈ TracedCall.handles life.calls, life.connection.handle? ≠ some handle →
    TracedCall.closing handle ∈ life.calls
  /-- The open handle was counted and has not been closed. -/
  opened : ∀ handle, life.connection = .connected handle →
    handle ≤ life.created ∧ TracedCall.closing handle ∉ life.calls
  /-- The handle that is being closed was counted, and its close has begun. -/
  shutting : ∀ handle, life.connection = .closing handle →
    handle ≤ life.created ∧ TracedCall.closing handle ∈ life.calls
  /-- The factory was not asked for another handle since the installed one was called. -/
  current : ∀ handle, life.connection.handle? = some handle → ∀ earlier asked later,
    life.calls = earlier ++ asked :: later → asked.call = .create →
      handle ∉ TracedCall.handles earlier

namespace Sound

variable {life life' : Life}

/-- The installed handle was counted. -/
theorem installed_le (sound : Sound life) {handle : Nat}
    (installed : life.connection.handle? = some handle) : handle ≤ life.created := by
  cases state : life.connection with
  | disconnected =>
    rw [state] at installed
    contradiction
  | connected other =>
    rw [state] at installed
    cases installed
    exact (sound.opened handle state).1
  | closing other =>
    rw [state] at installed
    cases installed
    exact (sound.shutting handle state).1

/-- A lawful call on the installed handle or the factory, other than a close, keeps what holds. -/
theorem told (sound : Sound life) {handle : Option Nat} {call : Call}
    (lawful : TracedCall.Lawful life.calls ⟨handle, call⟩) (closes : call ≠ .onHandle .close)
    (creates : call = .create → life.connection = .disconnected)
    (installed : ∀ number, handle = some number → life.connection.handle? = some number) :
    Sound (life.told handle call) where
  lawful := sound.lawful.snoc lawful
  known := by
    intro number called
    rw [Life.told, TracedCall.handles_append, List.mem_append] at called
    rcases called with called | called
    · exact sound.known number called
    · cases handle with
      | none => contradiction
      | some handle =>
        cases List.mem_singleton.mp called
        exact sound.installed_le (installed number rfl)
  gone := by
    intro number called absent
    rw [Life.told, TracedCall.handles_append, List.mem_append] at called
    rcases called with called | called
    · exact List.mem_append_left _ (sound.gone number called absent)
    · cases handle with
      | none => contradiction
      | some handle =>
        cases List.mem_singleton.mp called
        exact absurd (installed number rfl) absent
  opened := by
    intro number state
    obtain ⟨counted, unclosed⟩ := sound.opened number state
    refine ⟨counted, fun closed => ?_⟩
    rcases List.mem_append.mp closed with closed | closed
    · exact unclosed closed
    · cases List.mem_singleton.mp closed
      exact closes rfl
  shutting := by
    intro number state
    obtain ⟨counted, closed⟩ := sound.shutting number state
    exact ⟨counted, List.mem_append_left _ closed⟩
  current := by
    intro number state earlier asked later split asks
    obtain ⟨rfl, rfl⟩ | ⟨rest, before⟩ := TracedCall.split_snoc split
    · have vacant : (life.told handle call).connection = .disconnected := creates asks
      rw [vacant] at state
      contradiction
    · exact sound.current number state earlier asked rest before asks

/-- A call on the installed handle has every other handle closed before it. -/
theorem alone (sound : Sound life) {handle : Nat}
    (installed : life.connection.handle? = some handle) :
    ∀ other ∈ TracedCall.handles life.calls, other ≠ handle →
      TracedCall.closing other ∈ life.calls := by
  intro other called differs
  apply sound.gone other called
  rw [installed]
  exact fun same => differs (Option.some.inj same).symm

/-- A call on the installed handle is lawful if it asks for no handle and, once the handle is being
closed, drops what is assigned. -/
theorem lawful_call (sound : Sound life) {handle : Nat} {call : Call}
    (installed : life.connection.handle? = some handle) (creates : call ≠ .create)
    (releases : TracedCall.closing handle ∈ life.calls →
      ∃ request, call = .onHandle request ∧ request.IsRelease) :
    TracedCall.Lawful life.calls ⟨some handle, call⟩ where
  creates same := absurd same creates
  alone := by
    intro number same
    cases same
    exact sound.alone installed
  releases := by
    intro number same
    cases same
    exact releases
  current := by
    intro number same
    cases same
    exact sound.current _ installed

/-- A call on the installed handle, other than a close, keeps what holds. -/
theorem called (sound : Sound life) {handle : Nat} {call : Call}
    (installed : life.connection.handle? = some handle) (closes : call ≠ .onHandle .close)
    (creates : call ≠ .create)
    (releases : TracedCall.closing handle ∈ life.calls →
      ∃ request, call = .onHandle request ∧ request.IsRelease) :
    Sound (life.told (some handle) call) := by
  refine sound.told (sound.lawful_call installed creates releases) closes
    (fun same => absurd same creates) fun number same => ?_
  cases same
  exact installed

/-- Installing a handle that never was before keeps what holds. -/
theorem installs (sound : Sound life) {handle : Nat} (vacant : life.connection = .disconnected)
    (fresh : life.created < handle) :
    Sound { life with connection := .connected handle, created := handle } := by
  have unknown : handle ∉ TracedCall.handles life.calls := by
    intro called
    have counted := sound.known handle called
    omega
  refine ⟨sound.lawful, fun number called => ?_, fun number called _ => ?_, fun number state => ?_,
    nofun, fun number state earlier asked later split _ called => ?_⟩
  · have counted := sound.known number called
    exact Nat.le_of_lt (Nat.lt_of_le_of_lt counted fresh)
  · apply sound.gone number called
    rw [vacant]
    exact nofun
  · cases state
    exact ⟨Nat.le_refl _, fun closed => unknown (TracedCall.mem_handles_of_closing closed)⟩
  · cases state
    change life.calls = _ at split
    rw [split, TracedCall.handles_append] at unknown
    exact unknown (List.mem_append_left _ called)

/-- What can happen but for the ends of a close keeps what holds. -/
theorem act (sound : Sound life) (act : Act life life') : Sound life' := by
  cases act with
  | prepares =>
    exact sound.told ⟨nofun, nofun, nofun, nofun⟩ nofun nofun nofun
  | creates vacant =>
    refine sound.told ⟨fun _ handle called => ?_, nofun, nofun, nofun⟩ nofun (fun _ => vacant) nofun
    apply sound.gone handle called
    rw [vacant]
    exact nofun
  | installs vacant fresh => exact sound.installs vacant fresh
  | @calls handle call opened closes creates =>
    have installed : life.connection.handle? = some handle := by rw [opened]; rfl
    obtain ⟨_, unclosed⟩ := sound.opened handle opened
    exact sound.called installed closes creates fun closed => absurd closed unclosed
  | @releases handle request closing release =>
    have installed : life.connection.handle? = some handle := by rw [closing]; rfl
    refine sound.called installed ?_ nofun fun _ => ⟨request, rfl, release⟩
    rintro ⟨⟩
    exact release
  | elsewhere more =>
    refine ⟨sound.lawful, fun number called => ?_, sound.gone, fun number state => ?_,
      fun number state => ?_, sound.current⟩
    · exact Nat.le_trans (sound.known number called) more
    · obtain ⟨counted, unclosed⟩ := sound.opened number state
      exact ⟨Nat.le_trans counted more, unclosed⟩
    · obtain ⟨counted, closed⟩ := sound.shutting number state
      exact ⟨Nat.le_trans counted more, closed⟩

/-- The beginning of the close of the open handle keeps what holds. -/
theorem begins (sound : Sound life) {handle : Nat}
    (opened : life.connection = .connected handle) :
    Sound { life.told (some handle) (.onHandle .close) with connection := .closing handle } := by
  have installed : life.connection.handle? = some handle := by rw [opened]; rfl
  obtain ⟨counted, unclosed⟩ := sound.opened handle opened
  have lawful : TracedCall.Lawful life.calls (TracedCall.closing handle) :=
    sound.lawful_call installed nofun fun closed => absurd closed unclosed
  have ended : TracedCall.closing handle ∈ life.calls ++ [TracedCall.closing handle] := by simp
  refine ⟨sound.lawful.snoc lawful, fun number called => ?_, fun number called absent => ?_, nofun,
    fun number state => ?_, fun number state earlier asked later split asks => ?_⟩
  · change number ∈ TracedCall.handles (life.calls ++ [TracedCall.closing handle]) at called
    rw [TracedCall.handles_append, List.mem_append] at called
    rcases called with called | called
    · exact sound.known number called
    · cases List.mem_singleton.mp called
      exact counted
  · change number ∈ TracedCall.handles (life.calls ++ [TracedCall.closing handle]) at called
    rw [TracedCall.handles_append, List.mem_append] at called
    rcases called with called | called
    · have differs : number ≠ handle := fun same => absent (same ▸ rfl)
      exact List.mem_append_left _ (sound.alone installed number called differs)
    · cases List.mem_singleton.mp called
      exact ended
  · cases state
    exact ⟨counted, ended⟩
  · cases state
    obtain ⟨rfl, rfl⟩ | ⟨rest, before⟩ := TracedCall.split_snoc split
    · contradiction
    · exact sound.current _ installed earlier asked rest before asks

/-- The return of a close keeps what holds. -/
theorem returns (sound : Sound life) {handle : Nat}
    (closing : life.connection = .closing handle) :
    Sound { life with connection := .disconnected } := by
  refine ⟨sound.lawful, sound.known, fun number called _ => ?_, nofun, nofun, nofun⟩
  by_cases here : number = handle
  · rw [here]
    exact (sound.shutting handle closing).2
  · apply sound.gone number called
    rw [closing]
    exact fun same => here (Option.some.inj same).symm

/-- Whatever can happen keeps what holds. -/
theorem step (sound : Sound life) (step : Step life life') : Sound life' := by
  cases step with
  | act act => exact sound.act act
  | begins opened => exact sound.begins opened
  | returns closing => exact sound.returns closing

/-- A life that has only begun, with nothing traced and no handle. -/
theorem start (created : Nat) : Sound { connection := .disconnected, calls := [], created } := by
  refine ⟨fun before call after split => ?_, nofun, nofun, nofun, nofun, nofun⟩
  simp at split

/-- What holds at first holds after any course of what can happen. -/
theorem steps (sound : Sound life) (steps : Relation.ReflTransGen Step life life') :
    Sound life' := by
  induction steps with
  | refl => exact sound
  | tail _ last ih => exact ih.step last

end Sound

/-- The handle was counted and is not installed. -/
def Gone (handle : Nat) (life : Life) : Prop :=
  handle ≤ life.created ∧ life.connection.handle? ≠ some handle

/-- A handle that is gone stays gone and is not called. -/
theorem Gone.step {handle : Nat} {life life' : Life} (gone : Gone handle life)
    (step : Step life life') :
    Gone handle life' ∧ ∃ later, life'.calls = life.calls ++ later ∧
      handle ∉ TracedCall.handles later := by
  obtain ⟨counted, absent⟩ := gone
  have elsewhere {other : Nat} {call : Call} (installed : life.connection.handle? = some other) :
      handle ∉ TracedCall.handles [⟨some other, call⟩] := by
    intro called
    cases List.mem_singleton.mp called
    exact absent installed
  cases step with
  | act act =>
    cases act with
    | prepares => exact ⟨⟨counted, absent⟩, _, rfl, nofun⟩
    | creates vacant => exact ⟨⟨counted, absent⟩, _, rfl, nofun⟩
    | installs vacant fresh =>
      refine ⟨⟨Nat.le_of_lt (Nat.lt_of_le_of_lt counted fresh), fun same => ?_⟩, [], by simp, nofun⟩
      cases same
      omega
    | calls opened => exact ⟨⟨counted, absent⟩, _, rfl, elsewhere (by rw [opened]; rfl)⟩
    | releases closing => exact ⟨⟨counted, absent⟩, _, rfl, elsewhere (by rw [closing]; rfl)⟩
    | elsewhere more => exact ⟨⟨Nat.le_trans counted more, absent⟩, [], by simp, nofun⟩
  | begins opened =>
    refine ⟨⟨counted, fun same => absent ?_⟩, _, rfl, elsewhere (by rw [opened]; rfl)⟩
    cases same
    rw [opened]
    rfl
  | returns closing => exact ⟨⟨counted, nofun⟩, [], by simp, nofun⟩

/-- A handle that is gone is never called again. -/
theorem Gone.steps {handle : Nat} {life life' : Life} (gone : Gone handle life)
    (steps : Relation.ReflTransGen Step life life') :
    Gone handle life' ∧ ∃ later, life'.calls = life.calls ++ later ∧
      handle ∉ TracedCall.handles later := by
  induction steps with
  | refl => exact ⟨gone, [], by simp, nofun⟩
  | tail _ last ih =>
    obtain ⟨gone, later, calls, uncalled⟩ := ih
    obtain ⟨gone, more, calls', uncalled'⟩ := gone.step last
    refine ⟨gone, later ++ more, by rw [calls', calls, List.append_assoc], ?_⟩
    rw [TracedCall.handles_append, List.mem_append]
    exact fun called => called.elim uncalled uncalled'

/-- A handle that is being closed still is, as long as its close has not returned. -/
theorem closing_of_acts {life life' : Life} {handle : Nat}
    (acts : Relation.ReflTransGen Act life life')
    (closing : life.connection = .closing handle) : life'.connection = .closing handle := by
  induction acts with
  | refl => exact closing
  | tail _ last ih =>
    cases last with
    | prepares => exact ih
    | creates vacant => exact ih
    | calls opened => exact ih
    | releases closing => exact ih
    | elsewhere more => exact ih
    | installs vacant fresh =>
      rw [vacant] at ih
      contradiction

/-- Only few calls are traced while a handle is being closed. -/
theorem calls_of_closing {life life' : Life} {handle : Nat}
    (acts : Relation.ReflTransGen Act life life') (closing : life.connection = .closing handle) :
    ∃ own, life'.calls = life.calls ++ own ∧ ∀ call ∈ own, TracedCall.WhileClosing handle call := by
  induction acts with
  | refl => exact ⟨[], (List.append_nil _).symm, List.forall_mem_nil _⟩
  | @tail during final before last ih =>
    obtain ⟨own, calls, listed⟩ := ih
    have still := closing_of_acts before closing
    have snoc {number : Option Nat} {call : Call}
        (more : TracedCall.WhileClosing handle ⟨number, call⟩) :
        ∃ own, (during.told number call).calls = life.calls ++ own ∧
          ∀ call ∈ own, TracedCall.WhileClosing handle call := by
      refine ⟨own ++ [⟨number, call⟩], ?_, fun other among => ?_⟩
      · rw [told, calls, List.append_assoc]
      · rcases List.mem_append.mp among with among | among
        · exact listed other among
        · rw [List.mem_singleton.mp among]
          exact more
    cases last with
    | prepares => exact snoc .prepares
    | releases closing release =>
      cases still.symm.trans closing
      exact snoc (.releases release)
    | elsewhere more => exact ⟨own, calls, listed⟩
    | creates vacant =>
      rw [still] at vacant
      contradiction
    | installs vacant fresh =>
      rw [still] at vacant
      contradiction
    | calls opened =>
      rw [still] at opened
      contradiction

/-- Without an end of a close no close is traced. -/
theorem unclosed_of_acts {life life' : Life} {handle : Nat}
    (acts : Relation.ReflTransGen Act life life')
    (unclosed : TracedCall.closing handle ∉ life.calls) :
    TracedCall.closing handle ∉ life'.calls := by
  have other {before : Life} {number : Option Nat} {call : Call}
      (ih : TracedCall.closing handle ∉ before.calls) (differs : call ≠ .onHandle .close) :
      TracedCall.closing handle ∉ (before.told number call).calls := by
    intro closed
    rcases List.mem_append.mp closed with closed | closed
    · exact ih closed
    · exact differs (congrArg TracedCall.call (List.mem_singleton.mp closed)).symm
  induction acts with
  | refl => exact unclosed
  | tail _ last ih =>
    cases last with
    | prepares => exact other ih nofun
    | creates vacant => exact other ih nofun
    | installs vacant fresh => exact ih
    | calls opened closes => exact other ih closes
    | releases closing release =>
      refine other ih fun same => ?_
      cases same
      exact release
    | elsewhere more => exact ih

end Life

end LogConsumer
