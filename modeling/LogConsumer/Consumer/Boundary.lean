import LogConsumer.Consumer.Operation

/-!
# The boundary between a consumer and its client

Everything a consumer asks of its factory and of its handle passes the boundary, which keeps a
trace of the calls. The boundary can also be told to fail coming calls, to name a rebalance
protocol of its own, and to run operations of the consumer from inside the close of a handle.
-/
namespace LogConsumer

/-- What creates handles. -/
structure Factory where
  /-- The random part of the client names it makes up. -/
  fresh : String := ""
  deriving DecidableEq, Repr, Inhabited

/-- A call that a consumer makes on its factory or its handle, with its arguments. -/
inductive Call where
  /-- The factory prepares. -/
  | prepare
  /-- The factory creates a handle. -/
  | create
  /-- The factory is told that a handle is installed. -/
  | onConnected
  /-- The handle is called. -/
  | onHandle (call : ClientCall)
  deriving DecidableEq, Repr, Inhabited

namespace Call

/-- Calls that are listed when the trace is read; reading a name and polling are not. -/
def isListed : Call → Bool
  | onHandle .name | onHandle (.poll _) => false
  | _ => true

end Call

/-- A call with the number of the handle it went to, or none where it went to the factory. -/
structure TracedCall where
  /-- The number of the handle. -/
  handle : Option Nat
  /-- The call. -/
  call : Call
  deriving DecidableEq, Repr, Inhabited

/-- Calls that the boundary can fail without passing them on. -/
inductive Hook where
  /-- The factory prepares. -/
  | prepare
  /-- The factory is told that a handle is installed. -/
  | onConnected
  /-- The subscription is dropped. -/
  | unsubscribe
  /-- The subscription is read. -/
  | subscription
  /-- Positions are read. -/
  | position
  /-- Partitions are paused. -/
  | pause
  /-- Partitions are resumed. -/
  | resume
  deriving DecidableEq, Repr, Inhabited

namespace Hook

/-- Every hook, in declaration order. -/
def all : List Hook :=
  [prepare, onConnected, unsubscribe, subscription, position, pause, resume]

/-- The name of a hook in scripts. -/
def name : Hook → String
  | prepare => "prepare"
  | onConnected => "on_connected"
  | unsubscribe => "unsubscribe"
  | subscription => "subscription"
  | position => "position"
  | pause => "pause"
  | resume => "resume"

/-- The hook of a name. -/
def ofName? (text : String) : Option Hook :=
  all.find? fun hook => hook.name = text

end Hook

/-- What lies between a consumer and its client. -/
structure Boundary where
  /-- What creates handles. -/
  factory : Factory := {}
  /-- The calls that passed, oldest first. -/
  calls : List TracedCall := []
  /-- The failures of coming calls. -/
  faults : Table Hook (List ClientError) := .empty
  /-- The protocol to name in place of the client's. -/
  protocol : Option String := none
  /-- The operations to run from inside every close. -/
  closeScript : List Operation := []
  /-- What the operations run from inside a close answered, oldest first. -/
  reports : List (Report Reply) := []
  deriving Repr, Inhabited

namespace Boundary

/-- Keep a trace of a call. -/
def note (boundary : Boundary) (call : TracedCall) : Boundary :=
  { boundary with calls := boundary.calls ++ [call] }

/-- The failures scripted for a hook. -/
def script (boundary : Boundary) (hook : Hook) : List ClientError :=
  (boundary.faults.find? hook).getD []

/-- Fail a coming call, after those scripted already. -/
def failNext (boundary : Boundary) (hook : Hook) (error : ClientError) : Boundary :=
  { boundary with faults := boundary.faults.insert hook (boundary.script hook ++ [error]) }

/-- Use up the failure of one call. -/
def takeFault (boundary : Boundary) (hook : Hook) : Option ClientError × Boundary :=
  match boundary.script hook with
  | [] => (none, boundary)
  | error :: rest => (some error, { boundary with faults := boundary.faults.insert hook rest })

end Boundary

end LogConsumer
