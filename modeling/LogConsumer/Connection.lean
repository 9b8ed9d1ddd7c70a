/-!
# Connections

A connection holds at most one handle. While the handle is being closed it is still there, but
only an operation that may run then can reach it. The state of a connection and its handle are
one value, so there is a handle exactly when the state is Connected or Closing.
-/
namespace LogConsumer

/-- The state of a connection with its handle. -/
inductive Connection (α : Type) where
  /-- There is no handle. -/
  | disconnected
  /-- The handle is open. -/
  | connected (handle : α)
  /-- The handle is being closed. -/
  | closing (handle : α)
  deriving DecidableEq, Repr, Inhabited

/-- The state of a connection without its handle. -/
inductive ConnectionState where
  /-- There is no handle. -/
  | disconnected
  /-- The handle is open. -/
  | connected
  /-- The handle is being closed. -/
  | closing
  deriving DecidableEq, Repr, Inhabited

namespace ConnectionState

/-- The name of a state. -/
def name : ConnectionState → String
  | disconnected => "disconnected"
  | connected => "connected"
  | closing => "closing"

end ConnectionState

namespace Connection

variable {α : Type}

/-- The state of the connection. -/
def state : Connection α → ConnectionState
  | disconnected => .disconnected
  | connected _ => .connected
  | closing _ => .closing

/-- The handle is open. -/
def isConnected (connection : Connection α) : Bool :=
  connection.state = .connected

/-- The handle is being closed. -/
def isClosing (connection : Connection α) : Bool :=
  connection.state = .closing

/-- The open handle. -/
def connected? : Connection α → Option α
  | connected handle => some handle
  | _ => none

/-- The handle, be it open or being closed. -/
def handle? : Connection α → Option α
  | connected handle | closing handle => some handle
  | disconnected => none

/-- The same state with a handle that has changed. -/
def update (handle : α) : Connection α → Connection α
  | connected _ => connected handle
  | closing _ => closing handle
  | disconnected => disconnected

/-- Create and install a handle where there is none. The creation runs only then; a connection
that has a handle keeps it and answers that nothing was installed. -/
def install {m : Type → Type} [Monad m] (connection : Connection α)
    (create : m (Except String α)) : m (Except String (Option α) × Connection α) :=
  match connection with
  | disconnected => do
    match ← create with
    | .ok handle => pure (.ok (some handle), connected handle)
    | .error reason => pure (.error reason, disconnected)
  | occupied => pure (.ok none, occupied)

/-- Begin to close the open handle. Nothing is closed where no handle is open. -/
def beginClose? : Connection α → Option (α × Connection α)
  | connected handle => some (handle, closing handle)
  | _ => none

/-- Let the handle go, whatever the state. -/
def finishClose (_ : Connection α) : Connection α :=
  disconnected

end Connection

end LogConsumer
