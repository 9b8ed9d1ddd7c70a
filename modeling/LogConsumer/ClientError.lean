import LogConsumer.ErrorCode

/-!
# Errors of a client

What a client hands back when one of its primitives fails: a code, an optional reason, and two
flags that tell whether the client survives and whether the call may be tried again.
-/
namespace LogConsumer

/-- The failure of one client primitive. -/
structure ClientError where
  /-- The code of the failure. -/
  code : ErrorCode
  /-- What in particular went wrong, where the client says so. -/
  reason : Option String := none
  /-- The client can no longer be used. -/
  fatal : Bool := false
  /-- The same call may succeed later. -/
  retriable : Bool := false
  deriving DecidableEq, Repr, Inhabited

namespace ClientError

/-- A failure with nothing but its code. -/
def ofCode (code : ErrorCode) : ClientError :=
  { code }

/-- A failure that says what went wrong. -/
def because (code : ErrorCode) (reason : String) : ClientError :=
  { code, reason := some reason }

/-- The text of a failure: its reason, with the description of the code in brackets after it,
or the description alone. -/
def message (error : ClientError) : String :=
  match error.reason with
  | some reason => reason ++ " (" ++ error.code.description ++ ")"
  | none => error.code.description

end ClientError

end LogConsumer
