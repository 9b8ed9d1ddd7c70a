/-!
# Readers

A reader takes a value from the front of a list of characters and leaves what follows, or fails.
The formats that configurations and messages are stored in are read with the readers built from
these.
-/
namespace LogConsumer

/-- Takes a value from the front of the characters to be read, or fails. -/
abbrev Reader (α : Type) := StateT (List Char) Option α

namespace Reader

variable {α : Type}

/-- Fail. -/
def fail : Reader α := fun _ => none

/-- Look at the next character without taking it. -/
def peek : Reader (Option Char) := fun chars => some (chars.head?, chars)

/-- Take the next character. -/
def next : Reader Char
  | [] => none
  | char :: rest => some (char, rest)

/-- Take the next character if it is this one. -/
def accept (char : Char) : Reader Bool
  | [] => some (false, [])
  | other :: rest => if other = char then some (true, rest) else some (false, other :: rest)

/-- Take these characters if they come next. -/
def acceptAll (expected : List Char) : Reader Bool := fun chars =>
  if expected.isPrefixOf chars then some (true, chars.drop expected.length)
  else some (false, chars)

/-- Take this character or fail. -/
def expect (char : Char) : Reader Unit := do
  if !(← accept char) then fail

/-- Fail unless a condition holds. -/
def require (condition : Bool) : Reader Unit :=
  if condition then pure () else fail

/-- The value, or a failure where there is none. -/
def ofOption : Option α → Reader α
  | some value => pure value
  | none => fail

/-- Take the characters at the front that satisfy a test. -/
def takeWhile (test : Char → Bool) : Reader (List Char) := fun chars =>
  some (chars.takeWhile test, chars.dropWhile test)

/-- Pass over the characters at the front that satisfy a test. -/
def skipWhile (test : Char → Bool) : Reader Unit := do
  let _ ← takeWhile test

/-- Take at least one character that satisfies a test. -/
def takeSome (test : Char → Bool) : Reader (List Char) := do
  let taken ← takeWhile test
  require !taken.isEmpty
  pure taken

/-- Take a number of characters, all of which satisfy a test. -/
def takeExactly (count : Nat) (test : Char → Bool) : Reader (List Char) := do
  let chars ← get
  let taken := chars.take count
  require (taken.length = count && taken.all test)
  set (chars.drop count)
  pure taken

/-- The number of characters left to read. -/
def left : Reader Nat := do
  pure (← get).length

/-- Take one of these characters, if one comes next. -/
def takeOneOf (expected : List Char) : Reader (List Char) := do
  match ← peek with
  | some char => if expected.contains char then pure [← next] else pure []
  | none => pure []

/-- Take values one after the other, for as long as a separator follows, and at most `limit` of
them. -/
def separated (item : Reader α) (separator : Char) : (limit : Nat) → Reader (List α)
  | 0 => fail
  | limit + 1 => do
    let first ← item
    if ← accept separator then pure (first :: (← separated item separator limit))
    else pure [first]

/-- Read a text as a whole. -/
def readAll? (reader : Reader α) (text : String) : Option α :=
  match reader text.toList with
  | some (value, []) => some value
  | _ => none

end Reader

end LogConsumer
