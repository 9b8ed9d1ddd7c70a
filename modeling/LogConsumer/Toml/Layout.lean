import LogConsumer.Text.Reader

/-!
# Layout of TOML documents

Blanks, comments and the ends of lines. A line ends with a line feed, before which a carriage
return may stand.
-/
namespace LogConsumer.Toml

open Reader

/-- A blank within a line. -/
def isBlank (char : Char) : Bool :=
  char = ' ' || char = '\t'

/-- A character that may stand in a text or a comment as it is: a tab, or anything that is no
control character of ASCII. -/
def isPlain (char : Char) : Bool :=
  char = '\t' || (0x20 ≤ char.toNat && char.toNat ≠ 0x7F)

/-- Pass over blanks. -/
def skipBlanks : Reader Unit :=
  skipWhile isBlank

/-- Take the end of a line. -/
def newline : Reader Unit := do
  if !(← accept '\n') then
    expect '\r'
    expect '\n'

/-- The end of a line comes next. -/
def atNewline : Reader Bool := do
  match ← peek with
  | some '\n' | some '\r' => pure true
  | _ => pure false

/-- Pass over a comment, if there is one. -/
def skipComment : Reader Unit := do
  if ← accept '#' then skipWhile isPlain

/-- Pass over blanks and a comment up to the end of the line or of the document. -/
def endLine : Reader Unit := do
  skipBlanks
  skipComment
  if 0 < (← left) then newline

/-- Pass over blanks and line ends, of which there are at most `limit`. -/
def skipBlankLines : (limit : Nat) → Reader Unit
  | 0 => pure ()
  | limit + 1 => do
    skipBlanks
    if ← atNewline then
      newline
      skipBlankLines limit

/-- Pass over blanks, comments and line ends, of which there are at most `limit`. -/
def skipLayoutLines : (limit : Nat) → Reader Unit
  | 0 => pure ()
  | limit + 1 => do
    skipBlanks
    if (← peek) = some '#' || (← atNewline) then
      skipComment
      newline
      skipLayoutLines limit

/-- Pass over blanks, comments and line ends. -/
def skipLayout : Reader Unit := do
  skipLayoutLines ((← left) + 1)

end LogConsumer.Toml
