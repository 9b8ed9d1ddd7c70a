import LogConsumer.Text.Digits
import LogConsumer.Toml.Layout

/-!
# Texts and keys of TOML

A text stands between quotes, with escapes, or between apostrophes, as it is. Between three of
them it may run over several lines; then a line end is read as a line feed, and up to two quotes
may stand right before the three that end the text.
-/
namespace LogConsumer.Toml

open Reader

/-- Read a character given by its number, in so many digits. -/
def readCode (digits : Nat) : Reader Char := do
  let code ← takeExactly digits (isDigitOf 16)
  ofOption (charOfCode? (numeralValue 16 code))

/-- Read what follows a backslash. -/
def readEscape : Reader Char := do
  match ← next with
  | 'b' => pure '\x08'
  | 't' => pure '\t'
  | 'n' => pure '\n'
  | 'f' => pure '\x0c'
  | 'r' => pure '\r'
  | '"' => pure '"'
  | '\\' => pure '\\'
  | 'u' => readCode 4
  | 'U' => readCode 8
  | _ => fail

/-- Read the rest of a text of one line up to the quote that ends it, at most `limit`
characters. -/
def readLineText (quote : Char) (escapes : Bool) : (limit : Nat) → Reader (List Char)
  | 0 => fail
  | limit + 1 => do
    let char ← next
    if char = quote then pure []
    else if escapes && char = '\\' then
      let escaped ← readEscape
      pure (escaped :: (← readLineText quote escapes limit))
    else
      require (isPlain char)
      pure (char :: (← readLineText quote escapes limit))

/-- Pass over a line end with the blanks around it and the blank lines after it. -/
def skipFold : Reader Unit := do
  skipBlanks
  newline
  skipBlankLines ((← left) + 1)

/-- Read what follows a backslash in a text of several lines: nothing where the line ends, and an
escaped character otherwise. -/
def readFold : Reader (List Char) :=
  (do skipFold; pure []) <|> (do pure [← readEscape])

/-- Read the rest of a text of several lines up to the three quotes that end it, in at most
`limit` steps. -/
def readBlockText (quote : Char) (escapes : Bool) : (limit : Nat) → Reader (List Char)
  | 0 => fail
  | limit + 1 => do
    let quotes ← takeWhile (· = quote)
    if 3 ≤ quotes.length then
      require (quotes.length ≤ 5)
      pure (quotes.drop 3)
    else if !quotes.isEmpty then
      pure (quotes ++ (← readBlockText quote escapes limit))
    else if ← atNewline then
      newline
      pure ('\n' :: (← readBlockText quote escapes limit))
    else
      let char ← next
      if escapes && char = '\\' then
        let escaped ← readFold
        pure (escaped ++ (← readBlockText quote escapes limit))
      else
        require (isPlain char)
        pure (char :: (← readBlockText quote escapes limit))

/-- Read a text of one line behind its first quote. -/
def readLine (quote : Char) : Reader String := do
  pure (String.ofList (← readLineText quote (quote = '"') ((← left) + 1)))

/-- Read a text of several lines behind its first quotes. A line end right there does not
count. -/
def readBlock (quote : Char) : Reader String := do
  if ← atNewline then newline
  pure (String.ofList (← readBlockText quote (quote = '"') ((← left) + 1)))

/-- Read a text. -/
def readText (quote : Char) : Reader String := do
  if ← acceptAll [quote, quote, quote] then readBlock quote
  else
    expect quote
    readLine quote

/-- A character of a key without quotes. -/
def isKeyChar (char : Char) : Bool :=
  char.isAlphanum || char = '-' || char = '_'

/-- Read one part of a key. -/
def readKeyPart : Reader String := do
  match ← peek with
  | some '"' => do expect '"'; readLine '"'
  | some '\'' => do expect '\''; readLine '\''
  | _ => pure (String.ofList (← takeSome isKeyChar))

/-- How many parts a key may have, and how deep values may be nested. -/
def maxDepth : Nat := 79

/-- Read a key, the parts of which are set apart by points. -/
def readKey : Reader (List String) := do
  let part : Reader String := do
    skipBlanks
    let part ← readKeyPart
    skipBlanks
    pure part
  let parts ← separated part '.' ((← left) + 1)
  require (parts.length ≤ maxDepth)
  pure parts

end LogConsumer.Toml
