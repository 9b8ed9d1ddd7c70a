import LogConsumer.Json
import LogConsumer.Text.Digits
import LogConsumer.Text.Reader

/-!
# Reading JSON

A reader for JSON texts. It accepts a text only as a whole, with blanks around and between its
tokens. A field that occurs twice in an object keeps its place and takes the last value.
-/
namespace LogConsumer.Json

open Reader

/-- The blanks of the format. -/
def isBlank (char : Char) : Bool :=
  char = ' ' || char = '\t' || char = '\n' || char = '\r'

/-- Pass over blanks. -/
def skipBlanks : Reader Unit :=
  skipWhile isBlank

/-- Read at least one digit. -/
def readDigits : Reader (List Char) :=
  takeSome (isDigitOf 10)

/-- Read the digits before the point; only zero itself begins with a zero. -/
def readWhole : Reader (List Char) := do
  let digits ← readDigits
  require (digits.head? ≠ some '0' || digits.length = 1)
  pure digits

/-- Read a fraction, if there is one. -/
def readFraction : Reader (List Char) := do
  if ← accept '.' then pure ('.' :: (← readDigits)) else pure []

/-- Read an exponent, if there is one. -/
def readExponent : Reader (List Char) := do
  let mark ← takeOneOf ['e', 'E']
  if mark.isEmpty then pure []
  else
    let sign ← takeOneOf ['+', '-']
    pure (mark ++ sign ++ (← readDigits))

/-- Read a number. It is an integer if it has neither fraction nor exponent and is not a negative
zero. -/
def readNumber : Reader Json := do
  let sign ← takeOneOf ['-']
  let whole ← readWhole
  let fraction ← readFraction
  let exponent ← readExponent
  let size := numeralValue 10 whole
  if fraction.isEmpty && exponent.isEmpty && (sign.isEmpty || size ≠ 0) then
    pure (int (if sign.isEmpty then size else -size))
  else pure (real (String.ofList (sign ++ whole ++ fraction ++ exponent)))

/-- Read four digits in sixteens. -/
def readUnit : Reader Nat := do
  pure (numeralValue 16 (← takeExactly 4 (isDigitOf 16)))

/-- The code point of a pair of surrogate units. -/
def pairCode (high low : Nat) : Nat :=
  0x10000 + (high - 0xD800) * 0x400 + (low - 0xDC00)

/-- Read a character given by its number; one beyond the first plane is a pair of units. -/
def readNumbered : Reader Char := do
  let high ← readUnit
  if 0xD800 ≤ high && high < 0xDC00 then
    expect '\\'
    expect 'u'
    let low ← readUnit
    require (0xDC00 ≤ low && low < 0xE000)
    ofOption (charOfCode? (pairCode high low))
  else ofOption (charOfCode? high)

/-- Read what follows a backslash in a text. -/
def readEscape : Reader Char := do
  match ← next with
  | '"' => pure '"'
  | '\\' => pure '\\'
  | '/' => pure '/'
  | 'b' => pure '\x08'
  | 'f' => pure '\x0c'
  | 'n' => pure '\n'
  | 'r' => pure '\r'
  | 't' => pure '\t'
  | 'u' => readNumbered
  | _ => fail

/-- Read the characters of a text up to the quote that ends it, at most `limit` of them. -/
def readChars : (limit : Nat) → Reader (List Char)
  | 0 => fail
  | limit + 1 => do
    let char ← next
    if char = '"' then pure []
    else if char = '\\' then
      let escaped ← readEscape
      pure (escaped :: (← readChars limit))
    else
      require (0x20 ≤ char.toNat)
      pure (char :: (← readChars limit))

/-- Read a text behind its first quote. -/
def readText : Reader String := do
  pure (String.ofList (← readChars ((← left) + 1)))

/-- Read the name of a field and the colon behind it. -/
def readFieldName : Reader String := do
  skipBlanks
  expect '"'
  let name ← readText
  skipBlanks
  expect ':'
  pure name

/-- Read one of the three named values. -/
def readName : Reader (Option Json) := do
  if ← acceptAll ['n', 'u', 'l', 'l'] then pure (some null)
  else if ← acceptAll ['t', 'r', 'u', 'e'] then pure (some (bool true))
  else if ← acceptAll ['f', 'a', 'l', 's', 'e'] then pure (some (bool false))
  else pure none

/-- Read a value that has no parts. -/
def readScalar : Reader Json := do
  if ← accept '"' then pure (str (← readText))
  else
    match ← readName with
    | some value => pure value
    | none => readNumber

/-- The fields with the value of one of them replaced or added. -/
def bindField (fields : List (String × Json)) (name : String) (value : Json) :
    List (String × Json) :=
  if fields.any fun field => field.1 = name then
    fields.map fun field => if field.1 = name then (name, value) else field
  else fields ++ [(name, value)]

/-- The fields of an object with the last value of each name. -/
def bindFields (fields : List (String × Json)) : List (String × Json) :=
  fields.foldl (fun bound field => bindField bound field.1 field.2) []

/-- Read what stands between the brackets of a list or the braces of an object: nothing, or items
with commas between them. -/
def readEnclosed {α : Type} (item : Reader α) (ending : Char) : Reader (List α) := do
  skipBlanks
  if ← accept ending then pure []
  else
    let items ← separated item ',' ((← left) + 1)
    expect ending
    pure items

/-- Read a value in which lists and objects are nested at most `depth` deep. -/
def readValue : (depth : Nat) → Reader Json
  | 0 => fail
  | depth + 1 => do
    let value : Reader Json := do
      let value ← readValue depth
      skipBlanks
      pure value
    skipBlanks
    if ← accept '[' then pure (arr (← readEnclosed value ']'))
    else if ← accept '\x7b' then
      let field : Reader (String × Json) := do
        let name ← readFieldName
        pure (name, ← value)
      pure (obj (bindFields (← readEnclosed field '\x7d')))
    else readScalar

/-- How deep lists and objects may be nested. -/
def maxDepth : Nat := 128

/-- Read a text as one value. -/
def read? (text : String) : Option Json :=
  readAll? (do
    let value ← readValue maxDepth
    skipBlanks
    pure value) text

end LogConsumer.Json
