import LogConsumer.Json
import LogConsumer.Text.Digits
import LogConsumer.Text.Reader
import LogConsumer.Width

/-!
# Numbers of TOML

Integers are written in one of four bases and fit 64 bits with sign. Numbers with a fraction or
an exponent are kept as they are written; one that lies above the range of double precision is
refused.
-/
namespace LogConsumer.Toml

open Reader

/-- Read more digits of a base, each of which may follow an underscore. -/
def readMoreDigits (base : Nat) : (limit : Nat) → Reader (List Char)
  | 0 => pure []
  | limit + 1 => do
    if ← accept '_' then
      let digit ← takeExactly 1 (isDigitOf base)
      pure (digit ++ (← readMoreDigits base limit))
    else
      match ← peek with
      | some char =>
        if isDigitOf base char then
          let digit ← next
          pure (digit :: (← readMoreDigits base limit))
        else pure []
      | none => pure []

/-- Read the digits of a number in a base; underscores between digits do not count. -/
def readDigits (base : Nat) : Reader (List Char) := do
  let first ← takeExactly 1 (isDigitOf base)
  pure (first ++ (← readMoreDigits base ((← left) + 1)))

/-- Read the digits of a decimal number. A zero in front stands alone. -/
def readDecimalDigits : Reader (List Char) := do
  if ← accept '0' then pure ['0'] else readDigits 10

/-- Read a sign, if there is one. -/
def readSign : Reader (List Char) :=
  takeOneOf ['+', '-']

/-- An integer that fits 64 bits with sign. -/
def fitted (value : Int) : Reader Int := do
  require (Width.int64.holds value)
  pure value

/-- Read an integer. -/
def readInteger : Reader Int := do
  if ← acceptAll ['0', 'x'] then fitted (numeralValue 16 (← readDigits 16))
  else if ← acceptAll ['0', 'o'] then fitted (numeralValue 8 (← readDigits 8))
  else if ← acceptAll ['0', 'b'] then fitted (numeralValue 2 (← readDigits 2))
  else
    let sign ← readSign
    let size := numeralValue 10 (← readDecimalDigits)
    fitted (if sign = ['-'] then -size else size)

/-- Read a fraction. -/
def readFraction : Reader (List Char) := do
  expect '.'
  readDigits 10

/-- Read the exponent of ten. -/
def readExponent : Reader Int := do
  let mark ← takeOneOf ['e', 'E']
  require !mark.isEmpty
  let sign ← readSign
  let size := numeralValue 10 (← readDigits 10)
  pure (if sign = ['-'] then -size else size)

/-- Half a step above the largest finite number of double precision; numbers from there on count
as infinite. -/
def infinityBound : Nat :=
  Nat.pow 2 1024 - Nat.pow 2 970

/-- The number with these digits times a power of ten counts as infinite. -/
def isInfinite (digits : List Char) (exponent : Int) : Bool :=
  let digits := digits.dropWhile (· = '0')
  let size := numeralValue 10 digits
  let places := digits.length + exponent
  if digits.isEmpty || places < 300 then false
  else if 320 < places then true
  else if 0 ≤ exponent then infinityBound ≤ size * Nat.pow 10 exponent.toNat
  else infinityBound * Nat.pow 10 (-exponent).toNat ≤ size

/-- Read a number with a fraction or an exponent. -/
def readDecimal : Reader Json := do
  let sign ← readSign
  let whole ← readDecimalDigits
  let fraction ← readFraction <|> pure []
  let exponent ← if fraction.isEmpty then readExponent else readExponent <|> pure 0
  require (sign = ['-'] || !isInfinite (whole ++ fraction) (exponent - fraction.length))
  pure (.real (String.ofList (sign ++ whole ++ '.' :: fraction) ++ "e" ++ toString exponent))

/-- Read infinity or what is no number. -/
def readUnbounded : Reader Json := do
  let sign ← readSign
  if ← acceptAll ['i', 'n', 'f'] then pure (.real (String.ofList sign ++ "inf"))
  else
    require (← acceptAll ['n', 'a', 'n'])
    pure (.real (String.ofList sign ++ "nan"))

/-- Read a number. -/
def readNumber : Reader Json :=
  readDecimal <|> readUnbounded <|> (do pure (.int (← readInteger)))

end LogConsumer.Toml
