import LogConsumer.Json
import LogConsumer.Text.Digits
import LogConsumer.Text.Reader

/-!
# Dates and times of TOML

A date, a time of day, or both, and then possibly how far the time is from universal time. No
setting takes a date-time. Where a table is expected, a date-time is a table with one field that
holds its text.
-/
namespace LogConsumer.Toml

open Reader

/-- Read a number of so many digits within bounds. -/
def readField (digits low high : Nat) : Reader Nat := do
  let value := numeralValue 10 (← takeExactly digits (isDigitOf 10))
  require (low ≤ value && value ≤ high)
  pure value

/-- The year has a leap day. -/
def isLeapYear (year : Nat) : Bool :=
  year % 4 = 0 && (year % 100 ≠ 0 || year % 400 = 0)

/-- The number of days in a month. -/
def daysInMonth (year month : Nat) : Nat :=
  if month = 2 then if isLeapYear year then 29 else 28
  else if [4, 6, 9, 11].contains month then 30
  else 31

/-- The decimal text of a number, with zeros in front up to a width. -/
def padded (width value : Nat) : String :=
  let text := toString value
  String.ofList (List.replicate (width - text.length) '0') ++ text

/-- Read a date, and write it in its usual form. -/
def readDate : Reader String := do
  let year ← readField 4 0 9999
  expect '-'
  let month ← readField 2 1 12
  expect '-'
  let day ← readField 2 1 31
  require (day ≤ daysInMonth year month)
  pure (padded 4 year ++ "-" ++ padded 2 month ++ "-" ++ padded 2 day)

/-- Read a fraction of a second, and write its first nine decimals without the zeros at the
end. -/
def readSecondFraction : Reader String := do
  if ← accept '.' then
    let digits ← takeSome (isDigitOf 10)
    let kept := ((digits.take 9).reverse.dropWhile (· = '0')).reverse
    pure (if kept.isEmpty then "" else "." ++ String.ofList kept)
  else pure ""

/-- Read a time of day. A minute may have one second more than sixty. -/
def readTime : Reader String := do
  let hour ← readField 2 0 23
  expect ':'
  let minute ← readField 2 0 59
  expect ':'
  let second ← readField 2 0 60
  let fraction ← readSecondFraction
  pure (padded 2 hour ++ ":" ++ padded 2 minute ++ ":" ++ padded 2 second ++ fraction)

/-- Read how far a time is from universal time. -/
def readZone : Reader String := do
  let mark ← takeOneOf ['Z', 'z', '+', '-']
  require !mark.isEmpty
  if mark = ['Z'] || mark = ['z'] then pure "Z"
  else
    let hour ← readField 2 0 23
    expect ':'
    let minute ← readField 2 0 59
    let sign := if mark = ['-'] && 0 < hour + minute then "-" else "+"
    pure (sign ++ padded 2 hour ++ ":" ++ padded 2 minute)

/-- Read the time that follows a date. -/
def readTimeOfDate : Reader String := do
  let mark ← takeOneOf ['T', 't', ' ']
  require !mark.isEmpty
  let time ← readTime
  let zone ← readZone <|> pure ""
  pure ("T" ++ time ++ zone)

/-- Read a date-time. -/
def readDateTime : Reader Json := do
  let date : Reader String := do
    let date ← readDate
    let time ← readTimeOfDate <|> pure ""
    pure (date ++ time)
  let text ← date <|> readTime
  pure (.obj [("$__toml_private_datetime", .str text)])

end LogConsumer.Toml
