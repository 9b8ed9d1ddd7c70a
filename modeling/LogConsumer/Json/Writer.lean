import LogConsumer.Json
import LogConsumer.Text.Digits

/-!
# Writing JSON

A value is written without blanks, and an object with its fields in the order of their names. In
a text, only quotes, backslashes and control characters are escaped.
-/
namespace LogConsumer.Json

/-- A character of a text as it is written. -/
def escape (char : Char) : List Char :=
  if char = '"' then ['\\', '"']
  else if char = '\\' then ['\\', '\\']
  else if char = '\n' then ['\\', 'n']
  else if char = '\r' then ['\\', 'r']
  else if char = '\t' then ['\\', 't']
  else if char.toNat < 0x20 then '\\' :: 'u' :: hexText 4 char.toNat
  else [char]

/-- A text in quotes. -/
def quoted (text : String) : String :=
  String.ofList ('"' :: text.toList.flatMap escape ++ ['"'])

mutual

/-- A value as a text. -/
def text : Json → String
  | null => "null"
  | bool true => "true"
  | bool false => "false"
  | int value => toString value
  | real text => text
  | str value => quoted value
  | arr items => "[" ++ ",".intercalate (itemTexts items) ++ "]"
  | obj fields =>
    let ordered := (fieldTexts fields).mergeSort fun left right => left.1 ≤ right.1
    "\x7b" ++ ",".intercalate (ordered.map Prod.snd) ++ "\x7d"

/-- Each item as a text. -/
def itemTexts : List Json → List String
  | [] => []
  | item :: items => text item :: itemTexts items

/-- Each field as a text, with its name. -/
def fieldTexts : List (String × Json) → List (String × String)
  | [] => []
  | (name, value) :: fields => (name, quoted name ++ ":" ++ text value) :: fieldTexts fields

end

end LogConsumer.Json
