import LogConsumer.Json
import LogConsumer.Text.Digits
import LogConsumer.Width

/-!
# Writing TOML documents

An object is written as a document with one binding a line; tables inside it are written within
their line. A field that is null is left out. Integers beyond 64 bits with sign cannot be written,
and neither can null inside a list.
-/
namespace LogConsumer.Toml

/-- A character of a text as it is written. -/
def escape (char : Char) : List Char :=
  if char = '"' then ['\\', '"']
  else if char = '\\' then ['\\', '\\']
  else if char.toNat < 0x20 || char.toNat = 0x7F then '\\' :: 'u' :: hexText 4 char.toNat
  else [char]

/-- A text in quotes. -/
def quoted (text : String) : String :=
  String.ofList ('"' :: text.toList.flatMap escape ++ ['"'])

/-- A binding of a key. -/
def bindingText (name value : String) : String :=
  quoted name ++ " = " ++ value

mutual

/-- A value within a line. -/
def inline? : Json → Option String
  | .null => none
  | .bool value => some (if value then "true" else "false")
  | .int value => if Width.int64.holds value then some (toString value) else none
  | .real text => some text
  | .str value => some (quoted value)
  | .arr items => do
    let items ← inlineItems? items
    some ("[" ++ ", ".intercalate items ++ "]")
  | .obj fields => do
    let bindings ← bindingTexts? fields
    some ("\x7b" ++ ", ".intercalate bindings ++ "\x7d")

/-- The items of a list within a line. -/
def inlineItems? : List Json → Option (List String)
  | [] => some []
  | item :: items => do
    let text ← inline? item
    let texts ← inlineItems? items
    some (text :: texts)

/-- The bindings of a table. -/
def bindingTexts? : List (String × Json) → Option (List String)
  | [] => some []
  | (_, .null) :: fields => bindingTexts? fields
  | (name, value) :: fields => do
    let text ← inline? value
    let texts ← bindingTexts? fields
    some (bindingText name text :: texts)

end

/-- An object as a document. -/
def write? (json : Json) : Option String := do
  let bindings ← bindingTexts? json.fields
  some (String.join (bindings.map (· ++ "\n")))

end LogConsumer.Toml
