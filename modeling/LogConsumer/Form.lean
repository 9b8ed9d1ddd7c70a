import LogConsumer.Json
import LogConsumer.Message
import LogConsumer.Width

/-!
# Forms of stored values

A form writes a value as JSON and reads it back. Reading is strict about kinds and ranges: a
number is no text, a number with a fraction is no integer, and an integer must fit its width. A
record is read from an object by the names of its fields, passing over fields it does not know,
or from a list by position.
-/
namespace LogConsumer

/-- A writer and a reader of one stored type. -/
structure Form (α : Type) where
  /-- Write a value. -/
  encode : α → Json
  /-- Read a value. -/
  decode : Json → Option α

namespace Form

variable {α : Type}

/-- An integer of a width. -/
def integer (width : Width) : Form Int where
  encode value := .int value
  decode
    | .int value => if width.holds value then some value else none
    | _ => none

/-- An integer of 32 bits with sign. -/
def int32 : Form Int :=
  integer .int32

/-- An integer of 64 bits with sign. -/
def int64 : Form Int :=
  integer .int64

/-- A natural number of 64 bits. -/
def natural : Form Nat where
  encode value := .int value
  decode json := ((integer .word64).decode json).map Int.toNat

/-- A word of 64 bits. -/
def word : Form UInt64 where
  encode value := natural.encode value.toNat
  decode json := (natural.decode json).map UInt64.ofNat

/-- A byte. -/
def byte : Form UInt8 where
  encode value := .int value.toNat
  decode json := ((integer .byte).decode json).map fun value => UInt8.ofNat value.toNat

/-- A text. -/
def text : Form String where
  encode value := .str value
  decode
    | .str value => some value
    | _ => none

/-- A list of values. -/
def list (form : Form α) : Form (List α) where
  encode values := .arr (values.map form.encode)
  decode
    | .arr items => items.mapM form.decode
    | _ => none

/-- A value that may be missing, in which case it is null. -/
def option (form : Form α) : Form (Option α) where
  encode
    | some value => form.encode value
    | none => .null
  decode
    | .null => some none
    | json => (form.decode json).map some

/-- A sequence of bytes, written as a list. It is also read from a text, which stands for the
bytes of its encoding. -/
def bytes : Form Bytes where
  encode values := byte.list.encode values
  decode
    | .str value => some value.toUTF8.data.toList
    | json => byte.list.decode json

/-- Texts by name. -/
def texts : Form (Table String String) where
  encode table := .obj (table.entries.map fun entry => (entry.1, .str entry.2))
  decode
    | .obj fields =>
      (fields.mapM fun field => (text.decode field.2).map (field.1, ·)).map Table.ofList
    | _ => none

/-- The name that a value of a closed type is stored under: a text, or the one field of an object,
where it is null. -/
def nameOf? : Json → Option String
  | .str name => some name
  | .obj [(name, .null)] => some name
  | _ => none

/-- A value of a closed type, stored under its name. -/
def named (values : List α) (name : α → String) : Form α where
  encode value := .str (name value)
  decode json := do
    let stored ← nameOf? json
    values.find? fun value => name value = stored

/-- The fields of a record by name. -/
abbrev Fields := List (String × Json)

/-- The fields of a record whose fields have these names: those of an object, or the items of a
list of the same length. -/
def record? (names : List String) : Json → Option Fields
  | .obj fields => some fields
  | .arr items => if items.length = names.length then some (names.zip items) else none
  | _ => none

/-- The fields of a record every field of which may be missing: those of an object, or the items
of a list that is not longer. -/
def openRecord? (names : List String) : Json → Option Fields
  | .obj fields => some fields
  | .arr items => if items.length ≤ names.length then some (names.zip items) else none
  | _ => none

/-- Read a field that must be there. -/
def required (form : Form α) (name : String) (fields : Fields) : Option α := do
  form.decode (← fields.lookup name)

/-- Read a field that may be missing and has a value all the same then. -/
def defaulted (form : Form α) (name : String) (default : α) (fields : Fields) : Option α :=
  match fields.lookup name with
  | some json => form.decode json
  | none => some default

/-- Read a field that may be missing. -/
def optional (form : Form α) (name : String) (fields : Fields) : Option (Option α) :=
  form.option.defaulted name none fields

end Form

end LogConsumer
