/-!
# JSON values

The values of the format in which messages, events and configurations are stored. An integer is
exact and of any size; a number with a fraction or an exponent is kept as it is written, since
nothing stored here has one.
-/
namespace LogConsumer

/-- A JSON value. -/
inductive Json where
  /-- The value null. -/
  | null
  /-- A truth value. -/
  | bool (value : Bool)
  /-- A number without fraction and exponent. -/
  | int (value : Int)
  /-- A number with a fraction or an exponent, as it is written. -/
  | real (text : String)
  /-- A text. -/
  | str (value : String)
  /-- A list of values. -/
  | arr (items : List Json)
  /-- Values by name, in the order in which they are written. -/
  | obj (fields : List (String × Json))
  deriving Repr, Inhabited, BEq

namespace Json

/-- The value that is null where there is none. -/
def nullable {α : Type} (form : α → Json) : Option α → Json
  | some value => form value
  | none => null

/-- The values of an object by name; a value of another kind has none. -/
def fields : Json → List (String × Json)
  | obj fields => fields
  | _ => []

/-- The value of a field. -/
def field? (json : Json) (name : String) : Option Json :=
  json.fields.lookup name

end Json

end LogConsumer
