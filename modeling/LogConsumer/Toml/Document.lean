import LogConsumer.Toml.DateTime
import LogConsumer.Toml.Number
import LogConsumer.Toml.Text
import LogConsumer.Toml.Tree

/-!
# Reading TOML documents

A document is a table, read line by line: a binding goes into the table of the last header. The
document is handed on as an object.
-/
namespace LogConsumer.Toml

open Reader

/-- Read the items of a list behind its bracket up to the one that ends it, in at most `limit`
steps. The last item may be followed by a comma. -/
def readItems (item : Reader Json) : (limit : Nat) → Reader (List Json)
  | 0 => fail
  | limit + 1 => do
    skipLayout
    if ← accept ']' then pure []
    else
      let first ← item
      skipLayout
      if ← accept ',' then pure (first :: (← readItems item limit))
      else
        expect ']'
        pure [first]

/-- A key and what it is bound to. -/
structure Binding where
  /-- The parts of the key but the last. -/
  path : List String
  /-- The last part of the key. -/
  name : String
  /-- The value. -/
  json : Json
  deriving Repr, Inhabited

/-- Read a binding. -/
def readBinding (value : Reader Json) : Reader Binding := do
  let key ← readKey
  expect '='
  skipBlanks
  let json ← value
  skipBlanks
  match key.reverse with
  | name :: path => pure { path := path.reverse, name, json }
  | [] => fail

/-- The table of bindings in order. -/
def bindAll? (bindings : List Binding) : Option Entries :=
  bindings.foldlM
    (fun entries binding => entries.bindKey? binding.name binding.json binding.path) []

/-- Read a table within a line behind its brace. -/
def readInlineTable (value : Reader Json) : Reader Json := do
  skipBlanks
  if ← accept '\x7d' then pure (.obj [])
  else
    let bindings ← separated (readBinding value) ',' ((← left) + 1)
    expect '\x7d'
    let entries ← ofOption (bindAll? bindings)
    pure (.obj (entriesJson entries))

/-- Read a truth value. -/
def readBool : Reader Json := do
  if ← acceptAll ['t', 'r', 'u', 'e'] then pure (.bool true)
  else
    require (← acceptAll ['f', 'a', 'l', 's', 'e'])
    pure (.bool false)

/-- Read a value that has no parts. -/
def readScalar : Reader Json := do
  match ← peek with
  | some '"' => pure (.str (← readText '"'))
  | some '\'' => pure (.str (← readText '\''))
  | _ => readBool <|> readDateTime <|> readNumber

/-- Read a value in which lists and tables are nested at most `depth` deep. -/
def readValue : (depth : Nat) → Reader Json
  | 0 => readScalar
  | depth + 1 => do
    if ← accept '[' then pure (.arr (← readItems (readValue depth) ((← left) + 1)))
    else if ← accept '\x7b' then readInlineTable (readValue depth)
    else readScalar

/-- A document as far as it is read. -/
structure Document where
  /-- The table of the document. -/
  entries : Entries := []
  /-- The header of the table that bindings go into. -/
  header : List String := []
  deriving Inhabited

namespace Document

/-- Begin a table. -/
def begin? (document : Document) (declare : String → Entries → Option Entries)
    (key : List String) : Option Document :=
  match key.reverse with
  | [] => none
  | name :: path => do
    let entries ← document.entries.changeAt (declare name) path.reverse
    some { entries, header := key }

/-- Add a binding to the table of the last header. -/
def bind? (document : Document) (binding : Binding) : Option Document := do
  let entries ← document.entries.changeAt (Entries.bindKey? binding.name binding.json binding.path)
    document.header
  some { document with entries }

end Document

/-- Read a header, and begin its table. -/
def readHeader (document : Document) : Reader Document := do
  expect '['
  let isList ← accept '['
  let key ← readKey
  expect ']'
  if isList then expect ']'
  endLine
  ofOption (document.begin? (if isList then Entries.addTable? else Entries.nameTable?) key)

/-- Read one line, which may hold nothing. -/
def readLineOf (document : Document) : Reader Document := do
  skipBlanks
  match ← peek with
  | some '[' => readHeader document
  | some '#' | some '\n' | some '\r' | none => do
    endLine
    pure document
  | _ => do
    let binding ← readBinding (readValue maxDepth)
    endLine
    ofOption (document.bind? binding)

/-- Read lines up to the end of the document, at most `limit` of them. -/
def readLines : (limit : Nat) → Document → Reader Document
  | 0, document => pure document
  | limit + 1, document => do
    if (← left) = 0 then pure document
    else readLines limit (← readLineOf document)

/-- Read a document as an object. A byte order mark may stand in front. -/
def read? (text : String) : Option Json :=
  readAll? (do
    let _ ← accept '\ufeff'
    let document ← readLines ((← left) + 1) {}
    pure (.obj (entriesJson document.entries))) text

end LogConsumer.Toml
