import LogConsumer.Json

/-!
# Tables of a TOML document while it is read

A table may be named by a header, implied by the header of a table inside it, or built by keys
with points. Which of these it is decides what may still be added to it: a name is bound once, a
header names a table once, and keys with points add to nothing but what such keys have built.
-/
namespace LogConsumer.Toml

/-- How a table came to be. -/
inductive Origin where
  /-- A header names it. -/
  | named
  /-- The header of a table inside it implies it. -/
  | implied
  /-- Keys with points built it. -/
  | dotted
  deriving DecidableEq, Repr, Inhabited

/-- What a name in a table is bound to. -/
inductive Node where
  /-- A value. Nothing can be added to it. -/
  | value (json : Json)
  /-- A table. -/
  | table (origin : Origin) (entries : List (String × Node))
  /-- The tables of a list, newest first. -/
  | tables (elements : List (List (String × Node)))
  deriving Inhabited

/-- The bindings of a table. -/
abbrev Entries := List (String × Node)

namespace Entries

/-- The bindings with one of them replaced or added. -/
def bind (entries : Entries) (name : String) (node : Node) : Entries :=
  if entries.any fun entry => entry.1 = name then
    entries.map fun entry => if entry.1 = name then (name, node) else entry
  else entries ++ [(name, node)]

/-- Bind a name that is not bound yet. -/
def bindNew? (entries : Entries) (name : String) (node : Node) : Option Entries :=
  match entries.lookup name with
  | none => some (entries ++ [(name, node)])
  | some _ => none

/-- Change the table that a path of headers leads to, and imply the tables that are missing on
the way. A list stands for its newest table. -/
def changeAt (change : Entries → Option Entries) : List String → Entries → Option Entries
  | [], entries => change entries
  | name :: path, entries =>
    match entries.lookup name with
    | none => do
      let inner ← changeAt change path []
      entries.bind name (.table .implied inner)
    | some (.table origin inner) => do
      let inner ← changeAt change path inner
      entries.bind name (.table origin inner)
    | some (.tables (newest :: older)) => do
      let newest ← changeAt change path newest
      entries.bind name (.tables (newest :: older))
    | some _ => none

/-- Bind a key whose last part is `name`. The tables on the way must not be named by a header,
and the last of them must be built by keys with points. -/
def bindKey? (name : String) (json : Json) : List String → Entries → Option Entries
  | [], entries => entries.bindNew? name (.value json)
  | part :: path, entries =>
    match entries.lookup part with
    | none => do
      let inner ← bindKey? name json path []
      entries.bind part (.table .dotted inner)
    | some (.table origin inner) =>
      if origin = .named || (path.isEmpty && origin ≠ .dotted) then none
      else do
        let inner ← bindKey? name json path inner
        entries.bind part (.table origin inner)
    | some (.tables (newest :: older)) =>
      if path.isEmpty then none
      else do
        let newest ← bindKey? name json path newest
        entries.bind part (.tables (newest :: older))
    | some _ => none

/-- Name a table by a header. Only an implied table may be there already. -/
def nameTable? (name : String) (entries : Entries) : Option Entries :=
  match entries.lookup name with
  | none => some (entries.bind name (.table .named []))
  | some (.table .implied inner) => some (entries.bind name (.table .named inner))
  | some _ => none

/-- Add a table to a list by a header. -/
def addTable? (name : String) (entries : Entries) : Option Entries :=
  match entries.lookup name with
  | none => some (entries.bind name (.tables [[]]))
  | some (.tables elements) => some (entries.bind name (.tables ([] :: elements)))
  | some _ => none

end Entries

mutual

/-- What a name is bound to, as a value. -/
def Node.json : Node → Json
  | .value json => json
  | .table _ entries => .obj (entriesJson entries)
  | .tables elements => .arr (elementsJson elements).reverse

/-- The bindings of a table as fields. -/
def entriesJson : List (String × Node) → List (String × Json)
  | [] => []
  | (name, node) :: entries => (name, node.json) :: entriesJson entries

/-- The tables of a list as values. -/
def elementsJson : List (List (String × Node)) → List Json
  | [] => []
  | entries :: elements => .obj (entriesJson entries) :: elementsJson elements

end

end LogConsumer.Toml
