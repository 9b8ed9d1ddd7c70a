import LogConsumer.Form.Config
import LogConsumer.Toml.Document
import LogConsumer.Toml.Writer

/-!
# Configuration files

A configuration file is a TOML document in the form of a configuration.
-/
namespace LogConsumer.Config

/-- Read a configuration from the text of a document. -/
def ofToml? (text : String) : Option Config := do
  form.decode (← Toml.read? text)

/-- Write a configuration as a document, unless a number in it is too large for one. -/
def toToml? (config : Config) : Option String :=
  Toml.write? (form.encode config)

/-- Load a configuration from the content of a file, if there is one. -/
def load (content : Option Bytes) : Except ConsumerError Config :=
  let loaded := do
    let bytes ← content
    let text ← String.fromUTF8? ⟨bytes.toArray⟩
    ofToml? text
  match loaded with
  | some config => .ok config
  | none => .error (.config .unreadable)

end LogConsumer.Config
