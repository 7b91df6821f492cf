import TagCatalog.Config
import TagCatalog.Json.Reader

/-!
# Configurations as JSON

A configuration in JSON is taken as it is: values must have the right type, and nothing is
validated.

* `Config.ofJson?`.
-/

namespace TagCatalog.Config

/-- Reads a connection. -/
def connectionOfJson? (j : Json) : Option Connection := do
  let text? := Json.fieldOr? none (Json.optional? Json.text?)
  match ← j.fields? connectionFields with
  | [url, username, password, name] =>
    return ⟨← Json.fieldOr? "" Json.text? url, ← text? username, ← text? password, ← text? name⟩
  | _ => none

/-- Reads the settings of the client. -/
def clientOfJson? (j : Json) : Option ClientSettings := do
  match ← j.fields? clientFields with
  | [timeout, idle] =>
    return ⟨← Json.fieldOr? default.settings.timeout Json.uint64? timeout,
      ← Json.fieldOr? default.settings.maxIdlePerHost Json.uint64? idle⟩
  | _ => none

/-- Reads a configuration from a JSON text. -/
def ofJson? (text : String) : Option Config := do
  match ← (← Json.ofText? text).fields? sections with
  | [registry, network] =>
    return ⟨← Json.fieldOr? default.connection connectionOfJson? registry,
      ← Json.fieldOr? default.settings clientOfJson? network⟩
  | _ => none

end TagCatalog.Config
