import TagCatalog.Connection
import TagCatalog.Setting.Decode
import TagCatalog.Setting.Path
import TagCatalog.Setting.Yaml

/-!
# Configurations

The connection and the client settings of a service. They are put together from layers: the
defaults, a YAML file, and variables of the environment; a later layer replaces the settings of an
earlier one.

* `Config`, `Config.defaults`;
* `Config.decode?`: the configuration that a tree of settings holds;
* `Config.ofYaml`, `Config.load`: a valid configuration.

A variable takes part when its name begins with `Config.variablePrefix`, in any case; two underscores
in the rest of its name separate the steps of a path.
-/

namespace TagCatalog

/-- The settings of a service. -/
structure Config where
  connection : Connection
  settings : ClientSettings
  deriving DecidableEq, Repr

/-- Why there is no configuration. -/
inductive ConfigFault where
  | error (e : CatalogError)
  /-- Loading was given up, without an error. -/
  | abandoned
  deriving DecidableEq, Repr

namespace Config

/-- The configuration without any settings. -/
def default : Config := ⟨Connection.anonymous "", ClientSettings.default⟩

/-- The names of a connection's fields. -/
def connectionFields : List String := ["base_url", "username", "password", "namespace"]

/-- The names of the client's fields. -/
def clientFields : List String := ["timeout", "max_idle_per_host"]

/-- The names of the sections. -/
def sections : List String := ["registry", "network"]

/-- The default settings. -/
def defaults : Setting :=
  .table [
    ("registry", .table [("base_url", .text ""), ("username", .null), ("password", .null),
      ("namespace", .null)]),
    ("network", .table [("timeout", .integer 30), ("max_idle_per_host", .integer 10)])]

/-- Reads a connection. -/
def connectionOf? (s : Setting) : Option Connection := do
  let text? := Setting.fieldOr? none (Setting.optional? Setting.text?)
  match ← s.fields? connectionFields with
  | [url, username, password, name] =>
    return ⟨← Setting.fieldOr? "" Setting.text? url, ← text? username, ← text? password,
      ← text? name⟩
  | _ => none

/-- Reads the settings of the client. -/
def clientOf? (s : Setting) : Option ClientSettings := do
  match ← s.fields? clientFields with
  | [timeout, idle] =>
    return ⟨← Setting.fieldOr? default.settings.timeout Setting.uint64? timeout,
      ← Setting.fieldOr? default.settings.maxIdlePerHost Setting.uint64? idle⟩
  | _ => none

/-- The configuration that a tree of settings holds. -/
def decode? (s : Setting) : Option Config := do
  match ← s.fields? sections with
  | [registry, network] =>
    return ⟨← Setting.fieldOr? default.connection connectionOf? registry,
      ← Setting.fieldOr? default.settings clientOf? network⟩
  | _ => none

/-! ## Layers -/

/-- The settings with a layer put over them. -/
def overlaid (entries : List (String × Setting)) (s : Setting) : Except ConfigFault Setting :=
  match s.layer? entries with
  | some t => .ok t
  | none => .error .abandoned

/-- The layer of a file. -/
def fileLayer (text : String) : Except ConfigFault (List (String × Setting)) :=
  match Setting.ofYaml text with
  | .ok entries => .ok entries
  | .error .unfit => .error (.error .badSettings)
  | .error .abandoned => .error .abandoned

/-- What the names of variables begin with. -/
def variablePrefix : String := "tagwatch_"

/-- A text with points in place of pairs of underscores. -/
def pointed : List Char → List Char
  | '_' :: '_' :: s => '.' :: pointed s
  | c :: s => c :: pointed s
  | [] => []

/-- The path that a variable's name stands for. -/
def variablePath? (name : String) : Option String :=
  let name := (Setting.lowerName name).toList
  let start := variablePrefix.toList
  if start.isPrefixOf name then some (String.ofList (pointed (name.drop start.length))) else none

/-- The layer of the environment: all values are texts. -/
def environmentLayer (environment : List (String × String)) : List (String × Setting) :=
  environment.foldl (fun es v =>
    match variablePath? v.1 with
    | some path => Setting.replaceIn path (.text v.2) es
    | none => es) []

/-- The configuration of all layers, if it fits and its connection is valid. -/
def finish (s : Setting) : Except ConfigFault Config :=
  match decode? s with
  | none => .error (.error .badSettings)
  | some c =>
    match c.connection.validate with
    | .ok () => .ok c
    | .error e => .error (.error e)

/-- Reads a configuration from YAML. -/
def ofYaml (text : String) : Except ConfigFault Config := do
  finish (← overlaid (← fileLayer text) defaults)

/-- Loads a configuration from a file, which must be there, and the variables of the
environment. -/
def load (file : Option String) (environment : List (String × String)) :
    Except ConfigFault Config := do
  match file with
  | none => .error (.error .badSettings)
  | some text =>
    let s ← overlaid (← fileLayer text) defaults
    finish (← overlaid (environmentLayer environment) s)

end Config

end TagCatalog
