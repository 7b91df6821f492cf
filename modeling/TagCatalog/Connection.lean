import TagCatalog.Auth.Store
import TagCatalog.Registry.Client

/-!
# Connections

What a service knows of its registry: the base URL, credentials and a namespace.

* `Connection`, `Connection.withCredentials`, `Connection.withNamespace`;
* `Connection.validate`: the base URL is an absolute http or https URL, and there is no password
  without a user name;
* `Connection.registryUrl`, `Connection.qualify`, `Connection.store`.
-/

namespace TagCatalog

/-- The settings of one registry connection. -/
structure Connection where
  baseUrl : String
  username : Option String
  password : Option String
  /-- What is put before every repository name. -/
  nameSpace : Option String
  deriving DecidableEq, Repr

namespace Connection

/-- A connection without credentials or namespace. -/
def anonymous (baseUrl : String) : Connection := ⟨baseUrl, none, none, none⟩

/-- The connection with other credentials. -/
def withCredentials (c : Connection) (username password : String) : Connection :=
  { c with username := some username, password := some password }

/-- The connection with another namespace. -/
def withNamespace (c : Connection) (name : String) : Connection :=
  { c with nameSpace := some name }

/-- Checks the base URL and the credentials. -/
def validate (c : Connection) : Except CatalogError Unit :=
  let url := Text.trimmed c.baseUrl
  if url = "" then .error .emptyBaseUrl
  else match Url.parse url with
    | .error fault => .error (.badBaseUrl url fault)
    | .ok parsed =>
      if !(parsed.isHttp && parsed.hasHost) then .error (.foreignBaseUrl url)
      else if c.password.isSome ∧ c.username = none then .error .passwordWithoutUsername
      else .ok ()

/-- The base URL without blanks around it and slashes at its end. -/
def registryUrl (c : Connection) : String := normalizedUrl c.baseUrl

/-- A repository name behind the namespace, if there is one. -/
def qualify (c : Connection) (repository : String) : String :=
  match c.nameSpace with
  | some name => if name = "" then repository else name ++ "/" ++ repository
  | none => repository

/-- The store of the connection's credentials. -/
def store (c : Connection) : Store := Store.fixed c.username c.password

end Connection

/-- Settings of the HTTP client. -/
structure ClientSettings where
  /-- The seconds that a request may take. -/
  timeout : UInt64
  /-- The idle connections that are kept for each host. -/
  maxIdlePerHost : UInt64
  deriving DecidableEq, Repr

/-- The settings that hold where none are given. -/
def ClientSettings.default : ClientSettings := ⟨30, 10⟩

end TagCatalog
