import TagCatalog.Catalog
import TagCatalog.Config

/-!
# Building a catalog

* `Catalog.Builder`: the settings gathered so far, and the steps that add to them;
* `Catalog.Builder.build`: the catalog, if a registry URL is set and the connection is valid.
-/

namespace TagCatalog.Catalog

/-- The settings of a catalog gathered so far. -/
abbrev Builder := Config

namespace Builder

/-- No settings. -/
def start : Builder := Config.default

/-- Sets the registry URL. -/
def registryUrl (b : Builder) (url : String) : Builder :=
  { b with connection := { b.connection with baseUrl := url } }

/-- Sets the credentials. -/
def withCredentials (b : Builder) (username password : String) : Builder :=
  { b with connection := b.connection.withCredentials username password }

/-- Sets the namespace. -/
def withNamespace (b : Builder) (name : String) : Builder :=
  { b with connection := b.connection.withNamespace name }

/-- Sets the settings of the client. -/
def withClientSettings (b : Builder) (settings : ClientSettings) : Builder :=
  { b with settings := settings }

/-- Replaces everything by a configuration. -/
def withConfig (_ : Builder) (c : Config) : Builder := c

/-- The catalog of the settings. -/
def build (b : Builder) : Except CatalogError Catalog :=
  if b.connection.baseUrl = "" then .error .missingRegistryUrl
  else ofConnection b.connection b.settings

end Builder

end TagCatalog.Catalog
