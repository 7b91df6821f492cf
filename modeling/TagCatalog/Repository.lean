import TagCatalog.Connection

/-!
# Repositories

A handle to one repository: a client, the qualified name and an authorizer for pulling from it.

* `Repository`, `Repository.resolve`: checks the name, then probes the registry;
* `Repository.listTags`, `Repository.tagDigest`.
-/

namespace TagCatalog

/-- A handle to one repository of a registry. -/
structure Repository where
  client : Client
  name : RepositoryName
  authorizer : Authorizer

namespace Repository

/-- Reads a qualified name. -/
def readName (name : String) : Except CatalogError RepositoryName :=
  (RepositoryName.parse name).mapError (.badName name)

/-- The handle of a repository. Nothing is sent before its name and the registry URL are
checked. -/
def resolve (c : Connection) (repository : String) : Session Repository := do
  let name ← Session.ofExcept (readName (c.qualify repository))
  let client ← Session.ofExcept (Client.ofUrl c.registryUrl)
  let challenges ← client.probe
  let registry ← Session.ofExcept client.baseUrl
  return ⟨client, name, registry, challenges, name.pullScope⟩

/-- Lists the tags of the repository, on at most `limit` pages. -/
def listTags (r : Repository) (limit : Nat) : Session (List String) :=
  r.client.listTags r.authorizer limit r.name.text

/-- Looks up the digest of a tag. -/
def tagDigest (r : Repository) (tag : String) : Session Digest :=
  r.client.tagDigest r.authorizer r.name.text tag

end Repository

end TagCatalog
