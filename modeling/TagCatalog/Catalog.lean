import TagCatalog.FanOut
import TagCatalog.Repository

/-!
# Catalogs

The service: a valid connection to a registry, which lists a repository's tags for several branches
at once, looks up digests and prints references.

* `Catalog`, `Catalog.ofConnection`;
* `Catalog.branchRecords`: the session of one branch;
* `Catalog.Timing`, `Catalog.fetch`: all branches in one world, and the records most recent first;
* `Catalog.tagDigest`, `Catalog.fullReference`.
-/

namespace TagCatalog

/-- A service for one registry connection. -/
structure Catalog where
  connection : Connection
  settings : ClientSettings
  valid : connection.validate = .ok ()

namespace Catalog

/-- The service of a connection, if the connection is valid. -/
def ofConnection (c : Connection) (settings : ClientSettings) : Except CatalogError Catalog :=
  match h : c.validate with
  | .ok () => .ok ⟨c, settings, h⟩
  | .error e => .error e

/-- The world of the service: a server, and the connection's credentials. -/
def world (c : Catalog) (server : Server) : World := ⟨server, c.connection.store⟩

/-- Lists the records of one branch. -/
def branchRecords (c : Catalog) (limit : Nat) (repository branch : String) :
    Session (List Record) := do
  let handle ← Repository.resolve c.connection repository
  let tags ← handle.listTags limit
  return Record.ofTags branch tags

/-- The outcomes of sessions, unless one of them used up its pages. -/
def outcomes (results : List (Except Stop (List Record))) : Except Stop (List Outcome) :=
  results.mapM fun r => match r with
    | .ok list => .ok (.records list)
    | .error (.error e) => .ok (.failed e)
    | .error .pageLimit => .error .pageLimit

/-- The timing of the tasks of a fetch, which are named by their places. -/
structure Timing where
  /-- Who takes the next step. -/
  schedule : List Nat
  /-- The order in which outcomes are sent. -/
  sending : List Nat
  /-- The order in which tasks are joined. -/
  joining : List Nat

/-- The tasks one after the other. -/
def Timing.inTurn (tasks : Nat) : Timing := ⟨[], List.range tasks, List.range tasks⟩

/-- Fetches the records of a repository for each branch, most recent first. A branch that fails
makes the fetch fail only when no branch has a record. -/
def fetch (c : Catalog) (server : Server) (timing : Timing) (limit : Nat) (repository : String)
    (branches : List String) (t : Trace) : Except Stop (List Record) × Trace :=
  let (results, t) := Session.interleave (c.world server) timing.schedule
    (branches.map (c.branchRecords limit repository)) t
  let records := do
    let ended ← outcomes results
    let records ← (FanOut.collect (timing.sending.filterMap (ended[·]?))
      (timing.joining.filterMap (ended[·]?))).mapError .error
    return Record.sortByRecency records
  (records, t)

/-- Looks up the digest of a tag of a repository. -/
def tagDigest (c : Catalog) (repository tag : String) : Session Digest := do
  let handle ← Repository.resolve c.connection repository
  handle.tagDigest tag

/-- The full reference of a tag. -/
def fullReference (c : Catalog) (repository tag : String) : String :=
  c.connection.registryUrl ++ "/" ++ c.connection.qualify repository ++ ":" ++ tag

end Catalog

end TagCatalog
