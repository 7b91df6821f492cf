import TagCatalog.Error
import TagCatalog.Record

/-!
# Fan-out over branches

One task lists the records of each branch. A task that ends, with records or an error, sends its
outcome into a channel; a task that crashes sends nothing, and is noticed when it is joined. When
all tasks have been joined the channel is drained: records are put together in the order they were
sent, and of the failures only the last one is kept, which counts only if there are no records.

* `Outcome`: how a task ends;
* `FanOut.channel`, `FanOut.afterJoining`, `FanOut.drain`: the channel, and the two loops;
* `FanOut.collect`: the whole, for any order of sending and any order of joining.
-/

namespace TagCatalog

/-- How the task of a branch ends. -/
inductive Outcome where
  | records (list : List Record)
  | failed (e : CatalogError)
  | crashed (reason : String)
  deriving DecidableEq, Repr

namespace FanOut

/-- What a task sends: its records or its error, and nothing when it crashes. -/
def sent? : Outcome → Option (Except CatalogError (List Record))
  | .records list => some (.ok list)
  | .failed e => some (.error e)
  | .crashed _ => none

/-- The channel after all tasks have ended, given in the order they end. -/
def channel (ended : List Outcome) : List (Except CatalogError (List Record)) :=
  ended.filterMap sent?

/-- The last failure when all tasks have been joined, given in the order they are joined. -/
def afterJoining (joined : List Outcome) : Option CatalogError :=
  joined.foldl (fun last o => match o with
    | .crashed reason => some (.branchCrashed reason)
    | _ => last) none

/-- What has been collected: the records, and the last failure seen. -/
structure Collected where
  records : List Record
  last : Option CatalogError
  deriving DecidableEq, Repr

/-- Takes one outcome out of the channel. -/
def Collected.take (c : Collected) : Except CatalogError (List Record) → Collected
  | .ok list => { c with records := c.records ++ list }
  | .error e => { c with last := some e }

/-- Takes everything out of the channel. -/
def drain (last : Option CatalogError) (outcomes : List (Except CatalogError (List Record))) :
    Collected :=
  outcomes.foldl Collected.take ⟨[], last⟩

/-- The records that were collected; the last failure, if there are none. -/
def Collected.result (c : Collected) : Except CatalogError (List Record) :=
  match c.last with
  | some e => if c.records = [] then .error e else .ok c.records
  | none => .ok c.records

/-- Collects the outcomes of all tasks, given in the order they end and in the order they are
joined. -/
def collect (ended joined : List Outcome) : Except CatalogError (List Record) :=
  (drain (afterJoining joined) (channel ended)).result

end FanOut

end TagCatalog
