import TagCatalog.Calendar
import TagCatalog.Text.Split
import TagCatalog.Text.Numeral

/-!
# Records

A **record** is one tag of a repository, labelled with the branch it was listed for. Tags of the
form `<unix seconds>-<revision>` carry the time of the build and its revision; the last `-` of the
tag separates them. A tag without any `-` is kept bare; a tag whose text before the last `-` is no
64-bit timestamp is skipped, and so is the empty tag.

* `Record`, `Record.ofTag?`, `Record.ofTags`;
* `Record.lastModified`: the date that is shown for a record;
* `Record.recent`: the order "at least as recent as", a record without a time coming last;
* `Record.sortByRecency`: the stable sort by that order.
-/

namespace TagCatalog

/-- One tag of a repository, labelled with the branch it was listed for. -/
structure Record where
  /-- The tag as the registry spells it. -/
  tag : String
  /-- The label of the branch. -/
  branch : String
  /-- The revision, empty when the tag carries none. -/
  revision : String
  /-- The time of the build in Unix seconds, when the tag carries one. -/
  seconds : Option Int64
  deriving DecidableEq, Repr

namespace Record

/-- The record of a tag, unless the tag has to be skipped. -/
def ofTag? (branch tag : String) : Option Record :=
  if tag.isEmpty then none
  else match Text.splitLast? '-' tag.toList with
    | none => some ⟨tag, branch, "", none⟩
    | some (time, revision) =>
      (Text.int64? time).map fun secs => ⟨tag, branch, String.ofList revision, some secs⟩

/-- The records of a listing, in its order. -/
def ofTags (branch : String) (tags : List String) : List Record := tags.filterMap (ofTag? branch)

/-- The date of the build, when the record has a time that a date is shown for. -/
def lastModified (r : Record) : Option CivilTime :=
  r.seconds.bind fun secs => CivilTime.ofSeconds? secs.toInt

/-- `s` is at least as recent as `t`; no time comes after every time. -/
def recent : Option Int64 → Option Int64 → Bool
  | _, none => true
  | none, some _ => false
  | some s, some t => decide (t ≤ s)

/-- Sorts records most recent first; records with equal times keep their order. -/
def sortByRecency (records : List Record) : List Record :=
  records.mergeSort fun a b => recent a.seconds b.seconds

end Record

end TagCatalog
