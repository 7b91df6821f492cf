import TagCatalog.Json.Reader
import TagCatalog.Record

/-!
# Records as JSON

A record is written as an object with its four fields in a fixed order and without blanks. It is
read from an object in any order, from an array of four, and with unknown members passed over; a
missing time counts as `null`.

* `Json.quoted`: a string with its escapes;
* `Record.toJson`, `Record.ofJson?`.
-/

namespace TagCatalog

namespace Json

/-- A character inside a string: quotes, backslashes and control characters are escaped. -/
def quotedChar (c : Char) : List Char :=
  if c == '"' then ['\\', '"']
  else if c == '\\' then ['\\', '\\']
  else if c == '\x08' then ['\\', 'b']
  else if c == '\x0c' then ['\\', 'f']
  else if c == '\n' then ['\\', 'n']
  else if c == '\r' then ['\\', 'r']
  else if c == '\t' then ['\\', 't']
  else if c.toNat < 0x20 then
    ['\\', 'u', '0', '0', Text.lowerHexDigit (c.toNat / 16), Text.lowerHexDigit (c.toNat % 16)]
  else [c]

/-- A string between its quotes. -/
def quoted (s : String) : List Char := '"' :: s.toList.flatMap quotedChar ++ ['"']

end Json

namespace Record

/-- The fields of a record, in the order they are written. -/
def fieldNames : List String := ["tag", "branch", "revision", "last_modified_secs"]

/-- The JSON text of a time. -/
def secondsJson : Option Int64 → List Char
  | none => "null".toList
  | some secs => Text.signedDecimal secs.toInt

/-- The JSON text of a record. -/
def toJson (r : Record) : String :=
  String.ofList <| '\x7b' :: Json.quoted "tag" ++ ':' :: Json.quoted r.tag ++
    ',' :: Json.quoted "branch" ++ ':' :: Json.quoted r.branch ++
    ',' :: Json.quoted "revision" ++ ':' :: Json.quoted r.revision ++
    ',' :: Json.quoted "last_modified_secs" ++ ':' :: secondsJson r.seconds ++ ['\x7d']

/-- Reads a record from a JSON value. Only an object may leave the time out. -/
def ofValue? (j : Json) : Option Record := do
  let seconds? := Json.optional? Json.int64?
  match ← j.fields? fieldNames, j with
  | [some tag, some branch, some revision, some secs], _ =>
    return ⟨← tag.text?, ← branch.text?, ← revision.text?, ← seconds? secs⟩
  | [some tag, some branch, some revision, none], .object _ =>
    return ⟨← tag.text?, ← branch.text?, ← revision.text?, none⟩
  | _, _ => none

/-- Reads a record from a JSON text. -/
def ofJson? (s : String) : Option Record := (Json.ofText? s).bind ofValue?

end Record

end TagCatalog
