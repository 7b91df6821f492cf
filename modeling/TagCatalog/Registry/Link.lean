import TagCatalog.Http.Message
import TagCatalog.Text.Blank
import TagCatalog.Text.Split

/-!
# Links to further pages

A page of a listing names the page after it in a `Link` header, `<target>; rel="next"`. Only the
first `Link` header is looked at; it is cut at its commas, and the first part that names the
relation `next` and holds a target in angle brackets counts.

* `Link.targetOf?`, `Link.next?`.
-/

namespace TagCatalog.Link

/-- A part of the header names the relation `next`. -/
def isNext (part : List Char) : Bool :=
  Text.occurs "rel=\"next\"".toList part || Text.occurs "rel='next'".toList part

/-- The text between the first `<` and the first `>`, if they stand in this order. -/
def bracketed? (part : List Char) : Option (List Char) :=
  match Text.splitFirst? '<' part with
  | none => none
  | some (before, after) =>
    if before.contains '>' then none else (Text.splitFirst? '>' after).map (·.1)

/-- The target of a part that names the next page. -/
def targetOf? (part : List Char) : Option (List Char) :=
  let part := Text.trim part
  if isNext part then bracketed? part else none

/-- The target of the next page in a header value. -/
def nextIn? (value : List Char) : Option (List Char) :=
  (Text.splitAll ',' value).findSome? targetOf?

/-- The target of the next page that a reply's headers name. -/
def next? (headers : Http.Headers) : Option String :=
  match headers.values "Link" with
  | value :: _ =>
    if Http.isReadable value then (nextIn? value.toList).map String.ofList else none
  | [] => none

end TagCatalog.Link
