import TagCatalog.Json.Token
import TagCatalog.Text.Utf8

/-!
# Reading JSON

The value of a JSON text, from its tokens, with a stack of the arrays and objects that are open.

* `Open`, `Stage`, `Stage.step`: one token;
* `Json.ofSymbols?`, `Json.ofText?`, `Json.ofBytes?`: the value of a whole text.
-/

namespace TagCatalog.Json

/-- An array or object that is not closed yet, its contents newest first; an object that waits for
a value holds the member's name. -/
inductive Open where
  | array (items : List Json)
  | object (members : List (Option String × Json)) (name : Option String)

/-- What the reader expects next. -/
inductive Expect where
  /-- A value; in an array just opened, also its end. -/
  | value (first : Bool)
  /-- A name; in an object just opened, also its end. -/
  | name (first : Bool) (members : List (Option String × Json))
  /-- The colon after a name. -/
  | colon
  /-- A comma or the end of what is open. -/
  | next
  /-- The end of the text, after a whole value. -/
  | finished (value : Json)

/-- Where the reader stands. -/
structure Stage where
  opened : List Open
  expect : Expect

namespace Stage

/-- A value has been completed inside `opened`. -/
def complete : List Open → Json → Stage
  | [], v => ⟨[], .finished v⟩
  | .array items :: outer, v => ⟨.array (v :: items) :: outer, .next⟩
  | .object members name :: outer, v => ⟨.object ((name, v) :: members) none :: outer, .next⟩

/-- One token. -/
def step (s : Stage) (t : Token) : Option Stage :=
  match s.expect, t, s.opened with
  | .value _, .scalar v, opened => some (complete opened v)
  | .value _, .openArray, opened => some ⟨.array [] :: opened, .value true⟩
  | .value _, .openObject, opened => some ⟨opened, .name true []⟩
  | .value true, .closeArray, .array [] :: outer => some (complete outer (.array []))
  | .name _ members, .scalar (.text name), opened => some ⟨.object members name :: opened, .colon⟩
  | .name true _, .closeObject, opened => some (complete opened (.object []))
  | .colon, .colon, opened => some ⟨opened, .value false⟩
  | .next, .comma, .array items :: outer => some ⟨.array items :: outer, .value false⟩
  | .next, .comma, .object members _ :: outer => some ⟨outer, .name false members⟩
  | .next, .closeArray, .array items :: outer => some (complete outer (.array items.reverse))
  | .next, .closeObject, .object members _ :: outer =>
    some (complete outer (.object members.reverse))
  | _, _, _ => none

/-- All tokens, one after the other. -/
def run (s : Stage) (tokens : List Token) : Option Stage := tokens.foldlM step s

end Stage

/-- The value of a text in which `none` stands for bytes that are no UTF-8. -/
def ofSymbols? (s : List (Option Char)) : Option Json := do
  let tokens ← Token.scan? s
  match ← Stage.run ⟨[], .value false⟩ tokens with
  | ⟨_, .finished v⟩ => some v
  | _ => none

/-- The value of a text. -/
def ofText? (s : String) : Option Json := ofSymbols? (s.toList.map some)

/-- The value of a byte string. -/
def ofBytes? (bytes : List UInt8) : Option Json := ofSymbols? (Text.Utf8.decode bytes)

end TagCatalog.Json
