import TagCatalog.Text.Numeral

/-!
# JSON values

What a reader of JSON keeps of a text. Integers are exact when they fit 64 bits, signed or
unsigned; every other number, `-0` included, is a `real`, whose value no setting or record uses. A
string is kept unless it holds half a surrogate pair or bytes that are no UTF-8; such a string may
stand where it is passed over, but not where it is read.

* `Json`, with the readers `text?`, `int64?`, `uint64?`, `optional?`, `list?`;
* `Json.fields?`: the values of a structure's fields, from an object by name or from an array by
  position.
-/

namespace TagCatalog

/-- A JSON value. -/
inductive Json where
  | null
  | bool (value : Bool)
  | integer (value : Int)
  | real
  | text (value : Option String)
  | array (items : List Json)
  | object (members : List (Option String × Json))

namespace Json

/-- A readable string. -/
def text? : Json → Option String
  | text value => value
  | _ => none

/-- An integer that fits a signed word. -/
def int64? : Json → Option Int64
  | integer n => Text.int64OfInt? n
  | _ => none

/-- An integer that fits an unsigned word. -/
def uint64? : Json → Option UInt64
  | integer n => Text.uint64OfInt? n
  | _ => none

/-- A value or `null`. -/
def optional? {α : Type} (read : Json → Option α) : Json → Option (Option α)
  | null => some none
  | j => (read j).map some

/-- An array whose items are all readable. -/
def list? {α : Type} (read : Json → Option α) : Json → Option (List α)
  | array items => items.mapM read
  | _ => none

/-- The values of the fields `names`: of an object by name, where no field may occur twice and all
other members are passed over; of an array by position, where none may be left over. A field that
does not occur is `none`. -/
def fields? (names : List String) : Json → Option (List (Option Json))
  | object members =>
    if members.all (fun m => m.1.isSome) ∧
        names.all (fun name => (members.filter (·.1 == some name)).length ≤ 1) then
      some (names.map fun name => (members.find? (·.1 == some name)).map (·.2))
    else none
  | array items =>
    if items.length ≤ names.length then
      some (items.map some ++ List.replicate (names.length - items.length) none)
    else none
  | _ => none

/-- A field that may be missing. -/
def fieldOr? {α : Type} (default : α) (read : Json → Option α) : Option Json → Option α
  | none => some default
  | some j => read j

end Json

end TagCatalog
