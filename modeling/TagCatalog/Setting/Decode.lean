import TagCatalog.Double.Shortest
import TagCatalog.Setting

/-!
# Reading values from settings

A scalar is read by what is wanted: a text takes every scalar as it is written, and a word of 64 bits
takes numbers, truth values and texts of them.

* `Setting.text?`, `Setting.uint64?`, `Setting.optional?`;
* `Setting.fields?`: the values of a section's fields, from a table by name or from a list by
  position.
-/

namespace TagCatalog.Setting

/-- The text of a scalar. -/
def text? : Setting → Option String
  | boolean b => some (if b then "true" else "false")
  | integer n => some (String.ofList (Text.signedDecimal n))
  | real x => some (String.ofList x.text)
  | text s => some s
  | _ => none

/-- The word that a text stands for: a truth value, or a numeral. -/
def wordOf? (s : String) : Option UInt64 :=
  let word := lowerName s
  if word == "true" || word == "on" || word == "yes" then some 1
  else if word == "false" || word == "off" || word == "no" then some 0
  else Text.uint64? s.toList

/-- The word of 64 bits that a scalar stands for. -/
def uint64? : Setting → Option UInt64
  | boolean b => some (if b then 1 else 0)
  | integer n => Text.uint64OfInt? n
  | real x => some x.toUInt64
  | text s => wordOf? s
  | _ => none

/-- A value or `null`. -/
def optional? {α : Type} (read : Setting → Option α) : Setting → Option (Option α)
  | null => some none
  | s => (read s).map some

/-- The values of the fields `names`: of a table by name, or of a list by position. Everything else
that stands there is passed over. -/
def fields? (names : List String) : Setting → Option (List (Option Setting))
  | s@(table _) => some (names.map s.get)
  | list ss => some ((List.range names.length).map (ss[·]?))
  | _ => none

/-- A field that may be missing. -/
def fieldOr? {α : Type} (default : α) (read : Setting → Option α) : Option Setting → Option α
  | none => some default
  | some s => read s

end TagCatalog.Setting
