import TagCatalog.Setting
import TagCatalog.Text.Numeral

/-!
# Paths of settings

A setting deep in a tree is named by a path: names between points, and places in lists between
square brackets. A place may be counted from the end of its list, with a `-`. A text that is no path
is a name itself.

* `Step`: a name or a place;
* `Path.parse?`: the steps of a path;
* `Setting.assign?`: puts a setting at the end of a path; what stands in the way is replaced by
  tables and lists;
* `Setting.insert?`, `Setting.layer?`: put settings in a tree under texts.
-/

namespace TagCatalog

/-- A step of a path. -/
inductive Step where
  | name (text : String)
  | place (index : Int)
  deriving DecidableEq, Repr

namespace Path

/-- The characters of a name. -/
def isNameChar (c : Char) : Bool := c.isAlphanum || c == ' ' || c == '_' || c == '-'

/-- White space around a place. -/
def isSpace (c : Char) : Bool := c == ' ' || c == '\t' || c == '\r' || c == '\n'

/-- A name at the start of a text, and what follows it. -/
def readName? (s : List Char) : Option (Step × List Char) :=
  let (name, rest) := s.span isNameChar
  if name = [] then none else some (.name (String.ofList name), rest)

/-- An optional `-`. -/
def readSign : List Char → Bool × List Char
  | '-' :: s => (true, s)
  | s => (false, s)

/-- A place behind its opening bracket, and what follows its closing bracket. -/
def readPlace? (s : List Char) : Option (Step × List Char) :=
  let (negative, s) := readSign (s.dropWhile isSpace)
  let (digits, rest) := s.span Char.isDigit
  match rest.dropWhile isSpace with
  | ']' :: rest => do
    let n ← Text.natural? digits
    let index : Int := if negative then -(n : Int) else n
    let _ ← Text.int64OfInt? index
    return (.place index, rest)
  | _ => none

/-- One step behind the first name. -/
def readStep? : List Char → Option (Step × List Char)
  | '.' :: s => readName? s
  | '[' :: s => readPlace? s
  | _ => none

/-- Steps up to the end of a text. -/
def readSteps? : Nat → List Char → Option (List Step)
  | _, [] => some []
  | 0, _ => none
  | n + 1, s => do
    let (step, rest) ← readStep? s
    return step :: (← readSteps? n rest)

/-- The steps of a path. -/
def parse? (text : String) : Option (List Step) := do
  let (first, rest) ← readName? text.toList
  return first :: (← readSteps? rest.length rest)

/-- The steps of a text: of a path, or the text as a name. -/
def ofText (text : String) : List Step := (parse? text).getD [.name text]

end Path

namespace Setting

/-- The places that a list may have. -/
def maxPlaces : Nat := 4294967296

/-- The place of an index in a list of a length; none before the start of the list, or far behind its
end. -/
def placeOf? (index : Int) (length : Nat) : Option Nat :=
  let place := if 0 ≤ index then index else length + index
  if 0 ≤ place ∧ place < maxPlaces then some place.toNat else none

/-- The items of a list, filled up to hold a place. -/
def itemsUpTo (s : Setting) (place : Nat) : List Setting :=
  s.items ++ List.replicate (place + 1 - s.items.length) null

/-- Puts a setting at the end of a path. A name before the last keeps its case. A place that a list
cannot have has no result. -/
def assign? (value : Setting) : List Step → Setting → Option Setting
  | [], _ => some value
  | [.name name], s => some (s.merge name value)
  | .name name :: rest, s => do
    return s.put name (← assign? value rest ((s.get name).getD null))
  | .place index :: rest, s => do
    let place ← placeOf? index s.items.length
    let items := s.itemsUpTo place
    return list (items.set place (← assign? value rest ((items[place]?).getD null)))

/-- Puts a setting in a tree under a text, which may be a path. -/
def insert? (s : Setting) (text : String) (value : Setting) : Option Setting :=
  assign? value (Path.ofText text) s

/-- Puts the entries of a layer in a tree, one after the other. -/
def layer? (s : Setting) (entries : List (String × Setting)) : Option Setting :=
  entries.foldlM (fun s e => s.insert? e.1 e.2) s

end Setting

end TagCatalog
