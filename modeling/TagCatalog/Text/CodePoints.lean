import TagCatalog.Text.Hex
import TagCatalog.Text.Split

/-!
# Tables of code points

Tables of characters are written as texts of entries separated by blanks. Code points are in
hexadecimal; a range is `first-last`, or one code point.

* `CodePoints.entries`, `CodePoints.range`;
* `CodePoints.ranges`, `CodePoints.contains`: a set of characters.
-/

namespace TagCatalog.Text.CodePoints

/-- The entries of a table. -/
def entries (table : String) : List (List Char) :=
  (splitOn (fun c => c == ' ' || c == '\n') table.toList).filter (· != [])

/-- A range, or one code point. -/
def range (s : List Char) : Nat × Nat :=
  match splitFirst? '-' s with
  | some (a, b) => (hexNumber a, hexNumber b)
  | none => (hexNumber s, hexNumber s)

/-- A table of ranges. -/
def ranges (table : String) : List (Nat × Nat) := (entries table).map range

/-- A code point lies in one of the ranges. -/
def contains (set : List (Nat × Nat)) (n : Nat) : Bool := set.any fun r => r.1 ≤ n && n ≤ r.2

end TagCatalog.Text.CodePoints
