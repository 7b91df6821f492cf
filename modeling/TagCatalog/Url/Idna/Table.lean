import TagCatalog.Text.CodePoints

/-!
# Tables that replace characters

* `Shift`, `Shift.covers`, `Shift.apply`, `readShifts`: ranges of code points with a common
  distance to their replacements;
* `readEntries`: code points with the code points they stand for;
* `readClasses`: ranges with a number.
-/

namespace TagCatalog.Url.Idna

open Text (hexNumber splitFirst? splitAll)

/-- Code points from `first` to `last`, each one or every other one, that lie `distance` from their
replacements. -/
structure Shift where
  first : Nat
  last : Nat
  alternate : Bool
  upwards : Bool
  distance : Nat

/-- The shift replaces a code point. -/
def Shift.covers (s : Shift) (n : Nat) : Bool :=
  s.first ≤ n && n ≤ s.last && (!s.alternate || (n - s.first) % 2 == 0)

/-- The replacement of a code point. -/
def Shift.apply (s : Shift) (n : Nat) : Nat := if s.upwards then n + s.distance else n - s.distance

/-- A shift `first-last+distance` or `first-last~distance`, with `/` before the sign for every
other code point. -/
def readShift (s : List Char) : Shift :=
  let isSign := fun c : Char => c == '+' || c == '~'
  let range := s.takeWhile (!isSign ·)
  let signed := s.dropWhile (!isSign ·)
  let alternate := range.getLast? == some '/'
  let (first, last) := Text.CodePoints.range (if alternate then range.dropLast else range)
  ⟨first, last, alternate, signed.head? == some '+', hexNumber (signed.drop 1)⟩

/-- A table of shifts. -/
def readShifts (table : String) : List Shift := (Text.CodePoints.entries table).map readShift

/-- A table of entries `point=point,point`. -/
def readEntries (table : String) : List (Nat × List Nat) :=
  (Text.CodePoints.entries table).map fun s =>
    match splitFirst? '=' s with
    | some (point, points) => (hexNumber point, (splitAll ',' points).map hexNumber)
    | none => (hexNumber s, [])

/-- A table of entries `range=number`. -/
def readClasses (table : String) : List ((Nat × Nat) × Nat) :=
  (Text.CodePoints.entries table).map fun s =>
    match splitFirst? '=' s with
    | some (range, number) => (Text.CodePoints.range range, hexNumber number)
    | none => (Text.CodePoints.range s, 0)

end TagCatalog.Url.Idna
