import TagCatalog.Double
import TagCatalog.Text.Numeral

/-!
# Reading numbers

A number is written with an optional sign, digits with at most one point among or around them, and
an optional exponent behind an `e`. The words for an infinity and for no number are read in any
case.

* `Double.ofText?`.
-/

namespace TagCatalog.Double

/-- An optional sign; whether it is a `-`. -/
def readSign : List Char → Bool × List Char
  | '-' :: s => (true, s)
  | '+' :: s => (false, s)
  | s => (false, s)

/-- The digits at the start of a text, and what follows them. -/
def spanDigits (s : List Char) : List Char × List Char := s.span Char.isDigit

/-- The digits behind a point, if there is one, and what follows them. -/
def readFraction : List Char → List Char × List Char
  | '.' :: s => spanDigits s
  | s => ([], s)

/-- The exponent at the end of a number. -/
def readExponent? : List Char → Option Int
  | [] => some 0
  | c :: s => if c == 'e' || c == 'E' then Text.signed? s else none

/-- Reads a number in digits. -/
def readDecimal? (negative : Bool) (s : List Char) : Option Double := do
  let (whole, rest) := spanDigits s
  let (fraction, rest) := readFraction rest
  if whole = [] ∧ fraction = [] then none
  else
    let e ← readExponent? rest
    return ofDecimal negative (Text.digitsValue (whole ++ fraction)) (e - fraction.length)

/-- Reads a number. -/
def ofText? (s : List Char) : Option Double :=
  let (negative, s) := readSign s
  let word := s.map Char.toLower
  if word = "inf".toList ∨ word = "infinity".toList then some (infinite negative)
  else if word = "nan".toList then some nan
  else readDecimal? negative s

end TagCatalog.Double
