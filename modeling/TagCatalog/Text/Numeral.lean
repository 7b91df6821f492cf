/-!
# Decimal numerals

A numeral is a non-empty run of ASCII digits; leading zeros are allowed when it is read. A signed
numeral may have one `+` or `-` before it.

* `natural?`, `signed?`: the value of a numeral, of any size;
* `int64OfInt?`, `uint64OfInt?`: the word of 64 bits of a value that fits it;
* `int64?`, `uint64?`: the word of a numeral;
* `decimal`, `signedDecimal`: the shortest numeral of a value.
-/

namespace TagCatalog.Text

/-- The value of a digit, `0` for any other character. -/
def digitValue (c : Char) : Nat := c.toNat - '0'.toNat

/-- The digit of a value below ten. -/
def digitChar (n : Nat) : Char := Char.ofNat ('0'.toNat + n)

/-- The value of a list of digits, most significant first. -/
def digitsValue (s : List Char) : Nat := s.foldl (fun n c => 10 * n + digitValue c) 0

/-- Reads a numeral. -/
def natural? (s : List Char) : Option Nat :=
  if s ≠ [] ∧ s.all Char.isDigit then some (digitsValue s) else none

/-- Reads a numeral with at most one sign before it. -/
def signed? : List Char → Option Int
  | '-' :: s => (natural? s).map fun n => -(n : Int)
  | '+' :: s => (natural? s).map fun n => (n : Int)
  | s => (natural? s).map fun n => (n : Int)

/-- The signed word of a value, when it fits. -/
def int64OfInt? (n : Int) : Option Int64 :=
  if Int64.minValue.toInt ≤ n ∧ n ≤ Int64.maxValue.toInt then some (Int64.ofInt n) else none

/-- The unsigned word of a value, when it fits. -/
def uint64OfInt? (n : Int) : Option UInt64 :=
  if 0 ≤ n ∧ n < UInt64.size then some (UInt64.ofNat n.toNat) else none

/-- Reads a signed numeral that fits a signed word of 64 bits. -/
def int64? (s : List Char) : Option Int64 := (signed? s).bind int64OfInt?

/-- Reads a numeral, perhaps with a `+` before it, that fits a word of 64 bits. -/
def uint64? (s : List Char) : Option UInt64 :=
  let digits := match s with
    | '+' :: t => t
    | t => t
  (natural? digits).bind fun n => uint64OfInt? n

/-- The shortest numeral of a natural number. -/
def decimal (n : Nat) : List Char :=
  if n < 10 then [digitChar n] else decimal (n / 10) ++ [digitChar (n % 10)]

/-- The shortest numeral of an integer, with a `-` before it when negative. -/
def signedDecimal (n : Int) : List Char :=
  if n < 0 then '-' :: decimal n.natAbs else decimal n.natAbs

/-- A numeral filled up with zeros to at least `width` digits. -/
def padded (width n : Nat) : List Char :=
  List.replicate (width - (decimal n).length) '0' ++ decimal n

end TagCatalog.Text
