import TagCatalog.Text.Hex
import TagCatalog.Text.Utf8

/-!
# Percent encoding

A character of an **encode set** is written as its UTF-8 bytes, each as `%` and two upper-case
hexadecimal digits; every other character stands for itself.

* the encode sets `isControl`, `inQuery`, `inSpecialQuery`, `inFragment`, `inPath`, `inUserinfo`;
* `percentEncode set s`, `percentDecode s`.
-/

namespace TagCatalog.Url

/-- Control characters and everything beyond ASCII, which every component encodes. -/
def isControl (c : Char) : Bool := c.toNat < 0x20 || 0x7E < c.toNat

/-- The encode set of queries. -/
def inQuery (c : Char) : Bool := isControl c || c == ' ' || c == '"' || c == '#' || c == '<' || c == '>'

/-- The encode set of queries of special schemes. -/
def inSpecialQuery (c : Char) : Bool := inQuery c || c.toNat == 0x27

/-- The encode set of fragments. -/
def inFragment (c : Char) : Bool :=
  isControl c || c == ' ' || c == '"' || c == '<' || c == '>' || c.toNat == 0x60

/-- The encode set of path segments. -/
def inPath (c : Char) : Bool :=
  inFragment c || c == '#' || c == '?' || c == '\x7b' || c == '\x7d'

/-- The encode set of user names and passwords. -/
def inUserinfo (c : Char) : Bool :=
  inPath c || c == '/' || c == ':' || c == ';' || c == '=' || c == '@' || c == '[' || c == '\\' ||
    c == ']' || c == '^' || c == '|'

/-- A byte as `%` and two digits. -/
def percentByte (b : UInt8) : List Char :=
  ['%', Text.upperHexDigit (b.toNat / 16), Text.upperHexDigit (b.toNat % 16)]

/-- A character as the bytes of its UTF-8 form. -/
def percentChar (c : Char) : List Char := (String.utf8EncodeChar c).flatMap percentByte

/-- Encodes the characters of `set`. -/
def percentEncode (set : Char → Bool) (s : List Char) : List Char :=
  s.flatMap fun c => if set c then percentChar c else [c]

/-- The bytes of a text, each `%` with two hexadecimal digits after it standing for one byte. -/
def percentDecode : List Char → List UInt8
  | '%' :: a :: b :: rest =>
    match Text.hexValue? a, Text.hexValue? b with
    | some x, some y => UInt8.ofNat (16 * x + y) :: percentDecode rest
    | _, _ => String.utf8EncodeChar '%' ++ percentDecode (a :: b :: rest)
  | c :: rest => String.utf8EncodeChar c ++ percentDecode rest
  | [] => []

end TagCatalog.Url
