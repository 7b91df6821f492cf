import TagCatalog.Text.Split
import TagCatalog.Url.Percent

/-!
# Form encoding

`application/x-www-form-urlencoded`: pairs are joined by `&`, a name and its value by `=`; a space
is written `+`, and everything but ASCII letters, digits and `*-._` is percent-encoded.

* `Form.encode`, `Form.decode`.
-/

namespace TagCatalog.Url.Form

/-- The characters that stand for themselves. -/
def isPlain (c : Char) : Bool :=
  c.isAlphanum || c == '*' || c == '-' || c == '.' || c == '_'

/-- A character of a name or value. -/
def encodeChar (c : Char) : List Char :=
  if c == ' ' then ['+'] else if isPlain c then [c] else percentChar c

/-- A name or value. -/
def encodeText (s : String) : List Char := s.toList.flatMap encodeChar

/-- A name and its value. -/
def encodePair (p : String × String) : List Char := encodeText p.1 ++ '=' :: encodeText p.2

/-- A list of pairs. -/
def encode (pairs : List (String × String)) : List Char :=
  List.intercalate ['&'] (pairs.map encodePair)

/-- The text of an encoded name or value. -/
def decodeText (s : List Char) : String :=
  String.ofList <| Text.Utf8.decodeLossy <| percentDecode <|
    s.map fun c => if c == '+' then ' ' else c

/-- The pair of an encoded pair; without a `=` the value is empty. -/
def decodePair (s : List Char) : String × String :=
  match Text.splitFirst? '=' s with
  | some (name, value) => (decodeText name, decodeText value)
  | none => (decodeText s, "")

/-- The pairs of an encoded text; empty pieces are passed over. -/
def decode (s : List Char) : List (String × String) :=
  ((Text.splitAll '&' s).filter (· != [])).map decodePair

end TagCatalog.Url.Form
