import TagCatalog.Url.Punycode
import TagCatalog.Url.Idna.Mapping
import TagCatalog.Url.Idna.Composition
import TagCatalog.Url.Idna.Classes

/-!
# Domain names

The ASCII form of a host name: letters in lower case, and every label with characters beyond ASCII
written as `xn--` and its Punycode form. A name of plain ASCII labels needs no table.

* `isForbidden`: the characters that no name may hold;
* `Domain.toAscii?`: the ASCII form, if the name is allowed.
-/

namespace TagCatalog.Url.Domain

open Idna

/-- Characters that no domain name may hold: control characters, the blank, and the characters
with a meaning of their own in a URL. -/
def isForbidden (c : Char) : Bool :=
  c.toNat ≤ 0x20 || c.toNat == 0x7F || c == '#' || c == '%' || c == '/' || c == ':' || c == '<' ||
    c == '>' || c == '?' || c == '@' || c == '[' || c == '\\' || c == ']' || c == '^' || c == '|'

/-- The sign of an encoded label. -/
def encodedSign : List Char := ['x', 'n', '-', '-']

/-- An ASCII character. -/
def isAscii (c : Char) : Bool := c.toNat < 0x80

/-- A label of ASCII characters that is not encoded. -/
def isPlainLabel (label : List Char) : Bool := label.all isAscii && !encodedSign.isPrefixOf label

/-- The characters of a name with the table applied, unless one is refused. -/
def mapped? (s : List Char) : Option (List Char) :=
  (s.mapM fun c => match fate c with
    | .kept => some [c]
    | .dropped => some []
    | .replaced chars => some chars
    | .refused => none).map List.flatten

/-- A label as it reads decoded. An encoded label must hold a character beyond ASCII, and nothing
that the table would change. -/
def decodedLabel? (label : List Char) : Option (List Char) :=
  if encodedSign.isPrefixOf label then
    (Punycode.decode? (label.drop 4)).filter fun s =>
      !s.all isAscii && s.all (fate · == .kept) && nfc s == s
  else some label

/-- The two invisible joiners stand after a virama, and the non-joiner also between letters that
would join. `before` is what precedes the character, nearest first. -/
def joinersFit (before : List Char) : List Char → Bool
  | [] => true
  | c :: rest =>
    let afterVirama := (before.head?.map isVirama).getD false
    let fits :=
      if c.toNat == 0x200D then afterVirama
      else if c.toNat == 0x200C then
        afterVirama ||
          (((before.dropWhile isTransparent).head?.map joinsAfter).getD false &&
            ((rest.dropWhile isTransparent).head?.map joinsBefore).getD false)
      else true
    fits && joinersFit (c :: before) rest

/-- A decoded label is well formed: composed, not begun by a combining mark, joiners in place. -/
def isWellFormed (label : List Char) : Bool :=
  label.all isAscii ||
    (!((label.head?.map isMark).getD false) && joinersFit [] label)

/-- A letter of a left-to-right script. -/
def isLeftToRight (c : Char) : Bool :=
  !(isRightToLeft c || isArabicDigit c || isEuropeanDigit c || isNonspacing c || isNeutral c ||
    isSpacing c)

/-- The label holds a character of a right-to-left script. -/
def isDirected (label : List Char) : Bool := label.any fun c => isRightToLeft c || isArabicDigit c

/-- The rule for labels of a name with right-to-left characters: one direction throughout, and a
letter or digit of that direction at both ends. -/
def directionFits (label : List Char) : Bool :=
  let ending := ((label.reverse.dropWhile isNonspacing).head?)
  match label with
  | [] => true
  | c :: _ =>
    if isRightToLeft c then
      label.all (fun d => isRightToLeft d || isArabicDigit d || isEuropeanDigit d ||
        isNonspacing d || isNeutral d) &&
      ((ending.map fun d => isRightToLeft d || isArabicDigit d || isEuropeanDigit d).getD false) &&
      !(label.any isArabicDigit && label.any isEuropeanDigit)
    else if isLeftToRight c then
      label.all (fun d => isLeftToRight d || isEuropeanDigit d || isNonspacing d || isNeutral d) &&
      ((ending.map fun d => isLeftToRight d || isEuropeanDigit d).getD false)
    else false

/-- The ASCII form of a label whose decoded form is `decoded`. -/
def encodedLabel (decoded : List Char) : List Char :=
  if decoded.all isAscii then decoded else encodedSign ++ Punycode.encode decoded

/-- The ASCII form of a name that needs the table. -/
def tableForm? (s : List Char) : Option (List Char) := do
  let labels := Text.splitAll '.' (nfc (← mapped? s))
  let decoded ← labels.mapM decodedLabel?
  if decoded.all isWellFormed && (!decoded.any isDirected || decoded.all directionFits) &&
      !decoded.any (·.any isForbidden) then
    some (List.intercalate ['.'] (decoded.map encodedLabel))
  else none

/-- The ASCII form of a name. -/
def toAscii? (s : List Char) : Option (List Char) :=
  let lower := s.map Char.toLower
  if (Text.splitAll '.' lower).all isPlainLabel then
    if lower.any isForbidden then none else some lower
  else tableForm? s

end TagCatalog.Url.Domain
