import TagCatalog.Json
import TagCatalog.Text.Hex
import TagCatalog.Text.Split

/-!
# JSON tokens

The tokens of a JSON text, read one character at a time. The text is a list of characters in which
`none` stands for bytes that are no UTF-8; such a spot is allowed inside a string only, and makes
the string unreadable.

* `Token`, `Token.scan?`;
* `Piece`, `Piece.text?`: the contents of a string with its escapes resolved;
* `number?`: the grammar of numbers.
-/

namespace TagCatalog.Json

/-- What a string is made of: characters, UTF-16 units given by `\u` escapes, unreadable bytes. -/
inductive Piece where
  | char (c : Char)
  | unit (n : Nat)
  | unreadable

/-- The first unit of a surrogate pair. -/
def isHighUnit (n : Nat) : Bool := 0xD800 ≤ n && n ≤ 0xDBFF

/-- The second unit of a surrogate pair. -/
def isLowUnit (n : Nat) : Bool := 0xDC00 ≤ n && n ≤ 0xDFFF

/-- The characters of the pieces of a string, if every piece belongs to a character. -/
def Piece.chars? : List Piece → Option (List Char)
  | [] => some []
  | .char c :: rest => (chars? rest).map (c :: ·)
  | .unreadable :: _ => none
  | [.unit n] => if isHighUnit n || isLowUnit n then none else some [Char.ofNat n]
  | .unit n :: next :: rest =>
    if isHighUnit n then
      match next with
      | .unit m =>
        if isLowUnit m then
          (chars? rest).map (Char.ofNat (0x10000 + (n - 0xD800) * 0x400 + (m - 0xDC00)) :: ·)
        else none
      | _ => none
    else if isLowUnit n then none
    else (chars? (next :: rest)).map (Char.ofNat n :: ·)

/-- A token: a mark that stands for itself, or a whole scalar value. -/
inductive Token where
  | openObject
  | closeObject
  | openArray
  | closeArray
  | comma
  | colon
  | scalar (value : Json)

/-- Where the scanner stands: between tokens, in a word, in a string, after its backslash, or in
the four digits of a `\u` escape. What has been read is kept newest first. -/
inductive Mode where
  | between
  | word (read : List Char)
  | string (read : List Piece)
  | escape (read : List Piece)
  | digits (read : List Piece) (count value : Nat)

/-- The blanks between tokens. -/
def isSpace (c : Char) : Bool := c == ' ' || c == '\n' || c == '\t' || c == '\r'

/-- The mark that a character is by itself. -/
def mark? (c : Char) : Option Token :=
  if c == '\x7b' then some .openObject
  else if c == '\x7d' then some .closeObject
  else if c == '[' then some .openArray
  else if c == ']' then some .closeArray
  else if c == ',' then some .comma
  else if c == ':' then some .colon
  else none

/-- The character that a backslash and this one stand for. -/
def escaped? (c : Char) : Option Char :=
  if c == '"' || c == '\\' || c == '/' then some c
  else if c == 'b' then some '\x08'
  else if c == 'f' then some '\x0c'
  else if c == 'n' then some '\n'
  else if c == 'r' then some '\r'
  else if c == 't' then some '\t'
  else none

/-- The exponent of a number, which may be missing. -/
def isExponent : List Char → Bool
  | [] => true
  | e :: s =>
    let digits := match s with
      | '+' :: t => t
      | '-' :: t => t
      | t => t
    (e == 'e' || e == 'E') && digits != [] && digits.all Char.isDigit

/-- The fraction and exponent of a number, which may be missing. -/
def isFraction : List Char → Bool
  | '.' :: s => s.takeWhile Char.isDigit != [] && isExponent (s.dropWhile Char.isDigit)
  | s => isExponent s

/-- The value of an integer literal: exact in the range of 64 bits, and `-0` is no integer. -/
def integerValue (negative : Bool) (n : Nat) : Json :=
  if negative then
    if 0 < n ∧ (Text.int64OfInt? (-(n : Int))).isSome then .integer (-(n : Int)) else .real
  else if n < UInt64.size then .integer n
  else .real

/-- Reads a number: no sign but `-`, no leading zero, digits on both sides of a point. -/
def number? (s : List Char) : Option Json :=
  let negative := s.head? == some '-'
  let body := if negative then s.drop 1 else s
  let whole := body.takeWhile Char.isDigit
  let rest := body.dropWhile Char.isDigit
  if whole = [] ∨ (whole.head? = some '0' ∧ whole ≠ ['0']) then none
  else if rest = [] then some (integerValue negative (Text.digitsValue whole))
  else if isFraction rest then some .real
  else none

/-- The value of a word. -/
def word? (s : List Char) : Option Json :=
  if s = "true".toList then some (.bool true)
  else if s = "false".toList then some (.bool false)
  else if s = "null".toList then some .null
  else number? s

/-- The value of a string read to its end. -/
def stringValue (read : List Piece) : Json :=
  .text ((Piece.chars? read.reverse).map String.ofList)

namespace Token

/-- A character between tokens. -/
def start (c : Char) : List Token × Mode :=
  if isSpace c then ([], .between)
  else if c == '"' then ([], .string [])
  else match mark? c with
    | some t => ([t], .between)
    | none => ([], .word [c])

/-- One character: the tokens it completes and the mode after it. -/
def step : Mode → Option Char → Option (List Token × Mode)
  | .between, some c => some (start c)
  | .word read, some c =>
    if isSpace c || c == '"' || (mark? c).isSome then
      (word? read.reverse).map fun v => (.scalar v :: (start c).1, (start c).2)
    else some ([], .word (c :: read))
  | .string read, some c =>
    if c == '"' then some ([.scalar (stringValue read)], .between)
    else if c == '\\' then some ([], .escape read)
    else if c.toNat < 0x20 then none
    else some ([], .string (.char c :: read))
  | .string read, none => some ([], .string (.unreadable :: read))
  | .escape read, some c =>
    if c == 'u' then some ([], .digits read 0 0)
    else (escaped? c).map fun e => ([], .string (.char e :: read))
  | .digits read count value, some c =>
    (Text.hexValue? c).map fun d =>
      let value := value * 16 + d
      ([], if count = 3 then .string (.unit value :: read) else .digits read (count + 1) value)
  | _, none => none

/-- The end of the text: the tokens it completes. -/
def finish : Mode → Option (List Token)
  | .between => some []
  | .word read => (word? read.reverse).map fun v => [.scalar v]
  | _ => none

/-- The tokens of a text from a mode on. -/
def scanFrom? : Mode → List (Option Char) → Option (List Token)
  | mode, [] => finish mode
  | mode, c :: rest =>
    (step mode c).bind fun r => (scanFrom? r.2 rest).map (r.1 ++ ·)

/-- The tokens of a text. -/
def scan? (s : List (Option Char)) : Option (List Token) := scanFrom? .between s

end Token

end TagCatalog.Json
