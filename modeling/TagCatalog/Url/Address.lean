import TagCatalog.Text.Split
import TagCatalog.Text.Numeral
import TagCatalog.Url.Percent

/-!
# IP addresses in URLs

* `Ipv4.endsInNumber`: a host whose last label is a number is an IPv4 address or nothing;
* `Ipv4.parse?`, `Ipv4.text`: up to four numbers, decimal, octal after `0` or hexadecimal after
  `0x`, the last one filling the bytes that are left; written as four decimal bytes;
* `Ipv6.parse?`, `Ipv6.text`: eight pieces of 16 bits; the first longest run of two or more zero
  pieces is written `::`.
-/

namespace TagCatalog.Url

namespace Ipv4

/-- The value of a digit below `base`. -/
def digit? (base : Nat) (c : Char) : Option Nat := (Text.hexValue? c).filter (· < base)

/-- The base of a number and its digits. -/
def basedDigits : List Char → Nat × List Char
  | '0' :: 'x' :: s => (16, s)
  | '0' :: 'X' :: s => (16, s)
  | '0' :: c :: s => (8, c :: s)
  | s => (10, s)

/-- The value of a number; a bare base sign is zero. -/
def number? (s : List Char) : Option Nat :=
  if s = [] then none
  else
    let (base, digits) := basedDigits s
    (digits.mapM (digit? base)).map fun ds => ds.foldl (fun n d => base * n + d) 0

/-- The labels of a host, without the empty one after a final dot. -/
def labels (host : List Char) : List (List Char) :=
  let parts := Text.splitAll '.' host
  if parts.getLast? = some [] then parts.dropLast else parts

/-- The last label is a number. -/
def endsInNumber (host : List Char) : Bool :=
  match (labels host).getLast? with
  | some last => (last != [] && last.all Char.isDigit) || (number? last).isSome
  | none => false

/-- The value of up to four numbers; the last one fills the bytes that are left. -/
def combine? (numbers : List Nat) : Option Nat :=
  match numbers.getLast? with
  | none => none
  | some last =>
    let leading := numbers.dropLast
    if leading.length ≤ 3 ∧ leading.all (· ≤ 255) ∧ last < Nat.pow 256 (4 - leading.length) then
      some (leading.foldl (fun n b => 256 * n + b) 0 * Nat.pow 256 (4 - leading.length) + last)
    else none

/-- The address of a host whose last label is a number. -/
def parse? (host : List Char) : Option Nat := ((labels host).mapM number?).bind combine?

/-- Four decimal bytes. -/
def text (address : Nat) : List Char :=
  List.intercalate ['.'] <|
    [address / 0x1000000 % 256, address / 0x10000 % 256, address / 0x100 % 256, address % 256].map
      Text.decimal

end Ipv4

namespace Ipv6

/-- A piece: one to four hexadecimal digits. -/
def piece? (s : List Char) : Option Nat :=
  if s ≠ [] ∧ s.length ≤ 4 then
    (s.mapM Text.hexValue?).map fun ds => ds.foldl (fun n d => 16 * n + d) 0
  else none

/-- A decimal byte without leading zeros. -/
def byte? (s : List Char) : Option Nat :=
  if s.head? = some '0' ∧ s ≠ ['0'] then none
  else (Text.natural? s).filter (· ≤ 255)

/-- The two pieces of four decimal bytes. -/
def embedded? (s : List Char) : Option (List Nat) := do
  match ← (Text.splitAll '.' s).mapM byte? with
  | [a, b, c, d] => some [256 * a + b, 256 * c + d]
  | _ => none

/-- Pieces separated by colons; four decimal bytes may stand for the last two where `last` says
that the address ends here. -/
def pieces? (last : Bool) (s : List Char) : Option (List Nat) :=
  if s = [] then some []
  else
    let parts := Text.splitAll ':' s
    match parts.getLast? with
    | none => none
    | some final => do
      let front ← parts.dropLast.mapM piece?
      let back ← if last && final.contains '.' then embedded? final
        else (piece? final).map fun n => [n]
      return front ++ back

/-- The text before and after the first `::`. -/
def splitGap? : List Char → Option (List Char × List Char)
  | ':' :: ':' :: s => some ([], s)
  | c :: s => (splitGap? s).map fun p => (c :: p.1, p.2)
  | [] => none

/-- The eight pieces of an address; `::` stands for one or more zero pieces. -/
def parse? (s : List Char) : Option (List Nat) :=
  match splitGap? s with
  | none => (pieces? true s).filter (·.length = 8)
  | some (before, after) => do
    let front ← pieces? false before
    let back ← pieces? true after
    if front.length + back.length ≤ 7 then
      some (front ++ List.replicate (8 - front.length - back.length) 0 ++ back)
    else none

/-- The length of the run of zeros at the start. -/
def zeroRun (pieces : List Nat) : Nat := (pieces.takeWhile (· == 0)).length

/-- The start and length of the first longest run of zeros, counted from `start`. -/
def longestRun : Nat → List Nat → Nat × Nat
  | start, [] => (start, 0)
  | start, p :: ps =>
    let rest := longestRun (start + 1) ps
    let here := zeroRun (p :: ps)
    if rest.2 ≤ here then (start, here) else rest

/-- The text of an address. -/
def text (pieces : List Nat) : List Char :=
  let joined := fun ps : List Nat => List.intercalate [':'] (ps.map Text.lowerHex)
  let (start, length) := longestRun 0 pieces
  if length ≤ 1 then joined pieces
  else joined (pieces.take start) ++ ':' :: ':' :: joined (pieces.drop (start + length))

end Ipv6

end TagCatalog.Url
