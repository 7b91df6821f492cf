/-!
# UTF-8

* `Utf8.encode`: the bytes of a text;
* `Utf8.decode`: the characters of a byte string, with `none` for each maximal run of bytes that
  can begin no character;
* `Utf8.decodeLossy`: the same with U+FFFD for each such run;
* `Utf8.decode?`: the text of a byte string that holds no such run.
-/

namespace TagCatalog.Text.Utf8

/-- The bytes of a text. -/
def encode (s : List Char) : List UInt8 := s.flatMap String.utf8EncodeChar

/-- A character begun but not finished: the bytes still owed, the range the next one must lie in,
and the value of the bits read so far. -/
structure Pending where
  owed : Nat
  low : Nat
  high : Nat
  value : Nat

/-- What the first byte of a character begins: a whole character, a longer one, or none. -/
def first (b : Nat) : Option (Char ⊕ Pending) :=
  if b < 0x80 then some (.inl (Char.ofNat b))
  else if 0xC2 ≤ b ∧ b ≤ 0xDF then some (.inr ⟨1, 0x80, 0xBF, b - 0xC0⟩)
  else if b = 0xE0 then some (.inr ⟨2, 0xA0, 0xBF, 0⟩)
  else if b = 0xED then some (.inr ⟨2, 0x80, 0x9F, 0xD⟩)
  else if 0xE1 ≤ b ∧ b ≤ 0xEF then some (.inr ⟨2, 0x80, 0xBF, b - 0xE0⟩)
  else if b = 0xF0 then some (.inr ⟨3, 0x90, 0xBF, 0⟩)
  else if 0xF1 ≤ b ∧ b ≤ 0xF3 then some (.inr ⟨3, 0x80, 0xBF, b - 0xF0⟩)
  else if b = 0xF4 then some (.inr ⟨3, 0x80, 0x8F, 4⟩)
  else none

/-- Decodes from the state after the bytes before. -/
def decodeFrom : Option Pending → List UInt8 → List (Option Char)
  | none, [] => []
  | some _, [] => [none]
  | none, b :: rest =>
    match first b.toNat with
    | none => none :: decodeFrom none rest
    | some (.inl c) => some c :: decodeFrom none rest
    | some (.inr p) => decodeFrom (some p) rest
  | some p, b :: rest =>
    if p.low ≤ b.toNat ∧ b.toNat ≤ p.high then
      let value := p.value * 64 + (b.toNat - 0x80)
      if p.owed ≤ 1 then some (Char.ofNat value) :: decodeFrom none rest
      else decodeFrom (some ⟨p.owed - 1, 0x80, 0xBF, value⟩) rest
    else
      none :: match first b.toNat with
        | none => none :: decodeFrom none rest
        | some (.inl c) => some c :: decodeFrom none rest
        | some (.inr q) => decodeFrom (some q) rest

/-- The characters of a byte string, `none` where the bytes begin no character. -/
def decode (bytes : List UInt8) : List (Option Char) := decodeFrom none bytes

/-- The characters of a byte string, U+FFFD where the bytes begin no character. -/
def decodeLossy (bytes : List UInt8) : List Char := (decode bytes).map fun c => c.getD '\uFFFD'

/-- The text of a byte string, if all of its bytes belong to characters. -/
def decode? (bytes : List UInt8) : Option (List Char) := (decode bytes).mapM id

end TagCatalog.Text.Utf8
