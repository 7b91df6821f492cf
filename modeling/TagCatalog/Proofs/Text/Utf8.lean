import Mathlib.Order.Nat
import TagCatalog.Text.Utf8

/-!
# Texts are read from their bytes

A character is one to four bytes. The first one says how many follow, and bounds the second where
a shorter form or a surrogate would begin alike; every other byte carries six bits. So the bytes of
a character are read as this character whatever stands behind them, and the bytes of a text as the
text.

* `Text.Utf8.first_of_two`, `Text.Utf8.first_of_three`, `Text.Utf8.first_of_four`: what a first byte
  says of the others;
* `Text.Utf8.decodeFrom_encodeChar`: one character in front of any bytes;
* **`Text.Utf8.decode_encode`**, `Text.Utf8.decodeLossy_encode`, `Text.Utf8.decode?_encode`: a whole
  text.
-/

namespace TagCatalog.Text.Utf8

variable {low high value m n : Nat}

/-! ## One byte -/

theorem toNat_byte (h : n < 256) : (UInt8.ofNat n).toNat = n := by
  rw [UInt8.toNat_ofNat']
  exact Nat.mod_eq_of_lt h

theorem decodeFrom_last (hlow : low ≤ m) (hhigh : m ≤ high) (hm : m < 256) (rest : List UInt8) :
    decodeFrom (some ⟨1, low, high, value⟩) (UInt8.ofNat m :: rest) =
      some (Char.ofNat (value * 64 + (m - 0x80))) :: decodeFrom none rest := by
  simp only [decodeFrom, toNat_byte hm]
  rw [if_pos ⟨hlow, hhigh⟩, if_pos (Nat.le_refl 1)]

theorem decodeFrom_more (hlow : low ≤ m) (hhigh : m ≤ high) (hm : m < 256) (owed : Nat)
    (rest : List UInt8) :
    decodeFrom (some ⟨owed + 2, low, high, value⟩) (UInt8.ofNat m :: rest) =
      decodeFrom (some ⟨owed + 1, 0x80, 0xBF, value * 64 + (m - 0x80)⟩) rest := by
  simp only [decodeFrom, toNat_byte hm]
  rw [if_pos ⟨hlow, hhigh⟩, if_neg (by omega)]
  rfl

theorem decodeFrom_first {p : Pending} (hm : m < 256) (h : first m = some (.inr p))
    (rest : List UInt8) : decodeFrom none (UInt8.ofNat m :: rest) = decodeFrom (some p) rest := by
  simp only [decodeFrom, toNat_byte hm, h]

theorem first_of_two (h : 0xC2 ≤ n) (h' : n ≤ 0xDF) :
    first n = some (.inr ⟨1, 0x80, 0xBF, n - 0xC0⟩) := by
  rw [first, if_neg (by omega), if_pos ⟨h, h'⟩]

/-- Behind `E0` shorter forms are shut out, behind `ED` surrogates. -/
theorem first_of_three (h : 0xE0 ≤ n) (h' : n ≤ 0xEF) :
    first n = some (.inr ⟨2, if n = 0xE0 then 0xA0 else 0x80, if n = 0xED then 0x9F else 0xBF,
      n - 0xE0⟩) := by
  by_cases hlow : n = 0xE0
  · subst hlow
    rfl
  by_cases hhigh : n = 0xED
  · subst hhigh
    rfl
  rw [first, if_neg (by omega), if_neg (by omega), if_neg hlow, if_neg hhigh,
    if_pos ⟨by omega, h'⟩, if_neg hlow, if_neg hhigh]

/-- Behind `F0` shorter forms are shut out, behind `F4` what is beyond the last character. -/
theorem first_of_four (h : 0xF0 ≤ n) (h' : n ≤ 0xF4) :
    first n = some (.inr ⟨3, if n = 0xF0 then 0x90 else 0x80, if n = 0xF4 then 0x8F else 0xBF,
      n - 0xF0⟩) := by
  by_cases hlow : n = 0xF0
  · subst hlow
    rfl
  by_cases hhigh : n = 0xF4
  · subst hhigh
    rfl
  rw [first, if_neg (by omega), if_neg (by omega), if_neg (by omega), if_neg (by omega),
    if_neg (by omega), if_neg hlow, if_pos ⟨by omega, by omega⟩, if_neg hlow, if_neg hhigh]

/-! ## One character -/

theorem decodeFrom_one (h : n ≤ 0x7F) (rest : List UInt8) :
    decodeFrom none (UInt8.ofNat n :: rest) = some (Char.ofNat n) :: decodeFrom none rest := by
  have hfirst : first n = some (.inl (Char.ofNat n)) := by
    rw [first, if_pos (by omega)]
  simp only [decodeFrom, toNat_byte (n := n) (by omega), hfirst]

theorem decodeFrom_two (h : 0x7F < n) (h' : n ≤ 0x7FF) (rest : List UInt8) :
    decodeFrom none (UInt8.ofNat (n / 64 % 32 + 192) :: UInt8.ofNat (n % 64 + 128) :: rest) =
      some (Char.ofNat n) :: decodeFrom none rest := by
  have hvalue : (n / 64 % 32 + 192 - 0xC0) * 64 + (n % 64 + 128 - 0x80) = n := by omega
  rw [decodeFrom_first (by omega) (first_of_two (by omega) (by omega)),
    decodeFrom_last (by omega) (by omega) (by omega), hvalue]

theorem decodeFrom_three (h : 0x7FF < n) (h' : n ≤ 0xFFFF) (hvalid : n < 0xD800 ∨ 0xDFFF < n)
    (rest : List UInt8) :
    decodeFrom none (UInt8.ofNat (n / 4096 % 16 + 224) :: UInt8.ofNat (n / 64 % 64 + 128) ::
        UInt8.ofNat (n % 64 + 128) :: rest) = some (Char.ofNat n) :: decodeFrom none rest := by
  have hvalue : ((n / 4096 % 16 + 224 - 0xE0) * 64 + (n / 64 % 64 + 128 - 0x80)) * 64 +
      (n % 64 + 128 - 0x80) = n := by omega
  rw [decodeFrom_first (by omega) (first_of_three (by omega) (by omega)),
    decodeFrom_more (by split_ifs <;> omega) (by split_ifs <;> omega) (by omega) 0,
    decodeFrom_last (by omega) (by omega) (by omega), hvalue]

theorem decodeFrom_four (h : 0xFFFF < n) (h' : n < 0x110000) (rest : List UInt8) :
    decodeFrom none (UInt8.ofNat (n / 262144 % 8 + 240) :: UInt8.ofNat (n / 4096 % 64 + 128) ::
        UInt8.ofNat (n / 64 % 64 + 128) :: UInt8.ofNat (n % 64 + 128) :: rest) =
      some (Char.ofNat n) :: decodeFrom none rest := by
  have hvalue : (((n / 262144 % 8 + 240 - 0xF0) * 64 + (n / 4096 % 64 + 128 - 0x80)) * 64 +
      (n / 64 % 64 + 128 - 0x80)) * 64 + (n % 64 + 128 - 0x80) = n := by omega
  rw [decodeFrom_first (by omega) (first_of_four (by omega) (by omega)),
    decodeFrom_more (by split_ifs <;> omega) (by split_ifs <;> omega) (by omega) 1,
    decodeFrom_more (by omega) (by omega) (by omega) 0,
    decodeFrom_last (by omega) (by omega) (by omega), hvalue]

/-- **The bytes of a character are read as the character**, whatever stands behind them. -/
theorem decodeFrom_encodeChar (c : Char) (rest : List UInt8) :
    decodeFrom none (String.utf8EncodeChar c ++ rest) = some c :: decodeFrom none rest := by
  have hvalid : c.val.toNat < 0xD800 ∨ 0xDFFF < c.val.toNat ∧ c.val.toNat < 0x110000 := c.valid
  have hc : Char.ofNat c.val.toNat = c := Char.ofNat_toNat c
  simp only [String.utf8EncodeChar]
  split_ifs with h1 h2 h3
  · exact (decodeFrom_one h1 rest).trans (by rw [hc])
  · exact (decodeFrom_two (by omega) h2 rest).trans (by rw [hc])
  · exact (decodeFrom_three (by omega) h3 (by omega) rest).trans (by rw [hc])
  · exact (decodeFrom_four (by omega) (by omega) rest).trans (by rw [hc])

/-! ## A whole text -/

/-- **The bytes of a text are read as the text.** -/
theorem decode_encode (s : List Char) : decode (encode s) = s.map some := by
  induction s with
  | nil => rfl
  | cons c s ih =>
    rw [decode] at ih
    rw [decode, encode, List.flatMap_cons, decodeFrom_encodeChar, ← encode, ih, List.map_cons]

theorem decodeLossy_encode (s : List Char) : decodeLossy (encode s) = s := by
  rw [decodeLossy, decode_encode, List.map_map]
  exact List.map_id s

theorem decode?_encode (s : List Char) : decode? (encode s) = some s := by
  rw [decode?, decode_encode]
  induction s with
  | nil => rfl
  | cons c s ih =>
    rw [List.map_cons, List.mapM_cons, ih]
    rfl

end TagCatalog.Text.Utf8
