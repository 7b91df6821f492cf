import Mathlib.Data.List.TakeWhile
import TagCatalog.Json.Token
import TagCatalog.Proofs.Text.Numeral
import TagCatalog.Proofs.Text.Split
import TagCatalog.Record.Json

/-!
# Reading what is written in JSON

The scanner of JSON texts takes one character at a time. A part of a text that begins and ends
between tokens is read as the same tokens whatever follows it, so the tokens of a text are those of
its parts. A string is read back from its quoted form, whatever characters it holds, and a word of
64 bits from its numeral.

* `Json.Reads`: the tokens of a part of a text; `Reads.append`, `Reads.mark`, `Reads.word`;
* `Json.chars?_map_piece`: the characters of a string from its pieces;
* **`Json.Reads.quoted`**: the token of a quoted string;
* **`Json.word?_signedDecimal`**: the value of a numeral.
-/

namespace TagCatalog.Json

open Token

variable {s s' : List Char} {tokens tokens' : List Token} {c : Char} {n : Nat}

/-! ## Parts of a text -/

/-- A part of a text that is read as some tokens, whatever follows it. -/
def Reads (s : List Char) (tokens : List Token) : Prop :=
  ∀ rest, scanFrom? .between (s.map some ++ rest) = (scanFrom? .between rest).map (tokens ++ ·)

theorem Reads.append (h : Reads s tokens) (h' : Reads s' tokens') :
    Reads (s ++ s') (tokens ++ tokens') := fun rest => by
  rw [List.map_append, List.append_assoc, h, h', Option.map_map]
  simp [Function.comp_def]

theorem Reads.scan? (h : Reads s tokens) : Token.scan? (s.map some) = some tokens := by
  have hall := h []
  rw [List.append_nil] at hall
  rw [Token.scan?, hall]
  simp [scanFrom?, finish]

theorem scanFrom?_of_step {mode mode' : Mode} (h : step mode (some c) = some ([], mode'))
    (rest : List (Option Char)) : scanFrom? mode (some c :: rest) = scanFrom? mode' rest := by
  rw [scanFrom?, h]
  simp

theorem exists_mark (h : (mark? c).isSome) :
    c = '\x7b' ∨ c = '\x7d' ∨ c = '[' ∨ c = ']' ∨ c = ',' ∨ c = ':' := by
  by_contra hnot
  simp only [not_or] at hnot
  simp [mark?, hnot] at h

theorem start_of_mark {t : Token} (h : mark? c = some t) : start c = ([t], .between) := by
  obtain rfl | rfl | rfl | rfl | rfl | rfl := exists_mark (Option.isSome_of_mem h) <;>
    exact congrArg (fun t => (t.toList, Mode.between)) h

theorem Reads.mark {t : Token} (h : mark? c = some t) : Reads [c] [t] := fun rest => by
  rw [List.map_singleton, List.singleton_append, scanFrom?, step, start_of_mark h]
  rfl

/-! ## Words -/

/-- A character inside a word. -/
def isWordChar (c : Char) : Bool := !isSpace c && c != '"' && (mark? c).isNone

theorem scanFrom?_word {read : List Char} (h : ∀ c ∈ s, isWordChar c) (rest : List (Option Char)) :
    scanFrom? (.word read) (s.map some ++ rest) = scanFrom? (.word (s.reverse ++ read)) rest := by
  induction s generalizing read with
  | nil => rfl
  | cons c s ih =>
    obtain ⟨hc, hs⟩ := List.forall_mem_cons.1 h
    have hstep : step (.word read) (some c) = some ([], .word (c :: read)) := by
      simp only [isWordChar, Bool.and_eq_true, Bool.not_eq_true', bne_iff_ne, ne_eq,
        Option.isNone_iff_eq_none] at hc
      simp [step, hc]
    rw [List.map_cons, List.cons_append, scanFrom?_of_step hstep, ih hs, List.reverse_cons,
      List.append_assoc, List.singleton_append]

theorem Reads.word {v : Json} {t : Token} (hword : ∀ c ∈ s, isWordChar c) (hne : s ≠ [])
    (hv : word? s = some v) (ht : mark? c = some t) : Reads (s ++ [c]) [.scalar v, t] := by
  obtain ⟨d, s, rfl⟩ := List.exists_cons_of_ne_nil hne
  obtain ⟨hd, hs⟩ := List.forall_mem_cons.1 hword
  intro rest
  have hstart : step .between (some d) = some ([], .word [d]) := by
    simp only [isWordChar, Bool.and_eq_true, Bool.not_eq_true', bne_iff_ne, ne_eq,
      Option.isNone_iff_eq_none] at hd
    simp [step, start, hd]
  have hend : step (.word (s.reverse ++ [d])) (some c) = some ([.scalar v, t], .between) := by
    rw [step, if_pos (by simp [ht]), List.reverse_append, List.reverse_reverse,
      List.reverse_singleton, List.singleton_append, hv, start_of_mark ht]
    rfl
  rw [List.cons_append, List.map_cons, List.cons_append, scanFrom?_of_step hstart, List.map_append,
    List.append_assoc, scanFrom?_word hs, List.map_singleton, List.singleton_append, scanFrom?, hend]
  rfl

/-! ## Strings -/

/-- The piece that a character of a quoted string is read as. -/
def piece (c : Char) : Piece :=
  if c.toNat < 0x20 ∧ c ∉ ['\x08', '\x0c', '\n', '\r', '\t'] then .unit c.toNat else .char c

theorem hexValue?_lowerHexDigit : ∀ n < 16, Text.hexValue? (Text.lowerHexDigit n) = some n := by
  decide

variable {read : List Piece}

theorem step_quote (read : List Piece) :
    step (.string read) (some '"') = some ([.scalar (stringValue read)], .between) := rfl

theorem step_backslash (read : List Piece) :
    step (.string read) (some '\\') = some ([], .escape read) := rfl

theorem scanFrom?_escaped {e : Char} (h : escaped? e = some c) (hu : e ≠ 'u')
    (rest : List (Option Char)) :
    scanFrom? (.string read) (['\\', e].map some ++ rest) =
      scanFrom? (.string (.char c :: read)) rest := by
  have hstep : step (.escape read) (some e) = some ([], .string (.char c :: read)) := by
    simp [step, h, hu]
  rw [List.map_cons, List.cons_append, scanFrom?_of_step (step_backslash read), List.map_singleton,
    List.singleton_append, scanFrom?_of_step hstep]

theorem scanFrom?_control (h : n < 0x20) (rest : List (Option Char)) :
    scanFrom? (.string read) (['\\', 'u', '0', '0', Text.lowerHexDigit (n / 16),
      Text.lowerHexDigit (n % 16)].map some ++ rest) =
        scanFrom? (.string (.unit n :: read)) rest := by
  have hhigh := hexValue?_lowerHexDigit (n / 16) (by omega)
  have hlow := hexValue?_lowerHexDigit (n % 16) (Nat.mod_lt n (by decide))
  have hzero : Text.hexValue? '0' = some 0 := rfl
  have hn : n / 16 * 16 + n % 16 = n := Nat.div_add_mod' n 16
  rw [List.map_cons, List.cons_append, scanFrom?_of_step (step_backslash read)]
  simp [scanFrom?, step, hzero, hhigh, hlow, hn, Function.comp_def]

theorem scanFrom?_quotedChar (c : Char) (rest : List (Option Char)) :
    scanFrom? (.string read) ((quotedChar c).map some ++ rest) =
      scanFrom? (.string (piece c :: read)) rest := by
  by_cases hspecial : c ∈ ['"', '\\', '\x08', '\x0c', '\n', '\r', '\t']
  · simp only [List.mem_cons, List.not_mem_nil, or_false] at hspecial
    obtain rfl | rfl | rfl | rfl | rfl | rfl | rfl := hspecial <;>
      exact scanFrom?_escaped rfl (by decide) rest
  · simp only [List.mem_cons, List.not_mem_nil, or_false, not_or] at hspecial
    obtain ⟨hquote, hbackslash, hb, hf, hn, hr, ht⟩ := hspecial
    have hpiece : piece c = if c.toNat < 0x20 then .unit c.toNat else .char c := by
      simp [piece, hb, hf, hn, hr, ht]
    simp only [quotedChar, beq_iff_eq, hquote, hbackslash, hb, hf, hn, hr, ht, if_false, hpiece]
    split
    · next h => exact scanFrom?_control h rest
    · next h =>
      have hstep : step (.string read) (some c) = some ([], .string (.char c :: read)) := by
        simp [step, hquote, hbackslash, h]
      rw [List.map_singleton, List.singleton_append, scanFrom?_of_step hstep]

theorem chars?_unit (h : n < 0x20) (ps : List Piece) :
    Piece.chars? (.unit n :: ps) = (Piece.chars? ps).map (Char.ofNat n :: ·) := by
  have hhigh : isHighUnit n = false := by
    simp [isHighUnit]
    omega
  have hlow : isLowUnit n = false := by
    simp [isLowUnit]
    omega
  cases ps with
  | nil => simp [Piece.chars?, hhigh, hlow]
  | cons p ps => simp [Piece.chars?, hhigh, hlow]

/-- The pieces of a string give its characters back. -/
theorem chars?_map_piece (s : List Char) : Piece.chars? (s.map piece) = some s := by
  induction s with
  | nil => rfl
  | cons c s ih =>
    rw [List.map_cons, piece]
    split
    · next h => rw [chars?_unit h.1, ih, Option.map_some, Char.ofNat_toNat]
    · rw [Piece.chars?, ih, Option.map_some]

theorem scanFrom?_quotedChars (s : List Char) (rest : List (Option Char)) :
    scanFrom? (.string read) ((s.flatMap quotedChar).map some ++ rest) =
      scanFrom? (.string ((s.map piece).reverse ++ read)) rest := by
  induction s generalizing read with
  | nil => rfl
  | cons c s ih =>
    rw [List.flatMap_cons, List.map_append, List.append_assoc, scanFrom?_quotedChar, ih,
      List.map_cons, List.reverse_cons, List.append_assoc, List.singleton_append]

/-- **A string is read back from its quoted form.** -/
theorem Reads.quoted (s : String) : Reads (Json.quoted s) [.scalar (.text (some s))] := by
  intro rest
  have hstart : step .between (some '"') = some ([], .string []) := rfl
  have hvalue : stringValue ((s.toList.map piece).reverse ++ []) = .text (some s) := by
    rw [stringValue, List.append_nil, List.reverse_reverse, chars?_map_piece, Option.map_some,
      String.ofList_toList]
  rw [Json.quoted, List.map_append, List.map_cons, List.cons_append, List.cons_append,
    scanFrom?_of_step hstart, List.append_assoc, scanFrom?_quotedChars]
  rw [List.map_singleton, List.singleton_append, scanFrom?, step_quote, hvalue]
  rfl

/-! ## Numbers -/

theorem number?_digits (hne : s ≠ []) (hdigits : ∀ c ∈ s, c.isDigit)
    (hzero : s.head? = some '0' → s = ['0']) (negative : Bool) :
    number? (if negative then '-' :: s else s) =
      some (integerValue negative (Text.digitsValue s)) := by
  have htake : s.takeWhile Char.isDigit = s := List.takeWhile_eq_self_iff.2 hdigits
  have hdrop : s.dropWhile Char.isDigit = [] := List.dropWhile_eq_nil_iff.2 hdigits
  have hsign : (s.head? == some '-') = false := by
    rw [beq_eq_false_iff_ne]
    intro hhead
    exact absurd (hdigits '-' (List.mem_of_mem_head? hhead)) (by decide)
  cases negative with
  | true => simpa [number?, htake, hdrop, hne] using hzero
  | false => simpa [number?, htake, hdrop, hne, hsign] using hzero

theorem number?_decimal (negative : Bool) (n : Nat) :
    number? (if negative then '-' :: Text.decimal n else Text.decimal n) =
      some (integerValue negative n) := by
  obtain ⟨hne, hdigits, hvalue⟩ := (Text.numeral_decimal n).spec
  rw [number?_digits hne hdigits (fun hhead => ?_), hvalue]
  obtain rfl | hpos := Nat.eq_zero_or_pos n
  · rw [Text.decimal]
    rfl
  · exact absurd hhead (Text.head?_decimal hpos)

theorem isSome_int64OfInt? (secs : Int64) : (Text.int64OfInt? secs.toInt).isSome := by
  rw [Text.int64OfInt?, if_pos ⟨secs.minValue_le_toInt, secs.toInt_le⟩]
  rfl

/-- **A word of 64 bits is read back from its numeral.** -/
theorem word?_signedDecimal (secs : Int64) :
    word? (Text.signedDecimal secs.toInt) = some (.integer secs.toInt) := by
  have hword : ∀ t : List Char, (∃ c ∈ t, c ≠ '-' ∧ ¬ c.isDigit) →
      Text.signedDecimal secs.toInt ≠ t := by
    rintro _ ⟨c, hc, hsign, hdigit⟩ rfl
    exact (Text.mem_signedDecimal hc).elim hsign hdigit
  rw [word?, if_neg (hword _ ⟨'t', by decide⟩), if_neg (hword _ ⟨'f', by decide⟩),
    if_neg (hword _ ⟨'n', by decide⟩), Text.signedDecimal]
  split
  · next hneg =>
    have hvalue : -(secs.toInt.natAbs : Int) = secs.toInt := by omega
    refine (number?_decimal true secs.toInt.natAbs).trans ?_
    rw [integerValue, if_pos rfl, hvalue,
      if_pos ⟨by omega, isSome_int64OfInt? secs⟩]
  · have hvalue : (secs.toInt.natAbs : Int) = secs.toInt := by omega
    have hfits : secs.toInt.natAbs < UInt64.size := by
      have hlt : secs.toInt < 2 ^ 63 := secs.toInt_lt
      have hsize : UInt64.size = 2 ^ 64 := rfl
      omega
    refine (number?_decimal false secs.toInt.natAbs).trans ?_
    rw [integerValue, if_neg (by decide), if_pos hfits, hvalue]

end TagCatalog.Json
