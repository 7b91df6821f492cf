import Mathlib.Algebra.Group.Int.Defs
import Mathlib.Data.List.Induction
import TagCatalog.Text.Numeral

/-!
# The values of numerals

A numeral grows at its end: one more digit makes its value ten times as large and adds the digit.
The readers of numerals accept what can be built in this way, and nothing else, whatever the zeros
in front; the numeral that is written for a number is one of these.

* `Text.Numeral`, `Text.SignedNumeral`: a numeral and its value;
* `Text.natural?_eq_some_iff`, `Text.signed?_eq_some_iff`: what is read as a number;
* **`Text.int64?_eq_some_iff`**: what is read as a word of 64 bits;
* **`Text.signedNumeral_toString`**: the numeral that is written for an integer;
* `Text.numeral_decimal`, `Text.head?_decimal`: the shortest numeral.
-/

namespace TagCatalog.Text

/-- A numeral and its value: one or more ASCII digits, most significant first. -/
inductive Numeral : List Char → Nat → Prop
  | digit {d : Nat} (hd : d < 10) : Numeral [digitChar d] d
  | concat {s : List Char} {n d : Nat} (hs : Numeral s n) (hd : d < 10) :
    Numeral (s ++ [digitChar d]) (10 * n + d)

/-- A numeral with at most one sign before it, and its value. -/
inductive SignedNumeral : List Char → Int → Prop
  | bare {s : List Char} {n : Nat} (hs : Numeral s n) : SignedNumeral s n
  | plus {s : List Char} {n : Nat} (hs : Numeral s n) : SignedNumeral ('+' :: s) n
  | minus {s : List Char} {n : Nat} (hs : Numeral s n) : SignedNumeral ('-' :: s) (-n)

variable {s : List Char} {c : Char} {n d : Nat}

/-! ## Digits -/

theorem isDigit_digitChar (hd : d < 10) : (digitChar d).isDigit = true := by
  revert d
  decide

theorem digitValue_digitChar (hd : d < 10) : digitValue (digitChar d) = d := by
  revert d
  decide

theorem exists_digitChar (hc : c.isDigit = true) : ∃ d < 10, c = digitChar d := by
  simp only [Char.isDigit, Bool.and_eq_true, decide_eq_true_eq, ge_iff_le,
    UInt32.le_iff_toNat_le] at hc
  have hlow : '0'.toNat ≤ c.toNat := hc.1
  have hhigh : c.toNat ≤ '0'.toNat + 9 := hc.2
  refine ⟨c.toNat - '0'.toNat, by omega, ?_⟩
  rw [digitChar, Nat.add_sub_cancel' hlow, Char.ofNat_toNat]

/-! ## Numerals -/

theorem digitsValue_concat (s : List Char) (c : Char) :
    digitsValue (s ++ [c]) = 10 * digitsValue s + digitValue c := by
  rw [digitsValue, List.foldl_append]
  rfl

theorem Numeral.spec (h : Numeral s n) :
    s ≠ [] ∧ (∀ c ∈ s, c.isDigit = true) ∧ digitsValue s = n := by
  induction h with
  | digit hd =>
    refine ⟨List.cons_ne_nil _ _, List.forall_mem_singleton.2 (isDigit_digitChar hd), ?_⟩
    exact (Nat.zero_add _).trans (digitValue_digitChar hd)
  | concat _ hd ih =>
    obtain ⟨-, hdigits, hvalue⟩ := ih
    refine ⟨List.append_ne_nil_of_right_ne_nil _ (List.cons_ne_nil _ _), ?_, ?_⟩
    · exact List.forall_mem_append.2 ⟨hdigits, List.forall_mem_singleton.2 (isDigit_digitChar hd)⟩
    · rw [digitsValue_concat, hvalue, digitValue_digitChar hd]

theorem numeral_of_forall (hs : s ≠ []) (h : ∀ c ∈ s, c.isDigit = true) :
    Numeral s (digitsValue s) := by
  induction s using List.reverseRecOn with
  | nil => exact absurd rfl hs
  | append_singleton s c ih =>
    rw [List.forall_mem_append, List.forall_mem_singleton] at h
    obtain ⟨d, hd, rfl⟩ := exists_digitChar h.2
    rw [digitsValue_concat, digitValue_digitChar hd]
    by_cases hnil : s = []
    · subst hnil
      have hzero : 10 * digitsValue [] + d = d := Nat.zero_add d
      rw [hzero]
      exact .digit hd
    · exact .concat (ih hnil h.1) hd

theorem natural?_eq_some_iff : natural? s = some n ↔ Numeral s n := by
  rw [natural?]
  constructor
  · intro h
    split at h
    · next hs =>
      cases h
      exact numeral_of_forall hs.1 (List.all_eq_true.1 hs.2)
    · nomatch h
  · intro h
    obtain ⟨hne, hdigits, hvalue⟩ := h.spec
    rw [if_pos ⟨hne, List.all_eq_true.2 hdigits⟩, hvalue]

/-! ## Signs -/

theorem map_natural?_eq_some_iff {f : Int → Int} {m : Int} :
    (natural? s >>= fun n => pure (n : Int)).map f = some m ↔
      ∃ n : Nat, Numeral s n ∧ m = f n := by
  simp only [← natural?_eq_some_iff]
  cases natural? s with
  | none => simp
  | some n => simp [eq_comm]

theorem Numeral.isDigit_head (h : Numeral (c :: s) n) : c.isDigit = true :=
  h.spec.2.1 c List.mem_cons_self

theorem signed?_eq_some_iff {m : Int} : signed? s = some m ↔ SignedNumeral s m := by
  constructor
  · intro h
    rw [signed?.eq_def] at h
    split at h
    · obtain ⟨n, hn, rfl⟩ := map_natural?_eq_some_iff.1 h
      exact .minus hn
    · obtain ⟨n, hn, rfl⟩ := map_natural?_eq_some_iff.1 h
      exact .plus hn
    · obtain ⟨n, hn, rfl⟩ := map_natural?_eq_some_iff.1 h
      exact .bare hn
  · intro h
    cases h with
    | plus hs | minus hs => exact map_natural?_eq_some_iff.2 ⟨_, hs, rfl⟩
    | bare hs =>
      rw [signed?]
      · exact map_natural?_eq_some_iff.2 ⟨_, hs, rfl⟩
      -- a sign is no digit
      · rintro t rfl
        nomatch hs.isDigit_head
      · rintro t rfl
        nomatch hs.isDigit_head

/-- **A text is read as a word of 64 bits** exactly if it is a signed numeral of its value. -/
theorem int64?_eq_some_iff {word : Int64} :
    int64? s = some word ↔ SignedNumeral s word.toInt := by
  rw [int64?, Option.bind_eq_some_iff]
  constructor
  · rintro ⟨m, hm, hword⟩
    rw [int64OfInt?] at hword
    split at hword
    · next hfits =>
      cases hword
      have hlow : -2 ^ 63 ≤ m := hfits.1
      have hhigh : m ≤ 2 ^ 63 - 1 := hfits.2
      rw [Int64.toInt_ofInt_of_le hlow (by omega)]
      exact signed?_eq_some_iff.1 hm
    · nomatch hword
  · intro h
    refine ⟨word.toInt, signed?_eq_some_iff.2 h, ?_⟩
    rw [int64OfInt?, if_pos ⟨word.minValue_le_toInt, word.toInt_le⟩, Int64.ofInt_toInt]

/-- A text is read as no word of 64 bits exactly if it is no signed numeral, or its value does not
fit. -/
theorem int64?_eq_none_iff :
    int64? s = none ↔ ∀ m, SignedNumeral s m → ¬ (-2 ^ 63 ≤ m ∧ m ≤ 2 ^ 63 - 1) := by
  rw [Option.eq_none_iff_forall_ne_some]
  constructor
  · rintro h m hm ⟨hlow, hhigh⟩
    refine h (Int64.ofInt m) (int64?_eq_some_iff.2 ?_)
    rwa [Int64.toInt_ofInt_of_le hlow (by omega)]
  · intro h word hword
    exact h _ (int64?_eq_some_iff.1 hword) ⟨word.minValue_le_toInt, word.toInt_le⟩

/-! ## The numeral that is written -/

theorem numeral_toDigits (n : Nat) : Numeral (Nat.toDigits 10 n) n := by
  have hdigits : ∀ c ∈ Nat.toDigits 10 n, c.isDigit = true := fun c hc =>
    Nat.isDigit_of_mem_toDigits (by decide) (by decide) hc
  have hvalue : digitsValue (Nat.toDigits 10 n) = n := Nat.ofDigitChars_ten_toDigits
  have h := numeral_of_forall Nat.toDigits_ne_nil hdigits
  rwa [hvalue] at h

/-- **The numeral that is written for an integer** has its value. -/
theorem signedNumeral_toString (m : Int) : SignedNumeral (toString m).toList m := by
  cases m with
  | ofNat n =>
    have htext : (toString (Int.ofNat n)).toList = Nat.toDigits 10 n := by
      show n.repr.toList = _
      rw [Nat.repr_eq_ofList_toDigits, String.toList_ofList]
    rw [htext]
    exact .bare (numeral_toDigits n)
  | negSucc n =>
    have htext : (toString (Int.negSucc n)).toList = '-' :: Nat.toDigits 10 (n + 1) := by
      show ("-" ++ (n + 1).repr).toList = _
      rw [Nat.repr_eq_ofList_toDigits, String.toList_append, String.toList_ofList,
        String.toList_ofList]
      rfl
    rw [htext]
    exact .minus (numeral_toDigits (n + 1))

/-! ## The shortest numeral -/

theorem numeral_decimal (n : Nat) : Numeral (decimal n) n := by
  induction n using decimal.induct with
  | case1 n h =>
    rw [decimal, if_pos h]
    exact .digit h
  | case2 n h ih =>
    have hnumeral := ih.concat (Nat.mod_lt n (by decide : 0 < 10))
    rw [Nat.div_add_mod] at hnumeral
    rwa [decimal, if_neg h]

theorem head?_decimal (h : 0 < n) : (decimal n).head? ≠ some '0' := by
  induction n using decimal.induct with
  | case1 n hn =>
    have hdigit : ∀ d < 10, 0 < d → some (digitChar d) ≠ some '0' := by decide
    rw [decimal, if_pos hn]
    exact hdigit n hn h
  | case2 n hn ih =>
    have hzero := ih (by omega)
    obtain ⟨c, s, hs⟩ := List.exists_cons_of_ne_nil (numeral_decimal (n / 10)).spec.1
    rw [hs] at hzero
    rwa [decimal, if_neg hn, hs, List.cons_append]

theorem mem_signedDecimal {m : Int} (h : c ∈ signedDecimal m) : c = '-' ∨ c.isDigit := by
  have hdigits := (numeral_decimal m.natAbs).spec.2.1
  rw [signedDecimal] at h
  split at h
  · exact (List.mem_cons.1 h).imp_right (hdigits c)
  · exact .inr (hdigits c h)

end TagCatalog.Text
