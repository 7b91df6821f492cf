import Mathlib.Computability.MyhillNerode
import Mathlib.Order.CompletePartialOrder
import TagCatalog.Proofs.Text.Split

/-!
# Languages of texts

Grammars are written down as languages over characters, with the operations of a Kleene algebra.

* `Text.charOf`, `Text.many1`, `Text.separated`, `Text.separatedBy`: the texts of one character, one
  or more texts in a row, and texts with separators between them;
* `Text.leftQuotient_add`, `Text.leftQuotient_mul_of_nil`, `Text.leftQuotient_kstar`: what may
  follow a first character;
* `Text.charOf_le`, `Text.single_le`, `Text.mul_le`, `Text.separated_le`: texts over an alphabet;
* **`Text.mem_separatedBy_iff`**, `Text.mem_separated_iff`: the texts between separators are the
  pieces that a text is split into.
-/

namespace TagCatalog.Text

open Computability

/-- The texts of one character of a class. -/
def charOf (p : Char → Bool) : Language Char := {s | ∃ c, p c ∧ s = [c]}

/-- One or more texts of a language in a row. -/
def many1 (l : Language Char) : Language Char := l * l∗

/-- Texts of a language with a character of a class between them. -/
def separatedBy (p : Char → Bool) (l : Language Char) : Language Char := l * (charOf p * l)∗

/-- Texts of a language with a character between them. -/
def separated (d : Char) (l : Language Char) : Language Char := l * ({[d]} * l)∗

variable {p : Char → Bool} {c d : Char} {s : List Char} {l m : Language Char}

theorem mem_charOf_iff : s ∈ charOf p ↔ ∃ c, p c ∧ s = [c] := Iff.rfl

theorem mem_singleton_iff {t : List Char} : s ∈ ({t} : Language Char) ↔ s = t := Iff.rfl

/-! ## What may follow a first character -/

theorem leftQuotient_add (l m : Language Char) (c : Char) :
    (l + m).leftQuotient [c] = l.leftQuotient [c] + m.leftQuotient [c] := rfl

theorem leftQuotient_one (c : Char) : (1 : Language Char).leftQuotient [c] = 0 := by
  ext s
  simp [Language.mem_one]

theorem leftQuotient_charOf (p : Char → Bool) (c : Char) :
    (charOf p).leftQuotient [c] = if p c then 1 else 0 := by
  ext s
  rw [Language.mem_leftQuotient, mem_charOf_iff]
  split_ifs with hc
  · rw [Language.mem_one]
    constructor
    · rintro ⟨_, -, h⟩
      exact (List.cons_eq_cons.1 h).2
    · rintro rfl
      exact ⟨c, hc, rfl⟩
  · refine iff_of_false ?_ (Language.notMem_zero s)
    rintro ⟨_, hp, h⟩
    obtain ⟨rfl, -⟩ := List.cons_eq_cons.1 h
    exact hc hp

theorem leftQuotient_single (d c : Char) :
    ({[d]} : Language Char).leftQuotient [c] = if c = d then 1 else 0 := by
  ext s
  rw [Language.mem_leftQuotient, mem_singleton_iff]
  split_ifs with hc
  · simp [Language.mem_one, hc]
  · simp [Language.notMem_zero, hc]

theorem cons_mem_mul_iff : c :: s ∈ l * m ↔
    s ∈ l.leftQuotient [c] * m ∨ [] ∈ l ∧ c :: s ∈ m := by
  constructor
  · rintro ⟨a, ha, b, hb, hab⟩
    cases a with
    | nil => exact .inr ⟨ha, by rwa [← show b = c :: s from hab]⟩
    | cons x a =>
      obtain ⟨rfl, rfl⟩ := List.cons_eq_cons.1 hab
      exact .inl ⟨a, ha, b, hb, rfl⟩
  · rintro (⟨a, ha, b, hb, rfl⟩ | ⟨hnil, hs⟩)
    · exact ⟨c :: a, ha, b, hb, rfl⟩
    · exact ⟨[], hnil, c :: s, hs, rfl⟩

theorem leftQuotient_mul_of_nil (h : [] ∈ l) (m : Language Char) (c : Char) :
    (l * m).leftQuotient [c] = l.leftQuotient [c] * m + m.leftQuotient [c] := by
  ext s
  rw [Language.mem_leftQuotient, List.singleton_append, cons_mem_mul_iff, Language.mem_add]
  simp [h]

theorem leftQuotient_mul_of_not_nil (h : [] ∉ l) (m : Language Char) (c : Char) :
    (l * m).leftQuotient [c] = l.leftQuotient [c] * m := by
  ext s
  rw [Language.mem_leftQuotient, List.singleton_append, cons_mem_mul_iff]
  simp [h]

theorem leftQuotient_kstar (l : Language Char) (c : Char) :
    l∗.leftQuotient [c] = l.leftQuotient [c] * l∗ := by
  ext s
  rw [Language.mem_leftQuotient, List.singleton_append]
  constructor
  · intro h
    obtain ⟨parts, hs, hparts⟩ := Language.mem_kstar_iff_exists_nonempty.1 h
    cases parts with
    | nil => nomatch hs
    | cons part parts =>
      obtain ⟨hpart, hne⟩ := hparts part List.mem_cons_self
      cases part with
      | nil => exact absurd rfl hne
      | cons x a =>
        obtain ⟨rfl, rfl⟩ := List.cons_eq_cons.1 hs
        refine ⟨a, hpart, parts.flatten, Language.join_mem_kstar fun y hy => ?_, rfl⟩
        exact (hparts y (List.mem_cons_of_mem _ hy)).1
  · rintro ⟨a, ha, b, hb, rfl⟩
    obtain ⟨parts, rfl, hparts⟩ := hb
    exact ⟨(c :: a) :: parts, rfl, List.forall_mem_cons.2 ⟨ha, hparts⟩⟩

theorem nil_mem_mul_iff : [] ∈ l * m ↔ [] ∈ l ∧ [] ∈ m := by
  simp [Language.mem_mul]

theorem nil_not_mem_charOf (p : Char → Bool) : [] ∉ charOf p := by
  rintro ⟨_, -, h⟩
  nomatch h

/-! ## Characters in a row -/

theorem mem_kstar_charOf_iff : s ∈ (charOf p)∗ ↔ s.all p := by
  induction s with
  | nil => simp [Language.nil_mem_kstar]
  | cons c s ih =>
    have hstep : c :: s ∈ (charOf p)∗ ↔ s ∈ (charOf p)∗.leftQuotient [c] := Iff.rfl
    rw [hstep, leftQuotient_kstar, leftQuotient_charOf]
    split_ifs with hc
    · rw [one_mul, ih]
      simp [hc]
    · simp [hc, Language.notMem_zero]

theorem mem_many1_charOf_iff : s ∈ many1 (charOf p) ↔ s ≠ [] ∧ s.all p := by
  cases s with
  | nil => simp [many1, nil_mem_mul_iff, nil_not_mem_charOf]
  | cons c s =>
    rw [many1, cons_mem_mul_iff, leftQuotient_charOf]
    split_ifs with hc
    · rw [one_mul, mem_kstar_charOf_iff]
      simp [hc, nil_not_mem_charOf]
    · rw [zero_mul]
      simp [hc, nil_not_mem_charOf, Language.notMem_zero]

/-! ## Texts over an alphabet -/

theorem charOf_le {q : Char → Bool} (h : ∀ c, q c → p c) : charOf q ≤ (charOf p)∗ := by
  rintro _ ⟨c, hc, rfl⟩
  exact mem_kstar_charOf_iff.2 (by simp [h c hc])

theorem single_le (h : p d) : ({[d]} : Language Char) ≤ (charOf p)∗ := by
  rintro _ rfl
  exact mem_kstar_charOf_iff.2 (by simp [h])

theorem mul_le (hl : l ≤ (charOf p)∗) (hm : m ≤ (charOf p)∗) : l * m ≤ (charOf p)∗ :=
  (mul_le_mul' hl hm).trans_eq (kstar_mul_kstar _)

theorem kstar_le (hl : l ≤ (charOf p)∗) : l∗ ≤ (charOf p)∗ :=
  (kstar_mono hl).trans_eq (kstar_idem _)

theorem many1_le (hl : l ≤ (charOf p)∗) : many1 l ≤ (charOf p)∗ := mul_le hl (kstar_le hl)

theorem separated_le (hd : p d) (hl : l ≤ (charOf p)∗) : separated d l ≤ (charOf p)∗ :=
  mul_le hl (kstar_le (mul_le (single_le hd) hl))

theorem of_le (hl : l ≤ (charOf p)∗) (hs : s ∈ l) (hc : c ∈ s) : p c :=
  List.all_eq_true.1 (mem_kstar_charOf_iff.1 (hl hs)) c hc

theorem not_mem_of_le (hl : l ≤ (charOf p)∗) (hs : s ∈ l) (hc : p c = false) : c ∉ s := fun hmem =>
  Bool.false_ne_true (hc ▸ of_le hl hs hmem)

theorem bne_of_class {q : Char → Bool} (hd : q d = false) : ∀ c, q c → c != d := by
  intro c hc
  rw [bne_iff_ne]
  rintro rfl
  exact Bool.false_ne_true (hd.symm.trans hc)

/-! ## Separated texts -/

theorem mem_kstar_sep_iff : s ∈ ({[d]} * l)∗ ↔
    ∃ parts : List (List Char), (∀ t ∈ parts, t ∈ l) ∧ s = parts.flatMap (d :: ·) := by
  constructor
  · rintro ⟨parts, rfl, hparts⟩
    induction parts with
    | nil => exact ⟨[], by simp, rfl⟩
    | cons part parts ih =>
      obtain ⟨_, rfl, t, ht, rfl⟩ := hparts part List.mem_cons_self
      obtain ⟨ts, hts, hflat⟩ := ih fun y hy => hparts y (List.mem_cons_of_mem _ hy)
      exact ⟨t :: ts, List.forall_mem_cons.2 ⟨ht, hts⟩, by simp [hflat]⟩
  · rintro ⟨parts, hparts, rfl⟩
    refine ⟨parts.map (d :: ·), by rw [List.flatMap], fun y hy => ?_⟩
    obtain ⟨t, ht, rfl⟩ := List.mem_map.1 hy
    exact ⟨[d], rfl, t, hparts t ht, rfl⟩

theorem append_mem_separatedBy {a : List Char} (ha : a ∈ l) (hd : p d)
    (hs : s ∈ separatedBy p l) : a ++ d :: s ∈ separatedBy p l := by
  obtain ⟨first, hfirst, _, ⟨parts, rfl, hparts⟩, rfl⟩ := hs
  refine ⟨a, ha, d :: (first ++ parts.flatten), ⟨(d :: first) :: parts, rfl, ?_⟩, rfl⟩
  exact List.forall_mem_cons.2 ⟨⟨[d], ⟨d, hd, rfl⟩, first, hfirst, rfl⟩, hparts⟩

theorem mem_separatedBy_of_splitOn {a : List Char} (ha : ∀ c ∈ a, p c = false)
    (h : ∀ t ∈ splitOn p (a ++ s), t ∈ l) : a ++ s ∈ separatedBy p l := by
  induction s generalizing a with
  | nil =>
    rw [List.append_nil] at h ⊢
    rw [splitOn_eq_singleton ha, List.forall_mem_singleton] at h
    exact ⟨a, h, [], Language.nil_mem_kstar _, List.append_nil a⟩
  | cons c s ih =>
    by_cases hc : p c
    · rw [splitOn_append_cons hc, splitOn_eq_singleton ha, List.singleton_append,
        List.forall_mem_cons] at h
      exact append_mem_separatedBy h.1 hc (ih (a := []) (List.forall_mem_nil _) h.2)
    · have hmore : a ++ c :: s = (a ++ [c]) ++ s := by simp
      rw [hmore] at h ⊢
      refine ih ?_ h
      rw [List.forall_mem_append, List.forall_mem_singleton]
      exact ⟨ha, Bool.eq_false_iff.2 hc⟩

/-- **Texts with separators between them** are the texts whose pieces belong to the language. -/
theorem mem_separatedBy_iff (hl : ∀ t ∈ l, ∀ c ∈ t, p c = false) :
    s ∈ separatedBy p l ↔ ∀ t ∈ splitOn p s, t ∈ l := by
  constructor
  · rintro ⟨first, hfirst, _, ⟨parts, rfl, hparts⟩, rfl⟩
    induction parts generalizing first with
    | nil =>
      show ∀ t ∈ splitOn p (first ++ []), t ∈ l
      rw [List.append_nil, splitOn_eq_singleton (hl first hfirst), List.forall_mem_singleton]
      exact hfirst
    | cons part parts ih =>
      obtain ⟨⟨_, ⟨d, hd, rfl⟩, t, ht, rfl⟩, hrest⟩ := List.forall_mem_cons.1 hparts
      show ∀ u ∈ splitOn p (first ++ d :: (t ++ parts.flatten)), u ∈ l
      rw [splitOn_append_cons hd, splitOn_eq_singleton (hl first hfirst),
        List.singleton_append, List.forall_mem_cons]
      exact ⟨hfirst, ih t ht hrest⟩
  · exact mem_separatedBy_of_splitOn (a := []) (List.forall_mem_nil _)

theorem charOf_beq (d : Char) : charOf (· == d) = {[d]} := by
  ext s
  rw [mem_charOf_iff, mem_singleton_iff]
  constructor
  · rintro ⟨c, hc, rfl⟩
    rw [beq_iff_eq.1 hc]
  · rintro rfl
    exact ⟨d, beq_self_eq_true d, rfl⟩

theorem mem_separated_iff (hl : ∀ t ∈ l, d ∉ t) :
    s ∈ separated d l ↔ ∀ t ∈ splitAll d s, t ∈ l := by
  rw [separated, ← charOf_beq]
  refine mem_separatedBy_iff fun t ht c hc => ?_
  exact beq_eq_false_iff_ne.2 fun e => hl t ht (e ▸ hc)

end TagCatalog.Text
