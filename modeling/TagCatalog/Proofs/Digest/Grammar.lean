import TagCatalog.Digest
import TagCatalog.Proofs.Text.Language

/-!
# The grammar of digests

The grammar of digests as a language: an algorithm, a colon and an encoded value. The algorithm is
made of components with separators between them, and the values of registered algorithms are
lower-case hexadecimal digits of a fixed number.

* `Digest.Grammar.algorithm`, `Digest.Grammar.encoded`, `Digest.Grammar.Registers`,
  `Digest.Grammar.digest`: the grammar;
* `Digest.checkAlgorithm_iff`, `Digest.checkRegistered_iff`: the checks of the parts;
* **`Digest.parse_eq_ok_iff`**: what is read is what the grammar has, and it is shown as it was.
-/

namespace TagCatalog.Digest

open Computability Text

/-! ## The grammar -/

namespace Grammar

/-- A component of an algorithm: lower-case letters and digits in a row. -/
def component : Language Char := many1 (charOf isComponentChar)

/-- Components with separators between them. -/
def algorithm : Language Char := separatedBy isSeparator component

/-- An encoded value. -/
def encoded : Language Char := many1 (charOf isValueChar)

/-- The registered algorithms, and the numbers of their digits. -/
def registered : List (String × Nat) := [("sha256", 64), ("sha384", 96), ("sha512", 128)]

/-- The value of a registered algorithm has its number of hexadecimal digits. -/
def Registers (algorithm value : List Char) : Prop :=
  ∀ r ∈ registered, algorithm = r.1.toList → value.length = r.2 ∧ value.all isHexChar

/-- A digest. -/
def digest : Language Char :=
  {s | ∃ a v, s = a ++ ':' :: v ∧ a ∈ algorithm ∧ v ∈ encoded ∧ Registers a v}

end Grammar

open Grammar

variable {s : String} {a v : List Char} {d : Digest}

/-! ## The parts -/

theorem checkComponent_iff : checkComponent a = .ok () ↔ a ∈ component := by
  rw [component, mem_many1_charOf_iff, checkComponent]
  split_ifs with hnil hall
  · exact iff_of_false nofun fun h => h.1 hnil
  · exact iff_of_true rfl ⟨hnil, hall⟩
  · exact iff_of_false nofun fun h => hall h.2

theorem isSeparator_eq_false_of_mem_component (h : a ∈ component) :
    ∀ c ∈ a, isSeparator c = false := by
  intro c hc
  have hcomponent : isComponentChar c := List.all_eq_true.1 (mem_many1_charOf_iff.1 h).2 c hc
  refine Bool.eq_false_iff.2 fun hsep => ?_
  simp only [isSeparator, Bool.or_eq_true, beq_iff_eq] at hsep
  obtain ((rfl | rfl) | rfl) | rfl := hsep <;> nomatch hcomponent

theorem forM_eq_ok_iff {ε α : Type} {f : α → Except ε Unit} {xs : List α} :
    xs.forM f = .ok () ↔ ∀ x ∈ xs, f x = .ok () := by
  induction xs with
  | nil => exact iff_of_true rfl (List.forall_mem_nil _)
  | cons x xs ih =>
    rw [List.forall_mem_cons, ← ih]
    show (f x >>= fun _ => xs.forM f) = .ok () ↔ _
    cases hx : f x with
    | error e => exact iff_of_false nofun fun h => nomatch h.1
    | ok u => exact (and_iff_right rfl).symm

theorem checkAlgorithm_iff :
    (splitOn isSeparator a).forM checkComponent = .ok () ↔ a ∈ Grammar.algorithm := by
  rw [forM_eq_ok_iff, Grammar.algorithm,
    mem_separatedBy_iff fun t => isSeparator_eq_false_of_mem_component]
  exact forall₂_congr fun t _ => checkComponent_iff

theorem expectedLength?_eq_some_iff {n : Nat} : expectedLength? a = some n ↔
    ∃ r ∈ registered, a = r.1.toList ∧ n = r.2 := by
  simp only [registered, List.mem_cons, List.not_mem_nil, or_false, exists_eq_or_imp,
    exists_eq_left]
  rw [expectedLength?]
  split_ifs with h256 h384 h512
  · simp [h256, eq_comm]
  · simp [h384, eq_comm]
  · simp [h512, eq_comm]
  · simp only [h256, h384, h512, false_and, or_false]

theorem registers_iff : Registers a v ↔
    ∀ n, expectedLength? a = some n → v.length = n ∧ v.all isHexChar := by
  constructor
  · intro h n hn
    obtain ⟨r, hr, ha, rfl⟩ := expectedLength?_eq_some_iff.1 hn
    exact h r hr ha
  · intro h r hr ha
    exact h r.2 (expectedLength?_eq_some_iff.2 ⟨r, hr, ha, rfl⟩)

theorem checkRegistered_iff : checkRegistered a v = .ok () ↔ Registers a v := by
  rw [registers_iff, checkRegistered]
  cases expectedLength? a with
  | none => exact iff_of_true rfl nofun
  | some n =>
    simp only [Option.some.injEq, forall_eq']
    split_ifs with hlength hhex
    · exact iff_of_false nofun fun h => hlength h.1
    · exact iff_of_true rfl ⟨not_not.1 hlength, hhex⟩
    · exact iff_of_false nofun fun h => hhex h.2

theorem colon_not_mem_of_mem_algorithm (h : a ∈ Grammar.algorithm) : ':' ∉ a := by
  have hsep : charOf isSeparator ≤ (charOf (· != ':'))∗ := charOf_le (bne_of_class (by decide))
  have hcomponent : component ≤ (charOf (· != ':'))∗ :=
    many1_le (charOf_le (bne_of_class (by decide)))
  exact not_mem_of_le (mul_le hcomponent (kstar_le (mul_le hsep hcomponent))) h
    (bne_self_eq_false ':')

/-! ## The whole -/

theorem toList_text (d : Digest) :
    d.text.toList = d.algorithm.toList ++ ':' :: d.value.toList := by
  simp [text]

theorem parse_append_iff (ha : ':' ∉ a) : parse (String.ofList (a ++ ':' :: v)) = .ok d ↔
    (a ∈ Grammar.algorithm ∧ v ∈ encoded ∧ Registers a v) ∧
      ⟨String.ofList a, String.ofList v⟩ = d := by
  rw [← checkAlgorithm_iff, encoded, mem_many1_charOf_iff, ← checkRegistered_iff, parse,
    String.toList_ofList, splitFirst?_append ha]
  dsimp only
  cases (splitOn isSeparator a).forM checkComponent with
  | error e => exact iff_of_false nofun fun h => nomatch h.1.1
  | ok u =>
    by_cases hnil : v = []
    · rw [if_pos hnil]
      exact iff_of_false nofun fun h => h.1.2.1.1 hnil
    cases hall : v.all isValueChar with
    | false =>
      rw [if_neg hnil, Bool.not_false, if_pos rfl]
      exact iff_of_false nofun fun h => nomatch h.1.2.1.2
    | true =>
      rw [if_neg hnil, Bool.not_true, if_neg Bool.false_ne_true]
      cases checkRegistered a v with
      | error e => exact iff_of_false nofun fun h => nomatch h.1.2.2
      | ok u =>
        rw [and_iff_right ⟨rfl, ⟨hnil, rfl⟩, rfl⟩]
        exact Iff.of_eq (Except.ok.injEq _ _)

/-- **What is read of a digest** is what the grammar has, and it is shown as it was written: an
algorithm without a colon, a colon and the value. -/
theorem parse_eq_ok_iff : parse s = .ok d ↔
    s.toList ∈ digest ∧ d.text = s ∧ ':' ∉ d.algorithm.toList := by
  constructor
  · intro h
    by_cases hcolon : ':' ∈ s.toList
    · obtain ⟨a, v, hs, ha⟩ := List.eq_append_cons_of_mem hcolon
      rw [← String.ofList_toList (s := s), hs] at h ⊢
      obtain ⟨hparts, rfl⟩ := (parse_append_iff ha).1 h
      rw [String.toList_ofList, String.toList_ofList]
      refine ⟨⟨a, v, rfl, hparts⟩, String.toList_inj.1 ?_, ha⟩
      rw [toList_text, String.toList_ofList, String.toList_ofList, String.toList_ofList]
    · rw [parse, splitFirst?_eq_none hcolon] at h
      nomatch h
  · rintro ⟨⟨a, v, hs, ha, hv, hregisters⟩, htext, hcolon⟩
    have hcolon' := colon_not_mem_of_mem_algorithm ha
    have hsplit : d.algorithm.toList ++ ':' :: d.value.toList = a ++ ':' :: v := by
      rw [← hs, ← htext, toList_text]
    obtain ⟨rfl, rfl⟩ := append_cons_inj hcolon hcolon' hsplit
    rw [← String.ofList_toList (s := s), hs, parse_append_iff hcolon, String.ofList_toList,
      String.ofList_toList]
    exact ⟨⟨ha, hv, hregisters⟩, rfl⟩

end TagCatalog.Digest
