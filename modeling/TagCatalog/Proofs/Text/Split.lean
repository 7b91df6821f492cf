import Mathlib.Data.List.Infix
import TagCatalog.Text.Split

/-!
# Splitting texts that are put together

* `Text.decidableForallMem`: what holds of all characters of a text can be decided;
* `Text.splitFirst?_append`, `Text.splitFirst?_eq_none`: where the first of a character stands;
* `Text.splitLast?_append`, `Text.splitLast?_eq_none_iff`, `Text.splitLast?_eq_some_iff`: where the
  last of a character stands;
* `Text.splitOn_eq_splitOnP`, `Text.splitOn_append_cons`, `Text.splitOn_append_flatMap`,
  `Text.eq_append_flatMap_of_splitAll`, `Text.mem_of_mem_splitAll`, `Text.exists_mem_splitAll`: the
  pieces of a text;
* `Text.occurs_iff`: `occurs` is the infix relation;
* `Text.infix_append_cons_iff`: a text without a character stands before it or after it;
* `Text.eq_of_quoted_infix`: what is quoted in a text with one quotation.
-/

namespace TagCatalog.Text

variable {d : Char} {s a b : List Char}

/-- What holds of all characters of a text is decided along the text. Deciding it along all
characters there are would never end. -/
instance decidableForallMem (s : List Char) (p : Char → Prop) [DecidablePred p] :
    Decidable (∀ c ∈ s, p c) :=
  List.decidableBAll p s

/-! ## The first of a character -/

theorem splitFirst?_append (h : d ∉ a) (b : List Char) :
    splitFirst? d (a ++ d :: b) = some (a, b) := by
  induction a with
  | nil => simp [splitFirst?]
  | cons c a ih =>
    rw [List.mem_cons, not_or] at h
    rw [List.cons_append, splitFirst?, if_neg (Ne.symm h.1), ih h.2]
    rfl

theorem splitFirst?_eq_none (h : d ∉ s) : splitFirst? d s = none := by
  induction s with
  | nil => rfl
  | cons c s ih =>
    rw [List.mem_cons, not_or] at h
    rw [splitFirst?, if_neg (Ne.symm h.1), ih h.2]
    rfl

theorem append_cons_inj {a' b' : List Char} (ha : d ∉ a) (ha' : d ∉ a')
    (h : a ++ d :: b = a' ++ d :: b') : a = a' ∧ b = b' := by
  have hsplit := congrArg (splitFirst? d) h
  rw [splitFirst?_append ha, splitFirst?_append ha'] at hsplit
  simpa using hsplit

/-! ## The last of a character -/

theorem splitLast?_eq_none (h : d ∉ s) : splitLast? d s = none := by
  induction s with
  | nil => rfl
  | cons c s ih =>
    rw [List.mem_cons, not_or] at h
    rw [splitLast?, ih h.2, if_neg (Ne.symm h.1)]

theorem splitLast?_append (h : d ∉ b) (a : List Char) :
    splitLast? d (a ++ b) = (splitLast? d a).map fun p => (p.1, p.2 ++ b) := by
  induction a with
  | nil => exact splitLast?_eq_none h
  | cons c a ih =>
    rw [List.cons_append, splitLast?, ih, splitLast?]
    cases splitLast? d a with
    | some p => rfl
    | none =>
      by_cases hc : c = d
      · rw [if_pos hc]
        simp [hc]
      · simp [hc]

theorem splitLast?_eq_none_iff : splitLast? d s = none ↔ d ∉ s := by
  refine ⟨fun h => ?_, splitLast?_eq_none⟩
  induction s with
  | nil => exact List.not_mem_nil
  | cons c s ih =>
    rw [splitLast?] at h
    cases hs : splitLast? d s with
    | some p => simp [hs] at h
    | none =>
      have hc : d ≠ c := by
        rintro rfl
        simp [hs] at h
      exact List.not_mem_cons_of_ne_of_not_mem hc (ih hs)

theorem splitLast?_eq_some_iff : splitLast? d s = some (a, b) ↔ s = a ++ d :: b ∧ d ∉ b := by
  constructor
  · intro h
    refine ⟨eq_append_of_splitLast? h, ?_⟩
    induction s generalizing a with
    | nil => simp [splitLast?] at h
    | cons c s ih =>
      rw [splitLast?] at h
      cases hs : splitLast? d s with
      | some parts =>
        obtain ⟨before, after⟩ := parts
        simp only [hs, Option.some.injEq, Prod.mk.injEq] at h
        exact ih (h.2 ▸ hs)
      | none =>
        by_cases hc : c = d
        · simp only [hs, hc, if_true, Option.some.injEq, Prod.mk.injEq] at h
          exact h.2 ▸ splitLast?_eq_none_iff.1 hs
        · simp [hs, hc] at h
  · rintro ⟨rfl, hb⟩
    induction a with
    | nil => rw [List.nil_append, splitLast?, splitLast?_eq_none hb, if_pos rfl]
    | cons c a ih => rw [List.cons_append, splitLast?, ih]

/-! ## Pieces -/

theorem splitOn_eq_splitOnP (p : Char → Bool) (s : List Char) : splitOn p s = s.splitOnP p := by
  induction s with
  | nil => rfl
  | cons c s ih =>
    rw [splitOn, List.splitOnP_cons_eq_if_modifyHead, ih]
    by_cases hc : p c
    · rw [if_pos hc, if_pos hc]
    · rw [if_neg hc, if_neg hc]
      obtain ⟨t, ts, ht⟩ := List.exists_cons_of_ne_nil (List.splitOnP_ne_nil p s)
      rw [ht]
      rfl

theorem splitOn_append_cons {p : Char → Bool} (hd : p d) (a b : List Char) :
    splitOn p (a ++ d :: b) = splitOn p a ++ splitOn p b := by
  simp only [splitOn_eq_splitOnP]
  exact List.splitOnP_append_cons a b hd

theorem splitOn_eq_singleton {p : Char → Bool} (h : ∀ c ∈ s, p c = false) :
    splitOn p s = [s] := by
  rw [splitOn_eq_splitOnP]
  exact List.splitOnP_eq_singleton h

theorem splitAll_append_cons (d : Char) (a b : List Char) :
    splitAll d (a ++ d :: b) = splitAll d a ++ splitAll d b := splitOn_append_cons (by simp) a b

theorem splitAll_eq_singleton (h : d ∉ s) : splitAll d s = [s] := by
  refine splitOn_eq_singleton fun c hc => ?_
  have hcd : c ≠ d := fun e => h (e ▸ hc)
  simpa using hcd

/-- Pieces with a separator in front of each are taken apart again. -/
theorem splitOn_append_flatMap {p : Char → Bool} (hd : p d) {first : List Char}
    {parts : List (List Char)} (hfirst : ∀ c ∈ first, p c = false)
    (hparts : ∀ t ∈ parts, ∀ c ∈ t, p c = false) :
    splitOn p (first ++ parts.flatMap (d :: ·)) = first :: parts := by
  induction parts generalizing first with
  | nil =>
    rw [List.flatMap_nil, List.append_nil]
    exact splitOn_eq_singleton hfirst
  | cons part parts ih =>
    rw [List.forall_mem_cons] at hparts
    rw [List.flatMap_cons, List.cons_append, splitOn_append_cons hd, splitOn_eq_singleton hfirst,
      ih hparts.1 hparts.2]
    rfl

/-- A text is its pieces with the separator between them. -/
theorem eq_append_flatMap_of_splitAll {first : List Char} {parts : List (List Char)}
    (h : splitAll d s = first :: parts) : s = first ++ parts.flatMap (d :: ·) := by
  have hjoin : [d].intercalate (s.splitOn d) = s := List.intercalate_splitOn d
  rw [List.splitOn, ← splitOn_eq_splitOnP, ← splitAll, h] at hjoin
  rw [← hjoin]
  clear h hjoin
  induction parts generalizing first with
  | nil => simp
  | cons part parts ih => simp [List.intercalate_cons_cons, ih]

theorem flatMap_splitAll (d : Char) (s : List Char) :
    (splitAll d s).flatMap (d :: ·) = d :: s := by
  obtain ⟨first, parts, h⟩ := List.exists_cons_of_ne_nil (splitOn_ne_nil (· == d) s)
  rw [splitAll, h, List.flatMap_cons, List.cons_append, ← eq_append_flatMap_of_splitAll h]

theorem splitAll_injective (d : Char) : Function.Injective (splitAll d) := by
  intro s t h
  have hcons : d :: s = d :: t := by rw [← flatMap_splitAll, ← flatMap_splitAll, h]
  exact (List.cons_eq_cons.1 hcons).2

theorem of_mem_splitOn {p : Char → Bool} {t : List Char} (h : t ∈ splitOn p s) :
    t.Sublist s ∧ ∀ c ∈ t, p c = false := by
  induction s generalizing t with
  | nil =>
    rw [splitOn, List.mem_singleton] at h
    rw [h]
    exact ⟨List.nil_sublist _, List.forall_mem_nil _⟩
  | cons x s ih =>
    obtain ⟨u, us, hu⟩ := List.exists_cons_of_ne_nil (splitOn_ne_nil p s)
    rw [splitOn, hu] at h
    rw [hu] at ih
    split at h
    · obtain rfl | h := List.mem_cons.1 h
      · exact ⟨List.nil_sublist _, List.forall_mem_nil _⟩
      · exact (ih h).imp_left (.cons x)
    · next hx =>
      obtain rfl | h := List.mem_cons.1 h
      · obtain ⟨hsub, hp⟩ := ih List.mem_cons_self
        exact ⟨hsub.cons_cons x, List.forall_mem_cons.2 ⟨Bool.eq_false_iff.2 hx, hp⟩⟩
      · exact (ih (List.mem_cons_of_mem u h)).imp_left (.cons x)

theorem mem_of_mem_splitAll {t : List Char} (ht : t ∈ splitAll d s) {c : Char} (hc : c ∈ t) :
    c ∈ s := (of_mem_splitOn ht).1.mem hc

theorem exists_mem_splitAll {c : Char} (hc : c ≠ d) (h : s.getLast? = some c) :
    ∃ t ∈ splitAll d s, t.getLast? = some c := by
  induction s with
  | nil => nomatch h
  | cons x s ih =>
    cases s with
    | nil =>
      cases h
      have hne : d ∉ [x] := by simpa using Ne.symm hc
      exact ⟨[x], by rw [splitAll_eq_singleton hne]; exact List.mem_singleton_self _, rfl⟩
    | cons y s =>
      obtain ⟨t, ht, hlast⟩ := ih h
      obtain ⟨u, us, hu⟩ := List.exists_cons_of_ne_nil (splitOn_ne_nil (· == d) (y :: s))
      rw [splitAll, hu] at ht
      rw [splitAll, splitOn, hu]
      split
      · exact ⟨t, List.mem_cons_of_mem [] ht, hlast⟩
      · obtain rfl | ht := List.mem_cons.1 ht
        · refine ⟨x :: t, List.mem_cons_self, ?_⟩
          rw [List.getLast?_cons, hlast]
          rfl
        · exact ⟨t, List.mem_cons_of_mem _ ht, hlast⟩

/-! ## Texts inside texts -/

theorem occurs_iff {part s : List Char} : occurs part s ↔ part <:+: s := by
  induction s with
  | nil => simp [occurs]
  | cons c s ih => rw [occurs, Bool.or_eq_true, ih, List.isPrefixOf_iff_prefix, List.infix_cons_iff]

theorem infix_append_cons_iff {part : List Char} (h : d ∉ part) :
    part <:+: a ++ d :: b ↔ part <:+: a ∨ part <:+: b := by
  constructor
  · intro hpart
    obtain ha | hb | ⟨l, r, rfl, hl, hr⟩ := List.infix_append_iff.1 hpart
    · exact .inl ha
    · obtain hb | hb := List.infix_cons_iff.1 hb
      · cases part with
        | nil => exact .inl List.nil_infix
        | cons c part =>
          obtain ⟨rfl, -⟩ := List.cons_prefix_cons.1 hb
          exact absurd List.mem_cons_self h
      · exact .inr hb
    · cases r with
      | nil =>
        rw [List.append_nil]
        exact .inl hl.isInfix
      | cons c r =>
        obtain ⟨rfl, -⟩ := List.cons_prefix_cons.1 hr
        exact absurd (by simp) h
  · rintro (ha | hb)
    · exact List.infix_append_of_infix_left ha
    · exact List.infix_append_of_infix_right (List.infix_cons hb)

/-- A quotation that occurs in a text with two quotes is the one between them. -/
theorem eq_of_quoted_infix {q : Char} {key name quoted : List Char} (ha : q ∉ a) (hn : q ∉ name)
    (hq : q ∉ quoted) (h : key ++ q :: (name ++ [q]) <:+: a ++ q :: (quoted ++ [q])) :
    name = quoted := by
  obtain ⟨s, t, h⟩ := h
  have hcount := congrArg (List.count q) h
  simp only [List.count_append, List.count_cons_self, List.count_nil, List.count_eq_zero.2 ha,
    List.count_eq_zero.2 hn, List.count_eq_zero.2 hq] at hcount
  have hs : q ∉ s ++ key := by
    rw [← List.count_eq_zero, List.count_append]
    omega
  have hsplit : (s ++ key) ++ q :: (name ++ q :: t) = a ++ q :: (quoted ++ q :: []) := by
    simpa using h
  exact (append_cons_inj hn hq (append_cons_inj hs ha hsplit).2).1

end TagCatalog.Text
