/-!
# Splitting a text at a character

* `splitFirst? d s`: what stands before and after the first `d` of `s`, if `d` occurs;
* `splitLast? d s`: the same for the last `d`;
* `splitOn p s`, `splitAll d s`: the pieces of `s` between its separators, always at least one;
* `occurs part s`: a text occurs in another;
* `eq_append_of_splitFirst?`, `eq_append_of_splitLast?`: the parts put together again give the text
  back.
-/

namespace TagCatalog.Text

/-- The parts of `s` around its first `d`. -/
def splitFirst? (d : Char) : List Char → Option (List Char × List Char)
  | [] => none
  | c :: s => if c = d then some ([], s) else (splitFirst? d s).map fun p => (c :: p.1, p.2)

/-- The parts of `s` around its last `d`. -/
def splitLast? (d : Char) : List Char → Option (List Char × List Char)
  | [] => none
  | c :: s =>
    match splitLast? d s with
    | some p => some (c :: p.1, p.2)
    | none => if c = d then some ([], s) else none

/-- The pieces of a text between the characters that `p` holds of. -/
def splitOn (p : Char → Bool) : List Char → List (List Char)
  | [] => [[]]
  | c :: s =>
    if p c then [] :: splitOn p s
    else match splitOn p s with
      | [] => [[c]]
      | t :: ts => (c :: t) :: ts

/-- The pieces of a text between its `d`s. -/
def splitAll (d : Char) (s : List Char) : List (List Char) := splitOn (· == d) s

/-- The text `part` occurs somewhere in a text. -/
def occurs (part : List Char) : List Char → Bool
  | [] => part.isEmpty
  | c :: s => part.isPrefixOf (c :: s) || occurs part s

theorem eq_append_of_splitFirst? {d : Char} {s a b : List Char}
    (h : splitFirst? d s = some (a, b)) : s = a ++ d :: b := by
  induction s generalizing a b with
  | nil => simp [splitFirst?] at h
  | cons c s ih =>
    by_cases hc : c = d
    · simp_all [splitFirst?]
    · rw [splitFirst?, if_neg hc, Option.map_eq_some_iff] at h
      obtain ⟨⟨a', b'⟩, hs, he⟩ := h
      simp only [Prod.mk.injEq] at he
      rw [← he.1, ← he.2, ih hs, List.cons_append]

theorem eq_append_of_splitLast? {d : Char} {s a b : List Char}
    (h : splitLast? d s = some (a, b)) : s = a ++ d :: b := by
  induction s generalizing a b with
  | nil => simp [splitLast?] at h
  | cons c s ih =>
    rw [splitLast?] at h
    split at h
    · next p hp =>
      simp only [Option.some.injEq, Prod.mk.injEq] at h
      rw [← h.1, ← h.2, ih (a := p.1) (b := p.2) hp, List.cons_append]
    · split at h <;> simp_all

theorem length_lt_of_splitFirst? {d : Char} {s a b : List Char}
    (h : splitFirst? d s = some (a, b)) : b.length < s.length := by
  rw [eq_append_of_splitFirst? h]
  simp only [List.length_append, List.length_cons]
  omega

theorem splitOn_ne_nil (p : Char → Bool) (s : List Char) : splitOn p s ≠ [] := by
  cases s with
  | nil => simp [splitOn]
  | cons c s =>
    rw [splitOn]
    split
    · simp
    · split <;> simp

end TagCatalog.Text
