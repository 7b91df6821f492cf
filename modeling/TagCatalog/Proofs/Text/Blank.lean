import Mathlib.Data.List.DropRight
import TagCatalog.Text.Blank

/-!
# Trimming texts that are put together

* `Text.takeWhile_append_of_dropWhile`, `Text.dropWhile_append_of_dropWhile`: what is taken and
  dropped at the start of two texts in a row;
* `Text.dropEnd_append`: what is dropped at the end of two texts in a row;
* `Text.exists_eq_dropEnd_append`: a text is what is left and what is dropped;
* `Text.trimStart_eq_self`, `Text.trimEnd_eq_self`, `Text.trim_eq_self`: texts without blanks at
  their ends;
* `Text.trim_sublist`, `Text.trim_cons_of_blank`: trimming drops characters, blanks in front first;
* `Text.trim_surround`, `Text.trim_append_of_all`, `Text.trim_append_trimEnd`: blanks around a text
  make no difference.
-/

namespace TagCatalog.Text

variable {p : Char → Bool} {c : Char} {s t : List Char}

theorem takeWhile_append_of_dropWhile (h : s.dropWhile p ≠ []) (t : List Char) :
    (s ++ t).takeWhile p = s.takeWhile p := by
  have hlen : (s.takeWhile p).length ≠ s.length := by
    intro hlen
    have hself := (List.takeWhile_prefix p).eq_of_length hlen
    exact h (List.dropWhile_eq_nil_iff.2 (List.takeWhile_eq_self_iff.1 hself))
  rw [List.takeWhile_append, if_neg hlen]

theorem dropWhile_append_of_dropWhile (h : s.dropWhile p ≠ []) (t : List Char) :
    (s ++ t).dropWhile p = s.dropWhile p ++ t := by
  rw [List.dropWhile_append, if_neg]
  simpa using h

theorem mem_dropWhile_of_neg (hc : c ∈ s) (hp : p c = false) : c ∈ s.dropWhile p := by
  rw [← List.takeWhile_append_dropWhile (p := p) (l := s), List.mem_append] at hc
  refine hc.resolve_left fun htake => ?_
  rw [List.mem_takeWhile_imp htake] at hp
  nomatch hp

theorem dropEnd_append (p : Char → Bool) (s t : List Char) :
    dropEnd p (s ++ t) = if t.all p then dropEnd p s else s ++ dropEnd p t := by
  by_cases ht : t.all p
  · rw [if_pos ht, dropEnd_append_of_all ht]
  · have hne : ¬ (t.reverse.dropWhile p).isEmpty := by
      rw [List.isEmpty_iff, List.dropWhile_eq_nil_iff]
      simpa using ht
    rw [if_neg ht, dropEnd, List.reverse_append, List.dropWhile_append, if_neg hne,
      List.reverse_append, List.reverse_reverse, dropEnd]

theorem dropEnd_cons_of_neg (h : p c = false) (s : List Char) :
    dropEnd p (c :: s) = c :: dropEnd p s := by
  have hc : dropEnd p [c] = [c] := by simp [dropEnd, h]
  rw [← List.singleton_append, dropEnd_append, hc]
  split
  · next hs =>
    have hnil : dropEnd p s = [] := by simpa using dropEnd_append_of_all hs []
    rw [hnil]
  · rfl

theorem dropEnd_eq_self (h : ∀ c ∈ s.getLast?, p c = false) : dropEnd p s = s := by
  obtain rfl | ⟨t, c, rfl⟩ := s.eq_nil_or_concat'
  · rfl
  · exact dropEnd_concat_of_neg (h c (by simp)) t

theorem getLast?_dropEnd (p : Char → Bool) (s : List Char) :
    ∀ c ∈ (dropEnd p s).getLast?, p c = false := by
  intro c hc
  have hstop := List.head?_dropWhile_not p s.reverse
  rw [dropEnd, List.getLast?_reverse, Option.mem_def] at hc
  rw [hc] at hstop
  exact hstop

theorem dropEnd_sublist (p : Char → Bool) (s : List Char) : (dropEnd p s).Sublist s :=
  (List.rdropWhile_prefix p s).sublist

theorem exists_eq_dropEnd_append (p : Char → Bool) (s : List Char) :
    ∃ t, (∀ c ∈ t, p c) ∧ s = dropEnd p s ++ t := by
  refine ⟨(s.reverse.takeWhile p).reverse, fun c hc => ?_, ?_⟩
  · exact List.mem_takeWhile_imp (List.mem_reverse.1 hc)
  · rw [dropEnd, ← List.reverse_append, List.takeWhile_append_dropWhile, List.reverse_reverse]

theorem head?_trimStart (s : List Char) : ∀ c ∈ (trimStart s).head?, isBlank c = false := by
  intro c hc
  have h := List.head?_dropWhile_not isBlank s
  rw [← trimStart, Option.mem_def.1 hc] at h
  exact h

theorem head?_dropEnd {p : Char → Bool} {s : List Char} {c : Char}
    (h : c ∈ (dropEnd p s).head?) : c ∈ s.head? := by
  obtain ⟨t, -, hsplit⟩ := exists_eq_dropEnd_append p s
  rw [hsplit]
  cases hs : dropEnd p s with
  | nil =>
    rw [hs] at h
    nomatch h
  | cons d r =>
    rw [hs] at h
    exact h

theorem trimStart_eq_self (h : ∀ c ∈ s.head?, isBlank c = false) : trimStart s = s := by
  cases s with
  | nil => rfl
  | cons c s => exact List.dropWhile_cons_of_neg (by simp [h c rfl])

theorem trimEnd_eq_self (h : ∀ c ∈ s.getLast?, isBlank c = false) : trimEnd s = s :=
  dropEnd_eq_self h

theorem trim_eq_self (hs : ∀ c ∈ s.head?, isBlank c = false)
    (he : ∀ c ∈ s.getLast?, isBlank c = false) : trim s = s := by
  rw [trim, trimStart_eq_self hs, trimEnd_eq_self he]

theorem trimEnd_trimEnd (s : List Char) : trimEnd (trimEnd s) = trimEnd s :=
  List.rdropWhile_idempotent isBlank s

theorem trim_trim (s : List Char) : trim (trim s) = trim s :=
  trim_eq_self (fun c hc => head?_trimStart s c (head?_dropEnd hc)) (getLast?_dropEnd isBlank _)

theorem trim_sublist (s : List Char) : (trim s).Sublist s :=
  (dropEnd_sublist isBlank _).trans (List.dropWhile_sublist isBlank)

theorem trim_cons_of_blank (h : isBlank c) (s : List Char) : trim (c :: s) = trim s := by
  rw [trim, trimStart, List.dropWhile_cons_of_pos h, trim, trimStart]

theorem trimStart_eq_nil (h : s.all isBlank) : trimStart s = [] := by
  simpa [trimStart] using h

theorem trimStart_trimStart (s : List Char) : trimStart (trimStart s) = trimStart s :=
  List.dropWhile_idempotent isBlank s

/-- Blanks around a text that begins with another character make no difference. -/
theorem trim_surround {before after : List Char} (hb : before.all isBlank)
    (ha : after.all isBlank) (hs : ∀ c ∈ s.head?, isBlank c = false) :
    trim (before ++ (s ++ after)) = trimEnd s := by
  rw [trim, trimStart_append_of_all hb]
  cases s with
  | nil => rw [List.nil_append, trimStart_eq_nil ha]
  | cons c s =>
    have hstart : trimStart (c :: s ++ after) = c :: s ++ after := trimStart_eq_self hs
    rw [hstart, trimEnd, dropEnd_append_of_all ha, trimEnd]

theorem trim_append_of_all {after : List Char} (ha : after.all isBlank)
    (hs : ∀ c ∈ s.head?, isBlank c = false) : trim (s ++ after) = trimEnd s :=
  trim_surround (rfl : List.all [] isBlank = true) ha hs

theorem trim_append_trimEnd {before : List Char} (hb : before.all isBlank)
    (hs : ∀ c ∈ (trimEnd s).head?, isBlank c = false) : trim (before ++ trimEnd s) = trimEnd s := by
  have h := trim_surround hb (rfl : List.all [] isBlank = true) hs
  rwa [List.append_nil, trimEnd_trimEnd] at h

end TagCatalog.Text
