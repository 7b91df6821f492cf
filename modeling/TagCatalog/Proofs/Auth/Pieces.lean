import TagCatalog.Proofs.Auth.Framing

/-!
# The pieces of a challenge

The parameters of a challenge are cut at the commas that stand outside of quotes. A piece that is
not blank and has no `=` is malformed. Where no `=` and no quote stands in it or behind it, the
header is refused, whatever stands in front: each parameter that is read leaves the text behind the
last `=` as it is.

* `Challenge.cut`, `Challenge.pieces`, `Challenge.isWhole`: commas outside of quotes;
* `Challenge.cut_append_of_isWhole`, `Challenge.eq_append_flatMap_of_cut`: a text and its pieces;
* `Challenge.parameterPart`, `Challenge.IsMalformed`: the malformed pieces of a header;
* `Challenge.Dangling`, `Challenge.Doomed`: a text that does not end in a parameter;
* `Challenge.Doomed.parametersFrom`: such a text is refused;
* `Challenge.parse_of_dangling`: so is a header with a malformed piece behind its parameters.
-/

namespace TagCatalog.Challenge

variable {quoted : Bool} {c d : Char} {s t a b k r : List Char} {ts : List (List Char)}
  {header : String} {p : Parameter} {fault : Fault}

/-! ## Commas outside of quotes -/

/-- The pieces of a text between the commas outside of quotes. With `quoted` the text begins inside
of quotes. -/
def cut : Bool → List Char → List (List Char)
  | _, [] => [[]]
  | quoted, c :: s =>
    if c = ',' ∧ quoted = false then [] :: cut false s
    else (cut (quoted != (c == '"')) s).modifyHead (c :: ·)

/-- The pieces of a text between the commas outside of quotes. -/
def pieces (s : List Char) : List (List Char) := cut false s

/-- No comma stands outside of quotes, and the text ends there. -/
def isWhole : Bool → List Char → Bool
  | quoted, [] => !quoted
  | quoted, c :: s => (c != ',' || quoted) && isWhole (quoted != (c == '"')) s

theorem cut_cons_of_ne (h : c = ',' → quoted = true) (s : List Char) :
    cut quoted (c :: s) = (cut (quoted != (c == '"')) s).modifyHead (c :: ·) := by
  rw [cut, if_neg]
  rintro ⟨hc, hquoted⟩
  exact Bool.false_ne_true (hquoted.symm.trans (h hc))

theorem cut_ne_nil (quoted : Bool) (s : List Char) : cut quoted s ≠ [] := by
  induction s generalizing quoted with
  | nil => exact List.cons_ne_nil _ _
  | cons c s ih =>
    rw [cut]
    split_ifs
    · exact List.cons_ne_nil _ _
    · obtain ⟨t, ts, h⟩ := List.exists_cons_of_ne_nil (ih (quoted != (c == '"')))
      rw [h]
      exact List.cons_ne_nil _ _

theorem isWhole_cons_iff : isWhole quoted (c :: s) ↔
    (c = ',' → quoted = true) ∧ isWhole (quoted != (c == '"')) s := by
  rw [isWhole, Bool.and_eq_true, Bool.or_eq_true, bne_iff_ne, Decidable.imp_iff_not_or]

theorem cut_append_of_isWhole (h : isWhole quoted t) (s : List Char) :
    cut quoted (t ++ ',' :: s) = t :: cut false s := by
  induction t generalizing quoted with
  | nil =>
    cases quoted
    · rfl
    · nomatch h
  | cons c t ih =>
    obtain ⟨hc, ht⟩ := isWhole_cons_iff.1 h
    rw [List.cons_append, cut_cons_of_ne hc, ih ht]
    rfl

theorem cut_of_isWhole (h : isWhole quoted t) : cut quoted t = [t] := by
  induction t generalizing quoted with
  | nil => rfl
  | cons c t ih =>
    obtain ⟨hc, ht⟩ := isWhole_cons_iff.1 h
    rw [cut_cons_of_ne hc, ih ht]
    rfl

theorem isWhole_append (ha : isWhole quoted a) (hb : isWhole false b) : isWhole quoted (a ++ b) := by
  induction a generalizing quoted with
  | nil =>
    cases quoted
    · exact hb
    · nomatch ha
  | cons c a ih =>
    obtain ⟨hc, ha⟩ := isWhole_cons_iff.1 ha
    exact isWhole_cons_iff.2 ⟨hc, ih ha⟩

theorem isWhole_of_blank (h : s.all Text.isBlank) : isWhole false s := by
  induction s with
  | nil => rfl
  | cons c s ih =>
    rw [List.all_cons, Bool.and_eq_true] at h
    have hquote : (c == '"') = false := by
      rw [beq_eq_false_iff_ne]
      rintro rfl
      nomatch h.1
    refine isWhole_cons_iff.2 ⟨fun hc => absurd hc (ne_comma_of_isBlank h.1), ?_⟩
    rw [hquote]
    exact ih h.2

/-- A text is its pieces with the commas between them. -/
theorem eq_append_flatMap_of_cut (h : cut quoted s = t :: ts) : s = t ++ ts.flatMap (',' :: ·) := by
  induction s generalizing quoted t ts with
  | nil =>
    cases h
    rfl
  | cons c s ih =>
    obtain ⟨u, us, hus⟩ := List.exists_cons_of_ne_nil (cut_ne_nil (quoted != (c == '"')) s)
    rw [cut] at h
    split_ifs at h with hc
    · obtain ⟨v, vs, hvs⟩ := List.exists_cons_of_ne_nil (cut_ne_nil false s)
      cases h
      rw [hc.1, hvs, List.flatMap_cons, List.nil_append, List.cons_append, ← ih hvs]
    · rw [hus] at h
      cases h
      rw [List.cons_append, ← ih hus]

/-- A piece without a quote has no comma, unless it begins inside of quotes. -/
theorem comma_not_mem_of_cut (h : cut quoted s = t :: ts) :
    (quoted = false → '"' ∉ t → ',' ∉ t) ∧ ∀ u ∈ ts, '"' ∉ u → ',' ∉ u := by
  induction s generalizing quoted t ts with
  | nil =>
    cases h
    exact ⟨fun _ _ => List.not_mem_nil, List.forall_mem_nil _⟩
  | cons c s ih =>
    obtain ⟨u, us, hus⟩ := List.exists_cons_of_ne_nil (cut_ne_nil (quoted != (c == '"')) s)
    rw [cut] at h
    split_ifs at h with hc
    · obtain ⟨v, vs, hvs⟩ := List.exists_cons_of_ne_nil (cut_ne_nil false s)
      cases h
      rw [hvs]
      exact ⟨fun _ _ => List.not_mem_nil, List.forall_mem_cons.2 ((ih hvs).imp_left (· rfl))⟩
    · rw [hus] at h
      cases h
      refine ⟨fun hquoted hquote => ?_, (ih hus).2⟩
      rw [List.mem_cons, not_or] at hquote ⊢
      have hsame : (quoted != (c == '"')) = false := by
        rw [hquoted, beq_eq_false_iff_ne.2 (Ne.symm hquote.1)]
        rfl
      exact ⟨fun e => hc ⟨e.symm, hquoted⟩, (ih hus).1 hsame hquote.2⟩

theorem comma_not_mem_of_mem_pieces (ht : t ∈ pieces s) (hquote : '"' ∉ t) : ',' ∉ t := by
  obtain ⟨u, us, hus⟩ := List.exists_cons_of_ne_nil (cut_ne_nil false s)
  obtain ⟨hfirst, hothers⟩ := comma_not_mem_of_cut hus
  rw [pieces, hus] at ht
  obtain rfl | ht := List.mem_cons.1 ht
  · exact hfirst rfl hquote
  · exact hothers t ht hquote

/-! ## Malformed pieces -/

/-- A piece is malformed if it is not blank and has no `=`. -/
def IsMalformed (t : List Char) : Prop := '=' ∉ t ∧ ¬ t.all Text.isBlank

instance (t : List Char) : Decidable (IsMalformed t) :=
  inferInstanceAs (Decidable (_ ∧ _))

/-- The part of a header behind the name of its scheme. -/
def parameterPart (header : String) : List Char := (splitScheme (Text.trim header.toList)).2

theorem parse_of_error (h : parameters (parameterPart header) = .error fault) :
    parse header = .error fault := by
  rw [parameterPart] at h
  rw [parse]
  split
  · next hnil =>
    have hempty : parameters [] = .ok [] := by
      rw [parameters, show Text.trim [] = [] from rfl, parametersFrom, if_pos rfl]
    rw [hnil] at h
    cases hempty.symm.trans h
  · simp only [h, bind, Except.bind]

/-! ## Texts that do not end in a parameter -/

/-- There is neither `=` nor a quote, and more than blanks and commas. -/
def Dangling (t : List Char) : Prop :=
  '=' ∉ t ∧ '"' ∉ t ∧ ∃ c ∈ t, Text.isBlank c = false ∧ c ≠ ','

/-- Behind a comma the text is dangling. -/
def Trails (s : List Char) : Prop := ∃ a t, s = a ++ ',' :: t ∧ Dangling t

/-- The text is dangling, or it is behind a comma. -/
def Doomed (s : List Char) : Prop := Dangling s ∨ Trails s

theorem Dangling.dropWhile {q : Char → Bool} (h : Dangling s)
    (hq : ∀ c, q c → Text.isBlank c ∨ c = ',') : Dangling (s.dropWhile q) := by
  obtain ⟨hassign, hquote, c, hc, hblank, hcomma⟩ := h
  have hsub := (List.dropWhile_sublist (l := s) q).subset
  refine ⟨fun h => hassign (hsub h), fun h => hquote (hsub h), c, ?_, hblank, hcomma⟩
  refine Text.mem_dropWhile_of_neg hc (Bool.eq_false_iff.2 fun hqc => ?_)
  obtain hb | hb := hq c hqc
  · exact Bool.false_ne_true (hblank.symm.trans hb)
  · exact hcomma hb

theorem Trails.dropWhile_of_neg {q : Char → Bool} (h : Trails s) (hq : q ',' = false) :
    Trails (s.dropWhile q) := by
  obtain ⟨a, t, rfl, ht⟩ := h
  rw [List.dropWhile_append]
  split
  · rw [List.dropWhile_cons_of_neg (by simp [hq])]
    exact ⟨[], t, rfl, ht⟩
  · exact ⟨_, t, rfl, ht⟩

theorem Doomed.dropWhile {q : Char → Bool} (h : Doomed s)
    (hq : ∀ c, q c → Text.isBlank c ∨ c = ',') : Doomed (s.dropWhile q) := by
  obtain h | ⟨a, t, rfl, ht⟩ := h
  · exact .inl (h.dropWhile hq)
  · rw [List.dropWhile_append]
    split
    · rw [List.dropWhile_cons]
      split
      · exact .inl (ht.dropWhile hq)
      · exact .inr ⟨[], t, rfl, ht⟩
    · exact .inr ⟨_, t, rfl, ht⟩

theorem Doomed.afterSeparators (h : Doomed s) : Doomed (afterSeparators s) := by
  have hblank : ∀ c, Text.isBlank c → Text.isBlank c ∨ c = ',' := fun c => .inl
  have hcomma : ∀ c, (c == ',') → Text.isBlank c ∨ c = ',' := fun c hc => .inr (beq_iff_eq.1 hc)
  exact ((h.dropWhile hblank).dropWhile hcomma).dropWhile hblank

theorem Trails.of_append_cons (hd : ∀ t, Dangling t → d ∉ t) (hne : d ≠ ',')
    (h : Trails (k ++ d :: r)) : Trails r := by
  obtain ⟨a, t, hsplit, ht⟩ := h
  obtain ⟨m, rfl, hm⟩ | ⟨m, rfl, hm⟩ := List.append_eq_append_iff.1 hsplit
  · cases m with
    | nil =>
      rw [List.nil_append] at hm
      exact absurd (List.cons.inj hm).1 hne
    | cons e m =>
      rw [List.cons_append] at hm
      obtain ⟨rfl, rfl⟩ := List.cons.inj hm
      exact ⟨m, t, rfl, ht⟩
  · cases m with
    | nil =>
      rw [List.nil_append] at hm
      exact absurd (List.cons.inj hm).1.symm hne
    | cons e m =>
      rw [List.cons_append] at hm
      obtain ⟨-, rfl⟩ := List.cons.inj hm
      exact absurd (List.mem_append_right m List.mem_cons_self) (hd _ ht)

theorem Trails.of_value {v : List Char} (h : Trails s) (hv : value s = .ok (v, r)) : Trails r := by
  unfold value at hv
  split at hv
  · next quoted =>
    split at hv
    · next parts hparts =>
      cases hv
      have hquoted : Trails quoted :=
        Trails.of_append_cons (k := []) (fun t ht => ht.2.1) (by decide) h
      rw [Text.eq_append_of_splitFirst? hparts] at hquoted
      exact hquoted.of_append_cons (fun t ht => ht.2.1) (by decide)
    · nomatch hv
  · cases hv
    exact h.dropWhile_of_neg rfl

theorem Doomed.of_parameter (h : Doomed s) (hp : parameter s = .ok (p, r)) : Doomed r := by
  unfold parameter at hp
  split at hp
  · nomatch hp
  · next key afterKey hkey =>
    have hsplit := Text.eq_append_of_splitFirst? hkey
    have htrails : Trails afterKey := by
      obtain h | h := h
      · exact absurd (hsplit ▸ List.mem_append_right key List.mem_cons_self) h.1
      · exact (hsplit ▸ h).of_append_cons (fun t ht => ht.1) (by decide)
    cases hv : value (Text.trimStart afterKey) with
    | error e =>
      rw [hv] at hp
      nomatch hp
    | ok parts =>
      rw [hv] at hp
      cases hp
      have hrest : Trails parts.2 := (htrails.dropWhile_of_neg rfl).of_value hv
      exact Doomed.afterSeparators (.inr hrest)

/-- **A doomed text is refused**, since every parameter that is read leaves one. -/
theorem Doomed.parametersFrom (h : Doomed s) : ∃ fault, parametersFrom s = .error fault := by
  induction s using parametersFrom.induct with
  | case1 =>
    obtain ⟨-, -, c, hc, -⟩ | ⟨a, t, hs, -⟩ := h
    · nomatch hc
    · simp at hs
  | case2 s hne fault hfault =>
    refine ⟨fault, ?_⟩
    rw [Challenge.parametersFrom, if_neg hne]
    split
    · simp_all
    · simp_all
  | case3 s hne p rest hp hlt ih =>
    obtain ⟨fault, hrest⟩ := ih (h.of_parameter hp)
    refine ⟨fault, ?_⟩
    rw [parametersFrom_of_parameter hne hp, hrest]
    rfl

theorem Dangling.trimEnd (h : Dangling s) : Dangling (Text.trimEnd s) := by
  obtain ⟨hassign, hquote, c, hc, hblank, hcomma⟩ := h
  have hsub := (Text.dropEnd_sublist Text.isBlank s).subset
  refine ⟨fun h => hassign (hsub h), fun h => hquote (hsub h), c, ?_, hblank, hcomma⟩
  obtain ⟨t, ht, hsplit⟩ := Text.exists_eq_dropEnd_append Text.isBlank s
  rw [hsplit, List.mem_append] at hc
  exact hc.resolve_right fun h => Bool.false_ne_true (hblank.symm.trans (ht c h))

theorem Dangling.not_all_isBlank (h : Dangling s) : ¬ s.all Text.isBlank := by
  obtain ⟨-, -, c, hc, hblank, -⟩ := h
  exact fun hall => Bool.false_ne_true (hblank.symm.trans (List.all_eq_true.1 hall c hc))

theorem Doomed.trim (h : Doomed s) : Doomed (Text.trim s) := by
  have hstart : Doomed (Text.trimStart s) := h.dropWhile fun c => .inl
  obtain h | ⟨a, t, hs, ht⟩ := hstart
  · exact .inl h.trimEnd
  · refine .inr ⟨a, Text.trimEnd t, ?_, ht.trimEnd⟩
    have hsplit : a ++ ',' :: t = (a ++ [',']) ++ t := by simp
    rw [Text.trim, hs, hsplit, Text.trimEnd, Text.dropEnd_append, if_neg ht.not_all_isBlank,
      Text.trimEnd]
    simp

/-! ## Headers that do not end in a parameter -/

theorem dangling_of_isMalformed {piece : List Char} {back : List (List Char)}
    (hpiece : IsMalformed piece) (hcomma : ',' ∉ piece)
    (hback : ∀ t ∈ piece :: back, '=' ∉ t ∧ '"' ∉ t) :
    Dangling (piece ++ back.flatMap (',' :: ·)) := by
  have hno : ∀ d : Char, d ≠ ',' → (∀ t ∈ piece :: back, d ∉ t) →
      d ∉ piece ++ back.flatMap (',' :: ·) := by
    intro d hd h
    rw [List.forall_mem_cons] at h
    rw [List.mem_append, List.mem_flatMap]
    rintro (hmem | ⟨t, ht, hmem⟩)
    · exact h.1 hmem
    · exact h.2 t ht ((List.mem_cons.1 hmem).resolve_left hd)
  have hblank : ∃ c ∈ piece, Text.isBlank c = false := by
    simpa using hpiece.2
  obtain ⟨c, hc, hcblank⟩ := hblank
  refine ⟨hno '=' (by decide) fun t ht => (hback t ht).1,
    hno '"' (by decide) fun t ht => (hback t ht).2, c, List.mem_append_left _ hc, hcblank, ?_⟩
  rintro rfl
  exact hcomma hc

/-- A text is doomed if one of its pieces is malformed and neither `=` nor a quote stands in it or
behind it. -/
theorem doomed_of_pieces {front back : List (List Char)} {piece : List Char}
    (h : pieces s = front ++ piece :: back) (hpiece : IsMalformed piece)
    (hback : ∀ t ∈ piece :: back, '=' ∉ t ∧ '"' ∉ t) : Doomed s := by
  have hmem : piece ∈ pieces s := h ▸ List.mem_append_right front List.mem_cons_self
  have hcomma := comma_not_mem_of_mem_pieces hmem (hback piece List.mem_cons_self).2
  have hdangling := dangling_of_isMalformed hpiece hcomma hback
  cases front with
  | nil =>
    rw [eq_append_flatMap_of_cut h]
    exact .inl hdangling
  | cons first front =>
    refine .inr ⟨first ++ front.flatMap (',' :: ·), _, ?_, hdangling⟩
    rw [eq_append_flatMap_of_cut h]
    simp

/-- A header is refused if a piece of it is malformed and neither `=` nor a quote stands in it or
behind it. -/
theorem parse_of_dangling {front back : List (List Char)} {piece : List Char}
    (h : pieces (parameterPart header) = front ++ piece :: back) (hpiece : IsMalformed piece)
    (hback : ∀ t ∈ piece :: back, '=' ∉ t ∧ '"' ∉ t) : ∃ fault, parse header = .error fault := by
  obtain ⟨fault, hfault⟩ := (doomed_of_pieces h hpiece hback).trim.parametersFrom
  exact ⟨fault, parse_of_error hfault⟩

end TagCatalog.Challenge
