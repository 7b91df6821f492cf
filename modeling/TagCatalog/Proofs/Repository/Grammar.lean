import TagCatalog.Proofs.Text.Language
import TagCatalog.Repository

/-!
# The grammar of repository names

The grammar of repository names as a language: a host that may stand in front, and path components
with slashes between them.

* `Grammar.label`, `Grammar.host`, `Grammar.component`, `Grammar.name`: the grammar;
* `isLabel_iff`, `isHost_iff`, `isPathComponent_iff`: the parts of a name;
* **`matchesGrammar_iff`**: a text is matched exactly if the grammar has it.
-/

namespace TagCatalog.RepositoryName

open Computability Text

/-! ## The grammar -/

namespace Grammar

/-- A label of a host: a letter or digit, or more of them with dashes inside. -/
def label : Language Char :=
  charOf Char.isAlphanum *
    (1 + (charOf fun c => c.isAlphanum || c == '-')∗ * charOf Char.isAlphanum)

/-- Labels with dots between them. -/
def domain : Language Char := separated '.' label

/-- A host, perhaps with a port. -/
def host : Language Char := domain * (1 + {[':']} * many1 (charOf Char.isDigit))

/-- Lower-case letters and digits in a row. -/
def word : Language Char := many1 (charOf isWordChar)

/-- What may stand between two words. -/
def separator : Language Char := {['.']} + {['_']} + {['_']} * {['_']} + {['-']}∗

/-- A path component. -/
def component : Language Char := word * (separator * word)∗

/-- A repository name. -/
def name : Language Char := (1 + host * {['/']}) * separated '/' component

end Grammar

open Grammar

variable {s : List Char} {c : Char}

/-! ## Path components -/

/-- What is left of a path component for a reader in a state. -/
def remaining : ComponentState → Language Char
  | .start | .dot | .twoUnderscores => component
  | .word => (charOf isWordChar)∗ * (separator * word)∗
  | .underscore => (1 + {['_']}) * component
  | .dashes => {['-']}∗ * component

theorem nil_not_mem_word : [] ∉ word := fun h => (mem_many1_charOf_iff.1 h).1 rfl

theorem nil_not_mem_component : [] ∉ component := fun h =>
  nil_not_mem_word (nil_mem_mul_iff.1 h).1

theorem leftQuotient_word (c : Char) : word.leftQuotient [c] =
    if isWordChar c then (charOf isWordChar)∗ else 0 := by
  rw [word, many1, leftQuotient_mul_of_not_nil (nil_not_mem_charOf _), leftQuotient_charOf]
  split_ifs <;> simp

theorem leftQuotient_component (c : Char) : component.leftQuotient [c] =
    if isWordChar c then remaining .word else 0 := by
  rw [component, leftQuotient_mul_of_not_nil nil_not_mem_word, leftQuotient_word]
  split_ifs
  · rfl
  · simp

theorem leftQuotient_separator (c : Char) : separator.leftQuotient [c] =
    if c = '.' then 1 else if c = '_' then 1 + {['_']} else if c = '-' then {['-']}∗ else 0 := by
  have hnil : [] ∉ ({['_']} : Language Char) := nofun
  simp only [separator, leftQuotient_add, leftQuotient_kstar, leftQuotient_single,
    leftQuotient_mul_of_not_nil hnil]
  by_cases hdot : c = '.'
  · simp [hdot]
  by_cases hunderscore : c = '_'
  · simp [hunderscore]
  by_cases hdash : c = '-'
  · simp [hdash]
  · simp [hdot, hunderscore, hdash]

theorem nil_mem_separator : [] ∈ separator := .inr (Language.nil_mem_kstar _)

theorem leftQuotient_remaining_word (c : Char) : (remaining .word).leftQuotient [c] =
    if isWordChar c then remaining .word else separator.leftQuotient [c] * component := by
  have hmore : (separator * word).leftQuotient [c] =
      separator.leftQuotient [c] * word + word.leftQuotient [c] :=
    leftQuotient_mul_of_nil nil_mem_separator word c
  rw [remaining, leftQuotient_mul_of_nil (Language.nil_mem_kstar _), leftQuotient_kstar,
    leftQuotient_kstar, hmore, leftQuotient_charOf, leftQuotient_word, component]
  split_ifs with hc
  · -- a word may go on, or the next one begins at once: that is the same
    have hsep : separator.leftQuotient [c] = 0 := by
      rw [leftQuotient_separator]
      split_ifs with h h h
      · subst h
        nomatch hc
      · subst h
        nomatch hc
      · subst h
        nomatch hc
      · rfl
    rw [hsep, zero_mul, zero_add, one_mul, Language.add_self]
  · rw [zero_mul, zero_mul, zero_add, add_zero, mul_assoc]

/-- **One character of a path component** leaves what the next state has left. -/
theorem leftQuotient_remaining (q : ComponentState) (c : Char) : (remaining q).leftQuotient [c] =
    ((q.step? c).map remaining).getD 0 := by
  have hcomponent : component.leftQuotient [c] =
      ((ComponentState.start.step? c).map remaining).getD 0 := by
    rw [leftQuotient_component, ComponentState.step?]
    split_ifs <;> rfl
  cases q with
  | start | dot | twoUnderscores => exact hcomponent
  | word =>
    rw [leftQuotient_remaining_word, leftQuotient_separator]
    by_cases hc : isWordChar c
    · simp [ComponentState.step?, hc]
    by_cases hdot : c = '.'
    · simp [ComponentState.step?, hdot, isWordChar, remaining]
    by_cases hunderscore : c = '_'
    · simp [ComponentState.step?, hunderscore, isWordChar, remaining]
    by_cases hdash : c = '-'
    · simp [ComponentState.step?, hdash, isWordChar, remaining]
    · simp [ComponentState.step?, hc, hdot, hunderscore, hdash]
  | underscore =>
    have hnil : [] ∈ (1 + {['_']} : Language Char) := .inl rfl
    rw [remaining, leftQuotient_mul_of_nil hnil, leftQuotient_add, leftQuotient_one,
      leftQuotient_single, hcomponent]
    by_cases hunderscore : c = '_'
    · simp [ComponentState.step?, hunderscore, isWordChar, remaining]
    · simp [ComponentState.step?, hunderscore]
  | dashes =>
    rw [remaining, leftQuotient_mul_of_nil (Language.nil_mem_kstar _), leftQuotient_kstar,
      leftQuotient_single, hcomponent]
    by_cases hdash : c = '-'
    · simp [ComponentState.step?, hdash, isWordChar, remaining]
    · simp [ComponentState.step?, hdash]

theorem nil_mem_remaining_iff (q : ComponentState) : [] ∈ remaining q ↔ q = .word := by
  cases q with
  | word =>
    exact iff_of_true (nil_mem_mul_iff.2 ⟨Language.nil_mem_kstar _, Language.nil_mem_kstar _⟩) rfl
  | start | dot | twoUnderscores => exact iff_of_false nil_not_mem_component nofun
  | underscore | dashes =>
    exact iff_of_false (fun h => nil_not_mem_component (nil_mem_mul_iff.1 h).2) nofun

theorem foldlM_step?_iff (q : ComponentState) (s : List Char) :
    s.foldlM ComponentState.step? q = some .word ↔ s ∈ remaining q := by
  induction s generalizing q with
  | nil =>
    rw [nil_mem_remaining_iff, List.foldlM_nil]
    exact Option.some_inj
  | cons c s ih =>
    have hstep : c :: s ∈ remaining q ↔ s ∈ (remaining q).leftQuotient [c] := Iff.rfl
    rw [hstep, leftQuotient_remaining, List.foldlM_cons]
    cases q.step? c with
    | none => exact iff_of_false nofun (Language.notMem_zero s)
    | some q' => exact ih q'

theorem isPathComponent_iff : isPathComponent s ↔ s ∈ component := by
  rw [isPathComponent, beq_iff_eq, foldlM_step?_iff]
  rfl

theorem component_le {p : Char → Bool} (hword : ∀ c, isWordChar c → p c)
    (hsep : p '.' ∧ p '_' ∧ p '-') : component ≤ (charOf p)∗ := by
  have hw : word ≤ (charOf p)∗ := many1_le (charOf_le hword)
  have hs : separator ≤ (charOf p)∗ :=
    add_le_iff.2 ⟨add_le_iff.2 ⟨add_le_iff.2 ⟨single_le hsep.1, single_le hsep.2.1⟩,
      mul_le (single_le hsep.2.1) (single_le hsep.2.1)⟩, kstar_le (single_le hsep.2.2)⟩
  exact mul_le hw (kstar_le (mul_le hs hw))

/-! ## Hosts -/

theorem isLabel_iff : isLabel s ↔ s ∈ label := by
  rw [isLabel, label, mul_add, mul_one, Language.mem_add]
  constructor
  · intro h
    simp only [Bool.and_eq_true] at h
    obtain ⟨⟨hall, hhead⟩, hlast⟩ := h
    cases s with
    | nil => nomatch hhead
    | cons c s =>
      obtain rfl | ⟨t, d, rfl⟩ := List.eq_nil_or_concat s
      · exact .inl ⟨c, by simpa using hhead, rfl⟩
      · rw [List.all_cons, List.concat_eq_append, List.all_append, Bool.and_eq_true,
          Bool.and_eq_true] at hall
        have hd : d.isAlphanum := by simpa [List.getLast?_cons] using hlast
        exact .inr ⟨[c], ⟨c, by simpa using hhead, rfl⟩, _,
          ⟨t, mem_kstar_charOf_iff.2 hall.2.1, [d], ⟨d, hd, rfl⟩, rfl⟩, by simp⟩
  · rintro (⟨c, hc, rfl⟩ | ⟨_, ⟨c, hc, rfl⟩, _, ⟨t, ht, _, ⟨d, hd, rfl⟩, rfl⟩, rfl⟩)
    · simp [hc]
    · have hinner : t.all fun c => c.isAlphanum || c == '-' := mem_kstar_charOf_iff.1 ht
      rw [List.all_eq_true] at hinner
      simpa [hc, hd, List.getLast?_cons] using hinner

theorem label_le {p : Char → Bool} (halnum : ∀ c, c.isAlphanum → p c) (hdash : p '-') :
    label ≤ (charOf p)∗ := by
  have hinner : (charOf fun c => c.isAlphanum || c == '-') ≤ (charOf p)∗ := by
    refine charOf_le fun c hc => ?_
    rw [Bool.or_eq_true, beq_iff_eq] at hc
    obtain hc | rfl := hc
    · exact halnum c hc
    · exact hdash
  have hfirst : charOf Char.isAlphanum ≤ (charOf p)∗ := charOf_le halnum
  exact mul_le hfirst (add_le_iff.2 ⟨one_le_kstar, mul_le (kstar_le hinner) hfirst⟩)

theorem isDomain_iff : isDomain s ↔ s ∈ domain := by
  have hdot : ∀ t ∈ label, '.' ∉ t := fun t ht =>
    not_mem_of_le (label_le (fun c hc => by simp [hc]) rfl)
      (p := fun c => c.isAlphanum || c == '-') ht rfl
  rw [isDomain, List.all_eq_true, domain, mem_separated_iff hdot]
  simp only [isLabel_iff]

theorem domain_le {p : Char → Bool} (halnum : ∀ c, c.isAlphanum → p c) (hdash : p '-')
    (hdot : p '.') : domain ≤ (charOf p)∗ := separated_le hdot (label_le halnum hdash)

theorem isHost_iff : isHost s ↔ s ∈ host := by
  have hcolon : ∀ t ∈ domain, ':' ∉ t := fun t ht =>
    not_mem_of_le (domain_le (fun c hc => by simp [hc]) rfl rfl)
      (p := fun c => c.isAlphanum || c == '-' || c == '.') ht rfl
  rw [host, mul_add, mul_one, Language.mem_add, isHost]
  by_cases hs : ':' ∈ s
  · obtain ⟨a, b, rfl, ha⟩ := List.eq_append_cons_of_mem hs
    have hone : a ++ ':' :: b ∉ domain := fun h => hcolon _ h hs
    rw [splitFirst?_append ha, or_iff_right hone]
    simp only [Bool.and_eq_true, bne_iff_ne, isDomain_iff, and_assoc]
    constructor
    · rintro ⟨hdomain, hport⟩
      exact ⟨a, hdomain, _, ⟨[':'], rfl, b, mem_many1_charOf_iff.2 hport, rfl⟩, rfl⟩
    · rintro ⟨a', hdomain, _, ⟨_, rfl, b', hport, rfl⟩, h⟩
      obtain ⟨rfl, rfl⟩ := append_cons_inj (hcolon a' hdomain) ha h
      exact ⟨hdomain, mem_many1_charOf_iff.1 hport⟩
  · rw [splitFirst?_eq_none hs]
    refine isDomain_iff.trans (or_iff_left ?_).symm
    rintro ⟨a, -, _, ⟨_, rfl, b, -, rfl⟩, rfl⟩
    exact hs (by simp)

theorem host_le {p : Char → Bool} (halnum : ∀ c, c.isAlphanum → p c) (hdash : p '-')
    (hdot : p '.') (hcolon : p ':') : host ≤ (charOf p)∗ := by
  have hdigit : charOf Char.isDigit ≤ (charOf p)∗ :=
    charOf_le fun c hc => halnum c (by simp [Char.isAlphanum, hc])
  exact mul_le (domain_le halnum hdash hdot)
    (add_le_iff.2 ⟨one_le_kstar, mul_le (single_le hcolon) (many1_le hdigit)⟩)

/-! ## Names -/

theorem not_mem_component {d : Char} (hword : isWordChar d = false)
    (hsep : '.' != d ∧ '_' != d ∧ '-' != d) {t : List Char} (ht : t ∈ component) : d ∉ t :=
  not_mem_of_le (p := fun c => c != d) (component_le (bne_of_class hword) hsep) ht
    (bne_self_eq_false d)

theorem slash_not_mem_component {t : List Char} (ht : t ∈ component) : '/' ∉ t :=
  not_mem_component (by decide) (by decide) ht

theorem slash_not_mem_host {t : List Char} (ht : t ∈ host) : '/' ∉ t :=
  not_mem_of_le (p := fun c => c != '/') (host_le (bne_of_class (by decide)) rfl rfl rfl) ht rfl

theorem mem_name_iff {first : List Char} {rest : List (List Char)}
    (h : splitAll '/' s = first :: rest) : s ∈ name ↔
      (∀ t ∈ rest, t ∈ component) ∧ (first ∈ component ∨ first ∈ host ∧ rest ≠ []) := by
  rw [name, add_mul, one_mul, Language.mem_add,
    mem_separated_iff fun t ht => slash_not_mem_component ht, h, List.forall_mem_cons, mul_assoc]
  have hhost : s ∈ host * ({['/']} * separated '/' component) ↔
      first ∈ host ∧ rest ≠ [] ∧ ∀ t ∈ rest, t ∈ component := by
    constructor
    · rintro ⟨a, ha, _, ⟨_, rfl, b, hb, rfl⟩, rfl⟩
      have hsplit : splitAll '/' (a ++ '/' :: b) = a :: splitAll '/' b := by
        rw [splitAll_append_cons, splitAll_eq_singleton (slash_not_mem_host ha)]
        rfl
      obtain ⟨rfl, rfl⟩ := List.cons_eq_cons.1 (hsplit.symm.trans h)
      exact ⟨ha, splitOn_ne_nil _ _,
        (mem_separated_iff fun t ht => slash_not_mem_component ht).1 hb⟩
    · rintro ⟨ha, hne, hparts⟩
      obtain ⟨part, parts, rfl⟩ := List.exists_cons_of_ne_nil hne
      rw [List.forall_mem_cons] at hparts
      refine ⟨first, ha, _, ⟨['/'], rfl, _, ⟨part, hparts.1, _,
        mem_kstar_sep_iff.2 ⟨parts, hparts.2, rfl⟩, rfl⟩, rfl⟩, ?_⟩
      rw [eq_append_flatMap_of_splitAll h]
      rfl
  rw [hhost]
  tauto

/-- **The grammar of names**: a text is matched exactly if the grammar has it. -/
theorem matchesGrammar_iff : matchesGrammar s ↔ s ∈ name := by
  obtain ⟨first, rest, h⟩ := List.exists_cons_of_ne_nil (splitOn_ne_nil (· == '/') s)
  rw [mem_name_iff h, matchesGrammar, splitAll, h]
  simp only [Bool.and_eq_true, Bool.or_eq_true, List.all_eq_true, bne_iff_ne, isPathComponent_iff,
    isHost_iff]

end TagCatalog.RepositoryName
