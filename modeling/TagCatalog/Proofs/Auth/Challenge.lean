import TagCatalog.Error
import TagCatalog.Proofs.Text.Blank
import TagCatalog.Proofs.Text.Split

/-!
# Reading challenges

How a header spells a challenge, and that it is read as what it spells. A value stands in quotes or
bare, blanks may stand around keys and `=`, and between two parameters there are commas with blanks
around them.

* `Challenge.SpellsValue`, `Challenge.SpellsParameter`, `Challenge.IsSeparator`,
  `Challenge.SpellsList`, `Challenge.Spells`: the spellings of a challenge;
* `Scheme.Names`, `Challenge.LastValue`: the scheme of a name, and the value that counts for a key;
* `Challenge.value_of_spells`, `Challenge.parameter_of_spells`, `Challenge.parametersFrom_of_spells`:
  what is read of a value, a parameter and a list of parameters;
* **`Challenge.parse_of_spells`**: what is read of a header.
-/

namespace TagCatalog

/-! ## Names and keys -/

/-- Two texts are equal but for the case of ASCII letters. -/
def SameLetters (a b : List Char) : Prop := a.map Char.toLower = b.map Char.toLower

/-- A name stands for a scheme: `Basic` and `Bearer` in any case, any other name for itself. -/
inductive Scheme.Names (name : List Char) : Scheme → Prop
  | basic (h : SameLetters name "Basic".toList) : Names name .basic
  | bearer (h : SameLetters name "Bearer".toList) : Names name .bearer
  | other (hbasic : ¬ SameLetters name "Basic".toList)
      (hbearer : ¬ SameLetters name "Bearer".toList) : Names name (.other (String.ofList name))

theorem Scheme.names_iff {name : List Char} {scheme : Scheme} :
    Names name scheme ↔ ofName name = scheme := by
  have hbasic : SameLetters name "Basic".toList ↔ name.map Char.toLower = "basic".toList := Iff.rfl
  have hbearer : SameLetters name "Bearer".toList ↔ name.map Char.toLower = "bearer".toList :=
    Iff.rfl
  rw [ofName]
  constructor
  · rintro (h | h | ⟨h1, h2⟩)
    · exact if_pos (hbasic.1 h)
    · have hne : name.map Char.toLower ≠ "basic".toList := by
        rw [hbearer.1 h]
        decide
      rw [if_neg hne, if_pos (hbearer.1 h)]
    · rw [if_neg (mt hbasic.2 h1), if_neg (mt hbearer.2 h2)]
  · rintro rfl
    split_ifs with h1 h2
    · exact .basic (hbasic.2 h1)
    · exact .bearer (hbearer.2 h2)
    · exact .other (mt hbasic.1 h1) (mt hbearer.1 h2)

namespace Challenge

/-- The value of the last parameter with a key, where there is one. -/
inductive LastValue (key : String) : List Parameter → Option String → Prop
  | none {ps : List Parameter} (h : ∀ p ∈ ps, ¬ SameLetters p.key key.toList) :
    LastValue key ps none
  | some {before after : List Parameter} {p : Parameter} (hp : SameLetters p.key key.toList)
      (hafter : ∀ q ∈ after, ¬ SameLetters q.key key.toList) :
    LastValue key (before ++ p :: after) (some (String.ofList p.value))

theorem lastValue_iff {key : String} {ps : List Parameter} {v : Option String}
    (hkey : key.toList.map Char.toLower = key.toList) :
    LastValue key ps v ↔ lastValue? key ps = v := by
  have hsame : ∀ p : Parameter, (p.key.map Char.toLower == key.toList) = true ↔
      SameLetters p.key key.toList := fun p => by
    rw [SameLetters, hkey, beq_iff_eq]
  rw [lastValue?]
  constructor
  · rintro (h | ⟨hp, hafter⟩)
    · have hfind := List.find?_eq_none.2 fun p hp => mt (hsame p).1 (h p (List.mem_reverse.1 hp))
      rw [hfind]
      rfl
    · next before after p =>
      have hfind : (before ++ p :: after).reverse.find?
          (fun p => p.key.map Char.toLower == key.toList) = some p := by
        rw [List.find?_eq_some_iff_append]
        refine ⟨(hsame p).2 hp, after.reverse, before.reverse, by simp, fun q hq => ?_⟩
        rw [Bool.not_eq_true', ← Bool.not_eq_true]
        exact mt (hsame q).1 (hafter q (List.mem_reverse.1 hq))
      rw [hfind]
      rfl
  · rintro rfl
    cases hfind : ps.reverse.find? fun p => p.key.map Char.toLower == key.toList with
    | none =>
      exact .none fun p hp hs =>
        List.find?_eq_none.1 hfind p (List.mem_reverse.2 hp) ((hsame p).2 hs)
    | some p =>
      obtain ⟨hp, after, before, hps, hafter⟩ := List.find?_eq_some_iff_append.1 hfind
      have hps' : ps = before.reverse ++ p :: after.reverse := by
        rw [← List.reverse_reverse ps, hps]
        simp
      rw [hps']
      refine .some ((hsame p).1 hp) fun q hq hs => ?_
      have hq := hafter q (List.mem_reverse.1 hq)
      rw [(hsame q).2 hs] at hq
      nomatch hq

/-! ## Spellings -/

/-- A value is spelled in quotes, or bare where no character of it is taken for another one. -/
inductive SpellsValue : List Char → List Char → Prop
  | quoted {v : List Char} (h : '"' ∉ v) : SpellsValue v ('"' :: (v ++ ['"']))
  | bare {v : List Char} (hcomma : ',' ∉ v) (hquote : ∀ c ∈ v.head?, c ≠ '"')
      (hstart : ∀ c ∈ v.head?, Text.isBlank c = false)
      (hend : ∀ c ∈ v.getLast?, Text.isBlank c = false) : SpellsValue v v

/-- The characters of a key. -/
def isKeyChar (c : Char) : Bool := !Text.isBlank c && c != '=' && c != ',' && c != '"'

/-- A parameter is spelled with `=` between its key and its value, and blanks around it. -/
inductive SpellsParameter : Parameter → List Char → Prop
  | intro {key value text before after : List Char} (hne : key ≠ []) (hkey : key.all isKeyChar)
      (hbefore : before.all Text.isBlank) (hafter : after.all Text.isBlank)
      (hvalue : SpellsValue value text) :
    SpellsParameter ⟨key, value⟩ (key ++ (before ++ '=' :: (after ++ text)))

/-- Between parameters there are commas, and blanks around them. -/
def IsSeparator (s : List Char) : Prop :=
  ∃ before commas after : List Char, s = before ++ (commas ++ after) ∧
    before.all Text.isBlank ∧ after.all Text.isBlank ∧ commas ≠ [] ∧ commas.all (· == ',')

/-- The spellings of a list of parameters. -/
inductive SpellsList : List Parameter → List Char → Prop
  | nil : SpellsList [] []
  | single {p : Parameter} {text : List Char} (h : SpellsParameter p text) : SpellsList [p] text
  | cons {p p' : Parameter} {ps : List Parameter} {text separator rest : List Char}
      (h : SpellsParameter p text) (hseparator : IsSeparator separator)
      (hrest : SpellsList (p' :: ps) rest) :
    SpellsList (p :: p' :: ps) (text ++ (separator ++ rest))

/-- A header spells the challenge with a scheme's name and parameters. -/
inductive Spells (name : List Char) (ps : List Parameter) : String → Prop
  | intro {before gap text after : List Char} (hne : name ≠ [])
      (hname : ∀ c ∈ name, Text.isBlank c = false) (hbefore : before.all Text.isBlank)
      (hgap : gap.all Text.isBlank) (hps : SpellsList ps text) (hafter : after.all Text.isBlank) :
    Spells name ps (String.ofList (before ++ (name ++ ' ' :: (gap ++ (text ++ after)))))

variable {p : Parameter} {ps : List Parameter} {v text rest : List Char}

/-! ## Blanks and separators -/

/-- What may follow a value: nothing, or a comma behind blanks. -/
def EndsValue (rest : List Char) : Prop :=
  rest = [] ∨ ∃ blanks tail, blanks.all Text.isBlank ∧ rest = blanks ++ ',' :: tail

theorem afterSeparators_append {s : List Char} (hs : s.all Text.isBlank) (t : List Char) :
    afterSeparators (s ++ t) = afterSeparators t := by
  rw [afterSeparators, Text.trimStart_append_of_all hs, afterSeparators]

theorem IsSeparator.endsValue {s : List Char} (h : IsSeparator s) (t : List Char) :
    EndsValue (s ++ t) := by
  obtain ⟨before, commas, after, rfl, hbefore, -, hne, hcommas⟩ := h
  cases commas with
  | nil => exact absurd rfl hne
  | cons c commas =>
    have hc : c = ',' := by simpa using (List.all_eq_true.1 hcommas c List.mem_cons_self)
    exact .inr ⟨before, commas ++ (after ++ t), hbefore, by simp [hc]⟩

theorem afterSeparators_separator {s : List Char} (h : IsSeparator s) {c : Char}
    (hblank : Text.isBlank c = false) (hcomma : c ≠ ',') (t : List Char) :
    afterSeparators (s ++ c :: t) = c :: t := by
  obtain ⟨before, commas, after, rfl, hbefore, hafter, hne, hcommas⟩ := h
  have hstart : Text.trimStart (commas ++ (after ++ c :: t)) = commas ++ (after ++ c :: t) := by
    refine Text.trimStart_eq_self fun d hd => ?_
    cases commas with
    | nil => exact absurd rfl hne
    | cons e commas =>
      have he : e = ',' := by simpa using List.all_eq_true.1 hcommas e List.mem_cons_self
      cases hd
      rw [he]
      rfl
  have hstop : (after ++ c :: t).dropWhile (· == ',') = after ++ c :: t := by
    cases after with
    | nil => exact List.dropWhile_cons_of_neg (by simpa using hcomma)
    | cons a after =>
      refine List.dropWhile_cons_of_neg fun ha => ?_
      have ha : a = ',' := by simpa using ha
      have := List.all_eq_true.1 hafter a List.mem_cons_self
      rw [ha] at this
      nomatch this
  rw [List.append_assoc, afterSeparators_append hbefore, List.append_assoc, afterSeparators, hstart,
    List.dropWhile_append_of_pos (List.all_eq_true.1 hcommas), hstop,
    Text.trimStart_append_of_all hafter,
    Text.trimStart_eq_self fun d hd => by cases hd; exact hblank]

/-! ## Values -/

theorem ne_comma_of_isBlank {c : Char} (h : Text.isBlank c) : c ≠ ',' := by
  rintro rfl
  nomatch h

theorem EndsValue.takeWhile (h : EndsValue rest) :
    (rest.takeWhile (· != ',')).all Text.isBlank := by
  obtain rfl | ⟨blanks, tail, hblanks, rfl⟩ := h
  · rfl
  · have hne : ∀ c ∈ blanks, (c != ',') = true := fun c hc => by
      simpa using ne_comma_of_isBlank (List.all_eq_true.1 hblanks c hc)
    rw [List.takeWhile_append_of_pos hne, List.takeWhile_cons_of_neg (by decide), List.append_nil]
    exact hblanks

theorem EndsValue.afterSeparators_dropWhile (h : EndsValue rest) :
    afterSeparators (rest.dropWhile (· != ',')) = afterSeparators rest := by
  obtain rfl | ⟨blanks, tail, hblanks, rfl⟩ := h
  · rfl
  · have hne : ∀ c ∈ blanks, (c != ',') = true := fun c hc => by
      simpa using ne_comma_of_isBlank (List.all_eq_true.1 hblanks c hc)
    rw [List.dropWhile_append_of_pos hne, List.dropWhile_cons_of_neg (by decide),
      afterSeparators_append hblanks]

theorem EndsValue.trimStart (h : EndsValue rest) : EndsValue (Text.trimStart rest) := by
  obtain rfl | ⟨blanks, tail, hblanks, rfl⟩ := h
  · exact .inl rfl
  · rw [Text.trimStart_append_of_all hblanks]
    exact .inr ⟨[], tail, rfl, rfl⟩

theorem EndsValue.ne_quote (h : EndsValue rest) : ∀ c ∈ rest.head?, c ≠ '"' := by
  obtain rfl | ⟨blanks, tail, hblanks, rfl⟩ := h
  · nofun
  · cases blanks with
    | nil => rintro c ⟨⟩; decide
    | cons b blanks =>
      rintro c ⟨⟩ rfl
      have := List.all_eq_true.1 hblanks '"' List.mem_cons_self
      nomatch this

theorem value_of_ne_quote {s : List Char} (h : ∀ c ∈ s.head?, c ≠ '"') :
    value s = .ok (Text.trim (s.takeWhile (· != ',')), s.dropWhile (· != ',')) := by
  unfold value
  split
  · exact absurd rfl (h '"' rfl)
  · rfl

theorem value_bare (hcomma : ',' ∉ v) (hquote : ∀ c ∈ v.head?, c ≠ '"')
    (hstart : ∀ c ∈ v.head?, Text.isBlank c = false)
    (hend : ∀ c ∈ v.getLast?, Text.isBlank c = false) (hrest : EndsValue rest) :
    value (v ++ rest) = .ok (v, rest.dropWhile (· != ',')) := by
  have hne : ∀ c ∈ v, (c != ',') = true := fun c hc =>
    bne_iff_ne.2 fun e => hcomma (e ▸ hc)
  have hhead : ∀ c ∈ (v ++ rest).head?, c ≠ '"' := by
    cases v with
    | nil => exact hrest.ne_quote
    | cons => exact hquote
  have htrim : Text.trim (v ++ rest.takeWhile (· != ',')) = v := by
    rw [Text.trim_append_of_all hrest.takeWhile hstart, Text.trimEnd_eq_self hend]
  rw [value_of_ne_quote hhead, List.takeWhile_append_of_pos hne, List.dropWhile_append_of_pos hne,
    htrim]

/-- A value is read to its end, and the text after it holds the same parameters as before. -/
theorem value_of_spells (h : SpellsValue v text) (hrest : EndsValue rest) :
    ∃ rest', value (Text.trimStart (text ++ rest)) = .ok (v, rest') ∧
      afterSeparators rest' = afterSeparators rest := by
  cases h with
  | quoted hv =>
    refine ⟨rest, ?_, rfl⟩
    rw [List.cons_append, List.append_assoc, List.singleton_append,
      Text.trimStart_eq_self (by simp [Text.isBlank]), value]
    simp only [Text.splitFirst?_append hv]
  | bare hcomma hquote hstart hend =>
    obtain ⟨rest', htrim, hrest', hafter⟩ : ∃ rest', Text.trimStart (v ++ rest) = v ++ rest' ∧
        EndsValue rest' ∧ afterSeparators rest' = afterSeparators rest := by
      cases v with
      | nil =>
        refine ⟨Text.trimStart rest, rfl, hrest.trimStart, ?_⟩
        rw [afterSeparators, Text.trimStart_trimStart, afterSeparators]
      | cons c v => exact ⟨rest, Text.trimStart_eq_self hstart, hrest, rfl⟩
    refine ⟨rest'.dropWhile (· != ','), ?_, ?_⟩
    · rw [htrim, value_bare hcomma hquote hstart hend hrest']
    · rw [hrest'.afterSeparators_dropWhile, hafter]

/-! ## Parameters -/

/-- A text starts with a character of a key. -/
def StartsKey (text : List Char) : Prop := ∃ c t, text = c :: t ∧ isKeyChar c

theorem not_isBlank_of_isKeyChar {c : Char} (h : isKeyChar c) : Text.isBlank c = false := by
  simp only [isKeyChar, Bool.and_eq_true, Bool.not_eq_true'] at h
  exact h.1.1.1

theorem ne_of_isKeyChar {c : Char} (h : isKeyChar c) : c ≠ '=' ∧ c ≠ ',' := by
  simp only [isKeyChar, Bool.and_eq_true, bne_iff_ne] at h
  exact ⟨h.1.1.2, h.1.2⟩

theorem SpellsParameter.startsKey (h : SpellsParameter p text) : StartsKey text := by
  obtain ⟨hne, hkey, -, -, -⟩ := h
  next key _ _ _ _ =>
  cases key with
  | nil => exact absurd rfl hne
  | cons c key => exact ⟨c, _, rfl, List.all_eq_true.1 hkey c List.mem_cons_self⟩

theorem parameter_of_key {key before after : List Char} (hassign : '=' ∉ key)
    (hstart : ∀ c ∈ key.head?, Text.isBlank c = false)
    (hend : ∀ c ∈ key.getLast?, Text.isBlank c = false) (hbefore : before.all Text.isBlank)
    (hafter : after.all Text.isBlank) (hvalue : SpellsValue v text) (hrest : EndsValue rest) :
    parameter (key ++ (before ++ '=' :: (after ++ text)) ++ rest) =
      .ok (⟨key, v⟩, afterSeparators rest) := by
  obtain ⟨rest', hv, hrest'⟩ := value_of_spells hvalue hrest
  have hassign' : '=' ∉ key ++ before := by
    rw [List.mem_append, not_or]
    exact ⟨hassign, fun h => absurd (List.all_eq_true.1 hbefore _ h) (by decide)⟩
  have htrim : Text.trim (key ++ before) = key := by
    rw [Text.trim_append_of_all hbefore hstart, Text.trimEnd_eq_self hend]
  have htext : key ++ (before ++ '=' :: (after ++ text)) ++ rest =
      (key ++ before) ++ '=' :: (after ++ (text ++ rest)) := by simp
  rw [htext, parameter, Text.splitFirst?_append hassign']
  simp only [Text.trimStart_append_of_all hafter, hv, htrim, hrest', bind, Except.bind, pure,
    Except.pure]

theorem parameter_behind {front : List Char} (hassign : '=' ∉ front)
    (hstart : ∀ c ∈ front.head?, Text.isBlank c = false) (h : SpellsParameter p text)
    (hrest : EndsValue rest) :
    parameter (front ++ text ++ rest) = .ok (⟨front ++ p.key, p.value⟩, afterSeparators rest) := by
  obtain @⟨key, v, text, before, after, hne, hkey, hbefore, hafter, hvalue⟩ := h
  have hkeyChar := List.all_eq_true.1 hkey
  rw [← List.append_assoc front]
  refine parameter_of_key ?_ ?_ ?_ hbefore hafter hvalue hrest
  · rw [List.mem_append, not_or]
    exact ⟨hassign, fun h => (ne_of_isKeyChar (hkeyChar _ h)).1 rfl⟩
  · cases front with
    | nil => exact fun c hc => not_isBlank_of_isKeyChar (hkeyChar c (List.mem_of_mem_head? hc))
    | cons => exact hstart
  · rw [List.getLast?_append_of_ne_nil _ hne]
    exact fun c hc => not_isBlank_of_isKeyChar (hkeyChar c (List.mem_of_mem_getLast? hc))

theorem parameter_of_spells (h : SpellsParameter p text) (hrest : EndsValue rest) :
    parameter (text ++ rest) = .ok (p, afterSeparators rest) :=
  parameter_behind (show '=' ∉ [] from List.not_mem_nil) nofun h hrest

theorem parametersFrom_of_parameter {s : List Char} (hne : s ≠ [])
    (h : parameter s = .ok (p, rest)) : parametersFrom s = (parametersFrom rest).map (p :: ·) := by
  rw [parametersFrom, if_neg hne]
  split
  · simp_all
  · simp_all

theorem SpellsParameter.trimEnd (h : SpellsParameter p text) :
    SpellsParameter p (Text.trimEnd text) := by
  obtain @⟨key, v, text, before, after, hne, hkey, hbefore, hafter, hvalue⟩ := h
  by_cases htext : text = []
  · -- an empty value leaves the blanks after `=` to be dropped
    subst htext
    have htrim : Text.trimEnd (key ++ (before ++ '=' :: (after ++ []))) =
        key ++ (before ++ '=' :: ([] ++ [])) := by
      have h : key ++ (before ++ '=' :: (after ++ [])) = (key ++ before ++ ['=']) ++ after := by
        simp
      rw [h, Text.trimEnd, Text.dropEnd_append_of_all hafter, Text.dropEnd_concat_of_neg rfl]
      simp
    rw [htrim]
    exact .intro hne hkey hbefore rfl hvalue
  · have hlast : ∀ c ∈ text.getLast?, Text.isBlank c = false := by
      cases hvalue with
      | quoted =>
        rw [← List.cons_append, List.getLast?_concat]
        rintro c ⟨⟩
        rfl
      | bare _ _ _ hend => exact hend
    have htrim : Text.trimEnd (key ++ (before ++ '=' :: (after ++ text))) =
        key ++ (before ++ '=' :: (after ++ text)) := by
      refine Text.trimEnd_eq_self fun c hc => hlast c ?_
      have h : key ++ (before ++ '=' :: (after ++ text)) =
          (key ++ before ++ '=' :: after) ++ text := by
        simp
      rwa [h, List.getLast?_append_of_ne_nil _ htext] at hc
    rw [htrim]
    exact .intro hne hkey hbefore hafter hvalue

theorem SpellsList.startsKey (h : SpellsList (p :: ps) text) : StartsKey text := by
  cases h with
  | single h => exact h.startsKey
  | cons h =>
    obtain ⟨c, t, rfl, hc⟩ := h.startsKey
    exact ⟨c, _, rfl, hc⟩

theorem SpellsList.trimEnd (h : SpellsList ps text) : SpellsList ps (Text.trimEnd text) := by
  induction h with
  | nil => exact .nil
  | single h => exact .single h.trimEnd
  | @cons p p' ps text separator rest h hseparator hrest ih =>
    obtain ⟨c, t, hct, hc⟩ := hrest.startsKey
    have hkeep : ¬ rest.all Text.isBlank := by
      rw [hct, List.all_cons, not_isBlank_of_isKeyChar hc]
      simp
    have htrim : Text.trimEnd (text ++ (separator ++ rest)) =
        text ++ (separator ++ Text.trimEnd rest) := by
      rw [Text.trimEnd, ← List.append_assoc, Text.dropEnd_append, if_neg hkeep, List.append_assoc,
        Text.trimEnd]
    rw [htrim]
    exact .cons h hseparator ih

theorem parametersFrom_of_spells (h : SpellsList ps text) : parametersFrom text = .ok ps := by
  induction h with
  | nil => rw [parametersFrom, if_pos rfl]
  | @single p text h =>
    obtain ⟨c, t, rfl, -⟩ := h.startsKey
    have hp := parameter_of_spells h (.inl rfl)
    rw [List.append_nil] at hp
    rw [parametersFrom_of_parameter (List.cons_ne_nil c t) hp,
      show afterSeparators [] = [] from rfl,
      parametersFrom, if_pos rfl]
    rfl
  | @cons p p' ps text separator rest h hseparator hrest ih =>
    obtain ⟨c, t, rfl, hc⟩ := hrest.startsKey
    have hp := parameter_of_spells h (hseparator.endsValue (c :: t))
    rw [afterSeparators_separator hseparator (not_isBlank_of_isKeyChar hc) (ne_of_isKeyChar hc).2]
      at hp
    have hne : text ++ (separator ++ c :: t) ≠ [] := by simp
    rw [parametersFrom_of_parameter hne hp, ih]
    rfl

/-! ## Headers -/

theorem splitScheme_append {name rest : List Char} (h : ∀ c ∈ name, Text.isBlank c = false) :
    splitScheme (name ++ ' ' :: rest) = (name, rest) := by
  have hblank : ' ' ∉ name := fun hm => absurd (h ' ' hm) (by decide)
  rw [splitScheme, Text.splitFirst?_append hblank]
  rfl

theorem splitScheme_eq_self {name : List Char} (h : ∀ c ∈ name, Text.isBlank c = false) :
    splitScheme name = (name, []) := by
  have hblank : ' ' ∉ name := fun hm => absurd (h ' ' hm) (by decide)
  rw [splitScheme, Text.splitFirst?_eq_none hblank]
  rfl

theorem parameters_append {gap : List Char} (hgap : gap.all Text.isBlank)
    (h : SpellsList (p :: ps) text) : parameters (gap ++ Text.trimEnd text) = .ok (p :: ps) := by
  obtain ⟨c, t, htext, hc⟩ := h.trimEnd.startsKey
  have hfirst : ∀ d ∈ (Text.trimEnd text).head?, Text.isBlank d = false := by
    rw [htext]
    rintro d ⟨⟩
    exact not_isBlank_of_isKeyChar hc
  rw [parameters, Text.trim_append_trimEnd hgap hfirst, parametersFrom_of_spells h.trimEnd]

theorem trim_header {name before gap after : List Char} (hne : name ≠ [])
    (hname : ∀ c ∈ name, Text.isBlank c = false) (hbefore : before.all Text.isBlank)
    (hkeep : ¬ text.all Text.isBlank) (hafter : after.all Text.isBlank) :
    Text.trim (before ++ (name ++ ' ' :: (gap ++ (text ++ after)))) =
      name ++ ' ' :: (gap ++ Text.trimEnd text) := by
  have hfirst : ∀ c ∈ (name ++ ' ' :: (gap ++ text)).head?, Text.isBlank c = false := by
    rw [List.head?_append_of_ne_nil _ hne]
    exact fun c hc => hname c (List.mem_of_mem_head? hc)
  have hsplit : name ++ ' ' :: (gap ++ (text ++ after)) =
      (name ++ ' ' :: (gap ++ text)) ++ after := by simp
  have hend : name ++ ' ' :: (gap ++ text) = (name ++ ' ' :: gap) ++ text := by simp
  rw [hsplit, Text.trim_surround hbefore hafter hfirst, hend, Text.trimEnd, Text.dropEnd_append,
    if_neg hkeep, Text.trimEnd]
  simp

theorem exists_splitScheme_of_spells {name : List Char} {header : String}
    (h : Spells name ps header) : ∃ rest, Text.trim header.toList ≠ [] ∧
      splitScheme (Text.trim header.toList) = (name, rest) ∧ parameters rest = .ok ps := by
  obtain @⟨before, gap, text, after, hne, hname, hbefore, hgap, hps, hafter⟩ := h
  have hfirst : ∀ c ∈ name.head?, Text.isBlank c = false := fun c hc =>
    hname c (List.mem_of_mem_head? hc)
  have hlast : ∀ c ∈ name.getLast?, Text.isBlank c = false := fun c hc =>
    hname c (List.mem_of_mem_getLast? hc)
  rw [String.toList_ofList]
  cases ps with
  | nil =>
    cases hps
    have hblank : (' ' :: (gap ++ ([] ++ after))).all Text.isBlank := by
      rw [List.all_cons, List.all_append, hgap, List.nil_append, hafter]
      rfl
    refine ⟨[], ?_⟩
    rw [Text.trim_surround hbefore hblank hfirst, Text.trimEnd_eq_self hlast]
    exact ⟨hne, splitScheme_eq_self hname, parametersFrom_of_spells .nil⟩
  | cons p ps =>
    obtain ⟨c, t, htext, hc⟩ := hps.startsKey
    have hkeep : ¬ text.all Text.isBlank := by
      rw [htext, List.all_cons, not_isBlank_of_isKeyChar hc]
      simp
    refine ⟨gap ++ Text.trimEnd text, ?_⟩
    rw [trim_header hne hname hbefore hkeep hafter]
    exact ⟨by simp, splitScheme_append hname, parameters_append hgap hps⟩

/-- **Reading a header.** Of a spelled challenge the scheme is read that its name stands for, and
for `realm`, `service` and `scope` the last value that the parameters hold. The one fault is a
Bearer challenge without a realm. -/
theorem parse_of_spells {name : List Char} {header : String} (h : Spells name ps header) :
    ∃ scheme realm service scope, scheme.Names name ∧ LastValue "realm" ps realm ∧
      LastValue "service" ps service ∧ LastValue "scope" ps scope ∧
      parse header = (if scheme = .bearer ∧ realm = none then .error .noRealm
        else .ok ⟨scheme, realm, service, scope⟩) ∧
      (CatalogError.badChallenge .noRealm).kind = .authDiscovery := by
  obtain ⟨rest, hne, hscheme, hps⟩ := exists_splitScheme_of_spells h
  refine ⟨Scheme.ofName name, lastValue? "realm" ps, lastValue? "service" ps,
    lastValue? "scope" ps, Scheme.names_iff.2 rfl, (lastValue_iff (by decide)).2 rfl,
    (lastValue_iff (by decide)).2 rfl, (lastValue_iff (by decide)).2 rfl, ?_, rfl⟩
  rw [parse]
  split
  · next hnil => exact absurd hnil hne
  · rw [hscheme]
    simp only [hps, bind, Except.bind, pure, Except.pure]
    split_ifs <;> rfl

/-- Parameters with a key that comes twice, one that counts for nothing, and an empty value. -/
def tokenParameters : List Parameter :=
  [⟨"realm".toList, "http://old.test".toList⟩, ⟨"error".toList, "a, b=c".toList⟩,
    ⟨"Realm".toList, "http://auth.test/token?a=1".toList⟩, ⟨"service".toList, []⟩]

/-- A header that spells them, with blanks and commas where they may stand. -/
def tokenHeader : String :=
  " bEARER \t realm=http://old.test , error = \"a, b=c\",,Realm\t=\"http://auth.test/token?a=1\" ,service= \n"

theorem parse_of_spells_tokenHeader :
    Spells "bEARER".toList tokenParameters tokenHeader ∧ parse tokenHeader =
      .ok ⟨.bearer, some "http://auth.test/token?a=1", some "", none⟩ := by
  have hhead : "http://old.test".toList.head? = some 'h' := by decide
  have hlast : "http://old.test".toList.getLast? = some 't' := by decide
  have hold : SpellsParameter ⟨"realm".toList, "http://old.test".toList⟩
      ("realm".toList ++ ([] ++ '=' :: ([] ++ "http://old.test".toList))) := by
    refine .intro (by decide) (by decide) rfl rfl (.bare (by decide) ?_ ?_ ?_)
    · rw [hhead]
      rintro c ⟨⟩
      decide
    · rw [hhead]
      rintro c ⟨⟩
      decide
    · rw [hlast]
      rintro c ⟨⟩
      decide
  have herror : SpellsParameter ⟨"error".toList, "a, b=c".toList⟩
      ("error".toList ++
        (" ".toList ++ '=' :: (" ".toList ++ '"' :: ("a, b=c".toList ++ ['"'])))) :=
    .intro (by decide) (by decide) rfl rfl (.quoted (by decide))
  have hrealm : SpellsParameter ⟨"Realm".toList, "http://auth.test/token?a=1".toList⟩
      ("Realm".toList ++ ("\t".toList ++ '=' ::
        ([] ++ '"' :: ("http://auth.test/token?a=1".toList ++ ['"'])))) :=
    .intro (by decide) (by decide) rfl rfl (.quoted (by decide))
  have hservice : SpellsParameter ⟨"service".toList, []⟩
      ("service".toList ++ ([] ++ '=' :: (" ".toList ++ []))) :=
    .intro (by decide) (by decide) rfl rfl (.bare (by decide) nofun nofun nofun)
  have hlist := SpellsList.cons hold
    ⟨" ".toList, ",".toList, " ".toList, rfl, rfl, rfl, by decide, rfl⟩
    (SpellsList.cons herror ⟨[], ",,".toList, [], rfl, rfl, rfl, by decide, rfl⟩
      (SpellsList.cons hrealm ⟨" ".toList, ",".toList, [], rfl, rfl, rfl, by decide, rfl⟩
        (.single hservice)))
  have hletters : "bEARER".toList.all (!Text.isBlank ·) := by decide
  have hname : ∀ c ∈ "bEARER".toList, Text.isBlank c = false := fun c hc => by
    simpa using List.all_eq_true.1 hletters c hc
  have hspells : Spells "bEARER".toList tokenParameters tokenHeader :=
    @Spells.intro "bEARER".toList tokenParameters " ".toList "\t ".toList _ "\n".toList
      (by decide) hname rfl rfl hlist rfl
  obtain ⟨scheme, realm, service, scope, h1, h2, h3, h4, hparse, -⟩ := parse_of_spells hspells
  rw [Scheme.names_iff] at h1
  rw [lastValue_iff (by decide)] at h2 h3 h4
  refine ⟨hspells, ?_⟩
  rw [hparse, ← h1, ← h2, ← h3, ← h4]
  rfl

end Challenge

end TagCatalog
