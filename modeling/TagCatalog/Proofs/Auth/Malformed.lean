import Mathlib.Data.List.DropRight
import TagCatalog.Proofs.Auth.Pieces

/-!
# Malformed pieces of a challenge

What is read of a header that has malformed pieces among its parameters. The key of a parameter is
all the text in front of its `=`, commas and malformed pieces in it; so a malformed piece is refused
where nothing but malformed pieces follows, and anywhere else it takes the next parameter away.

* `Challenge.Piece`, `Challenge.SpellsPieces`, `Challenge.SpellsHeader`: the spellings of pieces;
* `Challenge.kept`: the parameters that do not stand directly behind a malformed piece;
* `Challenge.Pending`: malformed pieces that wait for an `=`;
* `Challenge.parametersFrom_pending`, `Challenge.parametersFrom_pending_of_malformed`: what is read
  of pieces behind such ones;
* `Challenge.hasMalformed_iff`: the malformed pieces of a text are those that it spells;
* **`Challenge.parse_of_pieces`**: what is read of a header with malformed pieces.
-/

namespace TagCatalog.Challenge

/-! ## Spellings -/

/-- A piece of a header: a parameter, or a text that is none. -/
inductive Piece where
  | parameter (p : Parameter)
  | malformed (text : List Char)

/-- The piece is no parameter. -/
def Piece.isMalformed : Piece → Bool
  | parameter _ => false
  | malformed _ => true

/-- The spelling of a piece has no comma outside of quotes. A malformed piece has no `=`. -/
inductive SpellsPiece : Piece → List Char → Prop
  | parameter {p : Parameter} {text : List Char} (h : SpellsParameter p text)
      (hwhole : isWhole false text) : SpellsPiece (.parameter p) text
  | malformed {text : List Char} (hne : text ≠ []) (hassign : '=' ∉ text)
      (hstart : ∀ c ∈ text.head?, Text.isBlank c = false) (hwhole : isWhole false text) :
    SpellsPiece (.malformed text) text

/-- The spellings of pieces, of which there is at least one. -/
inductive SpellsPieces : List Piece → List Char → Prop
  | single {x : Piece} {text : List Char} (h : SpellsPiece x text) : SpellsPieces [x] text
  | cons {x y : Piece} {xs : List Piece} {text separator rest : List Char}
      (h : SpellsPiece x text) (hseparator : IsSeparator separator)
      (hrest : SpellsPieces (y :: xs) rest) :
    SpellsPieces (x :: y :: xs) (text ++ (separator ++ rest))

/-- A header spells pieces behind the name of a scheme. -/
inductive SpellsHeader (name : List Char) (xs : List Piece) : String → Prop
  | intro {before gap text after : List Char} (hne : name ≠ [])
      (hname : ∀ c ∈ name, Text.isBlank c = false) (hbefore : before.all Text.isBlank)
      (hgap : gap.all Text.isBlank) (hxs : SpellsPieces xs text)
      (hend : ∀ c ∈ text.getLast?, Text.isBlank c = false) (hafter : after.all Text.isBlank) :
    SpellsHeader name xs (String.ofList (before ++ (name ++ ' ' :: (gap ++ (text ++ after)))))

/-- The parameters that do not stand directly behind a malformed piece. With `pending` such a piece
stands in front. -/
def kept : Bool → List Piece → List Parameter
  | _, [] => []
  | pending, .parameter p :: xs => if pending then kept false xs else p :: kept false xs
  | _, .malformed _ :: xs => kept true xs

variable {x y : Piece} {xs pre : List Piece} {p : Parameter} {ps : List Parameter}
  {text rest gap q m : List Char} {key header : String} {name : List Char}

theorem SpellsPiece.exists_cons (h : SpellsPiece x text) :
    ∃ c t, text = c :: t ∧ Text.isBlank c = false ∧ c ≠ ',' := by
  cases h with
  | parameter h =>
    obtain ⟨c, t, htext, hc⟩ := h.startsKey
    exact ⟨c, t, htext, not_isBlank_of_isKeyChar hc, (ne_of_isKeyChar hc).2⟩
  | malformed hne _ hstart hwhole =>
    obtain ⟨c, t, rfl⟩ := List.exists_cons_of_ne_nil hne
    exact ⟨c, t, rfl, hstart c rfl, fun hc => Bool.false_ne_true ((isWhole_cons_iff.1 hwhole).1 hc)⟩

theorem SpellsPiece.isWhole (h : SpellsPiece x text) : isWhole false text := by
  cases h with
  | parameter _ hwhole => exact hwhole
  | malformed _ _ _ hwhole => exact hwhole

theorem SpellsPieces.exists_cons (h : SpellsPieces xs text) :
    ∃ c t, text = c :: t ∧ Text.isBlank c = false ∧ c ≠ ',' := by
  cases h with
  | single h => exact h.exists_cons
  | cons h =>
    obtain ⟨c, t, rfl, hc⟩ := h.exists_cons
    exact ⟨c, _, rfl, hc⟩

theorem SpellsPieces.head?_not_blank (h : SpellsPieces xs text) :
    ∀ c ∈ text.head?, Text.isBlank c = false := by
  obtain ⟨c, t, rfl, hc, -⟩ := h.exists_cons
  rintro _ ⟨⟩
  exact hc

theorem SpellsPieces.afterSeparators {separator : List Char} (hseparator : IsSeparator separator)
    (h : SpellsPieces xs rest) : afterSeparators (separator ++ rest) = rest := by
  obtain ⟨c, t, rfl, hblank, hcomma⟩ := h.exists_cons
  exact afterSeparators_separator hseparator hblank hcomma t

/-! ## Malformed pieces that wait -/

/-- Malformed pieces, each with a separator behind it. -/
inductive Pending : List Piece → List Char → Prop
  | nil : Pending [] []
  | snoc {pre : List Piece} {q m separator : List Char} (h : Pending pre q)
      (hm : SpellsPiece (.malformed m) m) (hseparator : IsSeparator separator) :
    Pending (pre ++ [.malformed m]) (q ++ (m ++ separator))

theorem IsSeparator.of_mem {s : List Char} (h : IsSeparator s) {c : Char} (hc : c ∈ s) :
    Text.isBlank c ∨ c = ',' := by
  obtain ⟨before, commas, after, rfl, hbefore, hafter, -, hcommas⟩ := h
  rw [List.mem_append, List.mem_append] at hc
  obtain hc | hc | hc := hc
  · exact .inl (List.all_eq_true.1 hbefore c hc)
  · exact .inr (beq_iff_eq.1 (List.all_eq_true.1 hcommas c hc))
  · exact .inl (List.all_eq_true.1 hafter c hc)

theorem IsSeparator.comma_mem {s : List Char} (h : IsSeparator s) : ',' ∈ s := by
  obtain ⟨before, commas, after, rfl, -, -, hne, hcommas⟩ := h
  obtain ⟨c, commas, rfl⟩ := List.exists_cons_of_ne_nil hne
  have hc : c = ',' := by simpa using List.all_eq_true.1 hcommas c List.mem_cons_self
  simp [hc]

namespace Pending

theorem assign_not_mem (h : Pending pre q) : '=' ∉ q := by
  induction h with
  | nil => exact List.not_mem_nil
  | snoc _ hm hseparator ih =>
    cases hm with
    | malformed _ hassign =>
      rw [List.mem_append, List.mem_append, not_or, not_or]
      refine ⟨ih, hassign, fun hc => ?_⟩
      exact (hseparator.of_mem hc).elim (fun h => nomatch h) (fun h => nomatch h)

theorem head?_not_blank (h : Pending pre q) : ∀ c ∈ q.head?, Text.isBlank c = false := by
  induction h with
  | nil => nofun
  | @snoc _ q m separator _ hm _ ih =>
    cases q with
    | nil =>
      obtain ⟨c, t, rfl, hc, -⟩ := hm.exists_cons
      rintro _ ⟨⟩
      exact hc
    | cons => exact ih

theorem comma_mem_iff (h : Pending pre q) : ',' ∈ q ↔ pre ≠ [] := by
  cases h with
  | nil => exact iff_of_false List.not_mem_nil (not_not.2 rfl)
  | snoc _ _ hseparator =>
    exact iff_of_true (List.mem_append_right _ (List.mem_append_right _ hseparator.comma_mem))
      (by simp)

theorem spellsPieces (h : Pending pre q) (hxs : SpellsPieces (x :: xs) text) :
    SpellsPieces (pre ++ x :: xs) (q ++ text) := by
  induction h generalizing x xs text with
  | nil => exact hxs
  | snoc _ hm hseparator ih =>
    have hmore := ih (.cons hm hseparator hxs)
    simpa only [List.append_assoc, List.singleton_append] using hmore

theorem all_isMalformed (h : Pending pre q) : ∀ x ∈ pre, x.isMalformed := by
  induction h with
  | nil => exact List.forall_mem_nil _
  | snoc _ _ _ ih =>
    rw [List.forall_mem_append, List.forall_mem_singleton]
    exact ⟨ih, rfl⟩

end Pending

/-! ## Reading pieces -/

/-- A key without a comma. -/
def isNamed (p : Parameter) : Bool := !p.key.contains ','

theorem isNamed_iff : isNamed p ↔ ',' ∉ p.key := by simp [isNamed]

theorem SpellsParameter.comma_not_mem (h : SpellsParameter p text) : ',' ∉ p.key := by
  obtain ⟨-, hkey, -, -, -⟩ := h
  exact fun hc => (ne_of_isKeyChar (List.all_eq_true.1 hkey _ hc)).2 rfl

theorem parameter_of_pending (hq : Pending pre q) (h : SpellsParameter p text)
    (hrest : EndsValue rest) :
    parameter (q ++ text ++ rest) = .ok (⟨q ++ p.key, p.value⟩, afterSeparators rest) :=
  parameter_behind hq.assign_not_mem hq.head?_not_blank h hrest

theorem isNamed_append_iff (hq : Pending pre q) (h : SpellsParameter p text) :
    isNamed ⟨q ++ p.key, p.value⟩ ↔ pre = [] := by
  rw [isNamed_iff, List.mem_append, not_or, hq.comma_mem_iff, not_not]
  exact and_iff_left h.comma_not_mem

theorem filter_isNamed_cons (hq : Pending pre q) (h : SpellsParameter p text)
    (hps : ps.filter isNamed = kept false xs) :
    (⟨q ++ p.key, p.value⟩ :: ps : List Parameter).filter isNamed =
      kept (!pre.isEmpty) (.parameter p :: xs) := by
  have hnamed := isNamed_append_iff hq h
  cases hq with
  | nil =>
    rw [List.filter_cons_of_pos (hnamed.2 rfl), hps]
    rfl
  | snoc =>
    rw [List.filter_cons_of_neg fun hp => absurd (hnamed.1 hp) (by simp), hps, kept,
      if_pos (by simp)]

theorem parametersFrom_single (hq : Pending pre q) (h : SpellsParameter p text) :
    parametersFrom (q ++ text) = .ok [⟨q ++ p.key, p.value⟩] := by
  obtain ⟨c, t, htext, -⟩ := h.startsKey
  have hp := parameter_of_pending hq h (.inl rfl)
  rw [List.append_nil] at hp
  rw [parametersFrom_of_parameter (by simp [htext]) hp, show afterSeparators [] = [] from rfl,
    parametersFrom, if_pos rfl]
  rfl

theorem parametersFrom_cons {separator : List Char} (hq : Pending pre q)
    (h : SpellsParameter p text) (hseparator : IsSeparator separator)
    (hrest : SpellsPieces xs rest) :
    parametersFrom (q ++ (text ++ (separator ++ rest))) =
      (parametersFrom rest).map (⟨q ++ p.key, p.value⟩ :: ·) := by
  obtain ⟨c, t, htext, -⟩ := h.startsKey
  have hp := parameter_of_pending hq h (hseparator.endsValue rest)
  rw [hrest.afterSeparators hseparator, List.append_assoc] at hp
  exact parametersFrom_of_parameter (by simp [htext]) hp

/-- **Reading pieces that end in a parameter** behind malformed ones gives the parameters that do
not stand directly behind a malformed piece, and others whose keys have commas. -/
theorem parametersFrom_pending (h : SpellsPieces xs text) (hq : Pending pre q)
    (hlast : ∃ p, xs.getLast? = some (.parameter p)) :
    ∃ ps, parametersFrom (q ++ text) = .ok ps ∧ ps.filter isNamed = kept (!pre.isEmpty) xs := by
  induction h generalizing pre q with
  | single h =>
    cases h with
    | parameter h => exact ⟨_, parametersFrom_single hq h, filter_isNamed_cons hq h rfl⟩
    | malformed =>
      obtain ⟨p, hp⟩ := hlast
      nomatch hp
  | @cons _ y xs _ _ _ h hseparator hrest ih =>
    cases h with
    | parameter h =>
      obtain ⟨ps, hps, hkept⟩ := ih .nil hlast
      rw [List.nil_append] at hps
      refine ⟨_, ?_, filter_isNamed_cons hq h hkept⟩
      rw [parametersFrom_cons hq h hseparator hrest, hps]
      rfl
    | malformed hne hassign hstart hwhole =>
      obtain ⟨ps, hps, hkept⟩ := ih (hq.snoc (.malformed hne hassign hstart hwhole) hseparator) hlast
      refine ⟨ps, ?_, hkept.trans ?_⟩
      · rwa [List.append_assoc, List.append_assoc] at hps
      · cases pre <;> rfl

theorem parametersFrom_of_assign_not_mem (hne : text ≠ []) (h : '=' ∉ text) :
    parametersFrom text = .error (.malformed (String.ofList text)) := by
  rw [parametersFrom, if_neg hne]
  split
  · next e he =>
    rw [parameter, Text.splitFirst?_eq_none h] at he
    cases he
    rfl
  · next he =>
    rw [parameter, Text.splitFirst?_eq_none h] at he
    cases he

theorem rtakeWhile_append_parameter (pre : List Piece) (p : Parameter) (xs : List Piece) :
    (pre ++ .parameter p :: xs).rtakeWhile Piece.isMalformed =
      xs.rtakeWhile Piece.isMalformed := by
  induction xs using List.reverseRecOn with
  | nil => exact List.rtakeWhile_concat_neg _ _ _ Bool.false_ne_true
  | append_singleton xs x ih =>
    rw [← List.cons_append, ← List.append_assoc, List.rtakeWhile_concat, List.rtakeWhile_concat, ih]

/-- **Reading pieces that end in a malformed one** gives up at the first of those at the end. -/
theorem parametersFrom_pending_of_malformed (h : SpellsPieces xs text) (hq : Pending pre q)
    (hlast : ∃ m, xs.getLast? = some (.malformed m)) :
    ∃ rest, SpellsPieces ((pre ++ xs).rtakeWhile Piece.isMalformed) rest ∧
      parametersFrom (q ++ text) = .error (.malformed (String.ofList rest)) := by
  induction h generalizing pre q with
  | @single x text h =>
    cases h with
    | parameter =>
      obtain ⟨m, hm⟩ := hlast
      nomatch hm
    | malformed hne hassign hstart hwhole =>
      refine ⟨q ++ text, ?_, ?_⟩
      · have hall : (pre ++ [Piece.malformed text]).rtakeWhile Piece.isMalformed =
            pre ++ [.malformed text] := by
          rw [List.rtakeWhile_eq_self_iff, List.forall_mem_append, List.forall_mem_singleton]
          exact ⟨hq.all_isMalformed, rfl⟩
        rw [hall]
        exact hq.spellsPieces (.single (.malformed hne hassign hstart hwhole))
      · refine parametersFrom_of_assign_not_mem (by simp [hne]) ?_
        rw [List.mem_append, not_or]
        exact ⟨hq.assign_not_mem, hassign⟩
  | @cons x y xs _ _ _ h hseparator hrest ih =>
    cases h with
    | @parameter p _ h =>
      obtain ⟨rest, hspells, herror⟩ := ih .nil hlast
      refine ⟨rest, ?_, ?_⟩
      · rw [rtakeWhile_append_parameter]
        exact hspells
      · rw [List.nil_append] at herror
        rw [parametersFrom_cons hq h hseparator hrest, herror]
        rfl
    | @malformed m hne hassign hstart hwhole =>
      obtain ⟨rest, hspells, herror⟩ :=
        ih (hq.snoc (.malformed hne hassign hstart hwhole) hseparator) hlast
      refine ⟨rest, ?_, ?_⟩
      · rwa [List.append_assoc, List.singleton_append] at hspells
      · rwa [List.append_assoc, List.append_assoc] at herror

/-! ## The malformed pieces of a text -/

/-- A piece of a text is malformed. -/
def HasMalformed (s : List Char) : Prop := ∃ t ∈ pieces s, IsMalformed t

theorem hasMalformed_of_isWhole (h : isWhole false text) :
    HasMalformed text ↔ IsMalformed text := by
  rw [HasMalformed, pieces, cut_of_isWhole h]
  simp

theorem hasMalformed_append (h : isWhole false text) (s : List Char) :
    HasMalformed (text ++ ',' :: s) ↔ IsMalformed text ∨ HasMalformed s := by
  rw [HasMalformed, pieces, cut_append_of_isWhole h]
  simp [HasMalformed, pieces]

theorem not_isMalformed_nil : ¬ IsMalformed [] := by decide

theorem hasMalformed_commas {commas : List Char} (h : commas.all (· == ',')) (s : List Char) :
    HasMalformed (commas ++ s) ↔ HasMalformed s := by
  induction commas with
  | nil => rfl
  | cons c commas ih =>
    rw [List.all_cons, Bool.and_eq_true, beq_iff_eq] at h
    have hsplit : c :: commas ++ s = [] ++ ',' :: (commas ++ s) := by rw [h.1]; rfl
    rw [hsplit, hasMalformed_append rfl, ih h.2]
    exact or_iff_right not_isMalformed_nil

theorem isMalformed_surround {before after : List Char} (hbefore : before.all Text.isBlank)
    (hafter : after.all Text.isBlank) :
    IsMalformed (before ++ (text ++ after)) ↔ IsMalformed text := by
  have hno : ∀ s : List Char, s.all Text.isBlank → '=' ∉ s := fun s hs hc =>
    absurd (List.all_eq_true.1 hs _ hc) (by decide)
  simp [IsMalformed, hno before hbefore, hno after hafter, hbefore, hafter]

theorem SpellsPiece.isMalformed_iff (h : SpellsPiece x text) :
    IsMalformed text ↔ x.isMalformed := by
  obtain ⟨c, t, htext, hc, -⟩ := h.exists_cons
  cases h with
  | parameter h =>
    cases h with
    | intro => exact iff_of_false (fun hm => hm.1 (by simp)) Bool.false_ne_true
  | malformed hne hassign =>
    refine iff_of_true ⟨hassign, fun hall => ?_⟩ rfl
    rw [htext, List.all_cons, hc] at hall
    nomatch hall

/-- **The malformed pieces of a text** are those that it spells. -/
theorem hasMalformed_iff (h : SpellsPieces xs text) (hgap : gap.all Text.isBlank) :
    HasMalformed (gap ++ text) ↔ ∃ x ∈ xs, x.isMalformed := by
  induction h generalizing gap with
  | @single x text h =>
    have hsurround : IsMalformed (gap ++ (text ++ [])) ↔ IsMalformed text :=
      isMalformed_surround hgap rfl
    rw [List.append_nil] at hsurround
    rw [hasMalformed_of_isWhole (isWhole_append (isWhole_of_blank hgap) h.isWhole), hsurround,
      h.isMalformed_iff]
    simp
  | @cons x y xs text separator rest h hseparator hrest ih =>
    obtain ⟨before, commas, after, rfl, hbefore, hafter, hne, hcommas⟩ := hseparator
    obtain ⟨c, commas, rfl⟩ := List.exists_cons_of_ne_nil hne
    rw [List.all_cons, Bool.and_eq_true, beq_iff_eq] at hcommas
    have hsplit : gap ++ (text ++ (before ++ (c :: commas ++ after) ++ rest)) =
        (gap ++ (text ++ before)) ++ ',' :: (commas ++ (after ++ rest)) := by
      simp [hcommas.1]
    have hwhole : isWhole false (gap ++ (text ++ before)) :=
      isWhole_append (isWhole_of_blank hgap) (isWhole_append h.isWhole (isWhole_of_blank hbefore))
    rw [hsplit, hasMalformed_append hwhole, isMalformed_surround hgap hbefore, h.isMalformed_iff,
      hasMalformed_commas hcommas.2, ih hafter]
    exact (List.exists_mem_cons_iff (·.isMalformed = true) x (y :: xs)).symm

/-! ## Headers -/

theorem SpellsHeader.exists_text (h : SpellsHeader name xs header) :
    ∃ gap text, SpellsPieces xs text ∧ gap.all Text.isBlank ∧
      splitScheme (Text.trim header.toList) = (name, gap ++ text) ∧
      Text.trim header.toList ≠ [] ∧ Text.trim (gap ++ text) = text := by
  obtain @⟨before, gap, text, after, hne, hname, hbefore, hgap, hxs, hend, hafter⟩ := h
  refine ⟨gap, text, hxs, hgap, ?_⟩
  have hkeep : ¬ text.all Text.isBlank := by
    obtain ⟨c, t, rfl, hc, -⟩ := hxs.exists_cons
    rw [List.all_cons, hc]
    exact Bool.false_ne_true
  have htext := Text.trim_append_trimEnd hgap (s := text)
  rw [Text.trimEnd_eq_self hend] at htext
  rw [String.toList_ofList, trim_header hne hname hbefore hkeep hafter, Text.trimEnd_eq_self hend]
  exact ⟨splitScheme_append hname, by simp [hne], htext hxs.head?_not_blank⟩

theorem lastValue?_filter_isNamed (hkey : ',' ∉ key.toList) (ps : List Parameter) :
    lastValue? key (ps.filter isNamed) = lastValue? key ps := by
  have hnamed : ∀ p : Parameter, p.key.map Char.toLower == key.toList → isNamed p := by
    intro p hp
    refine isNamed_iff.2 fun hc => hkey ?_
    rw [← beq_iff_eq.1 hp]
    exact List.mem_map.2 ⟨',', hc, rfl⟩
  rw [lastValue?, ← List.filter_reverse, List.find?_filter, lastValue?]
  congr 2
  funext p
  cases hp : p.key.map Char.toLower == key.toList with
  | false => exact decide_eq_false fun h => Bool.false_ne_true h.2
  | true => exact decide_eq_true ⟨hnamed p hp, rfl⟩

theorem ofParameters_filter_isNamed (name : List Char) (ps : List Parameter) :
    ofParameters name (ps.filter isNamed) = ofParameters name ps := by
  rw [ofParameters, lastValue?_filter_isNamed (by decide), lastValue?_filter_isNamed (by decide),
    lastValue?_filter_isNamed (by decide), ofParameters]

/-- **Malformed pieces.** A header is refused if a piece of it is malformed and neither `=` nor a
quote stands in it or behind it. Of parameters and malformed pieces, whatever stands in them, the
header is refused if it ends in a malformed piece. Otherwise it is read as if neither the malformed
pieces nor the parameters directly behind them were there. -/
theorem parse_of_pieces (header : String) :
    (∀ front piece back, pieces (parameterPart header) = front ++ piece :: back →
      IsMalformed piece → (∀ t ∈ piece :: back, '=' ∉ t ∧ '"' ∉ t) →
      ∃ fault, parse header = .error fault ∧
        (CatalogError.badChallenge fault).kind = .authDiscovery) ∧
    ∀ name xs, SpellsHeader name xs header →
      (HasMalformed (parameterPart header) ↔ ∃ x ∈ xs, x.isMalformed) ∧
      (∀ m, xs.getLast? = some (.malformed m) →
        ∃ rest, SpellsPieces (xs.rtakeWhile Piece.isMalformed) rest ∧
          parse header = .error (.malformed (String.ofList rest))) ∧
      ∀ p, xs.getLast? = some (.parameter p) →
        ∃ scheme realm service scope, scheme.Names name ∧ LastValue "realm" (kept false xs) realm ∧
          LastValue "service" (kept false xs) service ∧ LastValue "scope" (kept false xs) scope ∧
          parse header = (if scheme = .bearer ∧ realm = none then .error .noRealm
            else .ok ⟨scheme, realm, service, scope⟩) := by
  constructor
  · intro front piece back hpieces hpiece hback
    obtain ⟨fault, hfault⟩ := parse_of_dangling hpieces hpiece hback
    exact ⟨fault, hfault, rfl⟩
  · intro name xs h
    obtain ⟨gap, text, hxs, hgap, hsplit, hne, htrim⟩ := h.exists_text
    have hpart : parameterPart header = gap ++ text := congrArg Prod.snd hsplit
    refine ⟨hpart ▸ hasMalformed_iff hxs hgap, fun m hm => ?_, fun p hp => ?_⟩
    · obtain ⟨rest, hrest, herror⟩ := parametersFrom_pending_of_malformed hxs .nil ⟨m, hm⟩
      refine ⟨rest, hrest, parse_of_error ?_⟩
      rw [hpart, parameters, htrim]
      exact herror
    · obtain ⟨ps, hps, hkept⟩ := parametersFrom_pending hxs .nil ⟨p, hp⟩
      have hparameters : parameters (gap ++ text) = .ok ps := by
        rw [parameters, htrim]
        exact hps
      have hparse := parse_of_parameters hne hsplit hparameters
      have hkeep := ofParameters_filter_isNamed name ps
      rw [hkept] at hkeep
      refine ⟨Scheme.ofName name, lastValue? "realm" ps, lastValue? "service" ps,
        lastValue? "scope" ps, Scheme.names_iff.2 rfl, ?_, ?_, ?_, hparse⟩
      · exact (lastValue_iff (by decide)).2 (congrArg Challenge.realm hkeep)
      · exact (lastValue_iff (by decide)).2 (congrArg Challenge.service hkeep)
      · exact (lastValue_iff (by decide)).2 (congrArg Challenge.scope hkeep)

/-- A header that ends in a malformed piece. -/
def strayEnd : String := "Bearer realm=\"http://auth.test/token\", foo"

/-- A header with a malformed piece between its parameters. -/
def strayBetween : String :=
  "Bearer realm=\"http://auth.test/token\", foo, service=\"reg\", scope=\"a,b\""

/-- The pieces of the second header. -/
def strayPieces : List Piece :=
  [.parameter ⟨"realm".toList, "http://auth.test/token".toList⟩, .malformed "foo".toList,
    .parameter ⟨"service".toList, "reg".toList⟩, .parameter ⟨"scope".toList, "a,b".toList⟩]

theorem isSeparator_comma : IsSeparator ", ".toList :=
  ⟨[], ",".toList, " ".toList, rfl, rfl, rfl, by decide, rfl⟩

theorem spellsHeader_strayBetween : SpellsHeader "Bearer".toList strayPieces strayBetween := by
  have hquoted : ∀ key v : List Char, key ≠ [] → key.all isKeyChar → '"' ∉ v →
      isWhole false (key ++ '=' :: '"' :: (v ++ ['"'])) →
      SpellsPiece (.parameter ⟨key, v⟩) (key ++ ([] ++ '=' :: ([] ++ '"' :: (v ++ ['"'])))) :=
    fun _ _ hne hkey hv hwhole => .parameter (.intro hne hkey rfl rfl (.quoted hv)) hwhole
  have hrealm := hquoted "realm".toList "http://auth.test/token".toList (by decide) (by decide)
    (by decide) (by decide)
  have hservice := hquoted "service".toList "reg".toList (by decide) (by decide) (by decide)
    (by decide)
  have hscope := hquoted "scope".toList "a,b".toList (by decide) (by decide) (by decide) (by decide)
  have hstray : SpellsPiece (.malformed "foo".toList) "foo".toList :=
    .malformed (by decide) (by decide) (by rintro _ ⟨⟩; rfl) (by decide)
  have hpieces : SpellsPieces strayPieces _ := .cons hrealm isSeparator_comma
    (.cons hstray isSeparator_comma (.cons hservice isSeparator_comma (.single hscope)))
  have hname : ∀ c ∈ "Bearer".toList, Text.isBlank c = false := by decide
  exact @SpellsHeader.intro "Bearer".toList strayPieces [] [] _ [] (by decide) hname rfl rfl hpieces
    (by rintro _ ⟨⟩; rfl) rfl

/-- At the end a malformed piece is refused, and before another parameter it takes that away. -/
theorem parse_of_pieces_stray :
    (∃ fault, parse strayEnd = .error fault) ∧
      parse strayBetween = .ok ⟨.bearer, some "http://auth.test/token", none, some "a,b"⟩ := by
  constructor
  · obtain ⟨fault, hfault, -⟩ := (parse_of_pieces strayEnd).1
      ["realm=\"http://auth.test/token\"".toList] " foo".toList [] (by decide +kernel) (by decide)
      (by decide)
    exact ⟨fault, hfault⟩
  · obtain ⟨scheme, realm, service, scope, h1, h2, h3, h4, hparse⟩ :=
      ((parse_of_pieces strayBetween).2 _ _ spellsHeader_strayBetween).2.2 _ rfl
    rw [Scheme.names_iff] at h1
    rw [lastValue_iff (by decide)] at h2 h3 h4
    rw [hparse, ← h1, ← h2, ← h3, ← h4]
    rfl

/-- A malformed piece between two parameters is no error, and the second of them is lost. -/
theorem parse_strayService :
    HasMalformed (parameterPart "Bearer realm=\"http://auth.test/token\", foo, service=\"reg\"") ∧
      parse "Bearer realm=\"http://auth.test/token\", foo, service=\"reg\"" =
        .ok ⟨.bearer, some "http://auth.test/token", none, none⟩ := by
  exact ⟨⟨" foo".toList, by decide +kernel, by decide⟩, by decide +kernel⟩

end TagCatalog.Challenge
