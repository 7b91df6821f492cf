import TagCatalog.Auth.ChallengeSet
import TagCatalog.Proofs.Auth.Challenge

/-!
# Challenges in one field and in a field each

A reply may state each of its challenges in a field of its own, or all of them in one field with
commas between them. Of one field one challenge is read: what stands behind a comma goes on as
parameters of the first challenge, and the first parameter of every later challenge gets the name of
its scheme into its key.

* `Challenge.Stated`, `Challenge.joined`: challenges as they are stated, and several in one field;
* `Challenge.lastValue?_append`, `Challenge.Stated.parametersFrom_header`: how parameters go on;
* `Challenge.parse_joined`: what is read of several challenges in one field;
* **`ChallengeSet.ofReply_eq_iff_single`**: the two framings give the same challenges only where
  there is one.
-/

namespace TagCatalog

namespace Challenge

/-- The challenge of a scheme's name and parameters. -/
def ofParameters (name : List Char) (ps : List Parameter) : Challenge :=
  ⟨Scheme.ofName name, lastValue? "realm" ps, lastValue? "service" ps, lastValue? "scope" ps⟩

/-- A challenge as it is stated: the name of a scheme and, behind blanks, its parameters. A Bearer
challenge has a realm. -/
structure Stated where
  name : List Char
  gap : List Char
  text : List Char
  first : Parameter
  others : List Parameter
  name_ne : name ≠ []
  name_chars : name.all isKeyChar
  gap_blank : gap.all Text.isBlank
  spelled : SpellsList (first :: others) text
  text_ends : ∀ c ∈ text.getLast?, Text.isBlank c = false
  realm_of_bearer : Scheme.ofName name = .bearer → lastValue? "realm" (first :: others) ≠ none

namespace Stated

/-- The text of a challenge. -/
def header (s : Stated) : List Char := s.name ++ ' ' :: (s.gap ++ s.text)

/-- The challenge that is stated. -/
def challenge (s : Stated) : Challenge := ofParameters s.name (s.first :: s.others)

/-- The first parameter with the name of the scheme in its key. -/
def swallowed (s : Stated) : Parameter := ⟨s.name ++ ' ' :: (s.gap ++ s.first.key), s.first.value⟩

end Stated

/-- Challenges with commas in front of them. -/
def following (ss : List Stated) : List Char := ss.flatMap fun s => ", ".toList ++ s.header

/-- Challenges in one field. -/
def joined (s : Stated) (ss : List Stated) : List Char := s.header ++ following ss

/-- The first of some challenges with the parameters of the others, those apart that come first. -/
def merged (s : Stated) (ss : List Stated) : Challenge :=
  ofParameters s.name (s.first :: s.others ++ ss.flatMap (·.others))

variable {p : Parameter} {ps qs : List Parameter} {text rest more : List Char} {key : String}

/-! ## The last value of a key -/

theorem lastValue?_append (key : String) (ps qs : List Parameter) :
    lastValue? key (ps ++ qs) = (lastValue? key qs).or (lastValue? key ps) := by
  rw [lastValue?, List.reverse_append, List.find?_append, Option.map_or, ← lastValue?, ← lastValue?]

theorem lastValue?_swallowed (s : Stated) (hkey : ' ' ∉ key.toList) (ps : List Parameter) :
    lastValue? key (s.swallowed :: ps) = lastValue? key ps := by
  have hne : s.swallowed.key.map Char.toLower ≠ key.toList := by
    intro h
    refine hkey (h ▸ List.mem_map.2 ⟨' ', ?_, rfl⟩)
    simp [Stated.swallowed]
  have hnone : lastValue? key [s.swallowed] = none := by simp [lastValue?, hne]
  rw [← List.singleton_append, lastValue?_append, hnone, Option.or_none]

theorem lastValue?_flatMap (hkey : ' ' ∉ key.toList) (ss : List Stated) :
    lastValue? key (ss.flatMap fun s => s.swallowed :: s.others) =
      lastValue? key (ss.flatMap (·.others)) := by
  induction ss with
  | nil => rfl
  | cons s ss ih =>
    rw [List.flatMap_cons, lastValue?_append, ih, lastValue?_swallowed s hkey, List.flatMap_cons,
      lastValue?_append]

theorem ofParameters_append (s : Stated) (ss : List Stated) :
    ofParameters s.name (s.first :: s.others ++ ss.flatMap fun s => s.swallowed :: s.others) =
      merged s ss := by
  have hsame : ∀ key : String, ' ' ∉ key.toList →
      lastValue? key (s.first :: s.others ++ ss.flatMap fun s => s.swallowed :: s.others) =
        lastValue? key (s.first :: s.others ++ ss.flatMap (·.others)) := fun key hkey => by
    rw [lastValue?_append, lastValue?_flatMap hkey, lastValue?_append]
  rw [ofParameters, hsame "realm" (by decide), hsame "service" (by decide),
    hsame "scope" (by decide), merged, ofParameters]

theorem merged_realm_ne_none (s : Stated) (ss : List Stated)
    (h : (merged s ss).scheme = .bearer) : (merged s ss).realm ≠ none := by
  have hrealm := s.realm_of_bearer h
  intro hnone
  rw [merged, ofParameters, lastValue?_append, Option.or_eq_none_iff] at hnone
  exact hrealm hnone.2

/-! ## Parameters that go on -/

/-- What follows a parameter: nothing, or a separator and a text that reads as parameters. -/
inductive Continues : List Char → List Parameter → Prop
  | nil : Continues [] []
  | more {separator rest : List Char} {ps : List Parameter} (hseparator : IsSeparator separator)
      (hstart : StartsKey rest) (hrest : parametersFrom rest = .ok ps) :
    Continues (separator ++ rest) ps

theorem Continues.endsValue (h : Continues rest ps) : EndsValue rest := by
  cases h with
  | nil => exact .inl rfl
  | more hseparator => exact hseparator.endsValue _

theorem Continues.parametersFrom (h : Continues rest ps) :
    parametersFrom (afterSeparators rest) = .ok ps := by
  cases h with
  | nil =>
    rw [show afterSeparators [] = [] from rfl, Challenge.parametersFrom, if_pos rfl]
  | more hseparator hstart hrest =>
    obtain ⟨c, t, rfl, hc⟩ := hstart
    rw [afterSeparators_separator hseparator (not_isBlank_of_isKeyChar hc) (ne_of_isKeyChar hc).2,
      hrest]

theorem Continues.cons (h : Continues rest ps) (hstart : StartsKey text)
    (hp : parameter (text ++ rest) = .ok (p, afterSeparators rest)) :
    Challenge.parametersFrom (text ++ rest) = .ok (p :: ps) := by
  obtain ⟨c, t, rfl, -⟩ := hstart
  rw [parametersFrom_of_parameter (by simp) hp, h.parametersFrom]
  rfl

theorem SpellsList.exists_continues (h : SpellsList (p :: ps) text) :
    ∃ t tail, text = t ++ tail ∧ SpellsParameter p t ∧
      ∀ {more qs}, Continues more qs → Continues (tail ++ more) (ps ++ qs) := by
  induction ps generalizing p text with
  | nil =>
    cases h with
    | single h => exact ⟨text, [], by simp, h, fun hmore => hmore⟩
  | cons p' ps ih =>
    cases h with
    | @cons _ _ _ text separator rest h hseparator hrest =>
      obtain ⟨t, tail, rfl, ht, htail⟩ := ih hrest
      refine ⟨text, separator ++ (t ++ tail), rfl, h, fun {more qs} hmore => ?_⟩
      obtain ⟨c, t', ht', hc⟩ := ht.startsKey
      rw [List.append_assoc, List.append_assoc]
      refine .more hseparator ⟨c, t' ++ (tail ++ more), by rw [ht']; rfl, hc⟩ ?_
      exact (htail hmore).cons ht.startsKey (parameter_of_spells ht (htail hmore).endsValue)

theorem parametersFrom_append (h : SpellsList (p :: ps) text) (hmore : Continues more qs) :
    parametersFrom (text ++ more) = .ok (p :: ps ++ qs) := by
  obtain ⟨t, tail, rfl, ht, htail⟩ := h.exists_continues
  rw [List.append_assoc]
  exact (htail hmore).cons ht.startsKey (parameter_of_spells ht (htail hmore).endsValue)

namespace Stated

theorem startsKey_append (s : Stated) (rest : List Char) : StartsKey (s.name ++ rest) := by
  obtain ⟨c, name, hname⟩ := List.exists_cons_of_ne_nil s.name_ne
  refine ⟨c, name ++ rest, by rw [hname]; rfl, ?_⟩
  exact List.all_eq_true.1 s.name_chars c (hname ▸ List.mem_cons_self)

theorem parameter_named (s : Stated) (h : SpellsParameter p text) (hrest : EndsValue rest) :
    parameter (s.name ++ ' ' :: (s.gap ++ text) ++ rest) =
      .ok (⟨s.name ++ ' ' :: (s.gap ++ p.key), p.value⟩, afterSeparators rest) := by
  have hnameChar := List.all_eq_true.1 s.name_chars
  have hassign : '=' ∉ s.name ++ ' ' :: s.gap := by
    rw [List.mem_append, List.mem_cons, not_or, not_or]
    exact ⟨fun h => (ne_of_isKeyChar (hnameChar _ h)).1 rfl, by decide,
      fun h => absurd (List.all_eq_true.1 s.gap_blank _ h) (by decide)⟩
  have hstart : ∀ c ∈ (s.name ++ ' ' :: s.gap).head?, Text.isBlank c = false := by
    rw [List.head?_append_of_ne_nil _ s.name_ne]
    exact fun c hc => not_isBlank_of_isKeyChar (hnameChar c (List.mem_of_mem_head? hc))
  have hfront := parameter_behind hassign hstart h hrest
  simpa only [List.append_assoc, List.cons_append] using hfront

theorem parametersFrom_header (s : Stated) (hmore : Continues more qs) :
    parametersFrom (s.header ++ more) = .ok (s.swallowed :: s.others ++ qs) := by
  obtain ⟨t, tail, htext, ht, htail⟩ := s.spelled.exists_continues
  have hheader : s.header ++ more = s.name ++ ' ' :: (s.gap ++ t) ++ (tail ++ more) := by
    rw [header, htext]
    simp
  rw [hheader]
  exact (htail hmore).cons (s.startsKey_append _)
    (s.parameter_named ht (htail hmore).endsValue)

end Stated

theorem continues_following (ss : List Stated) :
    Continues (following ss) (ss.flatMap fun s => s.swallowed :: s.others) := by
  induction ss with
  | nil => exact .nil
  | cons s ss ih =>
    have hseparator : IsSeparator ", ".toList :=
      ⟨[], ",".toList, " ".toList, rfl, rfl, rfl, by decide, rfl⟩
    rw [following, List.flatMap_cons, List.append_assoc, ← following, List.flatMap_cons]
    refine .more hseparator ?_ (s.parametersFrom_header ih)
    rw [Stated.header, List.append_assoc]
    exact s.startsKey_append _

/-! ## One field -/

theorem parse_of_parameters {header : String} {name part : List Char}
    (hne : Text.trim header.toList ≠ [])
    (hsplit : splitScheme (Text.trim header.toList) = (name, part))
    (hps : parameters part = .ok ps) :
    parse header = if Scheme.ofName name = .bearer ∧ lastValue? "realm" ps = none then
      .error .noRealm else .ok (ofParameters name ps) := by
  rw [parse]
  split
  · next hnil => exact absurd hnil hne
  · rw [hsplit]
    simp only [hps, bind, Except.bind, pure, Except.pure]
    split_ifs <;> rfl

theorem Stated.text_ne_nil (s : Stated) : s.text ≠ [] := by
  obtain ⟨c, t, htext, -⟩ := s.spelled.startsKey
  rw [htext]
  exact List.cons_ne_nil c t

theorem Stated.getLast?_append (s : Stated) (before : List Char) :
    ∀ c ∈ (before ++ s.header).getLast?, Text.isBlank c = false := by
  have hsplit : before ++ s.header = before ++ (s.name ++ ' ' :: s.gap) ++ s.text := by
    simp [header]
  rw [hsplit, List.getLast?_append_of_ne_nil _ s.text_ne_nil]
  exact s.text_ends

theorem getLast?_following {before : List Char}
    (h : ∀ c ∈ before.getLast?, Text.isBlank c = false) (ss : List Stated) :
    ∀ c ∈ (before ++ following ss).getLast?, Text.isBlank c = false := by
  induction ss generalizing before with
  | nil =>
    rw [following, List.flatMap_nil, List.append_nil]
    exact h
  | cons s ss ih =>
    rw [following, List.flatMap_cons, ← following, ← List.append_assoc, ← List.append_assoc]
    exact ih (s.getLast?_append _)

/-- **Several challenges in one field** are read as the first of them, with parameters of all. -/
theorem parse_joined (s : Stated) (ss : List Stated) :
    parse (String.ofList (joined s ss)) = .ok (merged s ss) := by
  have hname : ∀ c ∈ s.name, Text.isBlank c = false := fun c hc =>
    not_isBlank_of_isKeyChar (List.all_eq_true.1 s.name_chars c hc)
  obtain ⟨c, t, htext, hc⟩ := s.spelled.startsKey
  have hjoined : joined s ss = s.name ++ ' ' :: (s.gap ++ (s.text ++ following ss)) := by
    simp [joined, Stated.header]
  have htrim : Text.trim (joined s ss) = joined s ss := by
    refine Text.trim_eq_self ?_ (getLast?_following (s.getLast?_append []) ss)
    rw [hjoined, List.head?_append_of_ne_nil _ s.name_ne]
    exact fun c hc => hname c (List.mem_of_mem_head? hc)
  have hparameters : parameters (s.gap ++ (s.text ++ following ss)) =
      .ok (s.first :: s.others ++ ss.flatMap fun s => s.swallowed :: s.others) := by
    have hstart : ∀ c ∈ (s.text ++ following ss).head?, Text.isBlank c = false := by
      rw [htext]
      rintro _ ⟨⟩
      exact not_isBlank_of_isKeyChar hc
    have hinner := Text.trim_surround s.gap_blank (rfl : List.all [] Text.isBlank = true) hstart
    rw [List.append_nil, Text.trimEnd_eq_self (getLast?_following s.text_ends ss)] at hinner
    rw [parameters, hinner, parametersFrom_append s.spelled (continues_following ss)]
  have hheader : Text.trim (String.ofList (joined s ss)).toList =
      s.name ++ ' ' :: (s.gap ++ (s.text ++ following ss)) := by
    rw [String.toList_ofList, htrim, hjoined]
  have hne : Text.trim (String.ofList (joined s ss)).toList ≠ [] := by
    rw [hheader]
    exact List.append_ne_nil_of_right_ne_nil _ (List.cons_ne_nil _ _)
  have hparse := parse_of_parameters hne (hheader ▸ splitScheme_append hname) hparameters
  have hmerged := ofParameters_append s ss
  have hrealm := merged_realm_ne_none s ss
  rw [← hmerged] at hrealm ⊢
  rw [hparse, if_neg fun h => hrealm h.1 h.2]

theorem parse_header (s : Stated) : parse (String.ofList s.header) = .ok s.challenge := by
  have h := parse_joined s []
  rwa [joined, following, List.flatMap_nil, List.append_nil, merged, List.flatMap_nil,
    List.append_nil, ← Stated.challenge] at h

end Challenge

namespace ChallengeSet

open Challenge

/-- Every challenge is stated in characters that read as text. -/
def allReadable (ss : List Stated) : Bool :=
  ss.all fun s => Http.isReadable (String.ofList s.header)

theorem allReadable_cons (s : Stated) (ss : List Stated) : allReadable (s :: ss) =
    (Http.isReadable (String.ofList s.header) && allReadable ss) := List.all_cons

theorem isReadable_append (a b : List Char) : Http.isReadable (String.ofList (a ++ b)) =
    (Http.isReadable (String.ofList a) && Http.isReadable (String.ofList b)) := by
  simp [Http.isReadable]

theorem isReadable_joined (s : Stated) (ss : List Stated) :
    Http.isReadable (String.ofList (joined s ss)) = allReadable (s :: ss) := by
  have hfollowing : Http.isReadable (String.ofList (following ss)) = allReadable ss := by
    induction ss with
    | nil => rfl
    | cons s ss ih =>
      have hcomma : Http.isReadable (String.ofList ", ".toList) = true := by decide
      rw [following, List.flatMap_cons, ← following, isReadable_append, isReadable_append, hcomma,
        Bool.true_and, ih, allReadable_cons]
  rw [joined, isReadable_append, hfollowing, allReadable_cons]

variable {s : Stated} {ss : List Stated} {headers : Http.Headers}

theorem ofValue_of_parse {value : String} {challenge : Challenge}
    (h : parse value = .ok challenge) : ofValue value =
      if Http.isReadable value then .ok challenge else .error .unreadableChallenge := by
  rw [ofValue, h]
  rfl

theorem mapM_ofValue (ss : List Stated) :
    (ss.map fun s => String.ofList s.header).mapM ofValue =
      if allReadable ss then .ok (ss.map Stated.challenge) else .error .unreadableChallenge := by
  induction ss with
  | nil => rfl
  | cons s ss ih =>
    rw [List.map_cons, List.mapM_cons, ih, ofValue_of_parse (parse_header s), allReadable_cons]
    cases Http.isReadable (String.ofList s.header) with
    | false => rfl
    | true => cases allReadable ss <;> rfl

theorem ofReply_of_joined (h : headers.values headerName = [String.ofList (joined s ss)]) :
    ofReply 401 headers = if allReadable (s :: ss) then .ok ⟨[merged s ss]⟩
      else .error .unreadableChallenge := by
  rw [ofReply, if_neg (not_not.2 rfl), h, List.mapM_cons, List.mapM_nil,
    ofValue_of_parse (parse_joined s ss), isReadable_joined]
  split_ifs <;> rfl

theorem ofReply_of_each
    (h : headers.values headerName = (s :: ss).map fun s => String.ofList s.header) :
    ofReply 401 headers = if allReadable (s :: ss) then .ok ⟨(s :: ss).map Stated.challenge⟩
      else .error .unreadableChallenge := by
  rw [ofReply, if_neg (not_not.2 rfl), h, mapM_ofValue]
  split_ifs <;> rfl

/-- **The framing of challenges matters**: a field for each challenge gives all of them, and one
field for all gives one. The two agree on a single challenge, and on what does not read as text. -/
theorem ofReply_eq_iff_single {one many : Http.Headers}
    (hone : one.values headerName = [String.ofList (joined s ss)])
    (hmany : many.values headerName = (s :: ss).map fun s => String.ofList s.header) :
    ofReply 401 one = (if allReadable (s :: ss) then .ok ⟨[merged s ss]⟩
        else .error .unreadableChallenge) ∧
      ofReply 401 many = (if allReadable (s :: ss) then .ok ⟨(s :: ss).map Stated.challenge⟩
        else .error .unreadableChallenge) ∧
      (ofReply 401 one = ofReply 401 many ↔ ss = [] ∨ ¬ allReadable (s :: ss)) := by
  refine ⟨ofReply_of_joined hone, ofReply_of_each hmany, ?_⟩
  rw [ofReply_of_joined hone, ofReply_of_each hmany]
  by_cases hreadable : allReadable (s :: ss)
  · rw [if_pos hreadable, if_pos hreadable, or_iff_left (not_not.2 hreadable)]
    constructor
    · intro h
      have hlength : 1 = ss.length + 1 := by
        simpa using congrArg List.length (ChallengeSet.mk.inj (Except.ok.inj h))
      exact List.eq_nil_of_length_eq_zero (by omega)
    · rintro rfl
      rw [merged, List.flatMap_nil, List.append_nil]
      rfl
  · rw [if_neg hreadable, if_neg hreadable]
    exact iff_of_true rfl (.inr hreadable)

/-- A password is wanted of the realm `r`. -/
def passwordStated : Stated where
  name := "Basic".toList
  gap := []
  text := "realm".toList ++ ([] ++ '=' :: ([] ++ '"' :: ("r".toList ++ ['"'])))
  first := ⟨"realm".toList, "r".toList⟩
  others := []
  name_ne := by decide
  name_chars := by decide
  gap_blank := rfl
  spelled := .single (.intro (by decide) (by decide) rfl rfl (.quoted (by decide)))
  text_ends := by rintro _ ⟨⟩; rfl
  realm_of_bearer := by decide

/-- A token is wanted of a token service. -/
def tokenStated : Stated where
  name := "Bearer".toList
  gap := []
  text := "realm".toList ++ ([] ++ '=' :: ([] ++ '"' :: ("http://auth.test/token".toList ++ ['"'])))
  first := ⟨"realm".toList, "http://auth.test/token".toList⟩
  others := []
  name_ne := by decide
  name_chars := by decide
  gap_blank := rfl
  spelled := .single (.intro (by decide) (by decide) rfl rfl (.quoted (by decide)))
  text_ends := by rintro _ ⟨⟩; rfl
  realm_of_bearer := by decide

/-- Both in one field. -/
def passwordOrToken : Http.Headers :=
  [("WWW-Authenticate", "Basic realm=\"r\", Bearer realm=\"http://auth.test/token\"")]

/-- Each in a field. -/
def passwordAndToken : Http.Headers :=
  [("WWW-Authenticate", "Basic realm=\"r\""),
    ("WWW-Authenticate", "Bearer realm=\"http://auth.test/token\"")]

theorem ofReply_passwordOrToken :
    passwordOrToken.values headerName = [String.ofList (joined passwordStated [tokenStated])] ∧
      passwordAndToken.values headerName =
        [passwordStated, tokenStated].map (fun s => String.ofList s.header) ∧
      ofReply 401 passwordOrToken = .ok ⟨[⟨.basic, some "r", none, none⟩]⟩ ∧
      ofReply 401 passwordAndToken = .ok ⟨[⟨.basic, some "r", none, none⟩,
        ⟨.bearer, some "http://auth.test/token", none, none⟩]⟩ := by
  have hone : passwordOrToken.values headerName =
      [String.ofList (joined passwordStated [tokenStated])] := by decide
  have hmany : passwordAndToken.values headerName =
      [passwordStated, tokenStated].map fun s => String.ofList s.header := by decide
  obtain ⟨hjoined, heach, -⟩ := ofReply_eq_iff_single hone hmany
  have hreadable : allReadable [passwordStated, tokenStated] = true := by decide
  rw [if_pos hreadable] at hjoined heach
  exact ⟨hone, hmany, hjoined, heach⟩

/-- Of two challenges in one field the second is lost. -/
theorem ofReply_passwordOrToken_ne :
    ofReply 401 passwordOrToken ≠ ofReply 401 passwordAndToken := by
  have hreadable : allReadable [passwordStated, tokenStated] = true := by decide
  have hone : passwordOrToken.values headerName =
      [String.ofList (joined passwordStated [tokenStated])] := by decide
  have hmany : passwordAndToken.values headerName =
      [passwordStated, tokenStated].map fun s => String.ofList s.header := by decide
  rw [ofReply_of_joined hone, ofReply_of_each hmany, if_pos hreadable, if_pos hreadable]
  intro h
  simpa using congrArg List.length (ChallengeSet.mk.inj (Except.ok.inj h))

end ChallengeSet

end TagCatalog
