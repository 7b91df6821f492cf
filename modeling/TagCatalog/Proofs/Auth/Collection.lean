import Mathlib.Data.List.Forall2
import TagCatalog.Auth.ChallengeSet
import TagCatalog.Proofs.Auth.Challenge

/-!
# Collecting challenges

A reply to a probe brings challenges in the fields of one name, among other fields. They are read
from the first on; a field that is no text or no challenge ends the reading, and with it everything
that was read before is lost. Only the status 401 brings challenges, and then there is at least one,
so an empty set says that the registry wants no authentication.

* `ChallengeSet.Fields`: the fields of a reply that bring challenges;
* `ChallengeSet.Reads`, `ChallengeSet.Offends`: the challenge of a field, and why it has none;
* `ChallengeSet.mapM_eq_ok_iff`, `ChallengeSet.mapM_eq_error_iff`: reading from the first on;
* `ChallengeSet.ofReply_eq_ok_iff`, `ChallengeSet.ofReply_eq_error_iff`: the set and the error of
  the fields;
* **`ChallengeSet.ofReply_of_fields`**: what is collected from a reply.
-/

namespace TagCatalog.ChallengeSet

variable {headers : Http.Headers} {value : String} {values : List String} {e : CatalogError}

/-! ## Fields -/

/-- The values of the fields that bring challenges, in order. Their name stands in any case, and
other fields may stand between them. -/
inductive Fields : Http.Headers → List String → Prop
  | nil : Fields [] []
  | challenge {name value : String} {headers : Http.Headers} {values : List String}
      (h : SameLetters name.toList "WWW-Authenticate".toList) (rest : Fields headers values) :
    Fields ((name, value) :: headers) (value :: values)
  | other {name value : String} {headers : Http.Headers} {values : List String}
      (h : ¬ SameLetters name.toList "WWW-Authenticate".toList) (rest : Fields headers values) :
    Fields ((name, value) :: headers) values

theorem sameName_headerName_iff {name : String} :
    Http.sameName name headerName ↔ SameLetters name.toList "WWW-Authenticate".toList := by
  rw [Http.sameName, beq_iff_eq]
  exact Iff.rfl

theorem values_cons (name value : String) (headers : Http.Headers) :
    Http.Headers.values ((name, value) :: headers) headerName =
      if Http.sameName name headerName then value :: headers.values headerName
      else headers.values headerName := by
  rw [Http.Headers.values, List.filter_cons]
  split_ifs <;> rfl

theorem fields_iff : Fields headers values ↔ values = headers.values headerName := by
  constructor
  · intro h
    induction h with
    | nil => rfl
    | challenge hname _ ih => rw [values_cons, if_pos (sameName_headerName_iff.2 hname), ih]
    | other hname _ ih => rw [values_cons, if_neg (mt sameName_headerName_iff.1 hname), ih]
  · rintro rfl
    induction headers with
    | nil => exact .nil
    | cons field headers ih =>
      obtain ⟨name, value⟩ := field
      rw [values_cons]
      split_ifs with hname
      · exact .challenge (sameName_headerName_iff.1 hname) ih
      · exact .other (mt sameName_headerName_iff.2 hname) ih

/-! ## The challenge of a field -/

/-- The value is made of visible ASCII characters, blanks and tabs. -/
def IsText (value : String) : Prop :=
  ∀ c ∈ value.toList, c = '\t' ∨ 0x20 ≤ c.toNat ∧ c.toNat < 0x7F

/-- A value is a text that states a challenge. -/
def Reads (value : String) (challenge : Challenge) : Prop :=
  IsText value ∧ Challenge.parse value = .ok challenge

/-- A value is no text, or a text that states no challenge. -/
inductive Offends (value : String) : CatalogError → Prop
  | unreadable (h : ¬ IsText value) : Offends value .unreadableChallenge
  | malformed {fault : Challenge.Fault} (h : IsText value)
      (hparse : Challenge.parse value = .error fault) : Offends value (.badChallenge fault)

theorem isReadable_iff : Http.isReadable value ↔ IsText value := by
  simp [Http.isReadable, IsText]

theorem ofValue_eq_ok_iff {challenge : Challenge} :
    ofValue value = .ok challenge ↔ Reads value challenge := by
  rw [ofValue, Reads, ← isReadable_iff]
  split_ifs with hreadable
  · rw [and_iff_right hreadable]
    cases Challenge.parse value with
    | ok c => exact ⟨fun h => by cases h; rfl, fun h => by cases h; rfl⟩
    | error fault => exact iff_of_false nofun nofun
  · exact iff_of_false nofun fun h => hreadable h.1

theorem reads_eq : Reads = fun value challenge => ofValue value = .ok challenge := by
  funext value challenge
  exact propext ofValue_eq_ok_iff.symm

theorem ofValue_eq_error_iff : ofValue value = .error e ↔ Offends value e := by
  rw [ofValue]
  constructor
  · intro h
    split_ifs at h with hreadable
    · cases hparse : Challenge.parse value with
      | ok challenge =>
        rw [hparse] at h
        nomatch h
      | error fault =>
        rw [hparse] at h
        cases h
        exact .malformed (isReadable_iff.1 hreadable) hparse
    · cases h
      exact .unreadable (mt isReadable_iff.2 hreadable)
  · intro h
    cases h with
    | unreadable htext => rw [if_neg (mt isReadable_iff.1 htext)]
    | malformed htext hparse =>
      rw [if_pos (isReadable_iff.2 htext), hparse]
      rfl

theorem Offends.kind_eq (h : Offends value e) : e.kind = .authDiscovery := by
  cases h <;> rfl

/-! ## Reading from the first on -/

section

variable {α β ε : Type} {f : α → Except ε β} {xs : List α}

theorem mapM_eq_ok_iff {ys : List β} :
    xs.mapM f = .ok ys ↔ List.Forall₂ (fun x y => f x = .ok y) xs ys := by
  induction xs generalizing ys with
  | nil =>
    rw [List.forall₂_nil_left_iff]
    exact ⟨fun h => by cases h; rfl, fun h => by rw [h]; rfl⟩
  | cons x xs ih =>
    rw [List.forall₂_cons_left_iff, List.mapM_cons]
    cases hx : f x with
    | error e => simp [bind, Except.bind]
    | ok y =>
      simp only [← ih]
      cases xs.mapM f with
      | error e => simp [bind, Except.bind]
      | ok zs => simp [bind, Except.bind, pure, Except.pure, eq_comm]

theorem mapM_eq_error_iff {e : ε} : xs.mapM f = .error e ↔ ∃ before x after ys,
    xs = before ++ x :: after ∧ List.Forall₂ (fun x y => f x = .ok y) before ys ∧
      f x = .error e := by
  induction xs with
  | nil =>
    refine iff_of_false nofun ?_
    rintro ⟨before, x, after, ys, hnil, -⟩
    simp at hnil
  | cons x xs ih =>
    rw [List.mapM_cons]
    constructor
    · intro h
      cases hx : f x with
      | error e' =>
        rw [hx] at h
        cases h
        exact ⟨[], x, xs, [], rfl, .nil, hx⟩
      | ok y =>
        have hrest : xs.mapM f = .error e := by
          cases hxs : xs.mapM f with
          | error e' =>
            rw [hx, hxs] at h
            cases h
            rfl
          | ok ys =>
            rw [hx, hxs] at h
            nomatch h
        obtain ⟨before, z, after, ys, rfl, hbefore, hz⟩ := ih.1 hrest
        exact ⟨x :: before, z, after, y :: ys, rfl, .cons hx hbefore, hz⟩
    · rintro ⟨before, z, after, ys, heq, hbefore, hz⟩
      cases hbefore with
      | nil =>
        obtain ⟨rfl, rfl⟩ := List.cons_eq_cons.1 heq
        rw [hz]
        rfl
      | cons hx hbefore =>
        obtain ⟨rfl, hxs⟩ := List.cons_eq_cons.1 heq
        rw [hx, ih.2 ⟨_, z, after, _, hxs, hbefore, hz⟩]
        rfl

end

/-! ## The challenges of a reply -/

theorem ofReply_of_ne {status : Nat} (h : status ≠ 401) (headers : Http.Headers) :
    ofReply status headers = .ok ⟨[]⟩ := if_pos h

theorem ofReply_unauthorized (headers : Http.Headers) : ofReply 401 headers =
    (headers.values headerName).mapM ofValue >>= fun challenges => match challenges with
      | [] => .error .noChallenge
      | challenges => .ok ⟨challenges⟩ := rfl

/-- All fields are read, and there is one. -/
theorem ofReply_eq_ok_iff {s : ChallengeSet} : ofReply 401 headers = .ok s ↔
    headers.values headerName ≠ [] ∧
      List.Forall₂ Reads (headers.values headerName) s.challenges := by
  rw [reads_eq, ← mapM_eq_ok_iff, ofReply_unauthorized]
  cases hvalues : (headers.values headerName).mapM ofValue with
  | error e => exact iff_of_false nofun fun h => nomatch h.2
  | ok challenges =>
    have hall := mapM_eq_ok_iff.1 hvalues
    cases challenges with
    | nil =>
      rw [List.forall₂_nil_right_iff.1 hall]
      exact iff_of_false nofun fun h => h.1 rfl
    | cons c challenges =>
      have hne : headers.values headerName ≠ [] := by
        intro hnil
        rw [hnil] at hall
        nomatch hall
      rw [and_iff_right hne]
      obtain ⟨list⟩ := s
      constructor
      · intro h
        cases h
        rfl
      · intro h
        cases h
        rfl

/-- There is no field, or the first one that offends gives the error. -/
theorem ofReply_eq_error_iff : ofReply 401 headers = .error e ↔
    headers.values headerName = [] ∧ e = .noChallenge ∨
      ∃ before value after challenges, headers.values headerName = before ++ value :: after ∧
        List.Forall₂ Reads before challenges ∧ Offends value e := by
  simp only [reads_eq, ← ofValue_eq_error_iff]
  rw [← mapM_eq_error_iff, ofReply_unauthorized]
  cases hvalues : (headers.values headerName).mapM ofValue with
  | error e' =>
    have hne : headers.values headerName ≠ [] := by
      intro hnil
      rw [hnil] at hvalues
      nomatch hvalues
    rw [or_iff_right fun h => hne h.1]
    exact ⟨fun h => by cases h; rfl, fun h => by cases h; rfl⟩
  | ok challenges =>
    have hall := mapM_eq_ok_iff.1 hvalues
    rw [or_iff_left nofun]
    cases challenges with
    | nil =>
      rw [and_iff_right (List.forall₂_nil_right_iff.1 hall)]
      exact ⟨fun h => by cases h; rfl, fun h => by rw [h]; rfl⟩
    | cons c challenges =>
      refine iff_of_false nofun fun h => ?_
      rw [h.1] at hall
      nomatch hall

theorem ne_nil_of_ofReply {s : ChallengeSet} (h : ofReply 401 headers = .ok s) :
    s.challenges ≠ [] := by
  obtain ⟨hne, hall⟩ := ofReply_eq_ok_iff.1 h
  intro hnil
  rw [hnil, List.forall₂_nil_right_iff] at hall
  exact hne hall

theorem kind_of_ofReply {status : Nat} (h : ofReply status headers = .error e) :
    status = 401 ∧ e.kind = .authDiscovery := by
  by_cases hstatus : status = 401
  · subst hstatus
    refine ⟨rfl, ?_⟩
    obtain ⟨-, rfl⟩ | ⟨_, _, _, _, -, -, hoffends⟩ := ofReply_eq_error_iff.1 h
    · rfl
    · exact hoffends.kind_eq
  · rw [ofReply_of_ne hstatus] at h
    nomatch h

/-- **What is collected from a reply.** Any status but 401 brings the empty set, whatever the
headers. With 401, the set holds the challenges of all fields in their order, one for each, if there
is a field and every one is a text that states a challenge; otherwise the error is that of discovery
for having no field, or that of the first field that offends. So the set is empty exactly if the
status is not 401. -/
theorem ofReply_of_fields (status : Nat) (headers : Http.Headers) :
    ∃ values, (∀ values', Fields headers values' ↔ values' = values) ∧
      (∀ s, ofReply status headers = .ok s ↔
        status ≠ 401 ∧ s = ⟨[]⟩ ∨
          status = 401 ∧ values ≠ [] ∧ List.Forall₂ Reads values s.challenges) ∧
      (∀ e, ofReply status headers = .error e ↔ status = 401 ∧
        (values = [] ∧ e = .noChallenge ∨
          ∃ before value after challenges, values = before ++ value :: after ∧
            List.Forall₂ Reads before challenges ∧ Offends value e)) ∧
      (∀ e, ofReply status headers = .error e → e.kind = .authDiscovery) ∧
      ∀ s, ofReply status headers = .ok s → (s.isEmpty ↔ status ≠ 401) := by
  refine ⟨headers.values headerName, fun values' => fields_iff, fun s => ?_, fun e => ?_,
    fun e h => (kind_of_ofReply h).2, fun s h => ?_⟩
  · by_cases hstatus : status = 401
    · subst hstatus
      rw [ofReply_eq_ok_iff, and_iff_right rfl, or_iff_right fun h => h.1 rfl]
    · rw [ofReply_of_ne hstatus, and_iff_right hstatus, or_iff_left fun h => hstatus h.1]
      exact ⟨fun h => by cases h; rfl, fun h => by rw [h]⟩
  · by_cases hstatus : status = 401
    · subst hstatus
      rw [ofReply_eq_error_iff, and_iff_right rfl]
    · exact iff_of_false (fun h => hstatus (kind_of_ofReply h).1) fun h => hstatus h.1
  · rw [isEmpty, List.isEmpty_iff]
    by_cases hstatus : status = 401
    · subst hstatus
      exact iff_of_false (ne_nil_of_ofReply h) (not_not.2 rfl)
    · rw [ofReply_of_ne hstatus] at h
      cases h
      exact iff_of_true rfl hstatus

/-- Two challenges, their fields named in different cases, and another field between them. -/
def mixedNames : Http.Headers :=
  [("www-authenticate", "Basic realm=\"r\""), ("Server", "Basic"),
    ("WWW-AUTHENTICATE", "bearer realm=\"http://auth.test/token\",, service=s")]

theorem ofReply_of_fields_mixedNames :
    ∃ s, ofReply 401 mixedNames = .ok s ∧ s.isEmpty = false ∧
      s.challenges = [⟨.basic, some "r", none, none⟩,
        ⟨.bearer, some "http://auth.test/token", some "s", none⟩] := by
  have hread : (ofReply 401 mixedNames).toOption = some ⟨[⟨.basic, some "r", none, none⟩,
      ⟨.bearer, some "http://auth.test/token", some "s", none⟩]⟩ := by decide +kernel
  obtain ⟨values, -, -, -, -, hempty⟩ := ofReply_of_fields 401 mixedNames
  cases hs : ofReply 401 mixedNames with
  | error e =>
    rw [hs] at hread
    nomatch hread
  | ok s =>
    rw [hs] at hread
    refine ⟨s, rfl, ?_, congrArg challenges (Option.some.inj hread)⟩
    exact Bool.eq_false_iff.2 fun h => (hempty s hs).1 h rfl

end TagCatalog.ChallengeSet
