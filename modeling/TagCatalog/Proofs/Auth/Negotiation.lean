import TagCatalog.Auth.Authorizer
import TagCatalog.Proofs.Auth.Exchange

/-!
# Negotiation

Which of a registry's challenges is answered, and what happens for it. A Bearer challenge is traded
for a token whatever else the registry offers, and the first of several counts; a Basic one takes
the store's credentials for the registry; other challenges are not answered.

* `ChallengeSet.Alike`: changes to a list of challenges that negotiation does not see;
* `Authorizer.yields_headerValue_of_bearer`: the logs of authorizing a request with a token;
* **`Authorizer.run_headerValue`**: the header of a request, and all that happens for it.
-/

namespace TagCatalog

namespace ChallengeSet

variable {s : ChallengeSet} {scheme : Scheme} {c : Challenge}

theorem find?_eq_some_iff : s.find? scheme = some c ↔ ∃ before after,
    s.challenges = before ++ c :: after ∧ (∀ d ∈ before, d.scheme ≠ scheme) ∧
      c.scheme = scheme := by
  rw [find?, List.find?_eq_some_iff_append]
  simp only [beq_iff_eq, Bool.not_eq_true', beq_eq_false_iff_ne]
  constructor
  · rintro ⟨hc, before, after, hs, hbefore⟩
    exact ⟨before, after, hs, hbefore, hc⟩
  · rintro ⟨before, after, hs, hbefore, hc⟩
    exact ⟨hc, before, after, hs, hbefore⟩

theorem find?_eq_none_iff : s.find? scheme = none ↔ ∀ c ∈ s.challenges, c.scheme ≠ scheme := by
  simp [find?]

theorem head?_filter (s : ChallengeSet) (scheme : Scheme) :
    (s.challenges.filter (·.scheme == scheme)).head? = s.find? scheme :=
  List.head?_filter

/-- Two lists of challenges that are alike to a client: challenges that are neither Bearer nor
Basic are left out, or Bearer challenges behind the first, or the list is reordered so that the
Bearer challenges keep their order, and the Basic ones theirs. -/
inductive Alike : List Challenge → List Challenge → Prop
  | withoutOthers (list : List Challenge) :
    Alike list (list.filter fun c => c.scheme == .bearer || c.scheme == .basic)
  | withoutLaterBearers (before : List Challenge) (first : Challenge) (after : List Challenge)
      (hbefore : ∀ c ∈ before, c.scheme ≠ .bearer) (hfirst : first.scheme = .bearer) :
    Alike (before ++ first :: after) (before ++ first :: after.filter (·.scheme != .bearer))
  | reordered {list list' : List Challenge} (hperm : list'.Perm list)
      (hbearer : list'.filter (·.scheme == .bearer) = list.filter (·.scheme == .bearer))
      (hbasic : list'.filter (·.scheme == .basic) = list.filter (·.scheme == .basic)) :
    Alike list list'

variable {list list' : List Challenge}

theorem Alike.find?_bearer (h : Alike list list') :
    find? ⟨list'⟩ .bearer = find? ⟨list⟩ .bearer := by
  cases h with
  | withoutOthers =>
    rw [← head?_filter, ← head?_filter, List.filter_filter]
    congr 1
    refine List.filter_congr fun c _ => ?_
    cases c.scheme <;> rfl
  | withoutLaterBearers before first after hbefore hfirst =>
    rw [find?_eq_some_iff.2 ⟨before, after, rfl, hbefore, hfirst⟩]
    exact find?_eq_some_iff.2 ⟨before, _, rfl, hbefore, hfirst⟩
  | reordered _ hbearer => rw [← head?_filter, ← head?_filter, hbearer]

theorem Alike.filter_basic (h : Alike list list') :
    list'.filter (·.scheme == .basic) = list.filter (·.scheme == .basic) := by
  cases h with
  | withoutOthers =>
    rw [List.filter_filter]
    refine List.filter_congr fun c _ => ?_
    cases c.scheme <;> rfl
  | withoutLaterBearers before first after =>
    have hafter : (after.filter (·.scheme != .bearer)).filter (·.scheme == .basic) =
        after.filter (·.scheme == .basic) := by
      rw [List.filter_filter]
      refine List.filter_congr fun c _ => ?_
      cases c.scheme <;> rfl
    rw [List.filter_append, List.filter_append, List.filter_cons, List.filter_cons, hafter]
  | reordered _ _ hbasic => exact hbasic

end ChallengeSet

namespace Authorizer

variable {a : Authorizer} {first : Challenge} {log : Trace} {r : Except Stop (Option String)}

/-! ## The three cases -/

theorem headerValue_of_bearer (h : a.challenges.find? .bearer = some first) :
    a.headerValue = Token.fetch first a.scope >>= fun token => pure (some ("Bearer " ++ token)) := by
  rw [headerValue, h]

theorem headerValue_of_basic (hbearer : a.challenges.find? .bearer = none)
    (hbasic : a.challenges.find? .basic = some first) :
    a.headerValue = .askBasic a.registry fun credentials => match credentials with
      | some c => .done (some c.headerValue)
      | none => .raise .noCredentials := by
  rw [headerValue, hbearer]
  dsimp only
  split
  · rfl
  · next h => nomatch hbasic.symm.trans h

theorem headerValue_of_none (hbearer : a.challenges.find? .bearer = none)
    (hbasic : a.challenges.find? .basic = none) : a.headerValue = .done none := by
  rw [headerValue, hbearer]
  simp only [hbasic]

/-- The first Bearer challenge is traded for a token. -/
theorem yields_headerValue_of_bearer (h : a.challenges.find? .bearer = some first) :
    a.headerValue.Yields log r ↔ ∃ result, Token.Fetches first a.scope log result ∧
      r = (result.map fun token => some ("Bearer " ++ token)).mapError .error := by
  rw [headerValue_of_bearer h, Session.yields_bind_pure_iff]
  constructor
  · rintro ⟨_, hfetch, rfl⟩
    obtain ⟨result, hfetches, rfl⟩ := Token.yields_fetch_iff.1 hfetch
    refine ⟨result, hfetches, ?_⟩
    cases result <;> rfl
  · rintro ⟨result, hfetches, rfl⟩
    refine ⟨_, Token.yields_fetch_iff.2 ⟨result, hfetches, rfl⟩, ?_⟩
    cases result <;> rfl

theorem stopsFor_headerValue (a : Authorizer) : a.headerValue.StopsFor (· ≠ .pageLimit) := by
  rw [headerValue]
  split
  · exact (Token.stopsFor_fetch _ _).bind fun token => Session.stopsFor_done _
  · split
    · refine Session.stopsFor_askBasic fun credentials => ?_
      cases credentials with
      | some c => exact Session.stopsFor_done _
      | none => exact Session.stopsFor_fail Stop.noConfusion
    · exact Session.stopsFor_done _

theorem headerValue_congr {s : ChallengeSet}
    (hbearer : s.find? .bearer = a.challenges.find? .bearer)
    (hbasic : s.find? .basic = a.challenges.find? .basic) :
    headerValue { a with challenges := s } = a.headerValue := by
  rw [headerValue, headerValue, hbearer, hbasic]

/-! ## The header and what happens for it -/

/-- **The header of a request, and all that happens for it.** If there is a Bearer challenge, the
first one is traded for a token: the header presents it, or there is an error of authentication.
Otherwise, if there is a Basic one, the store is asked for the registry's credentials and nothing
is sent. Otherwise nothing happens. Challenges that are not answered make no difference, and
neither does the order in which Bearer and Basic ones stand. -/
theorem run_headerValue (a : Authorizer) (w : World) (t : Trace) :
    (∀ before first after, a.challenges.challenges = before ++ first :: after →
      (∀ c ∈ before, c.scheme ≠ .bearer) → first.scheme = .bearer →
      (∃ log token, Token.Fetches first a.scope log (.ok token) ∧ token ≠ "" ∧
        w.Answers t log ∧ a.headerValue.run w t = (.ok (some ("Bearer " ++ token)), t ++ log)) ∨
      ∃ log e, Token.Fetches first a.scope log (.error e) ∧ e.kind = .authentication ∧
        w.Answers t log ∧ a.headerValue.run w t = (.error (.error e), t ++ log)) ∧
    ((∀ c ∈ a.challenges.challenges, c.scheme ≠ .bearer) →
      (∃ c ∈ a.challenges.challenges, c.scheme = .basic) →
      match w.store.basic t a.registry with
      | some credentials => a.headerValue.run w t =
        (.ok (some credentials.headerValue), t ++ [.askedBasic a.registry (some credentials)])
      | none => ∃ e, e.kind = .authentication ∧ e.status? = some 401 ∧
        a.headerValue.run w t = (.error (.error e), t ++ [.askedBasic a.registry none])) ∧
    ((∀ c ∈ a.challenges.challenges, c.scheme ≠ .bearer ∧ c.scheme ≠ .basic) →
      a.headerValue.run w t = (.ok none, t)) ∧
    ∀ list, ChallengeSet.Alike a.challenges.challenges list →
      headerValue { a with challenges := ⟨list⟩ } = a.headerValue := by
  refine ⟨fun before first after hlist hbefore hfirst => ?_, fun hbearer hbasic => ?_,
    fun hother => ?_, fun list halike => ?_⟩
  · have hfind := ChallengeSet.find?_eq_some_iff.2 ⟨before, after, hlist, hbefore, hfirst⟩
    rcases hrun : a.headerValue.run w t with ⟨r, t'⟩
    obtain ⟨log, hy, hw, rfl⟩ := Session.run_eq_iff.1 hrun
    obtain ⟨result, hfetches, rfl⟩ := (yields_headerValue_of_bearer hfind).1 hy
    cases result with
    | ok token => exact .inl ⟨log, token, hfetches, hfetches.ne_empty, hw, rfl⟩
    | error e => exact .inr ⟨log, e, hfetches, hfetches.kind_eq, hw, rfl⟩
  · obtain ⟨c, hc, hscheme⟩ := hbasic
    have hnone := ChallengeSet.find?_eq_none_iff.2 hbearer
    cases hsome : a.challenges.find? .basic with
    | none => exact absurd hscheme (ChallengeSet.find?_eq_none_iff.1 hsome c hc)
    | some first =>
      rw [headerValue_of_basic hnone hsome, Session.run]
      cases w.store.basic t a.registry with
      | some credentials => rfl
      | none => exact ⟨.noCredentials, rfl, rfl, rfl⟩
  · have hbearer := ChallengeSet.find?_eq_none_iff.2 fun c hc => (hother c hc).1
    have hbasic := ChallengeSet.find?_eq_none_iff.2 fun c hc => (hother c hc).2
    rw [headerValue_of_none hbearer hbasic, Session.run]
  · refine headerValue_congr halike.find?_bearer ?_
    rw [← ChallengeSet.head?_filter, ← ChallengeSet.head?_filter, halike.filter_basic]

/-- A registry that offers a Basic challenge before two Bearer ones. -/
def mixed : Authorizer where
  registry := ⟨"http", "", "", some (.domain "r.test"), none, .segments [""], none, none⟩
  challenges := ⟨[⟨.basic, none, none, none⟩, ⟨.bearer, some "http://a.test/token", some "r", none⟩,
    ⟨.bearer, some "http://b.test/token", none, none⟩]⟩
  scope := "repository:app:pull"

/-- A server that gives the token `abc`, and a store with a user. -/
def tokenWorld : World where
  server := fun _ _ =>
    .reply ⟨200, [], .whole (Text.Utf8.encode "\x7b\"token\":\"abc\"\x7d".toList)⟩
  store := ⟨fun _ _ => some ⟨"robot", "secret"⟩, fun _ _ _ => none⟩

/-- The first Bearer challenge is answered, and the Basic one before it is not. -/
theorem run_headerValue_mixed :
    mixed.challenges.challenges = [⟨.basic, none, none, none⟩] ++
      ⟨.bearer, some "http://a.test/token", some "r", none⟩ ::
        [⟨.bearer, some "http://b.test/token", none, none⟩] ∧
    ∃ log, Token.Fetches ⟨.bearer, some "http://a.test/token", some "r", none⟩
        "repository:app:pull" log (.ok "abc") ∧
      mixed.headerValue.run tokenWorld [] = (.ok (some "Bearer abc"), log) := by
  have hresult : (mixed.headerValue.run tokenWorld []).1.toOption = some (some "Bearer abc") := by
    decide +kernel
  refine ⟨rfl, ?_⟩
  rcases (run_headerValue mixed tokenWorld []).1 [⟨.basic, none, none, none⟩]
      ⟨.bearer, some "http://a.test/token", some "r", none⟩
      [⟨.bearer, some "http://b.test/token", none, none⟩] rfl (by decide) rfl with
    ⟨log, token, hfetches, -, -, hrun⟩ | ⟨log, e, -, -, -, hrun⟩
  · rw [hrun] at hresult
    have htoken : token = "abc" := by simpa [Except.toOption, ← String.toList_inj] using hresult
    subst htoken
    exact ⟨log, hfetches, hrun⟩
  · rw [hrun] at hresult
    nomatch hresult

end Authorizer

end TagCatalog
