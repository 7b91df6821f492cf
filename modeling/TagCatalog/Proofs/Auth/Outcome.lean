import TagCatalog.Proofs.Auth.Refresh

/-!
# The outcome of a token exchange

What the store is asked decides which call is made, and the response to this one call decides
everything else: the token or the error, and whether the store is offered a refresh token. The
store is told before the token is looked at, so it learns of a refresh token that comes without a
token to present.

* `TokenReply.Presents`: the token that a reply presents;
* `Token.Consults`: what a store answers, and the call that its answers make;
* `Token.Issues`: a response that brings tokens;
* `Token.Settles`: the token, the error and the refresh token that a response leads to;
* **`Token.run_fetch`**: a whole exchange.
-/

namespace TagCatalog

/-- The token that a reply presents: its `token`, or its `access_token` if the other one is missing
or empty. -/
inductive TokenReply.Presents (tokens : TokenReply) : String → Prop
  | token {token : String} (h : tokens.token = some token) (hne : token ≠ "") :
    Presents tokens token
  | accessToken {token : String} (hnone : tokens.token = none ∨ tokens.token = some "")
      (h : tokens.accessToken = some token) (hne : token ≠ "") : Presents tokens token

namespace TokenReply

variable {tokens : TokenReply} {token : String}

theorem nonEmpty?_eq_none_iff {t : Option String} :
    nonEmpty? t = none ↔ t = none ∨ t = some "" := by
  cases t with
  | none => exact iff_of_true rfl (.inl rfl)
  | some text => simp [nonEmpty?, Option.filter_some]

theorem bearer?_eq_some_iff : tokens.bearer? = some token ↔ tokens.Presents token := by
  rw [bearer?]
  cases htoken : nonEmpty? tokens.token with
  | some t =>
    obtain ⟨ht, hne⟩ := nonEmpty?_eq_some_iff.1 htoken
    constructor
    · intro h
      cases h
      exact .token ht hne
    · intro h
      cases h with
      | token h => rw [ht] at h; exact h
      | accessToken hnone =>
        rw [nonEmpty?_eq_none_iff.2 hnone] at htoken
        cases htoken
  | none =>
    have hnone := nonEmpty?_eq_none_iff.1 htoken
    constructor
    · intro h
      obtain ⟨haccess, hne⟩ := nonEmpty?_eq_some_iff.1 h
      exact .accessToken hnone haccess hne
    · intro h
      cases h with
      | token h hne =>
        rw [nonEmpty?_eq_some_iff.2 ⟨h, hne⟩] at htoken
        cases htoken
      | accessToken _ h hne => exact nonEmpty?_eq_some_iff.2 ⟨h, hne⟩

end TokenReply

namespace Token

variable {challenge : Challenge} {realm : Url} {service scope : String} {log kept : Trace}
  {sent : Except Http.SendError Http.Response} {result : Except CatalogError String}

/-! ## The call -/

/-- What a store answers, in the light of what happened before, and the call that its answers make:
a refresh token is posted, and the store is not asked for more; without one it is asked once for
credentials, and they are presented in a GET. -/
def Consults (w : World) (t : Trace) (realm : Url) (service scope : String) (asking : Trace)
    (call : Http.Call) : Prop :=
  match w.store.refresh t realm service with
  | some token =>
    asking = [.askedRefresh realm service (some token)] ∧
      call = refreshCall realm token service scope ∧ call.method = .post
  | none =>
    ∃ credentials, w.store.basic (t ++ [.askedRefresh realm service none]) realm = credentials ∧
      asking = [.askedRefresh realm service none, .askedBasic realm credentials] ∧
      call = queryCall realm service scope credentials ∧ call.method = .get ∧
      call.authorization = (credentials.map Credentials.headerValue).toList

theorem Asks.consults {w : World} {t asking : Trace} {call : Http.Call}
    (h : Asks realm service scope asking call) (ha : w.Answers t asking) :
    Consults w t realm service scope asking call := by
  rw [Consults]
  cases h with
  | refresh token =>
    have hanswer : some token = w.store.refresh t realm service := ha.1
    rw [← hanswer]
    exact ⟨rfl, rfl, rfl⟩
  | query credentials =>
    have hanswer : none = w.store.refresh t realm service := ha.1
    rw [← hanswer]
    exact ⟨credentials, ha.2.1.symm, rfl, rfl, rfl, rfl⟩

/-! ## The response -/

/-- A response reports success, and tokens are read from its body. -/
def Issues (sent : Except Http.SendError Http.Response) (tokens : TokenReply) : Prop :=
  ∃ response, sent = .ok response ∧ Http.isSuccess response.reply.status ∧
    tokens? response = some tokens

theorem issued?_eq_some_iff {token : String} : issued? sent = some token ↔
    ∃ tokens, Issues sent tokens ∧ tokens.refreshToken = some token := by
  cases sent with
  | error e =>
    rw [issued?]
    constructor
    · intro h
      cases h
    · rintro ⟨_, ⟨_, h, _⟩, _⟩
      cases h
  | ok response =>
    rw [issued?]
    constructor
    · intro h
      split at h
      · next hs =>
        obtain ⟨tokens, hb, htoken⟩ := Option.bind_eq_some_iff.1 h
        exact ⟨tokens, ⟨response, rfl, hs, hb⟩, htoken⟩
      · cases h
    · rintro ⟨tokens, ⟨_, ⟨⟩, hs, hb⟩, htoken⟩
      rw [if_pos hs, hb]
      exact htoken

/-- What the result of the call leads to. -/
structure Settles (realm : Url) (service : String) (sent : Except Http.SendError Http.Response)
    (kept : Trace) (result : Except CatalogError String) : Prop where
  /-- A token is what the reply presents. -/
  ok_iff (token : String) : result = .ok token ↔
    ∃ tokens, Issues sent tokens ∧ tokens.Presents token
  kind_eq {e : CatalogError} (h : result = .error e) : e.kind = .authentication
  /-- An error carries the status of a response that reports no success. -/
  status?_iff {e : CatalogError} (h : result = .error e) (status : Nat) :
    e.status? = some status ↔ ∃ response, sent = .ok response ∧
      response.reply.status = status ∧ ¬ Http.isSuccess status
  /-- A refresh token that the reply brings is kept, whatever else is in the reply. -/
  kept_iff (token : String) : kept = [.keptRefresh realm service token] ↔
    ∃ tokens, Issues sent tokens ∧ tokens.refreshToken = some token
  /-- Nothing else is kept. -/
  kept_cases : kept = [] ∨ ∃ token, kept = [.keptRefresh realm service token]

theorem Ends.ok_iff (h : Ends realm service sent kept result) (token : String) :
    result = .ok token ↔ ∃ tokens, Issues sent tokens ∧ tokens.Presents token := by
  simp only [Issues, ← TokenReply.bearer?_eq_some_iff]
  cases h with
  | unsent => simp
  | refused h => simp [h]
  | unread h hb => simp [hb]
  | tokenless h hb ht => simp [h, hb, ht]
  | token h hb ht => simp [h, hb, ht]

theorem Ends.status?_iff {e : CatalogError} (h : Ends realm service sent kept (.error e))
    (status : Nat) : e.status? = some status ↔ ∃ response, sent = .ok response ∧
      response.reply.status = status ∧ ¬ Http.isSuccess status := by
  cases h with
  | unsent => simp [CatalogError.status?]
  | @refused response h =>
    have hstatus : some response.reply.status = some status ↔ response.reply.status = status :=
      Option.some_inj
    refine hstatus.trans ⟨?_, ?_⟩
    · rintro rfl
      exact ⟨response, rfl, rfl, h⟩
    · rintro ⟨_, ⟨⟩, heq, -⟩
      exact heq
  | unread h | tokenless h =>
    refine iff_of_false (fun hnone => nomatch hnone) ?_
    rintro ⟨_, ⟨⟩, rfl, hfail⟩
    exact hfail h

theorem Ends.settles (h : Ends realm service sent kept result) :
    Settles realm service sent kept result where
  ok_iff := h.ok_iff
  kind_eq he := (he ▸ h).kind_eq
  status?_iff he := (he ▸ h).status?_iff
  kept_iff token := by
    rw [h.log_eq, ← issued?_eq_some_iff]
    cases issued? sent with
    | none => simp
    | some t => simp
  kept_cases := by
    rw [h.log_eq]
    cases issued? sent with
    | none => exact .inl rfl
    | some t => exact .inr ⟨t, rfl⟩

/-! ## The whole exchange -/

/-- **The outcome of a token exchange.** Without a realm that is a URL there is an error, the store
is not asked and nothing is sent. Otherwise the store is asked for the refresh token of the realm
and service; its answers make one call, and nothing is sent but this call and what redirects lead
to; and the response to it decides the result and what is kept. -/
theorem run_fetch (challenge : Challenge) (scope : String) (w : World) (t : Trace) :
    match challenge.realm.map Url.parse with
    | some (.ok realm) => ∃ asking call sending sent kept result,
      (fetch challenge scope).run w t =
        (result.mapError .error, t ++ (asking ++ (sending ++ kept))) ∧
      Consults w t realm (challenge.service.getD "") scope asking call ∧
      (Http.exchange call).run w (t ++ asking) = (.ok sent, t ++ asking ++ sending) ∧
      (sending = [] ∧ (∃ e, sent = .error e) ∨
        Http.Hops call.withUserMoved.request sending sent) ∧
      Settles realm (challenge.service.getD "") sent kept result
    | _ => ∃ e, e.kind = .authentication ∧ e.status? = none ∧
      (fetch challenge scope).run w t = (.error (.error e), t) := by
  rcases hrun : (fetch challenge scope).run w t with ⟨r, t'⟩
  obtain ⟨log, hy, ha, rfl⟩ := Session.run_eq_iff.1 hrun
  obtain ⟨result, hfetches, rfl⟩ := yields_fetch_iff.1 hy
  cases hfetches with
  | noRealm hrealm =>
    rw [hrealm, List.append_nil]
    exact ⟨.noRealm, rfl, rfl, rfl⟩
  | badRealm hrealm hparse =>
    rw [hrealm, Option.map_some, hparse, List.append_nil]
    exact ⟨.badRealm _ _, rfl, rfl, rfl⟩
  | called hrealm hparse asks sends ends =>
    rw [hrealm, Option.map_some, hparse]
    obtain ⟨hasking, hrest⟩ := World.answers_append.1 ha
    have hsending := (World.answers_append.1 hrest).1
    exact ⟨_, _, _, _, _, _, rfl, asks.consults hasking,
      Session.run_eq_iff.2 ⟨_, sends, hsending, rfl⟩, Http.hops_of_yields sends, ends.settles⟩

/-- A realm that issues a refresh token and no token to present. -/
def refreshOnly : World where
  server := fun _ _ =>
    .reply ⟨200, [], .whole (Text.Utf8.encode "\x7b\"refresh_token\":\"next\"\x7d".toList)⟩
  store := ⟨fun _ _ => none, fun _ _ _ => none⟩

/-- The refresh token is kept, and then there is an error. -/
example :
    let challenge := ⟨.bearer, some "http://a.test/token", some "r", none⟩
    let realm := ⟨"http", "", "", some (.domain "a.test"), none, .segments ["token"], none, none⟩
    let run := (fetch challenge "repository:app:pull").run refreshOnly []
    run.1.toOption = none ∧ run.2.getLast? = some (.keptRefresh realm "r" "next") := by
  decide +kernel

end Token

end TagCatalog
