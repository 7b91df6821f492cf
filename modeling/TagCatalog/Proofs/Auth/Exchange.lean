import TagCatalog.Auth.Token
import TagCatalog.Proofs.Http.Exchange

/-!
# Token exchanges

What happens when a Bearer challenge is traded for a token: the store is asked for a refresh token
and, without one, for credentials; one call goes to the realm; a refresh token in the reply goes to
the store.

* `Token.Asks`: what the store is asked, and the call that its answers make;
* `Token.Ends`: what becomes of the reply;
* `Token.Fetches`: a whole exchange, with its token or its error;
* **`Token.yields_fetch_iff`**: the logs of an exchange;
* `Token.Fetches.ne_empty`, `Token.Fetches.kind_eq`: a token is not empty, and every error is one of
  authentication.
-/

namespace TagCatalog

theorem TokenReply.nonEmpty?_eq_some_iff {t : Option String} {token : String} :
    nonEmpty? t = some token ↔ t = some token ∧ token ≠ "" := by
  rw [nonEmpty?, Option.filter_eq_some_iff, bne_iff_ne]

namespace Token

/-- What the store is asked for a realm and service, and the call that is made with its answers. -/
inductive Asks (realm : Url) (service scope : String) : Trace → Http.Call → Prop
  | refresh (token : String) :
    Asks realm service scope [.askedRefresh realm service (some token)]
      (refreshCall realm token service scope)
  | query (credentials : Option Credentials) :
    Asks realm service scope [.askedRefresh realm service none, .askedBasic realm credentials]
      (queryCall realm service scope credentials)

/-- The tokens in a response, if its body reads. -/
def tokens? (r : Http.Response) : Option TokenReply := r.reply.body.bytes?.bind TokenReply.ofBytes?

/-- The refresh token of a reply goes to the store. -/
def keeping (realm : Url) (service : String) (tokens : TokenReply) : Trace :=
  tokens.refreshToken.toList.map (.keptRefresh realm service ·)

/-- What an exchange does after its call, and what it ends with. -/
inductive Ends (realm : Url) (service : String) :
    Except Http.SendError Http.Response → Trace → Except CatalogError String → Prop
  | unsent (e : Http.SendError) :
    Ends realm service (.error e) [] (.error (.tokenRequestFailed realm e))
  | refused {response : Http.Response} (h : ¬ Http.isSuccess response.reply.status) :
    Ends realm service (.ok response) [] (.error (.tokenRefused realm response.reply.status
      (response.reply.body.text?.getD "")))
  | unread {response : Http.Response} (h : Http.isSuccess response.reply.status)
      (hb : tokens? response = none) :
    Ends realm service (.ok response) [] (.error .badTokenReply)
  | tokenless {response : Http.Response} {tokens : TokenReply}
      (h : Http.isSuccess response.reply.status) (hb : tokens? response = some tokens)
      (ht : tokens.bearer? = none) :
    Ends realm service (.ok response) (keeping realm service tokens) (.error .noToken)
  | token {response : Http.Response} {tokens : TokenReply} {token : String}
      (h : Http.isSuccess response.reply.status) (hb : tokens? response = some tokens)
      (ht : tokens.bearer? = some token) :
    Ends realm service (.ok response) (keeping realm service tokens) (.ok token)

/-- A challenge is traded for a token with a scope: without a realm that can be called nothing
happens, and otherwise there is exactly one call, to the challenge's realm. -/
inductive Fetches (challenge : Challenge) (scope : String) :
    Trace → Except CatalogError String → Prop
  | noRealm (h : challenge.realm = none) : Fetches challenge scope [] (.error .noRealm)
  | badRealm {text : String} {fault : Url.Fault} (h : challenge.realm = some text)
      (hp : Url.parse text = .error fault) :
    Fetches challenge scope [] (.error (.badRealm text fault))
  | called {text : String} {realm : Url} {call : Http.Call} {asking sending kept : Trace}
      {sent : Except Http.SendError Http.Response} {result : Except CatalogError String}
      (h : challenge.realm = some text) (hp : Url.parse text = .ok realm)
      (asks : Asks realm (challenge.service.getD "") scope asking call)
      (sends : (Http.exchange call).Yields sending (.ok sent))
      (ends : Ends realm (challenge.service.getD "") sent kept result) :
    Fetches challenge scope (asking ++ (sending ++ kept)) result

variable {challenge : Challenge} {scope service : String} {realm : Url} {log : Trace}

/-! ## The end of an exchange -/

/-- The end of an exchange whose tokens are read. -/
def finish (tokens : TokenReply) : Session String :=
  match tokens.bearer? with
  | some token => .done token
  | none => .raise .noToken

theorem yields_finish_iff {tokens : TokenReply} {r : Except Stop String} :
    (finish tokens).Yields log r ↔
      log = [] ∧ r = ((tokens.bearer?.map Except.ok).getD (.error .noToken)).mapError .error := by
  rw [finish]
  cases tokens.bearer? with
  | some token => exact Session.yields_done_iff
  | none => exact Session.yields_fail_iff

variable {response : Http.Response} {r : Except Stop String}

theorem yields_ofResponse_of_some {tokens : TokenReply}
    (hs : Http.isSuccess response.reply.status) (hb : tokens? response = some tokens) :
    (ofResponse realm service response).Yields log r ↔ log = keeping realm service tokens ∧
      r = ((tokens.bearer?.map Except.ok).getD (.error .noToken)).mapError .error := by
  rw [tokens?] at hb
  cases htoken : tokens.refreshToken with
  | none =>
    have hend : ofResponse realm service response = finish tokens := by
      simp only [ofResponse, hs, if_true, hb, htoken]
      rfl
    rw [hend, yields_finish_iff, keeping, htoken]
    rfl
  | some token =>
    have hend : ofResponse realm service response =
        .keepRefresh realm service token (finish tokens) := by
      simp only [ofResponse, hs, if_true, hb, htoken]
      rfl
    simp only [hend, Session.yields_keepRefresh_iff, yields_finish_iff, keeping, htoken]
    constructor
    · rintro ⟨_, rfl, rfl, hr⟩
      exact ⟨rfl, hr⟩
    · rintro ⟨rfl, hr⟩
      exact ⟨[], rfl, rfl, hr⟩

theorem yields_ofResponse_iff : (ofResponse realm service response).Yields log r ↔
    ∃ result, Ends realm service (.ok response) log result ∧ r = result.mapError .error := by
  by_cases hs : Http.isSuccess response.reply.status
  · cases hb : tokens? response with
    | none =>
      have hend : ofResponse realm service response = .raise .badTokenReply := by
        rw [tokens?] at hb
        simp only [ofResponse, hs, if_true, hb]
      rw [hend]
      constructor
      · intro h
        obtain ⟨rfl, rfl⟩ := Session.yields_fail_iff.1 h
        exact ⟨_, .unread hs hb, rfl⟩
      · rintro ⟨result, hends, rfl⟩
        cases hends with
        | refused h => exact absurd hs h
        | unread => exact .fail _
        | tokenless _ hb' | token _ hb' => rw [hb] at hb'; nomatch hb'
    | some tokens =>
      rw [yields_ofResponse_of_some hs hb]
      constructor
      · rintro ⟨rfl, rfl⟩
        refine ⟨_, ?_, rfl⟩
        cases ht : tokens.bearer? with
        | none => exact .tokenless hs hb ht
        | some token => exact .token hs hb ht
      · rintro ⟨result, hends, rfl⟩
        cases hends with
        | refused h => exact absurd hs h
        | unread _ hb' => rw [hb] at hb'; nomatch hb'
        | tokenless _ hb' ht | token _ hb' ht =>
          rw [hb] at hb'
          cases hb'
          rw [ht]
          exact ⟨rfl, rfl⟩
  · have hend : ofResponse realm service response = .raise (.tokenRefused realm
        response.reply.status (response.reply.body.text?.getD "")) := by
      simp only [ofResponse, hs]
      rfl
    rw [hend]
    constructor
    · intro h
      obtain ⟨rfl, rfl⟩ := Session.yields_fail_iff.1 h
      exact ⟨_, .refused hs, rfl⟩
    · rintro ⟨result, hends, rfl⟩
      cases hends with
      | refused => exact .fail _
      | unread h | tokenless h | token h => exact absurd h hs

/-! ## The whole exchange -/

theorem yields_exchange_iff {call : Http.Call} : (exchange realm service call).Yields log r ↔
    ∃ sending kept sent result, log = sending ++ kept ∧
      (Http.exchange call).Yields sending (.ok sent) ∧ Ends realm service sent kept result ∧
      r = result.mapError .error := by
  constructor
  · intro h
    rcases Session.yields_bind_iff.1 h with ⟨sent, sending, kept, rfl, hsend, hend⟩ |
      ⟨stop, -, hstop⟩
    · cases sent with
      | error e =>
        obtain ⟨rfl, rfl⟩ := Session.yields_fail_iff.1 hend
        exact ⟨sending, [], _, _, rfl, hsend, .unsent e, rfl⟩
      | ok response =>
        obtain ⟨result, hends, rfl⟩ := yields_ofResponse_iff.1 hend
        exact ⟨sending, kept, _, result, rfl, hsend, hends, rfl⟩
    · exact (Http.stopsFor_exchange _ _ _ hstop).elim
  · rintro ⟨sending, kept, sent, result, rfl, hsend, hends, rfl⟩
    refine hsend.bind ?_
    cases sent with
    | error e =>
      cases hends
      exact .fail _
    | ok response => exact yields_ofResponse_iff.2 ⟨result, hends, rfl⟩

/-- What is done once the realm is read. -/
def askAndCall (realm : Url) (service scope : String) : Session String :=
  .askRefresh realm service fun kept => match kept with
    | some token => exchange realm service (refreshCall realm token service scope)
    | none => .askBasic realm fun credentials =>
      exchange realm service (queryCall realm service scope credentials)

theorem yields_askAndCall_iff : (askAndCall realm service scope).Yields log r ↔
    ∃ asking call rest, log = asking ++ rest ∧ Asks realm service scope asking call ∧
      (exchange realm service call).Yields rest r := by
  rw [askAndCall, Session.yields_askRefresh_iff]
  constructor
  · rintro ⟨kept, rest, rfl, h⟩
    cases kept with
    | some token => exact ⟨_, _, rest, rfl, .refresh token, h⟩
    | none =>
      obtain ⟨credentials, rest, rfl, hcall⟩ := Session.yields_askBasic_iff.1 h
      exact ⟨_, _, rest, rfl, .query credentials, hcall⟩
  · rintro ⟨asking, call, rest, rfl, asks, h⟩
    cases asks with
    | refresh token => exact ⟨some token, rest, rfl, h⟩
    | query credentials =>
      exact ⟨none, _, rfl, Session.yields_askBasic_iff.2 ⟨credentials, rest, rfl, h⟩⟩

/-- **The logs of trading a challenge for a token.** -/
theorem yields_fetch_iff : (fetch challenge scope).Yields log r ↔
    ∃ result, Fetches challenge scope log result ∧ r = result.mapError .error := by
  cases hrealm : challenge.realm with
  | none =>
    have hfetch : fetch challenge scope = .raise .noRealm := by rw [fetch, hrealm]
    rw [hfetch]
    constructor
    · intro h
      obtain ⟨rfl, rfl⟩ := Session.yields_fail_iff.1 h
      exact ⟨_, .noRealm hrealm, rfl⟩
    · rintro ⟨result, hfetches, rfl⟩
      cases hfetches with
      | noRealm => exact .fail _
      | badRealm h | called h => nomatch hrealm.symm.trans h
  | some text =>
    cases hparse : Url.parse text with
    | error fault =>
      have hfetch : fetch challenge scope = .raise (.badRealm text fault) := by
        rw [fetch, hrealm]
        simp only [hparse]
      rw [hfetch]
      constructor
      · intro h
        obtain ⟨rfl, rfl⟩ := Session.yields_fail_iff.1 h
        exact ⟨_, .badRealm hrealm hparse, rfl⟩
      · rintro ⟨result, hfetches, rfl⟩
        cases hfetches with
        | noRealm h => nomatch hrealm.symm.trans h
        | badRealm h hp =>
          cases hrealm.symm.trans h
          cases hparse.symm.trans hp
          exact .fail _
        | called h hp =>
          cases hrealm.symm.trans h
          nomatch hparse.symm.trans hp
    | ok realm =>
      have hfetch : fetch challenge scope =
          askAndCall realm (challenge.service.getD "") scope := by
        rw [fetch, hrealm]
        simp only [hparse]
        rfl
      rw [hfetch, yields_askAndCall_iff]
      constructor
      · rintro ⟨asking, call, rest, rfl, asks, h⟩
        obtain ⟨sending, kept, sent, result, rfl, hsend, hends, rfl⟩ := yields_exchange_iff.1 h
        exact ⟨result, .called hrealm hparse asks hsend hends, rfl⟩
      · rintro ⟨result, hfetches, rfl⟩
        cases hfetches with
        | noRealm h => nomatch hrealm.symm.trans h
        | badRealm h hp =>
          cases hrealm.symm.trans h
          nomatch hparse.symm.trans hp
        | called h hp asks sends ends =>
          cases hrealm.symm.trans h
          cases hparse.symm.trans hp
          exact ⟨_, _, _, rfl, asks, yields_exchange_iff.2 ⟨_, _, _, _, rfl, sends, ends, rfl⟩⟩

theorem stopsFor_fetch (challenge : Challenge) (scope : String) :
    (fetch challenge scope).StopsFor (· ≠ .pageLimit) := by
  intro log stop h
  obtain ⟨result, -, hr⟩ := yields_fetch_iff.1 h
  cases result with
  | ok token => nomatch hr
  | error e => cases hr; exact Stop.noConfusion

theorem ne_empty_of_bearer? {tokens : TokenReply} {token : String}
    (h : tokens.bearer? = some token) : token ≠ "" := by
  rw [TokenReply.bearer?] at h
  cases ht : TokenReply.nonEmpty? tokens.token with
  | some t =>
    rw [ht] at h
    cases h
    exact (TokenReply.nonEmpty?_eq_some_iff.1 ht).2
  | none =>
    rw [ht] at h
    exact (TokenReply.nonEmpty?_eq_some_iff.1 h).2

/-- A token is never empty. -/
theorem Fetches.ne_empty {token : String} (h : Fetches challenge scope log (.ok token)) :
    token ≠ "" := by
  cases h with
  | called _ _ _ _ ends =>
    cases ends with
    | token _ _ ht => exact ne_empty_of_bearer? ht

theorem Ends.kind_eq {sent : Except Http.SendError Http.Response} {kept : Trace}
    {e : CatalogError} (h : Ends realm service sent kept (.error e)) :
    e.kind = .authentication := by
  cases h <;> rfl

/-- Every error of an exchange is one of authentication. -/
theorem Fetches.kind_eq {e : CatalogError} (h : Fetches challenge scope log (.error e)) :
    e.kind = .authentication := by
  cases h with
  | noRealm | badRealm => rfl
  | called _ _ _ _ ends => exact ends.kind_eq

end Token

end TagCatalog
