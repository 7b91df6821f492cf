import TagCatalog.Proofs.Auth.Negotiation
import TagCatalog.Proofs.Url.Form

/-!
# What a token is asked for with

A token service reads the parameters of a request from a form: the query of a GET, or the body of a
POST. What it reads are the texts that the client put there. A challenge chooses the realm, whose
own query stays in front as it is, and the service. Whatever characters the service has, it stays
one parameter of the client's, and the scope that the client asks for is asked for as it is.

* `Token.Carries`: the parameters of a request to a realm;
* `Token.scopes`: the scopes among parameters;
* `Token.carries_queryCall`, `Token.carries_refreshCall`: the two calls;
* `Token.Fetches.exists_call`: the first request of an exchange is the one of its call;
* **`Token.carries_of_first`**: what every exchange asks for.
-/

namespace TagCatalog.Token

open Url

variable {challenge : Challenge} {realm : Url} {service scope : String} {log : Trace}
  {kept : Option String} {request : Http.Request}

/-! ## Parameters -/

/-- The parameters of a request to a realm, in their order. Without a refresh token they stand
behind those of the realm's own query, and an empty service is left out; with one they are the
form that is posted, and the query is the realm's own. -/
def Carries (realm : Url) (service scope : String) (kept : Option String)
    (request : Http.Request) : Prop :=
  match kept with
  | none => request.method = .get ∧ request.body = "" ∧
    request.url.queryPairs = realm.queryPairs ++
      ((if service = "" then [] else [("service", service)]) ++ [("scope", scope)])
  | some token => request.method = .post ∧ request.url.queryPairs = realm.queryPairs ∧
    Form.decode request.body.toList =
      [("grant_type", "refresh_token"), ("refresh_token", token), ("service", service),
        ("scope", scope), ("client_id", "tagwatch")]

/-- The scopes among parameters. -/
def scopes (pairs : List (String × String)) : List String :=
  (pairs.filter (·.1 == "scope")).map (·.2)

theorem scopes_append (a b : List (String × String)) : scopes (a ++ b) = scopes a ++ scopes b := by
  rw [scopes, List.filter_append, List.map_append]
  rfl

theorem scopes_queryForm (service scope : String) : scopes (queryForm service scope) = [scope] := by
  rw [queryForm, scopes_append]
  split_ifs <;> rfl

theorem Carries.scopes_eq (h : Carries realm service scope kept request) :
    scopes (request.url.queryPairs ++ Form.decode request.body.toList) =
      scopes realm.queryPairs ++ [scope] := by
  rw [scopes_append]
  cases kept with
  | none =>
    obtain ⟨-, hbody, hquery⟩ := h
    have hnone : scopes (Form.decode "".toList) = [] := rfl
    have hform : scopes request.url.queryPairs = scopes realm.queryPairs ++ [scope] := by
      rw [hquery, scopes_append]
      exact congrArg _ (scopes_queryForm service scope)
    rw [hbody, hnone, hform, List.append_nil]
  | some token =>
    obtain ⟨-, hquery, hform⟩ := h
    rw [hquery, hform]
    rfl

/-! ## The two calls -/

/-- What is put behind a realm's query is read from the query of the request. -/
theorem carries_queryCall (realm : Url) (service scope : String)
    (credentials : Option Credentials) :
    Carries realm service scope none
      (queryCall realm service scope credentials).withUserMoved.request := by
  refine ⟨Http.withUserMoved_method _, Http.withUserMoved_body _, ?_⟩
  rw [Http.withUserMoved_request_url]
  exact queryPairs_appendQuery realm (queryForm service scope)

theorem carries_refreshCall (realm : Url) (token service scope : String) :
    Carries realm service scope (some token)
      (refreshCall realm token service scope).withUserMoved.request := by
  refine ⟨Http.withUserMoved_method _, ?_, ?_⟩
  · rw [Http.withUserMoved_request_url]
    rfl
  · have hbody : (refreshCall realm token service scope).withUserMoved.body =
        String.ofList (Form.encode (refreshForm token service scope)) :=
      Http.withUserMoved_body _
    rw [Http.Call.request, hbody, String.toList_ofList, Form.decode_encode]
    rfl

/-! ## Every exchange -/

theorem Asks.requests_eq {asking : Trace} {call : Http.Call}
    (h : Asks realm service scope asking call) : asking.requests = [] := by
  cases h <;> rfl

theorem Ends.requests_eq {sent : Except Http.SendError Http.Response} {rest : Trace}
    {result : Except CatalogError String} (h : Ends realm service sent rest result) :
    rest.requests = [] := by
  cases h with
  | unsent | refused | unread => rfl
  | @tokenless _ tokens | @token _ tokens => rw [keeping]; cases tokens.refreshToken <;> rfl

/-- The first request of an exchange is the one of its call. -/
theorem Fetches.exists_call {result : Except CatalogError String}
    (h : Fetches challenge scope log result) (hfirst : log.requests.head? = some request) :
    ∃ text realm asking call rest, challenge.realm = some text ∧ Url.parse text = .ok realm ∧
      Asks realm (challenge.service.getD "") scope asking call ∧
      log = asking ++ rest ∧ request = call.withUserMoved.request := by
  cases h with
  | noRealm | badRealm => nomatch hfirst
  | @called text realm call asking sending kept sent result hrealm hparse asks sends ends =>
    refine ⟨text, realm, asking, call, sending ++ kept, hrealm, hparse, asks, rfl, ?_⟩
    have hkept := ends.requests_eq
    have hasking := asks.requests_eq
    rw [Trace.requests] at hkept hasking
    rw [Trace.requests, List.filterMap_append, List.filterMap_append, hasking, hkept] at hfirst
    obtain ⟨rfl, -⟩ | ⟨-, answer, rest, rfl⟩ := Http.nil_or_first_of_yields sends
    · nomatch hfirst
    · cases hfirst
      rfl

/-- **What every exchange asks for.** Whatever texts the realm's query, the service, the scope and
the refresh token are, a token service reads them as they are: from the query of a GET behind the
pairs of the realm's own query, and from the body of a POST. So whatever a challenge says, the
scopes asked for are the client's one behind any of the realm's own query. -/
theorem carries_of_first (realm : Url) (service scope : String) :
    (∀ credentials, Carries realm service scope none
      (queryCall realm service scope credentials).withUserMoved.request) ∧
    (∀ token, Carries realm service scope (some token)
      (refreshCall realm token service scope).withUserMoved.request) ∧
    ∀ challenge text log r request, challenge.realm = some text → Url.parse text = .ok realm →
      challenge.service.getD "" = service → (fetch challenge scope).Yields log r →
      log.requests.head? = some request →
      (∃ kept, .askedRefresh realm service kept ∈ log ∧
        Carries realm service scope kept request) ∧
      scopes (request.url.queryPairs ++ Form.decode request.body.toList) =
        scopes realm.queryPairs ++ [scope] := by
  refine ⟨carries_queryCall realm service scope,
    fun token => carries_refreshCall realm token service scope, ?_⟩
  intro challenge text log r request hrealm hparse hservice hfetch hfirst
  obtain ⟨result, hfetches, -⟩ := yields_fetch_iff.1 hfetch
  obtain ⟨text', realm', asking, call, rest, hrealm', hparse', asks, rfl, rfl⟩ :=
    hfetches.exists_call hfirst
  cases hrealm.symm.trans hrealm'
  cases hparse.symm.trans hparse'
  rw [hservice] at asks
  have hcarries : ∃ kept, .askedRefresh realm service kept ∈ asking ++ rest ∧
      Carries realm service scope kept call.withUserMoved.request := by
    cases asks with
    | refresh token =>
      exact ⟨some token, List.mem_cons_self, carries_refreshCall realm token service scope⟩
    | query credentials =>
      exact ⟨none, List.mem_cons_self, carries_queryCall realm service scope credentials⟩
  obtain ⟨kept, hasked, hkept⟩ := hcarries
  exact ⟨⟨kept, hasked, hkept⟩, hkept.scopes_eq⟩

/-- A challenge that tries to bring a scope of its own into the query. -/
def hostile : Challenge where
  scheme := .bearer
  realm := some "http://a.test/token?account=me#top"
  service := some "r&scope=repository:other:push"
  scope := some "repository:other:push"

/-- The realm of the hostile challenge. -/
def hostileRealm : Url where
  scheme := "http"
  username := ""
  password := ""
  host := some (.domain "a.test")
  port := none
  path := .segments ["token"]
  query := some "account=me"
  fragment := some "top"

/-- The service of a hostile challenge stays a service, and the scope is the client's. -/
theorem carries_of_first_hostile :
    ∃ request log r, (fetch hostile "repository:app:pull").Yields log r ∧
      log.requests.head? = some request ∧
      request.url.queryPairs = [("account", "me"), ("service", "r&scope=repository:other:push"),
        ("scope", "repository:app:pull")] ∧
      scopes (request.url.queryPairs ++ Form.decode request.body.toList) =
        ["repository:app:pull"] := by
  have hparse : Url.parse "http://a.test/token?account=me#top" = .ok hostileRealm :=
    eq_ok_of_toOption (by decide +kernel)
  have hmethod : ((fetch hostile "repository:app:pull").run Authorizer.tokenWorld []).2.requests.map
      (·.method) = [.get] := by
    decide +kernel
  rcases hrun : (fetch hostile "repository:app:pull").run Authorizer.tokenWorld [] with ⟨r, log⟩
  rw [hrun] at hmethod
  obtain ⟨request, rest, hrequests, hget, -⟩ := List.map_eq_cons_iff.1 hmethod
  have hfirst : log.requests.head? = some request := by
    rw [show log.requests = request :: rest from hrequests]
    rfl
  have hyields := Session.yields_of_run hrun
  obtain ⟨⟨kept, -, hcarries⟩, hscopes⟩ := (carries_of_first hostileRealm _ _).2.2 hostile _ log r
    request rfl hparse rfl hyields hfirst
  refine ⟨request, log, r, hyields, hfirst, ?_, hscopes.trans (by decide +kernel)⟩
  cases kept with
  | none => exact hcarries.2.2.trans (by decide +kernel)
  | some token => nomatch hget.symm.trans hcarries.1

end TagCatalog.Token
