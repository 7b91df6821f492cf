import TagCatalog.Proofs.Registry.Listing

/-!
# Calls that are denied

A call of the registry is denied if it cannot be authorized, or if its reply says that it is not
allowed. Whatever else goes wrong with a call is a fault of transport.

* `Client.Denial`, `Client.Denied`: why a call is denied, and a call that is;
* `Client.Denial.error`: the error that tells of it;
* `Client.PageFails.denied_or_transport`: how a page of a listing fails;
* `Client.denied_or_transport_of_tagDigest`: how looking up a digest fails.
-/

namespace TagCatalog.Client

/-! ## Denials -/

/-- Why a call is denied. -/
inductive Denial where
  /-- No token is issued for it. -/
  | token (e : CatalogError)
  /-- The registry wants a password and there is none. -/
  | credentials
  /-- The reply has the status 401 or 403. -/
  | refused (response : Http.Response)

/-- The error that tells of a denial. -/
def Denial.error : Denial → CatalogError
  | token e => e
  | credentials => .noCredentials
  | refused response =>
    let shown := response.reply.body.text?.getD unreadableBody
    if response.reply.status = 401 then .unauthorized response.url shown
    else .forbidden response.url shown

/-- A call is denied. -/
inductive Denied (a : Authorizer) (call : Http.Call) : Trace → Denial → Prop
  | token {first : Challenge} {log : Trace} {e : CatalogError}
      (hbearer : a.challenges.find? .bearer = some first)
      (h : Token.Fetches first a.scope log (.error e)) : Denied a call log (.token e)
  | credentials {first : Challenge} (hbearer : a.challenges.find? .bearer = none)
      (hbasic : a.challenges.find? .basic = some first) :
    Denied a call [.askedBasic a.registry none] .credentials
  | refused {header : Option String} {log log' : Trace} {response : Http.Response}
      (h : a.headerValue.Yields log (.ok header))
      (hs : (Http.exchange (call.authorize header)).Yields log' (.ok (.ok response)))
      (hstatus : response.reply.status = 401 ∨ response.reply.status = 403) :
    Denied a call (log ++ log') (.refused response)

variable {c : Client} {a : Authorizer} {call : Http.Call} {log : Trace} {e : CatalogError}
  {response : Http.Response} {why : Denial}

theorem Denial.kind_error_refused : (Denial.refused response).error.kind = .authentication := by
  rw [error]
  split_ifs <;> rfl

theorem Denial.status?_error_refused
    (h : response.reply.status = 401 ∨ response.reply.status = 403) :
    (Denial.refused response).error.status? = some response.reply.status := by
  rw [error]
  rcases h with h | h
  · rw [if_pos h, h]
    rfl
  · rw [if_neg (by rw [h]; decide), h]
    rfl

theorem statusError?_of_refused (h : response.reply.status = 401 ∨ response.reply.status = 403) :
    statusError? response = some (Denial.refused response).error := by
  rw [statusError?, Denial.error]
  rcases h with h | h <;> rw [h] <;> rfl

theorem kind_of_statusError? (h : statusError? response = some e) :
    (response.reply.status = 401 ∨ response.reply.status = 403) ∧
        e = (Denial.refused response).error ∨
      ¬ (response.reply.status = 401 ∨ response.reply.status = 403) ∧ e.kind = .transport := by
  by_cases hrefused : response.reply.status = 401 ∨ response.reply.status = 403
  · rw [statusError?_of_refused hrefused] at h
    exact .inl ⟨hrefused, (Option.some.inj h).symm⟩
  · refine .inr ⟨hrefused, ?_⟩
    rw [statusError?, if_neg fun h401 => hrefused (.inl h401),
      if_neg fun h403 => hrefused (.inr h403)] at h
    split_ifs at h <;> cases h <;> rfl

theorem Denied.kind_eq (h : Denied a call log why) : why.error.kind = .authentication := by
  cases h with
  | token _ h => exact h.kind_eq
  | credentials => rfl
  | refused => exact Denial.kind_error_refused

theorem denied_of_headerValue (h : a.headerValue.Yields log (.error (.error e))) :
    ∃ why, Denied a call log why ∧ e = why.error := by
  cases hbearer : a.challenges.find? .bearer with
  | some first =>
    obtain ⟨result, hfetches, hr⟩ := (Authorizer.yields_headerValue_of_bearer hbearer).1 h
    cases result with
    | ok token => nomatch hr
    | error e' =>
      cases hr
      exact ⟨_, .token hbearer hfetches, rfl⟩
  | none =>
    cases hbasic : a.challenges.find? .basic with
    | none =>
      rw [Authorizer.headerValue_of_none hbearer hbasic] at h
      nomatch (Session.yields_done_iff.1 h).2
    | some first =>
      rw [Authorizer.headerValue_of_basic hbearer hbasic] at h
      obtain ⟨credentials, rest, rfl, hrest⟩ := Session.yields_askBasic_iff.1 h
      cases credentials with
      | some credentials => nomatch (Session.yields_done_iff.1 hrest).2
      | none =>
        obtain ⟨rfl, hr⟩ := Session.yields_fail_iff.1 hrest
        cases hr
        exact ⟨_, .credentials hbearer hbasic, rfl⟩

theorem Denied.headerValue_or_status (h : Denied a call log why) :
    a.headerValue.Yields log (.error (.error why.error)) ∨
      ∃ header log₁ log₂ response, log = log₁ ++ log₂ ∧ a.headerValue.Yields log₁ (.ok header) ∧
        (Http.exchange (call.authorize header)).Yields log₂ (.ok (.ok response)) ∧
        statusError? response = some why.error := by
  cases h with
  | token hbearer h =>
    exact .inl ((Authorizer.yields_headerValue_of_bearer hbearer).2 ⟨_, h, rfl⟩)
  | credentials hbearer hbasic =>
    rw [Authorizer.headerValue_of_basic hbearer hbasic]
    exact .inl (Session.yields_askBasic_iff.2 ⟨none, [], rfl, .fail _⟩)
  | refused h hs hstatus => exact .inr ⟨_, _, _, _, rfl, h, hs, statusError?_of_refused hstatus⟩

theorem denied_or_transport_of_status {header : Option String} {log' : Trace}
    (h : a.headerValue.Yields log (.ok header))
    (hs : (Http.exchange (call.authorize header)).Yields log' (.ok (.ok response)))
    (he : statusError? response = some e) :
    (∃ why, Denied a call (log ++ log') why ∧ e = why.error) ∨ e.kind = .transport := by
  rcases kind_of_statusError? he with ⟨hstatus, he⟩ | ⟨-, hkind⟩
  · exact .inl ⟨_, .refused h hs hstatus, he⟩
  · exact .inr hkind

/-! ## Calls that fail -/

/-- A page fails if its call is denied, or for a reason of transport. -/
theorem PageFails.denied_or_transport {url : Url} (h : PageFails c a url log e) :
    (∃ why, Denied a (.plain .get url) log why ∧ e = why.error) ∨ e.kind = .transport := by
  cases h with
  | authorization h => exact .inl (denied_of_headerValue h)
  | sending => exact .inr rfl
  | status h hs _ he => exact denied_or_transport_of_status h hs he
  | body => exact .inr rfl
  | link => exact .inr rfl

theorem Denied.pageFails {url : Url} (h : Denied a (.plain .get url) log why) :
    PageFails c a url log why.error := by
  rcases h.headerValue_or_status with h | ⟨header, log₁, log₂, response, rfl, h, hs, he⟩
  · exact .authorization h
  · refine .status h hs ?_ he
    rw [← statusError?_eq_none_iff, he]
    nofun

variable {repository tag : String} {url : Url}

theorem tagDigest_eq (h : c.endpoint (manifestPath repository tag) = .ok url) :
    c.tagDigest a repository tag = c.send a (manifestCall url) >>= fun response =>
      Session.ofExcept (digestOf repository tag response) := by
  rw [tagDigest, h]
  rfl

theorem digestOf_eq_error (h : digestOf repository tag response = .error e) :
    statusError? response = some e ∨ e.kind = .transport := by
  rw [digestOf] at h
  cases hstatus : statusError? response with
  | some e' =>
    rw [hstatus] at h
    cases h
    exact .inl rfl
  | none =>
    rw [hstatus] at h
    dsimp only at h
    split at h
    · cases h
      exact .inr rfl
    · next value _ =>
      cases hdigest : Digest.parse value with
      | error fault =>
        rw [hdigest] at h
        cases h
        exact .inr rfl
      | ok digest =>
        rw [hdigest] at h
        nomatch h

/-- Looking up a digest fails if its call is denied, or for a reason of transport. -/
theorem denied_or_transport_of_tagDigest (hurl : c.endpoint (manifestPath repository tag) = .ok url)
    (h : (c.tagDigest a repository tag).Yields log (.error (.error e))) :
    (∃ why, Denied a (manifestCall url) log why ∧ e = why.error) ∨ e.kind = .transport := by
  rw [tagDigest_eq hurl] at h
  rcases Session.yields_bind_iff.1 h with ⟨response, log', rest, rfl, hsend, hdigest⟩ |
    ⟨stop, hr, hsend⟩
  · obtain ⟨rfl, hr⟩ := Session.yields_ofExcept_iff.1 hdigest
    rw [List.append_nil]
    rcases yields_send_iff.1 hsend with ⟨_, _, hr'⟩ | ⟨header, log₁, log₂, sent, rfl, hh, hs, hr'⟩
    · nomatch hr'
    · cases sent with
      | error _ => nomatch hr'
      | ok response' =>
        cases hr'
        cases hdigest : digestOf repository tag response with
        | ok digest =>
          rw [hdigest] at hr
          nomatch hr
        | error e' =>
          rw [hdigest] at hr
          cases hr
          rcases digestOf_eq_error hdigest with he | hkind
          · exact denied_or_transport_of_status hh hs he
          · exact .inr hkind
  · cases hr
    rcases yields_send_iff.1 hsend with ⟨e', hh, hr⟩ | ⟨header, log₁, log₂, sent, rfl, hh, hs, hr⟩
    · cases hr
      exact .inl (denied_of_headerValue hh)
    · cases sent with
      | ok response => nomatch hr
      | error fault =>
        cases hr
        exact .inr rfl

theorem Denied.yields_tagDigest (hurl : c.endpoint (manifestPath repository tag) = .ok url)
    (h : Denied a (manifestCall url) log why) :
    (c.tagDigest a repository tag).Yields log (.error (.error why.error)) := by
  rw [tagDigest_eq hurl]
  rcases h.headerValue_or_status with h | ⟨header, log₁, log₂, response, rfl, h, hs, he⟩
  · exact (yields_send_iff.2 (.inl ⟨_, h, rfl⟩)).bind_error
  · have hdigest : digestOf repository tag response = .error why.error := by
      rw [digestOf, he]
    rw [← List.append_nil (log₁ ++ log₂)]
    refine (yields_send_iff.2 (.inr ⟨_, _, _, _, rfl, h, hs, rfl⟩)).bind ?_
    rw [hdigest]
    exact .fail _

end TagCatalog.Client
