import TagCatalog.Auth.Store
import TagCatalog.Proofs.Auth.Negotiation

/-!
# The life of refresh tokens

A refresh token that a realm issues is kept for this realm and the service that it was issued for,
and the last one kept is posted in the next exchange for them. What happened is cut into token
exchanges and events between them; then the tokens that a store has kept are those that earlier
exchanges issued, and they decide what an exchange does.

* `Store.Remembers`: a store that returns the last refresh token of a realm and service;
* `Token.Exchange`, `Token.Exchange.issued?`: one exchange, and the refresh token that it brings;
* `Token.Exchanges`: the exchanges of a trace, oldest first;
* `Token.Exchanges.kept_eq`: what has been kept is what was issued;
* **`Token.Exchange.call_of_answers`**: what an exchange posts, in the light of those before it;
* `Session.Trades`: sessions that ask and tell the store about refresh tokens in exchanges only.
-/

namespace TagCatalog

namespace Store

/-- The store returns the last refresh token that was kept for a realm and service, or else the
last one of a seed. -/
def Remembers (store : Store) (seed : List Entry) : Prop :=
  ∀ t realm service, store.refresh t realm service =
    lastToken? (seed ++ kept t) realm.text service

theorem remembers_remembering (credentials : Option Credentials) (seed : List Entry) :
    (remembering credentials seed).Remembers seed := fun _ _ _ => rfl

/-- What an entry is kept for. -/
def Entry.pair (e : Entry) : String × String := (e.realm, e.service)

/-- The tokens of a realm and service, oldest first. -/
def tokensOf (entries : List Entry) (pair : String × String) : List String :=
  (entries.filter fun e => e.pair = pair).map Entry.token

theorem mem_tokensOf {entries : List Entry} {pair : String × String} {token : String} :
    token ∈ tokensOf entries pair ↔ ∃ e ∈ entries, e.pair = pair ∧ e.token = token := by
  simp [tokensOf, and_assoc]

theorem lastToken?_eq (entries : List Entry) (realm service : String) :
    lastToken? entries realm service = (tokensOf entries (realm, service)).getLast? := by
  have hpair : (fun e : Entry => decide (e.pair = (realm, service))) =
      fun e => e.realm == realm && e.service == service := by
    funext e
    rw [Bool.eq_iff_iff]
    simp [Entry.pair]
  rw [lastToken?, tokensOf, hpair, List.getLast?_map, ← List.head?_reverse, ← List.filter_reverse,
    List.head?_filter]

theorem kept_append (t t' : Trace) : kept (t ++ t') = kept t ++ kept t' := List.filterMap_append

end Store

namespace Token

/-! ## Exchanges -/

/-- The refresh token in a response that reports success and whose body reads. -/
def issued? : Except Http.SendError Http.Response → Option String
  | .error _ => none
  | .ok response =>
    if Http.isSuccess response.reply.status then (tokens? response).bind TokenReply.refreshToken
    else none

theorem Ends.log_eq {realm : Url} {service : String} {sent : Except Http.SendError Http.Response}
    {kept : Trace} {result : Except CatalogError String} (h : Ends realm service sent kept result) :
    kept = (issued? sent).toList.map (.keptRefresh realm service ·) := by
  cases h with
  | unsent => rfl
  | refused h => simp [issued?, h]
  | unread h hb => simp [issued?, h, hb]
  | tokenless h hb | token h hb => simp [issued?, h, hb, keeping]

theorem Asks.kept_eq {realm : Url} {service scope : String} {asking : Trace} {call : Http.Call}
    (h : Asks realm service scope asking call) : Store.kept asking = [] := by
  cases h <;> rfl

/-- A token exchange: the store is asked, its answers make a call, and the call is sent. -/
structure Exchange where
  realm : Url
  service : String
  scope : String
  /-- What the store was asked. -/
  asking : Trace
  call : Http.Call
  asks : Asks realm service scope asking call
  /-- What happened for the call. -/
  sending : Trace
  sent : Except Http.SendError Http.Response
  sends : (Http.exchange call).Yields sending (.ok sent)

namespace Exchange

/-- The text of the realm, and the service. -/
def pair (x : Exchange) : String × String := (x.realm.text, x.service)

/-- The refresh token that the exchange brings. -/
def issued? (x : Exchange) : Option String := Token.issued? x.sent

/-- All that happens. -/
def log (x : Exchange) : Trace :=
  x.asking ++ (x.sending ++ x.issued?.toList.map (.keptRefresh x.realm x.service ·))

/-- What the store keeps of it. -/
def entry? (x : Exchange) : Option Store.Entry :=
  x.issued?.map fun token => ⟨x.realm.text, x.service, token⟩

/-- The exchange that ends with a reply to its first request. -/
def ofReply {realm : Url} {service scope : String} {asking : Trace} {call : Http.Call}
    (asks : Asks realm service scope asking call) (reply : Http.Reply)
    (hsend : call.withUserMoved.authorization.all Http.isSendable)
    (haddr : Http.isAddressable call.withUserMoved.url)
    (hstays : Http.isRedirect reply.status = false) : Exchange :=
  ⟨realm, service, scope, asking, call, asks, _, _,
    Http.yields_exchange_of_reply hsend haddr hstays⟩

theorem kept_sending (x : Exchange) : Store.kept x.sending = [] := by
  refine List.filterMap_eq_nil_iff.2 fun e he => ?_
  have hexchange := Http.isExchange_of_yields x.sends e he
  cases e with
  | exchanged => rfl
  | askedBasic | askedRefresh | keptRefresh => nomatch hexchange

theorem kept_log (x : Exchange) : Store.kept x.log = x.entry?.toList := by
  rw [log, Store.kept_append, Store.kept_append, x.asks.kept_eq, kept_sending, entry?]
  cases x.issued? <;> rfl

theorem first_request (x : Exchange) {request : Http.Request} {answer : Http.Answer} {rest : Trace}
    (h : x.sending = .exchanged request answer :: rest) :
    request.method = x.call.method ∧ request.body = x.call.body := by
  have hsends := x.sends
  rw [h] at hsends
  rw [(Http.first_of_yields hsends).1]
  exact ⟨Http.withUserMoved_method x.call, Http.withUserMoved_body x.call⟩

end Exchange

end Token

/-- The store was asked for a refresh token or was offered one. -/
def Event.concernsRefresh : Event → Bool
  | askedRefresh .. | keptRefresh .. => true
  | exchanged .. | askedBasic .. => false

namespace Token

/-- The token exchanges of a trace, oldest first. No other event in it concerns refresh tokens. -/
inductive Exchanges : Trace → List Exchange → Prop
  | nil : Exchanges [] []
  | other {e : Event} {t : Trace} {xs : List Exchange} (h : ¬ e.concernsRefresh)
      (rest : Exchanges t xs) : Exchanges (e :: t) xs
  | exchange (x : Exchange) {t : Trace} {xs : List Exchange} (rest : Exchanges t xs) :
    Exchanges (x.log ++ t) (x :: xs)

namespace Exchanges

variable {t t' : Trace} {xs xs' before after : List Exchange} {x : Exchange}

theorem append (h : Exchanges t xs) (h' : Exchanges t' xs') : Exchanges (t ++ t') (xs ++ xs') := by
  induction h with
  | nil => exact h'
  | other he _ ih => exact .other he ih
  | exchange x _ ih =>
    rw [List.append_assoc]
    exact .exchange x ih

theorem of_forall (h : ∀ e ∈ t, ¬ e.concernsRefresh) : Exchanges t [] := by
  induction t with
  | nil => exact .nil
  | cons e t ih =>
    rw [List.forall_mem_cons] at h
    exact .other h.1 (ih h.2)

/-- **What has been kept is what was issued.** -/
theorem kept_eq (h : Exchanges t xs) : Store.kept t = xs.filterMap Exchange.entry? := by
  induction h with
  | nil => rfl
  | @other e t xs he _ ih =>
    cases e with
    | exchanged | askedBasic => exact ih
    | askedRefresh | keptRefresh => exact absurd rfl he
  | exchange x _ ih =>
    rw [Store.kept_append, x.kept_log, ih, List.filterMap_cons]
    cases x.entry? <;> rfl

theorem exists_split (h : Exchanges t (before ++ x :: after)) : ∃ front rest,
    t = front ++ (x.log ++ rest) ∧ Exchanges front before := by
  generalize hxs : before ++ x :: after = xs at h
  induction h generalizing before with
  | nil => simp at hxs
  | @other e _ _ he _ ih =>
    obtain ⟨front, rest, rfl, hfront⟩ := ih hxs
    exact ⟨e :: front, rest, rfl, .other he hfront⟩
  | @exchange y t ys htail ih =>
    cases before with
    | nil =>
      obtain ⟨rfl, -⟩ := List.cons_eq_cons.1 hxs
      exact ⟨[], t, rfl, .nil⟩
    | cons z before =>
      obtain ⟨rfl, hys⟩ := List.cons_eq_cons.1 hxs
      obtain ⟨front, rest, rfl, hfront⟩ := ih hys
      exact ⟨z.log ++ front, rest, (List.append_assoc ..).symm, .exchange z hfront⟩

end Exchanges

/-! ## What is posted -/

/-- The refresh tokens for a realm and service that were seeded, and then those that were issued,
oldest first. -/
def known (seed : List Store.Entry) (before : List Exchange) (pair : String × String) :
    List String :=
  Store.tokensOf (seed ++ before.filterMap Exchange.entry?) pair

variable {seed : List Store.Entry} {before : List Exchange} {pair : String × String}

theorem mem_known {token : String} : token ∈ known seed before pair ↔
    (∃ e ∈ seed, e.pair = pair ∧ e.token = token) ∨
      ∃ y ∈ before, y.pair = pair ∧ y.issued? = some token := by
  rw [known, Store.mem_tokensOf]
  simp only [List.mem_append, or_and_right, exists_or]
  refine or_congr_right ⟨?_, ?_⟩
  · rintro ⟨e, he, rfl, rfl⟩
    obtain ⟨y, hy, hentry⟩ := List.mem_filterMap.1 he
    obtain ⟨token, htoken, rfl⟩ := Option.map_eq_some_iff.1 hentry
    exact ⟨y, hy, rfl, htoken⟩
  · rintro ⟨y, hy, rfl, htoken⟩
    refine ⟨⟨y.realm.text, y.service, token⟩, List.mem_filterMap.2 ⟨y, hy, ?_⟩, rfl, rfl⟩
    rw [Exchange.entry?, htoken]
    rfl

theorem known_ne_nil_iff : known seed before pair ≠ [] ↔
    (∃ e ∈ seed, e.pair = pair) ∨ ∃ y ∈ before, y.pair = pair ∧ y.issued?.isSome := by
  constructor
  · intro hne
    obtain ⟨token, hmem⟩ := List.exists_mem_of_ne_nil _ hne
    rcases mem_known.1 hmem with ⟨e, he, hpair, -⟩ | ⟨y, hy, hpair, htoken⟩
    · exact .inl ⟨e, he, hpair⟩
    · exact .inr ⟨y, hy, hpair, Option.isSome_iff_exists.2 ⟨token, htoken⟩⟩
  · rintro (⟨e, he, hpair⟩ | ⟨y, hy, hpair, hissued⟩)
    · exact List.ne_nil_of_mem (mem_known.2 (.inl ⟨e, he, hpair, rfl⟩))
    · obtain ⟨token, htoken⟩ := Option.isSome_iff_exists.1 hissued
      exact List.ne_nil_of_mem (mem_known.2 (.inr ⟨y, hy, hpair, htoken⟩))

/-- The call of an exchange posts a refresh token. -/
def Exchange.Posts (x : Exchange) (token : String) : Prop :=
  x.call = refreshCall x.realm token x.service x.scope

theorem refresh_eq_getLast? {w : World} {front : Trace} (hstore : w.store.Remembers seed)
    (hfront : Exchanges front before) (realm : Url) (service : String) :
    w.store.refresh front realm service =
      (known seed before (realm.text, service)).getLast? := by
  rw [hstore, hfront.kept_eq, Store.lastToken?_eq]
  rfl

/-- **What an exchange does** hangs on the refresh tokens that are known for its realm and service:
the last one is posted, and without one the call is a GET. -/
theorem Exchange.call_of_answers {x : Exchange} {w : World} {front : Trace}
    (hstore : w.store.Remembers seed) (hfront : Exchanges front before)
    (ha : w.Answers front x.log) :
    match (known seed before x.pair).getLast? with
    | some token => x.Posts token
    | none => x.call.method = .get := by
  have hanswer := refresh_eq_getLast? hstore hfront x.realm x.service
  obtain ⟨realm, service, scope, asking, call, asks, sending, sent, sends⟩ := x
  cases asks with
  | refresh token =>
    have htoken : some token = _ := ha.1.trans hanswer
    rw [pair, ← htoken]
    rfl
  | query credentials =>
    have hnone : none = _ := ha.1.trans hanswer
    rw [pair, ← hnone]
    rfl

end Token

/-! ## Sessions -/

/-- The session asks and tells the store about refresh tokens in exchanges only. -/
def Session.Trades {α : Type} (s : Session α) : Prop :=
  ∀ log r, s.Yields log r → ∃ xs, Token.Exchanges log xs

namespace Session

variable {α β : Type}

theorem trades_done (a : α) : (Session.done a).Trades := by
  intro log r h
  rw [(yields_done_iff.1 h).1]
  exact ⟨[], .nil⟩

theorem trades_fail (stop : Stop) : (Session.fail stop : Session α).Trades := by
  intro log r h
  rw [(yields_fail_iff.1 h).1]
  exact ⟨[], .nil⟩

theorem trades_ofExcept (x : Except CatalogError α) : (ofExcept x).Trades := by
  intro log r h
  rw [(yields_ofExcept_iff.1 h).1]
  exact ⟨[], .nil⟩

theorem Trades.bind {s : Session α} {f : α → Session β} (h : s.Trades) (hf : ∀ a, (f a).Trades) :
    (s >>= f).Trades := by
  intro log r hy
  rcases yields_bind_iff.1 hy with ⟨a, log₁, log₂, rfl, h₁, h₂⟩ | ⟨stop, -, h₁⟩
  · obtain ⟨xs, hxs⟩ := h _ _ h₁
    obtain ⟨ys, hys⟩ := hf a _ _ h₂
    exact ⟨xs ++ ys, hxs.append hys⟩
  · exact h _ _ h₁

end Session

theorem Http.trades_exchange (call : Call) : (exchange call).Trades := by
  intro log r h
  refine ⟨[], .of_forall fun e he => ?_⟩
  have hexchange := isExchange_of_yields h e he
  cases e with
  | exchanged => exact Bool.false_ne_true
  | askedBasic | askedRefresh | keptRefresh => nomatch hexchange

theorem Token.trades_fetch (challenge : Challenge) (scope : String) :
    (fetch challenge scope).Trades := by
  intro log r h
  obtain ⟨result, hfetches, -⟩ := yields_fetch_iff.1 h
  cases hfetches with
  | noRealm | badRealm => exact ⟨[], .nil⟩
  | @called text realm call asking sending kept sent result hrealm hparse asks sends ends =>
    have hx := Exchanges.exchange ⟨realm, _, scope, asking, call, asks, sending, sent, sends⟩ .nil
    rw [List.append_nil] at hx
    rw [ends.log_eq]
    exact ⟨_, hx⟩

theorem Authorizer.trades_headerValue (a : Authorizer) : a.headerValue.Trades := by
  cases hbearer : a.challenges.find? .bearer with
  | some challenge =>
    rw [headerValue_of_bearer hbearer]
    exact (Token.trades_fetch challenge a.scope).bind fun token => Session.trades_done _
  | none =>
    cases hbasic : a.challenges.find? .basic with
    | none =>
      rw [headerValue_of_none hbearer hbasic]
      exact Session.trades_done _
    | some challenge =>
      rw [headerValue_of_basic hbearer hbasic]
      intro log r h
      obtain ⟨credentials, rest, rfl, hrest⟩ := Session.yields_askBasic_iff.1 h
      have hnil : rest = [] := by
        cases credentials with
        | some c => exact (Session.yields_done_iff.1 hrest).1
        | none => exact (Session.yields_fail_iff.1 hrest).1
      rw [hnil]
      exact ⟨[], .other Bool.false_ne_true .nil⟩

end TagCatalog
