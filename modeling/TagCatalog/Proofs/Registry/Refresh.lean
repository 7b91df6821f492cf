import TagCatalog.Proofs.Auth.Refresh
import TagCatalog.Registry.Client

/-!
# Refresh tokens over many calls

A client may be used for many calls in a row, each with challenges of its own. What a store was
told of refresh tokens in one of them decides what is posted in a later one, and on each page of a
listing again.

* `Client.Operation`, `Client.Operation.runAll`: calls of clients, one after the other;
* `Client.Operation.exists_exchanges`: the trace of all calls is made of token exchanges;
* **`Client.refresh_of_operations`**: what every exchange posts.
-/

namespace TagCatalog.Client

/-! ## Exchanges of one call -/

variable (c : Client) (a : Authorizer)

theorem trades_probe : c.probe.Trades := by
  unfold probe
  split
  · exact Session.trades_fail _
  · refine (Http.trades_exchange _).bind fun sent => ?_
    cases sent with
    | error e => exact Session.trades_fail _
    | ok response => exact Session.trades_ofExcept _

theorem trades_send (call : Http.Call) : (c.send a call).Trades := by
  refine a.trades_headerValue.bind fun header => (Http.trades_exchange _).bind fun sent => ?_
  cases sent with
  | error e => exact Session.trades_fail _
  | ok response => exact Session.trades_done _

theorem trades_listFrom (limit : Nat) (visited : List Url) (url : Url) :
    (c.listFrom a limit visited url).Trades := by
  induction limit generalizing visited url with
  | zero => exact Session.trades_fail _
  | succ limit ih =>
    unfold listFrom
    refine (c.trades_send a _).bind fun response => ?_
    refine (Session.trades_ofExcept _).bind fun tags => ?_
    refine (Session.trades_ofExcept _).bind fun next => ?_
    cases next with
    | none => exact Session.trades_done _
    | some next => exact (ih _ next).bind fun rest => Session.trades_done _

theorem trades_listTags (limit : Nat) (repository : String) :
    (c.listTags a limit repository).Trades :=
  (Session.trades_ofExcept _).bind fun url => c.trades_listFrom a limit [] url

theorem trades_tagDigest (repository tag : String) : (c.tagDigest a repository tag).Trades :=
  (Session.trades_ofExcept _).bind fun _ =>
    (c.trades_send a _).bind fun _ => Session.trades_ofExcept _

/-! ## Many calls -/

/-- A call of a client or an authorizer. -/
inductive Operation where
  | probe (c : Client)
  | header (a : Authorizer)
  | list (c : Client) (a : Authorizer) (limit : Nat) (repository : String)
  | digest (c : Client) (a : Authorizer) (repository tag : String)

namespace Operation

/-- What is done for a call, whatever comes of it. -/
def session : Operation → Session Unit
  | probe c => c.probe >>= fun _ => pure ()
  | header a => a.headerValue >>= fun _ => pure ()
  | list c a limit repository => c.listTags a limit repository >>= fun _ => pure ()
  | digest c a repository tag => c.tagDigest a repository tag >>= fun _ => pure ()

/-- What has happened after calls one after the other, failed ones among them. -/
def runAll (w : World) (operations : List Operation) (t : Trace) : Trace :=
  operations.foldl (fun t o => (o.session.run w t).2) t

theorem trades_session (o : Operation) : o.session.Trades := by
  cases o with
  | probe c => exact c.trades_probe.bind fun _ => Session.trades_done _
  | header a => exact a.trades_headerValue.bind fun _ => Session.trades_done _
  | list c a limit repository =>
    exact (c.trades_listTags a limit repository).bind fun _ => Session.trades_done _
  | digest c a repository tag =>
    exact (c.trades_tagDigest a repository tag).bind fun _ => Session.trades_done _

/-- What happens in many calls is made of token exchanges, and the world gives the answers. -/
theorem exists_exchanges (w : World) (operations : List Operation) (t : Trace) : ∃ log xs,
    runAll w operations t = t ++ log ∧ w.Answers t log ∧ Token.Exchanges log xs := by
  induction operations generalizing t with
  | nil => exact ⟨[], [], (List.append_nil t).symm, trivial, .nil⟩
  | cons o operations ih =>
    rcases hrun : o.session.run w t with ⟨r, t'⟩
    obtain ⟨log, hy, ha, rfl⟩ := Session.run_eq_iff.1 hrun
    obtain ⟨xs, hxs⟩ := o.trades_session log r hy
    obtain ⟨log', xs', hlog', ha', hxs'⟩ := ih (t ++ log)
    refine ⟨log ++ log', xs ++ xs', ?_, World.answers_append.2 ⟨ha, ha'⟩, hxs.append hxs'⟩
    rw [runAll, List.foldl_cons, hrun, ← List.append_assoc]
    exact hlog'

end Operation

/-- **The life of refresh tokens**, over any sequence of calls with any challenges, for a store that
remembers. All that happens with refresh tokens is in token exchanges. Each of these is a POST of a
refresh token exactly if there is one for its realm and service, seeded or issued by an earlier
exchange for them. The token posted is then the last of these, so one that was seeded or issued for
the same realm and service; and what goes over the wire is the call. -/
theorem refresh_of_operations {w : World} {seed : List Store.Entry}
    (hstore : w.store.Remembers seed) (operations : List Operation) :
    (∃ xs, Token.Exchanges (Operation.runAll w operations []) xs) ∧
    ∀ before x after, Token.Exchanges (Operation.runAll w operations []) (before ++ x :: after) →
      (x.call.method = .post ↔ (∃ e ∈ seed, e.pair = x.pair) ∨
        ∃ y ∈ before, y.pair = x.pair ∧ y.issued?.isSome) ∧
      (x.call.method = .post → ∃ token, x.Posts token ∧
        (Token.known seed before x.pair).getLast? = some token ∧
        ((∃ e ∈ seed, e.pair = x.pair ∧ e.token = token) ∨
          ∃ y ∈ before, y.pair = x.pair ∧ y.issued? = some token)) ∧
      ∀ request answer rest, x.sending = .exchanged request answer :: rest →
        request.method = x.call.method ∧ request.body = x.call.body := by
  obtain ⟨log, xs, hlog, ha, hxs⟩ := Operation.exists_exchanges w operations []
  rw [List.nil_append] at hlog
  rw [hlog]
  refine ⟨⟨xs, hxs⟩, fun before x after h => ?_⟩
  obtain ⟨front, rest, rfl, hfront⟩ := h.exists_split
  have hx : w.Answers front x.log :=
    (World.answers_append.1 (World.answers_append.1 ha).2).1
  have hcall := Token.Exchange.call_of_answers hstore hfront hx
  cases hlast : (Token.known seed before x.pair).getLast? with
  | none =>
    rw [hlast] at hcall
    have hnone : ¬ x.call.method = .post := fun hpost => nomatch hcall.symm.trans hpost
    have hknown := List.getLast?_eq_none_iff.1 hlast
    refine ⟨iff_of_false hnone ?_, fun hpost => absurd hpost hnone, fun _ _ _ => x.first_request⟩
    rw [← Token.known_ne_nil_iff]
    exact fun hne => hne hknown
  | some token =>
    rw [hlast] at hcall
    have hpost : x.call.method = .post := by rw [show x.call = _ from hcall]; rfl
    have hmem := List.mem_of_getLast? hlast
    refine ⟨iff_of_true hpost ?_, fun _ => ⟨token, hcall, rfl, Token.mem_known.1 hmem⟩,
      fun _ _ _ => x.first_request⟩
    exact Token.known_ne_nil_iff.1 (List.ne_nil_of_mem hmem)

/-- An authorizer whose realm issues tokens for a service. -/
def bearerOnly : Authorizer where
  registry := ⟨"http", "", "", some (.domain "r.test"), none, .segments [""], none, none⟩
  challenges := ⟨[⟨.bearer, some "http://a.test/token", some "r", none⟩]⟩
  scope := "repository:app:pull"

/-- The realm of this authorizer. -/
def bearerRealm : Url :=
  ⟨"http", "", "", some (.domain "a.test"), none, .segments ["token"], none, none⟩

/-- A refresh token for another realm. -/
def elsewhere : List Store.Entry := [⟨"http://b.test/token", "r", "other"⟩]

/-- A reply with the refresh token `next`. -/
def issuedReply : Http.Reply :=
  ⟨200, [], .whole (Text.Utf8.encode "\x7b\"token\":\"abc\",\"refresh_token\":\"next\"\x7d".toList)⟩

/-- The realm issues this refresh token whenever it is asked for a token. -/
def issuingWorld : World where
  server _ _ := .reply issuedReply
  store := .remembering none elsewhere

/-- What happens for two requests. -/
def issuingTrace : Trace :=
  Operation.runAll issuingWorld [.header bearerOnly, .header bearerOnly] []

/-- In the first exchange a token is asked for. -/
def asked : Token.Exchange :=
  .ofReply (.query none : Token.Asks bearerRealm "r" bearerOnly.scope _ _) issuedReply
    (by decide +kernel) (by decide +kernel) rfl

/-- In the second exchange a refresh token is posted. -/
def posted : Token.Exchange :=
  .ofReply (.refresh "next" : Token.Asks bearerRealm "r" bearerOnly.scope _ _) issuedReply
    (by decide +kernel) (by decide +kernel) rfl

/-- What the first exchange brings is posted in the second; the seed is for another realm. -/
theorem refresh_of_operations_issuing :
    issuingWorld.store.Remembers elsewhere ∧ Token.Exchanges issuingTrace [asked, posted] ∧
      issuingTrace.requests.map Http.Request.method = [.get, .post] ∧
      ¬ asked.call.method = .post ∧ posted.call.method = .post ∧ posted.Posts "next" ∧
      (Token.known elsewhere [asked] posted.pair).getLast? = some "next" := by
  have hstore : issuingWorld.store.Remembers elsewhere := Store.remembers_remembering _ _
  have hexchanges : Token.Exchanges issuingTrace [asked, posted] := by
    have hlog : issuingTrace = asked.log ++ (posted.log ++ []) := by decide +kernel
    rw [hlog]
    exact .exchange asked (.exchange posted .nil)
  have hlast : (Token.known elsewhere [asked] posted.pair).getLast? = some "next" := by
    decide +kernel
  have hlife := (refresh_of_operations hstore [.header bearerOnly, .header bearerOnly]).2
  obtain ⟨hfirst, -⟩ := hlife [] asked [posted] hexchanges
  obtain ⟨hsecond, hposts, -⟩ := hlife [asked] posted [] hexchanges
  have hpost : posted.call.method = .post :=
    hsecond.2 (.inr ⟨asked, List.mem_singleton_self asked, rfl, by decide +kernel⟩)
  obtain ⟨token, htoken, hknown, -⟩ := hposts hpost
  cases hlast.symm.trans hknown
  refine ⟨hstore, hexchanges, by decide +kernel, fun hget => ?_, hpost, htoken, hlast⟩
  obtain ⟨e, he, hpair⟩ | ⟨y, hy, -⟩ := hfirst.1 hget
  · exact absurd hpair (by revert e; decide +kernel)
  · nomatch hy

end TagCatalog.Client
