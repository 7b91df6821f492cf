import TagCatalog.Proofs.Auth.Parameters
import TagCatalog.Proofs.Registry.Refresh

/-!
# Empty refresh tokens

An empty token in a reply does not count: the token to present is looked for among those that are
not empty. An empty refresh token does count: it goes to the store like any other, and the next
exchange for the realm and service posts it instead of presenting the store's credentials. This
goes on until the realm issues another refresh token.

* `TokenReply.cleared`, `TokenReply.bearer?_cleared`, `Token.keeping_cleared_iff`: a reply whose
  empty tokens are left out;
* `Exchange.GoesBy`, `Exchange.goesBy_of_answers`: the refresh token that an exchange goes by;
* `Exchange.PostsEmpty`, `Exchange.GoesBy.postsEmpty_iff`: an empty one is posted;
* `Token.getLast?_known_eq_empty_iff`: where an empty one comes from;
* **`Client.postsEmpty_of_operations`**: which exchanges post an empty refresh token.
-/

namespace TagCatalog

/-! ## Replies -/

namespace TokenReply

/-- The reply without its empty tokens. -/
def cleared (r : TokenReply) : TokenReply :=
  ⟨nonEmpty? r.token, nonEmpty? r.accessToken, nonEmpty? r.refreshToken, r.expiresIn⟩

theorem nonEmpty?_nonEmpty? (t : Option String) : nonEmpty? (nonEmpty? t) = nonEmpty? t := by
  rw [nonEmpty?, nonEmpty?, Option.filter_filter]
  simp

/-- To the token to present, empty tokens make no difference. -/
theorem bearer?_cleared (r : TokenReply) : r.cleared.bearer? = r.bearer? := by
  rw [bearer?, bearer?, cleared, nonEmpty?_nonEmpty?, nonEmpty?_nonEmpty?]

end TokenReply

namespace Token

/-- To what goes to the store, an empty refresh token makes a difference. -/
theorem keeping_cleared_iff (realm : Url) (service : String) (r : TokenReply) :
    keeping realm service r.cleared = keeping realm service r ↔ r.refreshToken ≠ some "" := by
  rw [keeping, keeping, TokenReply.cleared]
  cases r.refreshToken with
  | none => simp [TokenReply.nonEmpty?]
  | some token =>
    by_cases hempty : token = "" <;> simp [TokenReply.nonEmpty?, Option.filter, hempty]

/-! ## Exchanges -/

/-- What an exchange does by a refresh token: it posts the token and asks the store for nothing
else. Without one it presents the credentials that the store has for the realm. -/
def Exchange.GoesBy (x : Exchange) : Option String → Prop
  | some token => x.asking = [.askedRefresh x.realm x.service (some token)] ∧ x.Posts token
  | none => ∃ credentials, x.call = queryCall x.realm x.service x.scope credentials ∧
    x.asking = [.askedRefresh x.realm x.service none, .askedBasic x.realm credentials]

/-- The exchange posts a form with an empty refresh token. -/
def Exchange.PostsEmpty (x : Exchange) : Prop :=
  x.call.method = .post ∧ ("refresh_token", "") ∈ Url.Form.decode x.call.body.toList

namespace Exchange

variable {x : Exchange} {kept kept' : Option String} {tokens : List String}

/-- An exchange goes by the last refresh token that was seeded or issued, be it empty. -/
theorem goesBy_of_answers {w : World} {seed : List Store.Entry} {before : List Exchange}
    {front : Trace} (hstore : w.store.Remembers seed) (hfront : Exchanges front before)
    (ha : w.Answers front x.log) : x.GoesBy (known seed before x.pair).getLast? := by
  have hanswer := refresh_eq_getLast? hstore hfront x.realm x.service
  obtain ⟨realm, service, scope, asking, call, asks, sending, sent, sends⟩ := x
  cases asks with
  | refresh token =>
    have htoken : some token = _ := ha.1.trans hanswer
    rw [pair, ← htoken]
    exact ⟨rfl, rfl⟩
  | query credentials =>
    have hnone : none = _ := ha.1.trans hanswer
    rw [pair, ← hnone]
    exact ⟨credentials, rfl, rfl⟩

theorem Posts.postsEmpty_iff {token : String} (h : x.Posts token) : x.PostsEmpty ↔ token = "" := by
  have hcall : x.call = refreshCall x.realm token x.service x.scope := h
  have hform : Url.Form.decode x.call.body.toList = refreshForm token x.service x.scope := by
    rw [hcall, refreshCall, String.toList_ofList, Url.Form.decode_encode]
  have hmethod : x.call.method = .post := by rw [hcall]; rfl
  rw [PostsEmpty, hform, refreshForm, eq_comm (a := token)]
  simp [hmethod]

theorem GoesBy.postsEmpty_iff (h : x.GoesBy kept) : x.PostsEmpty ↔ kept = some "" := by
  cases kept with
  | some token => rw [h.2.postsEmpty_iff, Option.some.injEq]
  | none =>
    obtain ⟨credentials, hcall, -⟩ := h
    have hmethod : x.call.method = .get := by rw [hcall]; rfl
    exact iff_of_false (fun hposts => nomatch hmethod.symm.trans hposts.1) nofun

theorem GoesBy.unique (h : x.GoesBy kept) (h' : x.GoesBy kept') : kept = kept' := by
  cases kept with
  | none =>
    obtain ⟨_, -, hasking⟩ := h
    cases kept' with
    | none => rfl
    | some token => nomatch hasking.symm.trans h'.1
  | some token =>
    cases kept' with
    | none =>
      obtain ⟨_, -, hasking⟩ := h'
      nomatch h.1.symm.trans hasking
    | some token' =>
      cases h.1.symm.trans h'.1
      rfl

theorem GoesBy.filter_iff (h : x.GoesBy tokens.getLast?) :
    x.GoesBy (tokens.filter (· ≠ "")).getLast? ↔ ¬ x.PostsEmpty := by
  rw [h.postsEmpty_iff]
  constructor
  · intro hfilter hempty
    have hmem := List.mem_of_getLast? ((hfilter.unique h).trans hempty)
    exact of_decide_eq_true (List.mem_filter.1 hmem).2 rfl
  · intro hne
    have hlast : (tokens.filter (· ≠ "")).getLast? = tokens.getLast? := by
      rcases List.eq_nil_or_concat tokens with rfl | ⟨front, token, rfl⟩
      · rfl
      · have htoken : token ≠ "" := by simpa using hne
        simp [htoken]
    rw [hlast]
    exact h

theorem GoesBy.carries (h : x.GoesBy kept) {request : Http.Request} {answer : Http.Answer}
    {rest : Trace} (hfirst : x.sending = .exchanged request answer :: rest) :
    Carries x.realm x.service x.scope kept request := by
  have hsends := x.sends
  rw [hfirst] at hsends
  rw [(Http.first_of_yields hsends).1]
  cases kept with
  | some token =>
    rw [show x.call = _ from h.2]
    exact carries_refreshCall x.realm token x.service x.scope
  | none =>
    obtain ⟨credentials, hcall, -⟩ := h
    rw [hcall]
    exact carries_queryCall x.realm x.service x.scope credentials

end Exchange

/-! ## Where an empty refresh token comes from -/

theorem getLast?_filterMap_eq_some_iff {α β : Type} {f : α → Option β} {l : List α} {b : β} :
    (l.filterMap f).getLast? = some b ↔
      ∃ before a after, l = before ++ a :: after ∧ f a = some b ∧ ∀ x ∈ after, f x = none := by
  rw [List.getLast?_filterMap, List.findSome?_eq_some_iff]
  constructor
  · rintro ⟨after, a, before, hl, ha, hafter⟩
    refine ⟨before.reverse, a, after.reverse, ?_, ha, by simpa using hafter⟩
    rw [← List.reverse_reverse l, hl]
    simp
  · rintro ⟨before, a, after, rfl, ha, hafter⟩
    exact ⟨after.reverse, a, before.reverse, by simp, ha, by simpa using hafter⟩

/-- The refresh token that the exchange brings for a realm and service. -/
def Exchange.issuedFor? (pair : String × String) (x : Exchange) : Option String :=
  if x.pair = pair then x.issued? else none

variable {seed : List Store.Entry} {before : List Exchange} {pair : String × String}

theorem known_eq (seed : List Store.Entry) (before : List Exchange) (pair : String × String) :
    known seed before pair =
      Store.tokensOf seed pair ++ before.filterMap (Exchange.issuedFor? pair) := by
  rw [known, Store.tokensOf, List.filter_append, List.map_append]
  refine congrArg _ ?_
  induction before with
  | nil => rfl
  | cons y before ih =>
    rw [List.filterMap_cons, List.filterMap_cons, ← ih, Exchange.issuedFor?, Exchange.entry?]
    cases hissued : y.issued? with
    | none => simp
    | some token =>
      have hentry : Store.Entry.pair ⟨y.realm.text, y.service, token⟩ = y.pair := rfl
      by_cases hpair : y.pair = pair <;> simp [hentry, hpair]

/-- If no empty refresh token was seeded, the last one known is empty exactly if the last exchange
for the realm and service that brought a refresh token brought an empty one. -/
theorem getLast?_known_eq_empty_iff (hseed : ∀ e ∈ seed, e.token ≠ "") :
    (known seed before pair).getLast? = some "" ↔
      ∃ earlier y later, before = earlier ++ y :: later ∧ y.pair = pair ∧ y.issued? = some "" ∧
        ∀ z ∈ later, z.pair = pair → z.issued? = none := by
  have hnotSeeded : (Store.tokensOf seed pair).getLast? ≠ some "" := fun hlast => by
    obtain ⟨e, he, -, hempty⟩ := Store.mem_tokensOf.1 (List.mem_of_getLast? hlast)
    exact hseed e he hempty
  rw [known_eq, List.getLast?_append, Option.or_eq_some_iff]
  simp only [hnotSeeded, and_false, or_false, getLast?_filterMap_eq_some_iff, Exchange.issuedFor?,
    ite_eq_right_iff, Option.ite_none_right_eq_some, and_assoc]

end Token

namespace Client

open Token

/-- **Empty refresh tokens**, over any sequence of calls with any challenges, for a store that
remembers and was given no empty one. An exchange posts an empty refresh token exactly if the last
exchange for its realm and service that brought a refresh token brought an empty one; the store is
then not asked for credentials. In every other exchange empty refresh tokens count as absent: the
last one that is not empty is posted, or the store's credentials are presented. A reply's other
tokens do count as absent where they are empty. -/
theorem postsEmpty_of_operations {w : World} {seed : List Store.Entry}
    (hstore : w.store.Remembers seed) (hseed : ∀ e ∈ seed, e.token ≠ "")
    (operations : List Operation) :
    (∃ xs, Exchanges (Operation.runAll w operations []) xs) ∧
    (∀ before x after, Exchanges (Operation.runAll w operations []) (before ++ x :: after) →
      (x.PostsEmpty ↔ ∃ earlier y later, before = earlier ++ y :: later ∧ y.pair = x.pair ∧
        y.issued? = some "" ∧ ∀ z ∈ later, z.pair = x.pair → z.issued? = none) ∧
      (x.PostsEmpty → x.call.authorization = [] ∧
        x.asking = [.askedRefresh x.realm x.service (some "")]) ∧
      (¬ x.PostsEmpty ↔ x.GoesBy ((known seed before x.pair).filter (· ≠ "")).getLast?) ∧
      ∀ request answer rest, x.sending = .exchanged request answer :: rest → ∃ kept,
        Carries x.realm x.service x.scope kept request ∧ (x.PostsEmpty ↔ kept = some "")) ∧
    ∀ r : TokenReply, r.cleared.bearer? = r.bearer? ∧ ∀ realm service,
      keeping realm service r.cleared = keeping realm service r ↔ r.refreshToken ≠ some "" := by
  obtain ⟨log, xs, hlog, ha, hxs⟩ := Operation.exists_exchanges w operations []
  rw [List.nil_append] at hlog
  rw [hlog]
  refine ⟨⟨xs, hxs⟩, fun before x after h => ?_,
    fun r => ⟨r.bearer?_cleared, fun realm service => keeping_cleared_iff realm service r⟩⟩
  obtain ⟨front, rest, rfl, hfront⟩ := h.exists_split
  have hx : w.Answers front x.log :=
    (World.answers_append.1 (World.answers_append.1 ha).2).1
  have hgoes := Exchange.goesBy_of_answers hstore hfront hx
  refine ⟨hgoes.postsEmpty_iff.trans (getLast?_known_eq_empty_iff hseed), fun hempty => ?_,
    hgoes.filter_iff.symm, fun request answer rest hfirst =>
      ⟨_, hgoes.carries hfirst, hgoes.postsEmpty_iff⟩⟩
  rw [hgoes.postsEmpty_iff.1 hempty] at hgoes
  obtain ⟨hasking, hcall⟩ := hgoes
  exact ⟨by rw [show x.call = _ from hcall]; rfl, hasking⟩

/-- A reply with a token and an empty refresh token. -/
def emptyingReply : Http.Reply :=
  ⟨200, [], .whole (Text.Utf8.encode "\x7b\"token\":\"abc\",\"refresh_token\":\"\"\x7d".toList)⟩

/-- Every token comes with an empty refresh token, and the store has credentials. -/
def emptyingWorld : World where
  server _ _ := .reply emptyingReply
  store := .remembering (some ⟨"robot", "secret"⟩) elsewhere

/-- What happens for two requests. -/
def emptyingTrace : Trace :=
  Operation.runAll emptyingWorld [.header bearerOnly, .header bearerOnly] []

/-- In the first exchange the credentials are presented. -/
def presented : Exchange :=
  .ofReply (.query (some ⟨"robot", "secret"⟩) : Asks bearerRealm "r" bearerOnly.scope _ _)
    emptyingReply (by decide +kernel) (by decide +kernel) rfl

/-- In the second exchange an empty refresh token is posted. -/
def postedEmpty : Exchange :=
  .ofReply (.refresh "" : Asks bearerRealm "r" bearerOnly.scope _ _) emptyingReply
    (by decide +kernel) (by decide +kernel) rfl

/-- After an exchange that brings an empty refresh token, the next one posts it. -/
theorem postsEmpty_of_operations_emptying :
    emptyingWorld.store.Remembers elsewhere ∧ (∀ e ∈ elsewhere, e.token ≠ "") ∧
      Exchanges emptyingTrace [presented, postedEmpty] ∧ presented.issued? = some "" ∧
      ¬ presented.PostsEmpty ∧ postedEmpty.PostsEmpty ∧ postedEmpty.call.authorization = [] := by
  have hstore : emptyingWorld.store.Remembers elsewhere := Store.remembers_remembering _ _
  have hseed : ∀ e ∈ elsewhere, e.token ≠ "" := by decide
  have hexchanges : Exchanges emptyingTrace [presented, postedEmpty] := by
    have hlog : emptyingTrace = presented.log ++ (postedEmpty.log ++ []) := by decide +kernel
    rw [hlog]
    exact .exchange presented (.exchange postedEmpty .nil)
  have hissued : presented.issued? = some "" := by decide +kernel
  obtain ⟨-, hposts, -⟩ := postsEmpty_of_operations hstore hseed
    [.header bearerOnly, .header bearerOnly]
  obtain ⟨hfirst, -⟩ := hposts [] presented [postedEmpty] hexchanges
  obtain ⟨hsecond, hauthorization, -⟩ := hposts [presented] postedEmpty [] hexchanges
  have hempty : postedEmpty.PostsEmpty :=
    hsecond.2 ⟨[], presented, [], rfl, rfl, hissued, List.forall_mem_nil _⟩
  refine ⟨hstore, hseed, hexchanges, hissued, fun h => ?_, hempty, (hauthorization hempty).1⟩
  obtain ⟨earlier, y, later, hnil, -⟩ := hfirst.1 h
  exact List.append_ne_nil_of_right_ne_nil earlier (List.cons_ne_nil y later) hnil.symm

/-- The credentials are presented once, and then an empty refresh token in place of them. -/
theorem requests_emptyingTrace :
    emptyingWorld.store.Remembers elsewhere ∧ (∀ e ∈ elsewhere, e.token ≠ "") ∧
    emptyingTrace.requests.map
        (fun r => (r.method, r.authorization, Url.Form.decode r.body.toList)) =
      [(.get, [Credentials.headerValue ⟨"robot", "secret"⟩], []),
        (.post, [], [("grant_type", "refresh_token"), ("refresh_token", ""), ("service", "r"),
          ("scope", "repository:app:pull"), ("client_id", "tagwatch")])] :=
  ⟨Store.remembers_remembering _ _, by decide, by decide +kernel⟩

end Client

end TagCatalog
