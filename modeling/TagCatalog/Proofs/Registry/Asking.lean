import Mathlib.Data.Finset.Card
import TagCatalog.Proofs.Registry.Listing
import TagCatalog.Proofs.Url.Origin

/-!
# The pages that a listing asks for

A listing asks for one page after the other, and never for two at the same URL. It is the server
that says where it goes on, so it may go on for ever; but not when all links lead into a finite set.

* `Client.Ask`: a page that was asked for, whatever came of it;
* `Client.Walk`: the pages that a listing has asked for;
* `Client.exists_walk`: all that happens in a listing happens for the pages of a walk;
* `Client.Gets`: the pages that a listing gets in a world;
* **`Client.stops_of_links`**: a listing stops when it has used up the URLs that links lead to.
-/

namespace TagCatalog.Client

/-! ## Asking for a page -/

/-- A page that was asked for, whatever came of it. -/
structure Ask where
  url : Url
  /-- What happened to authorize the request. -/
  authorizing : Trace
  /-- What happened when it was sent. -/
  sending : Trace

namespace Ask

/-- All that happened for the page. -/
def log (k : Ask) : Trace := k.authorizing ++ k.sending

/-- The request was authorized for the page alone and then sent, with a response or an error. -/
inductive Made (a : Authorizer) (k : Ask) : Prop
  | denied {e : CatalogError} (h : a.headerValue.Yields k.authorizing (.error (.error e)))
    (hs : k.sending = [])
  | sent {header : Option String} {sent : Except Http.SendError Http.Response}
    (h : a.headerValue.Yields k.authorizing (.ok header))
    (hs : (Http.exchange ((Http.Call.plain .get k.url).authorize header)).Yields k.sending
      (.ok sent))

end Ask

/-- How a page was asked for. -/
def Page.ask (p : Page) : Ask := ⟨p.url, p.authorizing, p.sending⟩

variable {c : Client} {a : Authorizer} {repository : String} {visited : List Url} {url stop : Url}
  {p : Page} {pages : List Page} {k : Ask} {asks : List Ask} {log : Trace}

theorem Page.Fetched.made (h : p.Fetched a) : p.ask.Made a := .sent h.authorized h.sent

theorem PageFails.exists_ask {e : CatalogError} (h : PageFails c a url log e) :
    ∃ k : Ask, k.url = url ∧ k.log = log ∧ k.Made a := by
  cases h with
  | authorization hh => exact ⟨⟨url, log, []⟩, rfl, List.append_nil log, .denied hh rfl⟩
  | sending hh hs | status hh hs | body hh hs => exact ⟨⟨url, _, _⟩, rfl, rfl, .sent hh hs⟩
  | @link p _ _ hp hu => exact ⟨p.ask, hu, rfl, hp.made⟩

theorem flatMap_log_ask (pages : List Page) :
    (pages.map Page.ask).flatMap Ask.log = pages.flatMap Page.log := by
  rw [List.flatMap_map]
  rfl

theorem map_url_ask (pages : List Page) :
    (pages.map Page.ask).map Ask.url = pages.map Page.url := by
  rw [List.map_map]
  rfl

/-! ## Walks -/

/-- The page of one request was fetched and names the page of another one. -/
def Ask.LeadsTo (a : Authorizer) (k k' : Ask) : Prop :=
  ∃ p : Page, p.Fetched a ∧ p.ask = k ∧ p.next? = some (.ok k'.url)

/-- A listing has asked for pages: first for the one at its own URL, then always for the one that
the page before it names, and for no two at the same URL. -/
structure Walk (c : Client) (a : Authorizer) (repository : String) (asks : List Ask) : Prop where
  made : ∀ k ∈ asks, k.Made a
  first : ∀ k ∈ asks.head?, c.endpoint (listingPath repository) = .ok k.url
  linked : asks.IsChain (Ask.LeadsTo a)
  distinct : (asks.map Ask.url).Nodup

theorem walk_nil : c.Walk a repository [] :=
  ⟨List.forall_mem_nil _, nofun, .nil, List.nodup_nil⟩

theorem Walk.of_append {rest : List Ask} (h : c.Walk a repository (asks ++ rest)) :
    c.Walk a repository asks where
  made k hk := h.made k (List.mem_append_left rest hk)
  first k hk := h.first k (by rw [List.head?_append, Option.mem_def.1 hk]; rfl)
  linked := (List.isChain_append.1 h.linked).1
  distinct := by
    have hdistinct := h.distinct
    rw [List.map_append] at hdistinct
    exact (List.nodup_append.1 hdistinct).1

theorem Reaches.walk_concat (h : c.Reaches a repository pages k.url) (hk : k.Made a) :
    c.Walk a repository (pages.map Page.ask ++ [k]) := by
  obtain ⟨first, hfirst, htrail⟩ := h
  have hurls : (pages.map Page.ask ++ [k]).map Ask.url = pages.map Page.url ++ [k.url] := by
    rw [List.map_append, map_url_ask]
    rfl
  refine ⟨fun k' hk' => ?_, fun k' hk' => ?_, List.isChain_append.2 ⟨?_, .singleton k, ?_⟩, ?_⟩
  · obtain hk' | hk' := List.mem_append.1 hk'
    · obtain ⟨p, hp, rfl⟩ := List.mem_map.1 hk'
      exact (htrail.fetched p hp).made
    · rwa [List.mem_singleton.1 hk']
  · have hhead := htrail.first
    rw [← hurls, List.head?_map, Option.mem_def.1 hk'] at hhead
    cases hhead
    exact hfirst
  · refine (List.isChain_map Page.ask).2 (htrail.linked.imp_of_mem_imp ?_)
    exact fun p q hp _ hnext => ⟨p, htrail.fetched p hp, rfl, hnext⟩
  · intro k₁ hlast k₂ hhead
    cases hhead
    rw [List.getLast?_map] at hlast
    obtain ⟨p, hp, rfl⟩ := Option.map_eq_some_iff.1 hlast
    exact ⟨p, htrail.fetched p (List.mem_of_getLast? hp), rfl, htrail.stops p hp⟩
  · rw [hurls]
    exact htrail.distinct

theorem Reaches.of_concat (h : c.Reaches a repository (pages ++ [p]) stop) :
    c.Reaches a repository pages p.url ∧ p.Fetched a := by
  obtain ⟨first, hfirst, htrail⟩ := h
  obtain ⟨hfetched, hhead, hlinked, -, hdistinct⟩ := htrail
  rw [List.map_append, List.map_singleton] at hhead hdistinct
  rw [List.isChain_append] at hlinked
  rw [List.forall_mem_append] at hfetched
  refine ⟨⟨first, hfirst, hfetched.1, ?_, hlinked.1, fun q hq => hlinked.2.2 q hq p rfl, ?_⟩,
    hfetched.2 p List.mem_cons_self⟩
  · rw [← hhead]
    cases pages <;> rfl
  · exact (List.nodup_append.1 hdistinct).1

theorem Reaches.walk (h : c.Reaches a repository pages stop) :
    c.Walk a repository (pages.map Page.ask) := by
  obtain rfl | ⟨pages, p, rfl⟩ := pages.eq_nil_or_concat'
  · exact walk_nil
  · obtain ⟨hreaches, hp⟩ := h.of_concat
    rw [List.map_append]
    exact hreaches.walk_concat hp.made

variable {limit : Nat} {r : Except Stop (List String)}

theorem Ends.of_pos {left : Nat} (h : Ends c a visited stop (left + 1) log r) (left' : Nat) :
    Ends c a visited stop (left' + 1) log r := by
  cases h with
  | failed hfails => exact .failed hfails
  | listed hp hu hlast => exact .listed hp hu hlast

theorem Ends.exists_ask {left : Nat} (h : Ends c a visited stop (left + 1) log r) :
    r ≠ .error .pageLimit ∧ ∃ k : Ask, k.url = stop ∧ k.log = log ∧ k.Made a ∧
      ∀ tags, r = .ok tags → ∃ p : Page, p.Fetched a ∧ p.ask = k ∧ p.tags = tags := by
  cases h with
  | failed hfails =>
    obtain ⟨k, hurl, hlog, hmade⟩ := hfails.exists_ask
    exact ⟨nofun, k, hurl, hlog, hmade, nofun⟩
  | @listed left p hp hu =>
    refine ⟨nofun, p.ask, hu, rfl, hp.made, ?_⟩
    rintro _ ⟨⟩
    exact ⟨p, hp, rfl, rfl⟩

/-- **All that happens in a listing** happens for the pages of a walk, and its tags are those of
these pages. As many pages as the walk has are enough for it. -/
theorem exists_walk (h : (c.listTags a limit repository).Yields log r) :
    ∃ asks, c.Walk a repository asks ∧ log = asks.flatMap Ask.log ∧
      (r = .error .pageLimit ∧ asks.length = limit ∨
        r ≠ .error .pageLimit ∧ ∀ limit', asks.length ≤ limit' →
          (c.listTags a limit' repository).Yields log r) ∧
      ∀ tags, r = .ok tags → ∃ pages : List Page, asks = pages.map Page.ask ∧
        (∀ p ∈ pages, p.Fetched a) ∧ tags = pages.flatMap Page.tags := by
  obtain ⟨e, hfirst, rfl, rfl⟩ | ⟨pages, stop, left, rest, r', hreaches, hlen, hends, rfl, rfl⟩ :=
    yields_listTags_iff.1 h
  · refine ⟨[], walk_nil, rfl, .inr ⟨nofun, fun limit' _ => ?_⟩, nofun⟩
    exact yields_listTags_iff.2 (.inl ⟨e, hfirst, rfl, rfl⟩)
  · cases left with
    | zero =>
      cases hends
      refine ⟨pages.map Page.ask, hreaches.walk, ?_, .inl ⟨rfl, ?_⟩, nofun⟩
      · rw [flatMap_log_ask, List.append_nil]
      · rw [List.length_map, ← hlen, Nat.add_zero]
    | succ left =>
      obtain ⟨hstops, k, rfl, rfl, hk, htags⟩ := hends.exists_ask
      refine ⟨pages.map Page.ask ++ [k], hreaches.walk_concat hk, ?_,
        .inr ⟨?_, fun limit' hle => ?_⟩, fun tags hr => ?_⟩
      · rw [List.flatMap_append, List.flatMap_singleton, flatMap_log_ask]
      · cases r' with
        | ok tags => nofun
        | error reason => exact hstops
      · rw [List.length_append, List.length_map, List.length_singleton] at hle
        obtain ⟨more, rfl⟩ := Nat.exists_eq_add_of_le hle
        exact yields_listTags_iff.2 (.inr ⟨pages, k.url, more + 1, k.log, r', hreaches, by omega,
          hends.of_pos more, rfl, rfl⟩)
      · cases r' with
        | error reason => nomatch hr
        | ok last =>
          cases hr
          obtain ⟨p, hp, rfl, rfl⟩ := htags _ rfl
          obtain ⟨first, -, htrail⟩ := hreaches
          refine ⟨pages ++ [p], ?_, List.forall_mem_append.2 ⟨htrail.fetched, ?_⟩, ?_⟩
          · rw [List.map_append, List.map_singleton]
          · exact List.forall_mem_singleton.2 hp
          · rw [List.flatMap_append, List.flatMap_singleton]

/-! ## Worlds -/

/-- In a world, a listing that begins after `t` gets a page. -/
def Gets (c : Client) (a : Authorizer) (repository : String) (w : World) (t : Trace) (p : Page) :
    Prop :=
  p.Fetched a ∧ ∃ asks, c.Walk a repository (asks ++ [p.ask]) ∧
    w.Answers t ((asks ++ [p.ask]).flatMap Ask.log)

variable {w : World} {t : Trace}

theorem Gets.exists_server_eq (h : c.Gets a repository w t p) :
    ∃ before request, w.server before request = .reply p.response.reply := by
  obtain ⟨hp, asks, -, hw⟩ := h
  obtain ⟨request, hmem⟩ := Http.exists_reply_of_yields_ok hp.sent
  obtain ⟨before, hgives⟩ := hw.exists_gives (List.mem_flatMap.2
    ⟨p.ask, by simp, List.mem_append_right p.authorizing hmem⟩)
  exact ⟨before.requests, request, hgives.symm⟩

/-- A listing asks for the page at its own URL, and else for pages that are named by one it gets. -/
theorem Walk.first_or_named (h : c.Walk a repository asks)
    (hw : w.Answers t (asks.flatMap Ask.log)) (hk : k ∈ asks) :
    c.endpoint (listingPath repository) = .ok k.url ∨
      ∃ p, c.Gets a repository w t p ∧ p.next? = some (.ok k.url) := by
  obtain ⟨before, after, rfl⟩ := List.append_of_mem hk
  obtain rfl | ⟨before, k₀, rfl⟩ := before.eq_nil_or_concat'
  · exact .inl (h.first k rfl)
  · rw [List.flatMap_append, World.answers_append] at hw
    obtain ⟨p, hp, rfl, hnext⟩ := (List.isChain_append.1 h.linked).2.2 k₀ (by simp) k rfl
    exact .inr ⟨p, ⟨hp, before, h.of_append, hw.1⟩, hnext⟩

theorem Walk.length_le {S : Finset Url} (h : c.Walk a repository asks)
    (hS : ∀ k ∈ asks, k.url ∈ S) : asks.length ≤ S.card := by
  have hsub : (asks.map Ask.url).toFinset ⊆ S := by
    intro u hu
    obtain ⟨k, hk, rfl⟩ := List.mem_map.1 (List.mem_toFinset.1 hu)
    exact hS k hk
  calc asks.length = (asks.map Ask.url).toFinset.card := by
        rw [List.toFinset_card_of_nodup h.distinct, List.length_map]
    _ ≤ S.card := Finset.card_le_card hsub

/-- **A listing stops.** If the URL of the listing is `first`, and whenever a page that the listing
gets names a page, its URL is in a finite set, then the listing asks for no more pages than there
are URLs in this set and `first`. It ends with tags or an error, and all the same if it is allowed
more pages. If the URL of the listing cannot be read, it ends at once. -/
theorem stops_of_links (c : Client) (a : Authorizer) (repository : String) (w : World) (t : Trace) :
    (∀ e, c.endpoint (listingPath repository) = .error e → ∀ limit,
      (c.listTags a limit repository).run w t = (.error (.error e), t)) ∧
    ∀ first (S : Finset Url), c.endpoint (listingPath repository) = .ok first →
      (∀ p, c.Gets a repository w t p → ∀ next, p.next? = some (.ok next) → next ∈ S) →
      ∃ r asks, r ≠ .error .pageLimit ∧ c.Walk a repository asks ∧
        asks.length ≤ (insert first S).card ∧ ∀ limit, (insert first S).card ≤ limit →
          (c.listTags a limit repository).run w t = (r, t ++ asks.flatMap Ask.log) := by
  refine ⟨fun e hfirst limit => ?_, fun first S hfirst hlinks => ?_⟩
  · rw [listTags, hfirst]
    rfl
  · -- one page more than there are URLs, so that the limit is not what ends the listing
    rcases hrun : (c.listTags a ((insert first S).card + 1) repository).run w t with ⟨r, t'⟩
    obtain ⟨log, hy, hw, rfl⟩ := Session.run_eq_iff.1 hrun
    obtain ⟨asks, hwalk, rfl, hends, -⟩ := exists_walk hy
    have hurls : ∀ k ∈ asks, k.url ∈ insert first S := fun k hk => by
      obtain hk | ⟨p, hp, hnext⟩ := hwalk.first_or_named hw hk
      · rw [hfirst, Except.ok.injEq] at hk
        rw [← hk]
        exact Finset.mem_insert_self first S
      · exact Finset.mem_insert_of_mem (hlinks p hp k.url hnext)
    have hlength := hwalk.length_le hurls
    obtain ⟨-, hlimit⟩ | ⟨hr, hmore⟩ := hends
    · omega
    · refine ⟨r, asks, hr, hwalk, hlength, fun limit hlimit => ?_⟩
      exact Session.run_eq_iff.2 ⟨_, hmore limit (hlength.trans hlimit), hw, rfl⟩

/-- A client of a registry. -/
def svcClient : Client := ⟨"http://r.test"⟩

/-- An authorizer for that registry, without challenges. -/
def svcAuthorizer : Authorizer where
  registry := ⟨"http", "", "", some (.domain "r.test"), none, .segments [""], none, none⟩
  challenges := ⟨[]⟩
  scope := "repository:svc:pull"

/-- The URL of the listing. -/
def svcUrl : Url :=
  ⟨"http", "", "", some (.domain "r.test"), none, .segments ["v2", "svc", "tags", "list"], none,
    none⟩

/-- The second page of the listing. -/
def svcSecond : Url := { svcUrl with query := some "n=2" }

/-- A page with one tag that names the page at a URL. -/
def pageNaming (target tag : String) : Http.Reply :=
  ⟨200, [("Link", "<" ++ target ++ ">; rel=\"next\"")],
    .whole (Text.Utf8.encode ("\x7b\"tags\":[\"" ++ tag ++ "\"]\x7d").toList)⟩

/-- A server that names the second page of the listing and the first one by turns, whichever it is
asked for. -/
def turningWorld : World where
  server := fun before _ =>
    if before.length % 2 = 0 then .reply (pageNaming "http://r.test/v2/svc/tags/list?n=2" "1-a")
    else .reply (pageNaming "http://r.test/v2/svc/tags/list" "2-b")
  store := ⟨fun _ _ => none, fun _ _ _ => none⟩

theorem endpoint_svcUrl :
    svcClient.endpoint (listingPath "svc") = .ok svcUrl := by decide +kernel

theorem next?_pageNaming {target tag : String} {u : Url}
    (hreply : p.response.reply = pageNaming target tag)
    (hlink : Link.next? [("Link", "<" ++ target ++ ">; rel=\"next\"")] = some target)
    (hsplit : ∃ rest,
      Url.splitScheme? (Url.cleaned target.toList) = some ("http", '/' :: '/' :: rest))
    (hparse : Url.parse target = .ok u) : p.next? = some (.ok u) := by
  obtain ⟨rest, hsplit⟩ := hsplit
  rw [Page.next?, hreply, pageNaming, hlink, Option.map_some,
    Url.join_eq_parse (by decide) (by decide) hsplit, hparse]

theorem next?_eq_svcSecond {tag : String}
    (hreply : p.response.reply = pageNaming "http://r.test/v2/svc/tags/list?n=2" tag) :
    p.next? = some (.ok svcSecond) :=
  next?_pageNaming hreply (by decide +kernel)
    ⟨"r.test/v2/svc/tags/list?n=2".toList, by decide +kernel⟩ (by decide +kernel)

theorem next?_eq_svcUrl {tag : String}
    (hreply : p.response.reply = pageNaming "http://r.test/v2/svc/tags/list" tag) :
    p.next? = some (.ok svcUrl) :=
  next?_pageNaming hreply (by decide +kernel)
    ⟨"r.test/v2/svc/tags/list".toList, by decide +kernel⟩ (by decide +kernel)

theorem mem_of_gets_turning (h : svcClient.Gets svcAuthorizer "svc" turningWorld t p)
    {next : Url} (hnext : p.next? = some (.ok next)) :
    next ∈ ({svcUrl, svcSecond} : Finset Url) := by
  obtain ⟨before, request, hserver⟩ := h.exists_server_eq
  have hturns : p.next? = some (.ok svcSecond) ∨ p.next? = some (.ok svcUrl) := by
    rw [turningWorld] at hserver
    dsimp only at hserver
    split at hserver
    · exact .inl (next?_eq_svcSecond (Http.Answer.reply.inj hserver).symm)
    · exact .inr (next?_eq_svcUrl (Http.Answer.reply.inj hserver).symm)
  rw [hnext] at hturns
  rcases hturns with h | h
  · cases h
    decide +kernel
  · cases h
    decide +kernel

/-- Its listing stops after two pages at most. -/
theorem stops_of_links_turning : svcClient.endpoint (listingPath "svc") = .ok svcUrl ∧
    ∃ r asks, r ≠ .error .pageLimit ∧ svcClient.Walk svcAuthorizer "svc" asks ∧
      asks.length ≤ 2 ∧ ∀ limit, 2 ≤ limit →
        (svcClient.listTags svcAuthorizer limit "svc").run turningWorld [] =
          (r, [] ++ asks.flatMap Ask.log) := by
  obtain ⟨r, asks, hstops, hwalk, hlength, hrun⟩ :=
    (stops_of_links svcClient svcAuthorizer "svc" turningWorld []).2 svcUrl
      {svcUrl, svcSecond} endpoint_svcUrl fun p hp next hnext =>
        mem_of_gets_turning hp hnext
  have hcard : (insert svcUrl ({svcUrl, svcSecond} : Finset Url)).card = 2 := by
    decide +kernel
  rw [hcard] at hlength hrun
  exact ⟨endpoint_svcUrl, r, asks, hstops, hwalk, hlength, hrun⟩

end TagCatalog.Client
