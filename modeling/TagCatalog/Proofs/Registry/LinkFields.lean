import TagCatalog.Proofs.Http.Joined
import TagCatalog.Proofs.Registry.Asking
import TagCatalog.Proofs.Registry.Link

/-!
# Links in one field and in several

A page may send its links in several `Link` fields, or all of them in one. Only the first field is
read. So where an earlier field names no page and a later one does, the page is taken for the last
one: the listing ends, and its tags are those of the pages up to it. Where that never happens, a
listing makes the same requests and has the same result however the links are sent.

* `Link.named?`, `Link.nextIn?_joined`, `Link.named?_map_text`: the page that some links name;
* `Link.Framed`, `Link.Framed.next?_eq`, `Link.Framed.next?_joined`: links in groups, with a field
  for each, and the page that is named;
* `Authorizer.yields_headerValue_joined`, `Client.Page.Fetched.joined`, `Client.Trail.joined`: what
  happens when all links are in one field;
* `Client.Page.NamesAlike`, `Client.run_joined`: listings that do not depend on it;
* `Client.Gets.exists_lists`: a page without a next one ends the listing;
* **`Client.listTags_of_framing`**: when it makes a difference;
* `Client.svcListing_nextLast`: a listing that loses a page.
-/

namespace TagCatalog

namespace Link

/-! ## Links -/

/-- The first page that some links name. -/
def named? (links : List String) : Option String :=
  (links.findSome? fun link => nextIn? link.toList).map String.ofList

/-- One field with all links names the page that the first of them to do so names. -/
theorem nextIn?_joined (links : List String) :
    nextIn? (Http.joined links).toList = links.findSome? fun link => nextIn? link.toList := by
  induction links with
  | nil => decide
  | cons link links ih =>
    by_cases hnil : links = []
    · subst hnil
      simp [Http.joined]
    · have hjoined : (Http.joined (link :: links)).toList =
          link.toList ++ ',' :: ' ' :: (Http.joined links).toList := by
        rw [Http.joined, String.intercalate_cons_of_ne_nil hnil]
        simp [String.toList_append, Http.joined]
      rw [hjoined, nextIn?_append_cons, nextIn?_cons_blank, ih, List.findSome?_cons]
      cases nextIn? link.toList <;> rfl

theorem named?_append (links links' : List String) :
    named? (links ++ links') = (named? links).or (named? links') := by
  rw [named?, List.findSome?_append, Option.map_or, named?, named?]

theorem named?_map_text (entries : List Entry) :
    named? (entries.map fun e => String.ofList e.text) =
      (entries.find? fun e => decide e.Seen).map fun e => String.ofList e.target := by
  induction entries with
  | nil => rfl
  | cons e entries ih =>
    have hfirst : named? [String.ofList e.text] =
        if e.Seen then some (String.ofList e.target) else none := by
      simp only [named?, List.findSome?_singleton, String.toList_ofList, nextIn?_text]
      split_ifs <;> rfl
    rw [List.map_cons, ← List.singleton_append, named?_append, hfirst, ih, List.find?_cons]
    by_cases hseen : e.Seen <;> simp [hseen]

/-- The links of a reply are sent in groups, with a field for each. -/
structure Framed (headers : Http.Headers) (groups : List (List String)) : Prop where
  values_eq : headers.values "Link" = groups.map Http.joined
  ne_nil : ∀ g ∈ groups, g ≠ []
  readable : ∀ g ∈ groups, ∀ link ∈ g, Http.isReadable link

variable {headers : Http.Headers} {groups : List (List String)}

/-- The page that the first field names is the next one. -/
theorem Framed.next?_eq (h : Framed headers groups) :
    next? headers = groups.head?.bind named? := by
  rw [next?, h.values_eq]
  cases groups with
  | nil => rfl
  | cons g groups =>
    have hreadable := Http.isReadable_joined (h.readable g List.mem_cons_self)
    simp only [List.map_cons, hreadable, if_true, nextIn?_joined]
    rfl

theorem Framed.joined (h : Framed headers groups) (hne : groups ≠ []) :
    Framed headers.joined [groups.flatten] where
  values_eq := by
    have hlinks : headers.values "Link" ≠ [] := by
      rw [h.values_eq]
      exact mt List.map_eq_nil_iff.1 hne
    rw [Http.Headers.values_joined hlinks, h.values_eq, Http.joined_flatten h.ne_nil]
    rfl
  ne_nil := by
    obtain ⟨g, hg⟩ := List.exists_mem_of_ne_nil groups hne
    exact List.forall_mem_singleton.2 fun hempty =>
      h.ne_nil g hg (List.flatten_eq_nil_iff.1 hempty g hg)
  readable := by
    refine List.forall_mem_singleton.2 fun link hlink => ?_
    obtain ⟨g, hg, hmem⟩ := List.mem_flatten.1 hlink
    exact h.readable g hg link hmem

/-- From one field the first page that any link names is the next one. -/
theorem Framed.next?_joined (h : Framed headers groups) :
    next? headers.joined = named? groups.flatten := by
  by_cases hnil : groups = []
  · subst hnil
    rw [Http.Headers.joined_eq_self h.values_eq, h.next?_eq]
    rfl
  · exact (h.joined hnil).next?_eq

theorem named?_flatten_eq_none_iff :
    named? groups.flatten = none ↔ ∀ g ∈ groups, named? g = none := by
  simp only [named?, Option.map_eq_none_iff, List.findSome?_eq_none_iff, List.mem_flatten]
  exact ⟨fun h g hg link hlink => h link ⟨g, hg, hlink⟩,
    fun h link ⟨g, hg, hlink⟩ => h g hg link hlink⟩

theorem Framed.next?_joined_eq_iff (h : Framed headers groups) :
    next? headers.joined = next? headers ↔
      (next? headers = none → ∀ g ∈ groups, named? g = none) := by
  rw [← named?_flatten_eq_none_iff, h.next?_joined, h.next?_eq]
  cases groups with
  | nil => simp [named?]
  | cons g groups =>
    rw [List.flatten_cons, named?_append, List.head?_cons, Option.bind_some]
    cases named? g <;> simp

end Link

/-! ## Authorization -/

namespace Token

variable {challenge : Challenge} {scope service : String} {realm : Url} {log : Trace}

theorem Asks.joined {call : Http.Call} (h : Asks realm service scope log call) :
    log.joined = log := by
  cases h <;> rfl

theorem Ends.joined {sent : Except Http.SendError Http.Response}
    {result : Except CatalogError String} (h : Ends realm service sent log result) :
    Ends realm service (sent.map Http.Response.joined) log.joined result := by
  have hkeeping : ∀ tokens, (keeping realm service tokens).joined = keeping realm service tokens :=
    fun tokens => by rw [keeping]; cases tokens.refreshToken <;> rfl
  cases h with
  | unsent e => exact .unsent e
  | @refused response h => exact .refused h
  | @unread response h hb => exact .unread h hb
  | @tokenless response tokens h hb ht =>
    rw [hkeeping]
    exact .tokenless h hb ht
  | @token response tokens token h hb ht =>
    rw [hkeeping]
    exact .token h hb ht

theorem Fetches.joined {result : Except CatalogError String}
    (h : Fetches challenge scope log result) : Fetches challenge scope log.joined result := by
  cases h with
  | noRealm h => exact .noRealm h
  | badRealm h hp => exact .badRealm h hp
  | called h hp asks sends ends =>
    rw [Trace.joined_append, Trace.joined_append, asks.joined]
    exact .called h hp asks (Http.yields_exchange_joined sends) ends.joined

end Token

/-- **A request is authorized alike** when the links of replies are in one field. -/
theorem Authorizer.yields_headerValue_joined (a : Authorizer) {log : Trace}
    {r : Except Stop (Option String)} (h : a.headerValue.Yields log r) :
    a.headerValue.Yields log.joined r := by
  cases hbearer : a.challenges.find? .bearer with
  | some challenge =>
    rw [yields_headerValue_of_bearer hbearer] at h ⊢
    obtain ⟨result, hfetches, hr⟩ := h
    exact ⟨result, hfetches.joined, hr⟩
  | none =>
    cases hbasic : a.challenges.find? .basic with
    | none =>
      rw [headerValue_of_none hbearer hbasic] at h ⊢
      obtain ⟨rfl, rfl⟩ := Session.yields_done_iff.1 h
      exact .done _
    | some challenge =>
      rw [headerValue_of_basic hbearer hbasic] at h ⊢
      obtain ⟨credentials, rest, rfl, hrest⟩ := Session.yields_askBasic_iff.1 h
      refine Session.yields_askBasic_iff.2 ⟨credentials, Trace.joined rest, rfl, ?_⟩
      cases credentials with
      | some c =>
        obtain ⟨rfl, rfl⟩ := Session.yields_done_iff.1 hrest
        exact .done _
      | none =>
        obtain ⟨rfl, rfl⟩ := Session.yields_fail_iff.1 hrest
        exact .fail _

namespace Client

variable {c : Client} {a : Authorizer} {repository : String} {visited : List Url} {url stop : Url}
  {p : Page} {pages : List Page} {log : Trace}

/-! ## Pages -/

/-- The page with all links of replies in one field. -/
def Page.joined (p : Page) : Page :=
  { p with
    response := p.response.joined
    authorizing := p.authorizing.joined
    sending := p.sending.joined }

/-- The page names the same page when all its links are in one field. -/
def Page.NamesAlike (p : Page) : Prop :=
  Link.next? p.response.reply.headers.joined = Link.next? p.response.reply.headers

theorem Page.log_joined (p : Page) : p.joined.log = p.log.joined :=
  (Trace.joined_append p.authorizing p.sending).symm

theorem Page.NamesAlike.next?_eq (h : p.NamesAlike) : p.joined.next? = p.next? :=
  congrArg (Option.map p.url.join) h

theorem Page.Fetched.joined (h : p.Fetched a) : p.joined.Fetched a where
  authorized := a.yields_headerValue_joined h.authorized
  sent := Http.yields_exchange_joined h.sent
  succeeded := h.succeeded
  read := h.read

/-- A page that fails does so in the joined world too, if it names the same page there. -/
theorem PageFails.joined {e : CatalogError} (h : PageFails c a url log e)
    (halike : ∀ p : Page, p.Fetched a → p.url = url → p.log = log → p.NamesAlike) :
    PageFails c a url log.joined e := by
  cases h with
  | authorization h => exact .authorization (a.yields_headerValue_joined h)
  | sending h h' =>
    rw [Trace.joined_append]
    exact .sending (a.yields_headerValue_joined h) (Http.yields_exchange_joined h')
  | @status header log log' response e h h' hs he =>
    rw [Trace.joined_append]
    exact .status (a.yields_headerValue_joined h)
      (Http.yields_exchange_joined h') hs he
  | @body header log log' response h h' hs hb =>
    rw [Trace.joined_append]
    exact .body (a.yields_headerValue_joined h)
      (Http.yields_exchange_joined h') hs hb
  | @link p link fault h hu hl hj =>
    rw [← Page.log_joined]
    exact .link h.joined hu ((halike p h hu rfl).trans hl) hj

/-! ## Listings -/

theorem map_url_joined (pages : List Page) :
    (pages.map Page.joined).map Page.url = pages.map Page.url := by
  rw [List.map_map]
  rfl

theorem flatMap_log_joined (pages : List Page) :
    (pages.map Page.joined).flatMap Page.log = Trace.joined (pages.flatMap Page.log) := by
  induction pages with
  | nil => rfl
  | cons p pages ih =>
    rw [List.map_cons, List.flatMap_cons, ih, Page.log_joined, List.flatMap_cons,
      Trace.joined_append]

theorem flatMap_tags_joined (pages : List Page) :
    (pages.map Page.joined).flatMap Page.tags = pages.flatMap Page.tags := by
  rw [List.flatMap_map]
  rfl

theorem Trail.joined (h : Trail a visited url pages stop) (halike : ∀ p ∈ pages, p.NamesAlike) :
    Trail a visited url (pages.map Page.joined) stop where
  fetched p hp := by
    obtain ⟨q, hq, rfl⟩ := List.mem_map.1 hp
    exact (h.fetched q hq).joined
  first := by
    rw [map_url_joined]
    exact h.first
  linked := by
    refine (List.isChain_map Page.joined).2 (h.linked.imp_of_mem_imp fun p q hp _ hnext => ?_)
    exact (halike p hp).next?_eq.trans hnext
  stops p hp := by
    rw [List.getLast?_map] at hp
    obtain ⟨q, hq, rfl⟩ := Option.map_eq_some_iff.1 hp
    exact (halike q (List.mem_of_getLast? hq)).next?_eq.trans (h.stops q hq)
  distinct := by
    rw [map_url_joined]
    exact h.distinct

theorem Reaches.joined (h : c.Reaches a repository pages stop)
    (halike : ∀ p ∈ pages, p.NamesAlike) :
    c.Reaches a repository (pages.map Page.joined) stop := by
  obtain ⟨first, hfirst, htrail⟩ := h
  exact ⟨first, hfirst, htrail.joined halike⟩

theorem Ends.joined {left : Nat} {r : Except Stop (List String)}
    (h : Ends c a visited url left log r)
    (halike : ∀ p : Page, p.Fetched a → p.url = url → p.log = log → p.NamesAlike) :
    Ends c a visited url left log.joined r := by
  cases h with
  | limit => exact .limit
  | failed h => exact .failed (h.joined halike)
  | @listed left p h hu hlast =>
    have hnext := (halike p h hu rfl).next?_eq
    rw [← hnext] at hlast
    rw [← Page.log_joined]
    exact .listed h.joined hu hlast

/-! ## Worlds -/

variable {w : World} {t t' : Trace}

theorem Reaches.gets (h : c.Reaches a repository pages stop)
    (hw : w.Answers t (pages.flatMap Page.log)) (hp : p ∈ pages) :
    c.Gets a repository w t p := by
  have hwalk := h.walk
  obtain ⟨first, -, htrail⟩ := h
  have hfetched := htrail.fetched p hp
  obtain ⟨before, after, rfl⟩ := List.append_of_mem hp
  have hasks : (before ++ p :: after).map Page.ask =
      (before.map Page.ask ++ [p.ask]) ++ after.map Page.ask := by simp
  rw [hasks] at hwalk
  rw [← flatMap_log_ask, hasks, List.flatMap_append, World.answers_append] at hw
  exact ⟨hfetched, before.map Page.ask, hwalk.of_append, hw.1⟩

theorem Reaches.gets_last (h : c.Reaches a repository pages p.url) (hp : p.Fetched a)
    (hw : w.Answers t (pages.flatMap Page.log ++ p.log)) : c.Gets a repository w t p := by
  refine ⟨hp, pages.map Page.ask, h.walk_concat hp.made, ?_⟩
  rw [List.flatMap_append, flatMap_log_ask, List.flatMap_singleton]
  exact hw

variable {limit : Nat} {r : Except Stop (List String)}

/-- **A listing whose pages name the same pages** runs alike when all links are in one field. -/
theorem run_joined (hstore : w.store.IgnoresReplies)
    (halike : ∀ p, c.Gets a repository w t p → p.NamesAlike)
    (h : (c.listTags a limit repository).run w t = (r, t')) :
    (c.listTags a limit repository).run w.joined t.joined = (r, t'.joined) := by
  obtain ⟨log, hy, hw, rfl⟩ := Session.run_eq_iff.1 h
  refine Session.run_eq_iff.2 ⟨log.joined, ?_, hw.joined hstore, Trace.joined_append t log⟩
  rw [yields_listTags_iff] at hy ⊢
  obtain ⟨e, hfirst, rfl, rfl⟩ |
    ⟨pages, stop, left, rest, r', hreaches, hlen, hends, rfl, rfl⟩ := hy
  · exact .inl ⟨e, hfirst, rfl, rfl⟩
  · have hpages : ∀ p ∈ pages, p.NamesAlike := fun p hp =>
      halike p (hreaches.gets (World.answers_append.1 hw).1 hp)
    have hlast : ∀ p : Page, p.Fetched a → p.url = stop → p.log = rest → p.NamesAlike := by
      rintro p hp rfl rfl
      exact halike p (hreaches.gets_last hp hw)
    refine .inr ⟨pages.map Page.joined, stop, left, Trace.joined rest, r', hreaches.joined hpages,
      by rw [List.length_map, hlen], ?_, ?_, ?_⟩
    · rw [map_url_joined]
      exact hends.joined hlast
    · rw [flatMap_log_joined, Trace.joined_append]
    · rw [flatMap_tags_joined]

theorem Trail.concat (h : Trail a visited url pages p.url) (hp : p.Fetched a)
    (hnext : p.next? = some (.ok stop))
    (hdistinct : ((pages ++ [p]).map Page.url ++ stop :: visited).Nodup) :
    Trail a visited url (pages ++ [p]) stop where
  fetched := List.forall_mem_append.2 ⟨h.fetched, List.forall_mem_singleton.2 hp⟩
  first := by
    rw [← h.first, List.map_append, List.append_assoc]
    cases pages <;> rfl
  linked := by
    refine List.isChain_append.2 ⟨h.linked, .singleton p, ?_⟩
    rintro q hq _ ⟨⟩
    exact h.stops q hq
  stops := by
    rw [List.getLast?_concat]
    rintro _ ⟨⟩
    exact hnext
  distinct := hdistinct

theorem Walk.exists_reaches {asks : List Ask} {k : Ask} (h : c.Walk a repository (asks ++ [k])) :
    ∃ pages, asks = pages.map Page.ask ∧ c.Reaches a repository pages k.url := by
  -- The page before the last one is the last of a shorter walk.
  induction asks using List.reverseRecOn generalizing k with
  | nil =>
    have hnil : Trail a [] k.url [] k.url := trail_nil_iff.2 ⟨rfl, List.nodup_singleton _⟩
    exact ⟨[], rfl, k.url, h.first k rfl, hnil⟩
  | append_singleton asks k₀ ih =>
    obtain ⟨pages, rfl, first, hfirst, htrail⟩ := ih h.of_append
    obtain ⟨p, hp, rfl, hnext⟩ := (List.isChain_append.1 h.linked).2.2 k₀ (by simp) k rfl
    have hasks : pages.map Page.ask ++ [p.ask] = (pages ++ [p]).map Page.ask := by simp
    have hdistinct := h.distinct
    rw [hasks, List.map_append, map_url_ask] at hdistinct
    exact ⟨pages ++ [p], hasks, first, hfirst, htrail.concat hp hnext hdistinct⟩

/-- **A page that names no page ends the listing**, with the tags of the pages up to it. -/
theorem Gets.exists_lists (h : c.Gets a repository w t p)
    (hnone : Link.next? p.response.reply.headers = none) :
    ∃ pages, c.Reaches a repository pages p.url ∧ w.Answers t (pages.flatMap Page.log ++ p.log) ∧
      c.Lists a repository (pages ++ [p]) := by
  obtain ⟨hp, asks, hwalk, hw⟩ := h
  obtain ⟨pages, rfl, hreaches⟩ := hwalk.exists_reaches
  rw [List.flatMap_append, flatMap_log_ask, List.flatMap_singleton] at hw
  refine ⟨pages, hreaches, hw, lists_concat_iff.2 ⟨hreaches, hp, .inl ?_⟩⟩
  rw [Page.next?, hnone]
  rfl

/-- **When the framing of links makes a difference.** Where a reply sends its links in groups, with
a field for each, the next page is the one that the first group names; with all links in one field
it is the one that any of them names first. These differ exactly where the first group names no page
and another one does. What links name is the target of the first one that is seen. A listing whose
pages all name the same page either way makes the same requests and has the same result. Any page
whose first field names none ends the listing, with the tags of the pages up to it; if those before
it name the same page either way, the listing gets this page, with whatever it names, when all links
are in one field. -/
theorem listTags_of_framing (c : Client) (a : Authorizer) (limit : Nat) (repository : String)
    {w : World} (hstore : w.store.IgnoresReplies) (t : Trace) :
    (∀ headers groups, Link.Framed headers groups →
      Link.next? headers = groups.head?.bind Link.named? ∧
      Link.next? headers.joined = Link.named? groups.flatten ∧
      (groups ≠ [] → headers.joined.values "Link" = [Http.joined groups.flatten]) ∧
      (Link.next? headers.joined = Link.next? headers ↔
        (Link.next? headers = none → ∀ g ∈ groups, Link.named? g = none))) ∧
    (∀ entries : List Link.Entry, Link.named? (entries.map fun e => String.ofList e.text) =
      (entries.find? fun e => decide e.Seen).map fun e => String.ofList e.target) ∧
    ((∀ p, c.Gets a repository w t p → p.NamesAlike) → ∀ r t',
      (c.listTags a limit repository).run w t = (r, t') →
        (c.listTags a limit repository).run w.joined t.joined = (r, t'.joined) ∧
          t'.joined.requests = t'.requests) ∧
    ∀ p, c.Gets a repository w t p → Link.next? p.response.reply.headers = none →
      ∃ pages, c.Lists a repository (pages ++ [p]) ∧
        (pages.length < limit → (c.listTags a limit repository).run w t =
          (.ok ((pages ++ [p]).flatMap Page.tags), t ++ (pages ++ [p]).flatMap Page.log)) ∧
        ((∀ q ∈ pages, q.NamesAlike) → c.Gets a repository w.joined t.joined p.joined) := by
  refine ⟨fun headers groups h => ⟨h.next?_eq, h.next?_joined, fun hne => ?_,
    h.next?_joined_eq_iff⟩, Link.named?_map_text, fun halike r t' hrun => ?_,
    fun p hp hnone => ?_⟩
  · rw [(h.joined hne).values_eq]
    rfl
  · exact ⟨run_joined hstore halike hrun, t'.requests_joined⟩
  · obtain ⟨pages, hreaches, hw, hlists⟩ := hp.exists_lists hnone
    have hlog : (pages ++ [p]).flatMap Page.log = pages.flatMap Page.log ++ p.log := by
      rw [List.flatMap_append, List.flatMap_singleton]
    refine ⟨pages, hlists, fun hlimit => ?_, fun halike => ?_⟩
    · refine Session.run_eq_iff.2 ⟨_, yields_listTags_ok_iff.2 ⟨_, hlists, ?_, rfl, rfl⟩, ?_, rfl⟩
      · rw [List.length_append, List.length_singleton]
        exact hlimit
      · rw [hlog]
        exact hw
    · refine (hreaches.joined halike).gets_last (p := p.joined) hp.1.joined ?_
      have hjoined := hw.joined hstore
      rw [Trace.joined_append, ← flatMap_log_joined, ← Page.log_joined] at hjoined
      exact hjoined

/-- A page with one tag and some `Link` fields. -/
def pageWith (fields : List String) (tag : String) : Http.Reply :=
  { pageNaming "" tag with headers := fields.map ("Link", ·) }

/-- A registry with two pages, of which the first has some `Link` fields. -/
def fieldsWorld (fields : List String) : World where
  server before _ :=
    if before = [] then .reply (pageWith fields "1-a") else .reply (pageWith [] "2-b")
  store := .fixed none none

/-- A link to the page before the first. -/
def linkBefore : String := "</v2/svc/tags/list?n=0>; rel=\"prev\""

/-- A link to the second page. -/
def linkSecond : String := "</v2/svc/tags/list?n=2>; rel=\"next\""

/-- Listing a registry. -/
def svcListing (w : World) : Except Stop (List String) × Trace :=
  (svcClient.listTags svcAuthorizer 3 "svc").run w []

theorem framed_pair {link link' : String} (h : Http.isReadable link) (h' : Http.isReadable link') :
    Link.Framed [("Link", link), ("Link", link')] [[link], [link']] where
  values_eq := by
    have hsame : Http.sameName "Link" "Link" = true := by decide
    simp [Http.Headers.values, Http.joined, hsame]
  ne_nil := by simp
  readable := by simp [h, h']

/-- With the second page in the first field, the listing has both pages either way. -/
theorem listTags_of_framing_nextFirst :
    (fieldsWorld [linkSecond, linkBefore]).store.IgnoresReplies ∧
    Link.next? [("Link", linkSecond), ("Link", linkBefore)] = some "/v2/svc/tags/list?n=2" ∧
    (svcListing (fieldsWorld [linkSecond, linkBefore])).1 = .ok ["1-a", "2-b"] ∧
    (svcListing (fieldsWorld [linkSecond, linkBefore]).joined).1 = .ok ["1-a", "2-b"] := by
  have hstore : (fieldsWorld [linkSecond, linkBefore]).store.IgnoresReplies :=
    Store.ignoresReplies_fixed none none
  obtain ⟨hframed, -, hrun, -⟩ := listTags_of_framing svcClient svcAuthorizer 3 "svc" hstore []
  have halike : ∀ p,
      svcClient.Gets svcAuthorizer "svc" (fieldsWorld [linkSecond, linkBefore]) [] p →
        p.NamesAlike := fun p hp => by
    obtain ⟨before, request, hserver⟩ := hp.exists_server_eq
    rw [fieldsWorld] at hserver
    dsimp only at hserver
    split at hserver
    · rw [Page.NamesAlike, ← Http.Answer.reply.inj hserver]
      decide +kernel
    · rw [Page.NamesAlike, ← Http.Answer.reply.inj hserver]
      decide +kernel
  have hlisting : (svcListing (fieldsWorld [linkSecond, linkBefore])).1 = .ok ["1-a", "2-b"] := by
    decide +kernel
  have hfields : Link.Framed [("Link", linkSecond), ("Link", linkBefore)]
      [[linkSecond], [linkBefore]] :=
    framed_pair (by decide +kernel) (by decide +kernel)
  refine ⟨hstore, (hframed _ _ hfields).1.trans (by decide +kernel), hlisting, ?_⟩
  rcases hlist : svcListing (fieldsWorld [linkSecond, linkBefore]) with ⟨r, t'⟩
  rw [hlist] at hlisting
  rw [svcListing] at hlist ⊢
  exact (congrArg Prod.fst (hrun halike r t' hlist).1).trans hlisting

/-- With the second page in the second field, the listing has one page; with both links in one field
it has two. -/
theorem svcListing_nextLast :
    (fieldsWorld [linkBefore, linkSecond]).store.IgnoresReplies ∧
    Link.Framed [("Link", linkBefore), ("Link", linkSecond)] [[linkBefore], [linkSecond]] ∧
    (svcListing (fieldsWorld [linkBefore, linkSecond])).1 = .ok ["1-a"] ∧
    (svcListing (fieldsWorld [linkBefore, linkSecond]).joined).1 = .ok ["1-a", "2-b"] :=
  ⟨Store.ignoresReplies_fixed none none, framed_pair (by decide +kernel) (by decide +kernel),
    by decide +kernel, by decide +kernel⟩

end Client

end TagCatalog
