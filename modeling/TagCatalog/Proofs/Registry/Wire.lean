import TagCatalog.Proofs.Registry.Asking

/-!
# What a server sees of a listing

The pages of a listing are at different URLs. But a URL is not sent as a whole: its fragment stays
behind, and a user that it names becomes a header. A server that leads a listing from one URL to
another that differs in these alone is asked for the same page again.

* `Url.onWire`, `Url.unsent`: what is sent of a URL, and what is not;
* `Client.Ask.request?`: the request for a page;
* `Server.Shows`: a server that has one page for each URL;
* `Client.Walk.unsent_eq`: links that leave alone what is not sent;
* **`Client.asked_on_wire`**: when a page is asked for once, and its tags are listed once.
-/

namespace TagCatalog

namespace Url

variable {u v : Url}

/-- The URL as it is sent. -/
def onWire (u : Url) : Url := u.withoutUser.withoutFragment

/-- What is not sent with a URL: the user name, the password and the fragment. -/
def unsent (u : Url) : String × String × Option String := (u.username, u.password, u.fragment)

theorem eq_of_onWire (hwire : u.onWire = v.onWire) (hunsent : u.unsent = v.unsent) : u = v := by
  cases u
  cases v
  simp only [onWire, withoutUser, withoutFragment, Url.mk.injEq, true_and, and_true] at hwire
  simp only [unsent, Prod.mk.injEq] at hunsent
  simp only [hwire, hunsent]

end Url

/-! ## Servers with one page for each URL -/

/-- Whenever a URL is asked for with GET, the server shows the same page, and leads nowhere else. -/
structure Server.Shows (s : Server) (page : Url → Http.Reply) : Prop where
  get : ∀ before request, request.method = .get → s before request = .reply (page request.url)
  stays : ∀ u, Http.isRedirect (page u).status = false

namespace Client

variable {c : Client} {a : Authorizer} {repository : String} {w : World} {t log : Trace} {p : Page}
  {k : Ask} {asks : List Ask} {request : Http.Request} {page : Url → Http.Reply}

/-! ## The requests for pages -/

/-- The request for a page, if one was sent. -/
def Ask.request? (k : Ask) : Option Http.Request := k.sending.head?.bind Event.request?

theorem Ask.Made.request_eq (h : k.Made a) (hrequest : request ∈ k.request?) :
    request.method = .get ∧ request.url = k.url.onWire := by
  rw [Ask.request?] at hrequest
  cases h with
  | denied _ hnil =>
    rw [hnil] at hrequest
    nomatch hrequest
  | sent _ hs =>
    obtain ⟨hnil, -⟩ | ⟨-, answer, rest, hsending⟩ := Http.nil_or_first_of_yields hs
    · rw [hnil] at hrequest
      nomatch hrequest
    · rw [hsending] at hrequest
      cases hrequest
      exact ⟨Http.withUserMoved_method _, Http.withUserMoved_request_url _⟩

theorem Walk.sublist_onWire (h : c.Walk a repository asks) :
    ((asks.filterMap Ask.request?).map (·.url)).Sublist (asks.map fun k => k.url.onWire) := by
  have hmade := h.made
  clear h
  induction asks with
  | nil => exact .slnil
  | cons k asks ih =>
    rw [List.forall_mem_cons] at hmade
    have hrest := ih hmade.2
    rw [List.map_cons, List.filterMap_cons]
    cases hrequest : k.request? with
    | none => exact hrest.cons _
    | some request =>
      rw [List.map_cons, (hmade.1.request_eq hrequest).2]
      exact hrest.cons_cons _

/-! ## Links that leave alone what is not sent -/

/-- In a world no page that the listing gets names one with another user or fragment than it has. -/
def LinksAlike (c : Client) (a : Authorizer) (repository : String) (w : World) (t : Trace) : Prop :=
  ∀ p, c.Gets a repository w t p → ∀ next, p.next? = some (.ok next) → next.unsent = p.url.unsent

/-- Along such links all URLs agree in what is not sent. -/
theorem Walk.unsent_eq {first : Url} (hlinks : c.LinksAlike a repository w t)
    (hfirst : c.endpoint (listingPath repository) = .ok first) (h : c.Walk a repository asks)
    (hw : w.Answers t (asks.flatMap Ask.log)) : ∀ k ∈ asks, k.url.unsent = first.unsent := by
  induction asks using List.reverseRecOn with
  | nil => exact List.forall_mem_nil _
  | append_singleton asks k ih =>
    rw [List.flatMap_append, World.answers_append] at hw
    have hbefore := ih h.of_append hw.1
    refine List.forall_mem_append.2 ⟨hbefore, List.forall_mem_singleton.2 ?_⟩
    -- the page of the last request is the first one, or the page before it names it
    obtain rfl | ⟨asks, k₀, rfl⟩ := asks.eq_nil_or_concat'
    · cases hfirst.symm.trans (h.first k rfl)
      rfl
    · obtain ⟨p, hp, rfl, hnext⟩ := (List.isChain_append.1 h.linked).2.2 k₀ (by simp) k rfl
      rw [hlinks p ⟨hp, asks, h.of_append, hw.1⟩ k.url hnext]
      exact hbefore p.ask (by simp)

theorem Walk.nodup_requests (h : c.Walk a repository asks)
    (hlinks : c.LinksAlike a repository w t) (hw : w.Answers t (asks.flatMap Ask.log)) :
    ((asks.filterMap Ask.request?).map (·.url)).Nodup := by
  refine h.sublist_onWire.nodup ?_
  cases asks with
  | nil => exact List.nodup_nil
  | cons k₀ asks =>
    have hunsent := h.unsent_eq hlinks (h.first k₀ rfl) hw
    refine (List.nodup_map_iff_inj_on h.distinct.of_map).2 fun k hk k' hk' hwire => ?_
    exact List.inj_on_of_nodup_map h.distinct hk hk'
      (Url.eq_of_onWire hwire ((hunsent k hk).trans (hunsent k' hk').symm))

/-! ## The tags of pages -/

/-- The tags in the body of a page. -/
def tagsIn (reply : Http.Reply) : List String :=
  (reply.body.bytes?.bind TagPage.ofBytes?).getD []

theorem Page.Fetched.exists_request (h : p.Fetched a) (hw : w.Answers t p.log)
    (hpage : w.server.Shows page) :
    ∃ request, p.ask.request? = some request ∧ p.tags = tagsIn (page request.url) := by
  obtain ⟨request, answer, rest, hsending⟩ := Http.exists_first_of_yields_ok h.sent
  have hrequest : p.ask.request? = some request := by
    rw [Ask.request?, ask, hsending]
    rfl
  refine ⟨request, hrequest, ?_⟩
  have hanswer : answer = .reply (page request.url) := by
    rw [Page.log, World.answers_append, hsending] at hw
    rw [← hpage.get _ request (h.made.request_eq hrequest).1]
    exact hw.2.1
  have hsent := h.sent
  rw [hsending, hanswer] at hsent
  rw [tagsIn, ← Http.reply_eq_of_yields_ok (hpage.stays request.url) hsent, tagsOf_iff.1 h.read]
  rfl

theorem tags_eq_of_shows {pages : List Page} (hfetched : ∀ p ∈ pages, p.Fetched a)
    (hw : w.Answers t (pages.flatMap Page.log)) (hpage : w.server.Shows page) :
    pages.flatMap Page.tags = ((pages.map Page.ask).filterMap Ask.request?).flatMap
      fun request => tagsIn (page request.url) := by
  induction pages generalizing t with
  | nil => rfl
  | cons p pages ih =>
    rw [List.forall_mem_cons] at hfetched
    rw [List.flatMap_cons, World.answers_append] at hw
    obtain ⟨request, hrequest, htags⟩ := hfetched.1.exists_request hw.1 hpage
    rw [List.flatMap_cons, List.map_cons, List.filterMap_cons_some hrequest, List.flatMap_cons,
      htags, ih hfetched.2 hw.2]

/-- **When a page is asked for once.** The pages that a listing asks for are at different URLs, and
each is asked for by what is sent of its URL; so only pages whose URLs differ in the user or the
fragment can be asked for by one URL. If no page names one with another user or fragment than its
own, no URL is asked for twice. If the server has one page for each URL, the tags are those of the
pages that are asked for, each as often as it is asked for. -/
theorem asked_on_wire (c : Client) (a : Authorizer) (limit : Nat) (repository : String) (w : World)
    (t : Trace) {r : Except Stop (List String)}
    (hrun : (c.listTags a limit repository).run w t = (r, t ++ log)) :
    ∃ asks, c.Walk a repository asks ∧ log = asks.flatMap Ask.log ∧
      (∀ k ∈ asks, ∀ request ∈ k.request?, request.method = .get ∧ request.url = k.url.onWire) ∧
      (asks.Pairwise fun k k' => k.url.onWire = k'.url.onWire → k.url.unsent ≠ k'.url.unsent) ∧
      (c.LinksAlike a repository w t → ((asks.filterMap Ask.request?).map (·.url)).Nodup) ∧
      ∀ page, w.server.Shows page → ∀ tags, r = .ok tags →
        tags = (asks.filterMap Ask.request?).flatMap fun request => tagsIn (page request.url) := by
  obtain ⟨log', hy, hw, heq⟩ := Session.run_eq_iff.1 hrun
  cases List.append_cancel_left heq
  obtain ⟨asks, hwalk, rfl, -, htags⟩ := exists_walk hy
  refine ⟨asks, hwalk, rfl, fun k hk request hrequest => (hwalk.made k hk).request_eq hrequest,
    ?_, fun hlinks => hwalk.nodup_requests hlinks hw, fun page hpage tags hr => ?_⟩
  · refine (List.pairwise_map.1 hwalk.distinct).imp fun hurl hwire hunsent => ?_
    exact hurl (Url.eq_of_onWire hwire hunsent)
  · obtain ⟨pages, rfl, hfetched, rfl⟩ := htags tags hr
    rw [flatMap_log_ask] at hw
    exact tags_eq_of_shows hfetched hw hpage

/-- A registry with two pages, which both name the second one. -/
def twoPages (u : Url) : Http.Reply :=
  pageNaming "http://r.test/v2/svc/tags/list?n=2" (if u = svcUrl then "1-a" else "2-b")

/-- The world of that registry. -/
def twoPagesWorld : World := ⟨fun _ request => .reply (twoPages request.url), turningWorld.store⟩

/-- Listing it. -/
def twoPagesListing : Except Stop (List String) × Trace :=
  (svcClient.listTags svcAuthorizer 2 "svc").run twoPagesWorld []

theorem shows_twoPages : twoPagesWorld.server.Shows twoPages := ⟨fun _ _ _ => rfl, fun _ => rfl⟩

theorem linksAlike_twoPages : svcClient.LinksAlike svcAuthorizer "svc" twoPagesWorld t := by
  have hnames : ∀ p, svcClient.Gets svcAuthorizer "svc" twoPagesWorld t p →
      p.next? = some (.ok svcSecond) := fun p hp => by
    obtain ⟨before, request, hserver⟩ := hp.exists_server_eq
    exact next?_eq_svcSecond (Http.Answer.reply.inj hserver).symm
  intro p hp next hnext
  cases (hnames p hp).symm.trans hnext
  obtain ⟨-, asks, hwalk, hw⟩ := hp
  have hurl : p.url = svcUrl ∨ p.url = svcSecond := by
    obtain hfirst | ⟨q, hq, hnamed⟩ := hwalk.first_or_named hw (List.mem_append_right asks
      (List.mem_singleton_self p.ask))
    · exact .inl (Except.ok.inj (hfirst.symm.trans endpoint_svcUrl))
    · exact .inr (Except.ok.inj (Option.some.inj (hnamed.symm.trans (hnames q hq))))
  obtain hurl | hurl := hurl
  · rw [hurl]
    rfl
  · rw [hurl]

/-- Each of the two pages is asked for once and listed once. -/
theorem asked_on_wire_twoPages : twoPagesListing = (.ok ["1-a", "2-b"], [] ++ twoPagesListing.2) ∧
    ∃ asks, svcClient.Walk svcAuthorizer "svc" asks ∧
      twoPagesListing.2 = asks.flatMap Ask.log ∧
      ((asks.filterMap Ask.request?).map (·.url)).Nodup ∧
      ["1-a", "2-b"] = (asks.filterMap Ask.request?).flatMap fun request =>
        tagsIn (twoPages request.url) := by
  have hrun : twoPagesListing = (.ok ["1-a", "2-b"], [] ++ twoPagesListing.2) :=
    Prod.ext (by decide +kernel) (List.nil_append _).symm
  obtain ⟨asks, hwalk, hlog, -, -, honce, htags⟩ :=
    asked_on_wire svcClient svcAuthorizer 2 "svc" twoPagesWorld [] hrun
  exact ⟨hrun, asks, hwalk, hlog, honce linksAlike_twoPages, htags twoPages shows_twoPages _ rfl⟩

/-- A registry with one page, which names its next page by a reference. -/
def onePageWorld (reference : String) : World :=
  ⟨fun _ _ => .reply (pageNaming reference "1-a"), turningWorld.store⟩

/-- Listing it. -/
def onePageListing (reference : String) : Except Stop (List String) × Trace :=
  (svcClient.listTags svcAuthorizer 3 "svc").run (onePageWorld reference) []

/-- A page that names itself with a fragment, or with a user, is asked for and listed twice. -/
theorem onePageListing_twice :
    (onePageWorld "#2").server.Shows (fun _ => pageNaming "#2" "1-a") ∧
      (onePageListing "#2").1 = .ok ["1-a", "1-a"] ∧
      (Trace.requests (onePageListing "#2").2).map (·.url) = [svcUrl, svcUrl] ∧
      (onePageListing "//u@r.test/v2/svc/tags/list").1 = .ok ["1-a", "1-a"] ∧
      (Trace.requests (onePageListing "//u@r.test/v2/svc/tags/list").2).map (·.url) =
        [svcUrl, svcUrl] :=
  ⟨⟨fun _ _ _ => rfl, fun _ => rfl⟩, by decide +kernel⟩

end Client

end TagCatalog
