import Mathlib.Tactic.SplitIfs
import TagCatalog.Proofs.Auth.Negotiation
import TagCatalog.Registry.Client

/-!
# One page of a listing

A page is asked for with a freshly authorized request. The response counts if it reports success
and its body holds a list of tags; it may then name the page after it. Anything that goes wrong on
the way ends the listing.

* `Client.Page`, `Client.Page.Fetched`: a page, and what had to happen for it;
* `Client.PageFails`: the ways in which a page may end the listing with an error;
* `Client.TagsOf`, `Client.tagsOf_iff`: the tags that a response holds;
* **`Client.yields_listFrom_succ`**: what listing on from a URL does with the first page.
-/

namespace TagCatalog

namespace Client

/-! ## The tags of a response -/

/-- The response holds the tags: its body is an object whose list of tags is missing, `null` or
made of them. -/
def TagsOf (r : Http.Response) (tags : List String) : Prop :=
  ∃ bytes json field, r.reply.body = .whole bytes ∧ Json.ofBytes? bytes = some json ∧
    json.fields? ["tags"] = some [field] ∧
      ((field = none ∨ field = some .null) ∧ tags = [] ∨
        field = some (.array (tags.map fun tag => .text (some tag))))

theorem mapM_text?_eq_some_iff {items : List Json} {tags : List String} :
    items.mapM Json.text? = some tags ↔ items = tags.map fun tag => .text (some tag) := by
  induction items generalizing tags with
  | nil =>
    rw [List.mapM_nil]
    cases tags with
    | nil => exact ⟨fun _ => rfl, fun _ => rfl⟩
    | cons => exact ⟨fun h => (nomatch h), fun h => (nomatch h)⟩
  | cons j items ih =>
    rw [List.mapM_cons]
    constructor
    · intro h
      obtain ⟨tag, hj, h⟩ := Option.bind_eq_some_iff.1 h
      obtain ⟨rest, hrest, h⟩ := Option.bind_eq_some_iff.1 h
      cases h
      rw [List.map_cons, ih.1 hrest]
      cases j with
      | text value => cases hj; rfl
      | _ => nomatch hj
    · intro h
      cases tags with
      | nil => nomatch h
      | cons tag tags =>
        rw [List.map_cons, List.cons.injEq] at h
        obtain ⟨rfl, h⟩ := h
        rw [ih.2 h]
        rfl

theorem field_eq_some_iff {field : Option Json} {tags : List String} :
    (Json.fieldOr? none (Json.optional? (Json.list? Json.text?)) field).map (·.getD []) =
        some tags ↔
      (field = none ∨ field = some .null) ∧ tags = [] ∨
        field = some (.array (tags.map fun tag => .text (some tag))) := by
  constructor
  · intro h
    obtain ⟨list, hlist, rfl⟩ := Option.map_eq_some_iff.1 h
    cases field with
    | none => cases hlist; exact .inl ⟨.inl rfl, rfl⟩
    | some j =>
      cases j with
      | null => cases hlist; exact .inl ⟨.inr rfl, rfl⟩
      | array items =>
        obtain ⟨tags, hitems, rfl⟩ := Option.map_eq_some_iff.1 hlist
        rw [mapM_text?_eq_some_iff.1 hitems]
        exact .inr rfl
      | _ => nomatch hlist
  · rintro (⟨rfl | rfl, rfl⟩ | rfl)
    · rfl
    · rfl
    · have h := mapM_text?_eq_some_iff.2 (rfl : (tags.map fun tag => Json.text (some tag)) = _)
      rw [Json.fieldOr?, Json.optional?, Json.list?, h]
      · rfl
      · nofun

theorem ofValue?_eq_some_iff {json : Json} {tags : List String} :
    TagPage.ofValue? json = some tags ↔ ∃ field, json.fields? ["tags"] = some [field] ∧
      ((field = none ∨ field = some .null) ∧ tags = [] ∨
        field = some (.array (tags.map fun tag => .text (some tag)))) := by
  constructor
  · intro h
    obtain ⟨fields, hfields, h⟩ := Option.bind_eq_some_iff.1 h
    match fields, h with
    | [field], h =>
      refine ⟨field, hfields, field_eq_some_iff.1 ?_⟩
      rw [← h]
      exact Option.map_eq_bind
  · rintro ⟨field, hfields, h⟩
    rw [TagPage.ofValue?, hfields]
    rw [← field_eq_some_iff] at h
    rw [← h]
    exact Option.map_eq_bind.symm

theorem tagsOf_iff {r : Http.Response} {tags : List String} :
    TagsOf r tags ↔ r.reply.body.bytes?.bind TagPage.ofBytes? = some tags := by
  constructor
  · rintro ⟨bytes, json, field, hbody, hjson, h⟩
    have htags : TagPage.ofBytes? bytes = some tags :=
      Option.bind_eq_some_iff.2 ⟨json, hjson, ofValue?_eq_some_iff.2 ⟨field, h⟩⟩
    rw [hbody]
    exact htags
  · intro h
    obtain ⟨bytes, hbytes, h⟩ := Option.bind_eq_some_iff.1 h
    obtain ⟨json, hjson, h⟩ := Option.bind_eq_some_iff.1 h
    obtain ⟨field, h⟩ := ofValue?_eq_some_iff.1 h
    refine ⟨bytes, json, field, ?_, hjson, h⟩
    cases hbody : r.reply.body with
    | whole bytes' => rw [hbody] at hbytes; cases hbytes; rfl
    | broken => rw [hbody] at hbytes; nomatch hbytes

theorem statusError?_eq_none_iff {r : Http.Response} :
    statusError? r = none ↔ Http.isSuccess r.reply.status := by
  rw [statusError?]
  by_cases hs : Http.isSuccess r.reply.status
  · exact iff_of_true (if_pos hs) hs
  · rw [if_neg hs]
    refine iff_of_false ?_ hs
    split_ifs <;> nofun

theorem pageTags_eq_ok_iff {r : Http.Response} {tags : List String} :
    pageTags r = .ok tags ↔ Http.isSuccess r.reply.status ∧ TagsOf r tags := by
  rw [tagsOf_iff, ← statusError?_eq_none_iff, pageTags]
  cases statusError? r with
  | some e => exact ⟨nofun, nofun⟩
  | none =>
    cases r.reply.body.bytes?.bind TagPage.ofBytes? with
    | none => exact ⟨nofun, nofun⟩
    | some tags' => rw [Except.ok.injEq, Option.some.injEq, and_iff_right rfl]

theorem pageTags_eq_error_iff {r : Http.Response} {e : CatalogError} :
    pageTags r = .error e ↔ ¬ Http.isSuccess r.reply.status ∧ statusError? r = some e ∨
      Http.isSuccess r.reply.status ∧ (∀ tags, ¬ TagsOf r tags) ∧ e = .badTagPage := by
  simp only [tagsOf_iff]
  rw [← statusError?_eq_none_iff, pageTags]
  cases statusError? r with
  | some e' => simp
  | none =>
    cases r.reply.body.bytes?.bind TagPage.ofBytes? with
    | none => simp [eq_comm]
    | some tags => simp

/-! ## Pages -/

/-- A page of a listing. -/
structure Page where
  url : Url
  /-- The `Authorization` header that the page was asked with. -/
  header : Option String
  response : Http.Response
  tags : List String
  /-- What happened to authorize the request. -/
  authorizing : Trace
  /-- What happened when it was sent. -/
  sending : Trace

namespace Page

/-- All that happened for the page. -/
def log (p : Page) : Trace := p.authorizing ++ p.sending

/-- The page after it, if the response names one. -/
def next? (p : Page) : Option (Except Url.Fault Url) :=
  (Link.next? p.response.reply.headers).map p.url.join

/-- The page was asked for with a request that was authorized for it alone, and its response holds
the tags. -/
structure Fetched (a : Authorizer) (p : Page) : Prop where
  authorized : a.headerValue.Yields p.authorizing (.ok p.header)
  sent : (Http.exchange ((Http.Call.plain .get p.url).authorize p.header)).Yields p.sending
    (.ok (.ok p.response))
  succeeded : Http.isSuccess p.response.reply.status
  read : TagsOf p.response p.tags

end Page

/-- The page at `url` ends a listing with an error, after what happened for it. -/
inductive PageFails (c : Client) (a : Authorizer) (url : Url) : Trace → CatalogError → Prop
  | authorization {log : Trace} {e : CatalogError}
      (h : a.headerValue.Yields log (.error (.error e))) : PageFails c a url log e
  | sending {header : Option String} {log log' : Trace} {e : Http.SendError}
      (h : a.headerValue.Yields log (.ok header))
      (h' : (Http.exchange ((Http.Call.plain .get url).authorize header)).Yields log'
        (.ok (.error e))) : PageFails c a url (log ++ log') (.sendFailed c.registryUrl e.fault)
  | status {header : Option String} {log log' : Trace} {response : Http.Response}
      {e : CatalogError} (h : a.headerValue.Yields log (.ok header))
      (h' : (Http.exchange ((Http.Call.plain .get url).authorize header)).Yields log'
        (.ok (.ok response))) (hs : ¬ Http.isSuccess response.reply.status)
      (he : statusError? response = some e) : PageFails c a url (log ++ log') e
  | body {header : Option String} {log log' : Trace} {response : Http.Response}
      (h : a.headerValue.Yields log (.ok header))
      (h' : (Http.exchange ((Http.Call.plain .get url).authorize header)).Yields log'
        (.ok (.ok response))) (hs : Http.isSuccess response.reply.status)
      (hb : ∀ tags, ¬ TagsOf response tags) : PageFails c a url (log ++ log') .badTagPage
  | link {p : Page} {link : String} {fault : Url.Fault} (h : p.Fetched a) (hu : p.url = url)
      (hl : Link.next? p.response.reply.headers = some link)
      (hj : url.join link = .error fault) : PageFails c a url p.log (.badPageLink url link fault)

theorem yields_send_iff {c : Client} {a : Authorizer} {call : Http.Call} {log : Trace}
    {r : Except Stop Http.Response} : (c.send a call).Yields log r ↔
      (∃ e, a.headerValue.Yields log (.error (.error e)) ∧ r = .error (.error e)) ∨
      ∃ header log₁ log₂ sent, log = log₁ ++ log₂ ∧ a.headerValue.Yields log₁ (.ok header) ∧
        (Http.exchange (call.authorize header)).Yields log₂ (.ok sent) ∧
        r = sent.mapError fun e => .error (.sendFailed c.registryUrl e.fault) := by
  constructor
  · intro hsend
    rcases Session.yields_bind_iff.1 hsend with ⟨header, log₁, rest, rfl, hh, h⟩ | ⟨stop, rfl, h⟩
    · rcases Session.yields_bind_iff.1 h with ⟨sent, log₂, log₃, rfl, hs, hr⟩ | ⟨stop, _, hs⟩
      · refine .inr ⟨header, log₁, log₂, sent, ?_⟩
        cases sent with
        | error e =>
          obtain ⟨rfl, rfl⟩ := Session.yields_fail_iff.1 hr
          exact ⟨by rw [List.append_nil], hh, hs, rfl⟩
        | ok response =>
          obtain ⟨rfl, rfl⟩ := Session.yields_done_iff.1 hr
          exact ⟨by rw [List.append_nil], hh, hs, rfl⟩
      · exact (Http.stopsFor_exchange _ _ _ hs).elim
    · cases stop with
      | error e => exact .inl ⟨e, h, rfl⟩
      | pageLimit => exact absurd rfl (a.stopsFor_headerValue _ _ h)
  · rintro (⟨e, h, rfl⟩ | ⟨header, log₁, log₂, sent, rfl, hh, hs, rfl⟩)
    · exact h.bind_error
    · refine hh.bind ?_
      rw [← List.append_nil log₂]
      refine hs.bind ?_
      cases sent with
      | error e => exact Session.yields_fail_iff.2 ⟨rfl, rfl⟩
      | ok response => exact Session.yields_done_iff.2 ⟨rfl, rfl⟩

theorem nextPage_eq_error_iff {url : Url} {visited : List Url} {r : Http.Response}
    {e : CatalogError} : nextPage url visited r = .error e ↔
      ∃ link fault, Link.next? r.reply.headers = some link ∧ url.join link = .error fault ∧
        e = .badPageLink url link fault := by
  rw [nextPage]
  cases Link.next? r.reply.headers with
  | none => simp
  | some link => cases h : url.join link <;> simp [h, eq_comm]

theorem nextPage_eq_none_iff {p : Page} {visited : List Url} :
    nextPage p.url visited p.response = .ok none ↔
      p.next? = none ∨ ∃ u ∈ visited, p.next? = some (.ok u) := by
  rw [nextPage, Page.next?]
  cases Link.next? p.response.reply.headers with
  | none => simp
  | some link => cases h : p.url.join link <;> simp [h]

theorem nextPage_eq_some_iff {p : Page} {visited : List Url} {next : Url} :
    nextPage p.url visited p.response = .ok (some next) ↔
      p.next? = some (.ok next) ∧ next ∉ visited := by
  rw [nextPage, Page.next?]
  cases Link.next? p.response.reply.headers with
  | none => simp
  | some link =>
    cases h : p.url.join link with
    | error fault => simp [h]
    | ok u =>
      by_cases hu : u ∈ visited
      · simp only [h, Option.map_some, List.contains_iff_mem, hu, if_true, Except.ok.injEq,
          Option.some.injEq]
        exact iff_of_false nofun fun ⟨heq, hnext⟩ => hnext (heq ▸ hu)
      · simp only [h, Option.map_some, List.contains_iff_mem, hu, if_false, Except.ok.injEq,
          Option.some.injEq]
        exact ⟨fun heq => ⟨heq, heq ▸ hu⟩, fun h => h.1⟩

theorem Page.Fetched.yields_send {a : Authorizer} {p : Page} (h : p.Fetched a) (c : Client) :
    (c.send a (Http.Call.plain .get p.url)).Yields p.log (.ok p.response) :=
  yields_send_iff.2 (.inr ⟨_, _, _, _, rfl, h.authorized, h.sent, rfl⟩)

/-- What listing does with a response. -/
def afterResponse (c : Client) (a : Authorizer) (limit : Nat) (visited : List Url) (url : Url)
    (response : Http.Response) : Session (List String) := do
  let tags ← Session.ofExcept (pageTags response)
  match ← Session.ofExcept (nextPage url (url :: visited) response) with
  | none => return tags
  | some next => return tags ++ (← c.listFrom a limit (url :: visited) next)

theorem listFrom_succ (c : Client) (a : Authorizer) (limit : Nat) (visited : List Url)
    (url : Url) : c.listFrom a (limit + 1) visited url =
      c.send a (Http.Call.plain .get url) >>= c.afterResponse a limit visited url := rfl

theorem afterResponse_of_error {c : Client} {a : Authorizer} {limit : Nat} {visited : List Url}
    {url : Url} {response : Http.Response} {e : CatalogError} (h : pageTags response = .error e) :
    c.afterResponse a limit visited url response = .raise e := by
  rw [afterResponse, h]
  rfl

/-- After the response of a page that was fetched, listing fails at its link, ends, or goes on at
a page that was not asked for before. -/
theorem Page.Fetched.yields_afterResponse_iff {c : Client} {a : Authorizer} {limit : Nat}
    {visited : List Url} {p : Page} (h : p.Fetched a) {log : Trace}
    {r : Except Stop (List String)} :
    (c.afterResponse a limit visited p.url p.response).Yields log r ↔
      (∃ link fault, Link.next? p.response.reply.headers = some link ∧
        p.url.join link = .error fault ∧ log = [] ∧
          r = .error (.error (.badPageLink p.url link fault))) ∨
      (p.next? = none ∨ ∃ u ∈ p.url :: visited, p.next? = some (.ok u)) ∧
        log = [] ∧ r = .ok p.tags ∨
      ∃ next r', p.next? = some (.ok next) ∧ next ∉ p.url :: visited ∧
        (c.listFrom a limit (p.url :: visited) next).Yields log r' ∧ r = r'.map (p.tags ++ ·) := by
  have ht := pageTags_eq_ok_iff.2 ⟨h.succeeded, h.read⟩
  have hafter : c.afterResponse a limit visited p.url p.response =
      (Session.ofExcept (nextPage p.url (p.url :: visited) p.response) >>= fun next =>
        match next with
        | none => pure p.tags
        | some next =>
          c.listFrom a limit (p.url :: visited) next >>= fun rest => pure (p.tags ++ rest)) := by
    rw [afterResponse, ht]
    rfl
  rw [hafter]
  constructor
  · intro hy
    cases hn : nextPage p.url (p.url :: visited) p.response with
    | error e =>
      rw [hn] at hy
      obtain ⟨rfl, rfl⟩ := Session.yields_fail_iff.1 hy
      obtain ⟨link, fault, hlink, hjoin, rfl⟩ := nextPage_eq_error_iff.1 hn
      exact .inl ⟨link, fault, hlink, hjoin, rfl, rfl⟩
    | ok next =>
      rw [hn] at hy
      cases next with
      | none =>
        obtain ⟨rfl, rfl⟩ := Session.yields_done_iff.1 hy
        exact .inr (.inl ⟨nextPage_eq_none_iff.1 hn, rfl, rfl⟩)
      | some next =>
        obtain ⟨r', hrest, rfl⟩ := Session.yields_bind_pure_iff.1 hy
        obtain ⟨hnext, hnew⟩ := nextPage_eq_some_iff.1 hn
        exact .inr (.inr ⟨next, r', hnext, hnew, hrest, rfl⟩)
  · rintro (⟨link, fault, hlink, hjoin, rfl, rfl⟩ | ⟨hlast, rfl, rfl⟩ |
      ⟨next, r', hnext, hnew, hrest, rfl⟩)
    · rw [nextPage_eq_error_iff.2 ⟨link, fault, hlink, hjoin, rfl⟩]
      exact .fail _
    · rw [nextPage_eq_none_iff.2 hlast]
      exact .done _
    · rw [nextPage_eq_some_iff.2 ⟨hnext, hnew⟩]
      exact Session.yields_bind_pure_iff.2 ⟨r', hrest, rfl⟩

theorem PageFails.yields_listFrom {c : Client} {a : Authorizer} {url : Url} {log : Trace}
    {e : CatalogError} (h : PageFails c a url log e) (limit : Nat) (visited : List Url) :
    (c.listFrom a (limit + 1) visited url).Yields log (.error (.error e)) := by
  rw [listFrom_succ]
  cases h with
  | authorization hh => exact (yields_send_iff.2 (.inl ⟨e, hh, rfl⟩)).bind_error
  | sending hh hs => exact (yields_send_iff.2 (.inr ⟨_, _, _, _, rfl, hh, hs, rfl⟩)).bind_error
  | @status header log log' response _ hh hs hstatus he =>
    rw [← List.append_nil (log ++ log')]
    refine (yields_send_iff.2 (.inr ⟨_, _, _, _, rfl, hh, hs, rfl⟩)).bind ?_
    rw [afterResponse_of_error (pageTags_eq_error_iff.2 (.inl ⟨hstatus, he⟩))]
    exact .fail _
  | @body header log log' response hh hs hstatus hbody =>
    rw [← List.append_nil (log ++ log')]
    refine (yields_send_iff.2 (.inr ⟨_, _, _, _, rfl, hh, hs, rfl⟩)).bind ?_
    rw [afterResponse_of_error (pageTags_eq_error_iff.2 (.inr ⟨hstatus, hbody, rfl⟩))]
    exact .fail _
  | @link p link fault hp hu hlink hjoin =>
    subst hu
    rw [← List.append_nil p.log]
    exact (hp.yields_send c).bind
      (hp.yields_afterResponse_iff.2 (.inl ⟨link, fault, hlink, hjoin, rfl, rfl⟩))

/-- A response is that of a page that was fetched, or makes its page fail. -/
theorem fetched_or_fails (c : Client) {a : Authorizer} {url : Url} {header : Option String}
    {log log' : Trace} {response : Http.Response} (h : a.headerValue.Yields log (.ok header))
    (h' : (Http.exchange ((Http.Call.plain .get url).authorize header)).Yields log'
      (.ok (.ok response))) :
    (∃ p : Page, p.Fetched a ∧ p.url = url ∧ p.response = response ∧ p.log = log ++ log') ∨
      ∃ e, pageTags response = .error e ∧ PageFails c a url (log ++ log') e := by
  cases ht : pageTags response with
  | error e =>
    refine .inr ⟨e, rfl, ?_⟩
    rcases pageTags_eq_error_iff.1 ht with ⟨hstatus, he⟩ | ⟨hstatus, hbody, rfl⟩
    · exact .status h h' hstatus he
    · exact .body h h' hstatus hbody
  | ok tags =>
    obtain ⟨hstatus, htags⟩ := pageTags_eq_ok_iff.1 ht
    exact .inl ⟨⟨url, header, response, tags, log, log'⟩, ⟨h, h', hstatus, htags⟩, rfl, rfl, rfl⟩

/-- **Listing on from a URL** either fails at its page, or takes the tags of the page and ends, or
goes on at a page that was not asked for before. -/
theorem yields_listFrom_succ {c : Client} {a : Authorizer} {limit : Nat} {visited : List Url}
    {url : Url} {log : Trace} {r : Except Stop (List String)} :
    (c.listFrom a (limit + 1) visited url).Yields log r ↔
      (∃ e, PageFails c a url log e ∧ r = .error (.error e)) ∨
      ∃ p : Page, p.Fetched a ∧ p.url = url ∧
        ((p.next? = none ∨ ∃ u ∈ url :: visited, p.next? = some (.ok u)) ∧
          log = p.log ∧ r = .ok p.tags ∨
        ∃ next rest r', p.next? = some (.ok next) ∧ next ∉ url :: visited ∧ log = p.log ++ rest ∧
          (c.listFrom a limit (url :: visited) next).Yields rest r' ∧
          r = r'.map (p.tags ++ ·)) := by
  constructor
  · intro h
    rw [listFrom_succ] at h
    rcases Session.yields_bind_iff.1 h with ⟨response, log', rest, rfl, hsend, hafter⟩ |
      ⟨stop, rfl, hsend⟩
    · rcases yields_send_iff.1 hsend with ⟨e, _, hr⟩ | ⟨header, log₁, log₂, sent, rfl, hh, hs, hr⟩
      · nomatch hr
      · cases sent with
        | error e => nomatch hr
        | ok response =>
          cases hr
          rcases fetched_or_fails c hh hs with ⟨p, hp, rfl, rfl, hlog⟩ | ⟨e, he, hfails⟩
          · rw [← hlog]
            rcases hp.yields_afterResponse_iff.1 hafter with
              ⟨link, fault, hlink, hjoin, rfl, rfl⟩ | ⟨hlast, rfl, rfl⟩ |
              ⟨next, r', hnext, hnew, hrest, rfl⟩
            · rw [List.append_nil]
              exact .inl ⟨_, .link hp rfl hlink hjoin, rfl⟩
            · rw [List.append_nil]
              exact .inr ⟨p, hp, rfl, .inl ⟨hlast, rfl, rfl⟩⟩
            · exact .inr ⟨p, hp, rfl, .inr ⟨next, rest, r', hnext, hnew, rfl, hrest, rfl⟩⟩
          · rw [afterResponse_of_error he] at hafter
            obtain ⟨rfl, rfl⟩ := Session.yields_fail_iff.1 hafter
            rw [List.append_nil]
            exact .inl ⟨e, hfails, rfl⟩
    · rcases yields_send_iff.1 hsend with ⟨e, hh, hr⟩ | ⟨header, log₁, log₂, sent, rfl, hh, hs, hr⟩
      · cases hr
        exact .inl ⟨e, .authorization hh, rfl⟩
      · cases sent with
        | error e =>
          cases hr
          exact .inl ⟨_, .sending hh hs, rfl⟩
        | ok response => nomatch hr
  · rintro (⟨e, hfails, rfl⟩ | ⟨p, hp, rfl, ⟨hlast, rfl, rfl⟩ |
      ⟨next, rest, r', hnext, hnew, rfl, hrest, rfl⟩⟩)
    · exact hfails.yields_listFrom limit visited
    · rw [listFrom_succ, ← List.append_nil p.log]
      exact (hp.yields_send c).bind
        (hp.yields_afterResponse_iff.2 (.inr (.inl ⟨hlast, rfl, rfl⟩)))
    · rw [listFrom_succ]
      exact (hp.yields_send c).bind
        (hp.yields_afterResponse_iff.2 (.inr (.inr ⟨next, r', hnext, hnew, hrest, rfl⟩)))

end Client

end TagCatalog
