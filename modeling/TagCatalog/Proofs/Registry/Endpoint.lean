import TagCatalog.Proofs.Registry.Manifest
import TagCatalog.Proofs.Registry.Wire
import TagCatalog.Proofs.Url.Mark

/-!
# Where a registry is asked

The URL of a request is the base URL of a connection with the path of an endpoint put behind its
text. A valid base URL may have a query or a fragment, and then the path of the endpoint becomes
part of it. Without them, the path of every request ends in the path of the endpoint, and all of
them begin alike.

* `Client.Asks`: where a client asks to probe its registry, to list a repository and to look up a
  digest;
* `Client.asks_of_endpoint`: it asks at its endpoints;
* `Connection.exists_front`: what stands in front of the endpoints of a registry;
* **`Connection.asks_below`**: where a valid connection leads.
-/

namespace TagCatalog

open Url

/-! ## Requests -/

/-- The first HEAD request of a trace. -/
def Trace.firstHead? (t : Trace) : Option Http.Request := t.requests.find? (·.method == .head)

theorem Event.NotHead.method_ne {e : Event} {request : Http.Request} (h : e.NotHead)
    (hrequest : e.request? = some request) : (request.method == .head) = false := by
  rw [Event.NotHead, Event.isHead, hrequest] at h
  exact h

theorem Trace.firstHead?_eq_none {log : Trace} (h : ∀ e ∈ log, e.NotHead) :
    Trace.firstHead? log = none := by
  refine List.find?_eq_none.2 fun request hmem => ?_
  obtain ⟨e, he, hrequest⟩ := List.mem_filterMap.1 hmem
  rw [(h e he).method_ne hrequest]
  nofun

theorem Trace.firstHead?_append {before after : Trace} {request : Http.Request}
    {answer : Http.Answer} (h : ∀ e ∈ before, e.NotHead) (hmethod : request.method = .head) :
    Trace.firstHead? (before ++ .exchanged request answer :: after) = some request := by
  have hbefore := Trace.firstHead?_eq_none h
  rw [Trace.firstHead?, Trace.requests] at hbefore
  have hafter : (.exchanged request answer :: after : Trace).filterMap Event.request? =
      request :: after.filterMap Event.request? := rfl
  rw [Trace.firstHead?, Trace.requests, List.filterMap_append, List.find?_append, hbefore, hafter,
    List.find?_cons_of_pos (by rw [hmethod]; rfl)]
  rfl

namespace Client

variable {c : Client} {n : RepositoryName} {tag : String} {log : Trace} {request : Http.Request}

theorem exists_endpoint_of_yields_probe {r : Except Stop ChallengeSet} (h : c.probe.Yields log r)
    (hrequest : request ∈ (Trace.requests log).head?) :
    ∃ url, c.endpoint "/v2/" = .ok url ∧ request.url = url.onWire := by
  obtain ⟨_, -, rfl, -⟩ | ⟨url, sent, hparse, hs, -⟩ := exists_sent_of_yields_probe h
  · nomatch hrequest
  · refine ⟨url, readUrl_eq_ok_iff.2 hparse, ?_⟩
    obtain ⟨rfl, -⟩ | ⟨-, answer, rest, rfl⟩ := Http.nil_or_first_of_yields hs
    · nomatch hrequest
    · cases hrequest
      exact Http.withUserMoved_request_url _

theorem exists_endpoint_of_yields_tagDigest {a : Authorizer} {repository : String}
    {r : Except Stop Digest} (h : (c.tagDigest a repository tag).Yields log r)
    (hrequest : request ∈ Trace.firstHead? log) :
    ∃ url, c.endpoint (manifestPath repository tag) = .ok url ∧ request.url = url.onWire := by
  obtain ⟨-, hlog⟩ | ⟨url, before, request', answer, after, hurl, rfl, hbefore, hmethod, hwire⟩ :=
    yields_tagDigest_cases h
  · rw [Trace.firstHead?_eq_none hlog] at hrequest
    nomatch hrequest
  · rw [Trace.firstHead?_append hbefore hmethod] at hrequest
    cases hrequest
    exact ⟨url, hurl, hwire⟩

/-! ## Where a client asks -/

/-- Whatever the world, what a client asks its registry for, and where, is in `P`: the first request
of a probe, the request for the first page of a listing, and the first HEAD of a digest's look-up,
each with the path of its endpoint. -/
structure Asks (c : Client) (n : RepositoryName) (tag : String) (P : String → Url → Prop) :
    Prop where
  probe : ∀ (w : World) t r log, c.probe.run w t = (r, t ++ log) →
    ∀ request ∈ (Trace.requests log).head?, P "/v2/" request.url
  list : ∀ (w : World) t a limit r log, (c.listTags a limit n.text).run w t = (r, t ++ log) →
    ∃ asks, c.Walk a n.text asks ∧ log = asks.flatMap Ask.log ∧
      ∀ k ∈ asks.head?, ∀ request ∈ k.request?, P (listingPath n.text) request.url
  digest : ∀ (w : World) t a r log, (c.tagDigest a n.text tag).run w t = (r, t ++ log) →
    ∀ request ∈ Trace.firstHead? log, P (manifestPath n.text tag) request.url

/-- The paths of the endpoints. -/
def endpointPaths (n : RepositoryName) (tag : String) : List String :=
  ["/v2/", listingPath n.text, manifestPath n.text tag]

/-- A client asks at its endpoints. -/
theorem asks_of_endpoint {P : String → Url → Prop}
    (hP : ∀ path ∈ endpointPaths n tag, ∀ u,
      c.endpoint path = .ok u → P path u.onWire) : c.Asks n tag P where
  probe w t r log hrun request hrequest := by
    obtain ⟨url, hurl, hwire⟩ :=
      exists_endpoint_of_yields_probe (Session.yields_of_run hrun) hrequest
    rw [hwire]
    exact hP _ (by simp [endpointPaths]) url hurl
  list w t a limit r log hrun := by
    obtain ⟨asks, hwalk, hlog, -⟩ := exists_walk (Session.yields_of_run hrun)
    refine ⟨asks, hwalk, hlog, fun k hk request hrequest => ?_⟩
    rw [((hwalk.made k (List.mem_of_mem_head? hk)).request_eq hrequest).2]
    exact hP _ (by simp [endpointPaths]) k.url (hwalk.first k hk)
  digest w t a r log hrun request hrequest := by
    obtain ⟨url, hurl, hwire⟩ :=
      exists_endpoint_of_yields_tagDigest (Session.yields_of_run hrun) hrequest
    rw [hwire]
    exact hP _ (by simp [endpointPaths]) url hurl

theorem exists_pieces_of_mem_endpointPaths {path : String} (htag : Path.IsPlain tag.toList)
    (h : path ∈ endpointPaths n tag) : ∃ first rest, (∀ s ∈ first :: rest, Path.IsPlain s) ∧
      path = String.ofList ((first :: rest).flatMap ('/' :: ·)) := by
  rw [endpointPaths, List.mem_cons, List.mem_cons, List.mem_singleton] at h
  obtain rfl | rfl | rfl := h
  · exact ⟨"v2".toList, [[]], by decide, rfl⟩
  · exact ⟨_, _, fun s hs => isPlain_of_mem_listingPieces hs, listingPath_eq_ofList n⟩
  · refine ⟨"v2".toList, manifestPieces n ++ [tag.toList], ?_, ?_⟩
    · rw [← List.cons_append, List.forall_mem_append, List.forall_mem_singleton]
      exact ⟨fun s hs => isPlain_of_mem_manifestPieces hs, htag⟩
    · rw [manifestPath_eq_ofList, ← String.toList_inj]
      simp

end Client

/-! ## Where a connection leads -/

namespace Connection

open Client

variable {c : Connection} {base : Url}

/-- **What stands in front of the endpoints** of a registry is the same for all of them. -/
theorem exists_front (hvalid : c.validate = .ok ())
    (hbase : Url.parse (Text.trimmed c.baseUrl) = .ok base) (hquery : base.query = none)
    (hfragment : base.fragment = none) : ∃ front : String, ∀ first rest u,
      (∀ s ∈ first :: rest, Path.IsPlain s) →
      c.client.endpoint (String.ofList ((first :: rest).flatMap ('/' :: ·))) = .ok u →
      u.pathText = front ++ String.ofList ((first :: rest).flatMap ('/' :: ·)) ∧
        u.query = none := by
  obtain ⟨url, hurl, hhttp⟩ := exists_parse_of_validate hvalid
  cases hbase.symm.trans hurl
  obtain ⟨registry, hregistry, hhttp'⟩ := exists_parse_client hvalid
  obtain ⟨root, hroot⟩ := Url.exists_root hregistry hhttp'
    (not_endsPath_registryUrl hbase hhttp hquery hfragment)
  refine ⟨String.join (root.map fun s => "/" ++ s), fun first rest u hplain hu => ?_⟩
  have hpath : String.ofList ((first :: rest).flatMap ('/' :: ·)) =
      "/" ++ String.ofList (first ++ rest.flatMap ('/' :: ·)) := by
    rw [← String.toList_inj]
    simp
  rw [hpath, endpoint, readUrl_eq_ok_iff] at hu
  obtain ⟨hsegments, hq⟩ := hroot _ u hu
  obtain ⟨hpieces, hnil⟩ := piecesBehind_of_plain hplain
  rw [String.toList_ofList, hpieces, Path.extend_of_isPlain hplain] at hsegments
  rw [String.toList_ofList, hnil] at hq
  refine ⟨?_, hq⟩
  rw [pathText, hsegments, ← join_map_ofList, ← String.toList_inj]
  simp [String.toList_join]

theorem exists_mark_registryUrl (hbase : Url.parse (Text.trimmed c.baseUrl) = .ok base)
    (hhttp : base.isHttp) (htail : base.query ≠ none ∨ base.fragment ≠ none) :
    ∃ ch ∈ c.client.registryUrl.toList, endsPath ch := by
  obtain ⟨ch, hch, hends⟩ := exists_mark_of_parse hbase hhttp htail
  obtain ⟨z, hz, hsplit⟩ := exists_append_normalizedUrl c.baseUrl
  rw [hsplit, String.toList_append, List.mem_append] at hch
  refine ⟨ch, hch.resolve_right fun hmem => ?_, hends⟩
  have hfiller : endsPath ch = false := forall_isFiller (P := fun ch => endsPath ch = false)
    (by decide) (by decide) (by decide) (hz ch hmem)
  rw [hfiller] at hends
  nomatch hends

/-- **Where a valid connection leads.** If its base URL has no query and no fragment, its client
asks for every endpoint at a path that ends in the endpoint's own, behind one and the same front; a
tag is made of letters, digits, dashes and underscores here. If its base URL has a query or a
fragment, its client asks for everything at the path of the base URL. -/
theorem asks_below (c : Connection) {base : Url} (hvalid : c.validate = .ok ())
    (hbase : Url.parse (Text.trimmed c.baseUrl) = .ok base) :
    Client.ofUrl c.registryUrl = .ok c.client ∧
    (base.query = none → base.fragment = none → ∃ front : String, ∀ (n : RepositoryName) tag,
      (∀ ch ∈ tag.toList, isDirectoryChar ch) →
      c.client.Asks n tag fun path u => u.pathText = front ++ path ∧ u.query = none) ∧
    (base.query ≠ none ∨ base.fragment ≠ none → ∀ (n : RepositoryName) tag,
      c.client.Asks n tag fun _ u => u.path = base.path) := by
  refine ⟨ofUrl_registryUrl hvalid, fun hquery hfragment => ?_, fun htail n tag => ?_⟩
  · obtain ⟨front, hfront⟩ := exists_front hvalid hbase hquery hfragment
    refine ⟨front, fun n tag htag => asks_of_endpoint fun path hpath u hu => ?_⟩
    obtain ⟨first, rest, hplain, rfl⟩ :=
      exists_pieces_of_mem_endpointPaths (isPlain_of_isDirectoryChar htag) hpath
    exact hfront first rest u hplain hu
  · obtain ⟨url, hurl, hhttp⟩ := exists_parse_of_validate hvalid
    cases hbase.symm.trans hurl
    obtain ⟨z, -, hsplit⟩ := exists_append_normalizedUrl c.baseUrl
    have hmark := exists_mark_registryUrl hbase hhttp htail
    rw [hsplit] at hbase
    refine asks_of_endpoint fun path _ u hu => ?_
    rw [endpoint, readUrl_eq_ok_iff] at hu
    exact (path_parse_append_of_mark hmark hbase hu hhttp).symm

/-- The paths that a session asks for, where every reply is empty. -/
def askedPaths {α : Type} (s : Session α) : List String :=
  (Trace.requests (s.run ⟨fun _ _ => .reply ⟨200, [], .whole []⟩, turningWorld.store⟩ []).2).map
    fun request => request.url.pathText

/-- The connection of a registry at a host leads to its endpoints. -/
theorem asks_below_host : Catalog.hostCatalog.connection.validate = .ok () ∧
    Url.parse (Text.trimmed Catalog.hostCatalog.connection.baseUrl) = .ok Catalog.hostUrl ∧
    (∃ front : String, Catalog.hostCatalog.connection.client.Asks Catalog.svcName "v1"
      fun path u => u.pathText = front ++ path ∧ u.query = none) ∧
    askedPaths Catalog.hostCatalog.connection.client.probe = ["/v2/"] ∧
    askedPaths (Catalog.hostCatalog.connection.client.listTags svcAuthorizer 1 "svc") =
      ["/v2/svc/tags/list"] ∧
    askedPaths (Catalog.hostCatalog.connection.client.tagDigest svcAuthorizer "svc" "v1") =
      ["/v2/svc/manifests/v1"] := by
  obtain ⟨-, hbelow, -⟩ := asks_below Catalog.hostCatalog.connection Catalog.hostCatalog.valid
    Catalog.parse_hostCatalog
  obtain ⟨front, hfront⟩ := hbelow rfl rfl
  exact ⟨Catalog.hostCatalog.valid, Catalog.parse_hostCatalog,
    ⟨front, hfront Catalog.svcName "v1" (by decide)⟩, by decide +kernel, by decide +kernel,
    by decide +kernel⟩

/-- A connection with a fragment in its base URL. -/
def markedConnection : Connection := .anonymous "http://r.test#eu"

/-- This connection is valid, and its client asks for nothing but the root of the host. -/
theorem askedPaths_marked : markedConnection.validate = .ok () ∧
    Client.ofUrl markedConnection.registryUrl = .ok markedConnection.client ∧
    askedPaths markedConnection.client.probe = ["/"] ∧
    askedPaths (markedConnection.client.listTags svcAuthorizer 1 "svc") = ["/"] ∧
    askedPaths (markedConnection.client.tagDigest svcAuthorizer "svc" "v1") = ["/"] ∧
    ¬ ∃ front, "/" = front ++ "/v2/" := by
  refine ⟨by decide +kernel, by decide +kernel, by decide +kernel, by decide +kernel,
    by decide +kernel, ?_⟩
  rintro ⟨front, h⟩
  have hlength := congrArg String.length h
  rw [String.length_append] at hlength
  have hslash : "/".length = 1 := by decide
  have hprobe : "/v2/".length = 4 := by decide
  omega

end Connection

end TagCatalog
