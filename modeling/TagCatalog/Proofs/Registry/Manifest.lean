import TagCatalog.Catalog
import TagCatalog.Proofs.Registry.Address
import TagCatalog.Proofs.Registry.Denial
import TagCatalog.Proofs.Registry.Method
import TagCatalog.Proofs.Url.Segment

/-!
# Where manifests are asked for

A tag is put at the end of a manifest's URL as it is. The request asks for the tag if it is literal,
and then for no other tag and no other repository's; every other tag asks for something else.

* `Client.AsksFor`: a URL asks for a tag of a repository;
* `Client.AsksFor.inj`: it asks for one tag only;
* `Connection.exists_root`: the paths of all manifests of a registry;
* `Catalog.yields_tagDigest_cases`: how the look-up of a digest goes;
* **`Catalog.asksFor_of_tagDigest`**: which tags are asked for.
-/

namespace TagCatalog

open Url

/-! ## URLs of manifests -/

namespace Client

/-- The path of a repository's manifests, in pieces. -/
def manifestPieces (n : RepositoryName) : List (List Char) :=
  Text.splitAll '/' n.text.toList ++ ["manifests".toList]

/-- The segments in front of a repository's manifests. -/
def manifestsAt (root : List String) (n : RepositoryName) : List String :=
  root ++ "v2" :: (manifestPieces n).map String.ofList

/-- The last segment of the path is decoded to the tag. -/
def EndsIn (tag : String) (u : Url) : Prop :=
  ∃ init last, u.path = .segments (init ++ [last]) ∧
    percentDecode last.toList = Text.Utf8.encode tag.toList

/-- The URL asks for a tag of a repository: behind the repository's manifests it has the tag, as
one segment and perhaps encoded, and nothing else. -/
structure AsksFor (root : List String) (n : RepositoryName) (tag : String) (u : Url) : Prop where
  query : u.query = none
  path : ∃ last, u.path = .segments (manifestsAt root n ++ [last]) ∧
    percentDecode last.toList = Text.Utf8.encode tag.toList

variable {root : List String} {n n' : RepositoryName} {tag tag' : String} {u u' : Url}

/-- A path asks for one tag only, of one repository. -/
theorem AsksFor.inj (h : AsksFor root n tag u) (h' : AsksFor root n' tag' u')
    (hpath : u.path = u'.path) : n = n' ∧ tag = tag' := by
  obtain ⟨last, hu, htag⟩ := h.path
  obtain ⟨last', hu', htag'⟩ := h'.path
  rw [hu, hu', Path.segments.injEq] at hpath
  obtain ⟨hat, hlast⟩ := List.append_inj' hpath rfl
  cases hlast
  constructor
  · have hpieces : manifestPieces n = manifestPieces n' :=
      List.map_injective_iff.2 (fun _ _ => String.ofList_inj.1)
        (List.cons_inj_right _ |>.1 (List.append_cancel_left hat))
    have hnames := Text.splitAll_injective '/' (List.append_cancel_right hpieces)
    exact RepositoryName.text_injective (String.toList_inj.1 hnames)
  · exact String.toList_inj.1 (Text.Utf8.encode_injective (htag.symm.trans htag'))

theorem isPlain_of_mem_manifestPieces {s : List Char} (h : s ∈ "v2".toList :: manifestPieces n) :
    Path.IsPlain s :=
  RepositoryName.isPlain_of_mem_append ["v2".toList] ["manifests".toList] (by decide) (by decide) h

theorem manifestPath_eq_ofList (n : RepositoryName) (tag : String) :
    manifestPath n.text tag = "/" ++ String.ofList
      ("v2".toList ++ (manifestPieces n).flatMap ('/' :: ·) ++ '/' :: tag.toList) := by
  rw [← String.toList_inj, manifestPieces, List.flatMap_append, Text.flatMap_splitAll, manifestPath]
  simp

end Client

/-! ## Manifests of a registry -/

namespace Connection

open Client

variable {c : Connection} {base : Url}

theorem not_endsPath_registryUrl (hbase : Url.parse (Text.trimmed c.baseUrl) = .ok base)
    (hhttp : base.isHttp) (hquery : base.query = none) (hfragment : base.fragment = none) :
    ∀ ch ∈ c.client.registryUrl.toList, endsPath ch = false := by
  intro ch hch
  obtain ⟨z, -, hsplit⟩ := exists_append_normalizedUrl c.baseUrl
  refine not_endsPath_of_parse hbase hhttp hquery hfragment ch ?_
  rw [hsplit, String.toList_append]
  exact List.mem_append_left _ hch

/-- **The paths of all manifests of a registry**, below the root that is probed. -/
theorem exists_root (hvalid : c.validate = .ok ())
    (hbase : Url.parse (Text.trimmed c.baseUrl) = .ok base) (hquery : base.query = none)
    (hfragment : base.fragment = none) : ∃ root : List String,
      (∀ probe, Url.parse c.client.probeText = .ok probe →
        probe.path = .segments (root ++ ["v2", ""])) ∧
      ∀ (n : RepositoryName) tag u, c.client.endpoint (manifestPath n.text tag) = .ok u →
        u.path = .segments (Url.Path.extend false (manifestsAt root n) (piecesBehind tag.toList)) ∧
        u.query = (tail true (tailPart (kept tag.toList))).1 := by
  obtain ⟨url, hurl, hhttp⟩ := exists_parse_of_validate hvalid
  cases hbase.symm.trans hurl
  obtain ⟨registry, hregistry, hhttp'⟩ := exists_parse_client hvalid
  obtain ⟨root, hroot⟩ := Url.exists_root hregistry hhttp'
    (not_endsPath_registryUrl hbase hhttp hquery hfragment)
  refine ⟨root, fun probe hprobe => ?_, fun n tag u hu => ?_⟩
  · have hprobe' : Url.parse (c.client.registryUrl ++ ("/" ++ "v2/")) = .ok probe := hprobe
    obtain ⟨hpath, -⟩ := hroot "v2/" probe hprobe'
    have hpieces : piecesBehind "v2/".toList = ["v2".toList, []] := by decide
    rw [hpieces, Path.extend_of_isPlain (by decide)] at hpath
    exact hpath
  · rw [manifestPath_eq_ofList, endpoint, readUrl_eq_ok_iff] at hu
    obtain ⟨hpath, hq⟩ := hroot _ u hu
    have hplain : ∀ piece ∈ "v2".toList :: manifestPieces n, Path.IsPlain piece :=
      fun piece hpiece => isPlain_of_mem_manifestPieces hpiece
    rw [String.toList_ofList] at hpath hq
    rw [extend_piecesBehind hplain] at hpath
    rw [tailPart_kept_append hplain] at hq
    exact ⟨hpath, hq⟩

end Connection

/-! ## The look-up of a digest -/

namespace Client

variable {c : Client} {a : Authorizer} {call : Http.Call} {log : Trace}

theorem yields_send_cases {r : Except Stop Http.Response} (h : (c.send a call).Yields log r) :
    (∃ e, r = .error (.error e)) ∧ (∀ e ∈ log, e.NotHead) ∨
      ∃ before request answer after, log = before ++ .exchanged request answer :: after ∧
        (∀ e ∈ before, e.NotHead) ∧ request.method = call.method ∧
        request.url = call.url.withoutUser.withoutFragment := by
  obtain ⟨e, hh, rfl⟩ | ⟨header, log₁, log₂, sent, rfl, hh, hs, rfl⟩ := yields_send_iff.1 h
  · exact .inl ⟨⟨e, rfl⟩, a.emits_headerValue _ _ hh⟩
  · have hbefore := a.emits_headerValue _ _ hh
    obtain ⟨rfl, e, hr⟩ | ⟨-, answer, after, rfl⟩ := Http.nil_or_first_of_yields hs
    · cases hr
      rw [List.append_nil]
      exact .inl ⟨⟨_, rfl⟩, hbefore⟩
    · exact .inr ⟨log₁, _, answer, after, rfl, hbefore, Http.withUserMoved_method _,
        Http.withUserMoved_request_url _⟩

/-- The look-up of a digest fails before it asks, or it asks at the URL of the manifest. -/
theorem yields_tagDigest_cases {repository tag : String} {r : Except Stop Digest}
    (h : (c.tagDigest a repository tag).Yields log r) :
    (∃ e, r = .error (.error e)) ∧ (∀ e ∈ log, e.NotHead) ∨
      ∃ url before request answer after, c.endpoint (manifestPath repository tag) = .ok url ∧
        log = before ++ .exchanged request answer :: after ∧ (∀ e ∈ before, e.NotHead) ∧
        request.method = .head ∧ request.url = url.withoutUser.withoutFragment := by
  cases hurl : c.endpoint (manifestPath repository tag) with
  | error e =>
    rw [tagDigest, hurl] at h
    obtain ⟨rfl, rfl⟩ := Session.yields_fail_iff.1 h
    exact .inl ⟨⟨e, rfl⟩, List.forall_mem_nil _⟩
  | ok url =>
    rw [tagDigest_eq hurl] at h
    obtain ⟨response, log₁, log₂, rfl, hsend, hend⟩ | ⟨stop, rfl, hsend⟩ :=
      Session.yields_bind_iff.1 h
    · obtain ⟨rfl, -⟩ := Session.yields_ofExcept_iff.1 hend
      rw [List.append_nil]
      obtain ⟨⟨_, hr⟩, -⟩ | ⟨before, request, answer, after, hsent⟩ := yields_send_cases hsend
      · cases hr
      · exact .inr ⟨url, before, request, answer, after, rfl, hsent⟩
    · obtain ⟨⟨e, hr⟩, hlog⟩ | ⟨before, request, answer, after, hsent⟩ := yields_send_cases hsend
      · cases hr
        exact .inl ⟨⟨e, rfl⟩, hlog⟩
      · exact .inr ⟨url, before, request, answer, after, rfl, hsent⟩

end Client

namespace Catalog

open Client

variable {c : Catalog} {repository tag : String} {n : RepositoryName} {log : Trace}

/-- **How the look-up of a digest goes** for a name that is accepted: it fails before it asks for a
manifest, or it asks at the URL of the manifest. -/
theorem yields_tagDigest_cases {r : Except Stop Digest}
    (hname : Repository.readName (c.connection.qualify repository) = .ok n)
    (h : (c.tagDigest repository tag).Yields log r) :
    (∃ e, r = .error (.error e)) ∧ (∀ e ∈ log, e.NotHead) ∨
      ∃ url before request answer after,
        c.connection.client.endpoint (manifestPath n.text tag) = .ok url ∧
        log = before ++ .exchanged request answer :: after ∧ (∀ e ∈ before, e.NotHead) ∧
        request.method = .head ∧ request.url = url.withoutUser.withoutFragment := by
  have hresolved := Repository.emits_resolve_not_isHead c.connection repository
  have haccepted : ¬ Repository.Rejects c.connection repository := by
    rintro ⟨e, he⟩
    nomatch hname.symm.trans he
  obtain ⟨handle, log₁, log₂, rfl, hhandle, hdigest⟩ | ⟨stop, rfl, hfails⟩ :=
    Session.yields_bind_iff.1 h
  · have hbefore := hresolved _ _ hhandle
    cases (readName_of_yields_resolve hhandle).symm.trans hname
    have hclient : handle.client = c.connection.client :=
      Except.ok.inj ((client_of_yields_resolve hhandle).1.symm.trans
        (Connection.ofUrl_registryUrl c.valid))
    rw [Repository.tagDigest, hclient] at hdigest
    obtain ⟨hr, hlog⟩ | ⟨url, before, request, answer, after, hurl, rfl, hlog, hrequest⟩ :=
      Client.yields_tagDigest_cases hdigest
    · exact .inl ⟨hr, List.forall_mem_append.2 ⟨hbefore, hlog⟩⟩
    · refine .inr ⟨url, log₁ ++ before, request, answer, after, hurl, ?_,
        List.forall_mem_append.2 ⟨hbefore, hlog⟩, hrequest⟩
      rw [List.append_assoc]
  · obtain ⟨e, hr, -⟩ | ⟨_, _, hr, -⟩ :=
      Repository.yields_resolve_cases c.valid haccepted hfails
    · cases hr
      exact .inl ⟨⟨e, rfl⟩, hresolved _ _ hfails⟩
    · nomatch hr

theorem isLiteral_of_endsIn {path : List String} {u : Url}
    (hu : u.path = .segments (Url.Path.extend false path (piecesBehind tag.toList)))
    (h : EndsIn tag u) : IsLiteral tag.toList := by
  obtain ⟨front, piece, hpieces⟩ :=
    (piecesBehind tag.toList).eq_nil_or_concat'.resolve_left (piecesBehind_ne_nil _)
  obtain ⟨init, hextend⟩ := Path.exists_extend_concat path front piece
  obtain ⟨init', last, hlast, hdecode⟩ := h
  rw [hu, hpieces, hextend, Path.segments.injEq] at hlast
  cases (List.append_inj' hlast rfl).2
  exact (percentDecode_spelled_iff hpieces).1 hdecode

theorem asksFor_of_isLiteral {root : List String} {u : Url}
    (hu : u.path = .segments (Url.Path.extend false (manifestsAt root n) (piecesBehind tag.toList)))
    (hquery : u.query = (tail true (tailPart (kept tag.toList))).1) (h : IsLiteral tag.toList) :
    AsksFor root n tag u where
  query := by rw [hquery, h.kept_eq, h.tailPart_eq]; rfl
  path := ⟨Path.spelled tag.toList, by rw [hu, h.piecesBehind_eq, Url.Path.extend, h.push_eq],
    h.percentDecode_spelled⟩

/-- **Which tags are asked for.** For a connection whose base URL has no query or fragment, the
look-up of a tag of an accepted repository fails before it sends a HEAD, or its first HEAD goes
below the root that is probed. It asks for the tag of the repository if the tag is literal, and then
for no other one; for any other tag, the path of its URL does not end in the tag. -/
theorem asksFor_of_tagDigest (c : Catalog) {base : Url}
    (hbase : Url.parse (Text.trimmed c.connection.baseUrl) = .ok base) (hquery : base.query = none)
    (hfragment : base.fragment = none) : ∃ root : List String,
      (∀ probe, Url.parse c.connection.client.probeText = .ok probe →
        probe.path = .segments (root ++ ["v2", ""])) ∧
      (∀ (w : World) t repository tag (n : RepositoryName) r log,
        Repository.readName (c.connection.qualify repository) = .ok n →
        (c.tagDigest repository tag).run w t = (r, t ++ log) →
        (∃ e, r = .error (.error e)) ∧ (∀ e ∈ log, e.isHead = false) ∨
          ∃ before request answer after, log = before ++ .exchanged request answer :: after ∧
            (∀ e ∈ before, e.isHead = false) ∧ request.method = .head ∧
            (IsLiteral tag.toList → AsksFor root n tag request.url) ∧
            (¬ IsLiteral tag.toList → ¬ EndsIn tag request.url)) ∧
      ∀ n n' tag tag' u u', AsksFor root n tag u → AsksFor root n' tag' u' → u.path = u'.path →
        n = n' ∧ tag = tag' := by
  obtain ⟨root, hprobe, hmanifest⟩ := Connection.exists_root c.valid hbase hquery hfragment
  refine ⟨root, hprobe, fun w t repository tag n r log hname hrun => ?_,
    fun _ _ _ _ _ _ h h' => h.inj h'⟩
  refine (yields_tagDigest_cases hname (Session.yields_of_run hrun)).imp_right ?_
  rintro ⟨url, before, request, answer, after, hurl, hlog, hbefore, hmethod, hrequest⟩
  obtain ⟨hpath, hq⟩ := hmanifest n tag url hurl
  refine ⟨before, request, answer, after, hlog, hbefore, hmethod, fun hliteral => ?_,
    fun hliteral hends => hliteral ?_⟩
  · rw [hrequest]
    exact asksFor_of_isLiteral hpath hq hliteral
  · rw [hrequest] at hends
    exact isLiteral_of_endsIn hpath hends

/-- A catalog of a registry at a host. -/
def hostCatalog : Catalog := ⟨.anonymous "http://r.test", .default, rfl⟩

/-- The URL of that registry. -/
def hostUrl : Url := ⟨"http", "", "", some (.domain "r.test"), none, .segments [""], none, none⟩

/-- A registry with one tag, `v1` of `svc`. -/
def oneTag : Server := fun _ request =>
  if request.url.path = .segments ["v2", "svc", "manifests", "v1"] then
    .reply ⟨200, [(digestHeader, "test:1")], .whole []⟩
  else if request.method = .head then .reply ⟨404, [], .whole []⟩
  else .reply ⟨200, [], .whole []⟩

/-- The name of its repository. -/
def svcName : RepositoryName := ⟨"svc", by decide⟩

/-- What happens when the digest of a tag is looked up there. -/
def lookUp (repository tag : String) : Except Stop Digest × Trace :=
  (hostCatalog.tagDigest repository tag).run (hostCatalog.world oneTag) []

/-- The digest of its tag is found: its root is probed, and the manifest is asked for. -/
def found : Except Stop Digest × Trace :=
  (.ok ⟨"test", "1"⟩,
    [.exchanged ⟨.get, { hostUrl with path := .segments ["v2", ""] }, [], none, none, ""⟩
      (.reply ⟨200, [], .whole []⟩),
    .exchanged ⟨.head, { hostUrl with path := .segments ["v2", "svc", "manifests", "v1"] }, [],
      some manifestTypes, none, ""⟩ (.reply ⟨200, [(digestHeader, "test:1")], .whole []⟩)])

theorem lookUp_v1 : lookUp "svc" "v1" = found := by decide +kernel

theorem parse_hostCatalog :
    Url.parse (Text.trimmed hostCatalog.connection.baseUrl) = .ok hostUrl := by decide +kernel

theorem readName_svc : Repository.readName (hostCatalog.connection.qualify "svc") = .ok svcName :=
  rfl

/-- The tag of that registry is literal, and it is asked for. -/
theorem asksFor_of_tagDigest_oneTag :
    Url.parse (Text.trimmed hostCatalog.connection.baseUrl) = .ok hostUrl ∧
      ∃ request ∈ Trace.requests (lookUp "svc" "v1").2, request.method = .head ∧
        AsksFor [] svcName "v1" request.url := by
  obtain ⟨root, hprobe, hrun, -⟩ :=
    asksFor_of_tagDigest hostCatalog parse_hostCatalog rfl rfl
  have hroot : root = [] := by
    have hparse : Url.parse hostCatalog.connection.client.probeText =
        .ok { hostUrl with path := .segments ["v2", ""] } := by decide +kernel
    simpa using hprobe _ hparse
  have hliteral : IsLiteral "v1".toList := Path.IsPlain.isLiteral (by decide)
  have hlookUp : (hostCatalog.tagDigest "svc" "v1").run (hostCatalog.world oneTag) [] =
      (found.1, [] ++ found.2) := lookUp_v1
  obtain ⟨⟨e, he⟩, -⟩ | ⟨before, request, answer, after, hlog, -, hmethod, hasks, -⟩ :=
    hrun (hostCatalog.world oneTag) [] "svc" "v1" svcName _ _ readName_svc hlookUp
  · nomatch he
  · rw [hroot] at hasks
    rw [lookUp_v1, hlog]
    exact ⟨parse_hostCatalog, request, by simp [Trace.requests, Event.request?], hmethod,
      hasks hliteral⟩

/-- Another tag of the same repository, and one of another repository, bring the digest of that tag:
what is asked for is not what they say. -/
theorem lookUp_oneTag_ne :
    Url.parse (Text.trimmed hostCatalog.connection.baseUrl) = .ok hostUrl ∧
      hostUrl.query = none ∧ hostUrl.fragment = none ∧
      Repository.readName (hostCatalog.connection.qualify "svc") = .ok svcName ∧
      (lookUp "svc" "v1#x").1 = .ok ⟨"test", "1"⟩ ∧
      (∀ request ∈ Trace.requests (lookUp "svc" "v1#x").2, request.method = .head →
        ¬ EndsIn "v1#x" request.url) ∧
      lookUp "svc" "v1#x" = lookUp "svc" "v1" ∧
      lookUp "other" "../../svc/manifests/v1" = lookUp "svc" "v1" := by
  have hmarked : lookUp "svc" "v1#x" = found := by decide +kernel
  have hdots : lookUp "other" "../../svc/manifests/v1" = found := by decide +kernel
  have hheads : ∀ request ∈ Trace.requests found.2, request.method = .head →
      request.url.path = .segments (["v2", "svc", "manifests"] ++ ["v1"]) := by decide
  rw [hmarked, hdots, lookUp_v1]
  refine ⟨parse_hostCatalog, rfl, rfl, readName_svc, rfl, fun request hrequest hmethod => ?_, rfl,
    rfl⟩
  rintro ⟨init, last, hpath, hlast⟩
  rw [hheads request hrequest hmethod, Path.segments.injEq] at hpath
  cases (List.append_inj' hpath rfl).2
  nomatch hlast

end Catalog

end TagCatalog
