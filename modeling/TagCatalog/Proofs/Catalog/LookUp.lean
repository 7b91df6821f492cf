import TagCatalog.Proofs.Digest.Grammar
import TagCatalog.Proofs.Registry.Denial
import TagCatalog.Proofs.Registry.Manifest

/-!
# The outcome of a digest's look-up

Before the manifest is asked for, the registry is probed and a header is negotiated. If either of
these fails there is no digest. Otherwise one call is made, and the response to it decides
everything: its status, its first digest header, and whether that is a digest. The digest is shown
as the header was.

* `Client.CarriesDigest`, `Digest.Spells`: a response with a digest, and the digest of a text;
* `Client.Refuses`: a response that denies the call;
* `Client.outcome`, `Client.outcome_eq_ok_iff`, `Client.kind_of_outcome`: what a response leads to;
* `Catalog.Negotiates`: what comes before the call;
* **`Catalog.run_tagDigest`**: a whole look-up.
-/

namespace TagCatalog

/-- A text is that of a digest: it is in the grammar, and the digest is shown as it. -/
structure Digest.Spells (text : String) (d : Digest) : Prop where
  grammar : text.toList ∈ Digest.Grammar.digest
  shown : d.text = text
  parts : text = d.algorithm ++ ":" ++ d.value
  colon : ':' ∉ d.algorithm.toList

theorem Digest.spells_iff {text : String} {d : Digest} :
    Digest.Spells text d ↔ Digest.parse text = .ok d := by
  rw [Digest.parse_eq_ok_iff]
  exact ⟨fun h => ⟨h.grammar, h.shown, h.colon⟩, fun ⟨hgrammar, hshown, hcolon⟩ =>
    ⟨hgrammar, hshown, hshown.symm, hcolon⟩⟩

namespace Client

/-- A response reports success, and its first digest header reads as a text. -/
structure CarriesDigest (response : Http.Response) (text : String) : Prop where
  success : Http.isSuccess response.reply.status
  first : (response.reply.headers.values digestHeader).head? = some text
  readable : Http.isReadable text

/-- A response denies its call. -/
def Refuses (sent : Except Http.SendError Http.Response) : Prop :=
  ∃ response, sent = .ok response ∧
    (response.reply.status = 401 ∨ response.reply.status = 403)

/-- What the call for a manifest leads to. -/
def outcome (c : Client) (repository tag : String) :
    Except Http.SendError Http.Response → Except CatalogError Digest
  | .error e => .error (.sendFailed c.registryUrl e.fault)
  | .ok response => digestOf repository tag response

variable {c : Client} {a : Authorizer} {repository tag : String} {url : Url} {d : Digest}
  {response : Http.Response} {sent : Except Http.SendError Http.Response} {e : CatalogError}

theorem digestOf_eq_ok_iff : digestOf repository tag response = .ok d ↔
    ∃ text, CarriesDigest response text ∧ Digest.Spells text d := by
  simp only [Digest.spells_iff]
  unfold digestOf
  cases hstatus : statusError? response with
  | some e =>
    have hfails : ¬ Http.isSuccess response.reply.status := by
      rw [← statusError?_eq_none_iff, hstatus]
      nofun
    exact iff_of_false nofun fun ⟨_, hcarries, _⟩ => hfails hcarries.success
  | none =>
    have hsuccess := statusError?_eq_none_iff.1 hstatus
    have hvalue : ∀ text, ((response.reply.headers.values digestHeader).head?.filter
        Http.isReadable) = some text ↔ CarriesDigest response text := fun text => by
      rw [Option.filter_eq_some_iff]
      exact ⟨fun h => ⟨hsuccess, h.1, h.2⟩, fun h => ⟨h.first, h.readable⟩⟩
    dsimp only
    cases hfirst : (response.reply.headers.values digestHeader).head?.filter Http.isReadable with
    | none =>
      refine iff_of_false nofun ?_
      rintro ⟨text, hcarries, -⟩
      nomatch hfirst.symm.trans ((hvalue text).2 hcarries)
    | some text =>
      refine mapError_eq_ok_iff.trans ⟨fun h => ⟨text, (hvalue text).1 hfirst, h⟩, ?_⟩
      rintro ⟨text', hcarries, h⟩
      cases hfirst.symm.trans ((hvalue text').2 hcarries)
      exact h

/-- A digest comes from a response that carries it. -/
theorem outcome_eq_ok_iff : c.outcome repository tag sent = .ok d ↔
    ∃ response text, sent = .ok response ∧ CarriesDigest response text ∧ Digest.Spells text d := by
  cases sent with
  | error e => exact iff_of_false nofun fun ⟨_, _, h, _⟩ => nomatch h
  | ok response =>
    refine digestOf_eq_ok_iff.trans ⟨fun ⟨text, h⟩ => ⟨response, text, rfl, h⟩, ?_⟩
    rintro ⟨_, text, ⟨⟩, h⟩
    exact ⟨text, h⟩

theorem refuses_ok_iff : Refuses (.ok response) ↔
    response.reply.status = 401 ∨ response.reply.status = 403 := by
  refine ⟨?_, fun h => ⟨response, rfl, h⟩⟩
  rintro ⟨_, ⟨⟩, h⟩
  exact h

/-- An error is one of authentication if the call was denied, and else one of transport. -/
theorem kind_of_outcome (h : c.outcome repository tag sent = .error e) :
    Refuses sent ∧ e.kind = .authentication ∨ ¬ Refuses sent ∧ e.kind = .transport := by
  cases sent with
  | error fault =>
    cases h
    exact .inr ⟨(fun ⟨_, hsent, _⟩ => nomatch hsent), rfl⟩
  | ok response =>
    rw [refuses_ok_iff]
    cases hstatus : statusError? response with
    | some e' =>
      have hsame : e' = e := by
        rw [outcome] at h
        unfold digestOf at h
        rw [hstatus] at h
        exact Except.error.inj h
      rw [← hsame]
      refine (kind_of_statusError? hstatus).imp_left ?_
      rintro ⟨hrefused, rfl⟩
      exact ⟨hrefused, Denial.kind_error_refused⟩
    | none =>
      have hsuccess := statusError?_eq_none_iff.1 hstatus
      obtain hsome | hkind := digestOf_eq_error h
      · nomatch hstatus.symm.trans hsome
      · refine .inr ⟨?_, hkind⟩
        rintro (h401 | h403)
        · rw [h401] at hsuccess
          nomatch hsuccess
        · rw [h403] at hsuccess
          nomatch hsuccess

theorem tagDigest_eq_outcome (h : c.endpoint (manifestPath repository tag) = .ok url) :
    c.tagDigest a repository tag = a.headerValue >>= fun header =>
      Http.exchange ((manifestCall url).authorize header) >>= fun sent =>
        Session.ofExcept (c.outcome repository tag sent) := by
  rw [tagDigest_eq h, send, Session.bind_assoc]
  refine congrArg _ (funext fun header => ?_)
  rw [Session.bind_assoc]
  refine congrArg _ (funext fun sent => ?_)
  cases sent <;> rfl

end Client

namespace Catalog

open Client

/-- What comes before the call for a manifest: the probe of the registry brings challenges, and the
header of a call that pulls from the repository is negotiated. -/
inductive Negotiates (c : Connection) (n : RepositoryName) (w : World) (t : Trace) :
    Trace → Option String → Prop
  | intro {registry : Url} {challenges : ChallengeSet} {probing authorizing : Trace}
      {header : Option String} (hregistry : c.client.baseUrl = .ok registry)
      (hprobe : c.client.probe.run w t = (.ok challenges, t ++ probing))
      (hheader : (Authorizer.headerValue ⟨registry, challenges, n.pullScope⟩).run w (t ++ probing) =
        (.ok header, t ++ probing ++ authorizing)) :
    Negotiates c n w t (probing ++ authorizing) header

variable {c : Catalog} {w : World} {t negotiating log : Trace} {repository tag : String}
  {n : RepositoryName} {header : Option String} {d : Digest}

theorem tagDigest_eq {registry : Url}
    (hname : Repository.readName (c.connection.qualify repository) = .ok n)
    (hregistry : c.connection.client.baseUrl = .ok registry) :
    c.tagDigest repository tag = c.connection.client.probe >>= fun challenges =>
      c.connection.client.tagDigest ⟨registry, challenges, n.pullScope⟩ n.text tag := by
  rw [tagDigest, Repository.resolve_eq c.valid hname hregistry, Session.bind_assoc]
  simp only [Session.pure_bind, Repository.tagDigest]

theorem exists_endpoint_of_run_probe {challenges : ChallengeSet} {t' : Trace}
    (h : c.connection.client.probe.run w t = (.ok challenges, t')) (n : RepositoryName)
    (tag : String) : ∃ url, c.connection.client.endpoint (manifestPath n.text tag) = .ok url := by
  obtain ⟨probing, rfl⟩ := Session.exists_log_of_run h
  obtain ⟨e, hr, -⟩ | ⟨_, probe, -, hparse⟩ :=
    Client.yields_probe_cases (Session.yields_of_run h)
  · nomatch hr
  · rw [manifestPath_eq]
    exact Connection.exists_endpoint c.valid hparse _

theorem run_tagDigest_of_negotiates
    (hname : Repository.readName (c.connection.qualify repository) = .ok n)
    (h : Negotiates c.connection n w t negotiating header) (tag : String) : ∃ url sending sent,
      c.connection.client.endpoint (manifestPath n.text tag) = .ok url ∧
      (Http.exchange ((manifestCall url).authorize header)).run w (t ++ negotiating) =
        (.ok sent, t ++ negotiating ++ sending) ∧
      (c.tagDigest repository tag).run w t =
        ((c.connection.client.outcome n.text tag sent).mapError .error,
          t ++ (negotiating ++ sending)) := by
  obtain @⟨registry, challenges, probing, authorizing, header, hregistry, hprobe, hheader⟩ := h
  obtain ⟨url, hurl⟩ := exists_endpoint_of_run_probe hprobe n tag
  rcases hexchange : (Http.exchange ((manifestCall url).authorize header)).run w
    (t ++ (probing ++ authorizing)) with ⟨sent, t'⟩
  obtain ⟨sending, rfl⟩ := Session.exists_log_of_run hexchange
  cases sent with
  | error stop => exact (Http.stopsFor_exchange _ _ _ (Session.yields_of_run hexchange)).elim
  | ok sent =>
    refine ⟨url, sending, sent, hurl, hexchange, ?_⟩
    have hlast : ∀ t, (Session.ofExcept (c.connection.client.outcome n.text tag sent)).run w t =
        ((c.connection.client.outcome n.text tag sent).mapError .error, t) := by
      intro t
      cases c.connection.client.outcome n.text tag sent <;> rfl
    rw [tagDigest_eq hname hregistry, Session.run_bind _ hprobe, tagDigest_eq_outcome hurl,
      Session.run_bind _ hheader, List.append_assoc, Session.run_bind _ hexchange, hlast,
      List.append_assoc]

theorem exists_negotiates_of_run {t' : Trace}
    (hname : Repository.readName (c.connection.qualify repository) = .ok n)
    (h : (c.tagDigest repository tag).run w t = (.ok d, t')) :
    ∃ negotiating header, Negotiates c.connection n w t negotiating header := by
  obtain ⟨registry, hregistry⟩ := Connection.exists_baseUrl c.valid
  rw [tagDigest_eq hname hregistry] at h
  rcases hprobe : c.connection.client.probe.run w t with ⟨probed, t₁⟩
  obtain ⟨probing, rfl⟩ := Session.exists_log_of_run hprobe
  cases probed with
  | error stop => nomatch h.symm.trans (Session.run_bind_error _ hprobe)
  | ok challenges =>
    obtain ⟨url, hurl⟩ := exists_endpoint_of_run_probe hprobe n tag
    rw [Session.run_bind _ hprobe, tagDigest_eq_outcome hurl] at h
    rcases hheader : (Authorizer.headerValue ⟨registry, challenges, n.pullScope⟩).run w
      (t ++ probing) with ⟨header, t₂⟩
    obtain ⟨authorizing, rfl⟩ := Session.exists_log_of_run hheader
    cases header with
    | error stop => nomatch h.symm.trans (Session.run_bind_error _ hheader)
    | ok header => exact ⟨_, header, .intro hregistry hprobe hheader⟩

/-- **A whole look-up** of the digest of a tag, for a name that is accepted. There is a digest
exactly if the negotiation succeeds and the response to the call for the manifest carries one, which
is then shown as it came. After the negotiation nothing is sent but this call and what redirects lead
to; and if there is no digest, the error is one of authentication where the call was denied, and
otherwise one of transport. -/
theorem run_tagDigest (c : Catalog) (w : World) (t : Trace) (repository tag : String)
    {n : RepositoryName} (hname : Repository.readName (c.connection.qualify repository) = .ok n) :
    ∃ r log, (c.tagDigest repository tag).run w t = (r, t ++ log) ∧
      (∀ d, r = .ok d ↔ ∃ negotiating header url sending response text,
        Negotiates c.connection n w t negotiating header ∧
        c.connection.client.endpoint (manifestPath n.text tag) = .ok url ∧
        (Http.exchange ((manifestCall url).authorize header)).run w (t ++ negotiating) =
          (.ok (.ok response), t ++ negotiating ++ sending) ∧
        CarriesDigest response text ∧ Digest.Spells text d) ∧
      ∀ negotiating header, Negotiates c.connection n w t negotiating header →
        ∃ url request sending sent,
          c.connection.client.endpoint (manifestPath n.text tag) = .ok url ∧
          request = ((manifestCall url).authorize header).withUserMoved.request ∧
          request.method = .head ∧ request.url = url.withoutUser.withoutFragment ∧
          (Http.exchange ((manifestCall url).authorize header)).run w (t ++ negotiating) =
            (.ok sent, t ++ negotiating ++ sending) ∧
          log = negotiating ++ sending ∧
          (sending = [] ∧ (∃ e, sent = .error e) ∨ Http.Hops request sending sent) ∧
          ∀ stop, r = .error stop → ∃ e, stop = .error e ∧
            (Refuses sent ∧ e.kind = .authentication ∨ ¬ Refuses sent ∧ e.kind = .transport) := by
  rcases hrun : (c.tagDigest repository tag).run w t with ⟨r, t'⟩
  obtain ⟨log, rfl⟩ := Session.exists_log_of_run hrun
  refine ⟨r, log, rfl, fun d => ⟨?_, ?_⟩, fun negotiating header h => ?_⟩
  · rintro rfl
    obtain ⟨negotiating, header, h⟩ := exists_negotiates_of_run hname hrun
    obtain ⟨url, sending, sent, hurl, hexchange, hresult⟩ :=
      run_tagDigest_of_negotiates hname h tag
    rw [hrun, Prod.mk.injEq, eq_comm, mapError_eq_ok_iff, outcome_eq_ok_iff] at hresult
    obtain ⟨⟨response, text, rfl, hcarries, hspells⟩, -⟩ := hresult
    exact ⟨negotiating, header, url, sending, response, text, h, hurl, hexchange, hcarries, hspells⟩
  · rintro ⟨negotiating, header, url, sending, response, text, h, hurl, hexchange, hcarries,
      hspells⟩
    obtain ⟨url', sending', sent, hurl', hexchange', hresult⟩ :=
      run_tagDigest_of_negotiates hname h tag
    cases hurl.symm.trans hurl'
    obtain ⟨hsent, -⟩ := Prod.mk.inj (hexchange.symm.trans hexchange')
    cases hsent
    rw [hrun, Prod.mk.injEq] at hresult
    rw [hresult.1, mapError_eq_ok_iff, outcome_eq_ok_iff]
    exact ⟨response, text, rfl, hcarries, hspells⟩
  · obtain ⟨url, sending, sent, hurl, hexchange, hresult⟩ :=
      run_tagDigest_of_negotiates hname h tag
    rw [hrun, Prod.mk.injEq, List.append_cancel_left_eq] at hresult
    refine ⟨url, _, sending, sent, hurl, rfl, Http.withUserMoved_method _,
      Http.withUserMoved_request_url _, hexchange, hresult.2,
      Http.hops_of_yields (Session.yields_of_run hexchange), ?_⟩
    rintro stop hstop
    rw [hresult.1] at hstop
    cases hout : c.connection.client.outcome n.text tag sent with
    | ok d =>
      rw [hout] at hstop
      nomatch hstop
    | error e =>
      rw [hout] at hstop
      cases hstop
      exact ⟨e, rfl, kind_of_outcome hout⟩

/-- The tag of a registry with one tag has the digest that its response carries. -/
theorem run_tagDigest_oneTag :
    Repository.readName (hostCatalog.connection.qualify "svc") = .ok svcName ∧
      (lookUp "svc" "v1").1 = .ok ⟨"test", "1"⟩ ∧
      ∃ response, CarriesDigest response "test:1" ∧ Digest.Spells "test:1" ⟨"test", "1"⟩ := by
  obtain ⟨r, log, hrun, hiff, -⟩ :=
    run_tagDigest hostCatalog (hostCatalog.world oneTag) [] "svc" "v1" readName_svc
  have hfound : r = .ok ⟨"test", "1"⟩ := (Prod.mk.inj (hrun.symm.trans lookUp_v1)).1
  obtain ⟨-, -, -, -, response, text, -, -, -, hcarries, hspells⟩ := (hiff _).1 hfound
  have htext : text = "test:1" := hspells.parts
  rw [htext] at hcarries hspells
  exact ⟨readName_svc, by rw [lookUp_v1]; rfl, response, hcarries, hspells⟩

end Catalog

end TagCatalog
