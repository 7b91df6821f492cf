import TagCatalog.Proofs.Auth.Collection
import TagCatalog.Proofs.Registry.Origin
import TagCatalog.Proofs.Url.Append

/-!
# The discovery of a registry

Before anything else a handle to a repository asks its registry for challenges. A valid connection
has a registry URL that is read whenever it is needed, so this can fail in two ways only: the name
of the repository is refused and nothing is sent, or the probe of the registry is without a result.

* `Connection.client`: the client of a connection's registry;
* `Connection.ofUrl_registryUrl`, `Connection.exists_baseUrl`, `Connection.exists_endpoint`: the
  URLs of a valid connection;
* `ChallengeSet.Undiscoverable`, `Client.ProbeFails`: a probe without a result;
* **`Repository.yields_resolve_cases`**: how the discovery of a registry ends.
-/

namespace TagCatalog

/-! ## The registry URL -/

theorem head?_normalizedUrl (url : String) :
    ∀ c ∈ (normalizedUrl url).toList.head?, Text.isBlank c = false := by
  intro c hc
  rw [normalizedUrl, String.toList_ofList] at hc
  exact Text.head?_trimStart url.toList c (Text.head?_dropEnd (Text.head?_dropEnd hc))

theorem exists_append_of_head? {url : String}
    (h : ∀ c ∈ url.toList.head?, Text.isBlank c = false) :
    ∃ z : String, (∀ c ∈ z.toList, Url.isFiller c) ∧ url = normalizedUrl url ++ z := by
  obtain ⟨blanks, hblanks, hsplit⟩ := Text.exists_eq_dropEnd_append Text.isBlank url.toList
  obtain ⟨slashes, hslashes, hsplit'⟩ :=
    Text.exists_eq_dropEnd_append (· == '/') (Text.trimEnd url.toList)
  refine ⟨String.ofList (slashes ++ blanks), fun c hc => ?_, ?_⟩
  · rw [String.toList_ofList, List.mem_append] at hc
    rw [Url.isFiller, Url.isVoid]
    obtain hc | hc := hc
    · rw [hslashes c hc, Bool.or_true]
    · rw [hblanks c hc, Bool.or_true]
      rfl
  · rw [normalizedUrl, Text.trim, Text.trimStart_eq_self h, ← String.ofList_append,
      ← List.append_assoc, ← hsplit', Text.trimEnd, ← hsplit, String.ofList_toList]

theorem normalizedUrl_trimmed (url : String) :
    normalizedUrl (Text.trimmed url) = normalizedUrl url := by
  rw [normalizedUrl, Text.trimmed, String.toList_ofList, Text.trim_trim, normalizedUrl]

theorem exists_append_normalizedUrl (url : String) : ∃ z : String,
    (∀ c ∈ z.toList, Url.isFiller c) ∧
      Text.trimmed url = normalizedUrl (normalizedUrl url) ++ z := by
  have htrimmed : ∀ c ∈ (Text.trimmed url).toList.head?, Text.isBlank c = false := by
    intro c hc
    rw [Text.trimmed, String.toList_ofList] at hc
    exact Text.head?_trimStart url.toList c (Text.head?_dropEnd hc)
  obtain ⟨z, hz, hsplit⟩ := exists_append_of_head? htrimmed
  obtain ⟨z', hz', hsplit'⟩ := exists_append_of_head? (head?_normalizedUrl url)
  refine ⟨z' ++ z, fun c hc => ?_, ?_⟩
  · rw [String.toList_append, List.mem_append] at hc
    exact hc.elim (hz' c) (hz c)
  · rw [← String.append_assoc, ← hsplit', ← normalizedUrl_trimmed url]
    exact hsplit

namespace Connection

variable {c : Connection}

/-- The client of the connection's registry. -/
def client (c : Connection) : Client := ⟨normalizedUrl c.registryUrl⟩

theorem exists_parse_of_validate (h : c.validate = .ok ()) :
    ∃ url, Url.parse (Text.trimmed c.baseUrl) = .ok url ∧ url.isHttp := by
  cases hparse : Url.parse (Text.trimmed c.baseUrl) with
  | error fault =>
    simp only [validate, hparse] at h
    split_ifs at h
  | ok parsed =>
    simp only [validate, hparse] at h
    split_ifs at h with hempty hweb
    rw [Bool.not_eq_true', Bool.not_eq_false, Bool.and_eq_true] at hweb
    exact ⟨parsed, rfl, hweb.1⟩

theorem exists_parse_client (h : c.validate = .ok ()) :
    ∃ url, Url.parse c.client.registryUrl = .ok url ∧ url.isHttp := by
  obtain ⟨url, hurl, hhttp⟩ := exists_parse_of_validate h
  obtain ⟨z, hz, hsplit⟩ := exists_append_normalizedUrl c.baseUrl
  rw [hsplit] at hurl
  exact Url.exists_parse_of_append hz hurl hhttp

theorem ofUrl_registryUrl (h : c.validate = .ok ()) :
    Client.ofUrl c.registryUrl = .ok c.client := by
  obtain ⟨url, hurl, -⟩ := exists_parse_client h
  rw [Client.ofUrl, if_neg]
  · rfl
  · intro hempty
    rw [client, hempty] at hurl
    nomatch hurl

theorem exists_baseUrl (h : c.validate = .ok ()) : ∃ url, c.client.baseUrl = .ok url := by
  obtain ⟨url, hurl, -⟩ := exists_parse_client h
  exact ⟨url, Client.readUrl_eq_ok_iff.2 hurl⟩

/-- If the registry can be probed, every path below it is read. -/
theorem exists_endpoint (h : c.validate = .ok ()) {url : Url}
    (hprobe : Url.parse c.client.probeText = .ok url) (path : String) :
    ∃ url, c.client.endpoint ("/" ++ path) = .ok url := by
  obtain ⟨base, hbase, hhttp⟩ := exists_parse_client h
  obtain ⟨url', hurl'⟩ := Url.exists_parse_append hbase hhttp (p := "v2/") hprobe path
  exact ⟨url', Client.readUrl_eq_ok_iff.2 hurl'⟩

end Connection

/-! ## The probe -/

namespace ChallengeSet

/-- A reply asks for authentication and does not say how: it has no challenge, or one that is no
text or malformed. -/
structure Undiscoverable (status : Nat) (headers : Http.Headers) : Prop where
  unauthorized : status = 401
  silent : headers.values headerName = [] ∨ ∃ value ∈ headers.values headerName,
    ¬ Http.isReadable value ∨ ∃ fault, Challenge.parse value = .error fault

variable {status : Nat} {headers : Http.Headers} {e : CatalogError} {value : String}

theorem Offends.unreadable_or_malformed (h : Offends value e) :
    ¬ Http.isReadable value ∨ ∃ fault, Challenge.parse value = .error fault := by
  cases h with
  | unreadable htext => exact .inl (mt isReadable_iff.1 htext)
  | malformed _ hparse => exact .inr ⟨_, hparse⟩

theorem ofReply_eq_error (h : ofReply status headers = .error e) :
    e.kind = .authDiscovery ∧ Undiscoverable status headers := by
  obtain ⟨rfl, hkind⟩ := kind_of_ofReply h
  refine ⟨hkind, rfl, ?_⟩
  obtain ⟨hnil, -⟩ | ⟨before, value, after, _, hvalues, -, hoffends⟩ := ofReply_eq_error_iff.1 h
  · exact .inl hnil
  · exact .inr ⟨value, by simp [hvalues], hoffends.unreadable_or_malformed⟩

theorem Undiscoverable.exists_error (h : Undiscoverable status headers) :
    ∃ e, ofReply status headers = .error e := by
  obtain ⟨rfl, hsilent⟩ := h
  cases hreply : ofReply 401 headers with
  | error e => exact ⟨e, rfl⟩
  | ok s =>
    obtain ⟨hne, hall⟩ := ofReply_eq_ok_iff.1 hreply
    obtain hnil | ⟨value, hmem, hbad⟩ := hsilent
    · exact absurd hnil hne
    · obtain ⟨i, hi, rfl⟩ := List.getElem_of_mem hmem
      obtain ⟨htext, hparse⟩ := hall.get hi (hall.length_eq ▸ hi)
      obtain hunreadable | ⟨fault, hfault⟩ := hbad
      · exact absurd (isReadable_iff.2 htext) hunreadable
      · have hclash := hparse.symm.trans hfault
        nomatch hclash

end ChallengeSet

namespace Client

/-- The probe is without a result: the URL that it is sent to cannot be read, it gets no reply, or
its last reply asks for authentication and does not say how. -/
inductive ProbeFails (c : Client) : Trace → Prop
  | unreadable {fault : Url.Fault} (h : Url.parse c.probeText = .error fault) : ProbeFails c []
  | unsent {url : Url} {log : Trace} {e : Http.SendError} (h : Url.parse c.probeText = .ok url)
      (hs : (Http.exchange (.plain .get url)).Yields log (.ok (.error e))) : ProbeFails c log
  | unanswerable {url : Url} {log : Trace} {response : Http.Response}
      (h : Url.parse c.probeText = .ok url)
      (hs : (Http.exchange (.plain .get url)).Yields log (.ok (.ok response)))
      (hr : ChallengeSet.Undiscoverable response.reply.status response.reply.headers) :
    ProbeFails c log

variable {c : Client} {log : Trace}

theorem ProbeFails.exists_error (h : c.ProbeFails log) :
    ∃ e, e.kind = .authDiscovery ∧ c.probe.Yields log (.error (.error e)) := by
  cases h with
  | unreadable h =>
    refine ⟨.probeFailed c.probeText, rfl, ?_⟩
    rw [probe, h]
    exact .fail _
  | @unsent url _ e h hs =>
    refine ⟨.probeFailed c.probeText, rfl, ?_⟩
    rw [probe, h, ← List.append_nil log]
    exact hs.bind (.fail _)
  | @unanswerable url _ response h hs hr =>
    obtain ⟨e, he⟩ := hr.exists_error
    refine ⟨e, (ChallengeSet.ofReply_eq_error he).1, ?_⟩
    rw [probe, h, ← List.append_nil log]
    refine hs.bind ?_
    show (Session.ofExcept _).Yields [] _
    rw [he]
    exact .fail _

theorem exists_sent_of_yields_probe {r : Except Stop ChallengeSet} (h : c.probe.Yields log r) :
    (∃ fault, Url.parse c.probeText = .error fault ∧ log = [] ∧
      r = .error (.error (.probeFailed c.probeText))) ∨
    ∃ url sent, Url.parse c.probeText = .ok url ∧
      (Http.exchange (.plain .get url)).Yields log (.ok sent) ∧
      ((∃ e, sent = .error e) ∧ r = .error (.error (.probeFailed c.probeText)) ∨
        ∃ response, sent = .ok response ∧ r = (ChallengeSet.ofReply response.reply.status
          response.reply.headers).mapError .error) := by
  rw [probe] at h
  cases hparse : Url.parse c.probeText with
  | error fault =>
    rw [hparse] at h
    obtain ⟨rfl, rfl⟩ := Session.yields_fail_iff.1 h
    exact .inl ⟨fault, rfl, rfl, rfl⟩
  | ok url =>
    rw [hparse] at h
    obtain ⟨sent, log₁, log₂, rfl, hs, hend⟩ | ⟨stop, -, hs⟩ := Session.yields_bind_iff.1 h
    · refine .inr ⟨url, sent, rfl, ?_⟩
      cases sent with
      | error e =>
        obtain ⟨rfl, rfl⟩ := Session.yields_fail_iff.1 hend
        rw [List.append_nil]
        exact ⟨hs, .inl ⟨⟨e, rfl⟩, rfl⟩⟩
      | ok response =>
        obtain ⟨rfl, rfl⟩ := Session.yields_ofExcept_iff.1 hend
        rw [List.append_nil]
        exact ⟨hs, .inr ⟨response, rfl, rfl⟩⟩
    · exact (Http.stopsFor_exchange _ _ _ hs).elim

theorem yields_probe_cases {r : Except Stop ChallengeSet} (h : c.probe.Yields log r) :
    (∃ e, r = .error (.error e) ∧ e.kind = .authDiscovery ∧ c.ProbeFails log) ∨
      ∃ challenges url, r = .ok challenges ∧ Url.parse c.probeText = .ok url := by
  obtain ⟨fault, hparse, rfl, rfl⟩ | ⟨url, sent, hparse, hs, hend⟩ := exists_sent_of_yields_probe h
  · exact .inl ⟨_, rfl, rfl, .unreadable hparse⟩
  · obtain ⟨⟨e, rfl⟩, rfl⟩ | ⟨response, rfl, rfl⟩ := hend
    · exact .inl ⟨_, rfl, rfl, .unsent hparse hs⟩
    · cases hreply : ChallengeSet.ofReply response.reply.status response.reply.headers with
      | error e =>
        obtain ⟨hkind, hundiscoverable⟩ := ChallengeSet.ofReply_eq_error hreply
        exact .inl ⟨e, rfl, hkind, .unanswerable hparse hs hundiscoverable⟩
      | ok challenges => exact .inr ⟨challenges, url, rfl, hparse⟩

end Client

/-! ## Handles -/

namespace Repository

variable {c : Connection} {repository : String} {log : Trace}

/-- The name of a repository is refused. -/
def Rejects (c : Connection) (repository : String) : Prop :=
  ∃ e, readName (c.qualify repository) = .error e

theorem Rejects.resolve_eq (h : Rejects c repository) :
    ∃ e, e.kind = .config ∧ resolve c repository = .raise e := by
  obtain ⟨e, he⟩ := h
  refine ⟨e, ?_, ?_⟩
  · rw [readName] at he
    cases hparse : RepositoryName.parse (c.qualify repository) with
    | error fault =>
      rw [hparse] at he
      cases he
      rfl
    | ok name =>
      rw [hparse] at he
      nomatch he
  · rw [resolve, he]
    rfl

theorem resolve_eq {name : RepositoryName} {registry : Url} (hvalid : c.validate = .ok ())
    (hname : readName (c.qualify repository) = .ok name)
    (hregistry : c.client.baseUrl = .ok registry) :
    resolve c repository = c.client.probe >>= fun challenges =>
      pure ⟨c.client, name, registry, challenges, name.pullScope⟩ := by
  simp only [resolve, hname, Connection.ofUrl_registryUrl hvalid, hregistry, Session.ofExcept,
    Session.bind_done]

theorem resolve_eq_of_readName {name : RepositoryName} (hvalid : c.validate = .ok ())
    (hname : readName (c.qualify repository) = .ok name) : ∃ registry,
      resolve c repository = c.client.probe >>= fun challenges =>
        pure ⟨c.client, name, registry, challenges, name.pullScope⟩ := by
  obtain ⟨registry, hregistry⟩ := Connection.exists_baseUrl hvalid
  exact ⟨registry, resolve_eq hvalid hname hregistry⟩

/-- **The discovery of a registry** through a valid connection, for a name that is accepted: the
probe is without a result, or there is a handle, and then the URL of the probe was read. -/
theorem yields_resolve_cases (hvalid : c.validate = .ok ()) (hname : ¬ Rejects c repository)
    {r : Except Stop Repository} (h : (resolve c repository).Yields log r) :
    (∃ e, r = .error (.error e) ∧ e.kind = .authDiscovery ∧ c.client.ProbeFails log) ∨
      ∃ handle url, r = .ok handle ∧ handle.client = c.client ∧
        Url.parse c.client.probeText = .ok url := by
  cases hread : readName (c.qualify repository) with
  | error e => exact absurd ⟨e, hread⟩ hname
  | ok name =>
    obtain ⟨registry, hresolve⟩ := resolve_eq_of_readName hvalid hread
    rw [hresolve] at h
    obtain ⟨r', hprobe, rfl⟩ := Session.yields_bind_pure_iff.1 h
    rcases Client.yields_probe_cases hprobe with ⟨e, rfl, hkind, hfails⟩ |
      ⟨challenges, url, rfl, hurl⟩
    · exact .inl ⟨e, rfl, hkind, hfails⟩
    · exact .inr ⟨_, url, rfl, rfl, hurl⟩

theorem exists_error_of_probeFails (hvalid : c.validate = .ok ()) (hname : ¬ Rejects c repository)
    (h : c.client.ProbeFails log) :
    ∃ e, e.kind = .authDiscovery ∧ (resolve c repository).Yields log (.error (.error e)) := by
  cases hread : readName (c.qualify repository) with
  | error e => exact absurd ⟨e, hread⟩ hname
  | ok name =>
    obtain ⟨registry, hresolve⟩ := resolve_eq_of_readName hvalid hread
    obtain ⟨e, hkind, hprobe⟩ := h.exists_error
    refine ⟨e, hkind, ?_⟩
    rw [hresolve]
    exact hprobe.bind_error

end Repository

end TagCatalog
