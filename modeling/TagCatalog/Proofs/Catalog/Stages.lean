import TagCatalog.Proofs.Catalog.Branches
import TagCatalog.Proofs.Registry.Denial
import TagCatalog.Proofs.Registry.Discovery

/-!
# The stages of an error

The kind of an error says how far a service has come. The configuration is to blame if the name of
the repository is refused, before anything is sent; discovery, if the probe of the registry is
without a result; authentication, if a call of the registry is denied; and transport otherwise.

* `Catalog.digestCalls`, `Catalog.listingCalls`: the calls that are made with a handle;
* `Catalog.DeniedIn`, `Catalog.Stages`: the stages of what was done for a repository;
* `Catalog.stages_of_yields`: the stages of anything that is done with a handle;
* **`Catalog.stages`**: the stages of looking up a digest, and of fetching a branch.
-/

namespace TagCatalog.Catalog

/-! ## Stages -/

/-- The call of looking up a digest with a handle, and what was done for the handle before it. -/
def digestCalls (tag : String) (handle : Repository) (before : Trace) (call : Http.Call) : Prop :=
  ∃ url, handle.client.endpoint (Client.manifestPath handle.name.text tag) = .ok url ∧
    before = [] ∧ call = Client.manifestCall url

/-- The calls of a listing with a handle: one for each page that it comes to. -/
def listingCalls (limit : Nat) (handle : Repository) (before : Trace) (call : Http.Call) : Prop :=
  ∃ pages url, handle.client.Reaches handle.authorizer handle.name.text pages url ∧
    pages.length < limit ∧ before = pages.flatMap Client.Page.log ∧ call = .plain .get url

/-- A registry gave a handle to a repository, and then one of the calls that are made with it was
denied, as the last thing that happened. -/
def DeniedIn (c : Connection) (repository : String)
    (calls : Repository → Trace → Http.Call → Prop) (log : Trace) (why : Client.Denial) : Prop :=
  ∃ handle probing before call last,
    (Repository.resolve c repository).Yields probing (.ok handle) ∧ calls handle before call ∧
    Client.Denied handle.authorizer call last why ∧ log = probing ++ (before ++ last)

/-- An error of a stage. -/
def ErrorOf {α : Type} (r : Except Stop α) (kind : ErrorKind) : Prop :=
  ∃ e, r = .error (.error e) ∧ e.kind = kind

theorem ErrorOf.unique {α : Type} {r : Except Stop α} {kind kind' : ErrorKind}
    (h : ErrorOf r kind) (h' : ErrorOf r kind') : kind = kind' := by
  obtain ⟨e, rfl, rfl⟩ := h
  obtain ⟨e', he, rfl⟩ := h'
  cases he
  rfl

/-- What was done for a repository ended with `r`, and its error, if it has one, says at which stage
that was. -/
structure Stages {α : Type} (c : Connection) (repository : String)
    (calls : Repository → Trace → Http.Call → Prop) (r : Except Stop α) (log : Trace) : Prop where
  config : ErrorOf r .config ↔ Repository.Rejects c repository
  unsent : Repository.Rejects c repository → log = []
  discovery : ErrorOf r .authDiscovery ↔
    ¬ Repository.Rejects c repository ∧ ∃ probing, probing <+: log ∧ c.client.ProbeFails probing
  /-- After a probe without a result nothing else happens. -/
  probed : ErrorOf r .authDiscovery → c.client.ProbeFails log
  authentication : ∀ e, (r = .error (.error e) ∧ e.kind = .authentication) ↔
    ∃ denied why, denied <+: log ∧ DeniedIn c repository calls denied why ∧ e = why.error
  /-- The error of a reply with the status 401 or 403 carries it. -/
  refused : ∀ denied response, denied <+: log →
    DeniedIn c repository calls denied (.refused response) →
    (response.reply.status = 401 ∨ response.reply.status = 403) ∧
      ∃ e, r = .error (.error e) ∧ e.kind = .authentication ∧
        e.status? = some response.reply.status
  transport : ∀ e, r = .error (.error e) → ¬ Repository.Rejects c repository →
    (¬ ∃ probing, probing <+: log ∧ c.client.ProbeFails probing) →
    (¬ ∃ denied why, denied <+: log ∧ DeniedIn c repository calls denied why) →
    e.kind = .transport

/-- What is done with a handle fails where one of its calls is denied, and otherwise for a reason of
transport only. -/
structure FailsAt {α : Type} (c : Connection) (calls : Repository → Trace → Http.Call → Prop)
    (f : Repository → Session α) : Prop where
  denied : ∀ {handle before call last why}, calls handle before call →
    Client.Denied handle.authorizer call last why →
    (f handle).Yields (before ++ last) (.error (.error why.error))
  fails : ∀ {handle url log e}, handle.client = c.client → Url.parse c.client.probeText = .ok url →
    (f handle).Yields log (.error (.error e)) →
    (∃ before call last why, calls handle before call ∧
      Client.Denied handle.authorizer call last why ∧ log = before ++ last ∧ e = why.error) ∨
    e.kind = .transport

section

variable {α : Type} {c : Connection} {repository : String}
  {calls : Repository → Trace → Http.Call → Prop} {f : Repository → Session α} {log : Trace}
  {r : Except Stop α}

theorem stages_of_rejects (hrejects : Repository.Rejects c repository)
    (hy : (Repository.resolve c repository >>= f).Yields log r) :
    Stages c repository calls r log := by
  obtain ⟨e, hkind, hresolve⟩ := hrejects.resolve_eq
  rw [hresolve] at hy
  obtain ⟨rfl, hr⟩ := Session.yields_fail_iff.1 hy
  have hconfig : ErrorOf r .config := ⟨e, hr, hkind⟩
  have hnone : ∀ denied why, ¬ DeniedIn c repository calls denied why := by
    rintro _ _ ⟨_, _, _, _, _, hhandle, _⟩
    rw [hresolve] at hhandle
    nomatch (Session.yields_fail_iff.1 hhandle).2
  constructor
  case config => exact iff_of_true hconfig hrejects
  case unsent =>
    intro _
    rfl
  case discovery =>
    refine iff_of_false ?_ fun h => h.1 hrejects
    intro h
    nomatch hconfig.unique h
  case probed =>
    intro h
    nomatch hconfig.unique h
  case authentication =>
    intro e'
    refine iff_of_false ?_ ?_
    · intro h
      nomatch hconfig.unique ⟨e', h⟩
    · rintro ⟨_, _, _, hdenied, _⟩
      exact hnone _ _ hdenied
  case refused =>
    intro _ _ _ hdenied
    exact absurd hdenied (hnone _ _)
  case transport =>
    intro _ _ hname
    exact absurd hrejects hname

/-- A probe without a result is an error of discovery, and the last thing that happens. -/
theorem stages_of_probeFails (hname : ¬ Repository.Rejects c repository)
    (hdiscovery : ErrorOf r .authDiscovery) (hfails : c.client.ProbeFails log) {stop : Stop}
    (hresolve : (Repository.resolve c repository).Yields log (.error stop)) :
    Stages c repository calls r log := by
  have hnone : ∀ denied why, denied <+: log → ¬ DeniedIn c repository calls denied why := by
    rintro _ why ⟨rest, rfl⟩ ⟨handle, probing, before, call, last, hhandle, -, -, rfl⟩
    -- no log of a handle goes on as one without
    rw [List.append_assoc] at hresolve
    nomatch (hhandle.append_inj hresolve (List.append_nil _).symm).2.1
  constructor
  case config =>
    refine iff_of_false ?_ hname
    intro h
    nomatch hdiscovery.unique h
  case unsent =>
    intro hrejects
    exact absurd hrejects hname
  case discovery => exact iff_of_true hdiscovery ⟨hname, log, List.prefix_rfl, hfails⟩
  case probed =>
    intro _
    exact hfails
  case authentication =>
    intro e
    refine iff_of_false ?_ ?_
    · intro h
      nomatch hdiscovery.unique ⟨e, h⟩
    · rintro ⟨_, _, hinside, hdenied, _⟩
      exact hnone _ _ hinside hdenied
  case refused =>
    intro _ _ hinside hdenied
    exact absurd hdenied (hnone _ _ hinside)
  case transport =>
    intro _ _ _ hprobe
    exact absurd ⟨log, List.prefix_rfl, hfails⟩ hprobe

section

variable {handle : Repository} {url : Url} {probing rest denied : Trace} {e : CatalogError}
  {why : Client.Denial} {response : Http.Response}

theorem DeniedIn.kind_eq (h : DeniedIn c repository calls log why) :
    why.error.kind = .authentication := by
  obtain ⟨_, _, _, _, _, _, _, hdenied, _⟩ := h
  exact hdenied.kind_eq

theorem DeniedIn.status (h : DeniedIn c repository calls log (.refused response)) :
    response.reply.status = 401 ∨ response.reply.status = 403 := by
  obtain ⟨_, _, _, _, _, _, _, hdenied, _⟩ := h
  cases hdenied with
  | refused _ _ hstatus => exact hstatus

theorem DeniedIn.eq_error (hdenied : DeniedIn c repository calls denied why) (hf : FailsAt c calls f)
    (hresolve : (Repository.resolve c repository).Yields probing (.ok handle))
    (hrest : (f handle).Yields rest r) (hinside : denied <+: probing ++ rest) :
    r = .error (.error why.error) := by
  obtain ⟨handle', probing', before, call, last, hresolve', hcalls, hlast, rfl⟩ := hdenied
  obtain ⟨more, hlog⟩ := hinside
  rw [List.append_assoc] at hlog
  obtain ⟨-, hhandle, hlog⟩ := hresolve'.append_inj hresolve hlog
  cases hhandle
  obtain ⟨-, hr, -⟩ := (hf.denied hcalls hlast).append_inj hrest
    (hlog.trans (List.append_nil rest).symm)
  exact hr.symm

theorem deniedIn_or_transport (hf : FailsAt c calls f) (hclient : handle.client = c.client)
    (hurl : Url.parse c.client.probeText = .ok url)
    (hresolve : (Repository.resolve c repository).Yields probing (.ok handle))
    (hrest : (f handle).Yields rest (.error (.error e))) :
    (∃ why, DeniedIn c repository calls (probing ++ rest) why ∧ e = why.error) ∨
      e.kind = .transport := by
  refine (hf.fails hclient hurl hrest).imp_left ?_
  rintro ⟨before, call, last, why, hcalls, hlast, rfl, he⟩
  exact ⟨why, ⟨handle, probing, before, call, last, hresolve, hcalls, hlast, rfl⟩, he⟩

theorem stages_of_handle (hvalid : c.validate = .ok ()) (hf : FailsAt c calls f)
    (hname : ¬ Repository.Rejects c repository) (hclient : handle.client = c.client)
    (hurl : Url.parse c.client.probeText = .ok url)
    (hresolve : (Repository.resolve c repository).Yields probing (.ok handle))
    (hrest : (f handle).Yields rest r) : Stages c repository calls r (probing ++ rest) := by
  have hends : ∀ e, r = .error (.error e) →
      (∃ why, DeniedIn c repository calls (probing ++ rest) why ∧ e = why.error) ∨
        e.kind = .transport := by
    rintro e rfl
    exact deniedIn_or_transport hf hclient hurl hresolve hrest
  have hkinds : ∀ kind, ErrorOf r kind → kind = .authentication ∨ kind = .transport := by
    rintro kind ⟨e, hr, rfl⟩
    refine (hends e hr).imp_left ?_
    rintro ⟨why, hdenied, rfl⟩
    exact hdenied.kind_eq
  have hconfig : ¬ ErrorOf r .config := by
    intro h
    rcases hkinds _ h with h | h <;> nomatch h
  have hdiscovery : ¬ ErrorOf r .authDiscovery := by
    intro h
    rcases hkinds _ h with h | h <;> nomatch h
  constructor
  case config => exact iff_of_false hconfig hname
  case unsent =>
    intro hrejects
    exact absurd hrejects hname
  case discovery =>
    refine iff_of_false hdiscovery ?_
    rintro ⟨-, probing', ⟨more, hlog⟩, hfails⟩
    obtain ⟨_, -, hresolve'⟩ := Repository.exists_error_of_probeFails hvalid hname hfails
    nomatch (hresolve'.append_inj hresolve hlog).2.1
  case probed =>
    intro h
    exact absurd h hdiscovery
  case authentication =>
    intro e
    constructor
    · rintro ⟨hr, hkind⟩
      rcases hends e hr with ⟨why, hdenied, he⟩ | htransport
      · exact ⟨_, why, List.prefix_rfl, hdenied, he⟩
      · rw [hkind] at htransport
        nomatch htransport
    · rintro ⟨_, why, hinside, hdenied, rfl⟩
      exact ⟨hdenied.eq_error hf hresolve hrest hinside, hdenied.kind_eq⟩
  case refused =>
    intro denied response hinside hdenied
    exact ⟨hdenied.status, _, hdenied.eq_error hf hresolve hrest hinside, hdenied.kind_eq,
      Client.Denial.status?_error_refused hdenied.status⟩
  case transport =>
    intro e hr _ _ hnone
    rcases hends e hr with ⟨why, hdenied, -⟩ | htransport
    · exact absurd ⟨_, why, List.prefix_rfl, hdenied⟩ hnone
    · exact htransport

end

/-- **The stages of anything that is done with a handle** of a valid connection. -/
theorem stages_of_yields (hvalid : c.validate = .ok ()) (hf : FailsAt c calls f)
    (hy : (Repository.resolve c repository >>= f).Yields log r) :
    Stages c repository calls r log := by
  by_cases hname : Repository.Rejects c repository
  · exact stages_of_rejects hname hy
  · rcases Session.yields_bind_iff.1 hy with ⟨handle, probing, rest, rfl, hresolve, hrest⟩ |
      ⟨stop, rfl, hresolve⟩
    · rcases Repository.yields_resolve_cases hvalid hname hresolve with ⟨_, hr, _⟩ |
        ⟨_, url, hr, hclient, hurl⟩
      · nomatch hr
      · cases hr
        exact stages_of_handle hvalid hf hname hclient hurl hresolve hrest
    · rcases Repository.yields_resolve_cases hvalid hname hresolve with ⟨e, hr, hkind, hfails⟩ |
        ⟨_, _, hr, _⟩
      · cases hr
        exact stages_of_probeFails hname ⟨e, rfl, hkind⟩ hfails hresolve
      · nomatch hr

theorem Stages.map {β : Type} (h : Stages c repository calls r log) (g : α → β) :
    Stages c repository calls (r.map g) log := by
  have hr : ∀ e, r.map g = .error (.error e) ↔ r = .error (.error e) := by
    cases r <;> simp [Except.map]
  have hof : ∀ kind, ErrorOf (r.map g) kind ↔ ErrorOf r kind := by
    intro kind
    simp only [ErrorOf, hr]
  constructor
  case config => exact (hof _).trans h.config
  case unsent => exact h.unsent
  case discovery => exact (hof _).trans h.discovery
  case probed =>
    rw [hof]
    exact h.probed
  case authentication =>
    intro e
    rw [hr]
    exact h.authentication e
  case refused =>
    intro denied response hinside hdenied
    simp only [hr]
    exact h.refused denied response hinside hdenied
  case transport =>
    intro e
    rw [hr]
    exact h.transport e

theorem failsAt_tagDigest (hvalid : c.validate = .ok ()) (tag : String) :
    FailsAt c (digestCalls tag) (·.tagDigest tag) where
  denied := by
    rintro handle _ _ last why ⟨url, hurl, rfl, rfl⟩ hdenied
    exact hdenied.yields_tagDigest hurl
  fails := by
    intro handle url log e hclient hprobe h
    obtain ⟨url', hurl⟩ := Connection.exists_endpoint hvalid hprobe
      ("v2/" ++ handle.name.text ++ "/manifests/" ++ tag)
    rw [← Client.manifestPath_eq, ← hclient] at hurl
    refine (Client.denied_or_transport_of_tagDigest hurl h).imp_left ?_
    rintro ⟨why, hdenied, he⟩
    exact ⟨[], _, log, why, ⟨url', hurl, rfl, rfl⟩, hdenied, rfl, he⟩

theorem failsAt_listTags (hvalid : c.validate = .ok ()) (limit : Nat) :
    FailsAt c (listingCalls limit) (·.listTags limit) where
  denied := by
    rintro handle _ _ last why ⟨pages, url, hreaches, hlen, rfl, rfl⟩ hdenied
    exact Client.yields_listTags_error_iff.2
      (.inr ⟨pages, url, last, hreaches, hdenied.pageFails, hlen, rfl⟩)
  fails := by
    intro handle url log e hclient hprobe h
    rcases Client.yields_listTags_error_iff.1 h with ⟨hfirst, -⟩ |
      ⟨pages, stop, rest, hreaches, hfails, hlen, rfl⟩
    · obtain ⟨first, hurl⟩ := Connection.exists_endpoint hvalid hprobe
        ("v2/" ++ handle.name.text ++ "/tags/list")
      rw [← Client.listingPath_eq, ← hclient, hfirst] at hurl
      nomatch hurl
    · refine hfails.denied_or_transport.imp_left ?_
      rintro ⟨why, hdenied, he⟩
      exact ⟨_, _, rest, why, ⟨pages, stop, hreaches, hlen, rfl, rfl⟩, hdenied, rfl, he⟩

end

/-! ## A single branch -/

theorem fetch_singleton {c : Catalog} {server : Server} {limit : Nat} {repository : String}
    {t t' : Trace} {r : Except Stop (List String)}
    (h : (c.tags limit repository).run (c.world server) t = (r, t')) (schedule : List Nat)
    (branch : String) : c.fetch server ⟨schedule, [0], [0]⟩ limit repository [branch] t =
      ((r.map (Record.ofTags branch)).map Record.sortByRecency, t') := by
  have hbranch : (c.branchRecords limit repository branch).run (c.world server) t =
      (r.map (Record.ofTags branch), t') := by
    rw [branchRecords_eq, Session.run_bind_pure, h]
  rcases hrun : Session.interleave (c.world server) schedule
    ([branch].map (c.branchRecords limit repository)) t with ⟨results, t₁⟩
  rw [fetch_eq_of_interleave hrun]
  obtain ⟨logs, events, rfl, ha, hmerges, hy⟩ := Session.interleave_spec hrun
  cases hy with
  | @cons _ log r₁ _ _ _ first rest =>
    cases rest
    rw [hmerges.eq_of_singleton] at ha ⊢
    rw [Session.run_eq_iff.2 ⟨log, first, ha, rfl⟩, Prod.mk.injEq] at hbranch
    rw [← hbranch.1, ← hbranch.2]
    rcases r₁ with (e | _) | records <;> rfl

/-- **The stages of an error**, of looking up a digest and of fetching a single branch, whatever the
server does. The error is one of the configuration exactly if the name of the repository is refused,
and then nothing is sent; it is one of discovery exactly if the name is accepted and the probe is
without a result, and then only the probe was sent; it is one of authentication exactly if a call of
the registry is denied, and carries the status of a reply that refuses it; and every other error is
one of transport. -/
theorem stages (c : Catalog) (server : Server) (repository : String) (t : Trace) :
    (∀ tag, ∃ r log, (c.tagDigest repository tag).run (c.world server) t = (r, t ++ log) ∧
      Stages c.connection repository (digestCalls tag) r log) ∧
    ∀ schedule limit branch, ∃ r log,
      c.fetch server ⟨schedule, [0], [0]⟩ limit repository [branch] t = (r, t ++ log) ∧
        Stages c.connection repository (listingCalls limit) r log := by
  constructor
  · intro tag
    rcases hrun : (c.tagDigest repository tag).run (c.world server) t with ⟨r, t'⟩
    obtain ⟨log, hy, -, rfl⟩ := Session.run_eq_iff.1 hrun
    exact ⟨r, log, rfl, stages_of_yields c.valid (failsAt_tagDigest c.valid tag) hy⟩
  · intro schedule limit branch
    rcases hrun : (c.tags limit repository).run (c.world server) t with ⟨r, t'⟩
    obtain ⟨log, hy, -, rfl⟩ := Session.run_eq_iff.1 hrun
    have hstages := stages_of_yields c.valid (failsAt_listTags c.valid limit) hy
    exact ⟨_, log, fetch_singleton hrun schedule branch,
      (hstages.map (Record.ofTags branch)).map Record.sortByRecency⟩

/-- A registry that wants a token, and issues one that no header can hold. -/
def brokenToken : Server := fun _ request =>
  if request.url.path = .segments ["v2", ""] then
    .reply ⟨401, [("WWW-Authenticate", "Bearer realm=\"http://r.test/token\"")], .whole []⟩
  else .reply ⟨200, [], .whole (Text.Utf8.encode "\x7b\"token\":\"a\\nb\"\x7d".toList)⟩

-- the exchange did not fail, so this is no denial
example : ((tagDigest ⟨.anonymous "http://r.test", .default, rfl⟩ "app" "x").run
    (world ⟨.anonymous "http://r.test", .default, rfl⟩ brokenToken) []).1 =
      .error (.error (.sendFailed "http://r.test" .unsendable)) := by
  decide +kernel

end TagCatalog.Catalog
