import TagCatalog.Proofs.Catalog.Fetch
import TagCatalog.Proofs.Session.Stateless

/-!
# Branches that do not interfere

Every branch probes the registry, authorizes its requests and lists all pages for itself. If the
registry answers a request alike whenever it is asked, a branch does the same in every company: it
sends the requests that it sends alone, and fails as it fails alone.

* `Catalog.tags`: what every branch does before it labels its records;
* `Catalog.isStateless_world`: the credentials of a connection have no memory either;
* `Catalog.Labels`, `Catalog.labels_of_fetch`: what a fetch makes of the tags that each branch
  lists;
* **`Catalog.fetch_of_branches`**: a fetch of several branches, and one of a single branch.
-/

namespace TagCatalog

namespace Record

theorem filter_flatMap_ofTags (branches tags : List String) (branch : String) :
    (branches.flatMap (ofTags · tags)).filter (·.branch = branch) =
      (List.replicate (branches.count branch) (ofTags branch tags)).flatten := by
  have hall : ∀ b, ∀ r ∈ ofTags b tags, r.branch = b := fun b r hr => (mem_ofTags hr).1
  induction branches with
  | nil => rfl
  | cons b branches ih =>
    rw [List.flatMap_cons, List.filter_append, ih]
    by_cases hb : b = branch
    · subst hb
      rw [List.count_cons_self, List.replicate_succ, List.flatten_cons,
        List.filter_eq_self.2 fun r hr => by simp [hall b r hr]]
    · rw [List.count_cons_of_ne hb, List.filter_eq_nil_iff.2, List.nil_append]
      intro r hr
      simp [hall b r hr, hb]

end Record

namespace Catalog

theorem perm_flatten_replicate {α : Type} {l l' : List α} (h : l.Perm l') (n : Nat) :
    (List.replicate n l).flatten.Perm (List.replicate n l').flatten := by
  induction n with
  | zero => exact .nil
  | succ n ih =>
    rw [List.replicate_succ, List.replicate_succ, List.flatten_cons, List.flatten_cons]
    exact h.append ih

variable {c : Catalog} {server : Server} {timing : Timing} {limit : Nat} {repository : String}
  {branches : List String}

/-- Lists the tags of a repository, as each branch does. -/
def tags (c : Catalog) (limit : Nat) (repository : String) : Session (List String) := do
  let handle ← Repository.resolve c.connection repository
  handle.listTags limit

theorem branchRecords_eq (c : Catalog) (limit : Nat) (repository branch : String) :
    c.branchRecords limit repository branch =
      c.tags limit repository >>= fun tags => pure (Record.ofTags branch tags) := by
  rw [tags, Session.bind_assoc]
  rfl

/-- The credentials of a connection have no memory, so the server alone decides. -/
theorem isStateless_world (h : server.IsStateless) (c : Catalog) :
    (c.world server).IsStateless := by
  intro t t' e hgives
  cases e with
  | exchanged request answer => exact hgives.trans (h _ _ request)
  | askedBasic | askedRefresh | keptRefresh => exact hgives

/-! ## Outcomes that are all alike -/

theorem outcomes_listed (branches tags : List String) :
    outcomes (branches.map fun b => (Except.ok tags).map (Record.ofTags b)) =
      .ok (branches.map fun b => .records (Record.ofTags b tags)) := by
  rw [outcomes, List.mapM_map]
  exact List.mapM_pure

theorem outcomes_failed (branches : List String) (e : CatalogError) :
    outcomes (branches.map fun b => (Except.error (.error e)).map (Record.ofTags b)) =
      .ok (branches.map fun _ => .failed e) := by
  rw [outcomes, List.mapM_map]
  exact List.mapM_pure

theorem outcomes_pageLimit (hne : branches ≠ []) :
    outcomes (branches.map fun b => (Except.error .pageLimit).map (Record.ofTags b)) =
      .error .pageLimit := by
  cases branches with
  | nil => exact absurd rfl hne
  | cons => rfl

theorem collect_failed {e : CatalogError} {ended : List Outcome} (joined : List Outcome)
    (he : ended.Perm (branches.map fun _ => .failed e)) (hne : branches ≠ []) :
    FanOut.collect ended joined = .error e := by
  have hrecords : ended.flatMap Outcome.listed = [] := by
    refine List.flatMap_eq_nil_iff.2 fun o ho => ?_
    obtain ⟨_, _, rfl⟩ := List.mem_map.1 (he.mem_iff.1 ho)
    rfl
  have hfailures : ended.filterMap Outcome.failure? = List.replicate branches.length e := by
    have hmap : branches.filterMap (Outcome.failure? ∘ fun _ => .failed e) =
        List.replicate branches.length e := by
      rw [← List.map_const', ← List.filterMap_eq_map]
      rfl
    have hperm := he.filterMap Outcome.failure?
    rwa [List.filterMap_map, hmap, List.perm_replicate] at hperm
  have hlast : FanOut.lastFailure? ended joined = some e := by
    rw [FanOut.lastFailure?, hfailures, List.getLast?_replicate, if_neg (by simpa using hne)]
    rfl
  rw [FanOut.collect_eq, hrecords, hlast]
  rfl

theorem collect_listed {tags : List String} {ended joined : List Outcome}
    (he : ended.Perm (branches.map fun b => .records (Record.ofTags b tags)))
    (hj : joined.Perm (branches.map fun b => .records (Record.ofTags b tags))) :
    ∃ records, FanOut.collect ended joined = .ok records ∧
      records.Perm (branches.flatMap (Record.ofTags · tags)) := by
  have hsucceeds : ∀ o ∈ branches.map fun b => Outcome.records (Record.ofTags b tags),
      o.Succeeds := by
    intro o ho
    obtain ⟨_, _, rfl⟩ := List.mem_map.1 ho
    exact ⟨rfl, rfl⟩
  refine ⟨_, (FanOut.collect_eq_ok_iff he hj).2 ⟨rfl, .inr hsucceeds⟩, ?_⟩
  refine (he.flatMap_right Outcome.listed).trans (.of_eq ?_)
  rw [List.flatMap_map]
  rfl

/-! ## What a fetch makes of the tags -/

theorem fetch_eq_of_interleave {results : List (Except Stop (List Record))} {t t' : Trace}
    (h : Session.interleave (c.world server) timing.schedule
      (branches.map (c.branchRecords limit repository)) t = (results, t')) :
    c.fetch server timing limit repository branches t =
      (outcomes results >>= fun ended =>
        (FanOut.collect (timing.sending.filterMap (ended[·]?))
          (timing.joining.filterMap (ended[·]?))).mapError .error >>= fun records =>
            pure (Record.sortByRecency records), t') := by
  rw [fetch, h]

/-- The records of branches that all list the same tags, or stop for the same reason. -/
inductive Labels (branches : List String) :
    Except Stop (List String) → Except Stop (List Record) → Prop
  | stopped (stop : Stop) : Labels branches (.error stop) (.error stop)
  | listed {tags : List String} {records : List Record}
      (h : records.Perm (branches.flatMap (Record.ofTags · tags))) :
    Labels branches (.ok tags) (.ok records)

namespace Labels

variable {branch : String} {listing : Except Stop (List String)}
  {whole own : Except Stop (List Record)}

theorem error_iff (h : Labels branches listing whole) (h₁ : Labels [branch] listing own)
    (stop : Stop) : whole = .error stop ↔ own = .error stop := by
  cases h with
  | stopped =>
    cases h₁
    rfl
  | listed =>
    cases h₁
    exact iff_of_false nofun nofun

theorem filter_perm {records : List Record} (h : Labels branches listing (.ok records))
    (h₁ : Labels [branch] listing own) : ∃ list, own = .ok list ∧
      (records.filter (·.branch = branch)).Perm
        (List.replicate (branches.count branch) list).flatten := by
  cases h with
  | @listed tags _ hperm =>
    cases h₁ with
    | @listed _ list hlist =>
      rw [List.flatMap_singleton] at hlist
      refine ⟨list, rfl, ?_⟩
      calc (records.filter (·.branch = branch)).Perm
            ((branches.flatMap (Record.ofTags · tags)).filter (·.branch = branch)) := hperm.filter _
        _ = (List.replicate (branches.count branch) (Record.ofTags branch tags)).flatten :=
            Record.filter_flatMap_ofTags branches tags branch
        List.Perm _ (List.replicate (branches.count branch) list).flatten :=
            perm_flatten_replicate hlist.symm _

end Labels

/-- A fetch from a registry without memory labels the tags of a single listing, and sends the
requests of that listing once for each branch. -/
theorem labels_of_fetch (c : Catalog) (limit : Nat) (repository : String)
    (hserver : server.IsStateless) (hne : branches ≠ [])
    (hs : timing.sending.Perm (List.range branches.length))
    (hj : timing.joining.Perm (List.range branches.length)) (t : Trace) : ∃ events,
      (c.fetch server timing limit repository branches t).2 = t ++ events ∧
      (Trace.requests events).Perm (List.replicate branches.length
        ((c.tags limit repository).run (c.world server) []).2.requests).flatten ∧
      Labels branches ((c.tags limit repository).run (c.world server) []).1
        (c.fetch server timing limit repository branches t).1 := by
  have hw := isStateless_world hserver c
  obtain ⟨events, hrun, hmerges⟩ := hw.interleave_eq timing.schedule
    (branches.map (c.branchRecords limit repository)) t
  simp only [List.map_map, Function.comp_def, branchRecords_eq,
    Session.run_bind_pure] at hrun hmerges
  rw [fetch_eq_of_interleave hrun]
  refine ⟨events, rfl, ?_, ?_⟩
  · have hperm := hmerges.perm_flatten.filterMap Event.request?
    rwa [List.filterMap_flatten, List.map_const', List.map_replicate] at hperm
  · -- All branches end alike, so their outcomes are known before the two orders are.
    have hplaces : ∀ {outcome : String → Outcome} {places : List Nat},
        places.Perm (List.range branches.length) →
          (places.filterMap ((branches.map outcome)[·]?)).Perm (branches.map outcome) := by
      intro outcome places hp
      exact perm_filterMap_getElem? (by rwa [List.length_map])
    cases ((c.tags limit repository).run (c.world server) []).1 with
    | ok tags =>
      obtain ⟨records, hcollect, hperm⟩ := collect_listed (hplaces hs) (hplaces hj)
      rw [outcomes_listed]
      show Labels branches (.ok tags) (Except.mapError .error (FanOut.collect _ _) >>= _)
      rw [hcollect]
      exact .listed ((Record.sortedByRecency_sortByRecency records).perm.trans hperm)
    | error stop =>
      cases stop with
      | error e =>
        rw [outcomes_failed]
        show Labels branches (.error (.error e)) (Except.mapError .error (FanOut.collect _ _) >>= _)
        rw [collect_failed _ (hplaces hs) hne]
        exact .stopped _
      | pageLimit =>
        rw [outcomes_pageLimit hne]
        exact .stopped _

variable {branch : String}

/-- **Branches do not interfere.** For a registry without memory, whatever the timing: a fetch of
several branches stops exactly if the fetch of any one of them stops, and for the same reason. If it
does not, the records of a branch are those of its own fetch, once for each time it was asked for.
The requests are those of its own fetch, once for each branch. -/
theorem fetch_of_branches (c : Catalog) (timing timing₁ : Timing) (limit : Nat)
    (repository : String)
    (hserver : server.IsStateless) (hb : branch ∈ branches)
    (hs : timing.sending.Perm (List.range branches.length))
    (hj : timing.joining.Perm (List.range branches.length))
    (hs₁ : timing₁.sending.Perm (List.range 1)) (hj₁ : timing₁.joining.Perm (List.range 1))
    (t t₁ : Trace) :
    (∀ stop, (c.fetch server timing limit repository branches t).1 = .error stop ↔
      (c.fetch server timing₁ limit repository [branch] t₁).1 = .error stop) ∧
    (∀ records, (c.fetch server timing limit repository branches t).1 = .ok records →
      ∃ own, (c.fetch server timing₁ limit repository [branch] t₁).1 = .ok own ∧
        (records.filter (·.branch = branch)).Perm
          (List.replicate (branches.count branch) own).flatten) ∧
    ∃ events events₁, (c.fetch server timing limit repository branches t).2 = t ++ events ∧
      (c.fetch server timing₁ limit repository [branch] t₁).2 = t₁ ++ events₁ ∧
      (Trace.requests events).Perm
        (List.replicate branches.length (Trace.requests events₁)).flatten := by
  obtain ⟨events, htrace, hrequests, hlabels⟩ :=
    labels_of_fetch c limit repository hserver (List.ne_nil_of_mem hb) hs hj t
  obtain ⟨events₁, htrace₁, hrequests₁, hlabels₁⟩ :=
    labels_of_fetch c limit repository hserver (List.cons_ne_nil branch []) hs₁ hj₁ t₁
  rw [List.length_singleton, List.replicate_one, List.flatten_singleton] at hrequests₁
  refine ⟨hlabels.error_iff hlabels₁, ?_, events, events₁, htrace, htrace₁, ?_⟩
  · intro records hrecords
    rw [hrecords] at hlabels
    exact hlabels.filter_perm hlabels₁
  · exact hrequests.trans (perm_flatten_replicate hrequests₁.symm _)

/-- A registry that asks for no credentials and lists two tags. -/
def openTags : Server := fun _ request =>
  if request.url.path = .segments ["v2", ""] then .reply ⟨200, [], .whole []⟩
  else .reply ⟨200, [], .whole (Text.Utf8.encode "\x7b\"tags\":[\"5-a\",\"x\"]\x7d".toList)⟩

/-- A branch that is asked for twice, beside another one. -/
theorem fetch_of_branches_twice : ∃ c : Catalog, c.connection = .anonymous "http://r.test" ∧
    openTags.IsStateless ∧ "main" ∈ ["main", "dev", "main"] ∧ [2, 0, 1].Perm (List.range 3) ∧
    [0, 2, 1].Perm (List.range 3) ∧ ∃ records own,
      (c.fetch openTags ⟨[1, 0, 2, 0], [2, 0, 1], [0, 2, 1]⟩ 10 "app" ["main", "dev", "main"] []).1 =
        .ok records ∧
      (c.fetch openTags (.inTurn 1) 10 "app" ["main"] []).1 = .ok own ∧
      (records.filter (·.branch = "main")).Perm (own ++ own) := by
  refine ⟨⟨.anonymous "http://r.test", .default, rfl⟩, rfl, fun _ _ _ => rfl, by decide, by decide,
    by decide, ?_⟩
  have hok : (fetch ⟨.anonymous "http://r.test", .default, rfl⟩ openTags
      ⟨[1, 0, 2, 0], [2, 0, 1], [0, 2, 1]⟩ 10 "app" ["main", "dev", "main"] []).1.isOk := by
    decide +kernel
  have hb : "main" ∈ ["main", "dev", "main"] := by decide
  obtain ⟨_, hrecords, _⟩ := fetch_of_branches ⟨.anonymous "http://r.test", .default, rfl⟩
    ⟨[1, 0, 2, 0], [2, 0, 1], [0, 2, 1]⟩ (.inTurn 1) 10 "app"
    (show openTags.IsStateless from fun _ _ _ => rfl) hb (by decide) (by decide) (by decide)
    (by decide) [] []
  cases h : (fetch ⟨.anonymous "http://r.test", .default, rfl⟩ openTags
      ⟨[1, 0, 2, 0], [2, 0, 1], [0, 2, 1]⟩ 10 "app" ["main", "dev", "main"] []).1 with
  | error stop =>
    rw [h] at hok
    nomatch hok
  | ok records =>
    obtain ⟨own, hown, hperm⟩ := hrecords records h
    refine ⟨records, own, rfl, hown, ?_⟩
    simpa using hperm

end Catalog

end TagCatalog
