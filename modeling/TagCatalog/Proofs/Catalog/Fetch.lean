import TagCatalog.Catalog
import TagCatalog.Proofs.FanOut.Coordination
import TagCatalog.Proofs.Record.Recency
import TagCatalog.Proofs.Registry.Listing
import TagCatalog.Proofs.Session.Interleaving

/-!
# Fetching the records of all branches

Each branch has a task of its own: it resolves the repository, lists its pages and labels the
records of their tags. What is fetched are the records of the tasks that succeeded, put together in
the order in which the tasks sent them and then sorted by recency.

* `Catalog.Task`, `Catalog.Ran`: a task that has ended, and what it did;
* `Catalog.exists_tasks`: sessions of branches that ended are tasks;
* `Catalog.Runs`: the tasks of one fetch, whose logs are merged into what happened;
* **`Catalog.records_of_fetch`**: the records of a fetch that succeeds.
-/

namespace TagCatalog.Catalog

/-! ## Tasks -/

/-- The task of a branch that has ended. -/
structure Task where
  label : String
  /-- All that happened for it. -/
  log : Trace
  /-- The pages that it listed, or its error. -/
  ended : Except CatalogError (List Client.Page)

namespace Task

/-- The records of the tags on all pages; a task that failed has none. -/
def records (τ : Task) : List Record :=
  match τ.ended with
  | .ok pages => Record.ofTags τ.label (pages.flatMap Client.Page.tags)
  | .error _ => []

/-- The task has listed its pages. -/
def succeeded (τ : Task) : Bool := τ.ended.isOk

/-- What the task sends. -/
def outcome (τ : Task) : Outcome :=
  match τ.ended with
  | .ok _ => .records τ.records
  | .error e => .failed e

theorem listed_outcome (τ : Task) : τ.outcome.listed = τ.records := by
  rw [outcome]
  cases h : τ.ended with
  | ok pages => rfl
  | error e => rw [records, h]; rfl

theorem records_of_not_succeeded {τ : Task} (h : ¬ τ.succeeded) : τ.records = [] := by
  rw [records]
  rw [succeeded] at h
  cases he : τ.ended with
  | ok pages => rw [he] at h; exact absurd rfl h
  | error e => rfl

theorem flatMap_filter_succeeded (tasks : List Task) :
    (tasks.filter succeeded).flatMap records = tasks.flatMap records := by
  induction tasks with
  | nil => rfl
  | cons τ tasks ih =>
    by_cases h : τ.succeeded
    · rw [List.filter_cons_of_pos h, List.flatMap_cons, List.flatMap_cons, ih]
    · rw [List.filter_cons_of_neg h, List.flatMap_cons, records_of_not_succeeded h, ih]
      rfl

theorem mem_records {τ : Task} {r : Record} (h : r ∈ τ.records) : ∃ pages,
    τ.ended = .ok pages ∧ r.branch = τ.label ∧ r.tag ∈ pages.flatMap Client.Page.tags := by
  rw [records] at h
  cases he : τ.ended with
  | ok pages =>
    rw [he] at h
    exact ⟨pages, rfl, Record.mem_ofTags h⟩
  | error e =>
    rw [he] at h
    exact absurd h List.not_mem_nil

end Task

variable {c : Catalog} {limit : Nat} {repository : String}

/-- The task did what its log says: it found the repository and listed all pages of it, or ended
with its error. -/
def Ran (c : Catalog) (limit : Nat) (repository : String) (τ : Task) : Prop :=
  match τ.ended with
  | .ok pages => ∃ handle probing,
      (Repository.resolve c.connection repository).Yields probing (.ok handle) ∧
      handle.client.Lists handle.authorizer handle.name.text pages ∧ pages.length ≤ limit ∧
      τ.log = probing ++ pages.flatMap Client.Page.log
  | .error e => (c.branchRecords limit repository τ.label).Yields τ.log (.error (.error e))

theorem exists_task {branch : String} {log : Trace} {list : List Record}
    (h : (c.branchRecords limit repository branch).Yields log (.ok list)) : ∃ pages,
      c.Ran limit repository ⟨branch, log, .ok pages⟩ ∧
        list = Record.ofTags branch (pages.flatMap Client.Page.tags) := by
  obtain ⟨handle, probing, rest, rfl, hresolve, h⟩ := Session.yields_bind_ok.1 h
  obtain ⟨r, hlist, hr⟩ := Session.yields_bind_pure_iff.1 h
  cases r with
  | error stop => nomatch hr
  | ok tags =>
    cases hr
    obtain ⟨pages, hlists, hlen, rfl, rfl⟩ := Client.yields_listTags_ok_iff.1 hlist
    exact ⟨pages, ⟨handle, probing, hresolve, hlists, hlen, rfl⟩, rfl⟩

theorem outcomes_cons_eq_ok {r : Except Stop (List Record)}
    {results : List (Except Stop (List Record))} {ended : List Outcome}
    (h : outcomes (r :: results) = .ok ended) : ∃ o rest, ended = o :: rest ∧
      outcomes results = .ok rest ∧
      ((∃ list, r = .ok list ∧ o = .records list) ∨
        ∃ e, r = .error (.error e) ∧ o = .failed e) := by
  rw [outcomes, List.mapM_cons, ← outcomes] at h
  cases hrest : outcomes results with
  | error stop =>
    rw [hrest] at h
    rcases r with (e | _) | list <;> nomatch h
  | ok rest =>
    rw [hrest] at h
    rcases r with (e | _) | list
    · cases h
      exact ⟨_, rest, rfl, rfl, .inr ⟨e, rfl, rfl⟩⟩
    · nomatch h
    · cases h
      exact ⟨_, rest, rfl, rfl, .inl ⟨list, rfl, rfl⟩⟩

/-- **Sessions of branches that all came to an outcome are tasks with these outcomes.** -/
theorem exists_tasks {branches : List String} {logs : List Trace}
    {results : List (Except Stop (List Record))} {ended : List Outcome}
    (hy : Session.YieldEach (branches.map (c.branchRecords limit repository)) logs results)
    (h : outcomes results = .ok ended) : ∃ tasks : List Task, tasks.map Task.label = branches ∧
      tasks.map Task.log = logs ∧ tasks.map Task.outcome = ended ∧
      ∀ τ ∈ tasks, c.Ran limit repository τ := by
  induction branches generalizing logs results ended with
  | nil =>
    cases hy
    cases h
    exact ⟨[], rfl, rfl, rfl, List.forall_mem_nil _⟩
  | cons branch branches ih =>
    rw [List.map_cons] at hy
    cases hy with
    | @cons _ log _ _ logs results first rest =>
      obtain ⟨o, ended, rfl, hrest, ho⟩ := outcomes_cons_eq_ok h
      obtain ⟨tasks, rfl, rfl, rfl, hran⟩ := ih rest hrest
      obtain ⟨τ, rfl, rfl, rfl, hτ⟩ : ∃ τ : Task, τ.label = branch ∧ τ.log = log ∧
          τ.outcome = o ∧ c.Ran limit repository τ := by
        rcases ho with ⟨list, rfl, rfl⟩ | ⟨e, rfl, rfl⟩
        · obtain ⟨pages, hpages, rfl⟩ := exists_task first
          exact ⟨⟨branch, log, .ok pages⟩, rfl, rfl, rfl, hpages⟩
        · exact ⟨⟨branch, log, .error e⟩, rfl, rfl, rfl, first⟩
      exact ⟨τ :: tasks, rfl, rfl, rfl, List.forall_mem_cons.2 ⟨hτ, hran⟩⟩

/-! ## The fetch -/

/-- The tasks of a fetch, one for each branch; their logs are merged into what happened between `t`
and `t'`. -/
structure Runs (c : Catalog) (server : Server) (limit : Nat) (repository : String)
    (branches : List String) (t t' : Trace) (tasks : List Task) : Prop where
  labels : tasks.map Task.label = branches
  ran : ∀ τ ∈ tasks, c.Ran limit repository τ
  merged : ∃ events, t' = t ++ events ∧ Merges (tasks.map Task.log) events ∧
    (c.world server).Answers t events

theorem perm_filterMap_getElem? {α : Type} {l : List α} {places : List Nat}
    (h : places.Perm (List.range l.length)) : (places.filterMap (l[·]?)).Perm l := by
  have hmap : (List.range l.length).map (l[·]?) = l.map some :=
    List.ext_getElem (by simp) fun i _ _ => by simp
  have hrange : (List.range l.length).filterMap (l[·]?) = l := by
    have hid := congrArg (List.filterMap id) hmap
    rw [List.filterMap_map, List.filterMap_map] at hid
    exact hid.trans List.filterMap_some
  exact (h.filterMap _).trans (.of_eq hrange)

variable {server : Server} {timing : Timing} {branches : List String} {t t' : Trace}
  {records : List Record}

theorem exists_runs (h : c.fetch server timing limit repository branches t = (.ok records, t')) :
    ∃ tasks, c.Runs server limit repository branches t t' tasks ∧ ∃ merged,
      FanOut.collect ((timing.sending.filterMap (tasks[·]?)).map Task.outcome)
        ((timing.joining.filterMap (tasks[·]?)).map Task.outcome) = .ok merged ∧
      records = Record.sortByRecency merged := by
  rcases hrun : Session.interleave (c.world server) timing.schedule
    (branches.map (c.branchRecords limit repository)) t with ⟨results, t₁⟩
  rw [fetch, hrun, Prod.mk.injEq] at h
  obtain ⟨h, rfl⟩ := h
  obtain ⟨logs, events, ht, hw, hmerges, hy⟩ := Session.interleave_spec hrun
  cases hended : outcomes results with
  | error stop => rw [hended] at h; nomatch h
  | ok ended =>
    rw [hended] at h
    obtain ⟨tasks, hlabels, rfl, rfl, hran⟩ := exists_tasks hy hended
    refine ⟨tasks, ⟨hlabels, hran, events, ht, hmerges, hw⟩, ?_⟩
    have hplaces : ∀ places : List Nat, places.filterMap ((tasks.map Task.outcome)[·]?) =
        (places.filterMap (tasks[·]?)).map Task.outcome := by
      intro places
      rw [List.map_filterMap]
      exact List.filterMap_congr fun i _ => List.getElem?_map
    rw [← hplaces, ← hplaces]
    have hbind : ((FanOut.collect (timing.sending.filterMap ((tasks.map Task.outcome)[·]?))
        (timing.joining.filterMap ((tasks.map Task.outcome)[·]?))).mapError Stop.error >>=
          fun merged => pure (Record.sortByRecency merged)) = .ok records := h
    cases hcollect : FanOut.collect (timing.sending.filterMap ((tasks.map Task.outcome)[·]?))
        (timing.joining.filterMap ((tasks.map Task.outcome)[·]?)) with
    | error e =>
      rw [hcollect] at hbind
      nomatch hbind
    | ok merged =>
      rw [hcollect] at hbind
      cases hbind
      exact ⟨merged, rfl, rfl⟩

/-- **The records of a fetch that succeeds** are those of the tasks that succeeded, put together
in the order in which these sent them and sorted by recency, records of the same time as they were
put together. So each record of such a task is there as often as the task has it, and no other;
every record carries the label of its task and a tag that the task listed; and the records of a
task that are of one time stand together in the order of its listing. -/
theorem records_of_fetch (hs : timing.sending.Perm (List.range branches.length))
    (hj : timing.joining.Perm (List.range branches.length))
    (h : c.fetch server timing limit repository branches t = (.ok records, t')) :
    ∃ tasks, c.Runs server limit repository branches t t' tasks ∧
      (∃ order : List Task, order = (timing.sending.filterMap (tasks[·]?)).filter Task.succeeded ∧
        order.Perm (tasks.filter Task.succeeded) ∧
        Record.SortedByRecency (order.flatMap Task.records) records) ∧
      records.Perm (tasks.flatMap Task.records) ∧
      (∀ r ∈ records, ∃ τ ∈ tasks, r ∈ τ.records ∧ ∃ pages, τ.ended = .ok pages ∧
        r.branch = τ.label ∧ r.tag ∈ pages.flatMap Client.Page.tags) ∧
      ∀ τ ∈ tasks, ∀ s, τ.records.filter (·.seconds = s) <:+: records.filter (·.seconds = s) := by
  obtain ⟨tasks, hruns, merged, hcollect, rfl⟩ := exists_runs h
  have hlen : branches.length = tasks.length := by rw [← hruns.labels, List.length_map]
  have hsent := perm_filterMap_getElem? (l := tasks) (hlen ▸ hs)
  have hjoined := perm_filterMap_getElem? (l := tasks) (hlen ▸ hj)
  set sent := timing.sending.filterMap (tasks[·]?)
  have hmerged : merged = (sent.filter Task.succeeded).flatMap Task.records := by
    rw [((FanOut.collect_eq_ok_iff (hsent.map _) (hjoined.map _)).1 hcollect).1,
      Task.flatMap_filter_succeeded, List.flatMap_map]
    exact congrArg (sent.flatMap ·) (funext Task.listed_outcome)
  have hsorted := Record.sortedByRecency_sortByRecency merged
  have hperm : (Record.sortByRecency merged).Perm (tasks.flatMap Task.records) := by
    rw [← Task.flatMap_filter_succeeded]
    refine hsorted.perm.trans ?_
    rw [hmerged]
    exact (hsent.filter _).flatMap_right _
  refine ⟨tasks, hruns, ⟨_, rfl, hsent.filter _, hmerged ▸ hsorted⟩, hperm, ?_, ?_⟩
  · intro r hr
    obtain ⟨τ, hτ, hr⟩ := List.mem_flatMap.1 (hperm.mem_iff.1 hr)
    exact ⟨τ, hτ, hr, Task.mem_records hr⟩
  · intro τ hτ s
    obtain ⟨before, after, hsplit⟩ := List.append_of_mem (hsent.mem_iff.2 hτ)
    rw [hsorted.stable, hmerged, Task.flatMap_filter_succeeded, hsplit, List.flatMap_append,
      List.flatMap_cons, List.filter_append, List.filter_append]
    exact ⟨_, _, (List.append_assoc _ _ _)⟩

/-- A registry that refuses its first request and lists two tags. -/
def twoTags : Server := fun before request =>
  if before = [] then .refused
  else if request.url.path = .segments ["v2", ""] then .reply ⟨200, [], .whole []⟩
  else .reply ⟨200, [], .whole (Text.Utf8.encode "\x7b\"tags\":[\"5-a\",\"x\"]\x7d".toList)⟩

/-- Two branches have the same label, and the one between them fails. -/
theorem records_of_fetch_twoTags : ∃ c : Catalog, c.connection = .anonymous "http://r.test" ∧
    [2, 0, 1].Perm (List.range 3) ∧ [0, 2, 1].Perm (List.range 3) ∧ ∃ records t',
      c.fetch twoTags ⟨[1, 0, 2, 0], [2, 0, 1], [0, 2, 1]⟩ 10 "app" ["main", "dev", "main"] [] =
        (.ok records, t') ∧
      ∃ tasks, c.Runs twoTags 10 "app" ["main", "dev", "main"] [] t' tasks ∧
        (∃ order : List Task, order = ([2, 0, 1].filterMap (tasks[·]?)).filter Task.succeeded ∧
          order.Perm (tasks.filter Task.succeeded) ∧
          Record.SortedByRecency (order.flatMap Task.records) records) ∧
        records.Perm (tasks.flatMap Task.records) := by
  refine ⟨⟨.anonymous "http://r.test", .default, rfl⟩, rfl, by decide, by decide, ?_⟩
  rcases h : fetch ⟨.anonymous "http://r.test", .default, rfl⟩ twoTags
    ⟨[1, 0, 2, 0], [2, 0, 1], [0, 2, 1]⟩ 10 "app" ["main", "dev", "main"] [] with ⟨r, t'⟩
  have hok : (fetch ⟨.anonymous "http://r.test", .default, rfl⟩ twoTags
      ⟨[1, 0, 2, 0], [2, 0, 1], [0, 2, 1]⟩ 10 "app" ["main", "dev", "main"] []).1.isOk := by
    decide +kernel
  rw [h] at hok
  cases r with
  | error stop => nomatch hok
  | ok records =>
    obtain ⟨tasks, hruns, horder, hperm, _⟩ :=
      records_of_fetch (by decide) (by decide) h
    exact ⟨records, t', rfl, tasks, hruns, horder, hperm⟩

end TagCatalog.Catalog
