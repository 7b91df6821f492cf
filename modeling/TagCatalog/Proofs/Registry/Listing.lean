import Mathlib.Data.List.Chain
import Mathlib.Data.List.Nodup
import TagCatalog.Proofs.Registry.Page

/-!
# Listing page by page

Each page of a listing names the page after it. The listing ends at a page that names none, or one
that was listed already. It has an error as soon as anything goes wrong, and then gives no tags.

* `Client.Trail`: the pages listed so far, and the URL at which the listing goes on;
* `Client.Ends`: how it ends there;
* `Client.yields_listFrom_iff`: listing follows a trail to its end;
* `Client.Lists`, `Client.Reaches`: a whole listing of a repository, and a part of one;
* **`Client.run_listTags`**: the result of a listing and all that happens for it.
-/

namespace TagCatalog.Client

/-! ## Trails -/

/-- From `url` on, the listing went through `pages` and has come to `stop`; no page was visited
before, and none twice. -/
structure Trail (a : Authorizer) (visited : List Url) (url : Url) (pages : List Page)
    (stop : Url) : Prop where
  fetched : ∀ p ∈ pages, p.Fetched a
  first : (pages.map Page.url ++ [stop]).head? = some url
  linked : pages.IsChain fun p q => p.next? = some (.ok q.url)
  stops : ∀ p ∈ pages.getLast?, p.next? = some (.ok stop)
  distinct : (pages.map Page.url ++ stop :: visited).Nodup

variable {c : Client} {a : Authorizer} {visited : List Url} {url stop : Url} {p : Page}
  {pages : List Page}

theorem trail_nil_iff : Trail a visited url [] stop ↔ stop = url ∧ (url :: visited).Nodup := by
  constructor
  · rintro ⟨-, hfirst, -, -, hdistinct⟩
    cases hfirst
    exact ⟨rfl, hdistinct⟩
  · rintro ⟨rfl, hdistinct⟩
    exact ⟨List.forall_mem_nil _, rfl, .nil, by simp, hdistinct⟩

theorem trail_cons_iff : Trail a visited url (p :: pages) stop ↔
    p.Fetched a ∧ p.url = url ∧
      ∃ next, p.next? = some (.ok next) ∧ Trail a (url :: visited) next pages stop := by
  have hperm : ((p :: pages).map Page.url ++ stop :: visited).Perm
      (pages.map Page.url ++ stop :: p.url :: visited) := by
    rw [← List.singleton_append (l := p.url :: visited), ← List.append_assoc]
    exact (List.perm_middle.trans (by rw [List.append_assoc]; rfl)).symm
  constructor
  · rintro ⟨hfetched, hfirst, hlinked, hstops, hdistinct⟩
    cases hfirst
    refine ⟨hfetched p List.mem_cons_self, rfl, ?_⟩
    have hfetched' : ∀ q ∈ pages, q.Fetched a := fun q hq => hfetched q (List.mem_cons_of_mem p hq)
    have hdistinct' := hperm.nodup_iff.1 hdistinct
    cases pages with
    | nil => exact ⟨stop, hstops p rfl, hfetched', rfl, .nil, by simp, hdistinct'⟩
    | cons q pages =>
      rw [List.isChain_cons_cons] at hlinked
      exact ⟨q.url, hlinked.1, hfetched', rfl, hlinked.2, hstops, hdistinct'⟩
  · rintro ⟨hp, rfl, next, hnext, hfetched, hfirst, hlinked, hstops, hdistinct⟩
    refine ⟨List.forall_mem_cons.2 ⟨hp, hfetched⟩, rfl, ?_, ?_, hperm.nodup_iff.2 hdistinct⟩
    · cases pages with
      | nil => exact .singleton p
      | cons q pages =>
        cases hfirst
        exact .cons_cons hnext hlinked
    · cases pages with
      | nil =>
        cases hfirst
        intro q hq
        cases hq
        exact hnext
      | cons q pages => exact hstops

theorem Trail.not_mem_visited (h : Trail a visited url pages stop) : url ∉ visited := by
  obtain ⟨-, hfirst, -, -, hdistinct⟩ := h
  have hmem : url ∈ pages.map Page.url ++ [stop] := List.mem_of_head? hfirst
  rw [← List.singleton_append, ← List.append_assoc] at hdistinct
  exact fun hvisited => List.disjoint_of_nodup_append hdistinct hmem hvisited

/-! ## The loop -/

/-- How listing ends at `url`, when `left` pages may still be listed. -/
inductive Ends (c : Client) (a : Authorizer) (visited : List Url) (url : Url) :
    (left : Nat) → Trace → Except Stop (List String) → Prop
  | limit : Ends c a visited url 0 [] (.error .pageLimit)
  | failed {left : Nat} {log : Trace} {e : CatalogError} (h : PageFails c a url log e) :
    Ends c a visited url (left + 1) log (.error (.error e))
  | listed {left : Nat} {p : Page} (h : p.Fetched a) (hu : p.url = url)
      (hlast : p.next? = none ∨ ∃ u ∈ url :: visited, p.next? = some (.ok u)) :
    Ends c a visited url (left + 1) p.log (.ok p.tags)

/-- **Listing on from a URL follows a trail and ends where the trail ends.** -/
theorem yields_listFrom_iff {limit : Nat} {log : Trace} {r : Except Stop (List String)}
    (hnew : (url :: visited).Nodup) : (c.listFrom a limit visited url).Yields log r ↔
      ∃ pages stop left rest r', Trail a visited url pages stop ∧ pages.length + left = limit ∧
        Ends c a ((pages.map Page.url).reverse ++ visited) stop left rest r' ∧
        log = pages.flatMap Page.log ++ rest ∧ r = r'.map (pages.flatMap Page.tags ++ ·) := by
  induction limit generalizing visited url log r with
  | zero =>
    rw [listFrom, Session.yields_fail_iff]
    constructor
    · rintro ⟨rfl, rfl⟩
      exact ⟨[], url, 0, [], _, trail_nil_iff.2 ⟨rfl, hnew⟩, rfl, .limit, rfl, rfl⟩
    · rintro ⟨pages, stop, left, rest, r', htrail, hlen, hends, rfl, rfl⟩
      obtain ⟨hpages, rfl⟩ := Nat.add_eq_zero_iff.1 hlen
      cases List.length_eq_zero_iff.1 hpages
      cases hends
      exact ⟨rfl, rfl⟩
  | succ limit ih =>
    rw [yields_listFrom_succ]
    constructor
    · rintro (⟨e, hfails, rfl⟩ | ⟨p, hp, rfl, ⟨hlast, rfl, rfl⟩ |
        ⟨next, rest, r', hnext, hfresh, rfl, hrest, rfl⟩⟩)
      · exact ⟨[], url, limit + 1, log, _, trail_nil_iff.2 ⟨rfl, hnew⟩, Nat.zero_add _,
          .failed hfails, rfl, rfl⟩
      · exact ⟨[], p.url, limit + 1, p.log, _, trail_nil_iff.2 ⟨rfl, hnew⟩, Nat.zero_add _,
          .listed hp rfl hlast, rfl, rfl⟩
      · obtain ⟨pages, stop, left, rest, r', htrail, rfl, hends, rfl, rfl⟩ :=
          (ih (List.nodup_cons.2 ⟨hfresh, hnew⟩)).1 hrest
        refine ⟨p :: pages, stop, left, rest, r', trail_cons_iff.2 ⟨hp, rfl, next, hnext, htrail⟩,
          by rw [List.length_cons]; omega, ?_, ?_, ?_⟩
        · rw [List.map_cons, List.reverse_cons, List.append_assoc]
          exact hends
        · rw [List.flatMap_cons, List.append_assoc]
        · cases r' with
          | ok tags => simp [Except.map]
          | error stop => rfl
    · rintro ⟨pages, stop, left, rest, r', htrail, hlen, hends, rfl, rfl⟩
      cases pages with
      | nil =>
        obtain ⟨rfl, -⟩ := trail_nil_iff.1 htrail
        rw [List.length_nil, Nat.zero_add] at hlen
        subst hlen
        cases hends with
        | failed hfails => exact .inl ⟨_, hfails, rfl⟩
        | listed hp hu hlast => exact .inr ⟨_, hp, hu, .inl ⟨hlast, rfl, rfl⟩⟩
      | cons p pages =>
        obtain ⟨hp, rfl, next, hnext, htrail⟩ := trail_cons_iff.1 htrail
        have hfresh := htrail.not_mem_visited
        rw [List.map_cons, List.reverse_cons, List.append_assoc] at hends
        refine .inr ⟨p, hp, rfl, .inr ⟨next, pages.flatMap Page.log ++ rest,
          r'.map (pages.flatMap Page.tags ++ ·), hnext, hfresh, ?_, ?_, ?_⟩⟩
        · rw [List.flatMap_cons, List.append_assoc]
        · refine (ih (List.nodup_cons.2 ⟨hfresh, hnew⟩)).2 ⟨pages, stop, left, rest, r', htrail,
            ?_, hends, rfl, rfl⟩
          rw [List.length_cons] at hlen
          omega
        · cases r' with
          | ok tags => simp [Except.map]
          | error stop => rfl

/-! ## Listings of a repository -/

/-- The pages of a whole listing: the first is at the URL of the listing, each names the next one,
no two are the same, and the last names no page or one of these. -/
structure Lists (c : Client) (a : Authorizer) (repository : String) (pages : List Page) :
    Prop where
  first : ∃ p ∈ pages.head?, c.endpoint (listingPath repository) = .ok p.url
  fetched : ∀ p ∈ pages, p.Fetched a
  linked : pages.IsChain fun p q => p.next? = some (.ok q.url)
  distinct : (pages.map Page.url).Nodup
  last : ∀ p ∈ pages.getLast?, p.next? = none ∨ ∃ q ∈ pages, p.next? = some (.ok q.url)

/-- A listing has gone through `pages` and has come to `url`. -/
def Reaches (c : Client) (a : Authorizer) (repository : String) (pages : List Page) (url : Url) :
    Prop :=
  ∃ first, c.endpoint (listingPath repository) = .ok first ∧ Trail a [] first pages url

variable {repository : String}

theorem lists_concat_iff : c.Lists a repository (pages ++ [p]) ↔
    c.Reaches a repository pages p.url ∧ p.Fetched a ∧
      (p.next? = none ∨ ∃ u ∈ p.url :: (pages.map Page.url).reverse, p.next? = some (.ok u)) := by
  have hlast : (∃ q ∈ pages ++ [p], p.next? = some (.ok q.url)) ↔
      ∃ u ∈ p.url :: (pages.map Page.url).reverse, p.next? = some (.ok u) := by
    simp [or_and_right, exists_or, or_comm]
  have hmap : (pages ++ [p]).map Page.url = pages.map Page.url ++ [p.url] := List.map_append
  constructor
  · rintro ⟨⟨q, hq, hfirst⟩, hfetched, hlinked, hdistinct, hend⟩
    rw [List.isChain_append] at hlinked
    rw [List.forall_mem_append] at hfetched
    refine ⟨⟨q.url, hfirst, hfetched.1, ?_, hlinked.1, ?_, hmap ▸ hdistinct⟩,
      hfetched.2 p List.mem_cons_self, ?_⟩
    · rw [← hmap, List.head?_map, Option.mem_def.1 hq]
      rfl
    · exact fun q hq => hlinked.2.2 q hq p rfl
    · rw [← hlast]
      exact hend p (by simp)
  · rintro ⟨⟨first, hfirst, htrail⟩, hp, hend⟩
    have hhead := htrail.first
    rw [← hmap, List.head?_map, Option.map_eq_some_iff] at hhead
    obtain ⟨q, hq, rfl⟩ := hhead
    refine ⟨⟨q, hq, hfirst⟩, ?_, ?_, hmap ▸ htrail.distinct, ?_⟩
    · exact List.forall_mem_append.2 ⟨htrail.fetched, List.forall_mem_singleton.2 hp⟩
    · refine List.isChain_append.2 ⟨htrail.linked, .singleton p, ?_⟩
      rintro q hq _ ⟨⟩
      exact htrail.stops q hq
    · rw [List.getLast?_concat]
      rintro _ ⟨⟩
      exact hend.imp_right hlast.2

variable {limit : Nat} {log : Trace}

/-- Listing a repository goes wrong at once, or follows a trail to its end. -/
theorem yields_listTags_iff {r : Except Stop (List String)} :
    (c.listTags a limit repository).Yields log r ↔
      (∃ e, c.endpoint (listingPath repository) = .error e ∧ log = [] ∧ r = .error (.error e)) ∨
      ∃ pages stop left rest r', c.Reaches a repository pages stop ∧ pages.length + left = limit ∧
        Ends c a (pages.map Page.url).reverse stop left rest r' ∧
        log = pages.flatMap Page.log ++ rest ∧ r = r'.map (pages.flatMap Page.tags ++ ·) := by
  cases hfirst : c.endpoint (listingPath repository) with
  | error e =>
    have hlist : c.listTags a limit repository = .raise e := by
      rw [listTags, hfirst]
      rfl
    rw [hlist]
    constructor
    · intro h
      exact .inl ⟨e, rfl, Session.yields_fail_iff.1 h⟩
    · rintro (⟨_, ⟨⟩, rfl, rfl⟩ | ⟨_, _, _, _, _, ⟨first, hfirst', _⟩, _⟩)
      · exact .fail _
      · rw [hfirst] at hfirst'
        nomatch hfirst'
  | ok first =>
    have hlist : c.listTags a limit repository = c.listFrom a limit [] first := by
      rw [listTags, hfirst]
      rfl
    rw [hlist, yields_listFrom_iff (List.nodup_singleton first)]
    simp only [List.append_nil]
    constructor
    · rintro ⟨pages, stop, left, rest, r', htrail, h⟩
      exact .inr ⟨pages, stop, left, rest, r', ⟨first, hfirst, htrail⟩, h⟩
    · rintro (⟨_, ⟨⟩, _⟩ | ⟨pages, stop, left, rest, r', ⟨first', hfirst', htrail⟩, h⟩)
      rw [hfirst] at hfirst'
      cases hfirst'
      exact ⟨pages, stop, left, rest, r', htrail, h⟩

theorem yields_listTags_ok_iff {tags : List String} :
    (c.listTags a limit repository).Yields log (.ok tags) ↔
      ∃ pages, c.Lists a repository pages ∧ pages.length ≤ limit ∧
        log = pages.flatMap Page.log ∧ tags = pages.flatMap Page.tags := by
  rw [yields_listTags_iff]
  constructor
  · rintro (⟨_, _, _, hr⟩ | ⟨pages, stop, left, rest, r', hreaches, rfl, hends, rfl, hr⟩)
    · nomatch hr
    · cases hends with
      | limit | failed => nomatch hr
      | @listed left p hp hu hlast =>
        cases hr
        subst hu
        refine ⟨pages ++ [p], lists_concat_iff.2 ⟨hreaches, hp, hlast⟩, ?_, ?_, ?_⟩
        · rw [List.length_append, List.length_singleton]
          omega
        · rw [List.flatMap_append, List.flatMap_singleton]
        · rw [List.flatMap_append, List.flatMap_singleton]
  · rintro ⟨pages, hlists, hlen, rfl, rfl⟩
    obtain rfl | ⟨pages, p, rfl⟩ := pages.eq_nil_or_concat'
    · obtain ⟨_, ⟨⟩, _⟩ := hlists.first
    · obtain ⟨hreaches, hp, hlast⟩ := lists_concat_iff.1 hlists
      rw [List.length_append, List.length_singleton] at hlen
      obtain ⟨left, rfl⟩ := Nat.exists_eq_add_of_le hlen
      refine .inr ⟨pages, p.url, left + 1, p.log, _, hreaches, by omega, .listed hp rfl hlast,
        ?_, ?_⟩
      · rw [List.flatMap_append, List.flatMap_singleton]
      · rw [List.flatMap_append, List.flatMap_singleton]
        rfl

theorem yields_listTags_error_iff {e : CatalogError} :
    (c.listTags a limit repository).Yields log (.error (.error e)) ↔
      c.endpoint (listingPath repository) = .error e ∧ log = [] ∨
      ∃ pages url rest, c.Reaches a repository pages url ∧ PageFails c a url rest e ∧
        pages.length < limit ∧ log = pages.flatMap Page.log ++ rest := by
  rw [yields_listTags_iff]
  constructor
  · rintro (⟨e', hfirst, rfl, hr⟩ | ⟨pages, stop, left, rest, r', hreaches, rfl, hends, rfl, hr⟩)
    · cases hr
      exact .inl ⟨hfirst, rfl⟩
    · cases hends with
      | limit | listed => nomatch hr
      | failed hfails =>
        cases hr
        exact .inr ⟨pages, stop, rest, hreaches, hfails, by omega, rfl⟩
  · rintro (⟨hfirst, rfl⟩ | ⟨pages, url, rest, hreaches, hfails, hlen, rfl⟩)
    · exact .inl ⟨e, hfirst, rfl, rfl⟩
    · obtain ⟨left, rfl⟩ := Nat.exists_eq_add_of_lt hlen
      exact .inr ⟨pages, url, left + 1, rest, _, hreaches, by omega, .failed hfails, rfl, rfl⟩

theorem yields_listTags_pageLimit_iff :
    (c.listTags a limit repository).Yields log (.error .pageLimit) ↔
      ∃ pages url, c.Reaches a repository pages url ∧ pages.length = limit ∧
        log = pages.flatMap Page.log := by
  rw [yields_listTags_iff]
  constructor
  · rintro (⟨_, _, _, hr⟩ | ⟨pages, stop, left, rest, r', hreaches, rfl, hends, rfl, hr⟩)
    · nomatch hr
    · cases hends with
      | failed | listed => nomatch hr
      | limit => exact ⟨pages, stop, hreaches, rfl, List.append_nil _⟩
  · rintro ⟨pages, url, hreaches, rfl, rfl⟩
    exact .inr ⟨pages, url, 0, [], _, hreaches, rfl, .limit, (List.append_nil _).symm, rfl⟩

/-- **The result of a listing, and all that happens for it.** It has tags exactly if its pages are
the whole listing of the repository: then the tags are those of the pages in their order. It has an
error exactly if its URL cannot be read or a page that it reaches fails; nothing happens after the
step that fails. A listing that is allowed `limit` pages stops where it reaches one more. -/
theorem run_listTags (c : Client) (a : Authorizer) (limit : Nat) (repository : String) (w : World)
    (t t' : Trace) :
    (∀ tags, (c.listTags a limit repository).run w t = (.ok tags, t') ↔
      ∃ pages, c.Lists a repository pages ∧ pages.length ≤ limit ∧
        tags = pages.flatMap Page.tags ∧ w.Answers t (pages.flatMap Page.log) ∧
        t' = t ++ pages.flatMap Page.log) ∧
    (∀ e, (c.listTags a limit repository).run w t = (.error (.error e), t') ↔
      c.endpoint (listingPath repository) = .error e ∧ t' = t ∨
      ∃ pages url log, c.Reaches a repository pages url ∧ PageFails c a url log e ∧
        pages.length < limit ∧ w.Answers t (pages.flatMap Page.log ++ log) ∧
        t' = t ++ (pages.flatMap Page.log ++ log)) ∧
    ((c.listTags a limit repository).run w t = (.error .pageLimit, t') ↔
      ∃ pages url, c.Reaches a repository pages url ∧ pages.length = limit ∧
        w.Answers t (pages.flatMap Page.log) ∧ t' = t ++ pages.flatMap Page.log) := by
  refine ⟨fun tags => ?_, fun e => ?_, ?_⟩
  · rw [Session.run_eq_iff]
    constructor
    · rintro ⟨log, hy, hw, rfl⟩
      obtain ⟨pages, hlists, hlen, rfl, rfl⟩ := yields_listTags_ok_iff.1 hy
      exact ⟨pages, hlists, hlen, rfl, hw, rfl⟩
    · rintro ⟨pages, hlists, hlen, rfl, hw, rfl⟩
      exact ⟨_, yields_listTags_ok_iff.2 ⟨pages, hlists, hlen, rfl, rfl⟩, hw, rfl⟩
  · rw [Session.run_eq_iff]
    constructor
    · rintro ⟨log, hy, hw, rfl⟩
      rcases yields_listTags_error_iff.1 hy with ⟨hfirst, rfl⟩ |
        ⟨pages, url, rest, hreaches, hfails, hlen, rfl⟩
      · exact .inl ⟨hfirst, List.append_nil t⟩
      · exact .inr ⟨pages, url, rest, hreaches, hfails, hlen, hw, rfl⟩
    · rintro (⟨hfirst, rfl⟩ | ⟨pages, url, rest, hreaches, hfails, hlen, hw, rfl⟩)
      · exact ⟨[], yields_listTags_error_iff.2 (.inl ⟨hfirst, rfl⟩), trivial,
          (List.append_nil _).symm⟩
      · exact ⟨_, yields_listTags_error_iff.2
          (.inr ⟨pages, url, rest, hreaches, hfails, hlen, rfl⟩), hw, rfl⟩
  · rw [Session.run_eq_iff]
    constructor
    · rintro ⟨log, hy, hw, rfl⟩
      obtain ⟨pages, url, hreaches, hlen, rfl⟩ := yields_listTags_pageLimit_iff.1 hy
      exact ⟨pages, url, hreaches, hlen, hw, rfl⟩
    · rintro ⟨pages, url, hreaches, hlen, hw, rfl⟩
      exact ⟨_, yields_listTags_pageLimit_iff.2 ⟨pages, url, hreaches, hlen, rfl⟩, hw, rfl⟩

end TagCatalog.Client
