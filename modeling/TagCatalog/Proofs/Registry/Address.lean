import TagCatalog.Proofs.Registry.Discovery
import TagCatalog.Proofs.Repository.Name
import TagCatalog.Proofs.Url.Path

/-!
# Where repositories are listed

The listing of a repository is below the directories of its registry, `v2` and its own name, as they
are written: a name holds no character that the text of a URL gives a meaning to, and no component
of it begins with a dot.

* `Client.Mount`: a base URL of a host and directories;
* `RepositoryName.isPlain_of_mem_splitAll`: the components of a name stand for themselves;
* `Client.Mount.parse_append`: the URL of a path below a registry;
* **`Client.listing_below_mount`**: the URL of a listing, for every name.
-/

namespace TagCatalog

namespace RepositoryName

open Text Grammar

/-! ## Components of a name -/

theorem exists_cons_of_mem_component {s : List Char} (hs : s ∈ component) :
    ∃ c t, s = c :: t ∧ c.isAlphanum := by
  obtain ⟨_, ⟨_, ⟨c, hc, rfl⟩, t, -, rfl⟩, r, -, rfl⟩ := hs
  refine ⟨c, t ++ r, rfl, ?_⟩
  simp only [isWordChar, Bool.or_eq_true, Bool.and_eq_true, decide_eq_true_eq] at hc
  unfold Char.isAlphanum Char.isAlpha Char.isLower Char.isDigit
  simp only [Bool.or_eq_true, Bool.and_eq_true, decide_eq_true_eq]
  tauto

theorem exists_cons_of_mem_host {s : List Char} (hs : s ∈ host) :
    ∃ c t, s = c :: t ∧ c.isAlphanum := by
  obtain ⟨_, ⟨_, ⟨_, ⟨c, hc, rfl⟩, t, -, rfl⟩, r, -, rfl⟩, q, -, rfl⟩ := hs
  exact ⟨c, t ++ (r ++ q), by simp, hc⟩

theorem isPlain_of_isNameChar {s : List Char} (h : ∀ c ∈ s, isNameChar c) (hslash : '/' ∉ s)
    (hdot : s.head? ≠ some '.') : Url.Path.IsPlain s where
  chars c hc := forall_isNameChar
    (P := fun c => c ≠ '/' → Url.inPath c = false ∧ c ≠ '%' ∧ Url.isSlash true c = false)
    (by decide) (h c hc) fun e => hslash (e ▸ hc)
  start := hdot

/-- **The components of a name** stand for themselves in a path. -/
theorem isPlain_of_mem_splitAll {s t : List Char} (hs : s ∈ name) (ht : t ∈ splitAll '/' s) :
    Url.Path.IsPlain t := by
  obtain ⟨first, rest, h⟩ := List.exists_cons_of_ne_nil (splitOn_ne_nil (· == '/') s)
  obtain ⟨hrest, hfirst⟩ := (mem_name_iff h).1 hs
  have hchars : ∀ c ∈ t, isNameChar c := fun c hc => of_le name_le hs (mem_of_mem_splitAll ht hc)
  rw [splitAll, h] at ht
  have hkind : t ∈ component ∨ t ∈ host := by
    obtain rfl | ht := List.mem_cons.1 ht
    · exact hfirst.imp_right And.left
    · exact .inl (hrest t ht)
  obtain ⟨c, r, rfl, hc⟩ := hkind.elim exists_cons_of_mem_component exists_cons_of_mem_host
  refine isPlain_of_isNameChar hchars ?_ ?_
  · exact hkind.elim slash_not_mem_component slash_not_mem_host
  · rintro ⟨⟩
    exact absurd hc (by decide)

theorem text_injective : Function.Injective RepositoryName.text := by
  rintro ⟨text, valid⟩ ⟨text', valid'⟩ h
  cases h
  rfl

theorem mem_name (n : RepositoryName) : n.text.toList ∈ name := (fault?_eq_none_iff.1 n.valid).1

theorem isPlain_of_mem_append {n : RepositoryName} (before after : List (List Char)) {s : List Char}
    (hbefore : ∀ t ∈ before, Url.Path.IsPlain t) (hafter : ∀ t ∈ after, Url.Path.IsPlain t)
    (h : s ∈ before ++ (splitAll '/' n.text.toList ++ after)) : Url.Path.IsPlain s := by
  rw [List.mem_append, List.mem_append] at h
  obtain h | h | h := h
  · exact hbefore s h
  · exact isPlain_of_mem_splitAll n.mem_name h
  · exact hafter s h

end RepositoryName

namespace Client

open Url

/-! ## Base URLs of a host and directories -/

/-- A character of a directory: a letter, a digit, a dash or an underscore. -/
def isDirectoryChar (c : Char) : Bool := c.isAlphanum || c == '-' || c == '_'

theorem isNameChar_of_isDirectoryChar {c : Char} (h : isDirectoryChar c) :
    RepositoryName.isNameChar c := by
  rw [isDirectoryChar, Bool.or_eq_true, Bool.or_eq_true, beq_iff_eq, beq_iff_eq] at h
  obtain (halnum | rfl) | rfl := h
  · rw [RepositoryName.isNameChar, halnum, Bool.true_or]
  · rfl
  · rfl

theorem isPlain_of_isDirectoryChar {s : List Char} (h : ∀ c ∈ s, isDirectoryChar c) :
    Path.IsPlain s := by
  refine RepositoryName.isPlain_of_isNameChar
    (fun c hc => isNameChar_of_isDirectoryChar (h c hc)) (fun hc => ?_) fun hc => ?_
  · nomatch h _ hc
  · nomatch h _ (List.mem_of_mem_head? hc)

/-- Where a registry is mounted: at a host, perhaps with a port, below directories. -/
structure Mount where
  scheme : String
  /-- The host, and the port if there is one. -/
  authority : List Char
  directories : List (List Char)
  scheme_web : scheme = "http" ∨ scheme = "https"
  authority_ne : authority ≠ []
  authority_chars : ∀ c ∈ authority, isVoid c = false ∧ endsAuthority true c = false ∧ c ≠ '@'
  directories_ne : ∀ s ∈ directories, s ≠ []
  directories_chars : ∀ s ∈ directories, ∀ c ∈ s, isDirectoryChar c

namespace Mount

variable {m : Mount} {base : Url} {pieces : List (List Char)}

/-- The path of the directories. -/
def path (m : Mount) : List Char := m.directories.flatMap ('/' :: ·)

/-- The text of the base URL. -/
def text (m : Mount) : String := m.scheme ++ "://" ++ String.ofList (m.authority ++ m.path)

theorem isPlain_of_mem_directories {s : List Char} (h : s ∈ m.directories) : Path.IsPlain s :=
  isPlain_of_isDirectoryChar (m.directories_chars s h)

theorem scheme_spec (m : Mount) : m.scheme ≠ "file" ∧ isSpecialScheme m.scheme ∧
    (∃ c ∈ m.scheme.toList.head?, c.isAlpha) ∧ (∀ c ∈ m.scheme.toList, isSchemeChar c) ∧
    (∀ c ∈ m.scheme.toList, isEdge c = false) ∧
    m.scheme = String.ofList (m.scheme.toList.map Char.toLower) := by
  obtain h | h := m.scheme_web <;> rw [h] <;> exact
    ⟨by decide, by decide, ⟨'h', rfl, rfl⟩, by decide, by decide, by decide⟩

theorem not_isEdge_of_isPlain (hplain : ∀ s ∈ pieces, Path.IsPlain s) :
    ∀ c ∈ pieces.flatMap ('/' :: ·), isEdge c = false := fun c hc =>
  Path.not_isEdge_of_inPath (Path.inPath_of_mem_flatMap hplain c hc)

theorem behindAuthority_append (m : Mount) (pieces : List (List Char)) :
    authorityOf (m.authority ++ pieces.flatMap ('/' :: ·)) = m.authority ∧
      behindAuthority (m.authority ++ pieces.flatMap ('/' :: ·)) = pieces.flatMap ('/' :: ·) := by
  have hauthority : ∀ c ∈ m.authority, (!endsAuthority true c) = true := fun c hc => by
    rw [(m.authority_chars c hc).2.1]
    rfl
  rw [authorityOf, behindAuthority, List.takeWhile_append_of_pos hauthority,
    List.dropWhile_append_of_pos hauthority]
  cases pieces with
  | nil => exact ⟨List.append_nil _, rfl⟩
  | cons s pieces => exact ⟨List.append_nil _, rfl⟩

/-- **A path of plain pieces below a registry** is put behind the directories as it is. -/
theorem parse_append (m : Mount) (hplain : ∀ s ∈ pieces, Path.IsPlain s) :
    parse (m.text ++ String.ofList (pieces.flatMap ('/' :: ·))) =
      (withAuthority m.scheme m.authority).map
        (continued ((m.directories ++ pieces).flatMap ('/' :: ·))) := by
  obtain ⟨hfile, hspecial, halpha, hscheme, hedge, hlower⟩ := m.scheme_spec
  have hall : ∀ s ∈ m.directories ++ pieces, Path.IsPlain s := fun s hs =>
    (List.mem_append.1 hs).elim isPlain_of_mem_directories (hplain s)
  obtain ⟨hauthority, hbehind⟩ := m.behindAuthority_append (m.directories ++ pieces)
  set behind := (m.directories ++ pieces).flatMap ('/' :: ·) with hdef
  have htext : (m.text ++ String.ofList (pieces.flatMap ('/' :: ·))).toList =
      m.scheme.toList ++ ':' :: ('/' :: '/' :: (m.authority ++ behind)) := by
    simp [text, path, hdef]
  have hclean : cleaned (m.scheme.toList ++ ':' :: ('/' :: '/' :: (m.authority ++ behind))) =
      m.scheme.toList ++ ':' :: ('/' :: '/' :: (m.authority ++ behind)) := by
    refine cleaned_eq_self fun c hc => ?_
    rw [List.mem_append, List.mem_cons, List.mem_cons, List.mem_cons, List.mem_append] at hc
    obtain hc | rfl | rfl | rfl | hc | hc := hc
    · exact hedge c hc
    · rfl
    · rfl
    · rfl
    · exact (Bool.or_eq_false_iff.1 (m.authority_chars c hc).1).1
    · exact not_isEdge_of_isPlain hall c hc
  rw [← htext] at hclean
  have hsplit := splitScheme?_eq_some_iff.2
    ⟨m.scheme.toList, hclean.trans htext, halpha, hscheme, hlower⟩
  have hslashes : ('/' :: '/' :: (m.authority ++ behind)).dropWhile (isSlash true) =
      m.authority ++ behind := by
    obtain ⟨c, t, hct⟩ := List.exists_cons_of_ne_nil m.authority_ne
    have hc : isSlash true c = false := by
      have hends := (m.authority_chars c (hct ▸ List.mem_cons_self)).2.1
      rw [endsAuthority, Bool.or_eq_false_iff, Bool.or_eq_false_iff] at hends
      exact hends.1.1
    rw [List.dropWhile_cons_of_pos (by decide), List.dropWhile_cons_of_pos (by decide), hct,
      List.cons_append, List.dropWhile_cons_of_neg (by simp [hc])]
  rw [parse_eq_withAuthority hfile hspecial hsplit, hslashes, withAuthority_eq_map hspecial,
    hauthority, hbehind]

theorem exists_authority (hbase : parse m.text = .ok base) : ∃ v,
    withAuthority m.scheme m.authority = .ok v ∧ base = continued m.path v := by
  have hself := m.parse_append (List.forall_mem_nil Path.IsPlain)
  rw [List.flatMap_nil, List.append_nil, String.ofList_nil, String.append_empty, hbase] at hself
  cases hauthority : withAuthority m.scheme m.authority with
  | error e =>
    rw [hauthority] at hself
    nomatch hself
  | ok v =>
    rw [hauthority] at hself
    exact ⟨v, rfl, Except.ok.inj hself⟩

theorem exists_host (hbase : parse m.text = .ok base) : ∃ host, base.host = some host := by
  obtain ⟨v, hv, rfl⟩ := exists_authority hbase
  obtain ⟨host, hhost, -⟩ := (withAuthority_eq_ok hv).2 m.scheme_spec.2.1
  exact ⟨host, hhost⟩

theorem parse_below (hbase : parse m.text = .ok base) (hne : pieces ≠ [])
    (hplain : ∀ s ∈ pieces, Path.IsPlain s) :
    parse (m.text ++ String.ofList (pieces.flatMap ('/' :: ·))) =
      .ok { base with path := .segments ((m.directories ++ pieces).map String.ofList) } ∧
    base.query = none ∧ base.fragment = none := by
  have hdirectories : ∀ s ∈ m.directories, Path.IsPlain s := fun s => isPlain_of_mem_directories
  have hall : ∀ s ∈ m.directories ++ pieces, Path.IsPlain s := fun s hs =>
    (List.mem_append.1 hs).elim (hdirectories s) (hplain s)
  obtain ⟨v, hv, hcontinued⟩ := exists_authority hbase
  have hbase : base = { v with path := base.path, query := none, fragment := none } := by
    rw [hcontinued]
    by_cases hnil : m.directories = []
    · rw [path, hnil]
      rfl
    · rw [path, continued_of_isPlain hnil hdirectories]
  rw [m.parse_append hplain, hv, hbase]
  have hbelow := continued_of_isPlain (List.append_ne_nil_of_right_ne_nil _ hne) hall v
  exact ⟨congrArg Except.ok hbelow, rfl, rfl⟩

/-! ## The client of a mounted registry -/

theorem exists_last (m : Mount) :
    ∃ c, m.text.toList.getLast? = some c ∧ Text.isBlank c = false ∧ c ≠ '/' := by
  have htext : m.text.toList = (m.scheme.toList ++ "://".toList) ++ (m.authority ++ m.path) := by
    simp [text]
  rw [htext]
  obtain hnil | ⟨init, last, hlast⟩ := m.directories.eq_nil_or_concat'
  · obtain ⟨s, c, hc⟩ := m.authority.eq_nil_or_concat'.resolve_left m.authority_ne
    obtain ⟨hvoid, hends, -⟩ := m.authority_chars c (by simp [hc])
    refine ⟨c, List.getLast?_eq_some_iff.2 ⟨m.scheme.toList ++ "://".toList ++ s, ?_⟩,
      (Bool.or_eq_false_iff.1 hvoid).2, ?_⟩
    · simp [path, hnil, hc]
    · rintro rfl
      nomatch hends
  · have hmem : last ∈ m.directories := by simp [hlast]
    obtain ⟨s, c, rfl⟩ := last.eq_nil_or_concat'.resolve_left (m.directories_ne last hmem)
    have hc : isDirectoryChar c := m.directories_chars _ hmem c (by simp)
    refine ⟨c, List.getLast?_eq_some_iff.2 ⟨m.scheme.toList ++ "://".toList ++ (m.authority ++
      (init.flatMap ('/' :: ·) ++ '/' :: s)), by simp [path, hlast]⟩, ?_,
      fun e => by rw [e] at hc; nomatch hc⟩
    exact RepositoryName.forall_isNameChar (P := fun c => Text.isBlank c = false) (by decide)
      (isNameChar_of_isDirectoryChar hc)

theorem normalizedUrl_text (m : Mount) : normalizedUrl m.text = m.text := by
  obtain ⟨c, hlast, hblank, hslash⟩ := m.exists_last
  obtain ⟨t, ht⟩ : ∃ t, m.text.toList = 'h' :: t := by
    obtain h | h := m.scheme_web
    · exact ⟨"ttp://".toList ++ (m.authority ++ m.path), by simp [text, h]⟩
    · exact ⟨"ttps://".toList ++ (m.authority ++ m.path), by simp [text, h]⟩
  have htrim : Text.trim m.text.toList = m.text.toList := by
    refine Text.trim_eq_self ?_ ?_
    · rw [ht]
      rintro _ ⟨⟩
      rfl
    · rw [hlast]
      rintro _ ⟨⟩
      exact hblank
  have hdrop : Text.dropEnd (· == '/') m.text.toList = m.text.toList := by
    refine Text.dropEnd_eq_self ?_
    rw [hlast]
    rintro _ ⟨⟩
    exact beq_eq_false_iff_ne.2 hslash
  rw [normalizedUrl, htrim, hdrop, String.ofList_toList]

theorem ofUrl_text (m : Mount) : ofUrl m.text = .ok ⟨m.text⟩ := by
  have hne : m.text ≠ "" := by
    intro h
    obtain ⟨c, hlast, -⟩ := m.exists_last
    rw [h] at hlast
    nomatch hlast
  rw [ofUrl, normalizedUrl_text]
  exact if_neg hne

end Mount

/-! ## Listings -/

/-- The path of a listing, in pieces. -/
def listingPieces (n : RepositoryName) : List (List Char) :=
  "v2".toList :: (Text.splitAll '/' n.text.toList ++ ["tags".toList, "list".toList])

theorem isPlain_of_mem_listingPieces {n : RepositoryName} {s : List Char}
    (h : s ∈ listingPieces n) : Path.IsPlain s :=
  RepositoryName.isPlain_of_mem_append ["v2".toList] ["tags".toList, "list".toList] (by decide)
    (by decide) h

theorem listingPath_eq_ofList (n : RepositoryName) :
    listingPath n.text = String.ofList ((listingPieces n).flatMap ('/' :: ·)) := by
  rw [← String.toList_inj, String.toList_ofList, listingPieces, List.flatMap_cons,
    List.flatMap_append, Text.flatMap_splitAll, listingPath]
  simp

theorem join_map_ofList (pieces : List (List Char)) :
    String.join ((pieces.map String.ofList).map fun s => "/" ++ s) =
      String.ofList (pieces.flatMap ('/' :: ·)) := by
  rw [← String.toList_inj, String.toList_join]
  simp [List.flatMap_map]

/-- The URL of a repository's listing at a registry. -/
def listingUrl (m : Mount) (base : Url) (n : RepositoryName) : Url :=
  { base with path := .segments ((m.directories ++ listingPieces n).map String.ofList) }

variable {m : Mount} {base : Url}

theorem endpoint_listingPath (hbase : parse m.text = .ok base) (n : RepositoryName) :
    endpoint ⟨m.text⟩ (listingPath n.text) = .ok (listingUrl m base n) ∧
      (listingUrl m base n).query = none ∧ (listingUrl m base n).fragment = none := by
  obtain ⟨hparse, hquery, hfragment⟩ := Mount.parse_below hbase (List.cons_ne_nil _ _)
    fun s => isPlain_of_mem_listingPieces (n := n) (s := s)
  rw [← listingPieces, ← listingPath_eq_ofList] at hparse
  exact ⟨readUrl_eq_ok_iff.2 hparse, hquery, hfragment⟩

theorem pathText_listingUrl (m : Mount) (base : Url) (n : RepositoryName) :
    (listingUrl m base n).pathText =
      String.ofList m.path ++ "/v2/" ++ n.text ++ "/tags/list" := by
  have hlisting := listingPath_eq_ofList n
  rw [listingUrl, pathText]
  dsimp only
  rw [join_map_ofList, List.flatMap_append, String.ofList_append, ← hlisting, listingPath,
    ← Mount.path, ← String.append_assoc, ← String.append_assoc]

/-- Different names are listed at different URLs. -/
theorem listingUrl_inj (hbase : parse m.text = .ok base) {n n' : RepositoryName}
    (h : (listingUrl m base n).text = (listingUrl m base n').text) : n = n' := by
  obtain ⟨host, hhost⟩ := Mount.exists_host hbase
  have htext : ∀ n, (listingUrl m base n).text = base.scheme ++ ":" ++
      ("//" ++ base.userText ++ host.text ++ base.portText) ++ (listingUrl m base n).pathText ++
      markedText "?" base.query ++ markedText "#" base.fragment := fun n => by
    have hauthority : (listingUrl m base n).authorityText =
        "//" ++ base.userText ++ host.text ++ base.portText := by
      rw [authorityText, listingUrl, hhost]
      rfl
    rw [Url.text, hauthority]
    rfl
  rw [htext, htext, String.append_left_inj, String.append_left_inj, String.append_right_inj,
    pathText_listingUrl, pathText_listingUrl, String.append_left_inj, String.append_right_inj] at h
  exact RepositoryName.text_injective h

theorem readName_of_yields_resolve {c : Connection} {repository : String} {handle : Repository}
    {log : Trace} (h : (Repository.resolve c repository).Yields log (.ok handle)) :
    Repository.readName (c.qualify repository) = .ok handle.name := by
  obtain ⟨name, _, _, -, hname, h⟩ := Session.yields_bind_ok.1 h
  obtain ⟨_, _, _, -, -, h⟩ := Session.yields_bind_ok.1 h
  obtain ⟨_, _, _, -, -, h⟩ := Session.yields_bind_ok.1 h
  obtain ⟨_, _, _, -, -, h⟩ := Session.yields_bind_ok.1 h
  obtain ⟨-, ⟨⟩⟩ := Session.yields_done_iff.1 h
  exact (Session.yields_ofExcept_ok_iff.1 hname).2

/-- **A repository is listed below its own name.** At a registry that is mounted below directories,
the first page of every name has the path of the directories, `/v2/`, the name and `/tags/list`, as
they are written, and no query or fragment. Different names have different pages, and a handle of a
connection with a namespace lists below that. -/
theorem listing_below_mount {c : Connection} (hc : c.baseUrl = m.text)
    (hbase : parse m.text = .ok base) :
    ∃ client, ofUrl c.registryUrl = .ok client ∧
      (∀ n : RepositoryName, ∃ u, client.endpoint (listingPath n.text) = .ok u ∧
        u.pathText = String.ofList m.path ++ "/v2/" ++ n.text ++ "/tags/list" ∧
        u.query = none ∧ u.fragment = none ∧
        ∀ a limit, client.listTags a limit n.text = client.listFrom a limit [] u) ∧
      (∀ (n n' : RepositoryName) u u', client.endpoint (listingPath n.text) = .ok u →
        client.endpoint (listingPath n'.text) = .ok u' → u.text = u'.text → n = n') ∧
      ∀ nameSpace repository log handle, c.nameSpace = some nameSpace → nameSpace ≠ "" →
        (Repository.resolve c repository).Yields log (.ok handle) →
        ∃ u, u.pathText = String.ofList m.path ++ "/v2/" ++ nameSpace ++ "/" ++
            (repository ++ "/tags/list") ∧
          ∀ limit, handle.listTags limit = handle.client.listFrom handle.authorizer limit [] u := by
  have hclient : ofUrl c.registryUrl = .ok ⟨m.text⟩ := by
    rw [Connection.registryUrl, hc, Mount.normalizedUrl_text, Mount.ofUrl_text]
  have hlists : ∀ (n : RepositoryName) a limit, listTags ⟨m.text⟩ a limit n.text =
      listFrom ⟨m.text⟩ a limit [] (listingUrl m base n) := fun n a limit => by
    rw [listTags, (endpoint_listingPath hbase n).1]
    rfl
  refine ⟨⟨m.text⟩, hclient, fun n => ?_, fun n n' u u' hu hu' htext => ?_, ?_⟩
  · obtain ⟨hendpoint, hquery, hfragment⟩ := endpoint_listingPath hbase n
    exact ⟨_, hendpoint, pathText_listingUrl m base n, hquery, hfragment, hlists n⟩
  · rw [(endpoint_listingPath hbase n).1] at hu
    rw [(endpoint_listingPath hbase n').1] at hu'
    cases hu
    cases hu'
    exact listingUrl_inj hbase htext
  · intro nameSpace repository log handle hspace hne h
    have hhandle : handle.client = ⟨m.text⟩ :=
      Except.ok.inj ((client_of_yields_resolve h).1.symm.trans hclient)
    have hname : handle.name.text = nameSpace ++ "/" ++ repository := by
      rw [RepositoryName.text_of_readName (readName_of_yields_resolve h), Connection.qualify,
        hspace]
      exact if_neg hne
    refine ⟨listingUrl m base handle.name, ?_, fun limit => ?_⟩
    · rw [pathText_listingUrl, hname]
      simp [String.append_assoc]
    · rw [Repository.listTags, hhandle, hlists]

/-- A registry on a port, below a directory. -/
def hubMount : Mount where
  scheme := "http"
  authority := "Reg.test:5000".toList
  directories := ["hub_1".toList]
  scheme_web := .inl rfl
  authority_ne := by decide
  authority_chars := by decide
  directories_ne := by decide
  directories_chars := by decide

/-- The URL of that registry. -/
def hubUrl : Url :=
  ⟨"http", "", "", some (.domain "reg.test"), some 5000, .segments ["hub_1"], none, none⟩

/-- A name of three components, the first of which is a host. -/
def hubName : RepositoryName := ⟨"localhost:80/team/svc.v2", by decide⟩

theorem listing_below_hubMount :
    (Connection.anonymous "http://Reg.test:5000/hub_1").baseUrl = hubMount.text ∧
      parse hubMount.text = .ok hubUrl ∧ ∃ (client : Client) (u : Url),
        client.endpoint (listingPath hubName.text) = .ok u ∧
        u.pathText = "/hub_1/v2/localhost:80/team/svc.v2/tags/list" ∧ u.query = none := by
  have hc : (Connection.anonymous "http://Reg.test:5000/hub_1").baseUrl = hubMount.text := by decide
  have hbase : parse hubMount.text = .ok hubUrl := by decide +kernel
  obtain ⟨client, -, hlists, -⟩ := listing_below_mount hc hbase
  obtain ⟨u, hu, hpath, hquery, -⟩ := hlists hubName
  exact ⟨hc, hbase, client, u, hu, hpath, hquery⟩

end Client

end TagCatalog
