import TagCatalog.Proofs.Text.Blank
import TagCatalog.Proofs.Url.Host

/-!
# Where a URL's text can change its origin

The origin of a URL of the web is decided by its scheme and its authority. A path that is put behind
the text of a URL leaves both alone, and so does a reference without a scheme or two slashes in
front.

* `Url.authorityOf`, `Url.hostPort`, `Url.Names`: an authority and the host and port it names;
* `Url.withAuthority_eq_ok`: what a URL takes from its authority;
* **`Url.origin_parse_append`**: a path behind the text of a URL;
* `Url.join_eq_parse`: a reference that is read alike wherever it is found;
* `Url.IsLocal`, **`Url.origin_join`**: a reference that stays at the origin it is found at.
-/

namespace TagCatalog.Url

theorem exists_of_bind {ε α β : Type} {x : Except ε α} {f : α → Except ε β} {b : β}
    (h : (x >>= f) = .ok b) : ∃ a, x = .ok a ∧ f a = .ok b := by
  cases x with
  | error e => nomatch h
  | ok a => exact ⟨a, rfl, h⟩

theorem of_guard {ε α : Type} {p : Prop} [Decidable p] {e : ε} {f : PUnit → Except ε α}
    {x : Except ε α} {a : α} (h : (if p then (throw e : Except ε PUnit) >>= f else x) = .ok a) :
    x = .ok a := by
  split at h
  · nomatch h
  · exact h

variable {scheme : String} {s t z rest : List Char} {u : Url}

/-! ## Authorities -/

/-- The authority at the start of a text. -/
def authorityOf (s : List Char) : List Char := s.takeWhile (!endsAuthority true ·)

/-- The part of an authority behind the user. -/
def hostPort (authority : List Char) : List Char :=
  match Text.splitLast? '@' authority with
  | some (_, hostPort) => hostPort
  | none => authority

theorem hostPort_eq (authority : List Char) :
    hostPort authority = (match Text.splitLast? '@' authority with
      | some (user, hostPort) => (some user, hostPort)
      | none => (none, authority)).2 := by
  rw [hostPort]
  cases Text.splitLast? '@' authority <;> rfl

/-- A text names a host and a port of a scheme. -/
structure Names (scheme : String) (s : List Char) (host : Host) (port : Option Nat) : Prop where
  host : parseHost (s.take (hostLength false s)) = .ok host
  port : parsePort scheme ((s.drop (hostLength false s)).drop 1) = .ok port

theorem authorityOf_append_of_mem {c : Char} (hc : endsAuthority true c) (hs : c ∈ s)
    (t : List Char) : authorityOf (s ++ t) = authorityOf s := by
  refine Text.takeWhile_append_of_dropWhile (fun h => ?_) t
  have hall := List.dropWhile_eq_nil_iff.1 h c hs
  rw [hc] at hall
  nomatch hall

theorem authorityOf_append (h : ∀ c ∈ s, endsAuthority true c = false) (t : List Char) :
    authorityOf (s ++ t) = s ++ authorityOf t :=
  List.takeWhile_append_of_pos fun c hc => by rw [h c hc]; rfl

theorem hostPort_append (hz : '@' ∉ z) (s : List Char) :
    hostPort (s ++ z) = hostPort s ++ z := by
  rw [hostPort, Text.splitLast?_append hz, hostPort]
  cases Text.splitLast? '@' s <;> rfl

/-- A URL of a special scheme takes host and port from its authority. -/
theorem withAuthority_eq_ok (h : withAuthority scheme s = .ok u) :
    u.scheme = scheme ∧ (isSpecialScheme scheme →
      ∃ host, u.host = some host ∧ Names scheme (hostPort (authorityOf s)) host u.port) := by
  have hhp := hostPort_eq (authorityOf s)
  rw [withAuthority] at h
  cases hs : isSpecialScheme scheme with
  | false =>
    simp only [hs, Bool.false_eq_true, if_false] at h
    obtain ⟨host, -, h⟩ := exists_of_bind (of_guard h)
    obtain ⟨port, -, h⟩ := exists_of_bind h
    cases h
    exact ⟨rfl, nofun⟩
  | true =>
    simp only [hs, if_true] at h
    obtain ⟨host, hhost, h⟩ := exists_of_bind (of_guard h)
    obtain ⟨port, hport, h⟩ := exists_of_bind h
    cases h
    exact ⟨rfl, fun _ => ⟨host, rfl, by rw [hhp]; exact hhost, by rw [hhp]; exact hport⟩⟩

theorem origin_eq_of_authorityOf {base : Url} (hs : isSpecialScheme scheme)
    (hbase : withAuthority scheme s = .ok base) (hu : withAuthority scheme t = .ok u)
    (h : authorityOf t = authorityOf s) : u.origin = base.origin := by
  obtain ⟨hscheme, hnames⟩ := withAuthority_eq_ok hbase
  obtain ⟨hscheme', hnames'⟩ := withAuthority_eq_ok hu
  obtain ⟨host, hhost, hread⟩ := hnames hs
  obtain ⟨host', hhost', hread'⟩ := hnames' hs
  rw [h] at hread'
  have hhosts : host' = host := Except.ok.inj (hread'.host.symm.trans hread.host)
  have hports : u.port = base.port := Except.ok.inj (hread'.port.symm.trans hread.port)
  rw [origin, origin, effectivePort, effectivePort, hscheme, hscheme', hhost, hhost', hhosts,
    hports]

/-! ## Hosts and ports that nothing can be put behind -/

theorem isVoid_of_isEdge {c : Char} (hc : isEdge c) : isVoid c := by
  rw [isVoid, hc]
  rfl

theorem ne_of_isVoid {c d : Char} (hc : isVoid c) (hd : isVoid d = false) : c ≠ d := by
  rintro rfl
  rw [hc] at hd
  nomatch hd

theorem hostLength_append (hz : ':' ∉ z) (inBrackets : Bool) (s : List Char) :
    hostLength inBrackets s < s.length ∧ hostLength inBrackets (s ++ z) = hostLength inBrackets s ∨
      hostLength inBrackets s = s.length ∧
        hostLength inBrackets (s ++ z) = s.length + z.length := by
  have hwhole : ∀ inBrackets, hostLength inBrackets z = z.length := by
    intro inBrackets
    induction z generalizing inBrackets with
    | nil => rfl
    | cons c z ih =>
      rw [List.mem_cons, not_or] at hz
      have hc : (c == ':') = false := by simpa using Ne.symm hz.1
      rw [hostLength, hc, ih hz.2, List.length_cons, Nat.add_comm]
      rfl
  induction s generalizing inBrackets with
  | nil => exact .inr ⟨rfl, by simpa using hwhole inBrackets⟩
  | cons c s ih =>
    rw [List.cons_append, hostLength, hostLength, List.length_cons]
    split
    · exact .inl ⟨Nat.succ_pos _, rfl⟩
    · obtain ⟨hlt, hstop⟩ | ⟨hend, hgo⟩ :=
        ih (if c == '[' then true else if c == ']' then false else inBrackets)
      · exact .inl ⟨by omega, by rw [hstop]⟩
      · exact .inr ⟨by omega, by omega⟩

theorem parsePort_ne_ok {c : Char} (hc : isVoid c) (h : s.getLast? = some c) (port : Option Nat) :
    parsePort scheme s ≠ .ok port := by
  have hdigit : ¬ c.isDigit := forall_isVoid (P := fun c => ¬ c.isDigit) (by decide) (by decide) hc
  have hall : ¬ s.all Char.isDigit := fun hall =>
    hdigit (List.all_eq_true.1 hall c (List.mem_of_getLast? h))
  rw [parsePort, if_neg fun hport => hall hport.1]
  nofun

theorem not_names_append (hne : z ≠ []) (hz : ∀ c ∈ z, isVoid c) {host : Host} {port : Option Nat} :
    ¬ Names scheme (s ++ z) host port := by
  intro h
  obtain ⟨z, c, rfl⟩ := z.eq_nil_or_concat'.resolve_left hne
  have hc : isVoid c := hz c (by simp)
  have hcolon : ':' ∉ z ++ [c] := fun hm => ne_of_isVoid (hz _ hm) (by decide) rfl
  -- behind a colon the character ends the port, which must be digits; else it ends the host
  obtain ⟨hlt, hlen⟩ | ⟨-, hlen⟩ := hostLength_append hcolon false s
  · refine parsePort_ne_ok hc ?_ port h.port
    rw [hlen, List.drop_drop, List.drop_append_of_le_length hlt, ← List.append_assoc,
      List.getLast?_concat]
  · refine parseHost_ne_ok hc ?_ host h.host
    rw [hlen, ← List.length_append, List.take_length, ← List.append_assoc, List.getLast?_concat]

theorem origin_withAuthority_append {base : Url} {path : List Char} (hs : isSpecialScheme scheme)
    (hz : ∀ c ∈ z, isEdge c) (hbase : withAuthority scheme s = .ok base)
    (hu : withAuthority scheme (s ++ (z ++ '/' :: path)) = .ok u) : u.origin = base.origin := by
  -- either the authority ends in `s` already, or it goes on through `z` up to the path
  by_cases hend : ∃ c ∈ s, endsAuthority true c
  · obtain ⟨c, hc, hends⟩ := hend
    exact origin_eq_of_authorityOf hs hbase hu (authorityOf_append_of_mem hends hc _)
  · have hwhole : ∀ c ∈ s, endsAuthority true c = false := fun c hc =>
      Bool.eq_false_iff.2 fun h => hend ⟨c, hc, h⟩
    have hgoes : ∀ c ∈ z, endsAuthority true c = false := fun c hc =>
      forall_isEdge (P := fun c => endsAuthority true c = false) (by decide) (hz c hc)
    have hbefore : authorityOf s = s := by
      have h := authorityOf_append hwhole []
      rwa [List.append_nil, show authorityOf [] = [] from rfl, List.append_nil] at h
    have hafter : authorityOf (s ++ (z ++ '/' :: path)) = s ++ z := by
      rw [authorityOf_append hwhole, authorityOf_append hgoes]
      exact congrArg (s ++ ·) (List.append_nil z)
    by_cases hnil : z = []
    · refine origin_eq_of_authorityOf hs hbase hu ?_
      rw [hafter, hbefore, hnil, List.append_nil]
    · obtain ⟨host, -, hnames⟩ := (withAuthority_eq_ok hu).2 hs
      have hvoid : ∀ c ∈ z, isVoid c := fun c hc => isVoid_of_isEdge (hz c hc)
      have hat : '@' ∉ z := fun hm => ne_of_isVoid (hvoid _ hm) (by decide) rfl
      rw [hafter, hostPort_append hat] at hnames
      exact (not_names_append hnil hvoid hnames).elim

/-! ## Texts of URLs -/

theorem splitScheme?_eq_some_iff : splitScheme? s = some (scheme, rest) ↔
    ∃ name, s = name ++ ':' :: rest ∧ (∃ c ∈ name.head?, c.isAlpha) ∧
      (∀ c ∈ name, isSchemeChar c) ∧ scheme = String.ofList (name.map Char.toLower) := by
  constructor
  · intro h
    cases s with
    | nil => nomatch h
    | cons c s =>
      rw [splitScheme?] at h
      split_ifs at h with halpha
      split at h
      · next rest' hdrop =>
        cases h
        have hfirst : isSchemeChar c := by simp [isSchemeChar, Char.isAlphanum, halpha]
        refine ⟨(c :: s).takeWhile isSchemeChar, ?_, ⟨c, ?_, halpha⟩, fun d hd => ?_, rfl⟩
        · rw [← hdrop, List.takeWhile_append_dropWhile]
        · rw [List.takeWhile_cons_of_pos hfirst]
          rfl
        · exact List.mem_takeWhile_imp hd
      · nomatch h
  · rintro ⟨name, rfl, ⟨c, hc, halpha⟩, hall, rfl⟩
    cases name with
    | nil => nomatch hc
    | cons d name =>
      cases hc
      have hcolon : ¬ isSchemeChar ':' := by decide
      rw [List.cons_append, splitScheme?, ← List.cons_append, if_pos halpha,
        List.takeWhile_append_of_pos hall, List.dropWhile_append_of_pos hall,
        List.takeWhile_cons_of_neg hcolon, List.dropWhile_cons_of_neg hcolon, List.append_nil]
      rfl

theorem splitScheme?_append (h : splitScheme? s = some (scheme, rest)) (t : List Char) :
    splitScheme? (s ++ t) = some (scheme, rest ++ t) := by
  obtain ⟨name, rfl, hname⟩ := splitScheme?_eq_some_iff.1 h
  exact splitScheme?_eq_some_iff.2 ⟨name, List.append_assoc .., hname⟩

/-- A character that is kept inside a URL's text. -/
def isKept (c : Char) : Bool := !(c == '\t' || c == '\n' || c == '\r')

theorem cleaned_eq (s : List Char) :
    cleaned s = (Text.dropEnd isEdge (s.dropWhile isEdge)).filter isKept := rfl

/-- What is kept of a path that is put behind a text. -/
def kept (path : List Char) : List Char := (Text.dropEnd isEdge path).filter isKept

theorem exists_cleaned_append (hne : cleaned s ≠ []) :
    ∃ z, (∀ c ∈ z, isEdge c) ∧ ∀ path,
      cleaned (s ++ '/' :: path) = cleaned s ++ (z ++ '/' :: kept path) := by
  have hstart : s.dropWhile isEdge ≠ [] := fun h => hne (by rw [cleaned_eq, h]; rfl)
  have hslash : isEdge '/' = false := by decide
  obtain ⟨z, hz, hsplit⟩ := Text.exists_eq_dropEnd_append isEdge (s.dropWhile isEdge)
  refine ⟨z.filter isKept, fun c hc => hz c (List.mem_of_mem_filter hc), fun path => ?_⟩
  have hpath : ¬ ('/' :: path).all isEdge := by
    rw [List.all_cons, hslash]
    nofun
  have hcleaned : cleaned (s ++ '/' :: path) =
      (s.dropWhile isEdge ++ '/' :: Text.dropEnd isEdge path).filter isKept := by
    rw [cleaned_eq, Text.dropWhile_append_of_dropWhile hstart, Text.dropEnd_append, if_neg hpath,
      Text.dropEnd_cons_of_neg hslash]
  rw [hcleaned, List.filter_append, hsplit, List.filter_append, List.append_assoc, ← cleaned_eq]
  rfl

theorem fileUrl_scheme (h : fileUrl none s = .ok u) : u.scheme = "file" := by
  unfold fileUrl at h
  split at h
  · split_ifs at h
    · dsimp only at h
      split_ifs at h
      · cases h
        rfl
      · cases h
        rfl
      · obtain ⟨host, -, h⟩ := exists_of_bind h
        cases h
        rfl
    · cases h
      rfl
    · cases h
      rfl
  · cases h
    rfl

theorem withoutRules_scheme (h : withoutRules scheme s = .ok u) : u.scheme = scheme := by
  unfold withoutRules at h
  split at h
  · exact (withAuthority_eq_ok h).1
  · cases h
    rfl

theorem exists_splitScheme?_of_parse {text : String} (h : parse text = .ok u) :
    ∃ rest, splitScheme? (cleaned text.toList) = some (u.scheme, rest) := by
  rw [parse, resolve] at h
  cases hs : splitScheme? (cleaned text.toList) with
  | none =>
    simp only [hs] at h
    nomatch h
  | some split =>
    obtain ⟨scheme, rest⟩ := split
    have hscheme : u.scheme = scheme := by
      simp only [hs, Option.filter_none] at h
      split_ifs at h with hfile hspecial
      · rw [fileUrl_scheme h, hfile]
      · exact (withAuthority_eq_ok h).1
      · exact withoutRules_scheme h
    exact ⟨rest, by rw [hscheme]⟩

theorem isSpecialScheme_of_isHttp (h : u.isHttp) :
    u.scheme ≠ "file" ∧ isSpecialScheme u.scheme := by
  rw [isHttp, Bool.or_eq_true, beq_iff_eq, beq_iff_eq] at h
  obtain h | h := h <;> rw [h] <;> decide

theorem parse_eq_withAuthority {text : String} (hfile : scheme ≠ "file")
    (hs : isSpecialScheme scheme) (h : splitScheme? (cleaned text.toList) = some (scheme, rest)) :
    parse text = withAuthority scheme (rest.dropWhile (isSlash true)) := by
  rw [parse, resolve]
  simp only [h, hfile, if_false, hs, if_true]
  rfl

/-- A reference with a scheme and two slashes is read alike wherever it is found. -/
theorem join_eq_parse {reference : String} (hfile : scheme ≠ "file") (hs : isSpecialScheme scheme)
    (h : splitScheme? (cleaned reference.toList) = some (scheme, '/' :: '/' :: rest)) (base : Url) :
    base.join reference = parse reference := by
  rw [parse_eq_withAuthority hfile hs h, join, resolve]
  simp only [h, hfile, if_false, hs, if_true]
  cases (some base).filter (·.scheme == scheme) <;> rfl

theorem withAuthority_nil (hs : isSpecialScheme scheme) :
    withAuthority scheme [] = .error .emptyHost := by
  simp only [withAuthority, hs, true_or]
  rfl

theorem exists_splitScheme?_append {text : String} {base : Url} (hbase : parse text = .ok base) :
    ∃ rest z, splitScheme? (cleaned text.toList) = some (base.scheme, rest) ∧
      (∀ c ∈ z, isEdge c) ∧ ∀ path : String,
        splitScheme? (cleaned (text ++ ("/" ++ path)).toList) =
          some (base.scheme, rest ++ (z ++ '/' :: kept path.toList)) := by
  obtain ⟨rest, hrest⟩ := exists_splitScheme?_of_parse hbase
  have hne : cleaned text.toList ≠ [] := fun h => by
    rw [h] at hrest
    nomatch hrest
  obtain ⟨z, hz, happend⟩ := exists_cleaned_append hne
  refine ⟨rest, z, hrest, hz, fun path => ?_⟩
  rw [show (text ++ ("/" ++ path)).toList = text.toList ++ '/' :: path.toList by simp, happend]
  exact splitScheme?_append hrest _

/-- **A path behind the text of a URL** leaves its origin alone. -/
theorem origin_parse_append {text path : String} {base : Url} (hbase : parse text = .ok base)
    (hu : parse (text ++ ("/" ++ path)) = .ok u) (hhttp : u.isHttp) : u.origin = base.origin := by
  obtain ⟨rest, z, hrest, hz, happend⟩ := exists_splitScheme?_append hbase
  have hpath := happend path
  obtain ⟨rest', hrest'⟩ := exists_splitScheme?_of_parse hu
  obtain ⟨hfile, hspecial⟩ := isSpecialScheme_of_isHttp hhttp
  have hscheme : u.scheme = base.scheme := by
    rw [hrest'] at hpath
    exact congrArg Prod.fst (Option.some.inj hpath)
  rw [hscheme] at hfile hspecial
  rw [parse_eq_withAuthority hfile hspecial hrest] at hbase
  rw [parse_eq_withAuthority hfile hspecial hpath] at hu
  have hslashes : rest.dropWhile (isSlash true) ≠ [] := fun h => by
    rw [h, withAuthority_nil hspecial] at hbase
    nomatch hbase
  rw [Text.dropWhile_append_of_dropWhile hslashes] at hu
  exact origin_withAuthority_append hspecial hz hbase hu

/-! ## References -/

/-- A text that does not begin with two slashes. -/
def NoAuthority (s : List Char) : Prop :=
  ∀ c d t, s = c :: d :: t → ¬ (isSlash true c ∧ isSlash true d)

/-- A reference without a scheme, and without two slashes in front. -/
def IsLocal (reference : String) : Prop :=
  splitScheme? (cleaned reference.toList) = none ∧ NoAuthority (cleaned reference.toList)

theorem origin_relativeTo {base : Url} {segments : List String} (hs : isSpecialScheme base.scheme)
    (hlocal : NoAuthority s) (h : relativeTo base segments s = .ok u) : u.origin = base.origin := by
  unfold relativeTo at h
  split at h
  · cases h
    rfl
  · cases h
    rfl
  · cases h
    rfl
  · exact (hlocal _ _ _ rfl ⟨rfl, rfl⟩).elim
  · next c t _ _ _ =>
    rw [hs] at h
    dsimp only at h
    split_ifs at h with hc hd
    · cases t with
      | nil => nomatch hd
      | cons d t => exact (hlocal _ _ _ rfl ⟨hc, hd⟩).elim
    · cases h
      rfl
    · cases h
      rfl

/-- **A local reference** stays at the origin of the URL it is relative to. -/
theorem origin_join {base : Url} {reference : String} (hbase : base.isHttp)
    (hlocal : IsLocal reference) (h : base.join reference = .ok u) : u.origin = base.origin := by
  obtain ⟨hfile, hspecial⟩ := isSpecialScheme_of_isHttp hbase
  rw [join, resolve] at h
  simp only [hlocal.1, hfile, if_false] at h
  unfold resolve.relative at h
  split at h
  · exact origin_relativeTo hspecial hlocal.2 h
  · split at h
    · cases h
      rfl
    · nomatch h

end TagCatalog.Url
