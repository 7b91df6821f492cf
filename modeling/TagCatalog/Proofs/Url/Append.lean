import TagCatalog.Proofs.Url.Origin

/-!
# What may be put behind a URL's text, and what may be cut off

Whether a text is a URL of the web is decided where its authority ends. Behind that point any path
may stand. Blanks and slashes at the end may be cut off again: none of them belongs to a host or a
port that can be read.

* `Url.exists_withAuthority_iff`: the authority decides;
* **`Url.exists_parse_append`**: if one path may stand behind a text, every path may;
* `Url.isFiller`, **`Url.exists_parse_of_append`**: blanks and slashes at the end of a text.
-/

namespace TagCatalog.Url

variable {scheme : String} {s t z rest : List Char} {u : Url}

/-! ## The authority decides -/

theorem bind_of_ok {ε α β : Type} {x : Except ε α} {f : α → Except ε β} {a : α} (hx : x = .ok a)
    (hf : ∃ b, f a = .ok b) : ∃ b, (x >>= f) = .ok b := by
  rw [hx]
  exact hf

theorem parseHost_nil : parseHost [] = .error .emptyHost := rfl

/-- A text of a special scheme is read if its authority names a host and a port. -/
theorem exists_withAuthority_iff (hs : isSpecialScheme scheme) :
    (∃ u, withAuthority scheme s = .ok u) ↔
      ∃ host port, Names scheme (hostPort (authorityOf s)) host port := by
  constructor
  · rintro ⟨u, hu⟩
    obtain ⟨host, -, hnames⟩ := (withAuthority_eq_ok hu).2 hs
    exact ⟨host, u.port, hnames⟩
  · rintro ⟨host, port, hhost, hport⟩
    have hne : (hostPort (authorityOf s)).take
        (hostLength false (hostPort (authorityOf s))) ≠ [] := by
      intro hnil
      rw [hnil, parseHost_nil] at hhost
      nomatch hhost
    rw [hostPort_eq, authorityOf] at hhost hport hne
    rw [withAuthority]
    simp only [hs, if_true]
    rw [if_neg fun h => hne h.1]
    exact bind_of_ok hhost (bind_of_ok hport ⟨_, rfl⟩)

theorem exists_withAuthority_congr (hs : isSpecialScheme scheme)
    (h : authorityOf t = authorityOf s) (hu : withAuthority scheme s = .ok u) :
    ∃ u', withAuthority scheme t = .ok u' := by
  rw [exists_withAuthority_iff hs, h, ← exists_withAuthority_iff hs]
  exact ⟨u, hu⟩

/-- **If one path may stand behind the text of a URL, every path may.** -/
theorem exists_parse_append {text p : String} {base : Url} (hbase : parse text = .ok base)
    (hhttp : base.isHttp) (hu : parse (text ++ ("/" ++ p)) = .ok u) (q : String) :
    ∃ u', parse (text ++ ("/" ++ q)) = .ok u' := by
  obtain ⟨rest, z, hrest, -, happend⟩ := exists_splitScheme?_append hbase
  have hp := happend p
  have hq := happend q
  obtain ⟨hfile, hspecial⟩ := isSpecialScheme_of_isHttp hhttp
  rw [parse_eq_withAuthority hfile hspecial hrest] at hbase
  rw [parse_eq_withAuthority hfile hspecial hp] at hu
  rw [parse_eq_withAuthority hfile hspecial hq]
  have hslashes : rest.dropWhile (isSlash true) ≠ [] := fun h => by
    rw [h, withAuthority_nil hspecial] at hbase
    nomatch hbase
  rw [Text.dropWhile_append_of_dropWhile hslashes] at hu ⊢
  -- the slash ends the authority, whatever comes behind it
  have hslash : ∀ path, authorityOf (rest.dropWhile (isSlash true) ++ (z ++ '/' :: path)) =
      authorityOf (rest.dropWhile (isSlash true) ++ z ++ ['/']) := by
    intro path
    have hsplit : rest.dropWhile (isSlash true) ++ (z ++ '/' :: path) =
        rest.dropWhile (isSlash true) ++ z ++ ['/'] ++ path := by simp
    rw [hsplit]
    exact authorityOf_append_of_mem (c := '/') (by decide) (by simp) path
  exact exists_withAuthority_congr hspecial ((hslash _).trans (hslash _).symm) hu

/-! ## Blanks and slashes at the end -/

/-- A control character, a blank or a slash. -/
def isFiller (c : Char) : Bool := isVoid c || c == '/'

theorem forall_isFiller {P : Char → Prop} (h : ∀ n < 0x21, P (Char.ofNat n))
    (hwide : ∀ n ∈ wideBlanks, P (Char.ofNat n)) (hslash : P '/') {c : Char} (hc : isFiller c) :
    P c := by
  rw [isFiller, Bool.or_eq_true, beq_iff_eq] at hc
  rcases hc with hc | rfl
  · exact forall_isVoid h hwide hc
  · exact hslash

theorem mem_of_mem_cleaned {c : Char} (h : c ∈ cleaned s) : c ∈ s := by
  have hmem := List.mem_of_mem_filter h
  rw [List.mem_reverse] at hmem
  have hrest := List.mem_reverse.1 ((List.dropWhile_sublist _).mem hmem)
  exact (List.dropWhile_sublist _).mem hrest

theorem exists_cleaned_append_fillers (hz : ∀ c ∈ z, isFiller c) (s : List Char) :
    ∃ z', (∀ c ∈ z', isFiller c) ∧ cleaned (s ++ z) = cleaned s ++ z' := by
  by_cases hstart : s.dropWhile isEdge = []
  · refine ⟨cleaned z, fun c hc => hz c (mem_of_mem_cleaned hc), ?_⟩
    have hall : ∀ c ∈ s, isEdge c := List.dropWhile_eq_nil_iff.1 hstart
    rw [cleaned_eq, cleaned_eq, cleaned_eq, List.dropWhile_append_of_pos hall, hstart]
    rfl
  · obtain ⟨y, hy, hsplit⟩ := Text.exists_eq_dropEnd_append isEdge (s.dropWhile isEdge)
    obtain ⟨x, -, hdrop⟩ := Text.exists_eq_dropEnd_append isEdge z
    rw [cleaned_eq, cleaned_eq, Text.dropWhile_append_of_dropWhile hstart, Text.dropEnd_append]
    by_cases hall : z.all isEdge
    · exact ⟨[], List.forall_mem_nil _, by rw [if_pos hall, List.append_nil]⟩
    · refine ⟨(y ++ Text.dropEnd isEdge z).filter isKept, fun c hc => ?_, ?_⟩
      · obtain hc | hc := List.mem_append.1 (List.mem_of_mem_filter hc)
        · rw [isFiller, isVoid_of_isEdge (hy c hc)]
          rfl
        · refine hz c ?_
          rw [hdrop]
          exact List.mem_append_left x hc
      · rw [if_neg hall]
        nth_rewrite 1 [hsplit]
        rw [List.append_assoc, List.filter_append]

theorem exists_splitScheme?_of_append (hz : ∀ c ∈ z, isFiller c)
    (h : splitScheme? (s ++ z) = some (scheme, rest)) :
    ∃ rest', splitScheme? s = some (scheme, rest') ∧ rest = rest' ++ z := by
  have hcolon : ':' ∉ z := fun hm =>
    forall_isFiller (P := (· ≠ ':')) (by decide) (by decide) (by decide) (hz ':' hm) rfl
  obtain ⟨name, hsplit, hname⟩ := splitScheme?_eq_some_iff.1 h
  obtain ⟨t, -, rfl⟩ | ⟨t, rfl, ht⟩ := List.append_eq_append_iff.1 hsplit
  · exact absurd (List.mem_append_right t List.mem_cons_self) hcolon
  · cases t with
    | nil =>
      rw [List.nil_append] at ht
      exact absurd (ht ▸ List.mem_cons_self) hcolon
    | cons d t =>
      obtain ⟨rfl, rfl⟩ := List.cons_eq_cons.1 ht
      exact ⟨t, splitScheme?_eq_some_iff.2 ⟨name, rfl, hname⟩, rfl⟩

theorem authorityOf_append_fillers (hs : isSpecialScheme scheme) (hz : ∀ c ∈ z, isFiller c)
    (h : withAuthority scheme (s ++ z) = .ok u) : authorityOf (s ++ z) = authorityOf s := by
  by_cases hend : ∃ c ∈ s, endsAuthority true c
  · obtain ⟨c, hc, hends⟩ := hend
    exact authorityOf_append_of_mem hends hc z
  · have hwhole : ∀ c ∈ s, endsAuthority true c = false := fun c hc =>
      Bool.eq_false_iff.2 fun h => hend ⟨c, hc, h⟩
    have hvoid : ∀ c ∈ authorityOf z, isVoid c := by
      intro c hc
      have hslash : c ≠ '/' := by
        rintro rfl
        nomatch List.mem_takeWhile_imp hc
      have hfiller := hz c ((List.takeWhile_sublist _).mem hc)
      rw [isFiller, Bool.or_eq_true, beq_iff_eq] at hfiller
      exact hfiller.resolve_right hslash
    have hat : '@' ∉ authorityOf z := fun hm => ne_of_isVoid (hvoid _ hm) (by decide) rfl
    obtain ⟨host, -, hnames⟩ := (withAuthority_eq_ok h).2 hs
    rw [authorityOf_append hwhole, hostPort_append hat] at hnames
    have hnil : authorityOf z = [] := by
      by_contra hne
      exact not_names_append hne hvoid hnames
    have hbefore := authorityOf_append hwhole []
    rw [List.append_nil] at hbefore
    rw [authorityOf_append hwhole, hnil, hbefore]
    rfl

/-- **Blanks and slashes at the end of a URL's text may be cut off.** -/
theorem exists_parse_of_append {text fillers : String} (hz : ∀ c ∈ fillers.toList, isFiller c)
    (hu : parse (text ++ fillers) = .ok u) (hhttp : u.isHttp) :
    ∃ base, parse text = .ok base ∧ base.isHttp := by
  obtain ⟨rest, hrest⟩ := exists_splitScheme?_of_parse hu
  obtain ⟨hfile, hspecial⟩ := isSpecialScheme_of_isHttp hhttp
  rw [parse_eq_withAuthority hfile hspecial hrest] at hu
  rw [String.toList_append] at hrest
  obtain ⟨z, hz', hcleaned⟩ := exists_cleaned_append_fillers hz text.toList
  rw [hcleaned] at hrest
  obtain ⟨rest', hrest', rfl⟩ := exists_splitScheme?_of_append hz' hrest
  have hauthority : authorityOf ((rest' ++ z).dropWhile (isSlash true)) =
      authorityOf (rest'.dropWhile (isSlash true)) := by
    by_cases hslashes : rest'.dropWhile (isSlash true) = []
    · rw [List.dropWhile_append_of_pos (List.dropWhile_eq_nil_iff.1 hslashes)] at hu ⊢
      rw [hslashes]
      exact authorityOf_append_fillers (s := []) hspecial
        (fun c hc => hz' c ((List.dropWhile_sublist _).mem hc)) hu
    · rw [Text.dropWhile_append_of_dropWhile hslashes] at hu ⊢
      exact authorityOf_append_fillers hspecial hz' hu
  obtain ⟨base, hbase⟩ := exists_withAuthority_congr hspecial hauthority.symm hu
  rw [← parse_eq_withAuthority hfile hspecial hrest'] at hbase
  obtain ⟨_, hscheme⟩ := exists_splitScheme?_of_parse hbase
  rw [hrest', Option.some.injEq, Prod.mk.injEq] at hscheme
  refine ⟨base, hbase, ?_⟩
  rwa [isHttp, ← hscheme.1]

end TagCatalog.Url
